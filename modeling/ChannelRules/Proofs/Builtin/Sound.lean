import ChannelRules.Builtin.Table
import ChannelRules.Proofs.Builtin.Native
import ChannelRules.Proofs.Builtin.Overload
import ChannelRules.Proofs.Eval

/-!
# Builtins keep their signatures

Every signature of every builtin is kept: arguments of the types of its parameters give a value of
its result, or a failure that no type rules out.
-/

namespace ChannelRules

open Value (Inhabits Accepted)
open Calendar (Instant)

namespace Ty

def isAmount : Ty → Bool
  | number | measure _ => true
  | _ => false

end Ty

section Inversion

variable {vars : String → Value → Prop} {v : Value}

lemma inhabits_amount {ty : Ty} (hty : ty.isAmount = true) :
    v.Inhabits vars ty ↔ v.asNumber.isSome = true := by
  cases ty with
  | number => exact ⟨fun h => by cases h; assumption, .number⟩
  | measure unit => exact ⟨fun h => by cases h; assumption, .measure unit⟩
  | _ => cases hty

lemma inhabits_string : v.Inhabits vars .string ↔ v.asText.isSome = true :=
  ⟨fun h => by cases h; assumption, .string⟩

lemma inhabits_boolean : v.Inhabits vars .boolean ↔ ∃ b, v = .boolean b :=
  ⟨fun h => by cases h; exact ⟨_, rfl⟩, fun ⟨b, h⟩ => h ▸ .boolean b⟩

lemma inhabits_date : v.Inhabits vars .date ↔ ∃ t, v = .date t :=
  ⟨fun h => by cases h; exact ⟨_, rfl⟩, fun ⟨t, h⟩ => h ▸ .date t⟩

lemma inhabits_location : v.Inhabits vars .location ↔ ∃ x y d, v = .location x y d :=
  ⟨fun h => by cases h; exact ⟨_, _, _, rfl⟩, fun ⟨x, y, d, h⟩ => h ▸ .location x y d⟩

lemma inhabits_array {elem : Ty} : v.Inhabits vars (.array elem) ↔
    ∃ items, v = .array items ∧ ∀ item ∈ items, item.Inhabits vars elem :=
  ⟨fun h => by cases h with | array h => exact ⟨_, rfl, h⟩, fun ⟨_, h, hitems⟩ => h ▸ .array hitems⟩

lemma inhabits_map {key value : Ty} : v.Inhabits vars (.map key value) ↔
    ∃ entries, v = .object entries ∧ ∀ entry ∈ entries, entry.2.Inhabits vars value :=
  ⟨fun h => by cases h with | map _ h => exact ⟨_, rfl, h⟩,
    fun ⟨_, h, hentries⟩ => h ▸ .map key hentries⟩

end Inversion

section Arguments

variable {args : List Value} {i : Nat} {v : Value} (f : String)

lemma numberArgument_safe (hi : args[i]? = some v) (hv : v.asNumber.isSome = true) :
    ∃ x, v.asNumber = some x ∧ numberArgument args i f = .ok x := by
  obtain ⟨x, hx⟩ := Option.isSome_iff_exists.1 hv
  exact ⟨x, hx, numberArgument_eq_ok.2 ⟨v, hi, hx⟩⟩

lemma textArgument_safe (hi : args[i]? = some v) (hv : v.asText.isSome = true) :
    ∃ s, v.asText = some s ∧ textArgument args i f = .ok s := by
  obtain ⟨s, hs⟩ := Option.isSome_iff_exists.1 hv
  exact ⟨s, hs, textArgument_eq_ok.2 ⟨v, hi, hs⟩⟩

end Arguments

namespace Builtin

section Types

variable {p : Ty} {f : String}

lemma isFormal_of_isAmount (h : p.isAmount = true) : p.isFormal = true := by
  cases p with
  | number | measure _ => rfl
  | _ => cases h

lemma number_inhabits (vars : String → Value → Prop) (x : Float) (h : p.isAmount = true) :
    (Value.number x).Inhabits vars p :=
  (inhabits_amount h).2 rfl

lemma inhabits_of_accepted {vars : String → Value → Prop} {v : Value} (hp : p.isFormal = true)
    (h : v.Accepted vars p) : v.Inhabits vars p := by
  rcases h with rfl | h
  · cases hp
  · exact h

lemma formals?_signature {result : Ty} {native : Native} {params formals : List Ty} {count : Nat}
    (h : (signature params result native).formals? count = some formals) : formals = params := by
  unfold Overload.formals? signature at h
  simp only at h
  split at h
  · exact (Option.some.inj h).symm
  · cases h

lemma compare_amounts {a b : Value} {x y : Float} (ha : a.asNumber = some x)
    (hb : b.asNumber = some y) : a.compare b = Value.compareFloats x y := by
  cases a with
  | number | measure =>
    cases b with
    | number | measure =>
      cases ha
      cases hb
      rfl
    | _ => cases hb
  | _ => cases ha

lemma compare_texts {a b : Value} {s t : String} (ha : a.asText = some s)
    (hb : b.asText = some t) : a.compare b = some (Value.compareTexts s t) := by
  cases a with
  | string | entity | enum | feed =>
    cases b with
    | string | entity | enum | feed =>
      cases ha
      cases hb
      rfl
    | _ => cases hb
  | _ => cases ha

/-- Values of an ordered type are comparable, except for amounts of which one is a NaN. -/
lemma compare_of_ordered {vars : String → Value → Prop} {a b : Value}
    (hp : p ∈ [Ty.number, measure, Ty.string, Ty.date, Ty.time]) (ha : a.Inhabits vars p)
    (hb : b.Inhabits vars p) :
    (a.compare b).isSome = true ∨ ∃ x y, a.asNumber = some x ∧ b.asNumber = some y ∧
      a.compare b = Value.compareFloats x y := by
  have hamount : a.asNumber.isSome = true → b.asNumber.isSome = true →
      ∃ x y, a.asNumber = some x ∧ b.asNumber = some y ∧ a.compare b = Value.compareFloats x y := by
    intro ha hb
    obtain ⟨x, hx⟩ := Option.isSome_iff_exists.1 ha
    obtain ⟨y, hy⟩ := Option.isSome_iff_exists.1 hb
    exact ⟨x, y, hx, hy, compare_amounts hx hy⟩
  simp only [List.mem_cons, List.not_mem_nil, or_false] at hp
  rcases hp with rfl | rfl | rfl | rfl | rfl
  · exact .inr (hamount ((inhabits_amount rfl).1 ha) ((inhabits_amount rfl).1 hb))
  · exact .inr (hamount ((inhabits_amount rfl).1 ha) ((inhabits_amount rfl).1 hb))
  · obtain ⟨s, hs⟩ := Option.isSome_iff_exists.1 (inhabits_string.1 ha)
    obtain ⟨t, ht⟩ := Option.isSome_iff_exists.1 (inhabits_string.1 hb)
    exact .inl (by rw [compare_texts hs ht]; rfl)
  · cases ha
    cases hb
    exact .inl rfl
  · cases ha
    cases hb
    exact .inl rfl

lemma amounts_safe {items : List Value} (h : ∀ item ∈ items, item.asNumber.isSome = true) :
    ∃ xs, amounts items = .ok xs := by
  induction items with
  | nil => exact ⟨[], rfl⟩
  | cons item rest ih =>
    obtain ⟨x, hx⟩ := Option.isSome_iff_exists.1 (h item List.mem_cons_self)
    obtain ⟨xs, hxs⟩ := ih fun i hi => h i (List.mem_cons_of_mem _ hi)
    exact ⟨x :: xs, by rw [amounts, hx, hxs]; rfl⟩

lemma amountsArgument_safe {vars : String → Value → Prop} {v : Value} (hp : p.isAmount = true)
    (h : v.Inhabits vars (.array p)) (f : String) : ∃ xs, amountsArgument [v] f = .ok xs := by
  obtain ⟨items, rfl, hitems⟩ := inhabits_array.1 h
  exact amounts_safe fun item hitem => (inhabits_amount hp).1 (hitems item hitem)

lemma combined_cases {g : Float → Float → Float} {args : List Value} {xs : List Float}
    (h : amountsArgument args f = .ok xs) :
    (∃ x, combined g args f = .ok (.number x)) ∨
      combined g args f = .error (.native f "empty array") := by
  rw [combined, h]
  cases xs with
  | nil => exact .inr rfl
  | cons x xs => exact .inl ⟨_, rfl⟩

end Types

end Builtin

variable [PatternEngine]

/-- Failures of correctly typed uses in an environment. -/
inductive RuntimeError.Excused (env : Env) : RuntimeError → Prop
  | zeroDivisor (function : String) : Excused env (.native function "division by zero")
  | dateRange (function : String) : Excused env (.native function "date out of range")
  /-- Amounts of which one is a NaN. -/
  | unordered (function : String) {a b : Value} {x y : Float} (ha : a.asNumber = some x)
      (hb : b.asNumber = some y) (h : Value.compareFloats x y = none) :
      Excused env (.native function ("cannot compare " ++ a.text ++ " and " ++ b.text))
  | noItems (function : String) : Excused env (.native function "empty array")
  | noSuchDate {year : Int} {month day : Nat} (h : Instant.midnight? ⟨year, month, day⟩ = none) :
      Excused env (.native "makeDate"
        ("invalid date " ++ toString year ++ "-" ++ toString month ++ "-" ++ toString day))
  | noSuchTime {hour minute : Float}
      (h : (0.0 ≤ hour && hour < 24.0 && 0.0 ≤ minute && minute < 60.0) = false) :
      Excused env (.native "makeTime"
        ("invalid time " ++ Decimal.plain hour ++ ":" ++ Decimal.plain minute))
  | badPattern {pattern flags : String} {e : RuntimeError} (h : buildRegex pattern flags = .error e) :
      Excused env e
  | absentKey (key : String) : Excused env (.missingProperty key)
  | noEvent : Excused env .noEvent
  | format (reason : String) : Excused env (.format reason)
  /-- A formatter fails. -/
  | raised {kind : String} {formatter : Formatter} {frame : Frame} {hint : FormatHint} {view : View}
      {w w' : World} {e : RuntimeError} (hformatter : (kind, formatter) ∈ env.formatters)
      (h : formatter frame hint view w = .error e w') : Excused env e

/-- From cells with a property a computation leaves such cells, and gives a result with a property or
fails in a way that no type rules out. -/
abbrev Safely {α : Type} (I : Named Value → Prop) (env : Env) (P : α → Prop) (x : Eval α) : Prop :=
  Eval.Ensures I P (RuntimeError.Excused env) x

/-- Formatters that keep a property of the cells are safe. -/
lemma Env.FormattersKeep.excused {I : Named Value → Prop} {env : Env}
    (h : env.FormattersKeep I) :
    env.FormattersEnsure I (RuntimeError.Excused env) := by
  intro entry hentry frame hint view w hI
  have hkeeps := h entry hentry frame hint view w hI
  cases hrun : entry.2 frame hint view w with
  | ok chunks v =>
    rw [hrun] at hkeeps
    exact hkeeps
  | error e v =>
    rw [hrun] at hkeeps
    exact ⟨hkeeps.1, .raised hentry hrun⟩

/-- A signature is kept: whatever the variables stand for, arguments for its parameters give a value
of its result or a failure that no type rules out. -/
def Overload.Sound (overload : Overload) : Prop :=
  ∀ (I : Named Value → Prop) (env : Env), env.FormattersKeep I →
    ∀ (vars : String → Value → Prop) (args : List Value) (formals : List Ty),
      overload.formals? args.length = some formals → List.Forall₂ (Accepted vars) args formals →
        Safely I env (fun v => v.Inhabits vars overload.result) (overload.native.run (some env) args)

/-- All signatures of a builtin are kept. -/
def Builtin.Sound (builtin : Builtin) : Prop := ∀ overload ∈ builtin.overloads, overload.Sound

namespace Builtin

open Eval (ensures_ofExcept)

section Signature

variable {p q r result : Ty} {native : Native}

lemma sound_nullary (h : ∀ {I : Named Value → Prop} {env : Env},
    env.FormattersKeep I → ∀ vars : String → Value → Prop,
      Safely I env (fun v => v.Inhabits vars result) (native.run (some env) [])) :
    (signature [] result native).Sound := by
  intro I env hformat vars args formals hformals hargs
  rw [formals?_signature hformals] at hargs
  cases hargs
  exact h hformat vars

lemma sound_unary (hp : p.isFormal = true)
    (h : ∀ {I : Named Value → Prop} {env : Env}, env.FormattersKeep I →
      ∀ (vars : String → Value → Prop) (a : Value), a.Inhabits vars p →
        Safely I env (fun v => v.Inhabits vars result) (native.run (some env) [a])) :
    (signature [p] result native).Sound := by
  intro I env hformat vars args formals hformals hargs
  rw [formals?_signature hformals] at hargs
  cases hargs with
  | cons ha hargs =>
    cases hargs
    exact h hformat vars _ (inhabits_of_accepted hp ha)

lemma sound_binary (hp : p.isFormal = true) (hq : q.isFormal = true)
    (h : ∀ {I : Named Value → Prop} {env : Env}, env.FormattersKeep I →
      ∀ (vars : String → Value → Prop) (a b : Value), a.Inhabits vars p → b.Inhabits vars q →
        Safely I env (fun v => v.Inhabits vars result) (native.run (some env) [a, b])) :
    (signature [p, q] result native).Sound := by
  intro I env hformat vars args formals hformals hargs
  rw [formals?_signature hformals] at hargs
  cases hargs with
  | cons ha hargs =>
    cases hargs with
    | cons hb hargs =>
      cases hargs
      exact h hformat vars _ _ (inhabits_of_accepted hp ha) (inhabits_of_accepted hq hb)

lemma sound_ternary (hp : p.isFormal = true) (hq : q.isFormal = true) (hr : r.isFormal = true)
    (h : ∀ {I : Named Value → Prop} {env : Env}, env.FormattersKeep I →
      ∀ (vars : String → Value → Prop) (a b c : Value), a.Inhabits vars p → b.Inhabits vars q →
        c.Inhabits vars r →
          Safely I env (fun v => v.Inhabits vars result) (native.run (some env) [a, b, c])) :
    (signature [p, q, r] result native).Sound := by
  intro I env hformat vars args formals hformals hargs
  rw [formals?_signature hformals] at hargs
  cases hargs with
  | cons ha hargs =>
    cases hargs with
    | cons hb hargs =>
      cases hargs with
      | cons hc hargs =>
        cases hargs
        exact h hformat vars _ _ _ (inhabits_of_accepted hp ha) (inhabits_of_accepted hq hb)
          (inhabits_of_accepted hr hc)

end Signature

section Families

variable {p q result : Ty} {op : Calculation} {f : String}

lemma arithmetic_sound {g : Float → Float → Float} (hrun : ∀ args, op.run args = arithmetic g args f)
    (hp : p.isAmount = true) (hq : q.isAmount = true) (hresult : result.isAmount = true) :
    (calculation [p, q] result op).Sound := by
  refine sound_binary (isFormal_of_isAmount hp) (isFormal_of_isAmount hq) fun _ vars a b ha hb =>
    ensures_ofExcept ?_
  have h0 : [a, b][0]? = some a := rfl
  have h1 : [a, b][1]? = some b := rfl
  obtain ⟨x, -, hx⟩ := numberArgument_safe f h0 ((inhabits_amount hp).1 ha)
  obtain ⟨y, -, hy⟩ := numberArgument_safe f h1 ((inhabits_amount hq).1 hb)
  rw [hrun, arithmetic, hx, hy]
  exact number_inhabits vars _ hresult

lemma quotient_sound {g : Float → Float → Float} (hrun : ∀ args, op.run args = quotient g args f)
    (hp : p.isAmount = true) (hq : q.isAmount = true) (hresult : result.isAmount = true) :
    (calculation [p, q] result op).Sound := by
  refine sound_binary (isFormal_of_isAmount hp) (isFormal_of_isAmount hq) fun _ vars a b ha hb =>
    ensures_ofExcept ?_
  have h0 : [a, b][0]? = some a := rfl
  have h1 : [a, b][1]? = some b := rfl
  obtain ⟨x, -, hx⟩ := numberArgument_safe f h0 ((inhabits_amount hp).1 ha)
  obtain ⟨y, -, hy⟩ := numberArgument_safe f h1 ((inhabits_amount hq).1 hb)
  rw [hrun, quotient, hx, hy, ok_bind, ok_bind]
  split
  · exact .zeroDivisor f
  · exact number_inhabits vars _ hresult

lemma unaryNumber_sound {g : Float → Float} (hrun : ∀ args, op.run args = unaryNumber g args f)
    (hp : p.isAmount = true) (hresult : result.isAmount = true) :
    (calculation [p] result op).Sound := by
  refine sound_unary (isFormal_of_isAmount hp) fun _ vars a ha => ensures_ofExcept ?_
  have h0 : [a][0]? = some a := rfl
  obtain ⟨x, -, hx⟩ := numberArgument_safe f h0 ((inhabits_amount hp).1 ha)
  rw [hrun, unaryNumber, hx]
  exact number_inhabits vars _ hresult

lemma joined_sound (hrun : ∀ args, op.run args = joined args f) :
    (calculation [.string, .string] .string op).Sound := by
  refine sound_binary rfl rfl fun _ vars a b ha hb => ensures_ofExcept ?_
  have h0 : [a, b][0]? = some a := rfl
  have h1 : [a, b][1]? = some b := rfl
  obtain ⟨s, -, hs⟩ := textArgument_safe f h0 (inhabits_string.1 ha)
  obtain ⟨t, -, ht⟩ := textArgument_safe f h1 (inhabits_string.1 hb)
  rw [hrun, joined, hs, ht]
  exact inhabits_string.2 rfl

lemma movedDate_sound {sign : Float} (hrun : ∀ args, op.run args = movedDate args f sign) :
    (calculation [.date, duration] .date op).Sound := by
  refine sound_binary rfl rfl fun _ vars a b ha hb => ensures_ofExcept ?_
  obtain ⟨t, rfl⟩ := inhabits_date.1 ha
  have h1 : [.date t, b][1]? = some b := rfl
  obtain ⟨x, -, hx⟩ := numberArgument_safe f h1 ((inhabits_amount rfl).1 hb)
  have h0 : argument [.date t, b] 0 f = .ok (.date t) := rfl
  rw [hrun, movedDate, h0, ok_bind]
  simp only [hx, ok_bind]
  split
  · exact .date _
  · exact .dateRange f

lemma comparison_sound {test : Ordering → Bool} (name : String)
    (hrun : ∀ args, op.run args = ordered test args f) : (comparison name op).Sound := by
  intro overload hoverload
  obtain ⟨p, hp, rfl⟩ := List.mem_map.1 hoverload
  have hformal : p.isFormal = true := by
    simp only [List.mem_cons, List.not_mem_nil, or_false] at hp
    rcases hp with rfl | rfl | rfl | rfl | rfl <;> rfl
  refine sound_binary hformal hformal fun _ vars a b ha hb => ensures_ofExcept ?_
  have h0 : argument [a, b] 0 f = .ok a := rfl
  have h1 : argument [a, b] 1 f = .ok b := rfl
  rw [hrun, ordered, h0, h1, ok_bind, ok_bind]
  cases hcompare : a.compare b with
  | some o => exact .boolean _
  | none =>
    rcases compare_of_ordered hp ha hb with hsome | ⟨x, y, hx, hy, heq⟩
    · rw [hcompare] at hsome
      cases hsome
    · exact .unordered f hx hy (heq.symm.trans hcompare)

/-- An operation that gives a number for every list of amounts, or fails when there are none. -/
lemma aggregate_sound (name : String)
    (hrun : ∀ args xs, amountsArgument args f = .ok xs →
      (∃ x, op.run args = .ok (.number x)) ∨ op.run args = .error (.native f "empty array")) :
    (aggregate name op).Sound := by
  have hsound : ∀ p : Ty, p.isAmount = true → (calculation [.array p] p op).Sound := by
    intro p hp
    have hformal : (Ty.array p).isFormal = true := by
      rw [Ty.isFormal]
      exact isFormal_of_isAmount hp
    refine sound_unary hformal fun _ vars a ha => ensures_ofExcept ?_
    obtain ⟨xs, hxs⟩ := amountsArgument_safe hp ha f
    rcases hrun [a] xs hxs with ⟨x, hx⟩ | herror
    · rw [hx]
      exact number_inhabits vars x hp
    · rw [herror]
      exact .noItems f
  intro overload hoverload
  simp only [aggregate, List.mem_cons, List.not_mem_nil, or_false] at hoverload
  rcases hoverload with rfl | rfl
  · exact hsound _ rfl
  · exact hsound _ rfl

end Families

end Builtin

end ChannelRules
