import ChannelRules.Builtin.Native
import ChannelRules.Proofs.Value.Alike
import ChannelRules.Proofs.Value.Keys

/-!
# The order that programs see

Values are compared by what they show of themselves: instants, clock times, amounts or texts. Each
of these is ordered, so the comparison of values is lawful.

For values whose types agree, being equal in that order is the equality that programs see, except
that a feed is alike to feeds only: it is compared by its text, as an entity of its type is, but is
not alike to an entity or a string of the same text.
-/

namespace ChannelRules

open Calendar (Instant)

instance : Std.TransCmp Instant.compare :=
  inferInstanceAs (Std.TransCmp (compareLex (compareOn Instant.seconds) (compareOn Instant.nanos)))

lemma Calendar.Instant.compare_eq_eq {t u : Instant} : t.compare u = .eq ↔ t = u := by
  obtain ⟨s, n⟩ := t
  obtain ⟨s', n'⟩ := u
  simp [Instant.compare, Ordering.then_eq_eq]

namespace Value

/-- What a value is compared by. -/
inductive Scale where
  | instant (t : Instant)
  | clock (hour minute : ℕ)
  | amount (x : Float)
  | text (s : String)

/-- What a value is compared by, if it can be compared at all. -/
def scale? : Value → Option Scale
  | date t => some (.instant t)
  | time hour minute => some (.clock hour minute)
  | number x | measure x _ => some (.amount x)
  | string s | enum s | feed s | entity s _ _ => some (.text s)
  | _ => none

/-- Only things of one kind are compared. -/
def Scale.compare : Scale → Scale → Option Ordering
  | instant t, instant u => some (t.compare u)
  | clock h m, clock h' m' => some ((Ord.compare h h').then (Ord.compare m m'))
  | amount x, amount y => compareFloats x y
  | text s, text t => some (compareTexts s t)
  | _, _ => none

/-- The things that have an order, with that order. -/
inductive Scale.Compared : Scale → Scale → Ordering → Prop
  | instants (t u : Instant) : Compared (instant t) (instant u) (t.compare u)
  | clocks (h m h' m' : ℕ) :
      Compared (clock h m) (clock h' m') ((Ord.compare h h').then (Ord.compare m m'))
  | amounts {x y : Float} {o : Ordering} (h : compareFloats x y = some o) :
      Compared (amount x) (amount y) o
  | texts (s t : String) : Compared (text s) (text t) (compareTexts s t)

lemma Scale.compare_eq_some_iff {x y : Scale} {o : Ordering} :
    x.compare y = some o ↔ Compared x y o := by
  constructor
  · intro h
    cases x with
    | instant t => cases y <;> cases h; exact .instants _ _
    | clock hour minute => cases y <;> cases h; exact .clocks _ _ _ _
    | amount x =>
      cases y with
      | amount y => exact .amounts h
      | _ => cases h
    | text s => cases y <;> cases h; exact .texts _ _
  · intro h
    cases h with
    | amounts h => exact h
    | _ => rfl

/-- Values compare as what they show does. -/
theorem compare_eq_scales (a b : Value) :
    a.compare b = a.scale?.bind fun x => b.scale?.bind fun y => x.compare y := by
  cases a <;> cases b <;> rfl

lemma compare_eq_some_iff {a b : Value} {o : Ordering} :
    a.compare b = some o ↔
      ∃ x, a.scale? = some x ∧ ∃ y, b.scale? = some y ∧ Scale.Compared x y o := by
  simp only [compare_eq_scales, Option.bind_eq_some_iff, Scale.compare_eq_some_iff]

instance : Std.TransCmp compareTexts :=
  inferInstanceAs (Std.TransCmp (Ord.compare : String → String → Ordering))

/-- The order of clock times: first by the hour, then by the minute. -/
def compareClocks : ℕ × ℕ → ℕ × ℕ → Ordering :=
  compareLex (compareOn Prod.fst) (compareOn Prod.snd)

instance : Std.TransCmp compareClocks :=
  inferInstanceAs (Std.TransCmp (compareLex _ _))

lemma compareFloats_eq_order (x y : Float) : compareFloats x y = Decimal.order x y := by
  have hgt : y < x ↔ Decimal.order x y = some .gt :=
    Decimal.lt_iff_order.trans (Decimal.order_swap_iff (o := .gt))
  unfold compareFloats
  simp only [Decimal.lt_iff_order (x := x), hgt, Decimal.beq_iff_order]
  cases Decimal.order x y with
  | none => simp
  | some o => cases o <;> simp

lemma lawfulCompare_scales : LawfulCompare Scale.compare := by
  have hinstants := LawfulCompare.total Instant.compare
  have hclocks := LawfulCompare.total compareClocks
  have htexts := LawfulCompare.total compareTexts
  have hamounts : LawfulCompare compareFloats := by
    rw [show compareFloats = Decimal.order from funext₂ compareFloats_eq_order]
    exact Decimal.lawfulCompare_order
  constructor
  case swap =>
    intro x y
    cases x with
    | instant t =>
      cases y with
      | instant u => exact hinstants.swap t u
      | _ => rfl
    | clock h m =>
      cases y with
      | clock h' m' => exact hclocks.swap (h, m) (h', m')
      | _ => rfl
    | amount x =>
      cases y with
      | amount y => exact hamounts.swap x y
      | _ => rfl
    | text s =>
      cases y with
      | text t => exact htexts.swap s t
      | _ => rfl
  case trans =>
    intro x y z o p hxy hyz ho hp
    cases Scale.compare_eq_some_iff.1 hxy with
    | instants =>
      cases Scale.compare_eq_some_iff.1 hyz with
      | instants => exact hinstants.trans hxy hyz ho hp
    | clocks h m h' m' =>
      cases Scale.compare_eq_some_iff.1 hyz with
      | clocks _ _ h'' m'' =>
        exact hclocks.trans (a := (h, m)) (b := (h', m')) (c := (h'', m'')) hxy hyz ho hp
    | amounts =>
      cases Scale.compare_eq_some_iff.1 hyz with
      | amounts => exact hamounts.trans hxy hyz ho hp
    | texts =>
      cases Scale.compare_eq_some_iff.1 hyz with
      | texts => exact htexts.trans hxy hyz ho hp

theorem lawfulCompare_compare : LawfulCompare compare := by
  rw [show compare = _ from funext₂ compare_eq_scales]
  exact lawfulCompare_scales.along scale?

/-- Neither equality nor order of values depends on which operand comes first: values are alike both
ways or neither way, and are comparable both ways, with reversed answers, or neither way. Two steps
that do not go down make one that does not go down, and goes up if one of them does. -/
theorem alike_compare_exchange (a b c : Value) :
    a.alike b = b.alike a ∧ b.compare a = (a.compare b).map Ordering.swap ∧
      ∀ o p, a.compare b = some o → b.compare c = some p → o.isLE = true → p.isLE = true →
        a.compare c = some (o.then p) :=
  ⟨alike_comm a b, lawfulCompare_compare.swap a b, fun _ _ => lawfulCompare_compare.trans⟩

/-- A string is before an entity, which a feed of the same text equals in order, so the string is
before the feed; and an array in which strings stand for entities is alike to it both ways. -/
theorem alike_compare_exchange_accounts :
    (string "ann").compare plainAccount = some .lt ∧ plainAccount.compare (feed "bob") = some .eq ∧
      (string "ann").compare (feed "bob") = some .lt ∧
      (feed "bob").compare (string "ann") = some .gt ∧
      (array [array [namedAccount], string "bob"]).alike (array [array [string "bob"], plainAccount]) =
        (array [array [string "bob"], plainAccount]).alike
          (array [array [namedAccount], string "bob"]) := by
  have hfirst : (string "ann").compare plainAccount = some .lt := by decide
  have hsecond : plainAccount.compare (feed "bob") = some .eq := by decide
  obtain ⟨-, -, htrans⟩ := alike_compare_exchange (string "ann") plainAccount (feed "bob")
  have hboth := htrans .lt .eq hfirst hsecond rfl rfl
  refine ⟨hfirst, hsecond, hboth, ?_, (alike_compare_exchange _ _ (feed "bob")).1⟩
  rw [(alike_compare_exchange (string "ann") (feed "bob") (feed "bob")).2.1, hboth]
  rfl

def isFeed : Value → Bool
  | feed _ => true
  | _ => false

lemma compareTexts_eq_eq {s t : String} : compareTexts s t = .eq ↔ s = t := by
  show Ord.compare s t = .eq ↔ s = t
  exact compare_eq_iff_eq

/-- Texts are alike if they are the same text and both feeds or both none, except that no entity is
an enumeration entry. -/
lemma alike_texts {a b : Value} {s t : String} (ha : a.scale? = some (.text s))
    (hb : b.scale? = some (.text t)) (hkinds : ∀ value tag display entry,
      ¬ (a = entity value tag display ∧ b = enum entry) ∧
        ¬ (a = enum entry ∧ b = entity value tag display)) :
    a.alike b = true ↔ s = t ∧ a.isFeed = b.isFeed := by
  cases a <;> cases ha <;> cases b <;> cases hb
  case entity.refl.enum.refl => exact absurd ⟨rfl, rfl⟩ (hkinds _ _ _ _).1
  case enum.refl.entity.refl => exact absurd ⟨rfl, rfl⟩ (hkinds _ _ _ _).2
  all_goals simp [alike, sameAmount, asNumber, same, isFeed]

lemma eq_date_of_scale {a : Value} {t : Instant} (h : a.scale? = some (.instant t)) :
    a = date t := by
  cases a <;> cases h
  rfl

lemma eq_time_of_scale {a : Value} {hour minute : ℕ} (h : a.scale? = some (.clock hour minute)) :
    a = time hour minute := by
  cases a <;> cases h
  rfl

lemma asNumber_of_scale {a : Value} {x : Float} (h : a.scale? = some (.amount x)) :
    a.asNumber = some x ∧ a.isFeed = false := by
  cases a <;> cases h <;> exact ⟨rfl, rfl⟩

lemma asText_of_scale {a : Value} {s : String} (h : a.scale? = some (.text s)) :
    a.asText = some s := by
  cases a <;> cases h <;> rfl

/-- Comparable values are alike if they are equal in the order and both are feeds or none is, except
that no entity is an enumeration entry. -/
lemma alike_iff_compare {a b : Value} (hcompare : (a.compare b).isSome = true)
    (hkinds : ∀ value tag display entry,
      ¬ (a = entity value tag display ∧ b = enum entry) ∧
        ¬ (a = enum entry ∧ b = entity value tag display)) :
    a.alike b = true ↔ a.compare b = some .eq ∧ a.isFeed = b.isFeed := by
  obtain ⟨o, ho⟩ := Option.isSome_iff_exists.1 hcompare
  obtain ⟨x, hx, y, hy, hxy⟩ := compare_eq_some_iff.1 ho
  rw [ho, Option.some.injEq]
  cases hxy with
  | instants t u =>
    rw [eq_date_of_scale hx, eq_date_of_scale hy, Instant.compare_eq_eq]
    simp [alike, sameAmount, asNumber, same, isFeed]
  | clocks h m h' m' =>
    rw [eq_time_of_scale hx, eq_time_of_scale hy, Ordering.then_eq_eq, compare_eq_iff_eq,
      compare_eq_iff_eq]
    simp [alike, sameAmount, asNumber, same, isFeed]
  | amounts h =>
    obtain ⟨ha, hafeed⟩ := asNumber_of_scale hx
    obtain ⟨hb, hbfeed⟩ := asNumber_of_scale hy
    rw [alike_amounts ha hb, Decimal.beq_iff_order, ← compareFloats_eq_order, h, hafeed, hbfeed]
    simp
  | texts s t => rw [alike_texts hx hy hkinds, compareTexts_eq_eq]

/-- The types of an entity and of an enumeration entry do not agree. -/
lemma not_entity_and_enum {a b : Value} {s t c : Ty} {bs : Bindings} (ha : a.typeOf.result = .ok s)
    (hb : b.typeOf.result = .ok t) (hunify : Ty.unify s t .empty = .ok c bs)
    (value tag : String) (display : Option String) (entry : String) :
    ¬ (a = entity value tag display ∧ b = enum entry) ∧
      ¬ (a = enum entry ∧ b = entity value tag display) := by
  obtain ⟨hsc, htc, -⟩ := Ty.isLUB_pair_iff.1
    (Ty.unifyWith_joins _ (hasVars_typeOf a ha) (hasVars_typeOf b hb) hunify)
  constructor
  · rintro ⟨rfl, rfl⟩
    cases ha
    cases hb
    exact Ty.not_enum_le_of_entity_le hsc htc
  · rintro ⟨rfl, rfl⟩
    cases ha
    cases hb
    exact Ty.not_enum_le_of_entity_le htc hsc

/-- Of comparable values of which only one is a feed, those with one text are equal in the order. -/
lemma compare_eq_eq_of_feed {a b : Value} (hcompare : (a.compare b).isSome = true)
    (hfeed : a.isFeed ≠ b.isFeed) : a.compare b = some .eq ↔ a.asText = b.asText := by
  obtain ⟨o, ho⟩ := Option.isSome_iff_exists.1 hcompare
  obtain ⟨x, hx, y, hy, hxy⟩ := compare_eq_some_iff.1 ho
  cases hxy with
  | texts s t =>
    rw [ho, Option.some.injEq, compareTexts_eq_eq, asText_of_scale hx, asText_of_scale hy,
      Option.some.injEq]
  | instants =>
    rw [eq_date_of_scale hx, eq_date_of_scale hy] at hfeed
    exact absurd rfl hfeed
  | clocks =>
    rw [eq_time_of_scale hx, eq_time_of_scale hy] at hfeed
    exact absurd rfl hfeed
  | amounts =>
    exact absurd ((asNumber_of_scale hx).2.trans (asNumber_of_scale hy).2.symm) hfeed

lemma ordered_eq_true_iff {test : Ordering → Bool} {function : String} {a b : Value} :
    ordered test [a, b] function = .ok (boolean true) ↔
      ∃ o, a.compare b = some o ∧ test o = true := by
  have ha : argument [a, b] 0 function = .ok a := rfl
  have hb : argument [a, b] 1 function = .ok b := rfl
  rw [ordered, ha, hb, ok_bind, ok_bind]
  cases a.compare b with
  | none => simp
  | some o => simp [pure, Except.pure]

/-- Being at most and at least another value is being equal to it in the order. -/
lemma atMost_and_atLeast_iff [PatternEngine] {a b : Value} :
    Calculation.atMost.run [a, b] = .ok (boolean true) ∧
        Calculation.atLeast.run [a, b] = .ok (boolean true) ↔ a.compare b = some .eq := by
  rw [Calculation.run, Calculation.run, ordered_eq_true_iff, ordered_eq_true_iff]
  constructor
  · rintro ⟨⟨o, ho, hmost⟩, o', ho', hleast⟩
    obtain rfl := Option.some.inj (ho.symm.trans ho')
    rw [ho]
    cases o with
    | eq => rfl
    | lt => cases hleast
    | gt => cases hmost
  · intro h
    exact ⟨⟨.eq, h, rfl⟩, .eq, h, rfl⟩

lemma equal_run_iff [PatternEngine] {a b : Value} :
    Calculation.equal.run [a, b] = .ok (boolean true) ↔ a.alike b = true := by
  show Except.ok (boolean (a.alike b)) = .ok (boolean true) ↔ _
  simp

/-- Comparable values whose types agree are alike exactly if they are equal in the order and both are
feeds or none is. So equality and order agree on them, and being at most and at least the other one
is being equal to it, exactly if it is not that one of them only is a feed and both have one text. -/
theorem compare_eq_iff_alike [PatternEngine] {a b : Value} {s t c : Ty} {bs : Bindings}
    (ha : a.typeOf.result = .ok s) (hb : b.typeOf.result = .ok t)
    (hunify : Ty.unify s t .empty = .ok c bs) (hcompare : (a.compare b).isSome = true) :
    (a.alike b = true ↔ a.compare b = some .eq ∧ a.isFeed = b.isFeed) ∧
      ((a.compare b = some .eq ↔ a.alike b = true) ↔ a.isFeed = b.isFeed ∨ a.asText ≠ b.asText) ∧
      ((Calculation.atMost.run [a, b] = .ok (boolean true) ∧
          Calculation.atLeast.run [a, b] = .ok (boolean true) ↔
            Calculation.equal.run [a, b] = .ok (boolean true)) ↔
        a.isFeed = b.isFeed ∨ a.asText ≠ b.asText) := by
  have halike := alike_iff_compare hcompare (not_entity_and_enum ha hb hunify)
  have hagree : (a.compare b = some .eq ↔ a.alike b = true) ↔
      a.isFeed = b.isFeed ∨ a.asText ≠ b.asText := by
    rw [halike]
    by_cases hfeed : a.isFeed = b.isFeed
    · simp [hfeed]
    · rw [compare_eq_eq_of_feed hcompare hfeed]
      simp [hfeed]
  refine ⟨halike, hagree, ?_⟩
  rw [atMost_and_atLeast_iff, equal_run_iff]
  exact hagree

/-- A feed, given as an entity of the type of feeds. -/
def feedEntity : Value := plainEntity "news" "tt:feed"

/-- A feed is at most and at least the entity of its type and text, but does not equal it. An entity
equals the string of the same text in both ways. -/
theorem compare_eq_iff_alike_feed :
    ((feed "news").compare feedEntity = some .eq ∧ (feed "news").alike feedEntity = false ∧
      ¬ (Calculation.atMost.run [feed "news", feedEntity] = .ok (boolean true) ∧
        Calculation.atLeast.run [feed "news", feedEntity] = .ok (boolean true) ↔
          Calculation.equal.run [feed "news", feedEntity] = .ok (boolean true))) ∧
    (feedEntity.compare (string "news") = some .eq ↔ feedEntity.alike (string "news") = true) := by
  have hfeed : (feed "news").typeOf.result = .ok (.entity "tt:feed") := rfl
  have hentity : feedEntity.typeOf.result = .ok (.entity "tt:feed") := rfl
  have hunify : Ty.unify (.entity "tt:feed") (.entity "tt:feed") .empty =
      .ok (.entity "tt:feed") .empty := rfl
  have hcompare : (feed "news").compare feedEntity = some .eq := by decide
  refine ⟨⟨hcompare, rfl, fun h => ?_⟩, ?_⟩
  · rcases (compare_eq_iff_alike hfeed hentity hunify (by rw [hcompare]; rfl)).2.2.1 h with h | h
    · cases h
    · exact h rfl
  · have hstring : Ty.unify (.entity "tt:feed") .string .empty =
        .ok (.entity "tt:feed") ⟨[], [.stringFor (.entity "tt:feed")]⟩ := rfl
    exact (compare_eq_iff_alike hentity rfl hstring (by decide)).2.1.2 (.inl rfl)

end Value

end ChannelRules
