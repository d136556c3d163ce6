import ChannelRules.Proofs.Check.Gathered
import Mathlib.Tactic.IntervalCases

/-!
# Clauses in canonical order

The canonical order of parts is the stable sort by rank, so a clause is checked in the same way in
whatever order its invocation, its predicates, its bindings and its conditions stand between each
other. What is checked stands in canonical order itself.
-/

namespace ChannelRules

section ByRank

variable {P : Type} {rank : P → ℕ} {parts : List P}

lemma byRank_eq_append (rank : P → ℕ) (parts : List P) :
    byRank rank parts = (parts.filter fun part => rank part == 0) ++
      ((parts.filter fun part => rank part == 1) ++ ((parts.filter fun part => rank part == 2) ++
        (parts.filter fun part => rank part == 3))) := by
  rw [byRank, show List.range 4 = [0, 1, 2, 3] from rfl]
  simp only [List.flatMap_cons, List.flatMap_nil, List.append_nil]

/-- Parts that stand in order of rank are left as they are. -/
lemma byRank_of_pairwise (hrank : ∀ part ∈ parts, rank part < 4)
    (h : parts.Pairwise fun a b => rank a ≤ rank b) : byRank rank parts = parts := by
  induction parts with
  | nil => rfl
  | cons part rest ih =>
    obtain ⟨hpart, hrest⟩ := List.pairwise_cons.1 h
    have hlt := hrank part List.mem_cons_self
    have hih := ih (fun other hother => hrank other (List.mem_cons_of_mem _ hother)) hrest
    -- no part of the rest is of a rank below that of the first part
    have hnone : ∀ r, r < rank part → rest.filter (fun other => rank other == r) = [] := by
      intro r hr
      refine List.filter_eq_nil_iff.2 fun other hother => ?_
      have hle := hpart other hother
      simp only [beq_iff_eq]
      omega
    rw [byRank_eq_append] at hih ⊢
    generalize hr : rank part = r at hlt hnone
    interval_cases r
    · simpa [hr] using hih
    · simpa [hr, hnone] using hih
    · simpa [hr, hnone] using hih
    · simpa [hr, hnone] using hih

lemma le_of_ranks_trans (rank : P → ℕ) (a b c : P) (hab : decide (rank a ≤ rank b) = true)
    (hbc : decide (rank b ≤ rank c) = true) : decide (rank a ≤ rank c) = true :=
  decide_eq_true ((of_decide_eq_true hab).trans (of_decide_eq_true hbc))

lemma le_of_ranks_total (rank : P → ℕ) (a b : P) :
    (decide (rank a ≤ rank b) || decide (rank b ≤ rank a)) = true := by
  simpa using le_total (rank a) (rank b)

/-- A stable sort by rank keeps the parts of one rank in their order. -/
lemma filter_mergeSort (rank : P → ℕ) (parts : List P) (r : ℕ) :
    (parts.mergeSort fun a b => rank a ≤ rank b).filter (fun part => rank part == r) =
      parts.filter fun part => rank part == r := by
  have hsame : (parts.filter fun part => rank part == r).Pairwise
      fun a b => decide (rank a ≤ rank b) = true := by
    refine List.pairwise_iff_forall_sublist.2 fun {a b} hsub => ?_
    have ha := (List.mem_filter.1 (hsub.subset List.mem_cons_self)).2
    have hb := (List.mem_filter.1 (hsub.subset (List.mem_cons_of_mem _ List.mem_cons_self))).2
    rw [beq_iff_eq] at ha hb
    exact decide_eq_true (ha.trans hb.symm).le
  have hsub := List.sublist_mergeSort (le_of_ranks_trans rank) (le_of_ranks_total rank) hsame
    (List.filter_sublist (l := parts))
  have hfilter := hsub.filter fun part => rank part == r
  simp only [List.filter_filter, Bool.and_self] at hfilter
  exact (hfilter.eq_of_length ((List.mergeSort_perm parts _).filter _).length_eq.symm).symm

/-- The canonical order is the stable sort by rank. -/
theorem byRank_eq_mergeSort (h : ∀ part ∈ parts, rank part < 4) :
    byRank rank parts = parts.mergeSort fun a b => rank a ≤ rank b := by
  have hpairwise := List.pairwise_mergeSort (le_of_ranks_trans rank) (le_of_ranks_total rank) parts
  have hsorted := byRank_of_pairwise
    (fun part hpart => h part ((List.mergeSort_perm parts _).mem_iff.1 hpart))
    (hpairwise.imp of_decide_eq_true)
  rw [← hsorted, byRank, byRank]
  simp only [filter_mergeSort]

end ByRank

namespace Source.Part

def invocation? : Part → Option Invocation
  | invocation i => some i
  | _ => none

def predicate? : Part → Option Expr
  | predicate e => some e
  | _ => none

def binding? : Part → Option (String × Expr)
  | binding name e => some (name, e)
  | _ => none

def condition? : Part → Option Expr
  | condition e => some e
  | _ => none

/-- One clause is another one with its parts in another order, where the predicates, the bindings and
the conditions keep their order. -/
structure Reordered (xs ys : List Part) : Prop where
  perm : xs.Perm ys
  predicates : xs.filterMap predicate? = ys.filterMap predicate?
  bindings : xs.filterMap binding? = ys.filterMap binding?
  conditions : xs.filterMap condition? = ys.filterMap condition?

/-- The parts after the invocation, in canonical order. -/
def others (parts : List Part) : List Part :=
  (parts.filterMap predicate?).map predicate ++
    ((parts.filterMap binding?).map (fun b => binding b.1 b.2) ++
      (parts.filterMap condition?).map condition)

lemma filter_eq_map {α : Type} (test : Part → Bool) (f : Part → Option α) (g : α → Part)
    (htest : ∀ part, test part = (f part).isSome) (hg : ∀ part, ∀ a ∈ f part, g a = part)
    (parts : List Part) : parts.filter test = (parts.filterMap f).map g := by
  induction parts with
  | nil => rfl
  | cons part rest ih =>
    cases hf : f part with
    | none =>
      rw [List.filter_cons_of_neg (by rw [htest, hf]; exact Bool.false_ne_true),
        List.filterMap_cons_none hf, ih]
    | some a =>
      rw [List.filter_cons_of_pos (by rw [htest, hf]; rfl), List.filterMap_cons_some hf,
        List.map_cons, ih, hg part a hf]

lemma arrange_canonical (parts : List Part) :
    PartOrder.canonical.arrange rank parts =
      (parts.filterMap invocation?).map invocation ++ others parts := by
  rw [PartOrder.arrange, byRank_eq_append, others]
  rw [filter_eq_map _ invocation? invocation, filter_eq_map _ predicate? predicate,
    filter_eq_map _ binding? fun b => binding b.1 b.2, filter_eq_map _ condition? condition]
  all_goals
    intro part
    cases part <;> simp [invocation?, predicate?, binding?, condition?, rank]

lemma invocationCount_eq (parts : List Part) :
    invocationCount parts = (parts.filterMap invocation?).length := by
  rw [invocationCount, List.countP_eq_length_filter, filter_eq_map _ invocation? invocation,
    List.length_map]
  all_goals
    intro part
    cases part <;> simp [invocation?, rank]

/-- In canonical order the order of the parts of different kinds is lost. -/
lemma Reordered.arrange_eq {xs ys : List Part} (h : Reordered xs ys)
    (hcount : invocationCount xs = 1) :
    PartOrder.canonical.arrange rank ys = PartOrder.canonical.arrange rank xs := by
  have hinvocations := h.perm.filterMap invocation?
  obtain ⟨i, hi⟩ := List.length_eq_one_iff.1 ((invocationCount_eq xs).symm.trans hcount)
  rw [hi, List.singleton_perm] at hinvocations
  rw [arrange_canonical, arrange_canonical, others, others, hi, ← hinvocations, h.predicates,
    h.bindings, h.conditions]

end Source.Part

open Source.Part (Reordered invocation? others)

/-- What a part becomes when it is checked: a part of the same kind, under the same name. -/
def SameKind : Source.Part → Typed.Part → Prop
  | .invocation _, .invocation _ => True
  | .predicate _, .predicate _ => True
  | .binding name _, .binding found _ => found = name
  | .condition _, .condition _ => True
  | _, _ => False

lemma checkPart_sameKind (ctx : Context) (sort : Section) (part : Source.Part) :
    Check.Yields (fun _ => True) (checkPart ctx sort part) (SameKind part) := by
  intro s s' found _ h
  refine ⟨trivial, ?_⟩
  cases part with
  | invocation i =>
    simp only [checkPart, checkInvocation, state_bind_eq_ok] at h
    obtain ⟨channel, t, -, h⟩ := h
    split at h
    · cases h
    · simp only [state_bind_eq_ok, state_pure_eq_ok] at h
      obtain ⟨slots, t', -, rfl, -⟩ := h
      exact trivial
  | predicate e =>
    simp only [checkPart, state_bind_eq_ok, state_pure_eq_ok] at h
    obtain ⟨predicate, t, -, rfl, -⟩ := h
    exact trivial
  | binding name e =>
    simp only [checkPart, state_bind_eq_ok, state_pure_eq_ok] at h
    obtain ⟨te, t, -, _, t', -, rfl, -⟩ := h
    rfl
  | condition e =>
    simp only [checkPart, state_bind_eq_ok, state_pure_eq_ok] at h
    obtain ⟨te, t, -, rfl, -⟩ := h
    exact trivial

/-- A clause that is checked is its invocation, its predicates, its bindings and its conditions. -/
lemma checkClause_arranged {ctx : Context} {sort : Section} {parts : List Source.Part}
    {found : List Typed.Part} {s s' : CheckState} (h : checkClause ctx sort parts s = .ok found s') :
    ∃ i, parts.filterMap invocation? = [i] ∧
      List.Forall₂ SameKind (.invocation i :: others parts) found := by
  unfold checkClause at h
  split at h
  · cases h
  · rename_i hcount
    rw [Decidable.not_not, Source.Part.invocationCount_eq, List.length_eq_one_iff] at hcount
    obtain ⟨i, hi⟩ := hcount
    obtain ⟨-, hkinds⟩ := Check.yields_forAll (checkPart_sameKind ctx sort) _ s s' found trivial h
    rw [Source.Part.arrange_canonical, hi] at hkinds
    exact ⟨i, hi, hkinds⟩

/-- Clauses that differ in the order of their parts only, the parts of one kind being in the same
order, have the same outcome: the same checked parts or the same error, with the same names in scope
and the same notices. What is checked starts with the only invocation, and predicates, bindings and
conditions follow in this order. -/
theorem checkClause_reordered (ctx : Context) (sort : Section) {xs ys : List Source.Part}
    (h : Reordered xs ys) (s : CheckState) :
    checkClause ctx sort ys s = checkClause ctx sort xs s ∧
    ∀ found s', checkClause ctx sort xs s = .ok found s' →
      ∃ i, xs.filterMap invocation? = [i] ∧
        List.Forall₂ SameKind (.invocation i :: others xs) found := by
  refine ⟨?_, fun found s' => checkClause_arranged⟩
  have hcount : invocationCount ys = invocationCount xs := by
    rw [Source.Part.invocationCount_eq, Source.Part.invocationCount_eq]
    exact (h.perm.filterMap invocation?).length_eq.symm
  unfold checkClause
  rw [hcount]
  by_cases hone : invocationCount xs = 1
  · rw [h.arrange_eq hone]
  · rw [if_pos hone, if_pos hone]
    rfl

/-- A diary is searched for a letter, the parts being written from the last to the first. -/
theorem checkClause_reordered_diary :
    let ctx : Context := ⟨[], [("diary.note", .string)]⟩
    let xs : List Source.Part :=
      [.invocation ⟨.computeModule "diary", "note", [.var "text"]⟩,
        .predicate (.call "regex" [.var "text", .constant (.string "a(.)"),
          .constant (.string ""), .var "letter"]),
        .binding "copy" (.var "letter"),
        .condition (.binary "=" (.var "copy") (.constant (.string "b")))]
    Reordered xs xs.reverse ∧
    ∃ found s', checkClause ctx .queries xs.reverse ⟨.empty, []⟩ = .ok found s' ∧
      s'.scope.innerNames = ["copy", "letter", "text"] ∧
      List.Forall₂ SameKind xs found := by
  intro ctx xs
  have hreordered : Reordered xs xs.reverse := ⟨xs.reverse_perm.symm, rfl, rfl, rfl⟩
  have hok : ∃ found s', checkClause ctx .queries xs ⟨.empty, []⟩ = .ok found s' ∧
      s'.scope.innerNames = ["copy", "letter", "text"] := ⟨_, _, rfl, rfl⟩
  obtain ⟨found, s', hfound, hnames⟩ := hok
  obtain ⟨heq, hkinds⟩ := checkClause_reordered ctx .queries hreordered ⟨.empty, []⟩
  obtain ⟨i, hi, hfound'⟩ := hkinds found s' hfound
  cases hi
  exact ⟨hreordered, found, s', heq.trans hfound, hnames, hfound'⟩

end ChannelRules
