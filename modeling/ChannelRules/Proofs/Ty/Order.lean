import ChannelRules.Proofs.Ty.Unify
import Mathlib.Order.Bounds.Basic

/-!
# Unification as an order

On types without variables, what unification gives is the least type above both. How specific types
are can therefore be read off from unification itself.
-/

namespace ChannelRules

namespace Ty

section Bounds

variable {a b c d : Ty}

lemma isLUB_pair_iff :
    IsLUB {a, b} c ↔ a ≤ c ∧ b ≤ c ∧ ∀ d, a ≤ d → b ≤ d → c ≤ d := by
  simp only [IsLUB, IsLeast, mem_upperBounds, mem_lowerBounds, Set.mem_insert_iff,
    Set.mem_singleton_iff, forall_eq_or_imp, forall_eq, and_imp, and_assoc]

lemma isLUB_pair_right (h : a ≤ b) : IsLUB {a, b} b :=
  isLUB_pair_iff.2 ⟨h, le_refl b, fun _ _ hb => hb⟩

lemma isLUB_pair_left (h : b ≤ a) : IsLUB {a, b} a :=
  isLUB_pair_iff.2 ⟨le_refl a, h, fun _ ha _ => ha⟩

/-- A step gives the least type above two types without variables. -/
def Joins (step : Ty → Ty → Unify Ty) : Prop :=
  ∀ {a b c : Ty} {s s' : Bindings}, a.hasVars = false → b.hasVars = false → step a b s = .ok c s' →
    IsLUB {a, b} c

variable {step : Ty → Ty → Unify Ty} {s s' : Bindings}

/-- The third list has the least types above those of the first two, one by one. -/
structure LeastAbove (xs ys zs : List Ty) : Prop where
  left : List.Forall₂ (· ≤ ·) xs zs
  right : List.Forall₂ (· ≤ ·) ys zs
  least : ∀ ds, List.Forall₂ (· ≤ ·) xs ds → List.Forall₂ (· ≤ ·) ys ds →
    List.Forall₂ (· ≤ ·) zs ds

lemma leastAbove_cons {x y z : Ty} {xs ys zs : List Ty} (h : IsLUB {x, y} z)
    (hrest : LeastAbove xs ys zs) : LeastAbove (x :: xs) (y :: ys) (z :: zs) := by
  obtain ⟨hxz, hyz, hleast⟩ := isLUB_pair_iff.1 h
  refine ⟨.cons hxz hrest.left, .cons hyz hrest.right, fun ds hxs hys => ?_⟩
  cases hxs with
  | cons hx hxs =>
    cases hys with
    | cons hy hys => exact .cons (hleast _ hx hy) (hrest.least _ hxs hys)

lemma unifyLists_joins (hstep : Joins step) {xs ys zs : List Ty}
    (hxs : ∀ x ∈ xs, x.hasVars = false) (hys : ∀ y ∈ ys, y.hasVars = false)
    (hlength : xs.length = ys.length) (h : unifyLists step xs ys s = .ok zs s') :
    LeastAbove xs ys zs := by
  induction xs generalizing ys zs s with
  | nil =>
    cases ys with
    | nil =>
      cases h
      exact ⟨.nil, .nil, fun ds hds _ => hds⟩
    | cons y ys => cases hlength
  | cons x xs ih =>
    cases ys with
    | nil => cases hlength
    | cons y ys =>
      rw [List.forall_mem_cons] at hxs hys
      simp only [unifyLists, state_bind_eq_ok, state_pure_eq_ok] at h
      obtain ⟨z, t, hz, rest, t', hrest, rfl, rfl⟩ := h
      exact leastAbove_cons (hstep hxs.1 hys.1 hz)
        (ih hxs.2 hys.2 (Nat.succ.inj hlength) hrest)

/-- Types of one form are below exactly the types of that form whose parts are above their parts. -/
lemma isLUB_withComponents {zs : List Ty} (h : Aligned a b)
    (hzs : LeastAbove a.components b.components zs) : IsLUB {a, b} (a.withComponents zs) := by
  have hlength := hzs.left.length_eq.symm
  refine isLUB_pair_iff.2 ⟨h.left.le_iff.2 ⟨zs, rfl, hzs.left⟩, h.le_iff.2 ⟨zs, rfl, hzs.right⟩,
    fun d had hbd => ?_⟩
  obtain ⟨ds, rfl, hds⟩ := h.left.le_iff.1 had
  obtain ⟨es, heq, hes⟩ := h.le_iff.1 hbd
  have hsame : ds = es := by
    have hparts := congrArg components heq
    rwa [h.components_withComponents hds.length_eq.symm,
      h.components_withComponents (hes.length_eq.symm.trans h.length_components.symm)] at hparts
  refine (h.withComponents hlength).le_iff.2 ⟨ds, rfl, ?_⟩
  rw [h.components_withComponents hlength]
  exact hzs.least ds hds (hsame ▸ hes)

lemma all_contains_iff {xs ys : List String} : xs.all ys.contains = true ↔ xs ⊆ ys := by
  simp only [List.all_eq_true, List.contains_iff_mem]
  exact Iff.rfl

lemma unifyEnums_isLUB {xs ys zs : List String} (hne : xs ≠ ys) (h : unifyEnums xs ys = some zs) :
    IsLUB {enum xs, enum ys} (enum zs) := by
  simp only [unifyEnums, Bool.and_eq_true, all_contains_iff] at h
  by_cases hbelow : xs ⊆ ys
  · by_cases habove : ys ⊆ xs
    · rw [if_pos ⟨hbelow, habove⟩] at h
      cases h
      have hset : NameSet.ofNames xs = NameSet.ofNames ys :=
        NameSet.ofNames_congr fun x => ⟨fun hx => hbelow hx, fun hx => habove hx⟩
      refine isLUB_pair_iff.2 ⟨?_, ?_, fun d hx hy => ?_⟩
      · exact Le.enum (fun x hx => NameSet.mem_ofNames.2 hx) fun _ => rfl
      · exact Le.enum (fun x hx => NameSet.mem_ofNames.2 (habove hx)) fun _ => hset
      cases hx with
      | refl =>
        cases hy with
        | refl => exact absurd rfl hne
        | enum _ hsame =>
          have hsorted : xs = NameSet.ofNames xs := (hsame hbelow).trans hset.symm
          rw [← hsorted]
      | enum hsub hsame =>
        refine Le.enum (fun x hx => hsub (NameSet.mem_ofNames.1 hx)) fun hback => ?_
        rw [hsame fun x hx => NameSet.mem_ofNames.1 (hback hx)]
        exact NameSet.ofNames_congr fun x => NameSet.mem_ofNames.symm
    · rw [if_neg fun hboth => habove hboth.2, if_pos hbelow] at h
      cases h
      exact isLUB_pair_right (Le.enum hbelow fun hback => absurd hback habove)
  · rw [if_neg fun hboth => hbelow hboth.1, if_neg hbelow] at h
    by_cases habove : ys ⊆ xs
    · rw [if_pos habove] at h
      cases h
      exact isLUB_pair_left (Le.enum habove fun hback => absurd hback hbelow)
    · rw [if_neg habove] at h
      cases h

/-- Two different shapes without variables. -/
lemma unifyShapes_joins (hstep : Joins step) (hne : a ≠ b) (ha : a.hasVars = false)
    (hb : b.hasVars = false) (h : unifyShapes step a b s = .ok c s') : IsLUB {a, b} c := by
  cases unifyShapes_outcome h with
  | second hle _ => exact isLUB_pair_right hle
  | first hle _ => exact isLUB_pair_left hle
  | entries hentries => exact unifyEnums_isLUB (fun heq => hne (congrArg enum heq)) hentries
  | parts haligned hzs =>
    exact isLUB_withComponents haligned (unifyLists_joins hstep
      (fun _ => hasVars_of_mem_components ha) (fun _ => hasVars_of_mem_components hb)
      haligned.length_components hzs)

/-- What two types without variables are brought together to is the least type above both. -/
theorem unifyWith_joins (fuel : Nat) : Joins (unifyWith fuel) := by
  induction fuel with
  | zero =>
    intro a b c s s' _ _ h
    cases h
  | succ fuel ih =>
    intro a b c s s' ha hb h
    rw [unifyWith_shapes fuel (ne_var_of_hasVars ha) (ne_var_of_hasVars hb)] at h
    by_cases hab : a = b
    · rw [if_pos hab] at h
      cases h
      exact isLUB_pair_left (le_of_eq hab.symm)
    · rw [if_neg hab] at h
      exact unifyShapes_joins ih hab ha hb h

/-- A step brings two types together to the second. -/
def Takes (step : Ty → Ty → Unify Ty) (a b : Ty) : Prop := ∀ s, ∃ s', step a b s = .ok b s'

lemma unifyLists_takes {xs ys : List Ty} (h : List.Forall₂ (Takes step) xs ys) (s : Bindings) :
    ∃ s', unifyLists step xs ys s = .ok ys s' := by
  induction h generalizing s with
  | nil => exact ⟨s, rfl⟩
  | @cons x y xs ys hxy _ ih =>
    obtain ⟨t, hfirst⟩ := hxy s
    obtain ⟨t', hrest⟩ := ih t
    refine ⟨t', ?_⟩
    simp only [unifyLists, state_bind_eq_ok, state_pure_eq_ok]
    exact ⟨y, t, hfirst, ys, t', hrest, rfl, rfl⟩

lemma unifyWith_takes_of_shapes {fuel : Nat} (ha : a.hasVars = false) (hb : b.hasVars = false)
    (h : a ≠ b → Takes (unifyShapes (unifyWith fuel)) a b) : Takes (unifyWith (fuel + 1)) a b := by
  intro s
  rw [unifyWith_shapes fuel (ne_var_of_hasVars ha) (ne_var_of_hasVars hb)]
  by_cases hab : a = b
  · rw [if_pos hab, hab]
    exact ⟨s, rfl⟩
  · rw [if_neg hab]
    exact h hab s

lemma unifyEnums_of_le {xs ys : List String} (h : enum xs ≤ enum ys) (hne : xs ≠ ys) :
    unifyEnums xs ys = some ys := by
  cases h with
  | refl => exact absurd rfl hne
  | enum hsub hsame =>
    simp only [unifyEnums, Bool.and_eq_true, all_contains_iff]
    by_cases hback : ys ⊆ xs
    · rw [if_pos ⟨hsub, hback⟩, ← hsame hback]
    · rw [if_neg fun hboth => hback hboth.2, if_pos hsub]

/-- A composite type and one above it are brought together part by part. -/
lemma unifyShapes_takes (haligned : Aligned a b) (h : a ≤ b)
    (hparts : ∀ x ∈ a.components, ∀ y ∈ b.components, x ≤ y → Takes step x y) :
    Takes (unifyShapes step) a b := by
  intro s
  obtain ⟨items, rfl, hle⟩ := haligned.left.le_iff.1 h
  have hitems := haligned.components_withComponents hle.length_eq.symm
  rw [hitems] at hparts
  have htakes : List.Forall₂ (Takes step) a.components items :=
    List.forall₂_iff_get.2 ⟨hle.length_eq, fun i hx hy =>
      hparts _ (List.get_mem _ _) _ (List.get_mem _ _) (hle.get hx hy)⟩
  obtain ⟨t, hlists⟩ := unifyLists_takes htakes s
  refine ⟨t, ?_⟩
  rw [unifyShapes_aligned _ haligned, hitems]
  simp only [state_bind_eq_ok, state_pure_eq_ok]
  exact ⟨items, t, hlists, rfl, rfl⟩

/-- A type and one above it are brought together to the latter. -/
theorem unifyWith_takes {fuel : Nat} (hfuel : a.size < fuel) (ha : a.hasVars = false)
    (hb : b.hasVars = false) (h : a ≤ b) : Takes (unifyWith fuel) a b := by
  induction fuel generalizing a b with
  | zero => omega
  | succ fuel ih =>
    apply unifyWith_takes_of_shapes ha hb
    intro hne
    by_cases haligned : Aligned a b
    · refine unifyShapes_takes haligned h fun x hx y hy hle => ?_
      have hsize := size_lt_of_mem_components hx
      exact ih (by omega) (hasVars_of_mem_components ha hx) (hasVars_of_mem_components hb hy) hle
    intro s
    cases h with
    | refl => exact absurd rfl hne
    | any b => cases b <;> exact ⟨s, rfl⟩
    | measure unit => exact ⟨s, rfl⟩
    | openObject fields => exact ⟨s, rfl⟩
    | openTuple items => exact ⟨s, rfl⟩
    | stringEnum entries => exact ⟨_, rfl⟩
    | stringEntity tag => exact ⟨_, rfl⟩
    | @enum xs ys hsub hsame =>
      have hentries := unifyEnums_of_le (Le.enum hsub hsame) fun heq => hne (congrArg enum heq)
      refine ⟨s, ?_⟩
      simp only [unifyShapes, hentries]
      rfl
    | array _ => exact absurd (.array _ _) haligned
    | map _ _ => exact absurd (.map _ _ _ _) haligned
    | tuple hlength _ => exact absurd (.tuple hlength) haligned
    | object hlength hnames h =>
      obtain ⟨_, ⟨⟩, hfields⟩ := object_le_iff.1 (Le.object hlength hnames h)
      exact absurd (.object (names_of_fieldLe hfields)) haligned

lemma size_lt_unifyFuel (a b : Ty) (s : Bindings) : a.size < unifyFuel a b s := by
  have hbase : a.size < 2 * (a.size + b.size + boundSize s.types) + 3 := by omega
  exact lt_of_lt_of_le hbase (Nat.le_self_pow (by decide) _)

end Bounds

/-- Bringing the first type together with the second gives the second. -/
def YieldsTo (a b : Ty) : Prop := ∃ s, unify a b .empty = .ok b s

lemma yieldsTo_iff {a b : Ty} (ha : a.hasVars = false) (hb : b.hasVars = false) :
    a.YieldsTo b ↔ a ≤ b := by
  constructor
  · rintro ⟨s, h⟩
    exact (isLUB_pair_iff.1 (unifyWith_joins _ ha hb h)).1
  · intro h
    exact unifyWith_takes (size_lt_unifyFuel a b .empty) ha hb h .empty

/-- On types without variables unification computes least upper bounds. Yielding to a type is a
partial order; two types that are brought together both yield to the result, the result yields to
every type that both yield to, and no variable is bound on the way. -/
theorem unify_leastUpperBound {a b : Ty} (ha : a.hasVars = false) (hb : b.hasVars = false) :
    a.YieldsTo a ∧ (a.YieldsTo b → b.YieldsTo a → a = b) ∧
      (∀ c, c.hasVars = false → a.YieldsTo b → b.YieldsTo c → a.YieldsTo c) ∧
      ∀ c s s', unify a b s = .ok c s' →
        c.hasVars = false ∧ a.YieldsTo c ∧ b.YieldsTo c ∧
          (∀ d, d.hasVars = false → a.YieldsTo d → b.YieldsTo d → c.YieldsTo d) ∧
          s'.types = s.types := by
  refine ⟨(yieldsTo_iff ha ha).2 (le_refl a), fun hab hba => ?_, fun c hc hab hbc => ?_,
    fun c s s' h => ?_⟩
  · exact le_antisymm ((yieldsTo_iff ha hb).1 hab) ((yieldsTo_iff hb ha).1 hba)
  · exact (yieldsTo_iff ha hc).2
      (le_trans ((yieldsTo_iff ha hb).1 hab) ((yieldsTo_iff hb hc).1 hbc))
  · obtain ⟨hc, htypes, -, -⟩ := unifyWith_widens _ ha hb h
    obtain ⟨hac, hbc, hleast⟩ := isLUB_pair_iff.1 (unifyWith_joins _ ha hb h)
    refine ⟨hc, (yieldsTo_iff ha hc).2 hac, (yieldsTo_iff hb hc).2 hbc, fun d hd had hbd => ?_,
      htypes⟩
    exact (yieldsTo_iff hc hd).2
      (hleast d ((yieldsTo_iff ha hd).1 had) ((yieldsTo_iff hb hd).1 hbd))

/-- Entries in two orders, a unit that is not known and a string in place of an entity: the result
is above both tuples and equal to neither. -/
theorem unify_leastUpperBound_tuple :
    ∃ s', unify (tuple [enum ["b", "a"], measure "", string, array any])
        (tuple [enum ["a", "b", "a"], measure "C", entity "tt:url", any]) .empty =
          .ok (tuple [enum ["a", "b"], measure "C", entity "tt:url", array any]) s' ∧
      (tuple [enum ["b", "a"], measure "", string, array any]).YieldsTo
        (tuple [enum ["a", "b"], measure "C", entity "tt:url", array any]) ∧
      s'.types = [] := by
  have h : unify (tuple [enum ["b", "a"], measure "", string, array any])
      (tuple [enum ["a", "b", "a"], measure "C", entity "tt:url", any]) .empty =
        .ok (tuple [enum ["a", "b"], measure "C", entity "tt:url", array any])
          ⟨[], [.stringFor (entity "tt:url")]⟩ := by rfl
  obtain ⟨-, hleft, -, -, htypes⟩ := (unify_leastUpperBound (by decide) (by decide)).2.2.2 _ _ _ h
  exact ⟨_, h, hleft, htypes⟩

end Ty

end ChannelRules
