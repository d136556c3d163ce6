import ChannelRules.Proofs.Ty.Kept

/-!
# Fuel

Unification is cut off when its fuel runs out. What it gives when it is not cut off does not change
with more fuel. With a side without variables, and variables bound to such types, no more fuel is
needed than that side is deep.
-/

namespace ChannelRules

namespace Ty

section CutOff

variable {α β : Type}

/-- The fuel has run out. -/
def CutOff : EStateM.Result TypeError Bindings α → Prop
  | .error (.circular _ _) _ => True
  | _ => False

/-- The second computation gives what the first one gives, unless the first one is cut off. -/
def Refines (x y : Unify α) : Prop := ∀ s, ¬ CutOff (x s) → y s = x s

lemma refines_refl (x : Unify α) : Refines x x := fun _ _ => rfl

lemma refines_circular (a b : Ty) (y : Unify α) : Refines (throw (.circular a b)) y :=
  fun _ h => absurd trivial h

lemma cutOff_bind {x : Unify α} {f : α → Unify β} {s : Bindings} :
    CutOff ((x >>= f) s) ↔ CutOff (x s) ∨ ∃ a t, x s = .ok a t ∧ CutOff (f a t) := by
  change CutOff (EStateM.bind x f s) ↔ _
  unfold EStateM.bind
  cases x s with
  | ok a t => simp [CutOff]
  | error e t => cases e <;> simp [CutOff]

/-- The second step of a sequence is never cut off. -/
lemma cutOff_bind_iff {x : Unify α} {f : α → Unify β} {s : Bindings}
    (hf : ∀ a t, ¬ CutOff (f a t)) : CutOff ((x >>= f) s) ↔ CutOff (x s) := by
  rw [cutOff_bind]
  exact or_iff_left fun ⟨a, t, _, hcut⟩ => hf a t hcut

lemma Refines.bind {x y : Unify α} {f g : α → Unify β} (hx : Refines x y)
    (hf : ∀ a, Refines (f a) (g a)) : Refines (x >>= f) (y >>= g) := by
  intro s h
  rw [cutOff_bind, not_or] at h
  have hxs := hx s h.1
  change EStateM.bind y g s = EStateM.bind x f s
  unfold EStateM.bind
  rw [hxs]
  cases hresult : x s with
  | ok a t => exact hf a t fun hcut => h.2 ⟨a, t, hresult, hcut⟩
  | error e t => rfl

end CutOff

section Steps

variable {step step' : Ty → Ty → Unify Ty} (hstep : ∀ a b, Refines (step a b) (step' a b))

include hstep

lemma unifyLists_refines (xs ys : List Ty) :
    Refines (unifyLists step xs ys) (unifyLists step' xs ys) := by
  induction xs generalizing ys with
  | nil => exact refines_refl _
  | cons x xs ih =>
    cases ys with
    | nil => exact refines_refl _
    | cons y ys => exact (hstep x y).bind fun _ => (ih ys).bind fun _ => refines_refl _

lemma unifyShapes_refines (a b : Ty) :
    Refines (unifyShapes step a b) (unifyShapes step' a b) := by
  rcases unifyShapes_cases a b with ⟨result, -, hresult⟩ | haligned
  · rw [hresult, hresult]
    exact refines_refl _
  · rw [unifyShapes_aligned _ haligned, unifyShapes_aligned _ haligned]
    exact (unifyLists_refines hstep _ _).bind fun _ => refines_refl _

lemma unifyVar_refines (name : String) (b : Ty) :
    Refines (unifyVar step name b) (unifyVar step' name b) := by
  refine (refines_refl _).bind fun found => ?_
  cases found with
  | some bound => exact (hstep bound b).bind fun _ => refines_refl _
  | none => exact refines_refl _

lemma unifyVars_refines (a b : String) :
    Refines (unifyVars step a b) (unifyVars step' a b) := by
  refine (refines_refl _).bind fun x => (refines_refl _).bind fun y => ?_
  match x, y with
  | some x, some y => exact (hstep x y).bind fun _ => refines_refl _
  | some _, none | none, some _ | none, none => exact refines_refl _

end Steps

/-- More fuel does not change what is not cut off. -/
theorem unifyWith_refines {fuel more : Nat} (hle : fuel ≤ more) (a b : Ty) :
    Refines (unifyWith fuel a b) (unifyWith more a b) := by
  induction fuel generalizing more a b with
  | zero => exact refines_circular a b _
  | succ fuel ih =>
    obtain ⟨more, rfl⟩ := Nat.exists_eq_succ_of_ne_zero (show more ≠ 0 by omega)
    have hstep : ∀ a b, Refines (unifyWith fuel a b) (unifyWith more a b) :=
      fun a b => ih (by omega) a b
    rw [Nat.succ_eq_add_one]
    cases sides a b with
    | vars x y => exact unifyVars_refines hstep x y
    | left name hother =>
      rw [unifyWith_var _ name hother, unifyWith_var _ name hother]
      exact unifyVar_refines hstep name b
    | right name hother =>
      rw [unifyWith_var_right _ name hother, unifyWith_var_right _ name hother]
      exact unifyVar_refines hstep name a
    | shapes ha hb =>
      rw [unifyWith_shapes _ ha hb, unifyWith_shapes _ ha hb]
      split
      · exact refines_refl _
      · exact unifyShapes_refines hstep a b

/-- A type without variables. -/
def Plain (ty : Ty) : Prop := ty.hasVars = false

lemma inherited_plain : Inherited Plain where
  part := hasVars_of_mem_components
  withComponents := hasVars_withComponents
  enum := fun _ => rfl

section Finishes

variable {α β : Type} {Q : α → Prop} {R : β → Prop}

/-- A computation that is not cut off and keeps variables bound to types without variables. -/
def Finishes (x : Unify α) (Q : α → Prop) : Prop :=
  ∀ s, BindsOnly Plain s.types → Kept Plain Q (x s) ∧ ¬ CutOff (x s)

lemma finishes_pure {a : α} (ha : Q a) : Finishes (pure a) Q := fun _ hs => ⟨⟨hs, ha⟩, id⟩

lemma Finishes.bind {x : Unify α} {f : α → Unify β} (hx : Finishes x Q)
    (hf : ∀ a, Q a → Finishes (f a) R) : Finishes (x >>= f) R := by
  intro s hs
  have hkeeps : Keeps Plain x Q := fun t ht => (hx t ht).1
  refine ⟨hkeeps.bind (fun a ha t ht => (hf a ha t ht).1) s hs, ?_⟩
  rw [cutOff_bind]
  rintro (hcut | ⟨a, t, hxs, hcut⟩)
  · exact (hx s hs).2 hcut
  · obtain ⟨ht, ha⟩ := hkeeps.ok hs hxs
    exact (hf a ha t ht).2 hcut

lemma finishes_direct {a b : Ty} {result : Unify Ty} (h : Direct a b result) :
    Finishes result fun _ => True := by
  intro s hs
  cases h with
  | second _ | first _ | secondNoted _ | firstNoted _ | entries _ => exact ⟨⟨hs, trivial⟩, id⟩
  | apart => exact ⟨hs, id⟩

end Finishes

section Steps

variable {step : Ty → Ty → Unify Ty}

lemma unifyLists_finishes {xs ys : List Ty}
    (h : List.Forall₂ (fun x y => Finishes (step x y) fun _ => True) xs ys) :
    Finishes (unifyLists step xs ys) fun _ => True := by
  induction h with
  | nil => exact finishes_pure trivial
  | cons hxy _ ih => exact hxy.bind fun _ _ => ih.bind fun _ _ => finishes_pure trivial

lemma unifyShapes_finishes {a b : Ty} (h : Aligned a b →
      ∀ x ∈ a.components, ∀ y ∈ b.components, Finishes (step x y) fun _ => True) :
    Finishes (unifyShapes step a b) fun _ => True := by
  rcases unifyShapes_cases a b with ⟨result, hdirect, hresult⟩ | haligned
  · rw [hresult]
    exact finishes_direct hdirect
  · rw [unifyShapes_aligned _ haligned]
    have hparts : List.Forall₂ (fun x y => Finishes (step x y) fun _ => True)
        a.components b.components :=
      List.forall₂_iff_get.2 ⟨haligned.length_components, fun i hx hy =>
        h haligned _ (List.get_mem _ _) _ (List.get_mem _ _)⟩
    exact (unifyLists_finishes hparts).bind fun _ _ => finishes_pure trivial

lemma finishes_lookup (name : String) :
    Finishes (lookup name) fun found => ∀ ty ∈ found, Plain ty :=
  fun s hs => ⟨keeps_lookup name s hs, id⟩

lemma finishes_assign (name : String) {ty : Ty} (hty : Plain ty) :
    Finishes (assign name ty) fun _ => True :=
  fun s hs => ⟨keeps_assign name hty s hs, id⟩

lemma unifyVar_finishes (name : String) {b : Ty} (hb : Plain b)
    (h : ∀ bound, Plain bound → Finishes (step bound b) Plain) :
    Finishes (unifyVar step name b) fun _ => True := by
  refine (finishes_lookup name).bind fun found hfound => ?_
  cases found with
  | some bound =>
    refine (h bound (hfound bound rfl)).bind fun c hc => ?_
    exact (finishes_assign name hc).bind fun _ _ => finishes_pure trivial
  | none => exact (finishes_assign name hb).bind fun _ _ => finishes_pure trivial

end Steps

/-- Two types without variables take no more fuel than one of them is deep. -/
theorem unifyWith_finishes_plain {fuel : Nat} {a b : Ty} (ha : Plain a) (hb : Plain b)
    (hfuel : a.size < fuel ∨ b.size < fuel) : Finishes (unifyWith fuel a b) Plain := by
  suffices h : Finishes (unifyWith fuel a b) fun _ => True from
    fun s hs => ⟨unifyWith_keeps inherited_plain fuel ha hb s hs, (h s hs).2⟩
  induction fuel generalizing a b with
  | zero => omega
  | succ fuel ih =>
    rw [unifyWith_shapes fuel (ne_var_of_hasVars ha) (ne_var_of_hasVars hb)]
    split
    · exact finishes_pure trivial
    · refine unifyShapes_finishes fun _ x hx y hy => ?_
      have hxsize := size_lt_of_mem_components hx
      have hysize := size_lt_of_mem_components hy
      exact ih (hasVars_of_mem_components ha hx) (hasVars_of_mem_components hb hy) (by omega)

/-- With a side without variables, no more fuel is taken than that side is deep. -/
theorem unifyWith_finishes {fuel : Nat} {a b : Ty}
    (h : Plain a ∧ a.size + 1 < fuel ∨ Plain b ∧ b.size + 1 < fuel) :
    Finishes (unifyWith fuel a b) fun _ => True := by
  induction fuel generalizing a b with
  | zero => omega
  | succ fuel ih =>
    cases sides a b with
    | vars x y => rcases h with ⟨h, -⟩ | ⟨h, -⟩ <;> cases h
    | left name hother =>
      obtain ⟨hb, hsize⟩ := h.resolve_left fun h => nomatch h.1
      rw [unifyWith_var fuel name hother]
      exact unifyVar_finishes name hb fun bound hbound =>
        unifyWith_finishes_plain hbound hb (.inr (by omega))
    | right name hother =>
      obtain ⟨ha, hsize⟩ := h.resolve_right fun h => nomatch h.1
      rw [unifyWith_var_right fuel name hother]
      exact unifyVar_finishes name ha fun bound hbound =>
        unifyWith_finishes_plain hbound ha (.inr (by omega))
    | shapes hvarA hvarB =>
      rw [unifyWith_shapes fuel hvarA hvarB]
      split
      · exact finishes_pure trivial
      · refine unifyShapes_finishes fun _ x hx y hy => ih ?_
        have hxsize := size_lt_of_mem_components hx
        have hysize := size_lt_of_mem_components hy
        exact h.imp (fun h => ⟨hasVars_of_mem_components h.1 hx, by omega⟩)
          fun h => ⟨hasVars_of_mem_components h.1 hy, by omega⟩

/-- Unification with a side without variables is not cut off. -/
lemma unify_finishes {a b : Ty} (h : a.hasVars = false ∨ b.hasVars = false) :
    Finishes (unify a b) fun _ => True := by
  intro s hs
  have hbase : a.size + b.size + 1 < unifyFuel a b s := by
    have hle : a.size + b.size + 1 < 2 * (a.size + b.size + boundSize s.types) + 3 := by omega
    exact lt_of_lt_of_le hle (Nat.le_self_pow (by decide) _)
  exact unifyWith_finishes (h.imp (fun h => ⟨h, by omega⟩) fun h => ⟨h, by omega⟩) s hs

end Ty

end ChannelRules
