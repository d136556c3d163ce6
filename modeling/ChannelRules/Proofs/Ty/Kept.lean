import ChannelRules.Proofs.Ty.Shape

/-!
# Properties that unification keeps

A property of types is inherited if the parts of a type have it and a type that is put together from
such parts has it. If two types and all bound types have an inherited property, then so do the type
that they are brought together to and all types that are bound in the end, also after a failure.
-/

namespace ChannelRules

namespace Ty

/-- The parts of a type have the property, and so has a type with other parts that have it. -/
structure Inherited (P : Ty → Prop) : Prop where
  part : ∀ {ty part : Ty}, P ty → part ∈ ty.components → P part
  withComponents : ∀ {ty : Ty} {items : List Ty}, P ty → (∀ item ∈ items, P item) →
    P (ty.withComponents items)
  enum : ∀ entries, P (enum entries)

/-- All bound types have the property. -/
def BindsOnly (P : Ty → Prop) (types : Named Ty) : Prop :=
  ∀ name ty, Named.get? types name = some ty → P ty

lemma bindsOnly_nil (P : Ty → Prop) : BindsOnly P [] := nofun

lemma BindsOnly.insert {P : Ty → Prop} {types : Named Ty} (h : BindsOnly P types) (name : String)
    {ty : Ty} (hty : P ty) : BindsOnly P (Named.insert types name ty) := by
  intro other found hget
  by_cases hother : other = name
  · rw [hother, Named.get?_insert_self] at hget
    cases hget
    exact hty
  · rw [Named.get?_insert_of_ne _ _ hother] at hget
    exact h other found hget

section Keeps

variable {α β : Type} {P : Ty → Prop} {Q : α → Prop} {R : β → Prop}

/-- The bound types have the property, and so has a result if there is one. -/
def Kept (P : Ty → Prop) (Q : α → Prop) : EStateM.Result TypeError Bindings α → Prop
  | .ok a s => BindsOnly P s.types ∧ Q a
  | .error _ s => BindsOnly P s.types

/-- A computation that keeps a property of the bound types. -/
def Keeps (P : Ty → Prop) (x : Unify α) (Q : α → Prop) : Prop :=
  ∀ s, BindsOnly P s.types → Kept P Q (x s)

lemma keeps_pure {a : α} (ha : Q a) : Keeps P (pure a) Q := fun _ hs => ⟨hs, ha⟩

lemma keeps_throw (e : TypeError) : Keeps P (throw e) Q := fun _ hs => hs

lemma Keeps.bind {x : Unify α} {f : α → Unify β} (hx : Keeps P x Q)
    (hf : ∀ a, Q a → Keeps P (f a) R) : Keeps P (x >>= f) R := by
  intro s hs
  have hkept := hx s hs
  change Kept P R (EStateM.bind x f s)
  unfold EStateM.bind
  cases hresult : x s with
  | ok a t =>
    rw [hresult] at hkept
    exact hf a hkept.2 t hkept.1
  | error e t =>
    rw [hresult] at hkept
    exact hkept

lemma keeps_lookup (name : String) : Keeps P (lookup name) fun found => ∀ ty ∈ found, P ty :=
  fun _ hs => ⟨hs, fun ty hty => hs name ty hty⟩

lemma keeps_assign (name : String) {ty : Ty} (hty : P ty) : Keeps P (assign name ty) fun _ => True :=
  fun _ hs => ⟨hs.insert name hty, trivial⟩

lemma Keeps.ok {x : Unify α} (h : Keeps P x Q) {s s' : Bindings} {a : α} (hs : BindsOnly P s.types)
    (hx : x s = .ok a s') : BindsOnly P s'.types ∧ Q a := by
  have hkept := h s hs
  rw [hx] at hkept
  exact hkept

end Keeps

section Steps

variable {P : Ty → Prop} {step : Ty → Ty → Unify Ty}

lemma keeps_direct (hP : Inherited P) {a b : Ty} {result : Unify Ty} (ha : P a) (hb : P b)
    (h : Direct a b result) : Keeps P result P := by
  intro s hs
  cases h with
  | second _ => exact ⟨hs, hb⟩
  | first _ => exact ⟨hs, ha⟩
  | secondNoted _ => exact ⟨hs, hb⟩
  | firstNoted _ => exact ⟨hs, ha⟩
  | entries _ => exact ⟨hs, hP.enum _⟩
  | apart => exact hs

variable (hstep : ∀ a b : Ty, P a → P b → Keeps P (step a b) P)

include hstep

lemma unifyLists_keeps {xs ys : List Ty} (hxs : ∀ x ∈ xs, P x) (hys : ∀ y ∈ ys, P y) :
    Keeps P (unifyLists step xs ys) fun zs => ∀ z ∈ zs, P z := by
  induction xs generalizing ys with
  | nil => exact keeps_pure (List.forall_mem_nil _)
  | cons x xs ih =>
    cases ys with
    | nil => exact keeps_pure (List.forall_mem_nil _)
    | cons y ys =>
      rw [List.forall_mem_cons] at hxs hys
      refine (hstep x y hxs.1 hys.1).bind fun z hz => (ih hxs.2 hys.2).bind fun zs hzs => ?_
      exact keeps_pure (List.forall_mem_cons.2 ⟨hz, hzs⟩)

lemma unifyShapes_keeps (hP : Inherited P) {a b : Ty} (ha : P a) (hb : P b) :
    Keeps P (unifyShapes step a b) P := by
  rcases unifyShapes_cases a b with ⟨result, hdirect, hresult⟩ | haligned
  · rw [hresult]
    exact keeps_direct hP ha hb hdirect
  · rw [unifyShapes_aligned _ haligned]
    refine (unifyLists_keeps hstep (fun x hx => hP.part ha hx) fun y hy => hP.part hb hy).bind
      fun zs hzs => ?_
    exact keeps_pure (hP.withComponents ha hzs)

lemma unifyVar_keeps (name : String) {b : Ty} (hb : P b) : Keeps P (unifyVar step name b) P := by
  refine (keeps_lookup name).bind fun found hfound => ?_
  cases found with
  | some bound =>
    refine (hstep bound b (hfound bound rfl) hb).bind fun c hc => ?_
    exact (keeps_assign name hc).bind fun _ _ => keeps_pure hc
  | none => exact (keeps_assign name hb).bind fun _ _ => keeps_pure hb

lemma unifyVars_keeps (a : String) {b : String} (hb : P (var b)) :
    Keeps P (unifyVars step a b) P := by
  refine (keeps_lookup a).bind fun x hx => (keeps_lookup b).bind fun y hy => ?_
  match x, y with
  | some x, some y =>
    refine (hstep x y (hx x rfl) (hy y rfl)).bind fun c hc => ?_
    refine (keeps_assign a hc).bind fun _ _ => ?_
    exact (keeps_assign b hc).bind fun _ _ => keeps_pure hc
  | some x, none => exact (keeps_assign b (hx x rfl)).bind fun _ _ => keeps_pure (hx x rfl)
  | none, some y => exact (keeps_assign a (hy y rfl)).bind fun _ _ => keeps_pure (hy y rfl)
  | none, none =>
    dsimp only
    split
    · exact (keeps_assign a hb).bind fun _ _ => keeps_pure hb
    · exact keeps_pure hb

end Steps

/-- Unification keeps every inherited property. -/
theorem unifyWith_keeps {P : Ty → Prop} (hP : Inherited P) (fuel : Nat) {a b : Ty} (ha : P a)
    (hb : P b) : Keeps P (unifyWith fuel a b) P := by
  induction fuel generalizing a b with
  | zero => exact keeps_throw _
  | succ fuel ih =>
    have hstep : ∀ a b : Ty, P a → P b → Keeps P (unifyWith fuel a b) P := fun _ _ => ih
    cases sides a b with
    | vars x y => exact unifyVars_keeps hstep x hb
    | left name hother =>
      rw [unifyWith_var fuel name hother]
      exact unifyVar_keeps hstep name hb
    | right name hother =>
      rw [unifyWith_var_right fuel name hother]
      exact unifyVar_keeps hstep name ha
    | shapes hvarA hvarB =>
      rw [unifyWith_shapes fuel hvarA hvarB]
      split
      · exact keeps_pure ha
      · exact unifyShapes_keeps hstep hP ha hb

end Ty

end ChannelRules
