import ChannelRules.Proofs.Ty.Unify

/-!
# Choosing a signature

A use of a builtin takes one of its signatures. With the bindings that the choice was made with, the
parameters of the signature have the values of the arguments, and a value of the result of the
signature has the type of the use.
-/

namespace ChannelRules

open Ty (meaning Closed Extends)

/-- A value can be given for a parameter. A parameter of any type takes every value. -/
def Value.Accepted (vars : String → Value → Prop) (v : Value) (formal : Ty) : Prop :=
  formal = .any ∨ v.Inhabits vars formal

lemma Value.Accepted.mono {vars vars' : String → Value → Prop} {v : Value} {formal : Ty}
    (hvars : ∀ name v, vars name v → vars' name v) (h : v.Accepted vars formal) :
    v.Accepted vars' formal :=
  h.imp_right fun h => h.mono hvars

namespace Overload

/-- The parameters of a signature are of any type, or of types that unification can bind. -/
def isProper (formal : Ty) : Bool := formal == .any || formal.isFormal

section

variable {s s' : Bindings}

lemma unify_accepts {formal arg c : Ty} (hformal : isProper formal = true)
    (harg : arg.hasVars = false) (hs : Closed s.types) (h : Ty.unify formal arg s = .ok c s') :
    Extends s.types s'.types ∧ ∀ v : Value, v.HasType arg → v.Accepted (meaning s'.types) formal := by
  rw [isProper, Bool.or_eq_true, beq_iff_eq] at hformal
  rcases hformal with rfl | hformal
  · obtain ⟨-, htypes, -, -⟩ := Ty.unifyWith_widens _ rfl harg h
    rw [htypes]
    exact ⟨Ty.extends_refl hs, fun v _ => .inl rfl⟩
  · obtain ⟨hext, hvalues⟩ := Ty.unifyWith_fits _ hformal harg hs h
    exact ⟨hext, fun v hv => .inr (hvalues v hv)⟩

lemma shareUnit_state {unit unit' : Option String} {units : List String}
    (h : shareUnit unit units s = .ok unit' s') : s' = s := by
  induction units generalizing unit with
  | nil =>
    cases unit <;> cases h <;> rfl
  | cons found more ih =>
    cases unit with
    | none => exact ih h
    | some old =>
      rw [shareUnit] at h
      split at h
      · exact ih h
      · cases h

/-- Fitting arguments to parameters binds variables so that every parameter takes the values of its
argument. -/
lemma fit_accepts {formals args types : List Ty} {unit unit' : Option String}
    (hformals : ∀ formal ∈ formals, isProper formal = true)
    (hargs : ∀ arg ∈ args, arg.hasVars = false) (hlength : formals.length = args.length)
    (hs : Closed s.types) (h : fit unit formals args s = .ok (types, unit') s') :
    Extends s.types s'.types ∧
      List.Forall₂ (fun arg formal => ∀ v : Value, v.HasType arg → v.Accepted (meaning s'.types) formal)
        args formals := by
  induction formals generalizing args types unit unit' s with
  | nil =>
    cases args with
    | nil =>
      cases h
      exact ⟨Ty.extends_refl hs, .nil⟩
    | cons arg args => cases hlength
  | cons formal formals ih =>
    cases args with
    | nil => cases hlength
    | cons arg args =>
      simp only [fit, state_bind_eq_ok, state_pure_eq_ok, Prod.mk.injEq] at h
      obtain ⟨ty, t, hty, shared, t', hshared, ⟨others, last⟩, t'', hrest, -, rfl⟩ := h
      have hstate := shareUnit_state hshared
      subst hstate
      obtain ⟨hext, hvalues⟩ := unify_accepts (hformals formal List.mem_cons_self)
        (hargs arg List.mem_cons_self) hs hty
      obtain ⟨hrestExt, hrestValues⟩ := ih (fun f hf => hformals f (List.mem_cons_of_mem _ hf))
        (fun a ha => hargs a (List.mem_cons_of_mem _ ha)) (Nat.succ.inj hlength) hext.closed hrest
      refine ⟨Ty.extends_trans hext hrestExt, .cons (fun v hv => ?_) hrestValues⟩
      exact (hvalues v hv).mono hrestExt.grows

end

lemma length_of_formals? {overload : Overload} {count : Nat} {formals : List Ty}
    (h : overload.formals? count = some formals) : formals.length = count := by
  unfold formals? at h
  split at h
  · split at h
    · rename_i hle
      cases h
      rw [List.length_append, List.length_replicate]
      omega
    · cases h
  · split at h
    · rename_i heq
      cases h
      exact heq.symm
    · cases h

lemma mem_of_formals? {overload : Overload} {count : Nat} {formals : List Ty}
    (h : overload.formals? count = some formals) {formal : Ty} (hformal : formal ∈ formals) :
    formal ∈ overload.params ∨ formal ∈ overload.rest := by
  unfold formals? at h
  split at h
  · rename_i rest hrest
    split at h
    · cases h
      rcases List.mem_append.1 hformal with hformal | hformal
      · exact .inl hformal
      · rw [List.eq_of_mem_replicate hformal]
        exact .inr hrest
    · cases h
  · split at h
    · cases h
      exact .inl hformal
    · cases h

lemma hasType_withUnit {unit : Option String} {ty : Ty} {v : Value} (h : v.HasType ty) :
    v.HasType (withUnit unit ty) := by
  unfold withUnit
  split
  · exact Ty.measure_within _ _ v h
  · exact h

lemma hasVars_withUnit {unit : Option String} {ty : Ty} (h : ty.hasVars = false) :
    (withUnit unit ty).hasVars = false := by
  unfold withUnit
  split
  · rfl
  · exact h

lemma isStatic_of_withUnit {unit : Option String} {ty : Ty}
    (h : (withUnit unit ty).isStatic = true) : ty.isStatic = true := by
  unfold withUnit at h
  split at h
  · rfl
  · exact h

/-- Every parameter of a signature, and of the arguments beyond them, is proper. -/
def Proper (overload : Overload) : Prop :=
  (∀ formal ∈ overload.params, isProper formal = true) ∧
    ∀ formal ∈ overload.rest, isProper formal = true

instance (overload : Overload) : Decidable overload.Proper :=
  inferInstanceAs (Decidable (_ ∧ _))

/-- A signature is tried with success when its parameters fit the arguments; its variables and its
unit are then replaced. -/
lemma attempt_eq_ok {overload : Overload} {formals args params : List Ty} {result : Ty}
    (h : (overload.attempt formals args).result = .ok (params, result)) :
    ∃ types unit s, fit none formals args .empty = .ok (types, unit) s ∧
      params = types.map (Ty.resolve s.types) ∧
      result = withUnit unit (overload.result.resolve s.types) := by
  unfold attempt at h
  cases hfit : fit none formals args .empty with
  | error e s =>
    rw [hfit] at h
    cases h
  | ok found s =>
    obtain ⟨types, unit⟩ := found
    rw [hfit] at h
    obtain ⟨rfl, rfl⟩ := Prod.mk.inj (Except.ok.inj h)
    exact ⟨types, unit, s, rfl, rfl, rfl⟩

/-- A signature that is tried with success takes the values of the arguments, and a value of its
result has the type that was found. -/
lemma attempt_accepts {overload : Overload} {formals args params : List Ty} {result : Ty}
    (hproper : overload.Proper) (hformals : overload.formals? args.length = some formals)
    (hargs : ∀ arg ∈ args, arg.hasVars = false) (hresult : result.isStatic = true)
    (h : (overload.attempt formals args).result = .ok (params, result)) :
    ∃ vars : String → Value → Prop,
      List.Forall₂ (fun arg formal => ∀ v : Value, v.HasType arg → v.Accepted vars formal)
        args formals ∧ ∀ v : Value, v.Inhabits vars overload.result → v.HasType result := by
  obtain ⟨types, unit, s, hfit, -, rfl⟩ := attempt_eq_ok h
  have hproper' : ∀ formal ∈ formals, isProper formal = true := fun formal hformal =>
    (mem_of_formals? hformals hformal).elim (hproper.1 formal) (hproper.2 formal)
  obtain ⟨hext, hvalues⟩ := fit_accepts hproper' hargs (length_of_formals? hformals)
    Ty.closed_nil hfit
  refine ⟨meaning s.types, hvalues, fun v hv => hasType_withUnit ?_⟩
  exact Ty.hasType_resolveWith hext.closed _ (isStatic_of_withUnit hresult) hv

end Overload

/-- The signature that is chosen is one of the builtin's, and trying it succeeds. -/
lemma Builtin.resolveFrom_eq_ok {name : String} {args : List Ty} {overloads : List Overload}
    {index : Nat} {tried : Bool} {resolution : Resolution}
    (h : (resolveFrom name args index tried overloads).result = .ok resolution) :
    ∃ overload ∈ overloads, ∃ formals, overload.formals? args.length = some formals ∧
      (overload.attempt formals args).result = .ok (resolution.params, resolution.result) ∧
      resolution.op.native = overload.native := by
  induction overloads generalizing index tried with
  | nil => cases h
  | cons overload more ih =>
    rw [resolveFrom] at h
    split at h
    · obtain ⟨o, ho, hrest⟩ := ih h
      exact ⟨o, List.mem_cons_of_mem _ ho, hrest⟩
    · rename_i formals hformals
      split at h
      · rename_i notices params result hattempt
        cases h
        exact ⟨overload, List.mem_cons_self, formals, hformals, by rw [hattempt], rfl⟩
      · obtain ⟨o, ho, hrest⟩ := ih h
        exact ⟨o, List.mem_cons_of_mem _ ho, hrest⟩

end ChannelRules
