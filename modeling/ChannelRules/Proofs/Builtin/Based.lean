import ChannelRules.Builtin.Table
import ChannelRules.Proofs.Builtin.Overload
import ChannelRules.Proofs.Ty.Based

/-!
# Signatures in base units

The measures in the signatures of builtins are in base units or in an open unit. If the types of the
arguments are in base units, then so is the unit that a signature takes on, and with it the type of
the result.
-/

namespace ChannelRules

namespace Overload

open Ty (StaysBased staysBased_pure staysBased_throw)

/-- A unit that a formal type has taken on is a base unit. -/
lemma boundUnits_based {formal actual : Ty} (h : actual.isBased = true) :
    ∀ unit ∈ boundUnits formal actual, (Ty.measure unit).isBased = true := by
  fun_induction boundUnits formal actual with
  | case1 formal actual _ => exact List.forall_mem_singleton.2 h
  | case2 formal actual _ => exact List.forall_mem_nil _
  | case3 formal actual ih => exact ih h
  | case4 key value key' value' ihkey ihvalue =>
    rw [Ty.isBased, Bool.and_eq_true] at h
    exact List.forall_mem_append.2 ⟨ihkey h.1, ihvalue h.2⟩
  | case5 formal actual _ _ _ => exact List.forall_mem_nil _

lemma shareUnit_staysBased {unit : Option String} {units : List String}
    (hunit : ∀ u ∈ unit, (Ty.measure u).isBased = true)
    (hunits : ∀ u ∈ units, (Ty.measure u).isBased = true) :
    StaysBased (shareUnit unit units) fun found => ∀ u ∈ found, (Ty.measure u).isBased = true := by
  induction units generalizing unit with
  | nil =>
    cases unit with
    | none => exact staysBased_pure hunit
    | some old => exact staysBased_pure hunit
  | cons found more ih =>
    rw [List.forall_mem_cons] at hunits
    cases unit with
    | none => exact ih (fun u hu => Option.mem_some_iff.1 hu ▸ hunits.1) hunits.2
    | some old =>
      rw [shareUnit]
      split
      · exact ih hunit hunits.2
      · exact staysBased_throw _

/-- Arguments in base units fit parameters in base units with a shared base unit. -/
lemma fit_staysBased {unit : Option String} {formals args : List Ty}
    (hunit : ∀ u ∈ unit, (Ty.measure u).isBased = true)
    (hformals : ∀ formal ∈ formals, formal.isBased = true)
    (hargs : ∀ arg ∈ args, arg.isBased = true) :
    StaysBased (fit unit formals args) fun found =>
      ∀ u ∈ found.2, (Ty.measure u).isBased = true := by
  induction formals generalizing unit args with
  | nil => exact staysBased_pure hunit
  | cons formal formals ih =>
    cases args with
    | nil => exact staysBased_pure hunit
    | cons arg args =>
      rw [List.forall_mem_cons] at hformals hargs
      refine (Ty.unify_staysBased hformals.1 hargs.1).bind fun ty hty => ?_
      refine (shareUnit_staysBased hunit (boundUnits_based hty)).bind fun shared hshared => ?_
      exact (ih hshared hformals.2 hargs.2).bind fun found hfound => staysBased_pure hfound

lemma isBased_withUnit {unit : Option String} {ty : Ty}
    (hunit : ∀ u ∈ unit, (Ty.measure u).isBased = true) (hty : ty.isBased = true) :
    (withUnit unit ty).isBased = true := by
  unfold withUnit
  split
  · rename_i found old
    split
    · exact hunit found rfl
    · exact hty
  · exact hty

/-- All types of a signature are in base units. -/
def IsBased (overload : Overload) : Prop :=
  (∀ formal ∈ overload.params, formal.isBased = true) ∧
    (∀ formal ∈ overload.rest, formal.isBased = true) ∧ overload.result.isBased = true

instance (overload : Overload) : Decidable overload.IsBased :=
  inferInstanceAs (Decidable (_ ∧ _ ∧ _))

end Overload

namespace Builtin

/-- All types of all signatures are in base units. -/
lemma tables_based : ∀ builtin ∈ binaryOperators ++ unaryOperators ++ functions,
    ∀ overload ∈ builtin.overloads, overload.IsBased := by
  decide

/-- With arguments in base units the result of a use is in base units. -/
theorem isBased_resolve {builtin : Builtin} {args : List Ty} {resolution : Resolution}
    (hbuiltin : builtin ∈ binaryOperators ++ unaryOperators ++ functions)
    (hargs : ∀ arg ∈ args, arg.isBased = true)
    (h : (builtin.resolve args).result = .ok resolution) : resolution.result.isBased = true := by
  obtain ⟨overload, hoverload, formals, hformals, hattempt, -⟩ := resolveFrom_eq_ok h
  obtain ⟨hparams, hrest, hresult⟩ := tables_based builtin hbuiltin overload hoverload
  obtain ⟨types, unit, s, hfit, -, heq⟩ := Overload.attempt_eq_ok hattempt
  have hbased : ∀ formal ∈ formals, formal.isBased = true := fun formal hformal =>
    (Overload.mem_of_formals? hformals hformal).elim (hparams formal) (hrest formal)
  obtain ⟨hbinds, hunit⟩ :=
    Overload.fit_staysBased (by simp) hbased hargs _ _ _ Ty.bindsBased_nil hfit
  rw [heq]
  exact Overload.isBased_withUnit hunit (Ty.isBased_resolveWith hbinds _ hresult)

end Builtin

end ChannelRules
