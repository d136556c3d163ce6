import ChannelRules.Proofs.Builtin.Overload
import ChannelRules.Proofs.Check.Expr
import ChannelRules.Proofs.Value.Literal

/-!
# Variables of types stay in signatures

Type variables occur in the signatures of builtins only. When a signature is chosen, its variables
are replaced, so no checked expression has a type with variables if the names in scope have none.
-/

namespace ChannelRules

open Typed (Expr)

/-- The type that a use of a builtin gets has no variables. -/
lemma Builtin.hasVars_resolve {builtin : Builtin} {args : List Ty} {resolution : Resolution}
    (h : (builtin.resolve args).result = .ok resolution) : resolution.result.hasVars = false := by
  obtain ⟨overload, -, formals, -, hattempt, -⟩ := resolveFrom_eq_ok h
  obtain ⟨types, unit, s, -, -, hresult⟩ := Overload.attempt_eq_ok hattempt
  rw [hresult]
  exact Overload.hasVars_withUnit (Ty.hasVars_resolveWith _ _ _)

/-- Names in scope whose types have no variables. -/
def Scope.Plain (scope : Scope) : Prop :=
  ∀ name entry, scope.get? name = some entry → entry.ty.hasVars = false

/-- Keywords whose types have no variables. -/
def PlainKeywords (keywords : Named Ty) : Prop :=
  ∀ cell ty, Named.get? keywords cell = some ty → ty.hasVars = false

lemma hasVars_memberType {object ty : Ty} {name : String} (hobject : object.hasVars = false)
    (h : memberType object name = .ok ty) : ty.hasVars = false := by
  unfold memberType at h
  split at h
  · split at h
    · rename_i hget
      cases h
      exact Ty.hasVarsFields_eq_false.1 hobject _ (Named.mem_of_get? hget)
    · cases h
  · cases h
    rfl
  · cases h
    rfl
  · cases h

/-- The type of a checked expression has no variables. -/
theorem Checked.hasVars {scope : Scope} {keywords : Named Ty} {te : Expr}
    (h : Checked scope keywords te) (hscope : scope.Plain) (hkeywords : PlainKeywords keywords) :
    te.ty.hasVars = false := by
  induction h with
  | constant _ hty => exact Value.hasVars_typeOf _ hty
  | var hget _ => exact hscope _ _ hget
  | keyword hget => exact hscope _ _ hget
  | moduleKeyword hget => exact hkeywords _ _ hget
  | member _ hty ih => exact hasVars_memberType ih hty
  | call _ _ hresolve _ => exact Builtin.hasVars_resolve hresolve
  | unary _ _ hresolve _ => exact Builtin.hasVars_resolve hresolve
  | binary _ _ _ hresolve _ _ => exact Builtin.hasVars_resolve hresolve
  | tuple _ ih =>
    rw [Expr.ty, Ty.hasVars, Ty.hasVarsItems_eq_false]
    intro ty hty
    obtain ⟨item, hitem, rfl⟩ := List.mem_map.1 hty
    exact ih item hitem
  | array _ hjoin ih =>
    refine (Ty.join_widens (fun ty hty => ?_) hjoin).1
    obtain ⟨item, hitem, rfl⟩ := List.mem_map.1 hty
    exact ih item hitem

section Items

variable {scope : Scope} {keywords : Named Ty} {xs : List Source.Expr} {ty : Ty}

/-- The checker accepts an expression, with a type. -/
def Source.Expr.TypedAs (scope : Scope) (keywords : Named Ty) (e : Source.Expr) (ty : Ty) : Prop :=
  (checkExpr scope keywords e).result.map Typed.Expr.ty = .ok ty

lemma typedAs_iff {e : Source.Expr} :
    e.TypedAs scope keywords ty ↔ ∃ te, (checkExpr scope keywords e).result = .ok te ∧ te.ty = ty := by
  unfold Source.Expr.TypedAs
  cases (checkExpr scope keywords e).result <;> simp [Except.map]

lemma typedAs_unique {e : Source.Expr} {ty' : Ty} (h : e.TypedAs scope keywords ty)
    (h' : e.TypedAs scope keywords ty') : ty' = ty :=
  Except.ok.inj (h'.symm.trans h)

/-- The types that the items of a list get have no variables. -/
def PlainItems (scope : Scope) (keywords : Named Ty) (xs : List Source.Expr) : Prop :=
  ∀ x ∈ xs, ∀ ty, x.TypedAs scope keywords ty → ty.hasVars = false

lemma plainItems_of_plain (hscope : scope.Plain) (hkeywords : PlainKeywords keywords) :
    PlainItems scope keywords xs := by
  intro x _ ty hty
  obtain ⟨te, hte, rfl⟩ := typedAs_iff.1 hty
  exact (checkExpr_checked scope keywords x hte).hasVars hscope hkeywords

lemma PlainItems.hasVars_of_checkExpr (hplain : PlainItems scope keywords xs) {x : Source.Expr}
    (hx : x ∈ xs) {te : Expr} (h : (checkExpr scope keywords x).result = .ok te) :
    te.ty.hasVars = false :=
  hplain x hx te.ty (typedAs_iff.2 ⟨te, h, rfl⟩)

end Items

end ChannelRules
