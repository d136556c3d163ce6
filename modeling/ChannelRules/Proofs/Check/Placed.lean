import ChannelRules.Proofs.Check.Expr
import ChannelRules.Proofs.Check.Gathered

/-!
# Where the expressions of a rule are checked

Each expression of a trigger, a query or an action has been checked with some names in scope. What
holds of the names before, and is not changed by names that a rule introduces, holds of the names
with which every expression has been checked.
-/

namespace ChannelRules

open Typed (Expr Action)

/-- Expressions each of which has been checked with names in scope of which `I` holds. -/
def Placed (I : Scope → Prop) (keywords : Named Ty) (exprs : List Expr) : Prop :=
  ∀ expr ∈ exprs, ∃ scope, I scope ∧ Checked scope keywords expr

section Placed

open Check

variable {I : Scope → Prop} {ctx : Context}

lemma gathers_placed (hI : Scope.Keeps I) :
    Gathers I ctx fun _ exprs => Placed I ctx.keywords exprs where
  keeps := hI
  checked := fun scope e _ hscope hte =>
    List.forall_mem_singleton.2 ⟨scope, hscope, checkExpr_checked scope ctx.keywords e hte⟩
  fresh := fun _ _ _ _ _ => List.forall_mem_nil _
  null := List.forall_mem_nil _
  nil := List.forall_mem_nil _
  append := fun h h' => List.forall_mem_append.2 ⟨h, h'⟩
  call := fun _ _ _ h => h

lemma placed_actionOf {channel : ChannelRef} {params : List (Option Expr)} {action : Action}
    (hparams : Placed I ctx.keywords (params.filterMap id))
    (h : actionOf channel params = .ok action) : Placed I ctx.keywords action.exprs := by
  unfold actionOf at h
  split at h
  · split at h
    · cases h
      exact List.forall_mem_singleton.2 (hparams _ List.mem_cons_self)
    · cases h
  · cases h
    exact hparams

/-- The expressions of an action are checked with the names in scope at the action. -/
lemma placed_checkAction (hI : Scope.Keeps I) (part : Source.Part) :
    Yields I (checkAction ctx part) fun action => Placed I ctx.keywords action.exprs := by
  cases part with
  | invocation i =>
    refine (yields_ofNoted (P := fun _ => True) fun _ _ => trivial).bind fun found _ => ?_
    dsimp only
    split
    · exact (yields_throw (P := fun _ => False) _).bind fun _ h => h.elim
    · refine (gathered_checkArguments (gathers_placed hI) _ _ _ _).bind fun params hparams =>
        yields_ofNoted fun _ haction => placed_actionOf ?_ haction
      intro expr hexpr
      obtain ⟨found, hfound, hsome⟩ := List.mem_filterMap.1 hexpr
      obtain ⟨_, -, hplaced, -⟩ := exists_of_mem_forall₂ hparams hfound
      exact hplaced expr (Option.mem_toList.2 hsome)
  | binding name e =>
    exact yields_scope.bind fun _ _ =>
      (yields_ofNoted (P := fun _ => True) fun _ _ => trivial).bind fun _ _ =>
        (gathered_expr (gathers_placed hI) e).bind fun _ hte =>
          (yields_agree _ _ _).bind fun _ _ => yields_pure hte
  | predicate e => exact yields_throw _
  | condition e => exact yields_throw _

end Placed

end ChannelRules
