import ChannelRules.Proofs.Code.Clause
import ChannelRules.Proofs.Code.Filter

/-!
# The steps of a clause

The step of a part assigns the names that the part introduces and leaves the other variables, the
parameters and the events alone.
-/

namespace ChannelRules

lemma Env.SameExcept.frame_eq {names : List String} {env env' : Env} (h : env.SameExcept names env')
    (source : EventSource) : source.frame env' = source.frame env := by
  rw [← h.rest]
  rfl

/-- A name that has just been set. -/
lemma Env.readVar_setVar (env : Env) (name : String) (value : Value) :
    (env.setVar name value).readVar name = .ok value := by
  rw [View.readVar, setVar, Named.get?_insert_self]

namespace Typed

open Touch

variable {names : List String}

lemma names_assignedSlots (params : List (Option Binder)) (index : Nat) :
    (assignedSlots index (params.map (slot names))).map Prod.snd =
      declared ((params.filterMap id).map Binder.touch) := by
  induction params generalizing index with
  | nil => rfl
  | cons param rest ih =>
    have hrest := ih (index + 1)
    match param with
    | none => exact hrest
    | some (.declare name ty) => exact congrArg (name :: ·) hrest
    | some (.expect expr) =>
      rw [List.map_cons, slot]
      split
      · exact hrest
      · exact hrest

lemma names_captures (captures : List Binder) :
    (captures.map Binder.capture).filterMap Capture.name? =
      declared (captures.map Binder.touch) := by
  rw [declared, List.filterMap_map, List.filterMap_map]
  congr 1
  funext binder
  cases binder <;> rfl

variable [PatternEngine]

/-- A step assigns the names that its part introduces. -/
lemma assigns_step (source : EventSource) (names : List String) (part : Part) :
    (part.step source names).assigns = declared part.touches := by
  match part with
  | .invocation i => exact names_assignedSlots i.params 0
  | .binding name expr => rfl
  | .condition expr => rfl
  | .predicate (.test expr) => rfl
  | .predicate (.contains container (.declare name ty)) => rfl
  | .predicate (.contains container (.expect element)) => rfl
  | .predicate (.regex value pattern flags captures) => exact names_captures captures

/-- What passes the step of a part differs only in the names that the part introduces. -/
lemma run_step_sameExcept {source : EventSource} {part : Part} {env env' : Env} {w : World}
    (h : .ok env' ∈ ((part.step source names).run env w).1) :
    env.SameExcept (declared part.touches) env' := by
  rw [← assigns_step source names part]
  exact Step.run_sameExcept h

end Typed

end ChannelRules
