import ChannelRules.Proofs.Code.Filter
import ChannelRules.Proofs.Code.Subcodes

/-!
# What code keeps

Code writes no keyword cell of its own accord. Whatever property of the cells the formatters keep,
inputs, filters and values of actions keep it too.
-/

namespace ChannelRules

lemma Env.SameExcept.formattersKeep {I : Named Value → Prop} {names : List String} {env env' : Env}
    (h : env.SameExcept names env') (hkeep : env.FormattersKeep I) : env'.FormattersKeep I := by
  have hsame : env'.formatters = env.formatters := by rw [← h.rest]
  intro entry hentry
  rw [hsame] at hentry
  exact hkeep entry hentry

open Eval (Keeps ensures_pure ensures_throw ensures_ofExcept)

variable {I : Named Value → Prop}

lemma Gives.any {α : Type} (x : Except RuntimeError α) :
    Gives (fun _ => True) (fun _ => True) x := by
  cases x <;> trivial

lemma keeps_ofExcept {α : Type} (x : Except RuntimeError α) : Keeps I (Eval.ofExcept x) :=
  ensures_ofExcept (.any x)

lemma keeps_map {α β : Type} {x : Eval α} (hx : Keeps I x) (f : α → β) : Keeps I (f <$> x) :=
  hx.map fun _ _ => trivial

variable [PatternEngine] {env : Env}

lemma Code.run_keeps (h : env.FormattersKeep I) (code : Code) : Keeps I (code.run env) := by
  refine code.run_ensures (fun _ _ => trivial) fun sub _ => ?_
  cases sub with
  | var name => exact .any _
  | call op args => exact fun _ hint => formatEvent_ensures h trivial hint
  | _ => trivial

lemma CompiledInvocation.runInputs_keeps (h : env.FormattersKeep I) (inputs : List (Option Code)) :
    Keeps I (runInputs env inputs) :=
  runInputs_ensures fun code _ => code.run_keeps h

namespace Step


lemma bindEvent_keeps (h : env.FormattersKeep I) (source : EventSource)
    (assigned : List (Nat × String)) (checks : List (Nat × Code)) :
    Keeps I (bindEvent source assigned checks env) := by
  rw [bindEvent]
  refine (keeps_ofExcept _).bind fun frame _ => ?_
  have htaken : Gives (fun env' => env'.FormattersKeep I) (fun _ => True)
      (takeVars frame assigned env) := by
    cases hrun : takeVars frame assigned env with
    | error e => trivial
    | ok env' => exact (takeVars_sameExcept hrun).formattersKeep h
  refine (ensures_ofExcept htaken).bind fun env' h' => keeps_map ?_ _
  exact checkValues_ensures fun check _ => ⟨.any _, check.2.run_keeps h'⟩

lemma read_keeps (h : env.FormattersKeep I) (source : PatternSource) : Keeps I (source.read env) := by
  cases source with
  | fixed regex => exact keeps_ofExcept regex
  | computed pattern flags =>
    exact computed_ensures (fun _ _ => trivial) (pattern.run_keeps h) (flags.run_keeps h)

lemma bindCaptures_keeps (h : env.FormattersKeep I) (captures : List (Capture × String)) :
    Keeps I (bindCaptures captures env) := by
  induction captures generalizing env with
  | nil => exact ensures_pure trivial
  | cons capture rest ih =>
    match capture with
    | (.assign name, text) => exact ih ((Env.SameExcept.setVar env name _).formattersKeep h)
    | (.expect code, text) =>
      rw [bindCaptures]
      refine (code.run_keeps h).bind fun _ _ => ?_
      split
      · exact ih h
      · exact ensures_pure trivial

lemma matchPattern_keeps (h : env.FormattersKeep I) (value : Code) (source : PatternSource)
    (captures : List Capture) : Keeps I (matchPattern value source captures env) := by
  rw [matchPattern]
  refine (value.run_keeps h).bind fun _ _ => (read_keeps h source).bind fun regex _ => ?_
  refine (keeps_ofExcept _).bind fun text _ => ?_
  cases regex.captures? text with
  | none => exact ensures_pure trivial
  | some groups => exact bindCaptures_keeps h _


lemma pass_keeps (h : env.FormattersKeep I) (step : Step) : Keeps I (step.pass env) := by
  cases step with
  | event source assigned checks => exact keeps_map (bindEvent_keeps h source assigned checks) _
  | assign name code => exact (code.run_keeps h).bind fun _ _ => ensures_pure trivial
  | test code =>
    refine keeps_map (keeps_map ?_ _) _
    exact condition_ensures (fun _ _ => trivial) (code.run_keeps h)
  | regex value source captures => exact keeps_map (matchPattern_keeps h value source captures) _
  | each container name =>
    refine (container.run_keeps h).bind fun _ _ => (keeps_ofExcept _).bind fun _ _ => ?_
    exact ensures_pure trivial
  | member container element =>
    refine keeps_map (keeps_map ?_ _) _
    exact hasElement_ensures (fun _ _ => trivial) (container.run_keeps h) (element.run_keeps h)

lemma run_keeps (h : env.FormattersKeep I) (step : Step) {w : World} (hw : I w.cells) :
    I (step.run env w).2.cells :=
  ((pass_keeps h step).attempt hw).1

end Step

namespace Filter

variable {filter : Filter} {w : World}

/-- The steps of a filter keep what the formatters keep. -/
lemma safe_of_keeps (filter : Filter) :
    Chain.Safe (fun w : World => I w.cells) (fun _ => True) (fun env => env.FormattersKeep I)
      (fun env => env.FormattersKeep I) (filter.map Step.run) := by
  induction filter with
  | nil => exact .nil
  | cons step rest ih =>
    refine .cons (fun env w h hw => ⟨step.run_keeps h hw, fun way hway => ?_⟩) ih
    cases way with
    | error e => trivial
    | ok env' => exact (Step.run_sameExcept hway).formattersKeep h

lemma matched_keeps (h : env.FormattersKeep I) (hw : I w.cells) :
    I (filter.matched env w).2.cells :=
  (matched_safe (safe_of_keeps filter) h hw).1

lemma firstMatch_keeps (h : env.FormattersKeep I) (hw : I w.cells) :
    I (filter.firstMatch env w).2.cells :=
  firstMatch_safe (safe_of_keeps filter) h hw

/-- What passes a filter has passed its first step, and then the others. -/
lemma mem_matched_cons {step : Step} {rest : Filter} {env' : Env} (h : env.FormattersKeep I)
    (hw : I w.cells) (hmem : .ok env' ∈ (Filter.matched (step :: rest) env w).1) :
    ∃ next v, .ok next ∈ (step.run env w).1 ∧ I v.cells ∧ .ok env' ∈ (Filter.matched rest next v).1 := by
  have hkept : ∀ next, .ok next ∈ (step.run env w).1 → ∀ v, I v.cells →
      I (Filter.matched rest next v).2.cells :=
    fun next hnext v hv => matched_keeps ((Step.run_sameExcept hnext).formattersKeep h) hv
  simp only [matched_eq] at hkept hmem ⊢
  rw [List.map_cons, Chain.results, state_bind] at hmem
  exact Chain.ok_mem_followAll (I := fun w : World => I w.cells) hkept (step.run_keeps h hw) hmem

end Filter

end ChannelRules
