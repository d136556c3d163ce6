import ChannelRules.Code.Filter
import ChannelRules.Proofs.Chain
import ChannelRules.Proofs.Eval

/-!
# What filters do to environments

The environments that come out of a step differ from the one that goes in only in the variables that
the step assigns. What a filter lets pass is the results of the chain of its steps.
-/

namespace ChannelRules

/-- Two environments that are equal except for the values of the given variables. -/
structure Env.SameExcept (names : List String) (env env' : Env) : Prop where
  rest : { env' with locals := env.locals } = env
  locals : ∀ x, x ∉ names → Named.get? env'.locals x = Named.get? env.locals x

namespace Env.SameExcept

variable {names names' : List String} {env env' env'' : Env}

lemma refl (names : List String) (env : Env) : SameExcept names env env := ⟨rfl, fun _ _ => rfl⟩

lemma trans (h : SameExcept names env env') (h' : SameExcept names' env' env'') :
    SameExcept (names ++ names') env env'' := by
  constructor
  · calc { env'' with locals := env.locals }
        = { ({ env'' with locals := env'.locals } : Env) with locals := env.locals } := rfl
      _ = { env' with locals := env.locals } := by rw [h'.rest]
      _ = env := h.rest
  · intro x hx
    rw [List.mem_append, not_or] at hx
    rw [h'.locals x hx.2, h.locals x hx.1]

lemma mono (h : SameExcept names env env') (hsub : names ⊆ names') : SameExcept names' env env' :=
  ⟨h.rest, fun x hx => h.locals x fun hmem => hx (hsub hmem)⟩

lemma setVar (env : Env) (name : String) (value : Value) :
    SameExcept [name] env (env.setVar name value) := by
  constructor
  · rfl
  · intro x hx
    rw [List.mem_singleton] at hx
    exact Named.get?_insert_of_ne _ _ hx

lemma readVar_eq (h : SameExcept names env env') {x : String} (hx : x ∉ names) :
    env'.readVar x = env.readVar x := by
  have hparams : env'.params = env.params := by rw [← h.rest]
  rw [View.readVar, View.readVar, h.locals x hx, hparams]

end Env.SameExcept

def Capture.name? : Capture → Option String
  | assign name => some name
  | expect _ => none

def Step.assigns : Step → List String
  | event _ assigned _ => assigned.map Prod.snd
  | assign name _ => [name]
  | test _ => []
  | regex _ _ captures => captures.filterMap Capture.name?
  | each _ name => [name]
  | member _ _ => []

namespace Step

variable {env env' : Env} {w w' : World}

lemma length_groupTexts (groups : Nat → Option String) (count : Nat) :
    (groupTexts groups count).length = count := by
  rw [groupTexts, List.length_map, List.length_range]

lemma takeVars_sameExcept {frame : Frame} {assigned : List (Nat × String)}
    (h : takeVars frame assigned env = .ok env') :
    env.SameExcept (assigned.map Prod.snd) env' := by
  induction assigned generalizing env with
  | nil =>
    cases h
    exact .refl [] env'
  | cons entry rest ih =>
    obtain ⟨index, name⟩ := entry
    rw [takeVars, bind_eq_ok] at h
    obtain ⟨value, -, h⟩ := h
    exact (Env.SameExcept.setVar env name value).trans (ih h)

/-- The environment after a condition is the one before it. -/
lemma verdictOf_eq_some {condition : Eval Bool} :
    verdictOf condition env w = .ok (some env') w' ↔
      env' = env ∧ condition w = .ok true w' := by
  rw [verdictOf, Eval.map_eq_ok]
  constructor
  · rintro ⟨_ | _, hcondition, heq⟩
    · cases heq
    · cases heq
      exact ⟨rfl, hcondition⟩
  · rintro ⟨rfl, hcondition⟩
    exact ⟨true, hcondition, rfl⟩

lemma mem_toList_verdict {verdict : Verdict} {envs : List Env}
    (h : (Option.toList <$> verdict) w = .ok envs w') (hmem : env' ∈ envs) :
    verdict w = .ok (some env') w' := by
  obtain ⟨passed, hverdict, rfl⟩ := Eval.map_eq_ok.1 h
  rw [Option.mem_toList] at hmem
  rw [hverdict, hmem]

variable [PatternEngine]

/-- The environment after an event that passes. -/
lemma bindEvent_eq_some {source : EventSource} {assigned : List (Nat × String)}
    {checks : List (Nat × Code)}
    (h : bindEvent source assigned checks env w = .ok (some env') w') :
    ∃ frame, source.frame env = .ok frame ∧ takeVars frame assigned env = .ok env' ∧
      checkValues frame env' checks w = .ok true w' := by
  simp only [bindEvent, state_bind_eq_ok, Eval.ofExcept_eq_ok, verdictOf_eq_some] at h
  obtain ⟨frame, v, ⟨hframe, rfl⟩, taken, v, ⟨htaken, rfl⟩, rfl, hpassed⟩ := h
  exact ⟨frame, hframe, htaken, hpassed⟩

lemma bindCaptures_sameExcept {captures : List (Capture × String)}
    (h : bindCaptures captures env w = .ok (some env') w') :
    env.SameExcept (captures.filterMap fun capture => capture.1.name?) env' := by
  induction captures generalizing env w with
  | nil =>
    cases h
    exact .refl [] env'
  | cons capture rest ih =>
    match capture with
    | (.assign name, text) => exact (Env.SameExcept.setVar env name (.string text)).trans (ih h)
    | (.expect code, text) =>
      rw [bindCaptures, state_bind_eq_ok] at h
      obtain ⟨expected, v, -, h⟩ := h
      split at h
      · exact ih h
      · cases h

/-- The environment after a pattern that matches: its places take one text each. -/
lemma matchPattern_eq_some {value : Code} {source : PatternSource} {captures : List Capture}
    (h : matchPattern value source captures env w = .ok (some env') w') :
    ∃ texts v, texts.length = captures.length ∧
      bindCaptures (captures.zip texts) env v = .ok (some env') w' := by
  simp only [matchPattern, state_bind_eq_ok] at h
  obtain ⟨value, u, -, regex, v, -, text, t, -, h⟩ := h
  cases hgroups : regex.captures? text with
  | none =>
    rw [hgroups] at h
    cases h
  | some groups =>
    rw [hgroups] at h
    exact ⟨_, t, length_groupTexts _ _, h⟩

lemma matchPattern_sameExcept {value : Code} {source : PatternSource} {captures : List Capture}
    (h : matchPattern value source captures env w = .ok (some env') w') :
    env.SameExcept (captures.filterMap Capture.name?) env' := by
  obtain ⟨texts, v, -, hbound⟩ := matchPattern_eq_some h
  refine (bindCaptures_sameExcept hbound).mono fun name hname => ?_
  obtain ⟨⟨capture, text⟩, hmem, hname⟩ := List.mem_filterMap.1 hname
  exact List.mem_filterMap.2 ⟨capture, (List.of_mem_zip hmem).1, hname⟩

lemma run_of_pass {step : Step} {envs : List Env} (h : step.pass env w = .ok envs w') :
    step.run env w = (envs.map .ok, w') := by
  change (ways ((step.pass env).attempt w).1, ((step.pass env).attempt w).2) = _
  unfold Eval.attempt
  rw [h]
  rfl

/-- A step that gives a verdict lets the environment pass, rejects it or fails. -/
lemma run_of_verdict {step : Step} {verdict : Verdict}
    (h : step.pass env = Option.toList <$> verdict) (w : World) :
    step.run env w = match verdict w with
      | .ok (some env') v => ([.ok env'], v)
      | .ok none v => ([], v)
      | .error e v => ([.error e], v) := by
  have hmap : (Option.toList <$> verdict) w = EStateM.map Option.toList verdict w := rfl
  change (ways ((step.pass env).attempt w).1, ((step.pass env).attempt w).2) = _
  rw [h]
  unfold Eval.attempt
  rw [hmap]
  unfold EStateM.map
  rcases verdict w with ⟨_ | _, v⟩ | ⟨e, v⟩ <;> rfl

/-- What continues after a step is one of the environments that pass it. -/
lemma ok_mem_run {step : Step} :
    .ok env' ∈ (step.run env w).1 ↔ ∃ envs v, step.pass env w = .ok envs v ∧ env' ∈ envs := by
  change .ok env' ∈ ways ((step.pass env).attempt w).1 ↔ _
  unfold Eval.attempt
  cases step.pass env w with
  | ok envs v => simp [ways]
  | error e v => simp [ways]

/-- What passes a choice of elements has one of the elements. -/
lemma mem_pass_each {container : Code} {name : String} {envs : List Env}
    (h : (each container name).pass env w = .ok envs w') (hmem : env' ∈ envs) :
    ∃ value values element, container.run env w = .ok value w' ∧ elements value = .ok values ∧
      element ∈ values ∧ env' = env.setVar name element := by
  simp only [pass, state_bind_eq_ok, Eval.ofExcept_eq_ok, state_pure_eq_ok] at h
  obtain ⟨value, v, hvalue, values, u, ⟨hvalues, rfl⟩, rfl, rfl⟩ := h
  obtain ⟨element, helement, rfl⟩ := List.mem_map.1 hmem
  exact ⟨value, values, element, hvalue, hvalues, helement, rfl⟩

/-- A binding that passes sets its variable to the value of its code. -/
lemma mem_pass_assign {name : String} {code : Code} {envs : List Env}
    (h : (assign name code).pass env w = .ok envs w') (hmem : env' ∈ envs) :
    ∃ value, code.run env w = .ok value w' ∧ env' = env.setVar name value := by
  simp only [pass, state_bind_eq_ok, state_pure_eq_ok] at h
  obtain ⟨value, v, hvalue, rfl, rfl⟩ := h
  exact ⟨value, hvalue, List.mem_singleton.1 hmem⟩

/-- A step changes nothing in an environment but the variables that it assigns. -/
lemma pass_sameExcept {step : Step} {envs : List Env} (h : step.pass env w = .ok envs w')
    (hmem : env' ∈ envs) : env.SameExcept step.assigns env' := by
  cases step with
  | event source assigned checks =>
    obtain ⟨frame, -, htaken, -⟩ := bindEvent_eq_some (mem_toList_verdict h hmem)
    exact takeVars_sameExcept htaken
  | assign name code =>
    obtain ⟨value, -, rfl⟩ := mem_pass_assign h hmem
    exact .setVar env name value
  | test code =>
    rw [(verdictOf_eq_some.1 (mem_toList_verdict h hmem)).1]
    exact .refl [] env
  | regex value source captures => exact matchPattern_sameExcept (mem_toList_verdict h hmem)
  | each container name =>
    obtain ⟨value, values, element, -, -, -, rfl⟩ := mem_pass_each h hmem
    exact .setVar env name element
  | member container element =>
    rw [(verdictOf_eq_some.1 (mem_toList_verdict h hmem)).1]
    exact .refl [] env

lemma run_sameExcept {step : Step} (h : .ok env' ∈ (step.run env w).1) :
    env.SameExcept step.assigns env' := by
  obtain ⟨envs, v, hpass, hmem⟩ := ok_mem_run.1 h
  exact pass_sameExcept hpass hmem

end Step

namespace Step

variable {I : Named Value → Prop} {E : RuntimeError → Prop} {R : Env → Prop} {env : Env}

lemma ensures_toList {verdict : Verdict}
    (h : Eval.Ensures I (fun passed => ∀ env' ∈ passed, R env') E verdict) :
    Eval.Ensures I (fun envs => ∀ env' ∈ envs, R env') E (Option.toList <$> verdict) :=
  h.map fun _ hpassed env' hmem => hpassed env' (Option.mem_toList.1 hmem)

lemma ensures_verdictOf {condition : Eval Bool}
    (h : Eval.Ensures I (fun _ => True) E condition) (henv : R env) :
    Eval.Ensures I (fun passed => ∀ env' ∈ passed, R env') E (verdictOf condition env) := by
  refine h.map fun b _ env' hmem => ?_
  cases b with
  | false => cases hmem
  | true =>
    cases hmem
    exact henv

variable [PatternEngine] {step : Step}

/-- The ways on from a step are as good as what passes it. -/
lemma run_safe (h : Eval.Ensures I (fun envs => ∀ env' ∈ envs, R env') E (step.pass env)) {w : World}
    (hw : I w.cells) :
    I (step.run env w).2.cells ∧ ∀ way ∈ (step.run env w).1, Gives R E way := by
  obtain ⟨hkept, hgives⟩ := h.attempt hw
  refine ⟨hkept, ?_⟩
  change ∀ way ∈ ways ((step.pass env).attempt w).1, Gives R E way
  cases hrun : ((step.pass env).attempt w).1 with
  | error e =>
    rw [hrun] at hgives
    exact List.forall_mem_singleton.2 hgives
  | ok envs =>
    rw [hrun] at hgives
    exact List.forall_mem_map.2 hgives

end Step

namespace Filter

variable [PatternEngine]

lemma matched_eq (filter : Filter) (env : Env) :
    filter.matched env = Chain.results (filter.map Step.run) env :=
  Chain.toList_start _ env

lemma firstMatch_eq (filter : Filter) (env : Env) :
    filter.firstMatch env =
      Option.sequence <$> Chain.firstResult (filter.map Step.run) env := by
  rw [firstMatch, cursor, ← Chain.Cursor.next_eq_firstResult, Chain.Cursor.first]
  rfl

/-- The first match is the first of all matches. -/
lemma firstMatch_eq_head (filter : Filter) (env : Env) (w : World) :
    (filter.firstMatch env w).1 = (filter.matched env w).1.head?.sequence := by
  rw [matched_eq, ← Chain.next_start]
  rfl

lemma mem_matched_of_firstMatch {filter : Filter} {env env' : Env} {w : World}
    (h : (filter.firstMatch env w).1 = .ok (some env')) : .ok env' ∈ (filter.matched env w).1 := by
  rw [firstMatch_eq_head] at h
  rcases hmatched : (filter.matched env w).1 with _ | ⟨_ | first, others⟩
  · rw [hmatched] at h
    cases h
  · rw [hmatched] at h
    cases h
  · rw [hmatched] at h
    cases h
    exact List.mem_cons_self

section Safe

variable {I : Named Value → Prop} {E : RuntimeError → Prop} {P Q : Env → Prop} {filter : Filter}
  {env : Env} {w : World}

lemma matched_safe (h : Chain.Safe (fun w : World => I w.cells) E P Q (filter.map Step.run))
    (henv : P env) (hw : I w.cells) :
    I (filter.matched env w).2.cells ∧ ∀ way ∈ (filter.matched env w).1, Gives Q E way := by
  rw [matched_eq]
  exact h.results henv hw

lemma firstMatch_safe (h : Chain.Safe (fun w : World => I w.cells) E P Q (filter.map Step.run))
    (henv : P env) (hw : I w.cells) : I (filter.firstMatch env w).2.cells := by
  rw [firstMatch_eq]
  exact h.firstResult henv hw

end Safe

end Filter

end ChannelRules
