import ChannelRules.Proofs.Code.Step
import ChannelRules.Proofs.Code.Subcodes

/-!
# Code that reads only names with values

Code whose variables have values does not fail at a variable. The environments that leave a step
have values for the names from before and for the names that its part introduces, so this holds for
the whole filter of a clause, provided that the event has a value for each parameter of the
invocation.
-/

namespace ChannelRules

open Typed Typed.Touch

namespace Eval

/-- A computation gives a result with a property, or fails otherwise than at a name without a
value. -/
abbrev Bound {α : Type} (P : α → Prop) (x : Eval α) : Prop :=
  Ensures (fun _ => True) P (fun e => e.isUnbound = false) x

/-- A computation does not fail at a name without a value. -/
abbrev AllBound {α : Type} (x : Eval α) : Prop := Bound (fun _ => True) x

end Eval

/-- Formatters that do not fail at a name without a value. -/
abbrev Env.FormattersBound (env : Env) : Prop :=
  env.FormattersEnsure (fun _ => True) fun e => e.isUnbound = false

/-- An environment with values for names and with formatters that fail at no name. -/
structure Env.Knows (env : Env) (names : List String) : Prop where
  vars : ∀ x ∈ names, ∃ v, env.readVar x = .ok v
  formatters : env.FormattersBound

section Knows

variable {env env' : Env} {names names' : List String}

lemma Env.Knows.mono (h : env.Knows names) (hsub : ∀ x ∈ names', x ∈ names) : env.Knows names' :=
  ⟨fun x hx => h.vars x (hsub x hx), h.formatters⟩

lemma Env.Knows.setVar (h : env.Knows names) (name : String) (value : Value) :
    (env.setVar name value).Knows (names ++ [name]) := by
  refine ⟨fun x hx => ?_, h.formatters⟩
  by_cases hname : x = name
  · subst hname
    exact ⟨value, env.readVar_setVar x value⟩
  · have hother : x ∉ [name] := by simpa using hname
    rw [(Env.SameExcept.setVar env name value).readVar_eq hother]
    apply h.vars
    simpa [hname] using hx

end Knows

lemma Value.textual_bound (value : Value) : AllBound value.textual :=
  Code.textual_gives (fun _ => RuntimeError.isUnbound_of_isOuter) value

lemma frame_bound (source : EventSource) (env : Env) : AllBound (source.frame env) := by
  cases source with
  | trigger =>
    unfold EventSource.frame
    cases env.trigger with
    | none => rfl
    | some frame => trivial
  | query =>
    unfold EventSource.frame
    cases env.query with
    | none => rfl
    | some frame => trivial

lemma Frame.get_bound {frame : Frame} {index : Nat} (h : index < frame.values.length) :
    AllBound (frame.get index) := by
  rw [Frame.get, List.getElem?_eq_getElem h]
  trivial

open Eval (ensures_pure ensures_throw ensures_ofExcept)

section Expressions

variable [PatternEngine] {env : Env} {names : List String}

/-- An expression whose variables have values does not fail at a name. -/
lemma Typed.Expr.code_bound {expr : Expr} (h : env.Knows expr.vars) :
    Eval.AllBound (expr.code.run env) := by
  refine code_ensures (fun _ => RuntimeError.isUnbound_of_isOuter) (fun _ => rfl) (fun x hx => ?_)
    fun _ _ _ hint => formatEvent_ensures h.formatters rfl hint
  obtain ⟨v, hv⟩ := h.vars x hx
  rw [hv]
  trivial

/-- The inputs of an invocation read names from before. -/
lemma evaluateInputs_bound (hknows : env.Knows names) (i : Invocation) :
    Eval.AllBound ((i.code names).evaluateInputs env) := by
  refine CompiledInvocation.runInputs_ensures fun code hcode => ?_
  rw [Invocation.code, List.map_map] at hcode
  obtain ⟨param, -, hparam⟩ := List.mem_map.1 hcode
  match param with
  | none => cases hparam
  | some (.declare name ty) => cases hparam
  | some (.expect expr) =>
    rw [Function.comp_apply, slot] at hparam
    split at hparam
    · rename_i hvars
      cases hparam
      exact Expr.code_bound (hknows.mono fun x hx => by simpa using List.all_eq_true.1 hvars x hx)
    · cases hparam

end Expressions

section Events

variable {env : Env} {names : List String} {frame : Frame}

lemma takeVars_bound (hknows : env.Knows names) {assigned : List (Nat × String)}
    (h : ∀ entry ∈ assigned, entry.1 < frame.values.length) :
    Bound (fun env' => env'.Knows (names ++ assigned.map Prod.snd))
      (Step.takeVars frame assigned env) := by
  induction assigned generalizing env names with
  | nil =>
    rw [List.map_nil, List.append_nil]
    exact hknows
  | cons entry rest ih =>
    obtain ⟨index, name⟩ := entry
    rw [Step.takeVars]
    refine (Frame.get_bound (h _ List.mem_cons_self)).bind fun value _ => ?_
    have hrest := ih (hknows.setVar name value) fun entry hentry =>
      h entry (List.mem_cons_of_mem _ hentry)
    rw [List.append_assoc] at hrest
    exact hrest

variable [PatternEngine]


/-- An event with a value for each parameter gives all names of an invocation a value. -/
lemma bindEvent_bound {source : EventSource} {i : Invocation}
    (hscoped : Scoped names (Part.invocation i).touches) (hknows : env.Knows names)
    (hframe : ∀ frame, source.frame env = .ok frame → i.params.length ≤ frame.values.length) :
    Eval.Bound
      (fun passed => ∀ env' ∈ passed, env'.Knows (names ++ declared (Part.invocation i).touches))
      (Step.bindEvent source (i.code names).assigned (i.code names).checks env) := by
  rw [Step.bindEvent]
  have hsource : Bound (fun frame => i.params.length ≤ frame.values.length) (source.frame env) := by
    cases hresult : source.frame env with
    | error e =>
      have hbound := frame_bound source env
      rw [hresult] at hbound
      exact hbound
    | ok frame => exact hframe frame hresult
  refine (ensures_ofExcept hsource).bind fun frame hlength => ?_
  have hplaces : ∀ entry ∈ (i.code names).assigned, entry.1 < frame.values.length := by
    intro entry hentry
    rw [Invocation.code, assignedSlots_eq_placed] at hentry
    have hlt := lt_of_mem_placed _ hentry
    rw [List.length_map] at hlt
    omega
  have hnames : (i.code names).assigned.map Prod.snd = declared (Part.invocation i).touches :=
    names_assignedSlots i.params 0
  have htaken := takeVars_bound hknows hplaces
  rw [hnames] at htaken
  refine (ensures_ofExcept htaken).bind fun env' henv' => ?_
  refine Step.ensures_verdictOf (Step.checkValues_ensures fun check hcheck => ?_) henv'
  obtain ⟨deferred, hdeferred, rfl⟩ := List.mem_map.1 hcheck
  have hlt := lt_of_mem_placed _ (deferredSlots_eq_placed _ _ ▸ hdeferred)
  rw [List.length_map] at hlt
  refine ⟨Frame.get_bound (by dsimp only; omega), Expr.code_bound (henv'.mono ?_)⟩
  refine mem_of_reads hscoped (List.mem_map.2 ⟨.expect deferred.2, ?_, rfl⟩)
  exact List.mem_filterMap.2 ⟨_, mem_deferredSlots hdeferred, rfl⟩

end Events

section Steps

variable [PatternEngine] {env : Env} {names : List String}


lemma read_bound {pattern flags : Expr} (hpattern : env.Knows pattern.vars)
    (hflags : env.Knows flags.vars) : Eval.AllBound ((patternSource pattern flags).read env) := by
  unfold patternSource
  split
  · exact ensures_ofExcept ((buildRegex_inner _ _).mono (fun _ h => h) fun _ =>
      RuntimeError.isUnbound_of_isOuter)
  · exact Step.computed_ensures (fun _ => RuntimeError.isUnbound_of_isOuter)
      (Expr.code_bound hpattern) (Expr.code_bound hflags)

lemma bindCaptures_bound {captures : List Binder}
    (hscoped : Scoped names (captures.map Binder.touch)) (hknows : env.Knows names)
    {texts : List String} (hlength : texts.length = captures.length) :
    Eval.Bound
      (fun passed => ∀ env' ∈ passed, env'.Knows (names ++ declared (captures.map Binder.touch)))
      (Step.bindCaptures ((captures.map Binder.capture).zip texts) env) := by
  induction captures generalizing env names texts with
  | nil =>
    refine ensures_pure ?_
    rintro _ ⟨⟩
    rw [List.map_nil, declared_nil, List.append_nil]
    exact hknows
  | cons capture rest ih =>
    obtain ⟨text, texts, rfl⟩ := List.exists_cons_of_length_eq_add_one hlength
    have hrestLength : texts.length = rest.length := Nat.succ.inj hlength
    cases capture with
    | declare name ty =>
      have hrest := ih hscoped.2 (hknows.setVar name (.string text)) hrestLength
      rw [List.append_assoc] at hrest
      exact hrest
    | expect expr =>
      refine (Expr.code_bound (hknows.mono hscoped.1)).bind fun expected _ => ?_
      split
      · exact ih hscoped.2 hknows hrestLength
      · exact ensures_pure (by rintro _ ⟨⟩)

lemma matchPattern_bound {value pattern flags : Expr} {captures : List Binder}
    (hscoped : Scoped names (Predicate.regex value pattern flags captures).touches)
    (hknows : env.Knows names) :
    Eval.Bound
      (fun passed => ∀ env' ∈ passed, env'.Knows (names ++ declared (captures.map Binder.touch)))
      (Step.matchPattern value.code (patternSource pattern flags) (captures.map Binder.capture)
        env) := by
  obtain ⟨hvalue, hpattern, hflags, hcaptures⟩ := hscoped
  rw [Step.matchPattern]
  refine (Expr.code_bound (hknows.mono hvalue)).bind fun value _ => ?_
  refine (read_bound (hknows.mono hpattern) (hknows.mono hflags)).bind fun regex _ => ?_
  refine (ensures_ofExcept value.textual_bound).bind fun text _ => ?_
  cases regex.captures? text with
  | none => exact ensures_pure (by rintro _ ⟨⟩)
  | some groups =>
    exact bindCaptures_bound hcaptures hknows
      ((Step.length_groupTexts _ _).trans (List.length_map _))

lemma condition_bound {expr : Expr} (hknows : env.Knows expr.vars) :
    Eval.AllBound (do Eval.ofExcept (← expr.code.run env).truth) :=
  Step.condition_ensures (fun _ => RuntimeError.isUnbound_of_isOuter) (Expr.code_bound hknows)

lemma hasElement_bound {container element : Expr} (hcontainer : env.Knows container.vars)
    (helement : env.Knows element.vars) :
    Eval.AllBound (Step.hasElement container.code element.code env) :=
  Step.hasElement_ensures (fun _ => RuntimeError.isUnbound_of_isOuter) (Expr.code_bound hcontainer)
    (Expr.code_bound helement)

lemma pass_predicate_bound {p : Predicate} (hscoped : Scoped names p.touches)
    (hknows : env.Knows names) :
    Eval.Bound (fun envs => ∀ env' ∈ envs, env'.Knows (names ++ declared p.touches))
      (p.step.pass env) := by
  match p, hscoped with
  | .regex value pattern flags captures, hscoped =>
    exact Step.ensures_toList (matchPattern_bound hscoped hknows)
  | .contains container (.declare name ty), ⟨hcontainer, _⟩ =>
    refine (Expr.code_bound (hknows.mono hcontainer)).bind fun value _ => ?_
    have helements := Step.elements_gives (fun _ => RuntimeError.isUnbound_of_isOuter) value
    refine (ensures_ofExcept helements).bind fun values _ => ensures_pure ?_
    exact List.forall_mem_map.2 fun element _ => hknows.setVar name element
  | .contains container (.expect element), ⟨hcontainer, helement, _⟩ =>
    have hsame : names ++ declared (Predicate.contains container (.expect element)).touches =
        names := List.append_nil names
    rw [hsame]
    exact Step.ensures_toList (Step.ensures_verdictOf
      (hasElement_bound (hknows.mono hcontainer) (hknows.mono helement)) hknows)
  | .test expr, ⟨hexpr, _⟩ =>
    have hsame : names ++ declared (Predicate.test expr).touches = names := List.append_nil names
    rw [hsame]
    exact Step.ensures_toList
      (Step.ensures_verdictOf (condition_bound (hknows.mono hexpr)) hknows)

/-- The step of a part fails at no name, and what passes it has values for the names from before and
for those that the part introduces. -/
lemma pass_step_bound {source : EventSource} {part : Part} (hscoped : Scoped names part.touches)
    (hknows : env.Knows names)
    (hframe : ∀ i, part = .invocation i → ∀ frame, source.frame env = .ok frame →
      i.params.length ≤ frame.values.length) :
    Eval.Bound (fun envs => ∀ env' ∈ envs, env'.Knows (names ++ declared part.touches))
      ((part.step source names).pass env) := by
  match part, hscoped with
  | .invocation i, hscoped =>
    exact Step.ensures_toList (bindEvent_bound hscoped hknows (hframe i rfl))
  | .predicate p, hscoped => exact pass_predicate_bound hscoped hknows
  | .binding name expr, ⟨hexpr, _⟩ =>
    refine (Expr.code_bound (hknows.mono hexpr)).bind fun value _ => ensures_pure ?_
    exact List.forall_mem_singleton.2 (hknows.setVar name value)
  | .condition expr, ⟨hexpr, _⟩ =>
    have hsame : names ++ declared (Part.condition expr).touches = names := List.append_nil names
    rw [hsame]
    exact Step.ensures_toList
      (Step.ensures_verdictOf (condition_bound (hknows.mono hexpr)) hknows)

/-- The event of an environment has a value for each parameter of the invocations among parts. -/
def Env.FillsParts (source : EventSource) (parts : List Part) (env : Env) : Prop :=
  ∀ i, .invocation i ∈ parts → ∀ frame, source.frame env = .ok frame →
    i.params.length ≤ frame.values.length

/-- The filter of some parts fails at no name, and what passes it has values for the names from
before and for those that the parts introduce. -/
theorem steps_safe {source : EventSource} {all parts : List Part} (hsub : parts ⊆ all)
    (hscoped : Scoped names (parts.flatMap Part.touches)) :
    Chain.Safe (fun _ : World => True) (fun e => e.isUnbound = false)
      (fun env => env.Knows names ∧ env.FillsParts source all)
      (fun env => env.Knows (names ++ declared (parts.flatMap Part.touches)) ∧
        env.FillsParts source all)
      ((steps source names parts).map Step.run) := by
  -- What carries the induction is that the names so far have values; the event stays the same.
  induction parts generalizing names with
  | nil =>
    rw [List.flatMap_nil, declared_nil, List.append_nil]
    exact .nil
  | cons part rest ih =>
    rw [List.flatMap_cons, scoped_append] at hscoped
    rw [List.cons_subset] at hsub
    have hnames : names ++ declared ((part :: rest).flatMap Part.touches) =
        names ++ declared part.touches ++ declared (rest.flatMap Part.touches) := by
      rw [List.flatMap_cons, declared_append, List.append_assoc]
    rw [hnames]
    refine .cons ?_ (ih hsub.2 hscoped.2)
    rintro env w ⟨hknows, hfills⟩ -
    refine ⟨trivial, fun way hway => ?_⟩
    have hgives := (Step.run_safe (pass_step_bound hscoped.1 hknows
      fun i hi => hfills i (hi ▸ hsub.1)) trivial).2 way hway
    cases way with
    | error e => exact hgives
    | ok env' =>
      refine ⟨hgives, fun i hi frame hframe => ?_⟩
      rw [(run_step_sameExcept hway).frame_eq] at hframe
      exact hfills i hi frame hframe

end Steps

end ChannelRules
