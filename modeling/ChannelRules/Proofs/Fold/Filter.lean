import ChannelRules.Proofs.Code.Step
import ChannelRules.Proofs.Fold.Scoped
import Mathlib.Data.List.Basic

/-!
# Folding keeps what filters do

The names that folding replaces by constants are bound to these constants in every environment that
reaches the place of the replacement. This is so when the folded binding has been passed, and it
stays so because a name is bound only once. In such environments a folded step does what the step
does, and so does a filter of folded steps.
-/

namespace ChannelRules

namespace Typed

open Touch

section Agrees

variable {constants : Named Expr} {names : List String} {env env' : Env}

/-- Other variables do not matter. -/
lemma Agrees.of_sameExcept (h : Agrees constants env) (hsame : env.SameExcept names env')
    (hnew : ∀ x ∈ names, Named.has constants x = false) : Agrees constants env' := by
  intro name ty value hget
  have hname : name ∉ names := by
    intro hmem
    have hhas : Named.has constants name = true := Named.has_eq_true_iff.2 ⟨_, hget⟩
    rw [hnew name hmem] at hhas
    cases hhas
  rw [hsame.readVar_eq hname]
  exact h name ty value hget

lemma Agrees.setVar (h : Agrees constants env) {name : String}
    (hnew : Named.has constants name = false) (value : Value) :
    Agrees constants (env.setVar name value) :=
  h.of_sameExcept (.setVar env name value) fun x hx => by rw [List.mem_singleton.1 hx, hnew]

/-- A name can be bound to a constant that the environment gives it. -/
lemma Agrees.insert (h : Agrees constants env) {name : String} {value : Value}
    (hread : env.readVar name = .ok value.toRuntime) (ty : Ty) :
    Agrees (Named.insert constants name (.constant ty value)) env := by
  intro other ty' value' hget
  by_cases hother : other = name
  · rw [hother, Named.get?_insert_self] at hget
    cases hget
    rw [hother, hread]
  · rw [Named.get?_insert_of_ne _ _ hother] at hget
    exact h other ty' value' hget

/-- The names that parts introduce are not replaced before them. -/
lemma Known.new (hknown : Known constants names) {touches : List Touch}
    (hscoped : Scoped names touches) : ∀ x ∈ declared touches, Named.has constants x = false :=
  fun _ hx => hknown.not_mem (not_mem_of_scoped hscoped hx)

end Agrees

variable [PatternEngine]

/-- What becomes of a parameter of a folded invocation, and of the parameter. -/
inductive SlotFolded (constants : Named Expr) : Slot → Slot → Prop
  | unused : SlotFolded constants .unused .unused
  | assigned (name : String) : SlotFolded constants (.assigned name) (.assigned name)
  | input {expr : Expr} (h : expr.Normal) :
    SlotFolded constants (.input (expr.fold constants).code) (.input expr.code)
  | deferred {expr : Expr} (h : expr.Normal) :
    SlotFolded constants (.deferred (expr.fold constants)) (.deferred expr)

/-- Expressions in base units and their folded forms, with their places. -/
def ChecksFolded (constants : Named Expr) : List (Nat × Expr) → List (Nat × Expr) → Prop :=
  List.Forall₂ fun folded check =>
    check.2.Normal ∧ folded = (check.1, check.2.fold constants)

section Invocations

variable {constants : Named Expr} {names : List String} {env : Env} {folded slots : List Slot}

/-- A folded parameter waits for the event exactly if the parameter does, since the names that are
replaced are known before the event. -/
lemma slotFolded_slot (hknown : Known constants names) {param : Option Binder}
    (hnormal : AllNormal (param.toList.map Binder.touch)) :
    SlotFolded constants (slot names (param.map (Binder.fold constants))) (slot names param) := by
  match param with
  | none => exact .unused
  | some (.declare name ty) => exact .assigned name
  | some (.expect expr) =>
    have hexpr : expr.Normal := hnormal expr (List.mem_singleton_self _)
    rw [Option.map_some, Binder.fold, slot, slot, all_vars_fold hknown]
    split
    · exact .input hexpr
    · exact .deferred hexpr

lemma slotsFolded (hknown : Known constants names) {params : List (Option Binder)}
    (hnormal : AllNormal ((params.filterMap id).map Binder.touch)) :
    List.Forall₂ (SlotFolded constants)
      ((params.map fun param => param.map (Binder.fold constants)).map (slot names))
      (params.map (slot names)) := by
  induction params with
  | nil => exact .nil
  | cons param rest ih =>
    have htouches : ((param :: rest).filterMap id).map Binder.touch =
        param.toList.map Binder.touch ++ (rest.filterMap id).map Binder.touch := by
      cases param <;> rfl
    rw [htouches, allNormal_append] at hnormal
    exact .cons (slotFolded_slot hknown hnormal.1) (ih hnormal.2)

lemma assignedSlots_folded (h : List.Forall₂ (SlotFolded constants) folded slots) (index : Nat) :
    assignedSlots index folded = assignedSlots index slots := by
  induction h generalizing index with
  | nil => rfl
  | cons hslot _ ih =>
    cases hslot with
    | assigned name => exact congrArg ((index, name) :: ·) (ih (index + 1))
    | unused => exact ih (index + 1)
    | input _ => exact ih (index + 1)
    | deferred _ => exact ih (index + 1)

lemma deferredSlots_folded (h : List.Forall₂ (SlotFolded constants) folded slots) (index : Nat) :
    ChecksFolded constants (deferredSlots index folded) (deferredSlots index slots) := by
  induction h generalizing index with
  | nil => exact .nil
  | cons hslot _ ih =>
    cases hslot with
    | deferred hexpr => exact .cons ⟨hexpr, rfl⟩ (ih (index + 1))
    | unused => exact ih (index + 1)
    | assigned _ => exact ih (index + 1)
    | input _ => exact ih (index + 1)

lemma checked_folded {folded checks : List (Nat × Expr)} (h : ChecksFolded constants folded checks) :
    (folded.map fun check => (check.1, check.2.code)).map Prod.fst =
      (checks.map fun check => (check.1, check.2.code)).map Prod.fst := by
  induction h with
  | nil => rfl
  | cons hcheck _ ih =>
    obtain ⟨-, rfl⟩ := hcheck
    rw [List.map_cons, List.map_cons, List.map_cons, List.map_cons, ih]

lemma isSome_inputs_folded (h : List.Forall₂ (SlotFolded constants) folded slots) :
    (folded.map Slot.input?).map Option.isSome = (slots.map Slot.input?).map Option.isSome := by
  induction h with
  | nil => rfl
  | cons hslot _ ih =>
    rw [List.map_cons, List.map_cons, List.map_cons, List.map_cons, ih]
    cases hslot <;> rfl

lemma runInputs_folded (hknown : Known constants names) (hagrees : Agrees constants env)
    (h : List.Forall₂ (SlotFolded constants) folded slots) :
    CompiledInvocation.runInputs env (folded.map Slot.input?) =
      CompiledInvocation.runInputs env (slots.map Slot.input?) := by
  induction h with
  | nil => rfl
  | cons hslot _ ih =>
    rw [List.map_cons, List.map_cons, CompiledInvocation.runInputs, CompiledInvocation.runInputs, ih]
    cases hslot with
    | input hexpr => simp only [Slot.input?, Code.runOptional,
        Expr.run_fold hknown.only hagrees _ hexpr]
    | unused => rfl
    | assigned _ => rfl
    | deferred _ => rfl

lemma checkValues_folded (hknown : Known constants names) (hagrees : Agrees constants env)
    {folded checks : List (Nat × Expr)} (h : ChecksFolded constants folded checks) (frame : Frame) :
    Step.checkValues frame env (folded.map fun check => (check.1, check.2.code)) =
      Step.checkValues frame env (checks.map fun check => (check.1, check.2.code)) := by
  induction h with
  | nil => rfl
  | cons hcheck _ ih =>
    obtain ⟨hnormal, rfl⟩ := hcheck
    simp only [List.map_cons, Step.checkValues, Expr.run_fold hknown.only hagrees _ hnormal, ih]

end Invocations

section Steps

variable {constants : Named Expr} {names : List String} {env env' : Env}

lemma pass_foldInvocation (hknown : Known constants names) (hagrees : Agrees constants env)
    {i : Invocation} (hscoped : Scoped names (Part.invocation i).touches)
    (hnormal : AllNormal (Part.invocation i).touches) (source : EventSource) :
    (((Part.invocation i).fold constants).step source names).pass env =
      ((Part.invocation i).step source names).pass env := by
  have hslots := slotsFolded hknown hnormal
  have hassigned := assignedSlots_folded hslots 0
  have hchecks := deferredSlots_folded hslots 0
  simp only [Part.fold, Part.step, CompiledInvocation.step, Invocation.code, Step.pass, hassigned]
  congr 1
  rw [Step.bindEvent, Step.bindEvent]
  cases source.frame env with
  | error e => rfl
  | ok frame =>
    rw [Eval.ofExcept_ok, pure_bind, pure_bind]
    cases htaken : Step.takeVars frame (assignedSlots 0 (i.params.map (slot names))) env with
    | error e => rfl
    | ok taken =>
      have hsame := Step.takeVars_sameExcept htaken
      rw [names_assignedSlots] at hsame
      rw [Eval.ofExcept_ok, pure_bind, pure_bind,
        checkValues_folded hknown (hagrees.of_sameExcept hsame (hknown.new hscoped)) hchecks frame]

/-- The text of a constant is what running its code gives. -/
lemma run_constantText {expr : Expr} {text : String} (h : expr.constantText? = some text) (env : Env) :
    ∃ value, expr.code.run env = pure value ∧ value.textual = .ok text := by
  obtain ⟨value, hvalue, htext⟩ := Option.bind_eq_some_iff.1 h
  obtain ⟨ty, rfl⟩ := Expr.constant?_eq_some hvalue
  refine ⟨value.toRuntime, rfl, ?_⟩
  have hruntime : value.toRuntime.asText = some text := by
    cases value <;> exact htext
  rw [Value.textual, hruntime]

/-- It does not matter whether a pattern is read before anything runs or whenever it is used. -/
lemma read_patternSource (pattern flags : Expr) (env : Env) :
    (patternSource pattern flags).read env =
      (PatternSource.computed pattern.code flags.code).read env := by
  unfold patternSource
  split
  · rename_i p f hpattern hflags
    obtain ⟨value, hvalue, htext⟩ := run_constantText hpattern env
    obtain ⟨value', hvalue', htext'⟩ := run_constantText hflags env
    simp only [PatternSource.read, hvalue, hvalue', htext, htext', Eval.ofExcept_ok, pure_bind]
  · rfl

lemma bindCaptures_fold (hknown : Known constants names) (hagrees : Agrees constants env)
    {captures : List Binder} (hnew : ∀ x ∈ declared (captures.map Binder.touch),
      Named.has constants x = false)
    (hnormal : AllNormal (captures.map Binder.touch)) (texts : List String) :
    Step.bindCaptures (((captures.map (Binder.fold constants)).map Binder.capture).zip texts) env =
      Step.bindCaptures ((captures.map Binder.capture).zip texts) env := by
  induction captures generalizing env texts with
  | nil => rfl
  | cons capture rest ih =>
    cases texts with
    | nil => rfl
    | cons text texts =>
      rw [List.map_cons, ← List.singleton_append, allNormal_append] at hnormal
      cases capture with
      | declare name ty =>
        have hname := hnew name List.mem_cons_self
        exact ih (hagrees.setVar hname _) (fun x hx => hnew x (List.mem_cons_of_mem _ hx))
          hnormal.2 texts
      | expect expr =>
        have hrun := Expr.run_fold hknown.only hagrees expr
          (hnormal.1 expr (List.mem_singleton_self _))
        have hrest := ih hagrees hnew hnormal.2 texts
        simp only [List.map_cons, Binder.fold, Binder.capture, List.zip_cons_cons,
          Step.bindCaptures, hrun, hrest]

lemma pass_foldPredicate (hknown : Known constants names) (hagrees : Agrees constants env)
    {p : Predicate} (hscoped : Scoped names p.touches) (hnormal : AllNormal p.touches) :
    (p.fold constants).step.pass env = p.step.pass env := by
  have hrun : ∀ expr, .reads expr ∈ p.touches →
      (expr.fold constants).code.run env = expr.code.run env :=
    fun expr hexpr => Expr.run_fold hknown.only hagrees expr (hnormal expr hexpr)
  match p, hscoped, hnormal, hrun with
  | .test expr, _, _, hrun =>
    have hexpr := hrun expr (List.mem_singleton_self _)
    simp only [Predicate.fold, Predicate.step, Step.pass, hexpr]
  | .contains container (.declare name ty), _, _, hrun =>
    have hcontainer := hrun container List.mem_cons_self
    simp only [Predicate.fold, Binder.fold, Predicate.step, Step.pass, hcontainer]
  | .contains container (.expect element), _, _, hrun =>
    have hcontainer := hrun container List.mem_cons_self
    have helement := hrun element (List.mem_cons_of_mem _ (List.mem_singleton_self _))
    simp only [Predicate.fold, Binder.fold, Predicate.step, Step.pass, Step.hasElement, hcontainer,
      helement]
  | .regex value pattern flags captures, ⟨_, _, _, hcaptures⟩, hnormal, hrun =>
    have hvalue := hrun value List.mem_cons_self
    have hpattern := hrun pattern (List.mem_cons_of_mem _ List.mem_cons_self)
    have hflags := hrun flags (List.mem_cons_of_mem _ (List.mem_cons_of_mem _ List.mem_cons_self))
    have hread : (patternSource (pattern.fold constants) (flags.fold constants)).read env =
        (patternSource pattern flags).read env := by
      rw [read_patternSource, read_patternSource, PatternSource.read, PatternSource.read, hpattern,
        hflags]
    have hbind := bindCaptures_fold hknown hagrees (hknown.new hcaptures) fun expr hexpr =>
      hnormal expr (List.mem_cons_of_mem _ (List.mem_cons_of_mem _ (List.mem_cons_of_mem _ hexpr)))
    simp only [Predicate.fold, Predicate.step, Step.pass, Step.matchPattern, hvalue, hread, hbind,
      List.length_map]

/-- A folded step does what the step does. -/
lemma pass_foldStep (hknown : Known constants names) (hagrees : Agrees constants env) {part : Part}
    (hscoped : Scoped names part.touches) (hnormal : AllNormal part.touches)
    (source : EventSource) :
    ((part.fold constants).step source names).pass env = (part.step source names).pass env := by
  match part with
  | .invocation i => exact pass_foldInvocation hknown hagrees hscoped hnormal source
  | .predicate p => exact pass_foldPredicate hknown hagrees hscoped hnormal
  | .binding name expr =>
    have hexpr := Expr.run_fold hknown.only hagrees expr (hnormal expr List.mem_cons_self)
    simp only [Part.fold, Part.step, Step.pass, hexpr]
  | .condition expr =>
    have hexpr := Expr.run_fold hknown.only hagrees expr (hnormal expr List.mem_cons_self)
    simp only [Part.fold, Part.step, Step.pass, hexpr]

/-- What passes a folded step agrees with the constants that are known after it. -/
lemma agrees_foldStep (hknown : Known constants names) (hagrees : Agrees constants env)
    {part : Part} (hscoped : Scoped names part.touches) {source : EventSource} {w : World}
    (h : .ok env' ∈ (((part.fold constants).step source names).run env w).1) :
    Agrees ((part.fold constants).remember constants) env' := by
  have hsame := Step.run_sameExcept h
  rw [assigns_step, declared_fold] at hsame
  have hstays := hagrees.of_sameExcept hsame (hknown.new hscoped)
  unfold Part.remember
  split
  -- A binding that was folded to a constant has set its name to that constant.
  · rename_i name ty value hfold
    rw [hfold] at h
    obtain ⟨envs, v, hpass, hmem⟩ := Step.ok_mem_run.1 h
    obtain ⟨given, hgiven, rfl⟩ := Step.mem_pass_assign hpass hmem
    cases hgiven
    exact hstays.insert (Env.readVar_setVar env name value.toRuntime) ty
  · exact hstays

/-- Folded parts have steps that do what the steps of the parts do. They lead from environments that
agree with the constants before them to environments that agree with the constants after them. -/
lemma steps_foldAll_alike (hknown : Known constants names) {parts : List Part}
    (hscoped : Scoped names (parts.flatMap Part.touches))
    (hnormal : AllNormal (parts.flatMap Part.touches)) (source : EventSource) :
    Chain.Alike (Agrees constants) (Agrees (Part.foldAll constants parts).2)
      ((steps source names (Part.foldAll constants parts).1).map Step.run)
      ((steps source names parts).map Step.run) := by
  -- The constants grow along the parts; what carries the induction is that they are known names.
  induction parts generalizing constants names with
  | nil => exact .nil
  | cons part rest ih =>
    rw [List.flatMap_cons, scoped_append] at hscoped
    rw [List.flatMap_cons, allNormal_append] at hnormal
    have hrun : ∀ env, Agrees constants env → ((part.fold constants).step source names).run env =
        (part.step source names).run env := fun env hagrees => by
      rw [Step.run, Step.run, pass_foldStep hknown hagrees hscoped.1 hnormal.1]
    rw [foldAll_cons, steps, steps, declared_fold, List.map_cons, List.map_cons]
    refine .cons hrun (fun env w env' hagrees h => ?_)
      (ih (known_remember hknown part) hscoped.2 hnormal.2)
    rw [← hrun env hagrees] at h
    exact agrees_foldStep hknown hagrees hscoped.1 h

end Steps

end Typed

end ChannelRules
