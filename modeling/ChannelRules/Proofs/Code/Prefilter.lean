import ChannelRules.Pattern.Machine
import ChannelRules.Proofs.Code.Subcodes
import ChannelRules.Proofs.Fold.Scoped
import Mathlib.Data.Fintype.EquivFin

/-!
# What is known before the event

A trigger is armed with its inputs before its event arrives. A parameter that reads a variable of
its own invocation waits for the event. What an input computes does not depend on the event either,
unless it asks for the text of the event: then it stops for want of the event as long as there is
none.
-/

namespace ChannelRules

open Typed Typed.Touch

/-- Two environments that are equal except for the event of the trigger, the query result and the
inputs of the query. -/
def Env.SameButEvents (env env' : Env) : Prop :=
  env' = { env with
    trigger := env'.trigger
    query := env'.query
    queryInput := env'.queryInput }

/-- An environment in which nothing has happened yet. -/
def Env.beforeEvents (env : Env) : Env :=
  { env with
    trigger := none
    query := none
    queryInput := none }

lemma Env.SameButEvents.beforeEvents_eq {env env' : Env} (h : env.SameButEvents env') :
    env'.beforeEvents = env.beforeEvents := by
  have hbefore := congrArg Env.beforeEvents h
  exact hbefore

/-- What is computed without an event is what is computed with it, unless the event is missed. -/
def Foretells {α : Type} (without found : Eval α) : Prop :=
  ∀ w, (without.attempt w).1 = .error .noEvent ∨ without w = found w

section Foretells

variable {α β : Type} {x y : Eval α}

lemma foretells_refl (x : Eval α) : Foretells x x := fun _ => .inr rfl

lemma Foretells.bind {f g : α → Eval β} (hx : Foretells x y) (hf : ∀ a, Foretells (f a) (g a)) :
    Foretells (x >>= f) (y >>= g) := by
  intro w
  rcases hx w with hmissed | hsame
  · left
    rw [Eval.attempt_bind_of_error hmissed]
  · cases hfound : y w with
    | error e v =>
      right
      rw [state_bind_of_error (hsame.trans hfound), state_bind_of_error hfound]
    | ok a v =>
      have hlater := hf a v
      rw [← state_bind_of_ok (hsame.trans hfound) f, ← state_bind_of_ok hfound g] at hlater
      refine hlater.imp_left fun hmissed => ?_
      rw [← hmissed, Eval.attempt_congr (state_bind_of_ok (hsame.trans hfound) f)]

end Foretells

section Views

variable {view view' : View}

lemma View.usesMonthFirst_congr (hlocale : view'.locale = view.locale) :
    view'.usesMonthFirst = view.usesMonthFirst := by
  rw [usesMonthFirst, usesMonthFirst, hlocale]

mutual

/-- What people are shown depends on the locale and the time zone only. -/
theorem View.formatValue_congr (hlocale : view'.locale = view.locale)
    (hoffset : view'.offset = view.offset) : (v : Value) → view'.formatValue v = view.formatValue v
  | .array items => by
    rw [formatValue, formatValue, formatValues_congr hlocale hoffset items]
  | .date t => by
    rw [formatValue, formatValue, formatDate, formatDate, usesMonthFirst_congr hlocale, hoffset]
  | .time hour minute => by
    rw [formatValue, formatValue, formatTime, formatTime, usesMonthFirst_congr hlocale]
  | .measure _ _ | .varRef _ | .boolean _ | .string _ | .number _ | .location _ _ _
  | .entity _ _ _ | .enum _ | .object _ | .feed _ => rfl

theorem View.formatValues_congr (hlocale : view'.locale = view.locale)
    (hoffset : view'.offset = view.offset) :
    (vs : List Value) → view'.formatValues vs = view.formatValues vs
  | [] => rfl
  | v :: rest => by
    rw [formatValues, formatValues, formatValue_congr hlocale hoffset v,
      formatValues_congr hlocale hoffset rest]

end

end Views

section Before

variable [PatternEngine] (env : Env)

lemma Op.run_foretells (op : Op) (args : List Value) :
    Foretells (op.run env.beforeEvents args) (op.run env args) := by
  unfold Op.run
  cases op.native with
  | calculation op => exact foretells_refl _
  | draw op => exact foretells_refl _
  | rendering op =>
    cases op with
    | valueText =>
      have hvalue : ∀ v, env.beforeEvents.formatValue v = env.formatValue v :=
        View.formatValue_congr rfl rfl
      simp only [Native.run, Rendering.run, hvalue]
      exact foretells_refl _
    | eventText => exact fun _ => .inl rfl
    | measureText => exact foretells_refl _

mutual

/-- Code computes the same with and without an event, or else misses the event. -/
theorem Code.run_foretells :
    (code : Code) → Foretells (code.run env.beforeEvents) (code.run env)
  | .constant _ | .var _ | .keyword _ => by
    rw [Code.run, Code.run]
    exact foretells_refl _
  | .member object _ => by
    rw [Code.run, Code.run]
    exact (Code.run_foretells object).bind fun _ => foretells_refl _
  | .call op args => by
    rw [Code.run, Code.run]
    exact (Code.runAll_foretells args).bind fun values => op.run_foretells env values
  | .connective decisive lhs rhs => by
    rw [Code.run, Code.run]
    refine (Code.run_foretells lhs).bind fun left => (foretells_refl _).bind fun b => ?_
    split
    · exact foretells_refl _
    · exact (Code.run_foretells rhs).bind fun _ => foretells_refl _
  | .items codes => by
    rw [Code.run, Code.run]
    exact (Code.runAll_foretells codes).bind fun _ => foretells_refl _

theorem Code.runAll_foretells : (codes : List Code) →
    Foretells (Code.runAll env.beforeEvents codes) (Code.runAll env codes)
  | [] => by
    rw [Code.runAll, Code.runAll]
    exact foretells_refl _
  | code :: rest => by
    rw [Code.runAll, Code.runAll]
    exact (Code.run_foretells code).bind fun _ => (Code.runAll_foretells rest).bind fun _ =>
      foretells_refl _

end

lemma runInputs_foretells (inputs : List (Option Code)) :
    Foretells (CompiledInvocation.runInputs env.beforeEvents inputs)
      (CompiledInvocation.runInputs env inputs) := by
  induction inputs with
  | nil => exact foretells_refl _
  | cons input rest ih =>
    have hinput : Foretells (Code.runOptional env.beforeEvents input)
        (Code.runOptional env input) := by
      cases input with
      | none => exact foretells_refl _
      | some code => exact (code.run_foretells env).bind fun _ => foretells_refl _
    rw [CompiledInvocation.runInputs, CompiledInvocation.runInputs]
    exact hinput.bind fun _ => ih.bind fun _ => foretells_refl _

end Before

/-- A computation that does not fail for want of an event. -/
abbrev Served {α : Type} (x : Eval α) : Prop :=
  Eval.Ensures (fun _ => True) (fun _ => True) (fun e => e ≠ .noEvent) x

lemma Served.attempt_ne {α : Type} {x : Eval α} (hx : Served x) (w : World) :
    (x.attempt w).1 ≠ .error .noEvent := by
  intro h
  have hgives := (Eval.Ensures.attempt hx (w := w) trivial).2
  rw [h] at hgives
  exact hgives rfl

/-- An operation that is given an event if it asks for its text. -/
def Env.Serves (env : Env) (op : Op) : Prop :=
  op.native = .rendering .eventText → ∀ hint, Served (env.formatEvent hint)

/-- There is a kind of events that no formatter is registered for. -/
lemma exists_unformatted (env : Env) : ∃ kind, Named.get? env.formatters kind = none := by
  obtain ⟨kind, hkind⟩ := Infinite.exists_notMem_finset (Named.names env.formatters).toFinset
  exact ⟨kind, Named.get?_eq_none_iff.2 (by simpa using hkind)⟩

/-- The event of a kind without a formatter has a text. -/
lemma formatEvent_served {env : Env} {frame : Frame} (hevent : env.currentEvent = .ok frame)
    (hkind : Named.get? env.formatters frame.channel.kind = none) (hint : FormatHint) :
    Served (env.formatEvent hint) := by
  unfold Env.formatEvent Env.chunksOf
  rw [hevent, Eval.ofExcept_ok, pure_bind, hkind]
  exact Eval.ensures_pure trivial

section Inputs

variable [PatternEngine] {env : Env} {inputs : List (Option Code)}

/-- An expression misses no event if those of its operations that ask for an event have one. -/
lemma Typed.Expr.code_served {expr : Expr} (h : ∀ op ∈ expr.ops, env.Serves op) :
    Served (expr.code.run env) := by
  refine code_ensures (fun e he => ?_) (fun _ => nofun) (fun x _ => ?_) h
  · rintro rfl
    cases he
  · unfold View.readVar
    repeat' split
    all_goals first | trivial | nofun

/-- Inputs that miss no event where there is none compute the same whatever the events are. -/
lemma runInputs_sameButEvents {w : World}
    (hfound : ((CompiledInvocation.runInputs env.beforeEvents inputs).attempt w).1 ≠
      .error .noEvent) {env' : Env} (hsame : env.SameButEvents env') :
    CompiledInvocation.runInputs env' inputs w = CompiledInvocation.runInputs env inputs w := by
  have hbefore := hsame.beforeEvents_eq
  have h := runInputs_foretells env inputs w
  have h' := runInputs_foretells env' inputs w
  rw [hbefore] at h'
  exact (h'.resolve_left hfound).symm.trans (h.resolve_left hfound)

/-- Inputs do not depend on events exactly if they do not miss an event where there is none. -/
theorem runInputs_sameButEvents_iff (w : World)
    (hserved : ∀ env : Env, (∀ op, env.Serves op) →
      Served (CompiledInvocation.runInputs env inputs)) :
    (∀ env', env.SameButEvents env' →
        ((CompiledInvocation.runInputs env' inputs).attempt w).1 =
          ((CompiledInvocation.runInputs env inputs).attempt w).1) ↔
      ((CompiledInvocation.runInputs env.beforeEvents inputs).attempt w).1 ≠ .error .noEvent := by
  constructor
  · intro hsame hmissed
    -- An event that is there would not be missed.
    obtain ⟨kind, hkind⟩ := exists_unformatted env
    let frame : Frame := ⟨⟨.any, kind, "", .triggers⟩, []⟩
    have hevent : env.SameButEvents (env.clearQuery.setTrigger frame) := rfl
    have hbefore : env.SameButEvents env.beforeEvents := rfl
    have hserves : ∀ op, (env.clearQuery.setTrigger frame).Serves op := fun op _ hint =>
      @formatEvent_served (env.clearQuery.setTrigger frame) frame rfl hkind hint
    refine (hserved _ hserves).attempt_ne w ?_
    rw [hsame _ hevent, ← hsame _ hbefore, hmissed]
  · intro hfound env' hsame
    rw [Eval.attempt_congr (runInputs_sameButEvents hfound hsame)]

end Inputs

section Parameters

variable {names : List String} {i : Invocation}

/-- A parameter reads a variable that its own invocation introduces. -/
def Typed.Invocation.Delays (i : Invocation) (expr : Expr) : Prop :=
  ∃ x ∈ expr.vars, x ∈ declared (Part.invocation i).touches

lemma mem_checked {place : Nat} : place ∈ (i.code names).checked ↔
    ∃ expr, i.params[place]? = some (some (.expect expr)) ∧
      expr.vars.all names.contains = false := by
  simp only [CompiledInvocation.checked, Invocation.code, List.map_map, List.mem_map,
    Function.comp_apply, Prod.exists, mem_deferredSlots_iff, Nat.zero_add, List.getElem?_map,
    Option.map_eq_some_iff, slot_eq_deferred]
  grind

lemma inputs_getElem? (place : Nat) : (i.code names).inputs[place]? =
    i.params[place]?.map fun param => (slot names param).input? := by
  rw [Invocation.code, List.map_map, List.getElem?_map]
  rfl

/-- What a well scoped invocation reads is known before, or introduced by the invocation itself. -/
lemma all_contains_eq_false_iff (hscoped : Scoped names (Part.invocation i).touches) {expr : Expr}
    (hexpr : some (.expect expr) ∈ i.params) :
    expr.vars.all names.contains = false ↔ i.Delays expr := by
  have hreads : .reads expr ∈ (Part.invocation i).touches :=
    List.mem_map.2 ⟨.expect expr, List.mem_filterMap.2 ⟨_, hexpr, rfl⟩, rfl⟩
  have hknown := mem_of_reads hscoped hreads
  rw [List.all_eq_false]
  simp only [List.contains_iff_mem, Typed.Invocation.Delays]
  refine exists_congr fun x => and_congr_right fun hx => ?_
  exact ⟨fun hmiss => (List.mem_append.1 (hknown x hx)).resolve_left hmiss,
    fun hdeclared => not_mem_of_scoped hscoped hdeclared⟩

/-- A parameter that waits for a variable of the invocation is checked when the event has arrived; any
other expected value is an input. -/
lemma expect_place (hscoped : Scoped names (Part.invocation i).touches) {place : Nat} {expr : Expr}
    (hexpr : i.params[place]? = some (some (.expect expr))) :
    (i.Delays expr → place ∈ (i.code names).checked ∧ (i.code names).inputs[place]? = some none) ∧
      (¬ i.Delays expr → place ∉ (i.code names).checked ∧
        (i.code names).inputs[place]? = some (some expr.code)) := by
  have hdelays := all_contains_eq_false_iff hscoped (List.mem_of_getElem? hexpr)
  rw [inputs_getElem?, mem_checked, hexpr]
  constructor
  · intro hexprDelays
    have hmiss := hdelays.2 hexprDelays
    refine ⟨⟨expr, rfl, hmiss⟩, ?_⟩
    rw [Option.map_some, slot, hmiss]
    rfl
  · intro hknown
    have hall : expr.vars.all names.contains = true := Bool.of_not_eq_false (mt hdelays.1 hknown)
    constructor
    · rintro ⟨other, hother, hmiss⟩
      cases hother
      rw [hall] at hmiss
      cases hmiss
    · rw [Option.map_some, slot, hall]
      rfl

lemma exists_of_mem_inputs {i : Invocation} (hscoped : Scoped names (Part.invocation i).touches)
    {c : Code} (hc : some c ∈ (i.code names).inputs) :
    ∃ expr, some (.expect expr) ∈ i.params ∧ ¬ i.Delays expr ∧ c = expr.code := by
  rw [Invocation.code, List.map_map, List.mem_map] at hc
  obtain ⟨param, hparam, hinput⟩ := hc
  obtain _ | ⟨name, ty⟩ | expr := param
  · cases hinput
  · cases hinput
  · rw [Function.comp_apply, slot] at hinput
    split at hinput
    · rename_i hall
      cases hinput
      refine ⟨expr, hparam, fun hdelays => ?_, rfl⟩
      rw [(all_contains_eq_false_iff hscoped hparam).2 hdelays] at hall
      cases hall
    · cases hinput

end Parameters

section Triggers

variable [PatternEngine] {names : List String}

/-- The inputs do not miss an event if no operation in an input misses one. -/
lemma evaluateInputs_served {i : Invocation} (hscoped : Scoped names (Part.invocation i).touches)
    {env : Env} (hops : ∀ expr, some (.expect expr) ∈ i.params → ¬ i.Delays expr →
      ∀ op ∈ expr.ops, env.Serves op) :
    Served ((i.code names).evaluateInputs env) := by
  refine CompiledInvocation.runInputs_ensures fun c hc => ?_
  obtain ⟨expr, hexpr, hdelays, rfl⟩ := exists_of_mem_inputs hscoped hc
  exact Expr.code_served (hops expr hexpr hdelays)

lemma exists_trigger_invocation {rule : Rule} {code : CompiledRule}
    (hscoped : rule.WellScoped names) (h : rule.code? names = some code)
    {trigger : CompiledClause} (htrigger : code.trigger = some trigger) :
    ∃ i rest, rule.trigger = some (.invocation i :: rest) ∧
      trigger.invocation = i.code names := by
  have hcode := (code?_eq_some h).1
  cases hparts : rule.trigger with
  | none =>
    rw [hparts, htrigger] at hcode
    cases hcode
  | some parts =>
    obtain ⟨i, rest, rfl, -⟩ := hscoped.trigger parts hparts
    rw [hparts, htrigger] at hcode
    cases hcode
    exact ⟨i, rest, rfl, rfl⟩

end Triggers

/-- What is handed to a trigger before its event arrives. A parameter that reads a variable of the
trigger's invocation is no input and is checked afterwards; any other expected value is an input. In
a given environment and world the inputs are the same whatever the events are, exactly if they do not
miss an event where there is none. So inputs can depend on events through the text of the event only,
and never do if no input calls for it. The rule can be folded or not. -/
theorem compileRule_prefilters [PatternEngine] {kinds : Named KindSchemas} {program : Source.Program}
    {typed : Typed.Program} (h : (checkProgram kinds program).result = .ok typed) {rule : Rule}
    (hrule : rule ∈ typed.rules) {version : Rule} (hversion : version = rule ∨ version = rule.fold)
    {code : CompiledRule} (hcode : compileRule typed.params version = .ok code)
    {trigger : CompiledClause} (htrigger : code.trigger = some trigger) :
    ∃ i rest, version.trigger = some (.invocation i :: rest) ∧
      (∀ (place : Nat) (expr : Expr), i.params[place]? = some (some (.expect expr)) →
        (i.Delays expr → place ∈ trigger.invocation.checked ∧
          trigger.invocation.inputs[place]? = some none) ∧
        (¬ i.Delays expr → place ∉ trigger.invocation.checked ∧
          trigger.invocation.inputs[place]? = some (some expr.code))) ∧
      (∀ (env : Env) (w : World), (∀ env', env.SameButEvents env' →
          ((trigger.invocation.evaluateInputs env').attempt w).1 =
            ((trigger.invocation.evaluateInputs env).attempt w).1) ↔
        ((trigger.invocation.evaluateInputs env.beforeEvents).attempt w).1 ≠ .error .noEvent) ∧
      ((∀ expr, some (.expect expr) ∈ i.params → ¬ i.Delays expr →
          ∀ op ∈ expr.ops, op.native ≠ .rendering .eventText) →
        ∀ env env' : Env, env.SameButEvents env' →
          trigger.invocation.evaluateInputs env' = trigger.invocation.evaluateInputs env) := by
  have hscoped : version.WellScoped (typed.params.map Prod.fst) := by
    have hrule := (checkProgram_wellScoped h rule hrule).1
    rcases hversion with rfl | rfl
    · exact hrule
    · exact wellScoped_fold hrule
  have hcompiled := code?_of_compileRule hscoped hcode
  obtain ⟨i, rest, hparts, hinvocation⟩ := exists_trigger_invocation hscoped hcompiled htrigger
  have hnames : Scoped (typed.params.map Prod.fst) (Part.invocation i).touches := by
    have htouches := hscoped.parts.1
    rw [hparts, Option.getD_some, List.flatMap_cons, scoped_append] at htouches
    exact htouches.1
  refine ⟨i, rest, hparts, fun place expr hexpr => ?_, fun env w => ?_,
    fun hcalls env env' hsame => funext fun w => ?_⟩
  · rw [hinvocation]
    exact expect_place hnames hexpr
  · rw [hinvocation]
    exact runInputs_sameButEvents_iff w fun env hserves =>
      evaluateInputs_served hnames fun _ _ _ op _ => hserves op
  · have hserved : Served ((i.code _).evaluateInputs env.beforeEvents) :=
      evaluateInputs_served hnames fun expr hexpr hdelays op hop hnative =>
        absurd hnative (hcalls expr hexpr hdelays op hop)
    rw [hinvocation]
    exact runInputs_sameButEvents (hserved.attempt_ne w) hsame

/-- A rule that is triggered by messages whose text is the text of the latest event and that people
write to themselves. -/
def echo : Source.Program :=
  ⟨"echo", [], [.rule
    [.invocation ⟨.globalName "com.chat", "message",
      [.call "eventToString" [], .var "sender", .var "sender"]⟩] []
    [.invocation ⟨.builtin, "notify", []⟩]]⟩

/-- The text of the event is an input and differs between events; the repeated sender is checked
when the event has arrived. -/
theorem compileRule_prefilters_echo :
    let kinds : Named KindSchemas :=
      [("com.chat", ⟨[("message", ⟨["text", "from", "to"], [.string, .string, .string], "", "",
        ""⟩)], [], []⟩)]
    ∃ typed rule code trigger, (checkProgram kinds echo).result = .ok typed ∧ rule ∈ typed.rules ∧
      compileRule typed.params rule.fold = .ok code ∧ code.trigger = some trigger ∧
      trigger.invocation.checked = [2] ∧
      trigger.invocation.inputs.map Option.isSome = [true, false, false] ∧
      ∀ w, ∃ env env', env.SameButEvents env' ∧
        ((trigger.invocation.evaluateInputs env').attempt w).1 ≠
          ((trigger.invocation.evaluateInputs env).attempt w).1 := by
  intro kinds
  let message : ChannelRef := ⟨.globalName "com.chat", "com.chat", "message", .triggers⟩
  have h : (checkProgram kinds echo).result = .ok ⟨"echo", [], [], [⟨0, none, some [
      .invocation ⟨message, [some (.expect (.call .string
        ⟨"eventToString", 0, .rendering .eventText⟩ [])), some (.declare "sender" .string),
        some (.expect (.var .string "sender"))], [.string, .string, .string]⟩], [],
      [.invocation ⟨.builtin, Selector.builtinKind, "notify", .actions⟩ []]⟩]⟩ := by cbv
  let env := Env.ofSettings .default
  obtain ⟨i, rest, -, -, hiff, -⟩ :=
    compileRule_prefilters h List.mem_cons_self (.inr rfl) rfl rfl
  refine ⟨_, _, _, _, h, List.mem_cons_self, rfl, rfl, rfl, rfl, fun w => ?_⟩
  have hdepends := mt (hiff env w).1 fun hserved => hserved rfl
  simp only [not_forall] at hdepends
  obtain ⟨env', hsame, hdiffers⟩ := hdepends
  exact ⟨env, env', hsame, hdiffers⟩

end ChannelRules
