import ChannelRules.Pattern.Machine
import ChannelRules.Proofs.Engine
import ChannelRules.Proofs.Fold.Filter

/-!
# Folding a rule

The code of a folded rule does what the code of the rule does in every environment that agrees with
the constants that names have been replaced by, and it leads to environments that agree with the
constants found on the way. No constants are known at the start of a rule, so an engine cannot tell
a folded rule from the rule, whatever it starts from.
-/

namespace ChannelRules

namespace Typed

open Touch

lemma ofVars_agrees (constants : Named Expr) : OfVars (Agrees constants) := by
  intro env env' hvars h name ty value hget
  rw [hvars name]
  exact h name ty value hget

variable [PatternEngine]

section Clauses

variable {constants : Named Expr} {names : List String} {source : EventSource}

lemma shape_foldInvocation (hknown : Known constants names) {i : Invocation}
    (hnormal : AllNormal (Part.invocation i).touches) :
    (Invocation.code names
      { i with params := i.params.map fun param => param.map (Binder.fold constants) }).shape =
      (i.code names).shape := by
  have hslots := slotsFolded hknown hnormal
  simp only [CompiledInvocation.shape, CompiledInvocation.checked, Invocation.code,
    isSome_inputs_folded hslots, assignedSlots_folded hslots 0,
    checked_folded (deferredSlots_folded hslots 0)]

/-- The code of a folded trigger or query does what the code of the trigger or query does. -/
lemma clauseAlike_foldAll (hknown : Known constants names) {parts : List Part}
    (hscoped : Scoped names (parts.flatMap Part.touches))
    (hnormal : AllNormal (parts.flatMap Part.touches)) (hstarts : StartsWithInvocation parts)
    {folded plain : CompiledClause}
    (hfolded : clauseCode? source names (Part.foldAll constants parts).1 = some folded)
    (hplain : clauseCode? source names parts = some plain) :
    ClauseAlike (Agrees constants) (Agrees (Part.foldAll constants parts).2) folded plain := by
  have hsteps := steps_foldAll_alike hknown hscoped hnormal source
  obtain ⟨i, rest, rfl, -⟩ := hstarts
  have hinvocation : AllNormal (Part.invocation i).touches := by
    rw [List.flatMap_cons, allNormal_append] at hnormal
    exact hnormal.1
  cases hfolded
  cases hplain
  exact { ofVars := ofVars_agrees constants
          shape := shape_foldInvocation hknown hinvocation
          inputs := fun env hagrees => runInputs_folded hknown hagrees (slotsFolded hknown hinvocation)
          filter := hsteps }

/-- The code of folded queries does what the code of the queries does, if the actions after them
do. -/
lemma queriesAlike_foldClauses (hknown : Known constants names) {clauses : List (List Part)}
    (hscoped : Scoped names (clauses.flatten.flatMap Part.touches))
    (hnormal : AllNormal (clauses.flatten.flatMap Part.touches))
    (hstarts : ∀ parts ∈ clauses, StartsWithInvocation parts) {folded plain : List CompiledClause}
    (hfolded : queriesCode? names (foldClauses constants clauses).1 = some folded)
    (hplain : queriesCode? names clauses = some plain) {os os' : List CompiledOutput}
    (houtputs : List.Forall₂ (OutputAlike (Agrees (foldClauses constants clauses).2)) os os') :
    QueriesAlike os os' (Agrees constants) folded plain := by
  induction clauses generalizing constants names folded plain with
  | nil =>
    cases hfolded
    cases hplain
    exact .outputs (ofVars_agrees constants) houtputs
  | cons parts rest ih =>
    rw [List.flatten_cons, List.flatMap_append, scoped_append] at hscoped
    rw [List.flatten_cons, List.flatMap_append, allNormal_append] at hnormal
    have hparts := foldedAs_foldAll hknown hscoped.1
    simp only [foldClauses_cons, queriesCode?, hparts.introduced, Option.bind_eq_bind,
      Option.bind_eq_some_iff, Option.pure_def, Option.some.injEq] at hfolded hplain
    obtain ⟨foldedQuery, hfoldedQuery, foldedRest, hfoldedRest, rfl⟩ := hfolded
    obtain ⟨query, hquery, others, hothers, rfl⟩ := hplain
    exact .query
      (clauseAlike_foldAll hknown hscoped.1 hnormal.1 (hstarts parts List.mem_cons_self)
        hfoldedQuery hquery)
      (ih hparts.known hscoped.2 hnormal.2 (fun p hp => hstarts p (List.mem_cons_of_mem _ hp))
        hfoldedRest hothers houtputs)

lemma triggerAlike_foldTrigger {trigger : Option (List Part)}
    (hscoped : Scoped names ((trigger.getD []).flatMap Part.touches))
    (hnormal : AllNormal ((trigger.getD []).flatMap Part.touches))
    (hstarts : ∀ parts ∈ trigger, StartsWithInvocation parts) {folded plain : Option CompiledClause}
    (hfolded : triggerCode? names (foldTrigger trigger).1 = some folded)
    (hplain : triggerCode? names trigger = some plain) :
    TriggerAlike (Agrees []) (Agrees (foldTrigger trigger).2) folded plain := by
  cases trigger with
  | none =>
    cases hfolded
    cases hplain
    exact .command
  | some parts =>
    simp only [foldTrigger, triggerCode?, Option.bind_eq_bind, Option.bind_eq_some_iff,
      Option.pure_def, Option.some.injEq] at hfolded hplain
    obtain ⟨foldedClause, hfoldedClause, rfl⟩ := hfolded
    obtain ⟨clause, hclause, rfl⟩ := hplain
    exact .event (clauseAlike_foldAll (known_nil names) hscoped hnormal (hstarts parts rfl)
      hfoldedClause hclause)

end Clauses

section Actions

variable {constants : Named Expr} {names : List String} {env : Env}

lemma runInputs_foldValues (hknown : Known constants names) (hagrees : Agrees constants env)
    {params : List (Option Expr)} (hnormal : ∀ expr ∈ params.filterMap id, expr.Normal) :
    CompiledInvocation.runInputs env
        ((params.map fun param => param.map (Expr.fold constants)).map (Option.map Expr.code)) =
      CompiledInvocation.runInputs env (params.map (Option.map Expr.code)) := by
  induction params with
  | nil => rfl
  | cons param rest ih =>
    cases param with
    | none =>
      have hrest := ih hnormal
      simp only [List.map_cons, Option.map_none, CompiledInvocation.runInputs, hrest]
    | some expr =>
      have hrest := ih fun e he => hnormal e (List.mem_cons_of_mem _ he)
      have hexpr := Expr.run_fold hknown.only hagrees expr (hnormal expr List.mem_cons_self)
      simp only [List.map_cons, Option.map_some, CompiledInvocation.runInputs, Code.runOptional,
        hexpr, hrest]

lemma outputAlike_fold (hknown : Known constants names) {action : Action}
    (hnormal : ∀ expr ∈ action.exprs, expr.Normal) :
    OutputAlike (Agrees constants) (action.fold constants).code action.code := by
  cases action with
  | invocation channel params =>
    exact ⟨rfl, fun env hagrees => runInputs_foldValues hknown hagrees hnormal⟩
  | keyword cell expr =>
    refine ⟨rfl, fun env hagrees => ?_⟩
    exact @runInputs_foldValues _ constants names env hknown hagrees [some expr] hnormal

lemma outputsAlike_fold (hknown : Known constants names) {actions : List Action}
    (hnormal : AllNormal (actions.flatMap Action.touches)) :
    List.Forall₂ (OutputAlike (Agrees constants))
      ((actions.map (Action.fold constants)).map Action.code) (actions.map Action.code) := by
  induction actions with
  | nil => exact .nil
  | cons action rest ih =>
    rw [List.flatMap_cons, allNormal_append] at hnormal
    refine .cons (outputAlike_fold hknown fun expr hexpr => ?_) (ih hnormal.2)
    exact hnormal.1 expr (List.mem_map.2 ⟨expr, hexpr, rfl⟩)

end Actions

section Rules

variable {names : List String} {rule : Rule} {folded plain : CompiledRule}

/-- The code of a folded rule does what the code of the rule does. -/
lemma ruleAlike_fold (hscoped : rule.WellScoped names) (hnormal : AllNormal rule.touches)
    (hfolded : rule.fold.code? names = some folded) (hplain : rule.code? names = some plain) :
    RuleAlike (Agrees []) (Agrees rule.triggerConstants) folded plain := by
  obtain ⟨hfoldedTrigger, hfoldedQueries, hfoldedRest⟩ := code?_eq_some hfolded
  obtain ⟨htrigger, hqueries, hrest⟩ := code?_eq_some hplain
  obtain ⟨hscopedTrigger, hscopedQueries, -⟩ := hscoped.parts
  rw [Rule.touches, allNormal_append, allNormal_append] at hnormal
  have hknown := (foldedAs_trigger hscoped).known
  have houtputs := outputsAlike_fold (foldedAs_queries hscoped).known hnormal.2
  rw [(foldedAs_trigger hscoped).introduced] at hfoldedQueries
  constructor
  · exact triggerAlike_foldTrigger hscopedTrigger hnormal.1.1 hscoped.trigger hfoldedTrigger htrigger
  · rw [hfoldedRest, hrest]
    exact queriesAlike_foldClauses hknown hscopedQueries hnormal.1.2 hscoped.queries hfoldedQueries
      hqueries houtputs

lemma inputReads_fold (hscoped : rule.WellScoped names) : rule.fold.inputReads = rule.inputReads := by
  rw [Rule.inputReads, Rule.inputReads, Rule.inputParts, Rule.inputParts, List.flatMap_append,
    List.flatMap_append, List.flatMap_append, List.flatMap_append, (foldedAs_trigger hscoped).reads,
    (foldedAs_queries hscoped).reads]

lemma reads_foldRule (hscoped : rule.WellScoped names) : rule.fold.reads = rule.reads := by
  have hexprs : rule.fold.actions.flatMap Action.exprs =
      (rule.actions.flatMap Action.exprs).map (Expr.fold rule.actionConstants) := by
    rw [fold_eq, List.flatMap_map, List.map_flatMap]
    congr 1
    funext action
    exact exprs_foldAction rule.actionConstants action
  rw [Rule.reads, Rule.reads, inputReads_fold hscoped, hexprs,
    flatMap_reads_fold (foldedAs_queries hscoped).known]

end Rules

end Typed

open Typed

/-- Folding a rule of a checked program cannot be observed. The folded rule compiles exactly if the
rule does. The two compiled rules then have invocations of the same shape and read the same keyword
cells. Whatever environment and world an engine starts from and whatever events it delivers, it sees
the same of both, after the same draws and with the same keyword cells, and running both once leaves
the same journal and the same world. -/
theorem compileRule_fold [PatternEngine] {kinds : Named KindSchemas} {program : Source.Program}
    {typed : Typed.Program} (h : (checkProgram kinds program).result = .ok typed)
    {rule : Typed.Rule} (hrule : rule ∈ typed.rules) :
    ((∃ folded, compileRule typed.params rule.fold = .ok folded) ↔
      ∃ plain, compileRule typed.params rule = .ok plain) ∧
    ∀ folded plain, compileRule typed.params rule.fold = .ok folded →
      compileRule typed.params rule = .ok plain →
        folded.trigger.map (fun trigger => trigger.invocation.shape) =
            plain.trigger.map (fun trigger => trigger.invocation.shape) ∧
          folded.queries.map (fun query => query.invocation.shape) =
            plain.queries.map (fun query => query.invocation.shape) ∧
          folded.inputKeywords = plain.inputKeywords ∧ folded.keywords = plain.keywords ∧
          (∀ deliveries env world,
            folded.drive deliveries env world = plain.drive deliveries env world) ∧
          ∀ activation env world,
            Engine.run folded activation env world = Engine.run plain activation env world := by
  obtain ⟨hscoped, hnormal⟩ := checkProgram_wellScoped h rule hrule
  obtain ⟨foldedCode, hfoldedCode, hfolded⟩ := compileRule_cases (wellScoped_fold hscoped)
  obtain ⟨plainCode, hplainCode, hplain⟩ := compileRule_cases hscoped
  rw [capturesApart_foldRule hscoped] at hfolded
  rcases hplain with ⟨hapart, hplain⟩ | ⟨hapart, x, hplain⟩
  · have hfolded : compileRule typed.params rule.fold = .ok foldedCode := by
      simpa only [hapart, true_and, Bool.true_eq_false, false_and, or_false] using hfolded
    refine ⟨⟨fun _ => ⟨plainCode, hplain⟩, fun _ => ⟨foldedCode, hfolded⟩⟩, ?_⟩
    rw [hfolded, hplain]
    rintro _ _ ⟨⟩ ⟨⟩
    have halike := ruleAlike_fold hscoped hnormal hfoldedCode hplainCode
    have hkeywords := (code?_eq_some hfoldedCode).2.2
    rw [inputReads_fold hscoped, reads_foldRule hscoped] at hkeywords
    refine ⟨halike.trigger.shapes, halike.queries.shapes, ?_, ?_, fun deliveries env world => ?_,
      fun activation env world => ?_⟩
    · rw [hkeywords, (code?_eq_some hplainCode).2.2]
    · rw [hkeywords, (code?_eq_some hplainCode).2.2]
    · exact drive_alike deliveries halike (Expr.agrees_nil env) world
    · exact Engine.run_alike halike activation (Expr.agrees_nil env) world
  · obtain ⟨y, hfolded⟩ : ∃ y, compileRule typed.params rule.fold = .error (.unknownVariable y) := by
      simpa only [hapart, true_and, Bool.false_eq_true, false_and, false_or] using hfolded
    simp only [hfolded, hplain, reduceCtorEq, exists_false, false_implies, implies_true, and_self]

/-- A kind of device with a list of entries. -/
def listKind : Named KindSchemas :=
  [("com.list", ⟨[], [("entries", ⟨["entry"], [.string], "", "", ""⟩)], []⟩)]

/-- A rule that binds a pattern in its trigger and uses it in a query and in its action. -/
def boundPattern : Source.Program :=
  ⟨"bound", [], [.rule
    [.invocation ⟨.builtin, "at", [.null]⟩, .binding "start" (.constant (.string "^a"))]
    [[.invocation ⟨.globalName "com.list", "entries", [.var "entry"]⟩,
      .predicate (.call "regex" [.var "entry", .var "start", .constant (.string "i")])]]
    [.invocation ⟨.builtin, "logger", [.var "start"]⟩]]⟩

/-- Folding replaces the name of the pattern, and no engine notices. -/
theorem compileRule_fold_boundPattern :
    ∃ typed rule, (checkProgram listKind boundPattern).result = .ok typed ∧ rule ∈ typed.rules ∧
      ∃ folded plain, compileRule typed.params rule.fold = .ok folded ∧
        compileRule typed.params rule = .ok plain ∧
        (∀ deliveries env world,
          folded.drive deliveries env world = plain.drive deliveries env world) ∧
        ∀ activation env world,
          Engine.run folded activation env world = Engine.run plain activation env world := by
  have h : (checkProgram listKind boundPattern).result = .ok ⟨"bound", [], [], [
      ⟨0, none, some [
        .invocation ⟨⟨.builtin, Selector.builtinKind, "at", .triggers⟩, [none], [.time]⟩,
        .binding "start" (.constant .string (.string "^a"))],
        [[.invocation ⟨⟨.globalName "com.list", "com.list", "entries", .queries⟩,
            [some (.declare "entry" .string)], [.string]⟩,
          .predicate (.regex (.var .string "entry") (.var .string "start")
            (.constant .string (.string "i")) [])]],
        [.invocation ⟨.builtin, Selector.builtinKind, "logger", .actions⟩
          [some (.var .string "start")]]⟩]⟩ := rfl
  have hsame := (compileRule_fold h List.mem_cons_self).2 _ _ rfl rfl
  exact ⟨_, _, h, List.mem_cons_self, _, _, rfl, rfl, hsame.2.2.2.2⟩

end ChannelRules
