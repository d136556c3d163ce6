import ChannelRules.Pattern.Machine
import ChannelRules.Proofs.Check.Scoped
import ChannelRules.Proofs.Code.Accepted
import ChannelRules.Proofs.Code.Reads

/-!
# The keyword cells that a compiled rule reports

A compiled rule tells which cells its inputs read and which cells it reads as a whole. All code of the
rule comes from expressions of the rule, and code reads the cells of its expression. What is reported
is therefore complete: the other cells make no difference to what the rule does.
-/

namespace ChannelRules

open Typed

namespace Typed

/-- Code reads cells of its expression only. -/
lemma Expr.reads_code (expr : Expr) : expr.code.reads ⊆ expr.reads := by
  intro cell hcell
  obtain ⟨sub, hsub, hcell⟩ := List.mem_filterMap.1 hcell
  obtain ⟨node, hnode, hstands⟩ := expr.covers_code sub hsub
  cases sub with
  | keyword name =>
    cases hcell
    exact List.mem_filterMap.2 ⟨node, hnode, hstands⟩
  | _ => cases hcell

lemma Expr.reads_code_subset {expr : Expr} {exprs : List Expr} (h : expr ∈ exprs) :
    expr.code.reads ⊆ exprs.flatMap Expr.reads := by
  exact fun cell hcell => List.mem_flatMap.2 ⟨expr, h, expr.reads_code hcell⟩

lemma mem_exprs_of_expect {params : List (Option Binder)} {expr : Expr}
    (h : some (.expect expr) ∈ params) :
    expr ∈ (params.filterMap id).flatMap Binder.exprs :=
  List.mem_flatMap.2 ⟨.expect expr, List.mem_filterMap.2 ⟨_, h, rfl⟩, List.mem_singleton_self expr⟩

/-- The inputs of an invocation come from values that are expected. -/
lemma reads_input {i : Invocation} {names : List String} {code : Code}
    (h : some code ∈ (i.code names).inputs) :
    code.reads ⊆ (Part.invocation i).exprs.flatMap Expr.reads := by
  obtain ⟨slot', hslot, hcode⟩ := List.mem_map.1 h
  obtain ⟨param, hparam, rfl⟩ := List.mem_map.1 hslot
  match param, hparam, hcode with
  | some (.expect expr), hparam, hcode =>
    rw [slot] at hcode
    split at hcode
    · cases hcode
      exact Expr.reads_code_subset (mem_exprs_of_expect hparam)
    · cases hcode

variable [PatternEngine]

lemma reads_patternSource (pattern flags : Expr) :
    (patternSource pattern flags).reads ⊆ pattern.code.reads ++ flags.code.reads := by
  unfold patternSource
  split
  · exact List.nil_subset _
  · exact List.Subset.refl _

lemma reads_predicate (p : Predicate) : p.step.reads ⊆ p.exprs.flatMap Expr.reads := by
  match p with
  | .test expr => exact expr.reads_code_subset (List.mem_singleton_self expr)
  | .contains container (.declare name ty) =>
    exact container.reads_code_subset (List.mem_singleton_self container)
  | .contains container (.expect element) =>
    have hcontainer : container ∈ [container, element] := List.mem_cons_self
    have helement : element ∈ [container, element] :=
      List.mem_cons_of_mem _ (List.mem_singleton_self element)
    exact List.append_subset.2
      ⟨Expr.reads_code_subset hcontainer, Expr.reads_code_subset helement⟩
  | .regex value pattern flags captures =>
    have hexprs : ∀ expr ∈ value :: pattern :: flags :: captures.flatMap Binder.exprs,
        expr.code.reads ⊆ (Predicate.regex value pattern flags captures).exprs.flatMap Expr.reads :=
      fun _ => Expr.reads_code_subset
    have hvalue := hexprs value (by simp)
    have hpattern := hexprs pattern (by simp)
    have hflags := hexprs flags (by simp)
    have hsource := List.Subset.trans (reads_patternSource pattern flags)
      (List.append_subset.2 ⟨hpattern, hflags⟩)
    refine List.append_subset.2 ⟨List.append_subset.2 ⟨hvalue, hsource⟩, fun cell hcell => ?_⟩
    obtain ⟨capture, hcapture, hcell⟩ := List.mem_flatMap.1 hcell
    obtain ⟨binder, hbinder, rfl⟩ := List.mem_map.1 hcapture
    cases binder with
    | declare name ty => cases hcell
    | expect expr =>
      have hexpr : expr ∈ captures.flatMap Binder.exprs :=
        List.mem_flatMap.2 ⟨_, hbinder, List.mem_singleton_self expr⟩
      exact hexprs expr (by simp [hexpr]) hcell

/-- A step reads cells of the expressions of its part only. -/
lemma reads_step (source : EventSource) (names : List String) (part : Part) :
    (part.step source names).reads ⊆ part.exprs.flatMap Expr.reads := by
  cases part with
  | binding name expr => exact expr.reads_code_subset (List.mem_singleton_self expr)
  | condition expr => exact expr.reads_code_subset (List.mem_singleton_self expr)
  | predicate p => exact reads_predicate p
  | invocation i =>
    intro cell hcell
    obtain ⟨check, hcheck, hcell⟩ := List.mem_flatMap.1 hcell
    obtain ⟨deferred, hdeferred, rfl⟩ := List.mem_map.1 hcheck
    exact Expr.reads_code_subset (mem_exprs_of_expect (mem_deferredSlots hdeferred)) hcell

lemma reads_steps (source : EventSource) (names : List String) (parts : List Part) :
    (steps source names parts).flatMap Step.reads ⊆
      (parts.flatMap Part.exprs).flatMap Expr.reads := by
  induction parts generalizing names with
  | nil => exact List.Subset.refl _
  | cons part rest ih =>
    rw [steps, List.flatMap_cons, List.flatMap_cons, List.flatMap_append]
    refine List.append_subset.2 ⟨?_, ?_⟩
    · exact List.subset_append_of_subset_left _ (reads_step source names part)
    · exact List.subset_append_of_subset_right _ (ih _)

end Typed

section Compiled

variable {locals locals' : Locals}

def CompiledClause.ReadsIn (cells : List String) (clause : CompiledClause) : Prop :=
  clause.filter.flatMap Step.reads ⊆ cells ∧
    ∀ code, some code ∈ clause.invocation.inputs → code.reads ⊆ cells

def CompiledOutput.ReadsIn (cells : List String) (output : CompiledOutput) : Prop :=
  ∀ code, some code ∈ output.values → code.reads ⊆ cells

lemma CompiledClause.ReadsIn.mono {cells cells' : List String} {clause : CompiledClause}
    (h : clause.ReadsIn cells) (hsub : cells ⊆ cells') : clause.ReadsIn cells' :=
  ⟨List.Subset.trans h.1 hsub, fun code hcode => List.Subset.trans (h.2 code hcode) hsub⟩

lemma compileValues_readsIn {params : List (Option Expr)} {codes : List (Option Code)}
    (h : compileValues locals params = .ok codes) :
    ∀ code, some code ∈ codes → code.reads ⊆ (params.filterMap id).flatMap Expr.reads := by
  induction params generalizing codes with
  | nil =>
    cases h
    exact fun _ hcode => (List.not_mem_nil hcode).elim
  | cons param rest ih =>
    simp only [compileValues, bind_eq_ok, pure_eq_ok] at h
    obtain ⟨first, hfirst, others, hothers, rfl⟩ := h
    intro code hcode
    cases param with
    | none =>
      cases hfirst
      exact ih hothers code (by simpa using hcode)
    | some expr =>
      simp only [Expr.compileOptional, bind_eq_ok, pure_eq_ok] at hfirst
      obtain ⟨found, hfound, rfl⟩ := hfirst
      have hcells : ((some expr :: rest).filterMap id).flatMap Expr.reads =
          expr.reads ++ (rest.filterMap id).flatMap Expr.reads := rfl
      rw [hcells]
      rcases List.mem_cons.1 hcode with heq | hcode
      · cases heq
        rw [← (Expr.compile_eq_ok.1 hfound).2]
        exact List.subset_append_of_subset_left _ expr.reads_code
      · exact List.subset_append_of_subset_right _ (ih hothers code hcode)

lemma compileAction_readsIn {action : Action} {output : CompiledOutput}
    (h : compileAction locals action = .ok output) :
    output.ReadsIn (action.exprs.flatMap Expr.reads) := by
  cases action with
  | invocation channel params =>
    simp only [compileAction, bind_eq_ok, pure_eq_ok] at h
    obtain ⟨values, hvalues, rfl⟩ := h
    exact compileValues_readsIn hvalues
  | keyword cell expr =>
    simp only [compileAction, bind_eq_ok, pure_eq_ok] at h
    obtain ⟨found, hfound, rfl⟩ := h
    intro code hcode
    cases List.mem_singleton.1 hcode
    rw [← (Expr.compile_eq_ok.1 hfound).2]
    exact Expr.reads_code_subset (List.mem_singleton_self expr)

lemma compileActions_readsIn {actions : List Action} {outputs : List CompiledOutput}
    (h : compileActions locals actions = .ok outputs) :
    ∀ output ∈ outputs, output.ReadsIn ((actions.flatMap Action.exprs).flatMap Expr.reads) := by
  induction actions generalizing outputs with
  | nil =>
    cases h
    exact fun _ houtput => (List.not_mem_nil houtput).elim
  | cons action rest ih =>
    simp only [compileActions, bind_eq_ok, pure_eq_ok] at h
    obtain ⟨first, hfirst, others, hothers, rfl⟩ := h
    rw [List.flatMap_cons, List.flatMap_append]
    intro output houtput code hcode
    rcases List.mem_cons.1 houtput with rfl | houtput
    · exact List.subset_append_of_subset_left _ (compileAction_readsIn hfirst code hcode)
    · exact List.subset_append_of_subset_right _ (ih hothers output houtput code hcode)

variable [PatternEngine]

lemma compileClause_readsIn {source : EventSource} {parts : List Part} {clause : CompiledClause}
    (h : compileClause source parts locals = .ok clause locals') :
    clause.ReadsIn ((parts.flatMap Part.exprs).flatMap Expr.reads) := by
  constructor
  · rw [compileClause_filter (Locals.holds_names locals) h]
    exact reads_steps source _ parts
  · obtain ⟨i, names, hi, hinvocation⟩ := compileClause_invocation h
    rw [hinvocation]
    intro code hcode
    refine List.Subset.trans (reads_input hcode) fun cell hcell => ?_
    obtain ⟨expr, hexpr, hcell⟩ := List.mem_flatMap.1 hcell
    exact List.mem_flatMap.2 ⟨expr, List.mem_flatMap.2 ⟨_, hi, hexpr⟩, hcell⟩

lemma compileTrigger_readsIn {trigger : Option (List Part)} {code : Option CompiledClause}
    (h : compileTrigger trigger locals = .ok code locals') :
    ∀ clause ∈ code,
      clause.ReadsIn (((trigger.getD []).flatMap Part.exprs).flatMap Expr.reads) := by
  rintro clause rfl
  cases trigger with
  | none => cases h
  | some parts =>
    simp only [compileTrigger, state_bind_eq_ok, state_pure_eq_ok, Option.some.injEq] at h
    obtain ⟨clause, l, hclause, rfl, rfl⟩ := h
    exact compileClause_readsIn hclause

lemma compileQueries_readsIn {queries : List (List Part)} {codes : List CompiledClause}
    (h : compileQueries queries locals = .ok codes locals') :
    ∀ clause ∈ codes,
      clause.ReadsIn ((queries.flatten.flatMap Part.exprs).flatMap Expr.reads) := by
  induction queries generalizing locals codes with
  | nil =>
    cases h
    exact fun _ hclause => (List.not_mem_nil hclause).elim
  | cons parts rest ih =>
    simp only [compileQueries, state_bind_eq_ok, state_pure_eq_ok] at h
    obtain ⟨query, l, hquery, others, l', hothers, rfl, rfl⟩ := h
    have hcells : ((parts :: rest).flatten.flatMap Part.exprs).flatMap Expr.reads =
        (parts.flatMap Part.exprs).flatMap Expr.reads ++
          (rest.flatten.flatMap Part.exprs).flatMap Expr.reads := by
      rw [List.flatten_cons, List.flatMap_append, List.flatMap_append]
    rw [hcells]
    intro clause hclause
    rcases List.mem_cons.1 hclause with rfl | hclause
    · exact (compileClause_readsIn hquery).mono (List.subset_append_left _ _)
    · exact (ih hothers clause hclause).mono (List.subset_append_right _ _)

end Compiled

/-- The reads that a compiled rule reports cover its code. -/
structure CompiledRule.ReportsReads (code : CompiledRule) : Prop where
  inputs : ∀ clause ∈ code.trigger.toList ++ code.queries, clause.ReadsIn code.inputKeywords
  outputs : ∀ output ∈ code.outputs, output.ReadsIn code.keywords
  subset : code.inputKeywords ⊆ code.keywords

lemma ofNames_subset {names names' : List String} (h : names ⊆ names') :
    NameSet.ofNames names ⊆ NameSet.ofNames names' :=
  fun _ hname => NameSet.mem_ofNames.2 (h (NameSet.mem_ofNames.1 hname))

lemma compileRule_reportsReads [PatternEngine] {params : List (String × Ty)} {rule : Rule}
    {code : CompiledRule} (h : compileRule params rule = .ok code) : code.ReportsReads := by
  unfold compileRule at h
  split at h
  case h_2 => cases h
  case h_1 found locals hbody =>
    cases h
    simp only [compileRuleBody, state_bind_eq_ok, state_pure_eq_ok] at hbody
    obtain ⟨trigger, l, htrigger, queries, l₁, hqueries, before, l₂, hget, outputs, l₃, houtputs,
      rfl, rfl⟩ := hbody
    cases hget
    have hreads : rule.inputReads =
        ((rule.trigger.getD []).flatMap Part.exprs).flatMap Expr.reads ++
          (rule.queries.flatten.flatMap Part.exprs).flatMap Expr.reads := by
      rw [Rule.inputReads, Rule.inputParts, List.flatMap_append, List.flatMap_append]
    have hinputs : rule.inputReads ⊆ NameSet.ofNames rule.inputReads :=
      fun _ hname => NameSet.mem_ofNames.2 hname
    refine ⟨fun clause hclause => ?_, fun output houtput code hcode => ?_, ?_⟩
    · refine CompiledClause.ReadsIn.mono ?_ hinputs
      rw [hreads]
      rcases List.mem_append.1 hclause with hclause | hclause
      · exact (compileTrigger_readsIn htrigger clause (Option.mem_toList.1 hclause)).mono
          (List.subset_append_left _ _)
      · exact (compileQueries_readsIn hqueries clause hclause).mono (List.subset_append_right _ _)
    · obtain ⟨hactions, -⟩ := Compile.ofExcept_eq_ok houtputs
      intro cell hcell
      refine NameSet.mem_ofNames.2 (List.mem_append_right _ ?_)
      exact compileActions_readsIn hactions output houtput code hcode hcell
    · exact ofNames_subset (List.subset_append_left _ _)

/-- The cells that a compiled rule reports are all that it reads, as long as formatters read none. In
two worlds that are equal except for other cells than those reported for the inputs, the trigger and
the queries have the same inputs, and their filters let the same environments and failures pass, one
for one. In two worlds that are equal except for cells that are not reported at all, the actions have
the same values. The worlds afterwards are again equal except for such cells. The rule can be any rule
that compiles, folded or not. -/
theorem compileRule_keywords [PatternEngine] {params : List (String × Ty)} {rule : Rule}
    {code : CompiledRule} (h : compileRule params rule = .ok code) :
    (∀ env : Env, env.FormattersReadNothing → ∀ clause ∈ code.trigger.toList ++ code.queries,
      Eval.Heeds code.inputKeywords (clause.invocation.evaluateInputs env) ∧
        Heeds code.inputKeywords (clause.filter.matched env)) ∧
      (∀ env : Env, env.FormattersReadNothing → ∀ output ∈ code.outputs,
        Eval.Heeds code.keywords (output.produce env)) ∧
      code.inputKeywords ⊆ code.keywords := by
  have hreports := compileRule_reportsReads h
  refine ⟨fun env hformatters clause hclause => ?_, fun env hformatters output houtput => ?_,
    hreports.subset⟩
  · obtain ⟨hfilter, hinputs⟩ := hreports.inputs clause hclause
    exact ⟨runInputs_heeds hformatters hinputs, Filter.matched_heeds hformatters hfilter⟩
  · exact runInputs_heeds hformatters (hreports.outputs output houtput)

/-- A rule that is armed by one keyword and shows another one. -/
def armedNote : Source.Program :=
  ⟨"armed", [], [.keyword "armed" .boolean, .keyword "note" .string, .rule
    [.invocation ⟨.builtin, "at", [.null]⟩, .condition (.var "armed")] []
    [.invocation ⟨.builtin, "logger", [.var "note"]⟩]]⟩

/-- The note makes no difference to the trigger, next to a formatter that counts by draws. -/
theorem compileRule_keywords_armedNote :
    ∃ typed rule code, (checkProgram [] armedNote).result = .ok typed ∧ rule ∈ typed.rules ∧
      compileRule typed.params rule.fold = .ok code ∧
      code.inputKeywords = ["armed"] ∧ code.keywords = ["armed", "note"] ∧
      ∃ env : Env, ∃ w w' : World, env.formatters ≠ [] ∧ env.FormattersReadNothing ∧
        w.AgreesOn code.inputKeywords w' ∧
        Named.get? w.cells "note" = some (.string "tea") ∧
        Named.get? w'.cells "note" = some (.string "rice") ∧
        ∀ clause ∈ code.trigger.toList ++ code.queries,
          (clause.filter.matched env w').1 = (clause.filter.matched env w).1 := by
  have h : (checkProgram [] armedNote).result = .ok ⟨"armed", [],
      [("armed", .boolean), ("note", .string)], [⟨0, none, some [
        .invocation ⟨⟨.builtin, Selector.builtinKind, "at", .triggers⟩, [none], [.time]⟩,
        .condition (.keyword .boolean "armed")], [],
        [.invocation ⟨.builtin, Selector.builtinKind, "logger", .actions⟩
          [some (.keyword .string "note")]]⟩]⟩ := rfl
  let drawing : Formatter := fun _ _ view => do
    let chance ← Eval.draw
    view.writeKeyword "note" (.number chance.random)
    return [.text (toString chance.pick)]
  let env : Env := { Env.ofSettings .default with formatters := [("com.xkcd", drawing)] }
  let w : World := ⟨[("armed", .boolean true), ("note", .string "tea")],
    fun _ => ⟨⟨0, 0⟩, 0.5, 0⟩, 0⟩
  let w' : World := { w with cells := [("armed", .boolean true), ("note", .string "rice")] }
  have hagrees : w.AgreesOn ["armed"] w' := by
    refine ⟨fun name hname => ?_, rfl, rfl⟩
    cases List.mem_singleton.1 hname
    rfl
  have hformatters : env.FormattersReadNothing := by
    intro entry hentry frame hint view names
    cases List.mem_singleton.1 hentry
    refine Eval.heeds_draw.next fun chance => ?_
    refine Eval.Heeds.next ?_ fun _ => Eval.heeds_pure _
    unfold View.writeKeyword
    split
    · exact Eval.heeds_writeCell _ _
    · exact Eval.heeds_throw _
  obtain ⟨code, hcode, hinputs, hkeywords⟩ : ∃ code,
      compileRule [] (Typed.Rule.fold ⟨0, none, some [
        .invocation ⟨⟨.builtin, Selector.builtinKind, "at", .triggers⟩, [none], [.time]⟩,
        .condition (.keyword .boolean "armed")], [],
        [.invocation ⟨.builtin, Selector.builtinKind, "logger", .actions⟩
          [some (.keyword .string "note")]]⟩) = .ok code ∧
        code.inputKeywords = ["armed"] ∧ code.keywords = ["armed", "note"] :=
    ⟨_, rfl, rfl, rfl⟩
  refine ⟨_, _, code, h, List.mem_singleton_self _, hcode, hinputs, hkeywords, env, w, w',
    List.cons_ne_nil _ _, hformatters, hinputs ▸ hagrees, rfl, rfl, fun clause hclause => ?_⟩
  exact (((compileRule_keywords hcode).1 env hformatters clause hclause).2 w w'
    (hinputs ▸ hagrees)).1

end ChannelRules
