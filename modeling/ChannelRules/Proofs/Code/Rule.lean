import ChannelRules.Proofs.Check.Scoped
import ChannelRules.Proofs.Code.Clause

/-!
# Which checked programs compile

A well scoped rule compiles to its code, unless a pattern expects for a group the text of another
group. All rules of a checked program are well scoped, so this tells which checked programs compile.
-/

namespace ChannelRules

open Typed Typed.Touch

variable {names : List String} {locals : Locals}

section Clauses

variable [PatternEngine]

/-- Parts after the invocation of a trigger or query. -/
lemma compileParts_compiles (source : EventSource) (found : CompiledInvocation)
    (h : locals.Holds names) {parts : List Part}
    (hscoped : Scoped names (parts.flatMap Part.touches))
    (hparts : ∀ part ∈ parts, part.isInvocation = false) :
    Compiles (parts.all Part.capturesApart) (some found, steps source names parts)
      (names ++ declared (parts.flatMap Part.touches))
      (compileParts source (some found) parts locals) := by
  induction parts generalizing names locals with
  | nil =>
    rw [List.flatMap_nil, declared_nil, List.append_nil]
    exact compiles_pure h
  | cons part rest ih =>
    rw [List.flatMap_cons, scoped_append] at hscoped
    obtain ⟨hpart, hrest⟩ := hscoped
    have hothers : ∀ part ∈ rest, part.isInvocation = false := fun p hp =>
      hparts p (List.mem_cons_of_mem _ hp)
    have hnames : names ++ declared ((part :: rest).flatMap Part.touches) =
        names ++ declared part.touches ++ declared (rest.flatMap Part.touches) := by
      rw [List.flatMap_cons, declared_append, List.append_assoc]
    rw [hnames, List.all_cons, steps]
    cases part with
    | invocation i => cases hparts _ List.mem_cons_self
    | binding name expr =>
      rw [compileParts]
      refine (compiles_expr h hpart.1).next fun _ h₁ => ?_
      refine (compiles_declare h₁ name expr.ty).next fun _ h₂ => ?_
      exact (ih h₂ hrest hothers).map fun _ => compiles_pure
    | condition expr =>
      have hsame : names ++ declared (Part.condition expr).touches = names := List.append_nil names
      rw [compileParts]
      refine (compiles_expr h hpart.1).next fun _ h₁ => ?_
      rw [← hsame] at h₁
      exact (ih h₁ hrest hothers).map fun _ => compiles_pure
    | predicate p =>
      rw [compileParts]
      refine (compilePredicate_compiles h p hpart).bind fun _ h₁ => ?_
      exact (ih h₁ hrest hothers).map fun _ => compiles_pure

lemma compileClause_compiles {source : EventSource} (h : locals.Holds names) {parts : List Part}
    (hscoped : Scoped names (parts.flatMap Part.touches)) (hstarts : StartsWithInvocation parts)
    {clause : CompiledClause} (hclause : clauseCode? source names parts = some clause) :
    Compiles (parts.all Part.capturesApart) clause
      (names ++ declared (parts.flatMap Part.touches)) (compileClause source parts locals) := by
  obtain ⟨i, rest, rfl, hrest⟩ := hstarts
  cases hclause
  rw [List.flatMap_cons, scoped_append] at hscoped
  rw [List.flatMap_cons, declared_append, ← List.append_assoc, compileClause, compileParts]
  refine Compiles.map (a := (some (i.code names), steps source names (.invocation i :: rest))) ?_
    fun _ => compiles_pure
  refine (compileInvocation_compiles h i hscoped.1).next fun _ h₁ => ?_
  exact (compileParts_compiles source _ h₁ hscoped.2 hrest).map fun _ => compiles_pure

lemma compileTrigger_compiles (h : locals.Holds names) {trigger : Option (List Part)}
    (hscoped : Scoped names ((trigger.getD []).flatMap Part.touches))
    (hstarts : ∀ parts ∈ trigger, StartsWithInvocation parts) {code : Option CompiledClause}
    (hcode : triggerCode? names trigger = some code) :
    Compiles ((trigger.getD []).all Part.capturesApart) code
      (names ++ declared ((trigger.getD []).flatMap Part.touches))
      (compileTrigger trigger locals) := by
  cases trigger with
  | none =>
    cases hcode
    rw [Option.getD_none, List.flatMap_nil, declared_nil, List.append_nil]
    exact compiles_pure h
  | some parts =>
    simp only [triggerCode?, Option.bind_eq_bind, Option.bind_eq_some_iff, Option.pure_def,
      Option.some.injEq] at hcode
    obtain ⟨clause, hclause, rfl⟩ := hcode
    exact (compileClause_compiles h hscoped (hstarts parts rfl) hclause).map fun _ => compiles_pure

lemma compileQueries_compiles (h : locals.Holds names) {queries : List (List Part)}
    (hscoped : Scoped names (queries.flatten.flatMap Part.touches))
    (hstarts : ∀ parts ∈ queries, StartsWithInvocation parts) {code : List CompiledClause}
    (hcode : queriesCode? names queries = some code) :
    Compiles (queries.flatten.all Part.capturesApart) code
      (names ++ declared (queries.flatten.flatMap Part.touches)) (compileQueries queries locals) := by
  induction queries generalizing names locals code with
  | nil =>
    cases hcode
    rw [List.flatten_nil, List.flatMap_nil, declared_nil, List.append_nil]
    exact compiles_pure h
  | cons parts rest ih =>
    rw [List.flatten_cons, List.flatMap_append, scoped_append] at hscoped
    have hnames : names ++ declared ((parts :: rest).flatten.flatMap Part.touches) =
        names ++ declared (parts.flatMap Part.touches) ++
          declared (rest.flatten.flatMap Part.touches) := by
      rw [List.flatten_cons, List.flatMap_append, declared_append, List.append_assoc]
    simp only [queriesCode?, Option.bind_eq_bind, Option.bind_eq_some_iff, Option.pure_def,
      Option.some.injEq] at hcode
    obtain ⟨clause, hclause, others, hothers, rfl⟩ := hcode
    have hrest : ∀ parts ∈ rest, StartsWithInvocation parts := fun p hp =>
      hstarts p (List.mem_cons_of_mem _ hp)
    rw [hnames, List.flatten_cons, List.all_append, compileQueries]
    refine (compileClause_compiles h hscoped.1 (hstarts parts List.mem_cons_self) hclause).bind
      fun _ h₁ => ?_
    exact (ih h₁ hscoped.2 hrest hothers).map fun _ => compiles_pure

end Clauses

lemma compileValues_of_holds (h : locals.Holds names) {params : List (Option Expr)}
    (hvars : ∀ expr ∈ params.filterMap id, ∀ x ∈ expr.vars, x ∈ names) :
    compileValues locals params = .ok (params.map (Option.map Expr.code)) := by
  induction params with
  | nil => rfl
  | cons param rest ih =>
    have hrest := ih fun expr hexpr => hvars expr <| by
      rw [List.filterMap_cons]
      split
      · exact hexpr
      · exact List.mem_cons_of_mem _ hexpr
    cases param with
    | none =>
      rw [compileValues, hrest]
      rfl
    | some expr =>
      have hin := hvars expr (by rw [List.filterMap_cons]; exact List.mem_cons_self)
      have hexpr := Expr.compile_eq_ok.2 ⟨fun x hx => (h x).2 (hin x hx), rfl⟩
      rw [compileValues, hrest, Expr.compileOptional, hexpr]
      rfl

lemma compileAction_of_holds (h : locals.Holds names) {action : Action}
    (hvars : ∀ expr ∈ action.exprs, ∀ x ∈ expr.vars, x ∈ names) :
    compileAction locals action = .ok action.code := by
  cases action with
  | invocation channel params =>
    rw [compileAction, compileValues_of_holds h hvars]
    rfl
  | keyword cell expr =>
    have hin := hvars expr List.mem_cons_self
    have hexpr := Expr.compile_eq_ok.2 ⟨fun x hx => (h x).2 (hin x hx), rfl⟩
    rw [compileAction, hexpr]
    rfl

lemma compileActions_of_holds (h : locals.Holds names) {actions : List Action}
    (hscoped : Scoped names (actions.flatMap Action.touches)) :
    compileActions locals actions = .ok (actions.map Action.code) := by
  induction actions with
  | nil => rfl
  | cons action rest ih =>
    have hnone : declared action.touches = [] := declared_map_reads _
    rw [List.flatMap_cons, scoped_append, hnone, List.append_nil] at hscoped
    have hvars : ∀ expr ∈ action.exprs, ∀ x ∈ expr.vars, x ∈ names := by
      intro expr hexpr x hx
      have hmem := mem_of_reads hscoped.1 (List.mem_map_of_mem hexpr) x hx
      rw [hnone, List.append_nil] at hmem
      exact hmem
    rw [compileActions, compileAction_of_holds h hvars, ih hscoped.2]
    rfl

lemma has_ofEntries {α : Type} (entries : List (String × α)) (x : String) :
    Named.has (Named.ofEntries entries) x = true ↔ x ∈ entries.map Prod.fst := by
  have hfoldl : ∀ map : Named α,
      Named.has (entries.foldl (fun map entry => Named.insert map entry.1 entry.2) map) x = true ↔
        Named.has map x = true ∨ x ∈ entries.map Prod.fst := by
    induction entries with
    | nil => simp
    | cons entry rest ih =>
      intro map
      rw [List.foldl_cons, ih, Named.has_insert, List.map_cons, List.mem_cons]
      tauto
  rw [Named.ofEntries, hfoldl]
  simp [Named.has]

variable [PatternEngine]

lemma exists_clauseCode {parts : List Part} (h : StartsWithInvocation parts) (source : EventSource)
    (names : List String) : ∃ clause, clauseCode? source names parts = some clause := by
  obtain ⟨i, rest, rfl, -⟩ := h
  exact ⟨_, rfl⟩

lemma exists_triggerCode {trigger : Option (List Part)}
    (h : ∀ parts ∈ trigger, StartsWithInvocation parts) (names : List String) :
    ∃ code, triggerCode? names trigger = some code := by
  cases trigger with
  | none => exact ⟨none, rfl⟩
  | some parts =>
    obtain ⟨clause, hclause⟩ := exists_clauseCode (h parts rfl) .trigger names
    refine ⟨some clause, ?_⟩
    rw [triggerCode?, hclause]
    rfl

lemma exists_queriesCode {queries : List (List Part)}
    (h : ∀ parts ∈ queries, StartsWithInvocation parts) (names : List String) :
    ∃ code, queriesCode? names queries = some code := by
  induction queries generalizing names with
  | nil => exact ⟨[], rfl⟩
  | cons parts rest ih =>
    obtain ⟨clause, hclause⟩ := exists_clauseCode (h parts List.mem_cons_self) .query names
    obtain ⟨others, hothers⟩ := ih (fun p hp => h p (List.mem_cons_of_mem _ hp))
      (names ++ declared (parts.flatMap Part.touches))
    refine ⟨clause :: others, ?_⟩
    rw [queriesCode?, hclause, Option.bind_eq_bind, Option.bind_some, hothers]
    rfl

/-- The trigger and the queries of a rule with code have code. -/
lemma code?_eq_some {rule : Rule} {code : CompiledRule} (h : rule.code? names = some code) :
    triggerCode? names rule.trigger = some code.trigger ∧
      queriesCode? (names ++ declared ((rule.trigger.getD []).flatMap Part.touches)) rule.queries =
        some code.queries ∧
      code = { code with
        id := rule.id
        module := rule.module
        outputs := rule.actions.map Action.code
        inputKeywords := NameSet.ofNames rule.inputReads
        keywords := NameSet.ofNames rule.reads } := by
  simp only [Rule.code?, Option.bind_eq_bind, Option.bind_eq_some_iff, Option.pure_def,
    Option.some.injEq] at h
  obtain ⟨trigger, htrigger, queries, hqueries, rfl⟩ := h
  exact ⟨htrigger, hqueries, rfl⟩

lemma exists_code {rule : Rule} (h : rule.WellScoped names) :
    ∃ code, rule.code? names = some code := by
  obtain ⟨trigger, htrigger⟩ := exists_triggerCode h.trigger names
  obtain ⟨queries, hqueries⟩ := exists_queriesCode h.queries
    (names ++ declared ((rule.trigger.getD []).flatMap Part.touches))
  simp only [Rule.code?, htrigger, hqueries, Option.bind_eq_bind, Option.bind_some]
  exact ⟨_, rfl⟩

lemma compileRuleBody_compiles (h : locals.Holds names) {rule : Rule} {code : CompiledRule}
    (hscoped : rule.WellScoped names) (hcode : rule.code? names = some code) :
    Compiles rule.capturesApart code
      (names ++ declared ((rule.trigger.getD []).flatMap Part.touches) ++
        declared (rule.queries.flatten.flatMap Part.touches)) (compileRuleBody rule locals) := by
  obtain ⟨htrigger, hqueries, hrest⟩ := code?_eq_some hcode
  obtain ⟨htriggerOrder, hqueriesOrder, hactionsOrder⟩ := hscoped.parts
  rw [Rule.capturesApart_eq, hrest, compileRuleBody]
  refine (compileTrigger_compiles h htriggerOrder hscoped.trigger htrigger).bind fun _ h₁ => ?_
  refine (compileQueries_compiles h₁ hqueriesOrder hscoped.queries hqueries).map fun locals₂ h₂ => ?_
  rw [state_get_bind, compileActions_of_holds h₂ hactionsOrder]
  exact compiles_pure h₂

/-- A well scoped rule compiles to its code exactly if no pattern expects for a group the text of
another group; otherwise a variable is not in scope. -/
theorem compileRule_cases {params : List (String × Ty)} {rule : Rule}
    (h : rule.WellScoped (params.map Prod.fst)) :
    ∃ code, rule.code? (params.map Prod.fst) = some code ∧
      ((rule.capturesApart = true ∧ compileRule params rule = .ok code) ∨
        (rule.capturesApart = false ∧
          ∃ x, compileRule params rule = .error (.unknownVariable x))) := by
  obtain ⟨code, hcode⟩ := exists_code h
  have hcompiles := compileRuleBody_compiles (has_ofEntries params) h hcode
  refine ⟨code, hcode, ?_⟩
  unfold compileRule paramLocals
  cases hresult : compileRuleBody rule (Named.ofEntries params) with
  | ok compiled locals =>
    rw [hresult] at hcompiles
    obtain ⟨hapart, rfl, -⟩ := hcompiles
    exact .inl ⟨hapart, rfl⟩
  | error e locals =>
    rw [hresult] at hcompiles
    obtain ⟨hapart, x, rfl⟩ := hcompiles
    exact .inr ⟨hapart, x, rfl⟩

/-- A well scoped rule that compiles has its own code. -/
lemma code?_of_compileRule {params : List (String × Ty)} {rule : Rule} {code : CompiledRule}
    (hscoped : rule.WellScoped (params.map Prod.fst)) (h : compileRule params rule = .ok code) :
    rule.code? (params.map Prod.fst) = some code := by
  obtain ⟨found, hfound, ⟨-, hok⟩ | ⟨-, x, herror⟩⟩ := compileRule_cases hscoped
  · rw [hok] at h
    cases h
    exact hfound
  · rw [herror] at h
    cases h

/-- The rules of a program compile exactly if each of them does. -/
lemma compileRules_cases {params : List (String × Ty)} {rules : List Rule}
    (h : ∀ rule ∈ rules, rule.WellScoped (params.map Prod.fst)) :
    (rules.all Rule.capturesApart = true ∧ ∃ compiled, compileRules params rules = .ok compiled) ∨
      (rules.all Rule.capturesApart = false ∧
        ∃ x, compileRules params rules = .error (.unknownVariable x)) := by
  induction rules with
  | nil => exact .inl ⟨rfl, [], rfl⟩
  | cons rule rest ih =>
    obtain ⟨code, -, hrule⟩ := compileRule_cases (h rule List.mem_cons_self)
    have hrest := ih fun r hr => h r (List.mem_cons_of_mem _ hr)
    rw [List.all_cons, compileRules]
    rcases hrule with ⟨hapart, hok⟩ | ⟨hapart, x, herror⟩
    · rw [hapart, hok, ok_bind, Bool.true_and]
      rcases hrest with ⟨hall, compiled, hcompiled⟩ | ⟨hall, x, herror⟩
      · exact .inl ⟨hall, code :: compiled, by rw [hcompiled]; rfl⟩
      · exact .inr ⟨hall, x, by rw [herror]; rfl⟩
    · exact .inr ⟨by rw [hapart, Bool.false_and], x, by rw [herror]; rfl⟩

/-- A program with well scoped rules compiles exactly if no pattern expects for a group the text of
another group. -/
lemma compileTyped_cases {program : Typed.Program}
    (h : ∀ rule ∈ program.rules, rule.WellScoped (program.params.map Prod.fst)) :
    (program.rules.all Rule.capturesApart = true ∧ ∃ compiled, compileTyped program = .ok compiled) ∨
      (program.rules.all Rule.capturesApart = false ∧
        ∃ x, compileTyped program = .error (.unknownVariable x)) := by
  rcases compileRules_cases h with ⟨hall, compiled, hcompiled⟩ | ⟨hall, x, herror⟩
  · exact .inl ⟨hall, _, by rw [compileTyped, hcompiled]; rfl⟩
  · exact .inr ⟨hall, x, by rw [compileTyped, herror]; rfl⟩

end ChannelRules
