import ChannelRules.Proofs.Check.Layer
import Mathlib.Data.List.Forall2

/-!
# Rules are checked apart from each other

A program can be taken apart into its declarations and, for each of its rules, the declarations with
that rule alone. The program is accepted exactly if all of these are, and its rules are then those
of the programs with one rule, numbered in order. So what one rule declares neither helps nor
hinders another one.
-/

namespace ChannelRules

namespace Source

mutual

/-- What is left of a statement without its rules. -/
def Statement.bare : Statement → List Statement
  | computeModule name statements => [computeModule name (bareAll statements)]
  | keyword name ty => [keyword name ty]
  | rule _ _ _ => []
  | command _ _ => []

def Statement.bareAll : List Statement → List Statement
  | [] => []
  | statement :: rest => bare statement ++ bareAll rest

end

mutual

/-- A statement with one of its rules only, for each of its rules in turn. -/
def Statement.singles : Statement → List Statement
  | computeModule name statements => (singlesAll statements).map (computeModule name)
  | keyword _ _ => []
  | rule trigger queries actions => [rule trigger queries actions]
  | command queries actions => [command queries actions]

def Statement.singlesAll : List Statement → List (List Statement)
  | [] => []
  | statement :: rest =>
    (singles statement).map (· :: bareAll rest) ++ (singlesAll rest).map (bare statement ++ ·)

end

/-- A program without its rules and commands. -/
def Program.bare (program : Program) : Program :=
  { program with statements := Statement.bareAll program.statements }

/-- A program with one of its rules or commands only, for each of them in turn. -/
def Program.singles (program : Program) : List Program :=
  (Statement.singlesAll program.statements).map fun statements =>
    { program with statements := statements }

namespace Statement

lemma bareAll_append (xs ys : List Statement) : bareAll (xs ++ ys) = bareAll xs ++ bareAll ys := by
  induction xs with
  | nil => rfl
  | cons statement rest ih => rw [List.cons_append, bareAll, bareAll, ih, List.append_assoc]

mutual

lemma bareAll_bare : (statement : Statement) → bareAll (bare statement) = bare statement
  | computeModule name statements => by
    rw [bare, bareAll, bare, bareAll_bareAll statements]
    rfl
  | keyword _ _ => rfl
  | rule _ _ _ => rfl
  | command _ _ => rfl

lemma bareAll_bareAll : (statements : List Statement) →
    bareAll (bareAll statements) = bareAll statements
  | [] => rfl
  | statement :: rest => by
    rw [bareAll, bareAll_append, bareAll_bare statement, bareAll_bareAll rest]

end

mutual

/-- One rule more or less makes no difference to what is left without rules. -/
lemma bare_of_mem_singles : (statement : Statement) → ∀ single ∈ singles statement,
    bare single = bare statement
  | computeModule name statements, single, h => by
    rw [singles, List.mem_map] at h
    obtain ⟨inner, hinner, rfl⟩ := h
    rw [bare, bare, bareAll_of_mem_singlesAll statements inner hinner]
  | keyword _ _, _, h => nomatch h
  | rule _ _ _, _, h => by rw [List.mem_singleton.1 h]
  | command _ _, _, h => by rw [List.mem_singleton.1 h]

lemma bareAll_of_mem_singlesAll : (statements : List Statement) → ∀ single ∈ singlesAll statements,
    bareAll single = bareAll statements
  | [], _, h => nomatch h
  | statement :: rest, single, h => by
    rw [singlesAll, List.mem_append, List.mem_map, List.mem_map] at h
    rcases h with ⟨first, hfirst, rfl⟩ | ⟨others, hothers, rfl⟩
    · rw [bareAll, bareAll, bare_of_mem_singles statement first hfirst, bareAll_bareAll]
    · rw [bareAll, bareAll_append, bareAll_bare, bareAll_of_mem_singlesAll rest others hothers]

end

/-- A statement that is no compute module. -/
def isFlat : Statement → Bool
  | computeModule _ _ => false
  | _ => true

lemma flatMap_bareAll_eq_nil {β : Type} {f : Statement → List β}
    (h : ∀ statement, (bare statement).flatMap f = []) (statements : List Statement) :
    (bareAll statements).flatMap f = [] := by
  induction statements with
  | nil => rfl
  | cons statement rest ih => rw [bareAll, List.flatMap_append, h, ih, List.append_nil]

lemma forall₂_singlesAll {rulesOf : Statement → List RuleSource} {statements : List Statement}
    (hbare : ∀ statement, (bare statement).flatMap rulesOf = [])
    (hsingles : ∀ statement ∈ statements, List.Forall₂ (fun single source =>
      rulesOf single = [source]) (singles statement) (rulesOf statement)) :
    List.Forall₂ (fun single source => single.flatMap rulesOf = [source]) (singlesAll statements)
      (statements.flatMap rulesOf) := by
  -- The one rule is in the first statement, and the others are bare, or it is in the others.
  induction statements with
  | nil => exact .nil
  | cons statement rest ih =>
    rw [singlesAll, List.flatMap_cons]
    refine List.rel_append (List.forall₂_map_left_iff.2 ?_) (List.forall₂_map_left_iff.2 ?_)
    · refine (hsingles statement List.mem_cons_self).imp fun single source hsingle => ?_
      rw [List.flatMap_cons, flatMap_bareAll_eq_nil hbare, List.append_nil, hsingle]
    · have hrest := ih fun other hother => hsingles other (List.mem_cons_of_mem _ hother)
      refine hrest.imp fun single source hsingle => ?_
      rw [List.flatMap_append, hbare, List.nil_append, hsingle]

lemma forall₂_singlesAll_module (name : String) {statements : List Statement}
    (hflat : ∀ statement ∈ statements, statement.isFlat = true) :
    List.Forall₂ (fun single source => single.filterMap (rule? (some name)) = [source])
      (singlesAll statements) (statements.filterMap (rule? (some name))) := by
  simp only [List.filterMap_eq_flatMap_toList]
  refine forall₂_singlesAll (fun statement => ?_) fun statement hstatement => ?_
  · cases statement <;> rfl
  · cases statement with
    | computeModule inner statements => cases hflat _ hstatement
    | keyword _ _ => exact .nil
    | rule _ _ _ => exact .cons rfl .nil
    | command _ _ => exact .cons rfl .nil

end Statement

open Statement

/-- Compute modules hold no compute modules. -/
def Program.Shallow (program : Program) : Prop :=
  ∀ name statements, .computeModule name statements ∈ program.statements →
    ∀ statement ∈ statements, statement.isFlat = true

lemma rules_bare (statement : Statement) : (bare statement).flatMap Statement.rules = [] := by
  cases statement with
  | computeModule name statements =>
    have hnone : ∀ statement, (bare statement).flatMap
        (fun inner => (rule? (some name) inner).toList) = [] := by
      intro statement
      cases statement <;> rfl
    rw [bare, List.flatMap_singleton, Statement.rules, List.filterMap_eq_flatMap_toList,
      flatMap_bareAll_eq_nil hnone]
  | keyword _ _ => rfl
  | rule _ _ _ => rfl
  | command _ _ => rfl

lemma Program.rules_bare (program : Program) : program.bare.rules = [] :=
  flatMap_bareAll_eq_nil Source.rules_bare program.statements

/-- The programs with one rule have the rules of the program, in order. -/
lemma Program.rules_singles {program : Program} (hshallow : program.Shallow) :
    List.Forall₂ (fun single source => single.rules = [source]) program.singles program.rules := by
  rw [Program.singles, Program.rules, List.forall₂_map_left_iff]
  refine forall₂_singlesAll Source.rules_bare fun statement hstatement => ?_
  cases statement with
  | computeModule name statements =>
    rw [Statement.singles, List.forall₂_map_left_iff]
    exact forall₂_singlesAll_module name (hshallow name statements hstatement)
  | keyword _ _ => exact .nil
  | rule _ _ _ => exact .cons rfl .nil
  | command _ _ => exact .cons rfl .nil

lemma Program.bare_of_mem_singles {program single : Program} (h : single ∈ program.singles) :
    single.bare = program.bare := by
  obtain ⟨statements, hstatements, rfl⟩ := List.mem_map.1 h
  rw [Program.bare, Program.bare, bareAll_of_mem_singlesAll _ statements hstatements]

end Source

open Source Source.Statement

lemma declareTopLevel_bareAll (keywords : Named Ty) (statements : List Statement) :
    declareTopLevel keywords (bareAll statements) = declareTopLevel keywords statements := by
  induction statements generalizing keywords with
  | nil => rfl
  | cons statement rest ih =>
    cases statement with
    | keyword name ty =>
      rw [bareAll, bare, List.singleton_append, declareTopLevel, declareTopLevel]
      simp only [ih]
    | computeModule name inner =>
      rw [bareAll, bare, List.singleton_append, declareTopLevel, declareTopLevel]
      simp only [ih]
    | rule _ _ _ => exact ih keywords
    | command _ _ => exact ih keywords

lemma moduleKeywords_bareAll (scope : Scope) (module : String) (names : List String)
    (keywords : Named Ty) (statements : List Statement) :
    moduleKeywords scope module names keywords (bareAll statements) =
      moduleKeywords scope module names keywords statements := by
  induction statements generalizing names keywords with
  | nil => rfl
  | cons statement rest ih =>
    cases statement with
    | keyword name ty =>
      rw [bareAll, bare, List.singleton_append, moduleKeywords, moduleKeywords, ih]
    | computeModule name inner => rfl
    | rule _ _ _ => exact ih names keywords
    | command _ _ => exact ih names keywords

lemma allModuleKeywords_bareAll (scope : Scope) (modules : Named (List String))
    (keywords : Named Ty) (statements : List Statement) :
    allModuleKeywords scope modules keywords (bareAll statements) =
      allModuleKeywords scope modules keywords statements := by
  induction statements generalizing modules keywords with
  | nil => rfl
  | cons statement rest ih =>
    cases statement with
    | keyword name ty => exact ih modules keywords
    | computeModule name inner =>
      rw [bareAll, bare, List.singleton_append, allModuleKeywords, allModuleKeywords,
        moduleKeywords_bareAll]
      simp only [ih]
    | rule _ _ _ => exact ih modules keywords
    | command _ _ => exact ih modules keywords

/-- Rules make no difference to what is declared. -/
lemma checkDeclarations_bare (program : Program) :
    checkDeclarations program.bare = checkDeclarations program := by
  simp only [checkDeclarations, Program.bare, declareTopLevel_bareAll, allModuleKeywords_bareAll]

lemma isFlat_of_moduleKeywords {scope : Scope} {module : String} {names : List String}
    {keywords : Named Ty} {statements : List Statement} {found : List String × Named Ty}
    (h : moduleKeywords scope module names keywords statements = .ok found) :
    ∀ statement ∈ statements, statement.isFlat = true := by
  induction statements generalizing names keywords with
  | nil => exact fun _ hstatement => (List.not_mem_nil hstatement).elim
  | cons statement rest ih =>
    intro other hother
    cases statement with
    | keyword name ty =>
      rw [moduleKeywords] at h
      split at h
      · cases h
      · rcases List.mem_cons.1 hother with rfl | hother
        · rfl
        · exact ih h other hother
    | computeModule name inner => cases h
    | rule _ _ _ | command _ _ =>
      rcases List.mem_cons.1 hother with rfl | hother
      · rfl
      · exact ih h other hother

/-- Compute modules inside compute modules are not accepted. -/
lemma shallow_of_checkDeclarations {program : Program} {declarations : Declarations}
    {s s' : CheckState} (h : checkDeclarations program s = .ok declarations s') :
    program.Shallow := by
  have hall : ∀ {scope : Scope} {statements : List Statement} {modules : Named (List String)}
      {keywords : Named Ty} {found : Named (List String) × Named Ty},
      allModuleKeywords scope modules keywords statements = .ok found →
        ∀ name inner, .computeModule name inner ∈ statements →
          ∀ statement ∈ inner, statement.isFlat = true := by
    intro scope statements
    induction statements with
    | nil => exact fun _ _ _ hmem => (List.not_mem_nil hmem).elim
    | cons statement rest ih =>
      intro modules keywords found hfound name inner hmem
      cases statement with
      | computeModule other statements =>
        simp only [allModuleKeywords, bind_eq_ok] at hfound
        obtain ⟨⟨names, table⟩, hmodule, hrest⟩ := hfound
        rcases List.mem_cons.1 hmem with heq | hmem
        · cases heq
          exact isFlat_of_moduleKeywords hmodule
        · exact ih hrest name inner hmem
      | keyword _ _ | rule _ _ _ | command _ _ =>
        rcases List.mem_cons.1 hmem with heq | hmem
        · cases heq
        · exact ih hfound name inner hmem
  simp only [checkDeclarations, state_bind_eq_ok] at h
  obtain ⟨_, t₁, -, topLevel, t₂, -, shown, t₃, -, found, t₄, hmodules, -⟩ := h
  exact hall (Check.ofNoted_eq_ok hmodules).1

section Rules

variable {ctx : Context} {modules : Named (List String)} {scope : Scope}

/-- The number of a rule is all that depends on it. -/
lemma checkRuleBody_id (source : RuleSource) (id : Nat) :
    checkRuleBody ctx modules source id =
      checkRuleBody ctx modules source 0 >>= fun rule => pure { rule with id := id } := by
  unfold checkRuleBody
  cases source.module <;> simp only [bind_assoc, pure_bind]

lemma checkRuleBody_eq_ok_iff {source : RuleSource} {id : Nat} {rule : Typed.Rule} :
    ((checkRuleBody ctx modules source id).run scope).result = .ok rule ↔
      ∃ first, ((checkRuleBody ctx modules source 0).run scope).result = .ok first ∧
        rule = { first with id := id } := by
  rw [checkRuleBody_id, Check.run_eq_ok_iff]
  simp only [Check.run_eq_ok_iff, state_bind_eq_ok, state_pure_eq_ok]
  constructor
  · rintro ⟨s', first, t, hfirst, rfl, rfl⟩
    exact ⟨first, ⟨t, hfirst⟩, rfl⟩
  · rintro ⟨first, ⟨t, hfirst⟩, rfl⟩
    exact ⟨t, first, t, hfirst, rfl, rfl⟩

/-- Rules that are numbered in order are rules with the number 0 that get their numbers later. -/
lemma forall₂_zipIdx_iff {sources : List RuleSource} {id : Nat} {rules : List Typed.Rule} :
    List.Forall₂ (fun source rule =>
        ((checkRuleBody ctx modules source.1 source.2).run scope).result = .ok rule)
      (sources.zipIdx id) rules ↔
      ∃ apart, List.Forall₂ (fun source rule =>
          ((checkRuleBody ctx modules source 0).run scope).result = .ok rule) sources apart ∧
        rules = (apart.zipIdx id).map fun rule => { rule.1 with id := rule.2 } := by
  induction sources generalizing id rules with
  | nil => simp
  | cons source rest ih =>
    rw [List.zipIdx_cons, List.forall₂_cons_left_iff]
    constructor
    · rintro ⟨rule, others, hrule, hothers, rfl⟩
      obtain ⟨first, hfirst, rfl⟩ := checkRuleBody_eq_ok_iff.1 hrule
      obtain ⟨apart, hapart, rfl⟩ := ih.1 hothers
      exact ⟨first :: apart, .cons hfirst hapart, rfl⟩
    · rintro ⟨apart, hapart, rfl⟩
      obtain ⟨first, others, hfirst, hothers, rfl⟩ := List.forall₂_cons_left_iff.1 hapart
      exact ⟨_, _, checkRuleBody_eq_ok_iff.2 ⟨first, hfirst, rfl⟩, ih.2 ⟨others, hothers, rfl⟩, rfl⟩

end Rules

section Programs

variable {kinds : Named KindSchemas} {program : Program} {declarations : Declarations}
  {s : CheckState}

/-- What is found for a rule right after the declarations. -/
def FoundAfter (kinds : Named KindSchemas) (declarations : Declarations) (s : CheckState)
    (source : RuleSource) (rule : Typed.Rule) : Prop :=
  ((checkRuleBody ⟨kinds, declarations.keywords⟩ declarations.modules source 0).run
    s.scope.enter).result = .ok rule

/-- With its declarations given, a program is accepted exactly if something is found for each of its
rules. -/
lemma checkProgram_after (h : checkDeclarations program ⟨.empty, []⟩ = .ok declarations s)
    {typed : Typed.Program} : (checkProgram kinds program).result = .ok typed ↔
      ∃ apart, List.Forall₂ (FoundAfter kinds declarations s) program.rules apart ∧
        typed = ⟨program.name, program.params, declarations.keywords,
          apart.zipIdx.map fun rule => { rule.1 with id := rule.2 }⟩ := by
  rw [checkProgram_eq_ok_iff]
  constructor
  · rintro ⟨declarations', s', rules, hdeclarations, hrules, rfl⟩
    rw [h] at hdeclarations
    cases hdeclarations
    obtain ⟨apart, hapart, rfl⟩ := forall₂_zipIdx_iff.1 hrules
    exact ⟨apart, hapart, rfl⟩
  · rintro ⟨apart, hapart, rfl⟩
    exact ⟨declarations, s, _, h, forall₂_zipIdx_iff.2 ⟨apart, hapart, rfl⟩, rfl⟩

/-- A program is accepted without its rules exactly if its declarations are. -/
lemma exists_checkProgram_bare_iff :
    (∃ typed, (checkProgram kinds program.bare).result = .ok typed) ↔
      ∃ declarations s, checkDeclarations program ⟨.empty, []⟩ = .ok declarations s := by
  simp only [checkProgram_eq_ok_iff, checkDeclarations_bare, Program.rules_bare, List.zipIdx_nil,
    List.forall₂_nil_left_iff]
  constructor
  · rintro ⟨_, declarations, s, _, h, -, -⟩
    exact ⟨declarations, s, h⟩
  · rintro ⟨declarations, s, h⟩
    exact ⟨_, declarations, s, [], h, rfl, rfl⟩

/-- A rule is what a program with no other rule is checked to. -/
def FoundAlone (kinds : Named KindSchemas) (program : Program) (rule : Typed.Rule) : Prop :=
  ∃ typed, (checkProgram kinds program).result = .ok typed ∧ typed.rules = [rule]

variable {single : Program} {source : RuleSource}

/-- With the same declarations, a rule is found in a program with no other rule exactly if it is
found right after the declarations. -/
lemma foundAlone_iff (h : checkDeclarations program ⟨.empty, []⟩ = .ok declarations s)
    (hbare : single.bare = program.bare) (hsource : single.rules = [source]) {rule : Typed.Rule} :
    FoundAlone kinds single rule ↔ FoundAfter kinds declarations s source rule := by
  have hsingle : checkDeclarations single ⟨.empty, []⟩ = .ok declarations s := by
    rw [← checkDeclarations_bare, hbare, checkDeclarations_bare, h]
  simp only [FoundAlone, checkProgram_after hsingle, hsource]
  constructor
  · rintro ⟨_, ⟨apart, hapart, rfl⟩, hrule⟩
    obtain ⟨first, _, hfirst, hnil, rfl⟩ := List.forall₂_cons_left_iff.1 hapart
    cases hnil
    cases hrule
    exact checkRuleBody_eq_ok_iff.2 ⟨first, hfirst, rfl⟩
  · intro hrule
    obtain ⟨first, hfirst, rfl⟩ := checkRuleBody_eq_ok_iff.1 hrule
    exact ⟨_, ⟨[first], .cons hfirst .nil, rfl⟩, rfl⟩

lemma exists_foundAlone_iff (hsource : single.rules = [source]) :
    (∃ rule, FoundAlone kinds single rule) ↔
      ∃ typed, (checkProgram kinds single).result = .ok typed := by
  constructor
  · rintro ⟨rule, typed, htyped, -⟩
    exact ⟨typed, htyped⟩
  · rintro ⟨typed, htyped⟩
    obtain ⟨_, _, rules, -, hrules, rfl⟩ := checkProgram_eq_ok_iff.1 htyped
    rw [hsource] at hrules
    obtain ⟨rule, _, -, hnil, rfl⟩ := List.forall₂_cons_left_iff.1 hrules
    cases hnil
    exact ⟨rule, _, htyped, rfl⟩

variable {singles : List Program} {sources : List RuleSource}

lemma forall₂_foundAlone_iff (h : checkDeclarations program ⟨.empty, []⟩ = .ok declarations s)
    (hbare : ∀ single ∈ singles, single.bare = program.bare)
    (hsources : List.Forall₂ (fun single source => single.rules = [source]) singles sources)
    {rules : List Typed.Rule} : List.Forall₂ (FoundAlone kinds) singles rules ↔
      List.Forall₂ (FoundAfter kinds declarations s) sources rules := by
  induction hsources generalizing rules with
  | nil => simp only [List.forall₂_nil_left_iff]
  | cons hsource _ ih =>
    obtain ⟨hfirst, hothers⟩ := List.forall_mem_cons.1 hbare
    simp only [List.forall₂_cons_left_iff, foundAlone_iff h hfirst hsource, ih hothers]

lemma exists_forall₂_foundAlone_iff
    (hsources : List.Forall₂ (fun single source => single.rules = [source]) singles sources) :
    (∃ rules, List.Forall₂ (FoundAlone kinds) singles rules) ↔
      ∀ single ∈ singles, ∃ typed, (checkProgram kinds single).result = .ok typed := by
  induction hsources with
  | nil => exact ⟨fun _ _ hsingle => (List.not_mem_nil hsingle).elim, fun _ => ⟨[], .nil⟩⟩
  | cons hsource _ ih =>
    rw [List.forall_mem_cons, ← ih, ← exists_foundAlone_iff hsource]
    constructor
    · rintro ⟨_, hrules⟩
      obtain ⟨rule, rules, hrule, hrest, rfl⟩ := List.forall₂_cons_left_iff.1 hrules
      exact ⟨⟨rule, hrule⟩, rules, hrest⟩
    · rintro ⟨⟨rule, hrule⟩, rules, hrest⟩
      exact ⟨rule :: rules, .cons hrule hrest⟩

/-- With its declarations given, a program is accepted exactly if its rules are found alone, and its
rules are these, numbered in order. -/
lemma checkProgram_eq_ok_iff_foundAlone
    (h : checkDeclarations program ⟨.empty, []⟩ = .ok declarations s) {typed : Typed.Program} :
    (checkProgram kinds program).result = .ok typed ↔
      ∃ rules, List.Forall₂ (FoundAlone kinds) program.singles rules ∧
        typed = ⟨program.name, program.params, declarations.keywords,
          rules.zipIdx.map fun rule => { rule.1 with id := rule.2 }⟩ := by
  have hsources := Program.rules_singles (shallow_of_checkDeclarations h)
  have hbare : ∀ single ∈ program.singles, single.bare = program.bare :=
    fun _ => Program.bare_of_mem_singles
  simp only [checkProgram_after h, forall₂_foundAlone_iff h hbare hsources]

/-- **Rules do not see each other.** A program is accepted exactly if its declarations are accepted
alone and together with each of its rules alone, and then its rules are the ones that are found
alone, numbered in the order in which they are written. -/
theorem checkProgram_apart (kinds : Named KindSchemas) (program : Program) :
    ((∃ typed, (checkProgram kinds program).result = .ok typed) ↔
      (∃ typed, (checkProgram kinds program.bare).result = .ok typed) ∧
        ∀ single ∈ program.singles, ∃ typed, (checkProgram kinds single).result = .ok typed) ∧
    ∀ typed, (checkProgram kinds program).result = .ok typed →
      ∃ rules, List.Forall₂ (FoundAlone kinds) program.singles rules ∧
        typed.rules = rules.zipIdx.map fun rule => { rule.1 with id := rule.2 } := by
  rw [exists_checkProgram_bare_iff]
  refine ⟨⟨?_, ?_⟩, ?_⟩
  · rintro ⟨typed, htyped⟩
    obtain ⟨declarations, s, _, h, -, -⟩ := checkProgram_eq_ok_iff.1 htyped
    obtain ⟨rules, hrules, -⟩ := (checkProgram_eq_ok_iff_foundAlone h).1 htyped
    have hsources := Program.rules_singles (shallow_of_checkDeclarations h)
    exact ⟨⟨declarations, s, h⟩, (exists_forall₂_foundAlone_iff hsources).1 ⟨rules, hrules⟩⟩
  · rintro ⟨⟨declarations, s, h⟩, hsingles⟩
    have hsources := Program.rules_singles (shallow_of_checkDeclarations h)
    obtain ⟨rules, hrules⟩ := (exists_forall₂_foundAlone_iff hsources).2 hsingles
    exact ⟨_, (checkProgram_eq_ok_iff_foundAlone h).2 ⟨rules, hrules, rfl⟩⟩
  · intro typed htyped
    obtain ⟨declarations, s, _, h, -, -⟩ := checkProgram_eq_ok_iff.1 htyped
    obtain ⟨rules, hrules, rfl⟩ := (checkProgram_eq_ok_iff_foundAlone h).1 htyped
    exact ⟨rules, hrules, rfl⟩

end Programs

/-- A doorbell that tells who rings. -/
def bellKind : Named KindSchemas :=
  [("com.bell", ⟨[("rang", ⟨["who"], [.string], "", "", ""⟩)], [], []⟩)]

/-- Two rules that both call their visitor `who`, the second of them inside a compute module. -/
def visitors : Source.Program :=
  ⟨"visitors", [], [.keyword "last" .string,
    .rule [.invocation ⟨.globalName "com.bell", "rang", [.var "who"]⟩] []
      [.binding "last" (.var "who")],
    .computeModule "book" [.keyword "page" .string,
      .rule [.invocation ⟨.globalName "com.bell", "rang", [.var "who"]⟩] []
        [.binding "page" (.var "who")]]]⟩

/-- Both rules are found alone, and together they have the numbers 0 and 1. -/
theorem checkProgram_apart_visitors :
    ∃ typed, (checkProgram bellKind visitors).result = .ok typed ∧
      typed.rules.map Typed.Rule.id = [0, 1] ∧
      ∃ rules, List.Forall₂ (FoundAlone bellKind) visitors.singles rules ∧
        typed.rules = rules.zipIdx.map fun rule => { rule.1 with id := rule.2 } := by
  have hids : (checkProgram bellKind visitors).result.toOption.map
      (fun typed => typed.rules.map Typed.Rule.id) = some [0, 1] := by
    decide +kernel
  cases h : (checkProgram bellKind visitors).result with
  | error e =>
    rw [h] at hids
    cases hids
  | ok typed =>
    rw [h] at hids
    exact ⟨typed, rfl, Option.some.inj hids, (checkProgram_apart bellKind visitors).2 typed h⟩

end ChannelRules
