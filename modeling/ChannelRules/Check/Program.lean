import ChannelRules.Check.Action
import ChannelRules.Check.Clause

/-!
# Checking programs

Parameters, top-level keywords and compute modules are declared first, in one layer, then the
keywords of the compute modules. After that the rules are checked one after the other. Each opens a
layer, which sees the declarations and, inside a compute module, the keywords of that module by
their bare names, and leaves it in the end. Rules are numbered in the order in which they are
written.
-/

namespace ChannelRules

/-- A rule or command as it is written, with the compute module it stands in. -/
structure RuleSource where
  module : Option String
  trigger : Option (List Source.Part)
  queries : List (List Source.Part)
  actions : List Source.Part

namespace Source

def Statement.rule? (module : Option String) : Statement → Option RuleSource
  | rule trigger queries actions => some ⟨module, some trigger, queries, actions⟩
  | command queries actions => some ⟨module, none, queries, actions⟩
  | computeModule _ _ => none
  | keyword _ _ => none

/-- The rules of a statement, including those inside a compute module. -/
def Statement.rules : Statement → List RuleSource
  | computeModule name statements => statements.filterMap (rule? (some name))
  | statement => (statement.rule? none).toList

/-- The rules of a program, in the order in which they are written. -/
def Program.rules (program : Program) : List RuleSource :=
  program.statements.flatMap Statement.rules

end Source

/-- Declare the parameters of a program. -/
def declareParams : List (String × Ty) → Check PUnit
  | [] => return ⟨⟩
  | (name, ty) :: rest => do
    Check.declare name ⟨ty, .param⟩
    declareParams rest

/-- Declare top-level keywords and compute modules, and add the types of the keywords. -/
def declareTopLevel : Named Ty → List Source.Statement → Check (Named Ty)
  | keywords, [] => return keywords
  | keywords, .keyword name ty :: rest => do
    Check.declare name ⟨ty, .keyword name⟩
    declareTopLevel (Named.insert keywords name ty) rest
  | keywords, .computeModule name _ :: rest => do
    Check.declare name ⟨.module, .module⟩
    declareTopLevel keywords rest
  | keywords, _ :: rest => declareTopLevel keywords rest

/-- Collect the keywords of one compute module: their names so far, and the types of all
keywords. -/
def moduleKeywords (scope : Scope) (module : String) :
    List String → Named Ty → List Source.Statement → Except CheckError (List String × Named Ty)
  | names, keywords, [] => .ok (names, keywords)
  | names, keywords, .keyword name ty :: rest =>
    if scope.has name || names.contains name then .error (.duplicateDeclaration name)
    else moduleKeywords scope module (names ++ [name])
      (Named.insert keywords (moduleCell module name) ty) rest
  | _, _, .computeModule nested _ :: _ => .error (.invalidPart (.nestedModule nested module))
  | names, keywords, _ :: rest => moduleKeywords scope module names keywords rest

/-- Collect the keywords of all compute modules: their names by module, and the types of all
keywords. -/
def allModuleKeywords (scope : Scope) :
    Named (List String) → Named Ty → List Source.Statement →
      Except CheckError (Named (List String) × Named Ty)
  | modules, keywords, [] => .ok (modules, keywords)
  | modules, keywords, .computeModule name statements :: rest => do
    let (names, keywords) ← moduleKeywords scope name [] keywords statements
    allModuleKeywords scope (Named.insert modules name names) keywords rest
  | modules, keywords, _ :: rest => allModuleKeywords scope modules keywords rest

/-- Declare the keywords of a compute module by their bare names. -/
def declareModuleNames (ctx : Context) (module : String) : List String → Check PUnit
  | [] => return ⟨⟩
  | name :: rest => do
    let cell := moduleCell module name
    Check.declare name ⟨(Named.get? ctx.keywords cell).getD .any, .keyword cell⟩
    declareModuleNames ctx module rest

/-- The trigger of a rule; a command has none. -/
def checkTrigger (ctx : Context) : Option (List Source.Part) → Check (Option (List Typed.Part))
  | none => return none
  | some parts => do
    let parts ← checkClause ctx .triggers parts
    return some parts

/-- A rule, in the layer that is open. -/
def checkRuleBody (ctx : Context) (modules : Named (List String)) (source : RuleSource) (id : Nat) :
    Check Typed.Rule := do
  match source.module with
  | some module => declareModuleNames ctx module ((Named.get? modules module).getD [])
  | none => pure ⟨⟩
  let trigger ← checkTrigger ctx source.trigger
  let queries ← Check.forAll (checkClause ctx .queries) source.queries
  let actions ← checkActions ctx source.actions
  return ⟨id, source.module, trigger, queries, actions⟩

/-- A rule, in a layer of its own. -/
def checkRule (ctx : Context) (modules : Named (List String)) (source : RuleSource) (id : Nat) :
    Check Typed.Rule :=
  (checkRuleBody ctx modules source id).inLayer

/-- Check rules one after the other, numbered from the given number on. -/
def checkRules (ctx : Context) (modules : Named (List String)) :
    Nat → List RuleSource → Check (List Typed.Rule)
  | _, [] => return []
  | id, source :: rest => do
    let rule ← checkRule ctx modules source id
    let rules ← checkRules ctx modules (id + 1) rest
    return rule :: rules

/-- What the declarations of a program bring besides the names in scope: the names of the keywords
of each compute module, and the types of all keywords. -/
structure Declarations where
  modules : Named (List String)
  keywords : Named Ty

def checkDeclarations (program : Source.Program) : Check Declarations := do
  declareParams program.params
  let keywords ← declareTopLevel [] program.statements
  let scope ← Check.scope
  let (modules, keywords) ← Check.ofNoted
    (.ofExcept (allModuleKeywords scope [] keywords program.statements))
  return ⟨modules, keywords⟩

/-- Check the declarations of a program and then its rules, in one go. -/
def checkStatements (kinds : Named KindSchemas) (program : Source.Program) :
    Check Typed.Program := do
  let ⟨modules, keywords⟩ ← checkDeclarations program
  let rules ← checkRules ⟨kinds, keywords⟩ modules 0 program.rules
  return ⟨program.name, program.params, keywords, rules⟩

/-- Check a program whose kinds have the given schemas. -/
def checkProgram (kinds : Named KindSchemas) (program : Source.Program) :
    Noted CheckError Typed.Program :=
  (checkStatements kinds program).run .empty

end ChannelRules
