import ChannelRules.Check.Kinds
import ChannelRules.Code.Clause
import ChannelRules.Fold
import ChannelRules.Typed.Visit

/-!
# Compiled programs

A compiled rule has its trigger, if any, its queries, and its outputs. Variables come into scope
from the trigger over the queries to the actions. A compiled rule also tells which keyword cells its
inputs read and which cells it reads as a whole.
-/

namespace ChannelRules

/-- What an action writes to. -/
inductive Target where
  | channel (channel : ChannelRef)
  | keyword (cell : String)

/-- A compiled action: what it writes to, and the values for it. -/
structure CompiledOutput where
  target : Target
  values : List (Option Code)

/-- The values of an action in an environment. Nothing is written. -/
def CompiledOutput.produce [PatternEngine] (output : CompiledOutput) (env : Env) :
    Eval (List (Option Value)) :=
  CompiledInvocation.runInputs env output.values

structure CompiledRule where
  id : Nat
  module : Option String
  trigger : Option CompiledClause
  queries : List CompiledClause
  outputs : List CompiledOutput
  /-- The cells that the trigger and the queries read. -/
  inputKeywords : NameSet
  /-- The cells that the rule reads. -/
  keywords : NameSet

structure CompiledProgram where
  name : String
  params : List (String × Ty)
  keywords : Named Ty
  rules : List CompiledRule

/-- Compile optional expressions from left to right. -/
def compileValues (locals : Locals) :
    List (Option Typed.Expr) → Except CompileError (List (Option Code))
  | [] => .ok []
  | expr :: rest => do
    let code ← Typed.Expr.compileOptional locals expr
    let codes ← compileValues locals rest
    return code :: codes

def compileAction (locals : Locals) : Typed.Action → Except CompileError CompiledOutput
  | .invocation channel params => do
    let values ← compileValues locals params
    return ⟨.channel channel, values⟩
  | .keyword cell expr => do
    let code ← expr.compile locals
    return ⟨.keyword cell, [some code]⟩

def compileActions (locals : Locals) : List Typed.Action → Except CompileError (List CompiledOutput)
  | [] => .ok []
  | action :: rest => do
    let output ← compileAction locals action
    let outputs ← compileActions locals rest
    return output :: outputs

variable [PatternEngine]

def compileTrigger : Option (List Typed.Part) → Compile (Option CompiledClause)
  | none => return none
  | some parts => do
    let clause ← compileClause .trigger parts
    return some clause

def compileQueries : List (List Typed.Part) → Compile (List CompiledClause)
  | [] => return []
  | parts :: rest => do
    let query ← compileClause .query parts
    let queries ← compileQueries rest
    return query :: queries

/-- The variables that all rules of a program can read. -/
def paramLocals (params : List (String × Ty)) : Locals := Named.ofEntries params

/-- Compile a rule in scope of the given variables. -/
def compileRuleBody (rule : Typed.Rule) : Compile CompiledRule := do
  let trigger ← compileTrigger rule.trigger
  let queries ← compileQueries rule.queries
  let outputs ← Compile.ofExcept (compileActions (← get) rule.actions)
  return { id := rule.id
           module := rule.module
           trigger := trigger
           queries := queries
           outputs := outputs
           inputKeywords := NameSet.ofNames rule.inputReads
           keywords := NameSet.ofNames rule.reads }

/-- Compile a rule of a program with the given parameters. -/
def compileRule (params : List (String × Ty)) (rule : Typed.Rule) :
    Except CompileError CompiledRule :=
  match compileRuleBody rule (paramLocals params) with
  | .ok rule _ => .ok rule
  | .error e _ => .error e

def compileRules (params : List (String × Ty)) :
    List Typed.Rule → Except CompileError (List CompiledRule)
  | [] => .ok []
  | rule :: rest => do
    let compiled ← compileRule params rule
    let rules ← compileRules params rest
    return compiled :: rules

def compileTyped (program : Typed.Program) : Except CompileError CompiledProgram := do
  let rules ← compileRules program.params program.rules
  return ⟨program.name, program.params, program.keywords, rules⟩

/-- Check, fold and compile a program. -/
def compile (store : Named KindSchemas) (program : Source.Program) :
    Except CompileError CompiledProgram := do
  let typed ← (verify store program).result.mapError CompileError.check
  compileTyped typed.fold

namespace CompiledRule

/-- Whether a rule runs without a trigger. -/
def isCommand (rule : CompiledRule) : Bool := rule.trigger.isNone

/-- The filter for the events of the trigger; a command lets everything pass. -/
def caller (rule : CompiledRule) : Filter := (rule.trigger.map CompiledClause.filter).getD []

/-- How a summary names the target of an action. -/
def targetText : Target → String
  | .channel channel => channel.text
  | .keyword cell => cell ++ " :="

/-- The stages of a rule: its trigger, its queries and its outputs. -/
def stages (rule : CompiledRule) : List String :=
  (rule.trigger.elim "now" fun trigger => trigger.invocation.channel.text) ::
    (rule.queries.map fun query => query.invocation.channel.text) ++
    [String.intercalate ", " (rule.outputs.map fun output => targetText output.target)]

/-- One line about a rule. -/
def summary (rule : CompiledRule) : String :=
  "rule " ++ toString rule.id ++ (rule.module.elim "" fun module => " in " ++ module) ++ ": " ++
    String.intercalate " => " rule.stages ++
    (if rule.keywords.isEmpty then ""
     else " (reads " ++ String.intercalate ", " rule.keywords ++ ")")

end CompiledRule

end ChannelRules
