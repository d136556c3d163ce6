import ChannelRules.Check.Error
import ChannelRules.Typed.Basic

/-!
# Compiled expressions

Code is what remains of an expression when its types are no longer needed: constants have their
runtime form, and the logical connectives skip an operand that cannot change the result. Running
code reads the environment and the keywords, and writes nothing of its own accord.
-/

namespace ChannelRules

/-- Compiled expressions. -/
inductive Code where
  | constant (value : Value)
  | var (name : String)
  | keyword (cell : String)
  | member (object : Code) (name : String)
  | call (op : Op) (args : List Code)
  /-- A connective that the first operand decides when it has the given truth value. -/
  | connective (decisive : Bool) (lhs rhs : Code)
  | items (items : List Code)
  deriving Inhabited

def Value.truth (value : Value) : Except RuntimeError Bool :=
  match value.asBool with
  | some b => .ok b
  | none => .error (.typeMismatch "Boolean" value)

def Value.textual (value : Value) : Except RuntimeError String :=
  match value.asText with
  | some s => .ok s
  | none => .error (.typeMismatch "String" value)

def Value.member (object : Value) (name : String) : Outcome :=
  match object with
  | .object fields =>
    match Named.get? fields name with
    | some value => .ok value
    | none => .error (.missingProperty name)
  | other => .error (.typeMismatch "Object" other)

namespace Code

variable [PatternEngine]

mutual

def run (env : Env) : Code → Eval Value
  | constant value => return value
  | var name => Eval.ofExcept (env.readVar name)
  | keyword cell => Eval.readKeyword cell
  | member object name => do
    let object ← run env object
    Eval.ofExcept (object.member name)
  | call op args => do
    let values ← runAll env args
    op.run env values
  | connective decisive lhs rhs => do
    let left ← run env lhs
    let b ← Eval.ofExcept left.truth
    if b = decisive then return .boolean b
    let right ← run env rhs
    let b ← Eval.ofExcept right.truth
    return .boolean b
  | items codes => do
    let values ← runAll env codes
    return .array values

/-- Run code from left to right, up to the first failure. -/
def runAll (env : Env) : List Code → Eval (List Value)
  | [] => return []
  | code :: rest => do
    let value ← run env code
    let values ← runAll env rest
    return value :: values

end

/-- Run optional code; what is absent stays absent. -/
def runOptional (env : Env) : Option Code → Eval (Option Value)
  | none => return none
  | some code => do
    let value ← code.run env
    return some value

end Code

/-- Why a checked program cannot be compiled. -/
inductive CompileError where
  | check (error : CheckError)
  | unknownVariable (name : String)
  | manyInvocations
  | noInvocation

def CompileError.message : CompileError → String
  | check error => "Type check error: " ++ error.message
  | unknownVariable name => "Variable " ++ name ++ " is not in scope"
  | manyInvocations => "Internal compiler error: clause with more than one invocation"
  | noInvocation => "Internal compiler error: clause without an invocation"

/-- The variables that compiled code can read, with their types. -/
abbrev Locals := Named Ty

namespace Typed.Expr

/-- A use of an operator between two operands. -/
def binaryCode (op : Op) (lhs rhs : Code) : Code :=
  match op.native with
  | .calculation .and => .connective false lhs rhs
  | .calculation .or => .connective true lhs rhs
  | _ => .call op [lhs, rhs]

mutual

/-- Compile an expression that reads the given variables. -/
def compile (locals : Locals) : Typed.Expr → Except CompileError Code
  | constant _ value => .ok (.constant value.toRuntime)
  | var _ name => if Named.has locals name then .ok (.var name) else .error (.unknownVariable name)
  | keyword _ cell => .ok (.keyword cell)
  | member _ object name => do
    let object ← compile locals object
    return .member object name
  | call _ op args => do
    let args ← compileAll locals args
    return .call op args
  | unary _ op arg => do
    let arg ← compile locals arg
    return .call op [arg]
  | binary _ op lhs rhs => do
    let lhs ← compile locals lhs
    let rhs ← compile locals rhs
    return binaryCode op lhs rhs
  | tuple _ items => do
    let items ← compileAll locals items
    return .items items
  | array _ items => do
    let items ← compileAll locals items
    return .items items

def compileAll (locals : Locals) : List Typed.Expr → Except CompileError (List Code)
  | [] => .ok []
  | expr :: rest => do
    let code ← compile locals expr
    let codes ← compileAll locals rest
    return code :: codes

end

def compileOptional (locals : Locals) : Option Typed.Expr → Except CompileError (Option Code)
  | none => .ok none
  | some expr => do
    let code ← compile locals expr
    return some code

end Typed.Expr

end ChannelRules
