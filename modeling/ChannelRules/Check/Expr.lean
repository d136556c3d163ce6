import ChannelRules.Builtin.Table
import ChannelRules.Check.Error
import ChannelRules.Scope
import ChannelRules.Typed.Basic

/-!
# Checking expressions

`checkExpr` finds the type of an expression from the names in scope and the types of the keyword
cells. Constants are converted to base units on the way. The type of an array is what the types of
its items agree with.
-/

namespace ChannelRules

/-- The cell of a keyword of a compute module. -/
def moduleCell (module name : String) : String := module ++ "." ++ name

/-- Why a use of a builtin is rejected. -/
def ResolveFailure.explain (builtin : Builtin) (args : List Ty) : ResolveFailure → CheckError
  | arity => .arityMismatch builtin.name builtin.leadingArity args.length
  | noMatch => .noMatchingOverload builtin.name args

/-- Choose the signature for a use of a builtin. -/
def checkCall (builtin : Builtin) (args : List Typed.Expr) : Noted CheckError (Op × Ty) := do
  let types := args.map Typed.Expr.ty
  let resolution ← (builtin.resolve types).mapError (ResolveFailure.explain builtin types)
  return (resolution.op, resolution.result)

/-- A name used as a value. -/
def checkName (scope : Scope) (name : String) : Except CheckError Typed.Expr :=
  match scope.get? name with
  | none => .error (.undefinedVariable name)
  | some ⟨ty, .keyword cell⟩ => .ok (.keyword ty cell)
  | some ⟨_, .module⟩ => .error (.invalidPart (.moduleAsValue name))
  | some ⟨ty, .param⟩ => .ok (.var ty name)
  | some ⟨ty, .introduced⟩ => .ok (.var ty name)

/-- A constant, in base units. -/
def checkConstant (value : Value) : Noted CheckError Typed.Expr := do
  let value ← (Noted.ofExcept value.normalize).mapError CheckError.type
  let ty ← value.typeOf.mapError CheckError.type
  return .constant ty value

/-- The compute module that an expression names. -/
def moduleName? (scope : Scope) : Source.Expr → Option String
  | .var name =>
    match scope.get? name with
    | some ⟨_, .module⟩ => some name
    | _ => none
  | _ => none

def memberType (object : Ty) (name : String) : Except CheckError Ty :=
  match object with
  | .object fields =>
    match Named.get? fields name with
    | some ty => .ok ty
    | none => .error (.unknownMember object.text name)
  | .openObject => .ok .any
  | .any => .ok .any
  | _ => .error (.unknownMember object.text name)

def checkModuleMember (keywords : Named Ty) (module name : String) : Except CheckError Typed.Expr :=
  match Named.get? keywords (moduleCell module name) with
  | some ty => .ok (.keyword ty (moduleCell module name))
  | none => .error (.unknownMember module name)

/-- The builtin with a name, or why there is none. -/
def knownBuiltin (find? : String → Option Builtin) (name : String) : Except CheckError Builtin :=
  match find? name with
  | some builtin => .ok builtin
  | none => .error (.undefinedFunction name)

mutual

def checkExpr (scope : Scope) (keywords : Named Ty) : Source.Expr → Noted CheckError Typed.Expr
  | .null => .fail .invalidNull
  | .var name => .ofExcept (checkName scope name)
  | .constant (.varRef name) => .ofExcept (checkName scope name)
  | .constant value => checkConstant value
  | .member object name =>
    match moduleName? scope object with
    | some module => .ofExcept (checkModuleMember keywords module name)
    | none => do
      let object ← checkExpr scope keywords object
      let ty ← Noted.ofExcept (memberType object.ty name)
      return .member ty object name
  | .call function args => do
    let builtin ← Noted.ofExcept (knownBuiltin Builtin.function? function)
    let args ← checkExprs scope keywords args
    let (op, ty) ← checkCall builtin args
    return .call ty op args
  | .unary operator arg => do
    let builtin ← Noted.ofExcept (knownBuiltin Builtin.unary? operator)
    let arg ← checkExpr scope keywords arg
    let (op, ty) ← checkCall builtin [arg]
    return .unary ty op arg
  | .binary operator lhs rhs => do
    let builtin ← Noted.ofExcept (knownBuiltin Builtin.binary? operator)
    let lhs ← checkExpr scope keywords lhs
    let rhs ← checkExpr scope keywords rhs
    let (op, ty) ← checkCall builtin [lhs, rhs]
    return .binary ty op lhs rhs
  | .tuple items => do
    let items ← checkExprs scope keywords items
    return .tuple (.tuple (items.map Typed.Expr.ty)) items
  | .array items => do
    let items ← checkExprs scope keywords items
    let elem ← (Ty.join (items.map Typed.Expr.ty)).mapError CheckError.type
    return .array (.array elem) items

/-- Check expressions one after the other. -/
def checkExprs (scope : Scope) (keywords : Named Ty) :
    List Source.Expr → Noted CheckError (List Typed.Expr)
  | [] => return []
  | expr :: rest => do
    let expr ← checkExpr scope keywords expr
    let rest ← checkExprs scope keywords rest
    return expr :: rest

end

end ChannelRules
