import ChannelRules.Check.Channel

/-!
# Checking actions

An action invokes a channel or writes a keyword. Invoking a keyword of a compute module writes it.
Actions introduce no names and hold no conditions.
-/

namespace ChannelRules

/-- The parameters of an action; those beyond the types are dropped. -/
def checkArguments (ctx : Context) (channel : ChannelRef) :
    Nat → List Source.Expr → List Ty → Check (List (Option Typed.Expr))
  | index, .null :: params, _ :: types => do
    let rest ← checkArguments ctx channel (index + 1) params types
    return none :: rest
  | index, param :: params, ty :: types => do
    let typed ← Check.expr ctx param
    let _ ← Check.agree ty typed.ty fun _ => .parameterMismatch channel.text index ty typed.ty
    let rest ← checkArguments ctx channel (index + 1) params types
    return some typed :: rest
  | _, _, _ => return []

/-- The action that an invocation with these parameters is. -/
def actionOf (channel : ChannelRef) (params : List (Option Typed.Expr)) :
    Except CheckError Typed.Action :=
  match channel.selector with
  | .computeModule module =>
    match params with
    | some expr :: _ => .ok (.keyword (moduleCell module channel.channel) expr)
    | _ => .error .invalidNull
  | _ => .ok (.invocation channel params)

def checkActionInvocation (ctx : Context) (invocation : Source.Invocation) :
    Check Typed.Action := do
  let (channel, types) ← Check.ofNoted (.ofExcept (resolveChannel ctx invocation .actions))
  if invocation.params.length < types.length then
    throw (.arityMismatch channel.text types.length invocation.params.length)
  let params ← checkArguments ctx channel 0 invocation.params types
  Check.ofNoted (.ofExcept (actionOf channel params))

/-- The cell of a keyword in scope, with its type. -/
def keywordCell (scope : Scope) (name : String) : Except CheckError (String × Ty) :=
  match scope.get? name with
  | none => .error (.undefinedVariable name)
  | some ⟨ty, .keyword cell⟩ => .ok (cell, ty)
  | some _ => .error (.notKeyword name)

def checkKeywordWrite (ctx : Context) (name : String) (e : Source.Expr) : Check Typed.Action := do
  let (cell, ty) ← Check.ofNoted (.ofExcept (keywordCell (← Check.scope) name))
  let typed ← Check.expr ctx e
  let _ ← Check.agree ty typed.ty .type
  return .keyword cell typed

def checkAction (ctx : Context) : Source.Part → Check Typed.Action
  | .invocation i => checkActionInvocation ctx i
  | .binding name e => checkKeywordWrite ctx name e
  | .predicate _ => throw (.invalidPart .predicateInActions)
  | .condition _ => throw (.invalidPart .predicateInActions)

/-- Actions, in the order in which they are written. -/
def checkActions (ctx : Context) (parts : List Source.Part) : Check (List Typed.Action) :=
  Check.forAll (checkAction ctx) parts

end ChannelRules
