import ChannelRules.Check.Channel
import ChannelRules.Source.Order

/-!
# Checking triggers and queries

A trigger or query has exactly one invocation. Its parts are checked in canonical order. A bare name
that nothing declares yet introduces that name, where it stands for a parameter of the invocation,
for a group of a pattern or for an element of a container; elsewhere such a name is an error.
-/

namespace ChannelRules

def bareName? : Source.Expr → Option String
  | .var name => some name
  | .constant (.varRef name) => some name
  | _ => none

/-- A bare name that nothing declares yet. -/
def freshName? (scope : Scope) (e : Source.Expr) : Option String :=
  match bareName? e with
  | some name => if scope.has name then none else some name
  | none => none

/-- A place of the given type: a fresh name is declared, anything else has to agree with the type.
The second result is the type made more specific. -/
def checkBinder (ctx : Context) (ty : Ty) (mismatch : Ty → CheckError) (e : Source.Expr) :
    Check (Typed.Binder × Ty) := do
  match freshName? (← Check.scope) e with
  | some name => do
    Check.declare name ⟨ty, .introduced⟩
    return (.declare name ty, ty)
  | none => do
    let typed ← Check.expr ctx e
    let agreed ← Check.agree ty typed.ty fun _ => mismatch typed.ty
    return (.expect typed, agreed)

/-- A parameter of an invocation; an open parameter stays open. -/
def checkSlot (ctx : Context) (channel : ChannelRef) (index : Nat) (ty : Ty) :
    Source.Expr → Check (Option Typed.Binder × Ty)
  | .null => return (none, ty)
  | e => do
    let (binder, ty) ← checkBinder ctx ty (.parameterMismatch channel.text index ty) e
    return (some binder, ty)

/-- The parameters of an invocation; those that are not written are open. -/
def checkSlots (ctx : Context) (channel : ChannelRef) :
    Nat → List Ty → List Source.Expr → Check (List (Option Typed.Binder × Ty))
  | _, [], _ => return []
  | index, ty :: types, params => do
    let slot ← checkSlot ctx channel index ty (params.head?.getD .null)
    let slots ← checkSlots ctx channel (index + 1) types params.tail
    return slot :: slots

/-- The invocation of a trigger or query. -/
def checkInvocation (ctx : Context) (sort : Section) (invocation : Source.Invocation) :
    Check Typed.Part := do
  let (channel, types) ← Check.ofNoted (.ofExcept (resolveChannel ctx invocation sort))
  if types.length < invocation.params.length then
    throw (.arityMismatch channel.text types.length invocation.params.length)
  let slots ← checkSlots ctx channel 0 types invocation.params
  return .invocation ⟨channel, slots.map Prod.fst, slots.map Prod.snd⟩

/-- Whether values of a type are read as texts. -/
def isTextual : Ty → Bool
  | .string => true
  | .entity _ => true
  | .enum _ => true
  | .any => true
  | _ => false

/-- A text that a pattern needs. -/
def checkText (ctx : Context) (e : Source.Expr) : Check Typed.Expr := do
  let typed ← Check.expr ctx e
  if isTextual typed.ty then return typed
  else throw (.noMatchingOverload "regex" [.string, typed.ty])

/-- What the elements of a container have to agree with. -/
def elementType (container : Ty) : Except CheckError Ty :=
  match container with
  | .any => .ok .any
  | other =>
    match other.element? with
    | some elem => .ok elem
    | none => .error (.noMatchingOverload "contains" [other, .any])

/-- An expression that has to be a truth value. -/
def checkTruth (ctx : Context) (e : Source.Expr) : Check Typed.Expr := do
  let typed ← Check.expr ctx e
  let _ ← Check.agree .boolean typed.ty .type
  return typed

/-- A condition that can introduce names. -/
def checkPredicate (ctx : Context) : Source.Expr → Check Typed.Predicate
  | .call "regex" (value :: pattern :: flags :: captures) => do
    let value ← checkText ctx value
    let pattern ← checkText ctx pattern
    let flags ← checkText ctx flags
    let captures ← Check.forAll
      (checkBinder ctx .string fun ty => .noMatchingOverload "regex" [.string, ty]) captures
    return .regex value pattern flags (captures.map Prod.fst)
  | .call "contains" [container, element] => do
    let container ← Check.expr ctx container
    let elem ← Check.ofNoted (.ofExcept (elementType container.ty))
    let (element, _) ←
      checkBinder ctx elem (fun ty => .noMatchingOverload "contains" [elem, ty]) element
    return .contains container element
  | other => do
    let typed ← checkTruth ctx other
    return .test typed

/-- One part of a trigger or query. -/
def checkPart (ctx : Context) (sort : Section) : Source.Part → Check Typed.Part
  | .invocation i => checkInvocation ctx sort i
  | .predicate e => do
    let predicate ← checkPredicate ctx e
    return .predicate predicate
  | .binding name e => do
    let typed ← Check.expr ctx e
    Check.declare name ⟨typed.ty, .introduced⟩
    return .binding name typed
  | .condition e => do
    let typed ← checkTruth ctx e
    return .condition typed

/-- The number of invocations among parts. -/
def invocationCount (parts : List Source.Part) : Nat :=
  parts.countP fun part => part.rank == 0

/-- A trigger or query. -/
def checkClause (ctx : Context) (sort : Section) (parts : List Source.Part) :
    Check (List Typed.Part) := do
  if invocationCount parts ≠ 1 then
    throw (.invalidPart (.invocationCount sort (invocationCount parts)))
  Check.forAll (checkPart ctx sort) (PartOrder.canonical.arrange Source.Part.rank parts)

end ChannelRules
