import ChannelRules.Builtin.Native
import ChannelRules.Ty.Substitute

/-!
# Overloads

A builtin has one or more signatures. A use of it takes the first signature that fits the number of
arguments and whose parameter types can be brought together with the types of the arguments. Each
attempt starts without bindings, so a failed attempt leaves nothing behind but its notices. All
measures without a unit in one signature stand for one and the same unit.
-/

namespace ChannelRules

/-- One signature of a builtin. -/
structure Overload where
  params : List Ty
  /-- The type of arguments beyond the parameters, if there may be any. -/
  rest : Option Ty
  result : Ty
  native : Native

/-- An operator or function, with its signatures in the order in which they are tried. -/
structure Builtin where
  name : String
  overloads : List Overload

/-- The signature that is chosen for one use of a builtin. -/
structure Op where
  name : String
  /-- The place of the signature among those of the builtin. -/
  overload : Nat
  native : Native
  deriving DecidableEq

/-- The result of a use in an environment. -/
def Op.run [PatternEngine] (op : Op) (env : Env) (args : List Value) : Eval Value :=
  op.native.run (some env) args

/-- A use of a builtin with its types: one for each argument, and the type of the result. -/
structure Resolution where
  op : Op
  params : List Ty
  result : Ty

/-- Why no signature can be chosen. -/
inductive ResolveFailure where
  /-- No signature takes so many arguments. -/
  | arity
  /-- Signatures take so many arguments, but not of these types. -/
  | noMatch
  deriving DecidableEq

namespace Overload

/-- The types that so many arguments have to agree with. -/
def formals? (overload : Overload) (count : Nat) : Option (List Ty) :=
  match overload.rest with
  | some rest =>
    if overload.params.length ≤ count then
      some (overload.params ++ List.replicate (count - overload.params.length) rest)
    else none
  | none => if count = overload.params.length then some overload.params else none

/-- The units that the measures without a unit in a formal type have taken on. -/
def boundUnits : Ty → Ty → List String
  | .measure formal, .measure actual => if formal = "" ∧ actual ≠ "" then [actual] else []
  | .array formal, .array actual => boundUnits formal actual
  | .map key value, .map key' value' => boundUnits key key' ++ boundUnits value value'
  | _, _ => []

/-- The one unit that a signature has taken on, after some more units. -/
def shareUnit : Option String → List String → Ty.Unify (Option String)
  | unit, [] => return unit
  | none, found :: more => shareUnit (some found) more
  | some unit, found :: more =>
    if unit = found then shareUnit (some unit) more
    else throw (.cannotUnify (.measure unit) (.measure found))

/-- Bring formal types and argument types together, from left to right, with a shared unit. -/
def fit : Option String → List Ty → List Ty → Ty.Unify (List Ty × Option String)
  | unit, formal :: formals, arg :: args => do
    let ty ← Ty.unify formal arg
    let unit ← shareUnit unit (boundUnits formal ty)
    let (types, unit) ← fit unit formals args
    return (ty :: types, unit)
  | unit, _, _ => return ([], unit)

/-- A measure without a unit takes the given unit. -/
def withUnit : Option String → Ty → Ty
  | some unit, .measure old => .measure (if old = "" then unit else old)
  | _, ty => ty

/-- Try a signature: the types of the arguments and of the result, with all variables replaced. -/
def attempt (overload : Overload) (formals args : List Ty) : Noted TypeError (List Ty × Ty) :=
  match fit none formals args .empty with
  | .ok (types, unit) s =>
    ⟨s.notices,
      .ok (types.map (Ty.resolve s.types), withUnit unit (overload.result.resolve s.types))⟩
  | .error e s => ⟨s.notices, .error e⟩

end Overload

namespace Builtin

/-- Try signatures from the given place on. The flag tells whether one before took so many
arguments. -/
def resolveFrom (name : String) (args : List Ty) :
    Nat → Bool → List Overload → Noted ResolveFailure Resolution
  | _, tried, [] => .fail (if tried then .noMatch else .arity)
  | index, tried, overload :: more =>
    match overload.formals? args.length with
    | none => resolveFrom name args (index + 1) tried more
    | some formals =>
      match overload.attempt formals args with
      | ⟨notices, .ok (params, result)⟩ =>
        ⟨notices, .ok ⟨⟨name, index, overload.native⟩, params, result⟩⟩
      | ⟨notices, .error _⟩ => .after notices (resolveFrom name args (index + 1) true more)

/-- Choose a signature for arguments of the given types. -/
def resolve (builtin : Builtin) (args : List Ty) : Noted ResolveFailure Resolution :=
  resolveFrom builtin.name args 0 false builtin.overloads

/-- The number of parameters that a message about the number of arguments names. -/
def leadingArity (builtin : Builtin) : Nat :=
  match builtin.overloads with
  | overload :: _ => overload.params.length
  | [] => 0

end Builtin

end ChannelRules
