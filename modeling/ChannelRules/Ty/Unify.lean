import ChannelRules.Ty.Printer

/-!
# Unification

`unify a b` is the most specific type that both types agree with. Variables are bound on the way,
and bindings made before a failure stay. An enumeration or entity may be given as a plain string;
each such use is noted, because it is deprecated.

Bindings can run in a circle, in which case following them does not end. `unifyWith` therefore
takes fuel. What `unify` supplies is more than a run can use in which one side, and everything
that is bound, has no variables.
-/

namespace ChannelRules

/-- A remark about a program that is accepted all the same. -/
inductive Notice where
  /-- A string stands where a value of this type is expected. -/
  | stringFor (ty : Ty)
  deriving DecidableEq

def Notice.message : Notice → String
  | stringFor ty => "Using String for " ++ ty.text ++ " is deprecated"

/-- The variables bound so far and the notices given so far, the latest last. -/
structure Bindings where
  types : Named Ty
  notices : List Notice
  deriving DecidableEq

/-- No variable is bound and nothing is noted. -/
def Bindings.empty : Bindings := ⟨[], []⟩

namespace Ty

/-- Computations that bind variables; what was bound before a failure is kept. -/
abbrev Unify := EStateM TypeError Bindings

/-- What a variable is bound to. -/
def lookup (name : String) : Unify (Option Ty) := do
  return Named.get? (← get).types name

/-- Bind a variable. -/
def assign (name : String) (ty : Ty) : Unify PUnit :=
  modify fun s => { s with types := Named.insert s.types name ty }

/-- Note that a string stands for the type, which is the result. -/
def deprecatedString (ty : Ty) : Unify Ty := do
  modify fun s => { s with notices := s.notices ++ [.stringFor ty] }
  return ty

/-- Enumerations agree when one has all entries of the other. Two with the same entries give the
entries in increasing order. -/
def unifyEnums (xs ys : List String) : Option (List String) :=
  let below := xs.all ys.contains
  let above := ys.all xs.contains
  if below && above then some (NameSet.ofNames xs)
  else if below then some ys
  else if above then some xs
  else none

/-- Bring together two lists item by item, up to the end of the shorter one. -/
def unifyLists (step : Ty → Ty → Unify Ty) : List Ty → List Ty → Unify (List Ty)
  | x :: xs, y :: ys => do
    let item ← step x y
    let items ← unifyLists step xs ys
    return item :: items
  | _, _ => return []

/-- Bring together the fields of two objects with the same names. -/
def unifyFields (step : Ty → Ty → Unify Ty) :
    List (String × Ty) → List (String × Ty) → Unify (List (String × Ty))
  | (name, x) :: xs, (_, y) :: ys => do
    let field ← step x y
    let fields ← unifyFields step xs ys
    return (name, field) :: fields
  | _, _ => return []

/-- Two variables share what one of them is bound to; two unbound ones become the second. -/
def unifyVars (step : Ty → Ty → Unify Ty) (a b : String) : Unify Ty := do
  match (← lookup a), (← lookup b) with
  | some x, some y => do
    let unified ← step x y
    assign a unified
    assign b unified
    return unified
  | some x, none => do
    assign b x
    return x
  | none, some y => do
    assign a y
    return y
  | none, none => do
    if a ≠ b then assign a (var b)
    return var b

/-- A variable and a type that is no variable. -/
def unifyVar (step : Ty → Ty → Unify Ty) (name : String) (other : Ty) : Unify Ty := do
  match (← lookup name) with
  | some bound => do
    let unified ← step bound other
    assign name unified
    return unified
  | none => do
    assign name other
    return other

/-- Two different types, neither of which is a variable. -/
def unifyShapes (step : Ty → Ty → Unify Ty) (a b : Ty) : Unify Ty :=
  match a, b with
  | any, other => return other
  | other, any => return other
  | measure u, measure v =>
    if u = "" then return b else if v = "" then return a else throw (.cannotUnify a b)
  | openObject, object _ => return b
  | object _, openObject => return a
  | object xs, object ys =>
    if Named.names xs = Named.names ys then do
      let fields ← unifyFields step xs ys
      return object fields
    else throw (.cannotUnify a b)
  | openTuple, tuple _ => return b
  | tuple _, openTuple => return a
  | tuple xs, tuple ys =>
    if xs.length = ys.length then do
      let items ← unifyLists step xs ys
      return tuple items
    else throw (.cannotUnify a b)
  | enum xs, enum ys =>
    match unifyEnums xs ys with
    | some entries => return enum entries
    | none => throw (.cannotUnify a b)
  | array x, array y => do
    let elem ← step x y
    return array elem
  | map k v, map l w => do
    let key ← step k l
    let value ← step v w
    return map key value
  | enum _, string => deprecatedString a
  | string, enum _ => deprecatedString b
  | entity _, string => deprecatedString a
  | string, entity _ => deprecatedString b
  | _, _ => throw (.cannotUnify a b)

/-- Unification with a bound on the depth of the computation. -/
def unifyWith : Nat → Ty → Ty → Unify Ty
  | 0, a, b => throw (.circular a b)
  | fuel + 1, var a, var b => unifyVars (unifyWith fuel) a b
  | fuel + 1, var name, other => unifyVar (unifyWith fuel) name other
  | fuel + 1, other, var name => unifyVar (unifyWith fuel) name other
  | fuel + 1, a, b => if a = b then return a else unifyShapes (unifyWith fuel) a b

/-- The number of constructors in the bound types. -/
def boundSize (types : Named Ty) : Nat := types.foldr (fun entry n => entry.2.size + 1 + n) 0

/-- How deep calls may be nested. When one of the types has no variables, and no bound type has any,
this is enough (`unify_finishes`). That it is enough for two types with variables as long as no
bindings run in a circle is expected of its size and not proved. -/
def unifyFuel (a b : Ty) (s : Bindings) : Nat :=
  Nat.pow (2 * (a.size + b.size + boundSize s.types) + 3) 2

/-- The most specific type compatible with both. -/
def unify (a b : Ty) : Unify Ty := fun s => unifyWith (unifyFuel a b s) a b s

/-- The outcome of a unification that starts without bindings, with the notices it gave. -/
def unifyFresh (a b : Ty) : Except TypeError Ty × List Notice :=
  match unify a b .empty with
  | .ok ty s => (.ok ty, s.notices)
  | .error e s => (.error e, s.notices)

end Ty

end ChannelRules
