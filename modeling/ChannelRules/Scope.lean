import ChannelRules.Ty.Basic

/-!
# Names in scope

The names that a part of a program can refer to, in layers. The outermost layer holds parameters,
keywords and compute modules; each rule has a layer of its own for the names it introduces. A name
is declared once: no declaration hides another one. The outermost layer is never left.
-/

namespace ChannelRules

/-- What a name stands for. -/
inductive NameKind where
  | param
  /-- A keyword, with the name of its cell. -/
  | keyword (cell : String)
  | module
  /-- A name that a rule introduces. -/
  | introduced
  deriving DecidableEq

/-- A declared name. -/
structure Entry where
  ty : Ty
  kind : NameKind
  deriving DecidableEq

/-- The names in scope: the innermost layer, and the layers around it from the inside out. -/
structure Scope where
  inner : Named Entry
  outer : List (Named Entry)
  deriving DecidableEq

namespace Scope

/-- One layer without names. -/
def empty : Scope := ⟨[], []⟩

/-- All layers, from the inside out. -/
def layers (scope : Scope) : List (Named Entry) := scope.inner :: scope.outer

def enter (scope : Scope) : Scope := ⟨[], scope.layers⟩

/-- Leave the innermost layer, unless it is the only one. -/
def exit (scope : Scope) : Scope :=
  match scope.outer with
  | [] => scope
  | layer :: rest => ⟨layer, rest⟩

/-- A name, looked up from the inside out. -/
def get? (scope : Scope) (name : String) : Option Entry :=
  scope.layers.findSome? fun layer => Named.get? layer name

def has (scope : Scope) (name : String) : Bool := (scope.get? name).isSome

/-- Declare a name in the innermost layer; `none` when it is already in scope. -/
def declare? (scope : Scope) (name : String) (entry : Entry) : Option Scope :=
  if scope.has name then none
  else some { scope with inner := Named.insert scope.inner name entry }

/-- Replace the type of a name in the first layer that has it. -/
def refineLayers (name : String) (ty : Ty) : List (Named Entry) → List (Named Entry)
  | [] => []
  | layer :: rest =>
    match Named.get? layer name with
    | some entry => Named.insert layer name { entry with ty := ty } :: rest
    | none => layer :: refineLayers name ty rest

/-- Replace the type of a name, in the layer that declares it. -/
def refine (scope : Scope) (name : String) (ty : Ty) : Scope :=
  match Named.get? scope.inner name with
  | some entry => { scope with inner := Named.insert scope.inner name { entry with ty := ty } }
  | none => { scope with outer := refineLayers name ty scope.outer }

def depth (scope : Scope) : Nat := scope.layers.length

/-- The names of the innermost layer. -/
def innerNames (scope : Scope) : List String := Named.names scope.inner

theorem depth_pos (scope : Scope) : 0 < scope.depth := by simp [depth, layers]

theorem get?_enter (scope : Scope) (name : String) : scope.enter.get? name = scope.get? name := by
  simp [get?, enter, layers, List.findSome?_cons]

theorem declare?_eq_none_iff {scope : Scope} {name : String} {entry : Entry} :
    scope.declare? name entry = none ↔ scope.has name := by
  by_cases h : scope.has name <;> simp [declare?, h]

end Scope

end ChannelRules
