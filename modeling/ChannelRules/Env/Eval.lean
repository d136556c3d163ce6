import ChannelRules.Value.Text

/-!
# Evaluation

Running code reads and writes a world that all environments share: the keyword cells, and what
chance and the clock have in store. A failure ends a run but undoes nothing.
-/

namespace ChannelRules

open Calendar (Instant)

/-- Why running code stops. -/
inductive RuntimeError where
  | unknownVariable (name : String)
  | unknownKeyword (cell : String)
  | readOnlyKeyword (cell : String)
  | missingEventProperty (channel : String) (index : Nat)
  | noEvent
  | typeMismatch (expected : String) (found : Value)
  | invalidPattern (reason : String)
  | missingProperty (name : String)
  /-- A builtin function cannot give a result. -/
  | native (function reason : String)
  | format (reason : String)

def RuntimeError.message : RuntimeError → String
  | unknownVariable name => "Unknown variable: " ++ name
  | unknownKeyword cell => "Unknown keyword: " ++ cell
  | readOnlyKeyword cell => "Keyword " ++ cell ++ " is read-only in this activation"
  | missingEventProperty channel index =>
    "Event from " ++ channel ++ " has no property at index " ++ toString index
  | noEvent => "No event is available in this activation"
  | typeMismatch expected found =>
    "Type mismatch: expected " ++ expected ++ ", found " ++ found.inspect
  | invalidPattern reason => "Invalid regular expression: " ++ reason
  | missingProperty name => "Missing property: " ++ name
  | native function reason => function ++ " failed: " ++ reason
  | format reason => "Format error: " ++ reason

/-- What chance and the clock bring to one draw. -/
structure Chance where
  now : Instant
  /-- A number from 0 up to, but not including, 1. -/
  random : Float
  /-- The place of a chosen item, counted round the list. -/
  pick : Nat

/-- What environments share. -/
structure World where
  /-- The values of the keywords. -/
  cells : Named Value
  /-- What each draw brings, by its number. -/
  draws : Nat → Chance
  /-- How many draws there have been. -/
  drawn : Nat

/-- Computations that read and write the world and stop at the first failure. -/
abbrev Eval := EStateM RuntimeError World

namespace Eval

variable {α : Type}

/-- An outcome that does not depend on the world. -/
def ofExcept (x : Except RuntimeError α) : Eval α := fun world =>
  match x with
  | .ok a => .ok a world
  | .error e => .error e world

/-- The outcome of a computation, be it a failure. -/
def attempt (x : Eval α) : StateM World (Except RuntimeError α) := fun world =>
  match x world with
  | .ok a world => (.ok a, world)
  | .error e world => (.error e, world)

/-- What the next draw brings. -/
def draw : Eval Chance := fun world =>
  .ok (world.draws world.drawn) { world with drawn := world.drawn + 1 }

def readKeyword (cell : String) : Eval Value := fun world =>
  match Named.get? world.cells cell with
  | some value => .ok value world
  | none => .error (.unknownKeyword cell) world

/-- Set a keyword cell. -/
def writeCell (cell : String) (value : Value) : Eval PUnit := fun world =>
  .ok ⟨⟩ { world with cells := Named.insert world.cells cell value }

end Eval

end ChannelRules
