import ChannelRules.Named

/-!
# Documents

The data format in which programs, schemas and settings are stored. Integers and other numbers are
kept apart, because some fields take integers only; an integer that needs more than sixty-four
bits, and a negative zero, is no integer in this sense.
-/

namespace ChannelRules

/-- A document. -/
inductive Json where
  | null
  | bool (b : Bool)
  | int (n : Int)
  | real (x : Float)
  | string (s : String)
  | array (items : List Json)
  /-- An object with its members, in increasing order of name. -/
  | object (members : List (String × Json))
  /-- A document that is written correctly but cannot be held: a number out of range, a text with
  half of a surrogate pair, or containers nested too deep. It can only be passed over. -/
  | unreadable
  deriving Inhabited

namespace Json

def record (members : List (String × Json)) : Json := object (Named.ofEntries members)

def strings (items : List String) : Json := array (items.map string)

/-- Absent values are `null`. -/
def ofOption {α : Type} (f : α → Json) : Option α → Json
  | some a => f a
  | none => null

/-- Members are looked up by name; other documents have none. -/
def get? : Json → String → Option Json
  | object members, name => Named.get? members name
  | _, _ => none

/-- An object with one member added. -/
def add (json : Json) (name : String) (value : Json) : Json :=
  match json with
  | object members => object (Named.insert members name value)
  | other => other

end Json

end ChannelRules
