import ChannelRules.Json.Basic
import ChannelRules.Ty.Reader

/-!
# Fields and variants of documents

How the parts of a record and the alternatives of a choice are stored. A record is an object;
members it does not know are ignored. An alternative with content is an object with one member,
named for the alternative; an alternative without content is that name, or such an object that holds
`null`.
-/

namespace ChannelRules

namespace Json

mutual

/-- How deep a document is nested. -/
def depth : Json → Nat
  | array items => depthItems items + 1
  | object members => depthMembers members + 1
  | _ => 1

def depthItems : List Json → Nat
  | [] => 0
  | item :: rest => max (depth item) (depthItems rest)

def depthMembers : List (String × Json) → Nat
  | [] => 0
  | (_, value) :: rest => max (depth value) (depthMembers rest)

end

def bool? : Json → Option Bool
  | bool b => some b
  | _ => none

def string? : Json → Option String
  | string s => some s
  | _ => none

def items? : Json → Option (List Json)
  | array items => some items
  | _ => none

def members? : Json → Option (Named Json)
  | object members => some members
  | _ => none

/-- Any number. -/
def float? : Json → Option Float
  | int n => some (Float.ofInt n)
  | real x => some x
  | _ => none

/-- An integer between two bounds. -/
def intBetween? (low high : Int) : Json → Option Int
  | int n => if low ≤ n ∧ n ≤ high then some n else none
  | _ => none

def natBelow? (bound : Nat) (json : Json) : Option Nat :=
  (json.intBetween? 0 (bound - 1)).map Int.toNat

/-- An array, item by item. -/
def listOf? {α : Type} (decode : Json → Option α) (json : Json) : Option (List α) := do
  let items ← json.items?
  items.mapM decode

/-- An object as a map, member by member. -/
def mapOf? {α : Type} (decode : Json → Option α) (json : Json) : Option (Named α) := do
  let members ← json.members?
  members.mapM fun (name, value) => (decode value).map fun a => (name, a)

/-- A member that has to be there. -/
def field? {α : Type} (json : Json) (name : String) (decode : Json → Option α) : Option α :=
  (json.get? name).bind decode

/-- A member with a value for its absence. -/
def fieldOr? {α : Type} (json : Json) (name : String) (absent : α) (decode : Json → Option α) :
    Option α :=
  match json.get? name with
  | some value => decode value
  | none => some absent

/-- A text that may be missing or `null`. -/
def optionalText? (json : Json) (name : String) : Option (Option String) :=
  match json.get? name with
  | none => some none
  | some null => some none
  | some value => (value.string?).map some

/-- The alternative a document chooses, with its content. -/
def variant? : Json → Option (String × Option Json)
  | string tag => some (tag, none)
  | object [(tag, content)] => some (tag, some content)
  | _ => none

/-- The absence of content. -/
def isBare : Option Json → Bool
  | none => true
  | some null => true
  | _ => false

/-- A type in its written form. -/
def type? (json : Json) : Option Ty :=
  (json.string?).bind fun text => (Ty.ofText text).toOption

end Json

end ChannelRules
