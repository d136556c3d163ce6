import ChannelRules.Noted
import ChannelRules.Calendar.Instant

/-!
# Values

Literals of programs, which are also the values that running code works on. When code runs,
measures are plain numbers in their base unit: `toRuntime` and `fromRuntime` go between the two
forms.
-/

namespace ChannelRules

open Calendar (Instant)

/-- The values of the language. -/
inductive Value where
  /-- A name in the place of a literal. -/
  | varRef (name : String)
  | boolean (b : Bool)
  | string (s : String)
  | measure (amount : Float) (unit : String)
  | number (x : Float)
  | location (longitude latitude : Float) (display : Option String)
  | date (t : Instant)
  | time (hour minute : Nat)
  | entity (value tag : String) (display : Option String)
  | enum (entry : String)
  /-- An object with its fields, in increasing order of name. -/
  | object (fields : List (String × Value))
  | array (items : List Value)
  | feed (id : String)
  deriving Inhabited

namespace Value

/-- An entity that is shown by its value. -/
def plainEntity (value tag : String) : Value := entity value tag none

/-- The truth value of a boolean. -/
def asBool : Value → Option Bool
  | boolean b => some b
  | _ => none

/-- The amount of a number or a measure. -/
def asNumber : Value → Option Float
  | number x => some x
  | measure amount _ => some amount
  | _ => none

/-- The text of a string, an enumeration entry, a feed or an entity. -/
def asText : Value → Option String
  | string s => some s
  | enum entry => some entry
  | feed id => some id
  | entity value _ _ => some value
  | _ => none

mutual

/-- The type of a literal. The type of an array is what the types of its items agree with. -/
def typeOf : Value → Noted TypeError Ty
  | varRef _ => pure .any
  | boolean _ => pure .boolean
  | string _ => pure .string
  | measure _ unit => .ofExcept (Ty.ofUnit unit)
  | number _ => pure .number
  | location _ _ _ => pure .location
  | date _ => pure .date
  | time _ _ => pure .time
  | entity _ tag _ => pure (.entity tag)
  | enum entry => pure (.enum [entry])
  | object fields => do
    let types ← typeOfFields fields
    return .object types
  | array items => do
    let elem ← typeOfItems .any items
    return .array elem
  | feed _ => pure (.entity "tt:feed")

/-- What a type and the types of some literals agree with. -/
def typeOfItems : Ty → List Value → Noted TypeError Ty
  | elem, [] => pure elem
  | elem, item :: rest => do
    let ty ← typeOf item
    let joined ← Ty.agree elem ty
    typeOfItems joined rest

def typeOfFields : List (String × Value) → Noted TypeError (List (String × Ty))
  | [] => pure []
  | (name, value) :: rest => do
    let ty ← typeOf value
    let types ← typeOfFields rest
    return (name, ty) :: types

end

mutual

/-- Convert all measures in a literal to their base units. -/
def normalize : Value → Except TypeError Value
  | measure amount unit =>
    match MeasureUnit.find? unit with
    | some known => .ok (measure (known.conversion.toBase amount) known.base)
    | none => .error (.unknownUnit unit)
  | array items => do
    let items ← normalizeItems items
    return array items
  | object fields => do
    let fields ← normalizeFields fields
    return object fields
  | other => .ok other

def normalizeItems : List Value → Except TypeError (List Value)
  | [] => .ok []
  | item :: rest => do
    let item ← normalize item
    let rest ← normalizeItems rest
    return item :: rest

def normalizeFields : List (String × Value) → Except TypeError (List (String × Value))
  | [] => .ok []
  | (name, value) :: rest => do
    let value ← normalize value
    let rest ← normalizeFields rest
    return (name, value) :: rest

end

mutual

/-- The form of a literal that running code works on: measures are their amounts. -/
def toRuntime : Value → Value
  | measure amount _ => number amount
  | array items => array (toRuntimeItems items)
  | object fields => object (toRuntimeFields fields)
  | other => other

def toRuntimeItems : List Value → List Value
  | [] => []
  | item :: rest => toRuntime item :: toRuntimeItems rest

def toRuntimeFields : List (String × Value) → List (String × Value)
  | [] => []
  | (name, value) :: rest => (name, toRuntime value) :: toRuntimeFields rest

end

mutual

/-- The literal of a type that a runtime value stands for: amounts of a known unit are measures,
also inside arrays. -/
def fromRuntime : Value → Ty → Value
  | number x, .measure unit => if unit = "" then number x else measure x unit
  | array items, .array elem => array (fromRuntimeItems items elem)
  | value, _ => value

def fromRuntimeItems : List Value → Ty → List Value
  | [], _ => []
  | item :: rest, elem => fromRuntime item elem :: fromRuntimeItems rest elem

end

end Value

end ChannelRules
