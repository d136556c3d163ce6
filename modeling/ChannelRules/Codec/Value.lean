import ChannelRules.Codec.Fields
import ChannelRules.Value.Text

/-!
# Stored values and types

The stored form of values and the structural form of types. Amounts are written by a function that
the caller chooses.
-/

namespace ChannelRules

open Calendar (Instant)

namespace Value

/-- Read a value that is nested at most so deep. -/
def decodeWith : Nat → Json → Option Value
  | 0, _ => none
  | fuel + 1, json => do
    let (tag, content) ← json.variant?
    let body ← content
    match tag with
    | "VarRef" => (body.string?).map varRef
    | "Boolean" => (body.bool?).map boolean
    | "String" => (body.string?).map string
    | "Number" => (body.float?).map number
    | "Measure" => do
      let amount ← body.field? "value" Json.float?
      let unit ← body.field? "unit" Json.string?
      return measure amount unit
    | "Location" => do
      let x ← body.field? "x" Json.float?
      let y ← body.field? "y" Json.float?
      let display ← body.optionalText? "display"
      return location x y display
    | "Date" => do
      let text ← body.string?
      let t ← Instant.ofText? text
      return date t
    | "Time" => do
      let hour ← body.field? "hour" (Json.natBelow? (Nat.pow 2 32))
      let minute ← body.field? "minute" (Json.natBelow? (Nat.pow 2 32))
      return time hour minute
    | "Entity" => do
      let value ← body.field? "value" Json.string?
      let tag ← body.field? "tag" Json.string?
      let display ← body.optionalText? "display"
      return entity value tag display
    | "Enum" => (body.string?).map enum
    | "Object" => (body.mapOf? (decodeWith fuel)).map object
    | "Array" => (body.listOf? (decodeWith fuel)).map array
    | "Feed" => (body.string?).map feed
    | _ => none

def decode (json : Json) : Option Value := decodeWith json.depth json

def tagged (tag : String) (content : Json) : Json := .object [(tag, content)]

mutual

/-- The stored form of a value. -/
def encode (amount : Float → Json) : Value → Json
  | varRef name => tagged "VarRef" (.string name)
  | boolean b => tagged "Boolean" (.bool b)
  | string s => tagged "String" (.string s)
  | measure x unit => tagged "Measure" (.record [("value", amount x), ("unit", .string unit)])
  | number x => tagged "Number" (amount x)
  | location x y display =>
    tagged "Location"
      (.record [("x", amount x), ("y", amount y), ("display", Json.ofOption .string display)])
  | date t => tagged "Date" (.string t.zuluText)
  | time hour minute => tagged "Time" (.record [("hour", .int hour), ("minute", .int minute)])
  | entity value tag display =>
    tagged "Entity" (.record [("value", .string value), ("tag", .string tag),
      ("display", Json.ofOption .string display)])
  | enum entry => tagged "Enum" (.string entry)
  | object fields => tagged "Object" (.object (encodeFields amount fields))
  | array items => tagged "Array" (.array (encodeItems amount items))
  | feed id => tagged "Feed" (.string id)

def encodeItems (amount : Float → Json) : List Value → List Json
  | [] => []
  | item :: rest => encode amount item :: encodeItems amount rest

def encodeFields (amount : Float → Json) : List (String × Value) → List (String × Json)
  | [] => []
  | (name, value) :: rest => (name, encode amount value) :: encodeFields amount rest

end

end Value

namespace Ty

mutual

/-- The structural form of a type. -/
def form : Ty → Json
  | entity tag => Value.tagged "Entity" (.string tag)
  | measure unit => Value.tagged "Measure" (.string unit)
  | enum entries => Value.tagged "Enum" (.strings entries)
  | array elem => Value.tagged "Array" (form elem)
  | map key value => Value.tagged "Map" (.array [form key, form value])
  | openTuple => Value.tagged "Tuple" .null
  | tuple items => Value.tagged "Tuple" (.array (formItems items))
  | openObject => Value.tagged "Object" .null
  | object fields => Value.tagged "Object" (.object (formFields fields))
  | var name => Value.tagged "Var" (.string name)
  | plain => .string plain.text

def formItems : List Ty → List Json
  | [] => []
  | item :: rest => form item :: formItems rest

def formFields : List (String × Ty) → List (String × Json)
  | [] => []
  | (name, field) :: rest => (name, form field) :: formFields rest

end

/-- Why a type in structural form cannot be read. -/
inductive FormError where
  | shape
  | text (error : TypeError)

def ofForms (decode : Json → Except FormError Ty) (json : Json) : Except FormError (List Ty) :=
  match json with
  | .array items => items.mapM decode
  | _ => .error .shape

/-- Read a type that is nested at most so deep: its written form, or its structural form with
written forms inside. -/
def ofFormWith : Nat → Json → Except FormError Ty
  | 0, _ => .error .shape
  | _ + 1, .string text => (ofText text).mapError FormError.text
  | _ + 1, .object [("Var", .string name)] => .ok (var name)
  | _ + 1, .object [("Entity", .string tag)] => .ok (entity tag)
  | _ + 1, .object [("Measure", .string unit)] => .ok (measure unit)
  | _ + 1, .object [("Enum", entries)] =>
    match entries.listOf? Json.string? with
    | some entries => .ok (enum entries)
    | none => .error .shape
  | fuel + 1, .object [("Array", elem)] => (ofFormWith fuel elem).map array
  | fuel + 1, .object [("Map", .array [key, value])] => do
    let key ← ofFormWith fuel key
    let value ← ofFormWith fuel value
    return map key value
  | _ + 1, .object [("Tuple", .null)] => .ok openTuple
  | fuel + 1, .object [("Tuple", items)] => (ofForms (ofFormWith fuel) items).map tuple
  | _ + 1, .object [("Object", .null)] => .ok openObject
  | fuel + 1, .object [("Object", .object fields)] => do
    let fields ← fields.mapM fun (name, field) => (ofFormWith fuel field).map fun ty => (name, ty)
    return object fields
  | _ + 1, _ => .error .shape

/-- Read a type in written or structural form. -/
def ofForm (json : Json) : Except FormError Ty := ofFormWith json.depth json

end Ty

end ChannelRules
