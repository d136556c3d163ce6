import ChannelRules.Ty.Printer
import ChannelRules.Text.Alphanumeric
import ChannelRules.Text.Blank

/-!
# Reading types

A recursive descent over the characters of a text, where white space may stand before every token.
A name is a maximal run of letters, digits and underscores. The argument of `Measure`, `Entity` and
`Enum` is raw text up to the next closing parenthesis. All failures name the whole text, except
that an unknown unit is reported as soon as it is read.
-/

namespace ChannelRules

namespace Ty

/-- Why reading stops. -/
inductive Fault where
  | malformed
  | unknownUnit (unit : String)
  deriving DecidableEq

/-- The characters that names are made of. -/
def isNameChar (c : Char) : Bool := Text.isAlphanumeric c || c == '_'

def readMark (mark : Char) (cs : List Char) : Except Fault (List Char) :=
  match Text.trimStart cs with
  | c :: rest => if c = mark then .ok rest else .error .malformed
  | [] => .error .malformed

def readName (cs : List Char) : Except Fault (String × List Char) :=
  let cs := Text.trimStart cs
  match cs.takeWhile isNameChar with
  | [] => .error .malformed
  | name => .ok (String.ofList name, cs.dropWhile isNameChar)

/-- Read the raw argument of a type, without the white space at its ends. -/
def readRaw (cs : List Char) : Except Fault (List Char × List Char) := do
  let rest ← readMark '(' cs
  match rest.dropWhile (· != ')') with
  | [] => .error .malformed
  | _ :: after => .ok (Text.trim (rest.takeWhile (· != ')')), after)

/-- The parts of a text between commas; at least one. -/
def splitCommas : List Char → List (List Char)
  | [] => [[]]
  | c :: cs =>
    match splitCommas cs with
    | [] => [[c]]
    | part :: parts => if c = ',' then [] :: part :: parts else (c :: part) :: parts

/-- The types that are written as one name, with the shorthands for common entities. -/
def plainNames : List (String × Ty) :=
  [ ("Any", any), ("Boolean", boolean), ("Bool", boolean), ("String", string),
    ("Number", number), ("Date", date), ("Time", time), ("Location", location),
    ("Module", module), ("EmailAddress", entity "tt:email_address"),
    ("PhoneNumber", entity "tt:phone_number"), ("Picture", entity "tt:picture"),
    ("URL", entity "tt:url"), ("Username", entity "tt:username"),
    ("Hashtag", entity "tt:hashtag") ]

def readMeasure (cs : List Char) : Except Fault (Ty × List Char) := do
  let (raw, rest) ← readRaw cs
  match ofUnit (String.ofList raw) with
  | .ok ty => .ok (ty, rest)
  | .error _ => .error (.unknownUnit (String.ofList raw))

def readEntity (cs : List Char) : Except Fault (Ty × List Char) := do
  let (raw, rest) ← readRaw cs
  .ok (entity (String.ofList raw), rest)

/-- Read the entries of an enumeration. -/
def readEnum (cs : List Char) : Except Fault (Ty × List Char) := do
  let (raw, rest) ← readRaw cs
  .ok (enum ((splitCommas raw).map fun part => String.ofList (Text.trim part)), rest)

mutual

/-- Read one type. Each level of nesting and each item of a list takes one unit of fuel. -/
def readType : Nat → List Char → Except Fault (Ty × List Char)
  | 0, _ => .error .malformed
  | fuel + 1, cs =>
    match Text.trimStart cs with
    | '(' :: rest => do
      let (items, rest) ← readItems fuel rest
      .ok (tuple items, rest)
    | cs => do
      let (head, rest) ← readName cs
      match plainNames.lookup head with
      | some ty => .ok (ty, rest)
      | none => readApplied fuel head rest

/-- Read what follows the head of a type that takes arguments. -/
def readApplied : Nat → String → List Char → Except Fault (Ty × List Char)
  | 0, _, _ => .error .malformed
  | fuel + 1, head, cs =>
    if head = "Measure" then readMeasure cs
    else if head = "Entity" then readEntity cs
    else if head = "Enum" then readEnum cs
    else if head = "Array" then do
      let cs ← readMark '(' cs
      let (elem, cs) ← readType fuel cs
      let cs ← readMark ')' cs
      .ok (array elem, cs)
    else if head = "Map" then do
      let cs ← readMark '(' cs
      let (key, cs) ← readType fuel cs
      let cs ← readMark ',' cs
      let (value, cs) ← readType fuel cs
      let cs ← readMark ')' cs
      .ok (map key value, cs)
    else if head = "Tuple" then
      match Text.trimStart cs with
      | '(' :: rest => do
        let (items, rest) ← readItems fuel rest
        .ok (tuple items, rest)
      | cs => .ok (openTuple, cs)
    else if head = "Object" then
      match Text.trimStart cs with
      | '{' :: rest => do
        let (fields, rest) ← readFields fuel rest
        .ok (object (Named.ofEntries fields), rest)
      | cs => .ok (openObject, cs)
    else .error .malformed

/-- Read the items of a tuple, the opening parenthesis being read. -/
def readItems : Nat → List Char → Except Fault (List Ty × List Char)
  | 0, _ => .error .malformed
  | fuel + 1, cs =>
    match Text.trimStart cs with
    | ')' :: rest => .ok ([], rest)
    | cs => readMoreItems fuel cs

/-- Read one item of a tuple and the ones after it. -/
def readMoreItems : Nat → List Char → Except Fault (List Ty × List Char)
  | 0, _ => .error .malformed
  | fuel + 1, cs => do
    let (item, cs) ← readType fuel cs
    match Text.trimStart cs with
    | ',' :: rest => do
      let (items, rest) ← readMoreItems fuel rest
      .ok (item :: items, rest)
    | ')' :: rest => .ok ([item], rest)
    | _ => .error .malformed

/-- Read the fields of an object, the opening brace being read. -/
def readFields : Nat → List Char → Except Fault (List (String × Ty) × List Char)
  | 0, _ => .error .malformed
  | fuel + 1, cs =>
    match Text.trimStart cs with
    | '}' :: rest => .ok ([], rest)
    | cs => readMoreFields fuel cs

/-- Read one field of an object and the ones after it. -/
def readMoreFields : Nat → List Char → Except Fault (List (String × Ty) × List Char)
  | 0, _ => .error .malformed
  | fuel + 1, cs => do
    let (name, cs) ← readName cs
    let cs ← readMark ':' cs
    let (field, cs) ← readType fuel cs
    match Text.trimStart cs with
    | ',' :: rest => do
      let (fields, rest) ← readMoreFields fuel rest
      .ok ((name, field) :: fields, rest)
    | '}' :: rest => .ok ([(name, field)], rest)
    | _ => .error .malformed

end

/-- Fuel for a text: reading a character takes at most three units. -/
def fuelFor (cs : List Char) : Nat := 3 * cs.length + 3

/-- Read a text that holds one type and nothing else. -/
def ofChars (cs : List Char) : Except Fault Ty := do
  let (ty, rest) ← readType (fuelFor cs) cs
  if (Text.trimStart rest).isEmpty then .ok ty else .error .malformed

def ofText (text : String) : Except TypeError Ty :=
  match ofChars text.toList with
  | .ok ty => .ok ty
  | .error .malformed => .error (.invalidText text)
  | .error (.unknownUnit unit) => .error (.unknownUnit unit)

end Ty

end ChannelRules
