import ChannelRules.Json.Basic

/-!
# Reading documents

A strict reader: no text may follow the document, strings hold no control characters, and numbers
have no leading zeros. Strings with half of a surrogate pair, numbers that are not finite, and
containers nested more than 127 deep are read but cannot be used, and neither can an object with
such a string for a name.
-/

namespace ChannelRules

namespace Json

/-- The white space between tokens. -/
def isSpace (c : Char) : Bool := c == ' ' || c == '\n' || c == '\t' || c == '\r'

def skipSpace (cs : List Char) : List Char := cs.dropWhile isSpace

/-- The value of a hexadecimal digit. -/
def hexDigit? (c : Char) : Option Nat :=
  if '0' ≤ c ∧ c ≤ '9' then some (c.toNat - 48)
  else if 'a' ≤ c ∧ c ≤ 'f' then some (c.toNat - 87)
  else if 'A' ≤ c ∧ c ≤ 'F' then some (c.toNat - 55)
  else none

/-- The value of four hexadecimal digits. -/
def hex4? (a b c d : Char) : Option Nat := do
  let a ← hexDigit? a
  let b ← hexDigit? b
  let c ← hexDigit? c
  let d ← hexDigit? d
  return ((a * 16 + b) * 16 + c) * 16 + d

/-- The character that a short escape stands for. -/
def escaped? : Char → Option Char
  | '"' => some '"'
  | '\\' => some '\\'
  | '/' => some '/'
  | 'b' => some '\x08'
  | 'f' => some '\x0c'
  | 'n' => some '\n'
  | 'r' => some '\r'
  | 't' => some '\t'
  | _ => none

/-- The code units of the rest of a string whose opening quote is read. -/
def readUnits : List Char → Option (List Nat × List Char)
  | [] => none
  | '"' :: rest => some ([], rest)
  | '\\' :: 'u' :: a :: b :: c :: d :: rest =>
    match hex4? a b c d with
    | some n => (readUnits rest).map fun (units, rest) => (n :: units, rest)
    | none => none
  | '\\' :: e :: rest =>
    match escaped? e with
    | some c => (readUnits rest).map fun (units, rest) => (c.toNat :: units, rest)
    | none => none
  | c :: rest =>
    if c.toNat < 32 ∨ c = '\\' then none
    else (readUnits rest).map fun (units, rest) => (c.toNat :: units, rest)

/-- The characters of code units; a half of a surrogate pair is none. -/
def charsOfUnits : List Nat → Option (List Char)
  | [] => some []
  | n :: rest =>
    if n < 0xd800 ∨ 0xdfff < n then (charsOfUnits rest).map (Char.ofNat n :: ·)
    else
      match rest with
      | m :: rest =>
        if n < 0xdc00 ∧ 0xdc00 ≤ m ∧ m ≤ 0xdfff then
          (charsOfUnits rest).map
            (Char.ofNat (0x10000 + (n - 0xd800) * 0x400 + (m - 0xdc00)) :: ·)
        else none
      | [] => none

/-- The rest of a string whose opening quote is read, if its characters can be held. -/
def readString (cs : List Char) : Option (Option String × List Char) :=
  (readUnits cs).map fun (units, rest) => ((charsOfUnits units).map String.ofList, rest)

/-- The value of a run of digits. -/
def decimal (ds : List Char) : Nat := ds.foldl (fun n c => 10 * n + (c.toNat - 48)) 0

/-- A run of digits and what follows it. -/
def digits (cs : List Char) : List Char × List Char :=
  (cs.takeWhile Char.isDigit, cs.dropWhile Char.isDigit)

/-- The double nearest to `mantissa * 10 ^ exponent`, if it is finite. Exponents beyond the range
of doubles are not computed with. -/
def scaled? (mantissa : Nat) (exponent : Int) : Option Float :=
  let width : Int := (Nat.toDigits 10 mantissa).length
  if mantissa = 0 ∨ exponent + width < -400 then some 0.0
  else if 400 < exponent + width then none
  else
    let x := if exponent < 0 then Float.ofScientific mantissa true exponent.natAbs
      else Float.ofScientific mantissa false exponent.natAbs
    if x.isFinite then some x else none

/-- A number without fraction and exponent. -/
def integer (negative : Bool) (n : Nat) : Option Json :=
  if negative then
    if n = 0 then some (real (-0.0))
    else if n ≤ Nat.pow 2 63 then some (int (-n))
    else (scaled? n 0).map fun x => real (-x)
  else if n < Nat.pow 2 64 then some (int n)
  else (scaled? n 0).map real

/-- The fraction of a number: its digits. -/
def readFraction : List Char → Option (List Char × List Char)
  | '.' :: rest =>
    match digits rest with
    | ([], _) => none
    | (ds, rest) => some (ds, rest)
  | cs => some ([], cs)

/-- The exponent of a number, if it has one. -/
def readExponent (cs : List Char) : Option (Option Int × List Char) :=
  let after (sign : Int) (cs : List Char) : Option (Option Int × List Char) :=
    match digits cs with
    | ([], _) => none
    | (ds, rest) => some (some (sign * decimal ds), rest)
  match cs with
  | 'e' :: '+' :: rest | 'E' :: '+' :: rest => after 1 rest
  | 'e' :: '-' :: rest | 'E' :: '-' :: rest => after (-1) rest
  | 'e' :: rest | 'E' :: rest => after 1 rest
  | cs => some (none, cs)

/-- A number, after its sign. -/
def readMagnitude (negative : Bool) (cs : List Char) : Option (Json × List Char) := do
  let (whole, rest) ← match digits cs with
    | ([], _) => none
    | ('0' :: _ :: _, _) => none
    | (ds, rest) => some (ds, rest)
  let (fraction, rest) ← readFraction rest
  let (exponent, rest) ← readExponent rest
  match fraction, exponent with
  | [], none => return ((integer negative (decimal whole)).getD unreadable, rest)
  | _, _ =>
    match scaled? (decimal (whole ++ fraction)) (exponent.getD 0 - fraction.length) with
    | some x => return (real (if negative then -x else x), rest)
    | none => return (unreadable, rest)

def readNumber : List Char → Option (Json × List Char)
  | '-' :: rest => readMagnitude true rest
  | cs => readMagnitude false cs

def readWord (word : List Char) (json : Json) (cs : List Char) : Option (Json × List Char) :=
  if cs.take word.length = word then some (json, cs.drop word.length) else none

/-- An object with the given members, if all have a name. -/
def ofMembers (members : List (Option String × Json)) : Json :=
  match members.mapM fun (name, value) => name.map (·, value) with
  | some members => record members
  | none => unreadable

mutual

/-- A document with `depth` more levels of containers. -/
def readValue : Nat → Nat → List Char → Option (Json × List Char)
  | 0, _, _ => none
  | fuel + 1, depth, cs =>
    match skipSpace cs with
    | '"' :: rest => do
      let (s, rest) ← readString rest
      return ((s.map string).getD unreadable, rest)
    | '[' :: rest => do
      let (items, rest) ← readArray fuel (depth - 1) rest
      return (if depth = 0 then unreadable else array items, rest)
    | '{' :: rest => do
      let (members, rest) ← readObject fuel (depth - 1) rest
      return (if depth = 0 then unreadable else ofMembers members, rest)
    | 'n' :: rest => readWord "null".toList null ('n' :: rest)
    | 't' :: rest => readWord "true".toList (bool true) ('t' :: rest)
    | 'f' :: rest => readWord "false".toList (bool false) ('f' :: rest)
    | cs => readNumber cs

/-- An array whose opening bracket is read. -/
def readArray : Nat → Nat → List Char → Option (List Json × List Char)
  | 0, _, _ => none
  | fuel + 1, depth, cs =>
    match skipSpace cs with
    | ']' :: rest => some ([], rest)
    | cs => readItems fuel depth cs

def readItems : Nat → Nat → List Char → Option (List Json × List Char)
  | 0, _, _ => none
  | fuel + 1, depth, cs => do
    let (item, rest) ← readValue fuel depth cs
    match skipSpace rest with
    | ',' :: rest => do
      let (items, rest) ← readItems fuel depth rest
      return (item :: items, rest)
    | ']' :: rest => return ([item], rest)
    | _ => none

/-- An object whose opening brace is read. -/
def readObject : Nat → Nat → List Char → Option (List (Option String × Json) × List Char)
  | 0, _, _ => none
  | fuel + 1, depth, cs =>
    match skipSpace cs with
    | '}' :: rest => some ([], rest)
    | cs => readMembers fuel depth cs

def readMembers : Nat → Nat → List Char → Option (List (Option String × Json) × List Char)
  | 0, _, _ => none
  | fuel + 1, depth, cs => do
    let (name, rest) ← match skipSpace cs with
      | '"' :: rest => readString rest
      | _ => none
    let rest ← match skipSpace rest with
      | ':' :: rest => some rest
      | _ => none
    let (value, rest) ← readValue fuel depth rest
    match skipSpace rest with
    | ',' :: rest => do
      let (members, rest) ← readMembers fuel depth rest
      return ((name, value) :: members, rest)
    | '}' :: rest => return ([(name, value)], rest)
    | _ => none

end

/-- Read a text that holds one document. -/
def ofText? (text : String) : Option Json := do
  let cs := text.toList
  let (json, rest) ← readValue (3 * cs.length + 3) 127 cs
  if (skipSpace rest).isEmpty then some json else none

end Json

end ChannelRules
