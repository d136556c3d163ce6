import ChannelRules.Env.Format
import ChannelRules.Value.Compare
import ChannelRules.Pattern.Engine
import ChannelRules.Text.Case

/-!
# Builtin operations

What the operators and functions of the language compute. Calculations depend on their arguments
only, and on how the engine reads patterns. Draws ask chance or the clock, each time anew. Renderings
depend on the environment.
-/

namespace ChannelRules

open Calendar (Instant Day)

/-- Results of operations. -/
abbrev Outcome := Except RuntimeError Value

/-- Operations that depend on their arguments only. -/
inductive Calculation where
  | add
  | subtract
  | multiply
  | divide
  | remainder
  | power
  | joinTexts
  | dateAdd
  | dateSubtract
  | dateDifference
  | greater
  | less
  | atLeast
  | atMost
  | equal
  | unequal
  | like
  | and
  | or
  | not
  | negate
  | matchesPattern
  | arrayContains
  | mapContains
  | distance
  | latitude
  | longitude
  | makeDate
  | makeTime
  | makeLocation
  | makeEmailAddress
  | makePhoneNumber
  | emptyMap
  | append
  | arrayRemove
  | mapRemove
  | mapInsert
  | mapLookup
  | count
  | concatArrays
  | concatTexts
  | sum
  | average
  | maximum
  | minimum
  | floor
  | ceiling
  | round
  deriving DecidableEq

/-- Operations that depend on chance or the clock. -/
inductive Draw where
  | choice
  | random
  | now
  deriving DecidableEq

/-- Operations that depend on the environment. -/
inductive Rendering where
  | valueText
  | eventText
  | measureText
  deriving DecidableEq

/-- A builtin operation. -/
inductive Native where
  | calculation (op : Calculation)
  | draw (op : Draw)
  | rendering (op : Rendering)
  deriving DecidableEq

namespace Native

/-- Whether the result is the same each time, given the arguments and the environment. -/
def isPure : Native → Bool
  | draw _ => false
  | _ => true

/-- Whether the environment is handed to the operation. -/
def takesEnv : Native → Bool
  | calculation _ => false
  | draw .choice => false
  | draw _ => true
  | rendering _ => true

/-- Whether a use with constant arguments can be replaced by its result. -/
def isFoldable (op : Native) : Bool := op.isPure && !op.takesEnv

end Native

def argument (args : List Value) (index : Nat) (function : String) : Outcome :=
  match args[index]? with
  | some value => .ok value
  | none => .error (.native function ("missing argument " ++ toString index))

def numberArgument (args : List Value) (index : Nat) (function : String) :
    Except RuntimeError Float := do
  let value ← argument args index function
  match value.asNumber with
  | some x => .ok x
  | none => .error (.typeMismatch "Number" value)

def textArgument (args : List Value) (index : Nat) (function : String) :
    Except RuntimeError String := do
  let value ← argument args index function
  match value.asText with
  | some s => .ok s
  | none => .error (.typeMismatch "String" value)

def boolArgument (args : List Value) (index : Nat) (function : String) :
    Except RuntimeError Bool := do
  let value ← argument args index function
  match value.asBool with
  | some b => .ok b
  | none => .error (.typeMismatch "Boolean" value)

def arrayArgument (args : List Value) (index : Nat) (function : String) :
    Except RuntimeError (List Value) := do
  match (← argument args index function) with
  | .array items => .ok items
  | other => .error (.typeMismatch ("Array in " ++ function) other)

def mapArgument (args : List Value) (index : Nat) (function : String) :
    Except RuntimeError (Named Value) := do
  match (← argument args index function) with
  | .object entries => .ok entries
  | other => .error (.typeMismatch ("Map in " ++ function) other)

/-- Latitude and longitude of a location. -/
def locationArgument (args : List Value) (index : Nat) (function : String) :
    Except RuntimeError (Float × Float) := do
  match (← argument args index function) with
  | .location x y _ => .ok (y, x)
  | other => .error (.typeMismatch "Location" other)

/-- Two numbers give a number. -/
def arithmetic (f : Float → Float → Float) (args : List Value) (function : String) : Outcome := do
  let x ← numberArgument args 0 function
  let y ← numberArgument args 1 function
  return .number (f x y)

/-- Two numbers give a number, the second of which must not be zero. -/
def quotient (f : Float → Float → Float) (args : List Value) (function : String) : Outcome := do
  let x ← numberArgument args 0 function
  let y ← numberArgument args 1 function
  if y == 0.0 then .error (.native function "division by zero") else return .number (f x y)

/-- Two texts, one after the other. -/
def joined (args : List Value) (function : String) : Outcome := do
  let a ← textArgument args 0 function
  let b ← textArgument args 1 function
  return .string (a ++ b)

/-- The whole milliseconds of an offset, if they fit into a duration. -/
def offsetMillis? (x : Float) : Option Int :=
  match Decimal.Binary.ofFloat? x with
  | some b => if b.floorAbs < Nat.pow 2 63 then some b.truncate else none
  | none => none

/-- A date moved by an amount of milliseconds times a sign. -/
def movedDate (args : List Value) (function : String) (sign : Float) : Outcome := do
  match (← argument args 0 function) with
  | .date t => do
    let x ← numberArgument args 1 function
    match (offsetMillis? (x * sign)).bind t.addMillis? with
    | some moved => return .date moved
    | none => .error (.native function "date out of range")
  | other => .error (.typeMismatch "Date" other)

def ordered (test : Ordering → Bool) (args : List Value) (function : String) : Outcome := do
  let a ← argument args 0 function
  let b ← argument args 1 function
  match a.compare b with
  | some o => return .boolean (test o)
  | none => .error (.native function ("cannot compare " ++ a.text ++ " and " ++ b.text))

/-- Whether a list occurs inside another one. -/
def occursIn (needle : List Char) : List Char → Bool
  | [] => needle.isEmpty
  | c :: cs => needle.isPrefixOf (c :: cs) || occursIn needle cs

def radians (x : Float) : Float := x * (3.14159265358979323846 / 180.0)

/-- The great circle distance of two places in metres. -/
def greatCircle (lat1 lon1 lat2 lon2 : Float) : Float :=
  let square (x : Float) : Float := x * x
  let h := square (radians (lat2 - lat1) / 2.0).sin +
    (radians lat1).cos * (radians lat2).cos * square (radians (lon2 - lon1) / 2.0).sin
  2.0 * 6371000.0 * h.sqrt.asin

/-- The larger of two numbers; a NaN is passed over, and of equal zeros the second is taken. -/
def larger (x y : Float) : Float :=
  if x.isNaN then y else if y.isNaN || y < x then x else y

/-- The smaller of two numbers; a NaN is passed over, and of equal zeros the second is taken. -/
def smaller (x y : Float) : Float :=
  if x.isNaN then y else if y.isNaN || x < y then x else y

def amounts : List Value → Except RuntimeError (List Float)
  | [] => .ok []
  | item :: rest =>
    match item.asNumber with
    | some x => do
      let xs ← amounts rest
      return x :: xs
    | none => .error (.typeMismatch "Number" item)

/-- The amounts in the array that is the first argument. -/
def amountsArgument (args : List Value) (function : String) : Except RuntimeError (List Float) := do
  amounts (← arrayArgument args 0 function)

/-- The sum of a list; the sum of no numbers is the negative zero. -/
def total (xs : List Float) : Float := xs.foldl (· + ·) (-0.0)

/-- Combine the amounts of a list that is not empty. -/
def combined (f : Float → Float → Float) (args : List Value) (function : String) : Outcome := do
  match (← amountsArgument args function) with
  | [] => .error (.native function "empty array")
  | x :: xs => return .number (xs.foldl f x)

def unaryNumber (f : Float → Float) (args : List Value) (function : String) : Outcome := do
  let x ← numberArgument args 0 function
  return .number (f x)

variable [PatternEngine]

/-- The pattern of a text, or why there is none. The letter `i` among the flags makes it ignore
case. -/
def buildRegex (pattern flags : String) : Except RuntimeError Regex :=
  (PatternEngine.build pattern (flags.toList.contains 'i')).mapError .invalidPattern

namespace Calculation

def run (op : Calculation) (args : List Value) : Outcome :=
  match op with
  | add => arithmetic (· + ·) args "+"
  | subtract => arithmetic (· - ·) args "-"
  | multiply => arithmetic (· * ·) args "*"
  | divide => quotient (· / ·) args "/"
  | remainder => quotient Decimal.remainder args "%"
  | power => arithmetic Float.pow args "**"
  | joinTexts => joined args "+"
  | dateAdd => movedDate args "+" 1.0
  | dateSubtract => movedDate args "-" (-1.0)
  | dateDifference => do
    let a ← argument args 0 "-"
    let b ← argument args 1 "-"
    match a, b with
    | .date a, .date b => return .number (Float.ofInt (a.millisSince b))
    | a, _ => .error (.typeMismatch "Date" a)
  | greater => ordered (· == .gt) args ">"
  | less => ordered (· == .lt) args "<"
  | atLeast => ordered (· != .lt) args ">="
  | atMost => ordered (· != .gt) args "<="
  | equal => do
    let a ← argument args 0 "="
    let b ← argument args 1 "="
    return .boolean (a.alike b)
  | unequal => do
    let a ← argument args 0 "!="
    let b ← argument args 1 "!="
    return .boolean (!a.alike b)
  | like => do
    let a ← textArgument args 0 "=~"
    let b ← textArgument args 1 "=~"
    return .boolean (occursIn (Text.lower b).toList (Text.lower a).toList)
  | and => do
    let a ← boolArgument args 0 "&&"
    if a then return .boolean (← boolArgument args 1 "&&") else return .boolean false
  | or => do
    let a ← boolArgument args 0 "||"
    if a then return .boolean true else return .boolean (← boolArgument args 1 "||")
  | not => do
    let a ← boolArgument args 0 "!"
    return .boolean (!a)
  | negate => unaryNumber (fun x => -x) args "-"
  | matchesPattern => do
    let text ← textArgument args 0 "regex"
    let pattern ← textArgument args 1 "regex"
    let flags ← textArgument args 2 "regex"
    let regex ← buildRegex pattern flags
    return .boolean (regex.isMatch text)
  | arrayContains => do
    let items ← arrayArgument args 0 "contains"
    let needle ← argument args 1 "contains"
    return .boolean (items.any fun item => item.alike needle)
  | mapContains => do
    let entries ← mapArgument args 0 "contains"
    let key ← argument args 1 "contains"
    return .boolean (Named.has entries key.mapKey)
  | distance => do
    let (lat1, lon1) ← locationArgument args 0 "distance"
    let (lat2, lon2) ← locationArgument args 1 "distance"
    return .number (greatCircle lat1 lon1 lat2 lon2)
  | latitude => do
    let (lat, _) ← locationArgument args 0 "latitude"
    return .number lat
  | longitude => do
    let (_, lon) ← locationArgument args 0 "longitude"
    return .number lon
  | makeDate => do
    let year := Decimal.clampInt (-2147483648) 2147483647 (← numberArgument args 0 "makeDate")
    let month := (Decimal.clampInt 0 4294967295 (← numberArgument args 1 "makeDate")).toNat
    let day := (Decimal.clampInt 0 4294967295 (← numberArgument args 2 "makeDate")).toNat
    match Instant.midnight? ⟨year, month, day⟩ with
    | some t => return .date t
    | none => .error (.native "makeDate"
        ("invalid date " ++ toString year ++ "-" ++ toString month ++ "-" ++ toString day))
  | makeTime => do
    let hour ← numberArgument args 0 "makeTime"
    let minute ← numberArgument args 1 "makeTime"
    if 0.0 ≤ hour && hour < 24.0 && 0.0 ≤ minute && minute < 60.0 then
      return .time (Decimal.clampInt 0 23 hour).toNat (Decimal.clampInt 0 59 minute).toNat
    else
      .error (.native "makeTime"
        ("invalid time " ++ Decimal.plain hour ++ ":" ++ Decimal.plain minute))
  | makeLocation => do
    let y ← numberArgument args 0 "makeLocation"
    let x ← numberArgument args 1 "makeLocation"
    return .location x y none
  | makeEmailAddress => do
    let address ← textArgument args 0 "makeEmailAddress"
    return .plainEntity address "tt:email_address"
  | makePhoneNumber => do
    let number ← textArgument args 0 "makePhoneNumber"
    return .plainEntity number "tt:phone_number"
  | emptyMap => return .object []
  | append => do
    let items ← arrayArgument args 0 "append"
    let item ← argument args 1 "append"
    return .array (items ++ [item])
  | arrayRemove => do
    let needle ← argument args 1 "remove"
    let items ← arrayArgument args 0 "remove"
    return .array (items.filter fun item => !item.alike needle)
  | mapRemove => do
    let entries ← mapArgument args 0 "remove"
    let key ← argument args 1 "remove"
    return .object (Named.remove entries key.mapKey)
  | mapInsert => do
    let entries ← mapArgument args 0 "insert"
    let key ← argument args 1 "insert"
    let value ← argument args 2 "insert"
    return .object (Named.insert entries key.mapKey value)
  | mapLookup => do
    let entries ← mapArgument args 0 "lookup"
    let key ← argument args 1 "lookup"
    match Named.get? entries key.mapKey with
    | some value => return value
    | none => .error (.missingProperty key.mapKey)
  | count => do
    match (← argument args 0 "count") with
    | .array items => return .number (Float.ofNat items.length)
    | .object entries => return .number (Float.ofNat entries.length)
    | other => .error (.typeMismatch "Array or Map" other)
  | concatArrays => do
    let a ← arrayArgument args 0 "concat"
    let b ← arrayArgument args 1 "concat"
    return .array (a ++ b)
  | concatTexts => joined args "concat"
  | sum => do
    let xs ← amountsArgument args "sum"
    return .number (total xs)
  | average => do
    match (← amountsArgument args "avg") with
    | [] => .error (.native "avg" "empty array")
    | xs => return .number (total xs / Float.ofNat xs.length)
  | maximum => combined larger args "max"
  | minimum => combined smaller args "min"
  | floor => unaryNumber Float.floor args "floor"
  | ceiling => unaryNumber Float.ceil args "ceil"
  | round => unaryNumber Float.round args "round"

end Calculation

def Draw.run (op : Draw) (args : List Value) : Eval Value :=
  match op with
  | choice => do
    let items ← Eval.ofExcept (arrayArgument args 0 "choice")
    let chance ← Eval.draw
    match items[chance.pick % items.length]? with
    | some item => return item
    | none => throw (.native "choice" "empty array")
  | random => do
    let chance ← Eval.draw
    return .number chance.random
  | now => do
    let chance ← Eval.draw
    return .date chance.now

def Rendering.run (op : Rendering) (env : Env) (args : List Value) : Eval Value :=
  match op with
  | valueText => do
    let value ← Eval.ofExcept (argument args 0 "toString")
    return .string (env.formatValue value)
  | eventText => do
    let hint := ((args.head?.bind Value.asText).bind FormatHint.ofText?).getD .string
    match (← env.formatEvent hint) with
    | .text text => return .string text
    | .messages chunks => return .string (String.intercalate "\n" (chunks.map Chunk.inspect))
  | measureText => do
    let x ← Eval.ofExcept (numberArgument args 0 "formatMeasure")
    let unit ← Eval.ofExcept (textArgument args 1 "formatMeasure")
    let text ← Eval.ofExcept (View.formatMeasure x unit)
    return .string text

/-- The name under which a rendering reports that it has no environment. -/
def Rendering.function : Rendering → String
  | valueText => "toString"
  | eventText => "eventToString"
  | measureText => "formatMeasure"

/-- The result of an operation, with an environment or without one. -/
def Native.run (op : Native) (env : Option Env) (args : List Value) : Eval Value :=
  match op with
  | calculation op => Eval.ofExcept (op.run args)
  | draw op => op.run args
  | rendering op =>
    match env with
    | some env => op.run env args
    | none => throw (.native op.function "requires an environment")

end ChannelRules
