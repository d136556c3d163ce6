import ChannelRules.Calendar.Instant
import ChannelRules.Text.Blank

/-!
# Instants as text

Writing an instant in UTC or at an offset, and reading one. Reading is lenient: white space may
stand before each number and separator, numbers need not be padded, a space may replace the `T`,
and the offset may be `Z`, `UTC` or hours and minutes with or without a colon.
-/

namespace ChannelRules.Calendar

/-- A natural number with zeros in front, up to a width. -/
def padded (width : Nat) (n : Nat) : String :=
  let text := toString n
  String.ofList (List.replicate (width - text.length) '0') ++ text

/-- Years between 0 and 9999 have four digits; all others show their sign. -/
def yearText (year : Int) : String :=
  if 0 ≤ year ∧ year ≤ 9999 then padded 4 year.toNat
  else (if year < 0 then "-" else "+") ++ padded 4 year.natAbs

/-- The fraction of a second: nothing, or a point and three, six or nine digits, as few as are
exact. -/
def fractionText (nanos : Nat) : String :=
  if nanos = 0 then ""
  else if nanos % 1000000 = 0 then "." ++ padded 3 (nanos / 1000000)
  else if nanos % 1000 = 0 then "." ++ padded 6 (nanos / 1000)
  else "." ++ padded 9 nanos

namespace Instant

def day (t : Instant) : Day := Day.ofNumber t.dayNumber

/-- Hour, minute and second of an instant; inside a leap second the second is 60. -/
def clock (t : Instant) : Nat × Nat × Nat :=
  let s := t.secondOfDay.toNat
  (s / 3600, s / 60 % 60, s % 60 + (if t.isLeap then 1 else 0))

/-- Date and time in UTC, without the offset. -/
def dateTimeText (t : Instant) : String :=
  let d := t.day
  let (hour, minute, second) := t.clock
  yearText d.year ++ "-" ++ padded 2 d.month ++ "-" ++ padded 2 d.day ++ "T" ++
    padded 2 hour ++ ":" ++ padded 2 minute ++ ":" ++ padded 2 second ++
    fractionText (t.nanos % nanosPerSecond)

def zuluText (t : Instant) : String := t.dateTimeText ++ "Z"

def offsetText (t : Instant) : String := t.dateTimeText ++ "+00:00"

/-- The wall clock at an offset east of UTC, in seconds. -/
def atOffset (t : Instant) (offset : Int) : Instant := ⟨t.seconds + offset, t.nanos⟩

/-- Month first, and a clock of twelve hours. -/
def monthFirstText (t : Instant) : String :=
  let d := t.day
  let (hour, minute, _) := t.clock
  let hour12 := if hour % 12 = 0 then 12 else hour % 12
  padded 2 d.month ++ "/" ++ padded 2 d.day ++ "/" ++ yearText d.year ++ ", " ++
    toString hour12 ++ ":" ++ padded 2 minute ++ (if hour < 12 then " AM" else " PM")

/-- Year first, and a clock of twenty-four hours. -/
def yearFirstText (t : Instant) : String :=
  let d := t.day
  let (hour, minute, _) := t.clock
  yearText d.year ++ "-" ++ padded 2 d.month ++ "-" ++ padded 2 d.day ++ " " ++
    padded 2 hour ++ ":" ++ padded 2 minute

end Instant

def digitsValue (ds : List Char) : Nat :=
  ds.foldl (fun n c => 10 * n + (c.toNat - 48)) 0

/-- The longest run of at most `most` digits, and what follows it. -/
def takeDigits : Nat → List Char → List Char × List Char
  | 0, cs => ([], cs)
  | _ + 1, [] => ([], [])
  | most + 1, c :: cs =>
    if c.isDigit then
      let (ds, rest) := takeDigits most cs
      (c :: ds, rest)
    else ([], c :: cs)

/-- A number of one to `most` digits, after white space. -/
def readNumber (most : Nat) (cs : List Char) : Option (Nat × List Char) :=
  match takeDigits most (Text.trimStart cs) with
  | ([], _) => none
  | (ds, rest) => some (digitsValue ds, rest)

/-- A number that has to lie between two bounds. -/
def readBetween (low high most : Nat) (cs : List Char) : Option (Nat × List Char) := do
  let (n, rest) ← readNumber most cs
  if low ≤ n ∧ n ≤ high then some (n, rest) else none

/-- A year: four digits at most, or a sign and any number of digits. -/
def readYear (cs : List Char) : Option (Int × List Char) :=
  let signed (cs : List Char) : Option (Nat × List Char) :=
    match takeDigits cs.length cs with
    | ([], _) => none
    | (ds, rest) => if digitsValue ds < Nat.pow 2 63 then some (digitsValue ds, rest) else none
  match Text.trimStart cs with
  | '-' :: rest => (signed rest).map fun (n, rest) => (-(n : Int), rest)
  | '+' :: rest => (signed rest).map fun (n, rest) => ((n : Int), rest)
  | cs => (readNumber 4 cs).map fun (n, rest) => ((n : Int), rest)

/-- A separator, after white space. -/
def readMark (mark : Char) (cs : List Char) : Option (List Char) :=
  match Text.trimStart cs with
  | c :: rest => if c = mark then some rest else none
  | [] => none

/-- The fraction of a second in nanoseconds; digits after the ninth are dropped. -/
def readFraction (cs : List Char) : Option (Nat × List Char) :=
  match cs with
  | '.' :: rest =>
    match takeDigits 9 rest with
    | ([], _) => none
    | (ds, rest) => some (digitsValue ds * Nat.pow 10 (9 - ds.length), rest.dropWhile Char.isDigit)
  | _ => some (0, cs)

/-- Two digits, with a bound on the first one. -/
def readPair (highest : Char) (cs : List Char) : Option (Nat × List Char) :=
  match cs with
  | a :: b :: rest =>
    if a.isDigit ∧ b.isDigit ∧ a ≤ highest then some (digitsValue [a, b], rest) else none
  | _ => none

/-- The offset from UTC in seconds, always less than a day. -/
def readOffset (cs : List Char) : Option (Int × List Char) :=
  let hoursMinutes (sign : Int) (cs : List Char) : Option (Int × List Char) := do
    let (hours, rest) ← readPair '9' cs
    let (minutes, rest) ← readPair '5' (rest.dropWhile fun c => c == ':' || Text.isBlank c)
    if hours < 24 then some (sign * (hours * 3600 + minutes * 60), rest) else none
  match cs with
  | 'Z' :: rest | 'z' :: rest => some (0, rest)
  | '+' :: rest => hoursMinutes 1 rest
  | '-' :: rest | '−' :: rest => hoursMinutes (-1) rest
  | a :: b :: c :: rest =>
    if [a.toUpper, b.toUpper, c.toUpper] = ['U', 'T', 'C'] then some (0, rest) else none
  | _ => none

def Instant.ofText? (text : String) : Option Instant := do
  let cs := text.toList
  let (year, cs) ← readYear cs
  let cs ← readMark '-' cs
  let (month, cs) ← readBetween 1 12 2 cs
  let cs ← readMark '-' cs
  let (day, cs) ← readBetween 1 31 2 cs
  let cs ← match cs with
    | 'T' :: rest | 't' :: rest | ' ' :: rest => some rest
    | _ => none
  let (hour, cs) ← readBetween 0 23 2 cs
  let cs ← readMark ':' cs
  let (minute, cs) ← readBetween 0 59 2 cs
  let cs ← readMark ':' cs
  let (second, cs) ← readBetween 0 60 2 cs
  let (fraction, cs) ← readFraction cs
  let (offset, cs) ← readOffset (Text.trimStart cs)
  if (Text.trimStart cs).isEmpty then
    let date : Day := ⟨year, month, day⟩
    if date.valid then
      let (second, nanos) :=
        if second = 60 then (59, fraction + nanosPerSecond) else (second, fraction)
      let wall : Int := date.number * secondsPerDay + (hour * 3600 + minute * 60 + second : Nat)
      let t : Instant := ⟨wall - offset, nanos⟩
      if t.inRange then some t else none
    else none
  else none

end ChannelRules.Calendar
