import ChannelRules.Env.Basic

namespace ChannelRules

def FormatHint.ofText? : String → Option FormatHint
  | "string" => some string
  | "messaging" => some messaging
  | _ => none

namespace Chunk

def plainText : Chunk → String
  | text t => t
  | picture url => "Picture: " ++ url
  | link title callback => "Link: " ++ title ++ " <" ++ callback ++ ">"

/-- A piece and how it is built. -/
def inspect : Chunk → String
  | text t => "Text(" ++ Text.quoted t ++ ")"
  | picture url => "Picture(" ++ Text.quoted url ++ ")"
  | link title callback =>
    "Rdl \x7b display_title: " ++ Text.quoted title ++ ", web_callback: " ++ Text.quoted callback ++
      " \x7d"

end Chunk

/-- A formatted event. -/
inductive Formatted where
  | text (text : String)
  | messages (chunks : List Chunk)

/-- Pieces as a hint asks for. -/
def Formatted.ofChunks (chunks : List Chunk) : FormatHint → Formatted
  | .string => text (String.intercalate "\n" (chunks.map Chunk.plainText))
  | .messaging => messages chunks

namespace View

open Calendar (Instant padded)

/-- Whether dates put the month first and clocks have twelve hours. -/
def usesMonthFirst (view : View) : Bool :=
  view.locale.startsWith "en-US" || view.locale == "en"

/-- A date in the time zone of an activation. -/
def formatDate (view : View) (t : Instant) : String :=
  let wall := t.atOffset view.offset
  if view.usesMonthFirst then wall.monthFirstText else wall.yearFirstText

def formatTime (view : View) (hour minute : Nat) : String :=
  if view.usesMonthFirst then
    let hour12 := if hour % 12 = 0 then 12 else hour % 12
    toString hour12 ++ ":" ++ padded 2 minute ++ (if hour < 12 then " AM" else " PM")
  else padded 2 hour ++ ":" ++ padded 2 minute

/-- An amount of a base unit, shown in another unit with one decimal. -/
def formatMeasure (x : Float) (unit : String) : Except RuntimeError String :=
  match MeasureUnit.fromBase? x unit with
  | some converted => .ok (Decimal.amount ((converted * 10.0).round / 10.0) ++ " " ++ unit)
  | none => .error (.format ("unknown unit " ++ unit))

mutual

def formatValue (view : View) : Value → String
  | .date t => view.formatDate t
  | .time hour minute => view.formatTime hour minute
  | .measure x unit =>
    match formatMeasure x unit with
    | .ok text => text
    | .error _ => Decimal.amount x ++ " " ++ unit
  | .array items => String.intercalate ", " (formatValues view items)
  | other => other.text

def formatValues (view : View) : List Value → List String
  | [] => []
  | value :: rest => formatValue view value :: formatValues view rest

end

end View

namespace Env

/-- The pieces of an event. An event without a formatter is shown by its values. -/
def chunksOf (env : Env) (frame : Frame) (hint : FormatHint) : Eval (List Chunk) :=
  match Named.get? env.formatters frame.channel.kind with
  | some formatter => formatter frame hint env.toView
  | none => return [.text (String.intercalate ", " (env.formatValues frame.values))]

/-- The latest event, formatted. -/
def formatEvent (env : Env) (hint : FormatHint) : Eval Formatted := do
  let frame ← Eval.ofExcept env.currentEvent
  let chunks ← env.chunksOf frame hint
  return Formatted.ofChunks chunks hint

end Env

end ChannelRules
