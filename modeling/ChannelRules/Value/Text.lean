import ChannelRules.Value.Basic
import ChannelRules.Decimal.Text
import ChannelRules.Calendar.Text
import ChannelRules.Text.Quoted

/-!
# Values as text

`text` is what a reader of a message sees; `inspect` shows how a value is built, for messages about
values of the wrong type.
-/

namespace ChannelRules

namespace Value

open Calendar (padded)

mutual

/-- A value as a reader sees it. -/
def text : Value → String
  | varRef name => "$" ++ name
  | boolean b => if b then "true" else "false"
  | string s => s
  | enum entry => entry
  | feed id => id
  | measure amount unit => Decimal.amount amount ++ unit
  | number x => Decimal.amount x
  | location _ _ (some name) => name
  | location x y none =>
    "[Latitude: " ++ Decimal.fixed 3 y ++ ", Longitude: " ++ Decimal.fixed 3 x ++ "]"
  | date t => t.offsetText
  | time hour minute => padded 2 hour ++ ":" ++ padded 2 minute
  | entity _ _ (some display) => display
  | entity value _ none => value
  | object fields => "\x7b" ++ String.intercalate ", " (textFields fields) ++ "\x7d"
  | array items => String.intercalate ", " (textItems items)

def textItems : List Value → List String
  | [] => []
  | item :: rest => text item :: textItems rest

def textFields : List (String × Value) → List String
  | [] => []
  | (name, value) :: rest => (name ++ ": " ++ text value) :: textFields rest

end

/-- The name under which a value is found in a map. -/
def mapKey (v : Value) : String := v.asText.getD v.text

/-- An optional text and how it is built. -/
def inspectOption : Option String → String
  | some s => "Some(" ++ Text.quoted s ++ ")"
  | none => "None"

mutual

def inspect : Value → String
  | varRef name => "VarRef(" ++ Text.quoted name ++ ")"
  | boolean b => "Boolean(" ++ (if b then "true" else "false") ++ ")"
  | string s => "String(" ++ Text.quoted s ++ ")"
  | measure amount unit =>
    "Measure \x7b value: " ++ Decimal.literal amount ++ ", unit: " ++ Text.quoted unit ++ " \x7d"
  | number x => "Number(" ++ Decimal.literal x ++ ")"
  | location x y display =>
    "Location \x7b x: " ++ Decimal.literal x ++ ", y: " ++ Decimal.literal y ++ ", display: " ++
      inspectOption display ++ " \x7d"
  | date t => "Date(" ++ t.zuluText ++ ")"
  | time hour minute =>
    "Time \x7b hour: " ++ toString hour ++ ", minute: " ++ toString minute ++ " \x7d"
  | entity value tag display =>
    "Entity \x7b value: " ++ Text.quoted value ++ ", tag: " ++ Text.quoted tag ++ ", display: " ++
      inspectOption display ++ " \x7d"
  | enum entry => "Enum(" ++ Text.quoted entry ++ ")"
  | object fields => "Object(\x7b" ++ String.intercalate ", " (inspectFields fields) ++ "\x7d)"
  | array items => "Array([" ++ String.intercalate ", " (inspectItems items) ++ "])"
  | feed id => "Feed(" ++ Text.quoted id ++ ")"

def inspectItems : List Value → List String
  | [] => []
  | item :: rest => inspect item :: inspectItems rest

def inspectFields : List (String × Value) → List String
  | [] => []
  | (name, value) :: rest => (Text.quoted name ++ ": " ++ inspect value) :: inspectFields rest

end

end Value

end ChannelRules
