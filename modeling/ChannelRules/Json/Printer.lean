import ChannelRules.Json.Basic
import ChannelRules.Decimal.Text

/-!
# Writing documents

Documents are written without white space. Strings escape quotes, backslashes and control
characters. What could not be read is written as `null`.
-/

namespace ChannelRules

namespace Json

/-- Four hexadecimal digits. -/
def hex4 (n : Nat) : String :=
  let ds := Nat.toDigits 16 n
  String.ofList (List.replicate (4 - ds.length) '0' ++ ds)

/-- A character inside a string. -/
def escapeChar (c : Char) : String :=
  if c = '"' then "\\\""
  else if c = '\\' then "\\\\"
  else if c.toNat < 32 then "\\u" ++ hex4 c.toNat
  else c.toString

def quote (s : String) : String :=
  s.foldl (fun text c => text ++ escapeChar c) "\"" ++ "\""

mutual

def text : Json → String
  | null => "null"
  | bool b => if b then "true" else "false"
  | int n => toString n
  | real x => Decimal.literal x
  | string s => quote s
  | array items => "[" ++ String.intercalate "," (textItems items) ++ "]"
  | object members => "\x7b" ++ String.intercalate "," (textMembers members) ++ "\x7d"
  | unreadable => "null"

def textItems : List Json → List String
  | [] => []
  | item :: rest => text item :: textItems rest

def textMembers : List (String × Json) → List String
  | [] => []
  | (name, value) :: rest => (quote name ++ ":" ++ text value) :: textMembers rest

end

end Json

end ChannelRules
