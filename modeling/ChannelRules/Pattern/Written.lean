import ChannelRules.Text.CodePoints

/-!
# Patterns as they are written

The parts of a written pattern, before anything is known about what they match: characters, places
in the text, classes, groups, repetitions, alternatives, and the changes of settings among them.
A pattern may be nested only so deep.
-/

namespace ChannelRules

/-- What a pattern can change about how a part of itself is understood. -/
inductive Setting where
  | ignoreCase
  | multiLine
  | dotAll
  | swapGreed
  | unicode
  | returns
  | verbose
  deriving DecidableEq

/-- Settings to turn on or off. -/
abbrev SettingChange := List (Setting × Bool)

/-- A character of a pattern. One given by two hexadecimal digits is a byte where the pattern does
not use Unicode. -/
structure Sign where
  char : Char
  isByte : Bool

/-- The conditions on the ends of words. -/
inductive WordEdge where
  | boundary
  | noBoundary
  | start
  | stop
  | startHalf
  | stopHalf
  deriving DecidableEq

/-- A place in a text, as a pattern names it. -/
inductive Anchor where
  | lineStart
  | lineEnd
  | textStart
  | textEnd
  | word (edge : WordEdge)

/-- The classes that have a letter of their own. -/
inductive ClassLetter where
  | digit
  | blank
  | word

/-- How a set of characters is named: by a name alone, or by a property and a value. -/
inductive SetName where
  | alone (name : String)
  | value (property value : String)

/-- How two operands of a class are combined. -/
inductive ClassOp where
  | both
  | except
  /-- In one of the two, but not in both. -/
  | either

/-- A class of characters, as it is written. -/
inductive WrittenClass where
  | sign (sign : Sign)
  | range (first last : Sign)
  | listed (negated : Bool) (ranges : CodePoints)
  | letter (negated : Bool) (letter : ClassLetter)
  | named (negated : Bool) (name : SetName)
  | bracket (negated : Bool) (inner : WrittenClass)
  | items (items : List WrittenClass)
  | combined (op : ClassOp) (left right : WrittenClass)

inductive GroupKind where
  /-- A group that remembers the text it matches. -/
  | capture (index : Nat)
  | plain (change : SettingChange)

/-- A pattern, as it is written. -/
inductive Written where
  | change (change : SettingChange)
  | sign (sign : Sign)
  | dot
  | anchor (anchor : Anchor)
  | chars (chars : WrittenClass)
  | repeat (inner : Written) (least : Nat) (most : Option Nat) (lazily : Bool)
  | group (kind : GroupKind) (inner : Written)
  | seq (items : List Written)
  | alt (branches : List Written)

namespace WrittenClass

/-- The class of some items; a single item needs no list. -/
def ofItems : List WrittenClass → WrittenClass
  | [item] => item
  | list => items list

mutual

/-- How deep a class is nested. -/
def depth : WrittenClass → Nat
  | bracket _ inner => depth inner + 1
  | items [] => 0
  | items (first :: others) => max (depth first) (depthAll others) + 1
  | combined _ left right => max (depth left) (depth right) + 1
  | _ => 0

/-- How deep the deepest class of a list is nested. -/
def depthAll : List WrittenClass → Nat
  | [] => 0
  | first :: others => max (depth first) (depthAll others)

end

end WrittenClass

namespace Written

/-- The sequence of some items; a single item needs no list. -/
def ofItems : List Written → Written
  | [item] => item
  | list => seq list

mutual

/-- How deep a pattern is nested. -/
def depth : Written → Nat
  | change _ | sign _ | dot | anchor _ => 0
  | chars c => c.depth
  | .repeat inner _ _ _ => depth inner + 1
  | group _ inner => depth inner + 1
  | seq [] => 0
  | seq (first :: others) => max (depth first) (depthAll others) + 1
  | alt branches => depthAll branches + 1

/-- How deep the deepest pattern of a list is nested. -/
def depthAll : List Written → Nat
  | [] => 0
  | first :: others => max (depth first) (depthAll others)

end

/-- The greatest depth of a pattern. -/
def depthLimit : Nat := 250

end Written

end ChannelRules
