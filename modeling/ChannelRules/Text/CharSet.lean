import ChannelRules.Text.CodePoints

/-!
# Sets of characters

A set of characters is described from listed intervals by unions, intersections and exceptions.
Whether a character is in it is read off the description; `codePoints` works the description out to
a list of intervals.
-/

namespace ChannelRules

/-- A description of a set of characters. -/
inductive CharSet where
  | ranges (ranges : CodePoints)
  | union (a b : CharSet)
  | both (a b : CharSet)
  | except (a b : CharSet)
  | complement (a : CharSet)

namespace CharSet

def empty : CharSet := ranges []

def any (sets : List CharSet) : CharSet := sets.foldr union empty

def contains : CharSet → Char → Bool
  | ranges rs, c => CodePoints.contains rs c
  | union a b, c => contains a c || contains b c
  | both a b, c => contains a c && contains b c
  | except a b, c => contains a c && !contains b c
  | complement a, c => !contains a c

def codePoints : CharSet → CodePoints
  | ranges rs => rs
  | union a b => (codePoints a).union (codePoints b)
  | both a b => (codePoints a).inter (codePoints b)
  | except a b => (codePoints a).diff (codePoints b)
  | complement a => (codePoints a).complement

end CharSet

end ChannelRules
