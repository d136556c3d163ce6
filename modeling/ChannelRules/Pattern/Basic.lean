import ChannelRules.Text.Word
import ChannelRules.Pattern.Written

/-!
# Patterns

A pattern is built from characters, sets of characters, conditions on the place in the text,
groups, sequences, alternatives and repetitions. Of two alternatives the first is preferred, and a
greedy repetition prefers to go on. Patterns are put together by functions that leave out what
changes nothing: empty parts, sequences inside sequences, repetitions of the empty text, and
alternatives between single characters, which are a set.
-/

namespace ChannelRules

/-- A condition on a place in a text. -/
inductive Look where
  | textStart
  | textEnd
  /-- The start of a line; lines may also end in a carriage return. -/
  | lineStart (returns : Bool)
  | lineEnd (returns : Bool)
  /-- A condition on words, of Unicode or of ASCII word characters. -/
  | word (edge : WordEdge) (unicode : Bool)
  deriving DecidableEq

namespace Look

/-- Whether there is a word character. -/
def isWordAt (unicode : Bool) : Option Char → Bool
  | some c => if unicode then Text.isWord c else Text.isAsciiWord c
  | none => false

/-- Whether a condition on words holds between two characters, of which it is known whether they
are word characters. -/
def edgeHolds : WordEdge → Bool → Bool → Bool
  | .boundary, before, after => before != after
  | .noBoundary, before, after => before == after
  | .start, before, after => !before && after
  | .stop, before, after => before && !after
  | .startHalf, before, _ => !before
  | .stopHalf, _, after => !after

/-- Whether the condition holds between two characters, either of which may be missing. -/
def holds : Look → Option Char → Option Char → Bool
  | textStart, before, _ => before.isNone
  | textEnd, _, after => after.isNone
  | lineStart returns, before, after =>
    match before with
    | none => true
    | some '\n' => true
    | some '\r' => returns && after != some '\n'
    | some _ => false
  | lineEnd returns, before, after =>
    match after with
    | none => true
    | some '\n' => !returns || before != some '\r'
    | some '\r' => returns
    | some _ => false
  | word edge unicode, before, after =>
    edgeHolds edge (isWordAt unicode before) (isWordAt unicode after)

end Look

inductive Pattern where
  | empty
  | literal (chars : List Char)
  | set (chars : CodePoints)
  | look (look : Look)
  /-- A group that remembers the text it matches. -/
  | group (index : Nat) (inner : Pattern)
  | seq (items : List Pattern)
  | alt (branches : List Pattern)
  | repeat (inner : Pattern) (least : Nat) (most : Option Nat) (greedy : Bool)
  deriving BEq

namespace Pattern

mutual

/-- The least number of characters a pattern takes, `none` when a part of it can match nothing. -/
def minLength : Pattern → Option Nat
  | empty => some 0
  | literal chars => some chars.length
  | set chars => if chars.isEmpty then none else some 1
  | look _ => some 0
  | group _ inner => minLength inner
  | seq items => minLengthSeq items
  | alt branches => minLengthAlt branches
  | .repeat inner least _ _ => (minLength inner).map (· * least)

/-- The least number of characters patterns take one after the other. -/
def minLengthSeq : List Pattern → Option Nat
  | [] => some 0
  | first :: others => do
    let a ← minLength first
    let b ← minLengthSeq others
    return a + b

/-- The least number of characters one of some patterns takes. -/
def minLengthAlt : List Pattern → Option Nat
  | [] => none
  | [only] => minLength only
  | first :: others => do
    let a ← minLength first
    let b ← minLengthAlt others
    return min a b

end

mutual

/-- Whether a pattern matches nothing but the empty text. -/
def onlyEmpty : Pattern → Bool
  | empty => true
  | literal _ => false
  | set _ => false
  | look _ => true
  | group _ inner => onlyEmpty inner
  | seq items => onlyEmptyAll items
  | alt branches => onlyEmptyAll branches
  | .repeat inner _ _ _ => onlyEmpty inner

/-- Whether all patterns of a list match nothing but the empty text. -/
def onlyEmptyAll : List Pattern → Bool
  | [] => true
  | first :: others => onlyEmpty first && onlyEmptyAll others

end

/-- The pattern of one character of a set. -/
def ofSet : CodePoints → Pattern
  | [(a, b)] => if a = b then literal [Char.ofNat a] else set [(a, b)]
  | chars => set chars

/-- A repetition. Repeating the empty text more than once changes nothing. -/
def repeated (inner : Pattern) (least : Nat) (most : Option Nat) (greedy : Bool) : Pattern :=
  let (least, most) :=
    if onlyEmpty inner then (min least 1, some (min (most.getD 1) 1)) else (least, most)
  if most = some 0 then empty
  else if least = 1 ∧ most = some 1 then inner
  else .repeat inner least most greedy

/-- The parts of a pattern that stand in sequence. -/
def seqItems : Pattern → List Pattern
  | empty => []
  | seq items => items
  | p => [p]

/-- A pattern in front of others; literals that meet are joined. -/
def consItem : Pattern → List Pattern → List Pattern
  | literal a, literal b :: others => literal (a ++ b) :: others
  | p, others => p :: others

/-- Patterns one after the other. -/
def sequence (items : List Pattern) : Pattern :=
  match (items.flatMap seqItems).foldr consItem [] with
  | [] => empty
  | [only] => only
  | items => seq items

def altBranches : Pattern → List Pattern
  | alt branches => branches
  | p => [p]

/-- The set of a pattern that is one character. -/
def singleChar? : Pattern → Option CodePoints
  | literal [c] => some [(c.toNat, c.toNat)]
  | _ => none

/-- The set of a pattern that is a set. -/
def chars? : Pattern → Option CodePoints
  | set chars => some chars
  | _ => none

/-- The union of the sets of all branches, when each has one. -/
def unionOf? (setOf? : Pattern → Option CodePoints) (branches : List Pattern) :
    Option CodePoints :=
  (branches.mapM setOf?).map fun sets => sets.foldl CodePoints.union []

/-- Some branches, none of which is an alternative itself. -/
def ofBranches : List Pattern → Pattern
  | [] => set []
  | [only] => only
  | branches =>
    match (unionOf? singleChar? branches).or (unionOf? chars? branches) with
    | some chars => ofSet chars
    | none => alt branches

/-- The items of a sequence that two lists start with. -/
def sharedStart : List Pattern → List Pattern → List Pattern
  | a :: as, b :: bs => if a == b then a :: sharedStart as bs else []
  | _, _ => []

/-- What all branches start with, when each is a sequence. -/
def commonStart : List Pattern → List Pattern
  | [] => []
  | [seq items] => items
  | seq items :: others => sharedStart items (commonStart others)
  | _ => []

/-- Patterns of which one is to match. What all start with is written once. -/
def alternatives (branches : List Pattern) : Pattern :=
  let branches := branches.flatMap altBranches
  match ofBranches branches with
  | alt branches =>
    match commonStart branches with
    | [] => alt branches
    | start =>
      let rests := branches.map fun branch => sequence ((seqItems branch).drop start.length)
      sequence (start ++ [ofBranches (rests.flatMap altBranches)])
  | p => p

end Pattern

end ChannelRules
