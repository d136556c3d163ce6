import ChannelRules.Text.Utf8
import ChannelRules.Pattern.Basic

/-!
# The size of patterns

A pattern is refused when the automaton of its bytes would take too much room. The automaton has
one state for each byte of a literal, for each condition, for each end of a group and for each
choice, and repetitions are written out. A set of characters beyond ASCII becomes an automaton of
its own: forwards, states that go on alike are shared; backwards, equal starts of the byte
sequences are. Both automata, forwards with the groups and backwards without them, have to fit.
-/

namespace ChannelRules

/-- The direction in which an automaton reads. -/
inductive Direction where
  | forwards
  | backwards
  deriving DecidableEq

/-- What an automaton takes: the number of bytes, and whether it ends in a choice, which grows when
something follows. -/
structure Room where
  bytes : Nat
  openEnd : Bool

namespace Room

def state : Nat := 32

/-- The bytes of one way out of a choice. -/
def way : Nat := 4

/-- The bytes of one range of a state that reads a byte. -/
def step : Nat := 8

/-- The bytes added when something follows. -/
def follow (r : Room) : Nat := if r.openEnd then way else 0

/-- What one or more copies in a row take. -/
def copies (r : Room) (n : Nat) : Nat := n * r.bytes + (n - 1) * r.follow

def single : Room := ⟨state, false⟩

end Room

namespace Pattern

open Text Room

/-- A state of a set: the ranges it reads, each with the number of the state to go on with. The
number 0 is for the end. -/
abbrev SetState := List ((Nat × Nat) × Nat)

/-- The number of a state among those there are; a new one is added to them. -/
def shelve (s : SetState) (states : List SetState) : Nat × List SetState :=
  match states.findIdx? (· == s) with
  | some i => (states.length - i, states)
  | none => (states.length + 1, s :: states)

/-- Sequences grouped by the range they start with. -/
def byFirst (sequences : List ByteRanges) : List ((Nat × Nat) × List ByteRanges) :=
  (sequences.splitBy fun s t => s.head? == t.head?).filterMap fun group =>
    match group with
    | (range :: rest) :: others => some (range, rest :: others.map List.tail)
    | _ => none

/-- The states of the sequences of a set. A sequence has at most so many bytes as the fuel. -/
def setStates : Nat → List ByteRanges → List SetState → Nat × List SetState
  | 0, _, states => (0, states)
  | fuel + 1, sequences, states =>
    match byFirst sequences with
    | [] => (0, states)
    | groups =>
      let (s, states) := groups.foldl (fun (s, states) (range, rests) =>
        let (next, states) := setStates fuel rests states
        (s ++ [(range, next)], states)) (([] : SetState), states)
      shelve s states

/-- How many ranges two sequences start with in common. -/
def sharedLength : ByteRanges → ByteRanges → Nat
  | a :: as, b :: bs => if a = b then sharedLength as bs + 1 else 0
  | _, _ => 0

/-- The number of different starts of sequences in increasing order. -/
def startCount : ByteRanges → List ByteRanges → Nat
  | _, [] => 0
  | previous, s :: others => s.length - sharedLength previous s + startCount s others

def setRoom (direction : Direction) (chars : CodePoints) : Room :=
  if chars.isAscii then
    ⟨2 * state + step * chars.length, false⟩
  else
    let sequences := ByteRanges.ofCodePoints chars
    match direction with
    | .forwards =>
      let states := (setStates 5 sequences []).2
      ⟨state + states.foldl (fun n s => n + state + step * s.length) 0, false⟩
    | .backwards =>
      ⟨state * (startCount [] sequences + 2) + way * sequences.length, false⟩

/-- The bytes of a literal, in the order in which they are read. -/
def literalBytes (direction : Direction) (chars : List Char) : List Nat :=
  let bytes := chars.flatMap fun c => ByteRanges.encode c.toNat
  match direction with
  | .forwards => bytes
  | .backwards => bytes.reverse

/-- Words divided where one of them ends: the words up to the first that is empty, and so on. An
empty word counts only once as long as no word goes on; the flags tell whether one went on or
ended. -/
def divide (goesOn ended : Bool) : List (List Nat) → List (List Nat) → List (List (List Nat))
  | chunk, [] => [chunk.reverse]
  | chunk, [] :: others =>
    if !goesOn && ended then divide goesOn ended chunk others
    else chunk.reverse :: divide goesOn true [] others
  | chunk, word :: others => divide true ended (word :: chunk) others

/-- What the words of a chunk go on with, by their first byte. -/
def byByte (words : List (List Nat)) : List (List (List Nat)) :=
  (words.filterMap List.head?).eraseDups.map fun byte =>
    (words.filter fun word => word.head? == some byte).map List.tail

/-- What the states of a tree of words take, apart from its end. -/
def treeBytes : Nat → List (List Nat) → Nat
  | 0, _ => 0
  | fuel + 1, words =>
    let chunks := (divide false false [] words).map byByte
    let ends := chunks.length - 1
    let read := chunks.filter fun chunk => !chunk.isEmpty
    let ways := ends + read.length
    let own := read.foldl (fun n chunk =>
      n + state + (if chunk.length = 1 then 0 else step * chunk.length)) 0
    let choice := if 2 ≤ ways then state + way * ways else 0
    let inner := chunks.foldl (fun n chunk => chunk.foldl (fun n rests =>
      if rests.all List.isEmpty then n else n + treeBytes fuel rests) n) 0
    own + choice + inner

def literal? : Pattern → Option (List Char)
  | literal chars => some chars
  | _ => none

/-- What alternatives between literals take. -/
def treeRoom (direction : Direction) (literals : List (List Char)) : Room :=
  let words := literals.map (literalBytes direction)
  let depth := words.foldl (fun n word => max n word.length) 0
  ⟨state + treeBytes (depth + 1) words, false⟩

/-- What a repetition takes, from what its body takes. -/
def repeatRoom (inner : Room) (mayBeEmpty : Bool) (least : Nat) : Option Nat → Room
  | none =>
    match least with
    | 0 =>
      if mayBeEmpty then ⟨inner.bytes + inner.follow + 3 * state + 4 * way, false⟩
      else ⟨inner.bytes + inner.follow + state + way, true⟩
    | n + 1 => ⟨inner.copies (n + 1) + inner.follow + state + way, true⟩
  | some most =>
    if least = most then ⟨inner.copies least, inner.openEnd⟩
    else if least = 0 ∧ most = 1 then ⟨inner.bytes + inner.follow + 2 * state + 2 * way, false⟩
    else
      let start := if least = 0 then state else inner.copies least + inner.follow
      ⟨start + state + (most - least) * (inner.bytes + inner.follow + state + 2 * way), false⟩

mutual

def room (direction : Direction) : Pattern → Room
  | empty => single
  | literal chars => ⟨state * (literalBytes direction chars).length, false⟩
  | set chars => setRoom direction chars
  | look _ => single
  | group _ inner =>
    let r := room direction inner
    match direction with
    | .forwards => ⟨r.bytes + r.follow + 2 * state, false⟩
    | .backwards => r
  | seq items => seqRoom direction items
  | alt branches =>
    match branches.mapM literal? with
    | some literals => treeRoom direction literals
    | none => ⟨2 * state + altBytes direction branches, false⟩
  | .repeat inner least most _ =>
    let mayBeEmpty := (minLength inner).getD 0 == 0
    repeatRoom (room direction inner) mayBeEmpty least most

/-- What patterns one after the other take. -/
def seqRoom (direction : Direction) : List Pattern → Room
  | [] => single
  | [only] => room direction only
  | first :: others =>
    let r := room direction first
    let s := seqRoom direction others
    match direction with
    | .forwards => ⟨r.bytes + r.follow + s.bytes, s.openEnd⟩
    | .backwards => ⟨r.bytes + s.follow + s.bytes, r.openEnd⟩

/-- What branches take, with the ways into them. -/
def altBytes (direction : Direction) : List Pattern → Nat
  | [] => 0
  | first :: others =>
    let r := room direction first
    r.bytes + r.follow + way + altBytes direction others

end

mutual

/-- Whether a pattern can match only at the start of a text, or at its end when read backwards. -/
def anchored (direction : Direction) : Pattern → Bool
  | look l => l == (match direction with | .forwards => .textStart | .backwards => .textEnd)
  | group _ inner => anchored direction inner
  | seq items => anchoredSeq direction items
  | alt branches => anchoredAlt direction branches
  | .repeat inner least _ _ => decide (0 < least) && anchored direction inner
  | _ => false

/-- Whether some item, up to the first that can take a character, can match only there. -/
def anchoredSeq (direction : Direction) : List Pattern → Bool
  | [] => false
  | first :: others =>
    match direction with
    | .forwards => anchored .forwards first || (onlyEmpty first && anchoredSeq .forwards others)
    | .backwards =>
      anchoredSeq .backwards others || (onlyEmptyAll others && anchored .backwards first)

/-- Whether all branches can match only there. -/
def anchoredAlt (direction : Direction) : List Pattern → Bool
  | [] => true
  | first :: others => anchored direction first && anchoredAlt direction others

end

/-- The bytes of the whole automaton: with the states in front of it that let a match start
anywhere, and the state it ends in. -/
def totalBytes (direction : Direction) (p : Pattern) : Nat :=
  let r := room direction (match direction with | .forwards => group 0 p | .backwards => p)
  let start := if anchored direction p then state else 3 * state + step + 2 * way
  start + r.bytes + r.follow + state

/-- The greatest number of bytes of an automaton. -/
def byteLimit : Nat := 10485760

/-- Whether a pattern is small enough. -/
def fits (p : Pattern) : Bool :=
  decide (totalBytes .forwards p ≤ byteLimit) && decide (totalBytes .backwards p ≤ byteLimit)

end Pattern

end ChannelRules
