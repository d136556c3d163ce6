import ChannelRules.Pattern.Engine
import ChannelRules.Pattern.Meaning
import ChannelRules.Pattern.Reader
import ChannelRules.Pattern.Size

/-!
# Matching

One engine for patterns. A pattern becomes a list of instructions, and a text is searched for it by
running all threads of the instructions side by side, one character at a time. Threads are kept in
order of preference, and at each place of the text an instruction is entered once, by the first
thread that reaches it. The result is the match that starts first and, of those, the preferred one.
-/

namespace ChannelRules

/-- One instruction; numbers are the addresses of the instructions to go on with. -/
inductive Instruction where
  /-- Take a character of the set. -/
  | take (set : CodePoints) (next : Nat)
  | check (look : Look) (next : Nat)
  | split (first second : Nat)
  /-- Remember the place. -/
  | mark (slot : Nat) (next : Nat)
  | halt

/-- A list of instructions and the address to start from. -/
structure Machine where
  code : Array Instruction
  start : Nat

namespace Machine

/-- Instructions being laid out, from the last to the first. -/
abbrev Code := Array Instruction

/-- Add an instruction; its address is the first result. -/
def emit (code : Code) (i : Instruction) : Nat × Code := (code.size, code.push i)

/-- A choice between going on with a repetition and leaving it. -/
def choice (greedy : Bool) (go leave : Nat) : Instruction :=
  if greedy then .split go leave else .split leave go

/-- Lay out the characters of a literal, the last one first. -/
def layOutReversed : List Char → Nat → Code → Nat × Code
  | [], next, code => (next, code)
  | c :: rest, next, code =>
    let (start, code) := emit code (.take [(c.toNat, c.toNat)] next)
    layOutReversed rest start code

/-- Lay out a body a number of times, one in front of the other. -/
def times (layOut : Nat → Code → Nat × Code) : Nat → Nat → Code → Nat × Code
  | 0, next, code => (next, code)
  | n + 1, next, code =>
    let (start, code) := layOut next code
    times layOut n start code

/-- At most so many optional repetitions, each inside the one before it. -/
def optional (layOut : Nat → Code → Nat × Code) (greedy : Bool) (exit : Nat) :
    Nat → Nat → Code → Nat × Code
  | 0, next, code => (next, code)
  | n + 1, next, code =>
    let (start, code) := layOut next code
    let (fork, code) := emit code (choice greedy start exit)
    optional layOut greedy exit n fork code

/-- One or more repetitions: the start of the body and the fork after it. -/
def loop (layOut : Nat → Code → Nat × Code) (greedy : Bool) (exit : Nat) (code : Code) :
    Nat × Nat × Code :=
  let (fork, code) := emit code .halt
  let (start, code) := layOut fork code
  (start, fork, code.setIfInBounds fork (choice greedy start exit))

/-- Lay out a repetition of a body. A body that can be empty is entered through a fork of its
own. -/
def layOutRepeat (body : Nat → Code → Nat × Code) (mayBeEmpty greedy : Bool) :
    Nat → Option Nat → Nat → Code → Nat × Code
  | least, some most, next, code =>
    let (start, code) := optional body greedy next (most - least) next code
    times body least start code
  | 0, none, next, code =>
    let (start, fork, code) := loop body greedy next code
    if mayBeEmpty then emit code (choice greedy start next) else (fork, code)
  | least + 1, none, next, code =>
    let (start, _, code) := loop body greedy next code
    times body least start code

mutual

/-- Lay out a pattern, given the address to go on with after it. -/
def layOut : Pattern → Nat → Code → Nat × Code
  | .empty, next, code => (next, code)
  | .literal chars, next, code => layOutReversed chars.reverse next code
  | .set s, next, code => emit code (.take s next)
  | .look l, next, code => emit code (.check l next)
  | .group index inner, next, code =>
    let (close, code) := emit code (.mark (2 * index + 1) next)
    let (start, code) := layOut inner close code
    emit code (.mark (2 * index) start)
  | .seq items, next, code => layOutSeq items next code
  | .alt branches, next, code => layOutAlt branches next code
  | .repeat inner least most greedy, next, code =>
    let mayBeEmpty := inner.minLength.getD 0 == 0
    layOutRepeat (layOut inner) mayBeEmpty greedy least most next code

/-- Lay out patterns one after the other. -/
def layOutSeq : List Pattern → Nat → Code → Nat × Code
  | [], next, code => (next, code)
  | first :: others, next, code =>
    let (second, code) := layOutSeq others next code
    layOut first second code

/-- Lay out branches, the first of which is preferred. -/
def layOutAlt : List Pattern → Nat → Code → Nat × Code
  | [], _, code => emit code (.take [] 0)
  | [only], next, code => layOut only next code
  | first :: others, next, code =>
    let (second, code) := layOutAlt others next code
    let (first, code) := layOut first next code
    emit code (.split first second)

end

def ofPattern (p : Pattern) : Machine :=
  let (halt, code) := emit #[] .halt
  let (start, code) := layOut p halt code
  ⟨code, start⟩

/-- The places remembered so far, by slot. -/
abbrev Marks := List (Nat × Nat)

/-- A thread: where it is in the code, and what it remembers. -/
structure Thread where
  address : Nat
  marks : Marks

/-- For each instruction, one more than the last place at which it was entered, and the threads
that wait at the place reached, the last one first. -/
structure Frontier where
  entered : Array Nat
  threads : List Thread

/-- A place in a text: how many characters are before it, and its neighbours. -/
structure Place where
  index : Nat
  before : Option Char
  after : Option Char

/-- Follow threads up to the instructions that take a character or halt, the first thread first. An
instruction is entered at most once at a place and leaves at most two threads to follow, which
bounds the steps. -/
def follow (machine : Machine) (place : Place) : Nat → List Thread → Frontier → Frontier
  | 0, _, frontier => frontier
  | _, [], frontier => frontier
  | fuel + 1, thread :: others, ⟨entered, threads⟩ =>
    if entered.getD thread.address (place.index + 1) == place.index + 1 then
      follow machine place fuel others ⟨entered, threads⟩
    else
      let entered := entered.setIfInBounds thread.address (place.index + 1)
      match machine.code[thread.address]? with
      | some (.check l next) =>
        if l.holds place.before place.after then
          follow machine place fuel ({ thread with address := next } :: others) ⟨entered, threads⟩
        else follow machine place fuel others ⟨entered, threads⟩
      | some (.split first second) =>
        follow machine place fuel
          ({ thread with address := first } :: { thread with address := second } :: others)
          ⟨entered, threads⟩
      | some (.mark slot next) =>
        follow machine place fuel (⟨next, (slot, place.index) :: thread.marks⟩ :: others)
          ⟨entered, threads⟩
      | _ => follow machine place fuel others ⟨entered, thread :: threads⟩

/-- The threads that wait at a place, in order of preference. -/
def settle (machine : Machine) (place : Place) (threads : List Thread) (entered : Array Nat) :
    List Thread × Array Nat :=
  let fuel := 2 * machine.code.size + threads.length + 1
  let frontier := follow machine place fuel threads ⟨entered, []⟩
  (frontier.threads.reverse, frontier.entered)

/-- Let the waiting threads take a character. A thread that halts is a match, and the threads after
it are given up. The threads that go on are kept last to first. -/
def advance (machine : Machine) (c : Option Char) :
    List Thread → List Thread → Option Marks → List Thread × Option Marks
  | [], moved, best => (moved.reverse, best)
  | thread :: rest, moved, best =>
    match machine.code[thread.address]?, c with
    | some .halt, _ => (moved.reverse, some thread.marks)
    | some (.take s next), some c =>
      if s.contains c then
        advance machine (some c) rest ({ thread with address := next } :: moved) best
      else advance machine (some c) rest moved best
    | _, c => advance machine c rest moved best

/-- Search a text from a place on. A new thread starts at each place until there is a match. -/
def searchFrom (machine : Machine) :
    Nat → Option Char → List Thread → Option Marks → Array Nat → List Char → Option Marks
  | index, before, threads, best, entered, [] =>
    let threads := if best.isSome then threads else threads ++ [⟨machine.start, []⟩]
    let (waiting, _) := settle machine ⟨index, before, none⟩ threads entered
    (advance machine none waiting [] best).2
  | index, before, threads, best, entered, c :: rest =>
    let threads := if best.isSome then threads else threads ++ [⟨machine.start, []⟩]
    let (waiting, entered) := settle machine ⟨index, before, some c⟩ threads entered
    let (threads, best) := advance machine (some c) waiting [] best
    if threads.isEmpty && best.isSome then best
    else searchFrom machine (index + 1) (some c) threads best entered rest

def search (machine : Machine) (text : List Char) : Option Marks :=
  searchFrom machine 0 none [] none (Array.replicate machine.code.size 0) text

/-- The text between the last two marks of a group. -/
def groupText (text : List Char) (marks : Marks) (index : Nat) : Option String := do
  let first ← marks.lookup (2 * index)
  let last ← marks.lookup (2 * index + 1)
  return String.ofList ((text.drop first).take (last - first))

end Machine

/-- The pattern of a text, when it is well formed, has a meaning and is small enough. -/
def Pattern.ofText? (pattern : String) (ignoreCase : Bool) : Option Pattern := do
  let written ← Written.ofText? pattern
  let (p, _) ← (Mode.initial ignoreCase).meaning? written
  if p.fits then some p else none

namespace Machine

/-- The groups of the first match in a text. -/
def captures? (machine : Machine) (text : String) : Option (Nat → Option String) :=
  (machine.search text.toList).map (groupText text.toList)

/-- A machine as a pattern that has been read. -/
def regex (machine : Machine) : Regex where
  isMatch text := (machine.captures? text).isSome
  captures? := machine.captures?

/-- The engine of machines. Its reason against a pattern is the pattern. -/
instance engine : PatternEngine where
  build pattern ignoreCase :=
    match Pattern.ofText? pattern ignoreCase with
    | some p => .ok (ofPattern p).regex
    | none => .error pattern

end Machine

end ChannelRules
