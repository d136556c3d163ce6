import ChannelRules.Text.Alphanumeric
import ChannelRules.Text.Blank
import ChannelRules.Pattern.Written

/-!
# Reading patterns

The written form of patterns: characters, escapes, classes in brackets, groups with names and
settings, repetitions and alternatives. In verbose writing white space and comments are skipped
between the characters of most forms. Every text that is not a pattern is refused as a whole.
-/

namespace ChannelRules

namespace Written

/-- Skip white space and comments. -/
def skipBlanks : Nat → List Char → List Char
  | 0, cs => cs
  | fuel + 1, cs =>
    match cs.dropWhile Text.isBlank with
    | '#' :: rest => skipBlanks fuel (rest.dropWhile (· != '\n'))
    | cs => cs

/-- In verbose writing, skip white space and comments. -/
def skip (verbose : Bool) (cs : List Char) : List Char :=
  if verbose then skipBlanks cs.length cs else cs

/-- The first character that is not white space, where a `#` is passed over once. -/
def pastBlanks : Bool → List Char → Option Char
  | _, [] => none
  | passed, c :: rest =>
    if Text.isBlank c then pastBlanks passed rest
    else if !passed && c == '#' then pastBlanks true rest
    else some c

/-- What is taken for the next character after a dash: in verbose writing, one past white space,
even when it is in a comment. -/
def peek (verbose : Bool) (cs : List Char) : Option Char :=
  if verbose then (pastBlanks false cs).or cs.head? else cs.head?

/-- What stands before a closing brace. -/
def untilBrace (verbose : Bool) : Nat → List Char → Option (List Char × List Char)
  | 0, _ => none
  | fuel + 1, cs =>
    match skip verbose cs with
    | [] => none
    | '}' :: rest => some ([], rest)
    | c :: rest => do
      let (others, rest) ← untilBrace verbose fuel rest
      return (c :: others, rest)

/-- The characters at the start of a text that are of a kind. -/
def run (verbose : Bool) (ofKind : Char → Bool) : Nat → List Char → List Char × List Char
  | 0, cs => ([], cs)
  | fuel + 1, cs =>
    match cs with
    | c :: rest =>
      if ofKind c then
        let (others, rest) := run verbose ofKind fuel (skip verbose rest)
        (c :: others, rest)
      else ([], cs)
    | [] => ([], [])

/-- The characters with a meaning of their own. -/
def isMeta (c : Char) : Bool := "\\.+*?()|[]{}^$#&-~".toList.contains c

/-- Whether a backslash makes a character stand for itself. -/
def isEscapable (c : Char) : Bool :=
  isMeta c || (decide (c.toNat < 128) && !c.isAlphanum && c != '<' && c != '>')

/-- The value of a hexadecimal digit. -/
def hexValue? (c : Char) : Option Nat :=
  if '0' ≤ c ∧ c ≤ '9' then some (c.toNat - 48)
  else if 'a' ≤ c ∧ c ≤ 'f' then some (c.toNat - 87)
  else if 'A' ≤ c ∧ c ≤ 'F' then some (c.toNat - 55)
  else none

/-- The character with a code point, if there is one. -/
def charOf? (n : Nat) : Option Char :=
  if n < 0xd800 ∨ (0xdfff < n ∧ n ≤ 0x10ffff) then some (Char.ofNat n) else none

/-- The character with a code point given by hexadecimal digits; no digits give none. -/
def hexChar? (digits : List Char) : Option Char := do
  if digits.isEmpty then none
  else
    let values ← digits.mapM hexValue?
    charOf? (values.foldl (fun n d => 16 * n + d) 0)

/-- A character by its code point: in braces, or with a fixed number of digits. -/
def readHex (verbose : Bool) (width : Nat) (cs : List Char) : Option (Char × List Char) := do
  match skip verbose cs with
  | '{' :: rest =>
    let (digits, rest) ← untilBrace verbose (rest.length + 1) rest
    let c ← hexChar? digits
    return (c, rest)
  | cs =>
    let (digits, rest) := run verbose (fun c => (hexValue? c).isSome) width cs
    if digits.length < width then none
    else
      let c ← hexChar? digits
      return (c, rest)

/-- What an escape stands for. -/
inductive Escape where
  | sign (sign : Sign)
  | chars (chars : WrittenClass)
  | anchor (anchor : Anchor)

/-- The conditions that may follow a word edge in braces. -/
def edgeNames : List (String × WordEdge) :=
  [("start", .start), ("end", .stop), ("start-half", .startHalf), ("end-half", .stopHalf)]

/-- The characters of such a condition. -/
def isEdgeNameChar (c : Char) : Bool := c.isAlpha || c == '-'

/-- A word edge, with its condition in braces. Other braces are left for a repetition. -/
def readEdge (verbose : Bool) (cs : List Char) : Option (WordEdge × List Char) :=
  match cs with
  | '{' :: rest =>
    match skip verbose rest with
    | [] => none
    | c :: rest =>
      if isEdgeNameChar c then do
        let (name, rest) := run verbose isEdgeNameChar (rest.length + 1) (c :: rest)
        match rest with
        | '}' :: rest =>
          let edge ← edgeNames.lookup (String.ofList name)
          return (edge, rest)
        | _ => none
      else some (.boundary, cs)
  | _ => some (.boundary, cs)

/-- Split a list of characters at the first occurrence of some others. -/
def splitAt? (mark : List Char) : List Char → Option (List Char × List Char)
  | [] => none
  | c :: rest =>
    if mark.isPrefixOf (c :: rest) then some ([], (c :: rest).drop mark.length)
    else (splitAt? mark rest).map fun (before, after) => (c :: before, after)

/-- The name of a set, in braces: a name, or a property and a value with a sign between them. The
sign for different values negates the set. -/
def setName (name : List Char) : SetName × Bool :=
  let value (parts : List Char × List Char) : SetName :=
    .value (String.ofList parts.1) (String.ofList parts.2)
  match splitAt? ['!', '='] name, splitAt? [':'] name, splitAt? ['='] name with
  | some parts, _, _ => (value parts, true)
  | none, some parts, _ => (value parts, false)
  | none, none, some parts => (value parts, false)
  | none, none, none => (.alone (String.ofList name), false)

/-- A set by its name, after the letter of the escape. -/
def readSetName (verbose negated : Bool) (cs : List Char) : Option (WrittenClass × List Char) := do
  match skip verbose cs with
  | [] => none
  | '{' :: rest =>
    let (name, rest) ← untilBrace verbose (rest.length + 1) rest
    let (name, different) := setName name
    return (.named (negated != different) name, rest)
  | '\\' :: _ => none
  | c :: rest => return (.named negated (.alone (String.singleton c)), rest)

/-- Read what follows a backslash. -/
def readEscape (verbose : Bool) : List Char → Option (Escape × List Char)
  | [] => none
  | 'd' :: rest => some (.chars (.letter false .digit), rest)
  | 'D' :: rest => some (.chars (.letter true .digit), rest)
  | 's' :: rest => some (.chars (.letter false .blank), rest)
  | 'S' :: rest => some (.chars (.letter true .blank), rest)
  | 'w' :: rest => some (.chars (.letter false .word), rest)
  | 'W' :: rest => some (.chars (.letter true .word), rest)
  | 'p' :: rest => (readSetName verbose false rest).map fun (c, rest) => (.chars c, rest)
  | 'P' :: rest => (readSetName verbose true rest).map fun (c, rest) => (.chars c, rest)
  | 'a' :: rest => some (.sign ⟨'\x07', false⟩, rest)
  | 'f' :: rest => some (.sign ⟨'\x0c', false⟩, rest)
  | 't' :: rest => some (.sign ⟨'\t', false⟩, rest)
  | 'n' :: rest => some (.sign ⟨'\n', false⟩, rest)
  | 'r' :: rest => some (.sign ⟨'\r', false⟩, rest)
  | 'v' :: rest => some (.sign ⟨'\x0b', false⟩, rest)
  | 'A' :: rest => some (.anchor .textStart, rest)
  | 'z' :: rest => some (.anchor .textEnd, rest)
  | 'b' :: rest => (readEdge verbose rest).map fun (edge, rest) => (.anchor (.word edge), rest)
  | 'B' :: rest => some (.anchor (.word .noBoundary), rest)
  | '<' :: rest => some (.anchor (.word .start), rest)
  | '>' :: rest => some (.anchor (.word .stop), rest)
  | 'x' :: rest => do
    let inBraces := (skip verbose rest).head? == some '{'
    let (c, rest) ← readHex verbose 2 rest
    return (.sign ⟨c, !inBraces⟩, rest)
  | 'u' :: rest => (readHex verbose 4 rest).map fun (c, rest) => (.sign ⟨c, false⟩, rest)
  | 'U' :: rest => (readHex verbose 8 rest).map fun (c, rest) => (.sign ⟨c, false⟩, rest)
  | c :: rest => if isEscapable c then some (.sign ⟨c, false⟩, rest) else none

def listedClasses : List (String × CodePoints) :=
  [ ("alnum", [(48, 57), (65, 90), (97, 122)]), ("alpha", [(65, 90), (97, 122)]),
    ("ascii", [(0, 127)]), ("blank", [(9, 9), (32, 32)]), ("cntrl", [(0, 31), (127, 127)]),
    ("digit", [(48, 57)]), ("graph", [(33, 126)]), ("lower", [(97, 122)]), ("print", [(32, 126)]),
    ("punct", [(33, 47), (58, 64), (91, 96), (123, 126)]), ("space", [(9, 13), (32, 32)]),
    ("upper", [(65, 90)]), ("word", [(48, 57), (65, 90), (95, 95), (97, 122)]),
    ("xdigit", [(48, 57), (65, 70), (97, 102)]) ]

/-- A class listed by name, after its opening bracket. -/
def readListed (cs : List Char) : Option (WrittenClass × List Char) := do
  match cs with
  | ':' :: rest =>
    let (negated, rest) := match rest with
      | '^' :: rest => (true, rest)
      | rest => (false, rest)
    let name := rest.takeWhile (· != ':')
    match rest.dropWhile (· != ':') with
    | ':' :: ']' :: after =>
      let ranges ← listedClasses.lookup (String.ofList name)
      return (.listed negated ranges, after)
    | _ => none
  | _ => none

/-- One item of a class: a character or a class escape. -/
def readClassItem (verbose : Bool) (cs : List Char) : Option (WrittenClass × List Char) :=
  match cs with
  | [] => none
  | '\\' :: rest => do
    let (escape, rest) ← readEscape verbose rest
    match escape with
    | .sign s => return (.sign s, rest)
    | .chars c => return (c, rest)
    | .anchor _ => none
  | c :: rest => some (.sign ⟨c, false⟩, rest)

def readClassRange (verbose : Bool) (cs : List Char) : Option (WrittenClass × List Char) := do
  let (first, rest) ← readClassItem verbose cs
  match skip verbose rest with
  | '-' :: after =>
    if peek verbose after == some ']' || peek verbose after == some '-' then
      return (first, '-' :: after)
    else
      let (last, rest) ← readClassItem verbose (skip verbose after)
      match first, last with
      | .sign a, .sign b =>
        if a.char.toNat ≤ b.char.toNat then some (.range a b, rest) else none
      | _, _ => none
  | rest => return (first, rest)

/-- The operand made of items that are given last to first. -/
def operand (items : List WrittenClass) : WrittenClass := WrittenClass.ofItems items.reverse

/-- The operands of a class, given last to first, combined from the left. -/
def combine : List (WrittenClass × ClassOp) → WrittenClass → WrittenClass
  | [], operand => operand
  | (left, op) :: others, operand => .combined op (combine others left) operand

def leadingDashes (verbose : Bool) : Nat → List Char → List WrittenClass × List Char
  | 0, cs => ([], cs)
  | fuel + 1, cs =>
    match cs with
    | '-' :: rest =>
      let (others, rest) := leadingDashes verbose fuel (skip verbose rest)
      (.sign ⟨'-', false⟩ :: others, rest)
    | cs => ([], cs)

mutual

/-- A class whose opening bracket is read. The level tells how many more brackets may be open. -/
def readClass (verbose : Bool) : Nat → Nat → List Char → Option (WrittenClass × List Char)
  | 0, _, _ => none
  | _, 0, _ => none
  | fuel + 1, level + 1, cs => do
    let (negated, cs) := match skip verbose cs with
      | '^' :: rest => (true, skip verbose rest)
      | cs => (false, cs)
    let (dashes, cs) := leadingDashes verbose cs.length cs
    let (start, cs) := match dashes, cs with
      | [], ']' :: rest => ([WrittenClass.sign ⟨']', false⟩], skip verbose rest)
      | _, _ => (dashes, cs)
    if cs.isEmpty then none
    else
      let (inner, rest) ← readClassItems verbose fuel level [] start.reverse cs
      return (.bracket negated inner, rest)

/-- The items of a class, up to its closing bracket. Items and operands are kept last to first. -/
def readClassItems (verbose : Bool) : Nat → Nat → List (WrittenClass × ClassOp) →
    List WrittenClass → List Char → Option (WrittenClass × List Char)
  | 0, _, _, _, _ => none
  | fuel + 1, level, before, items, cs =>
    match skip verbose cs with
    | [] => none
    | ']' :: rest => some (combine before (operand items), rest)
    | '[' :: rest =>
      match readListed rest with
      | some (item, rest) => readClassItems verbose fuel level before (item :: items) rest
      | none => do
        let (item, rest) ← readClass verbose fuel level rest
        readClassItems verbose fuel level before (item :: items) rest
    | '&' :: '&' :: rest =>
      readClassItems verbose fuel level ((operand items, .both) :: before) [] rest
    | '-' :: '-' :: rest =>
      readClassItems verbose fuel level ((operand items, .except) :: before) [] rest
    | '~' :: '~' :: rest =>
      readClassItems verbose fuel level ((operand items, .either) :: before) [] rest
    | cs => do
      let (item, rest) ← readClassRange verbose cs
      readClassItems verbose fuel level before (item :: items) rest

end

/-- A count, with white space around it. -/
def readCount (verbose : Bool) (cs : List Char) : Option (Nat × List Char) :=
  let cs := cs.dropWhile Text.isBlank
  match run verbose Char.isDigit cs.length cs with
  | ([], _) => none
  | (digits, rest) =>
    let n := digits.foldl (fun n c => 10 * n + (c.toNat - 48)) 0
    if n < Nat.pow 2 32 then some (n, skip verbose (rest.dropWhile Text.isBlank)) else none

/-- The bounds of a repetition, after the opening brace. -/
def readBounds (verbose : Bool) (cs : List Char) : Option (Nat × Option Nat × List Char) := do
  let (least, rest) ← readCount verbose (skip verbose cs)
  match rest with
  | '}' :: rest => return (least, some least, rest)
  | ',' :: rest =>
    match skip verbose rest with
    | '}' :: rest => return (least, none, rest)
    | rest =>
      let (most, rest) ← readCount verbose rest
      match rest with
      | '}' :: rest => if least ≤ most then some (least, some most, rest) else none
      | _ => none
  | _ => none

/-- A repetition operator: the bounds, and whether as little as possible is taken. Only a count in
braces may have white space before the mark for that. -/
def readRepeat (verbose : Bool) (cs : List Char) :
    Option (Nat × Option Nat × Bool × List Char) := do
  let (least, most, rest) ← match cs with
    | '*' :: rest => some (0, none, rest)
    | '+' :: rest => some (1, none, rest)
    | '?' :: rest => some (0, some 1, rest)
    | '{' :: rest => (readBounds verbose rest).map fun (a, b, rest) => (a, b, skip verbose rest)
    | _ => none
  match rest with
  | '?' :: rest => return (least, most, true, rest)
  | rest => return (least, most, false, rest)

def setting? (c : Char) : Option Setting :=
  match c with
  | 'i' => some .ignoreCase
  | 'm' => some .multiLine
  | 's' => some .dotAll
  | 'U' => some .swapGreed
  | 'u' => some .unicode
  | 'R' => some .returns
  | 'x' => some .verbose
  | _ => none

/-- Settings up to a colon or a closing parenthesis. A letter occurs once, at most one dash divides
those to turn on from those to turn off, and something follows the dash. -/
def readSettings : List Char → Bool → List Char → Option (SettingChange × List Char)
  | _, _, [] => none
  | seen, on, c :: rest =>
    if c = ':' ∨ c = ')' then
      match seen with
      | '-' :: _ => none
      | _ => some ([], c :: rest)
    else if seen.contains c then none
    else if c = '-' then readSettings (c :: seen) false rest
    else do
      let setting ← setting? c
      let (others, rest) ← readSettings (c :: seen) on rest
      return ((setting, on) :: others, rest)

/-- Whether verbose writing is on after a change of settings. -/
def verboseAfter (verbose : Bool) (settings : SettingChange) : Bool :=
  (settings.lookup .verbose).getD verbose

def isGroupNameChar (first : Bool) (c : Char) : Bool :=
  c == '_' || (if first then Text.isAlphabetic c
    else Text.isAlphanumeric c || c == '.' || c == '[' || c == ']')

/-- A group name, up to the closing bracket. -/
def readGroupName (cs : List Char) : Option (String × List Char) :=
  let name := cs.takeWhile (· != '>')
  match name, cs.dropWhile (· != '>') with
  | first :: others, _ :: rest =>
    if isGroupNameChar true first && others.all (isGroupNameChar false) then
      some (String.ofList name, rest)
    else none
  | _, _ => none

/-- What is left to read, the groups seen so far, and whether writing is verbose. -/
structure Reading where
  rest : List Char
  groups : Nat
  names : List String
  verbose : Bool

/-- Whether an item can be repeated. -/
def isRepeatable : Written → Bool
  | .change _ => false
  | _ => true

mutual

/-- Alternatives, up to a closing parenthesis or the end. Branches are kept last to first. -/
def readAlternatives : Nat → Nat → List Written → Reading → Option (Written × Reading)
  | 0, _, _, _ => none
  | fuel + 1, level, branches, reading => do
    let (branch, reading) ← readSequence fuel level [] reading
    match reading.rest, branches with
    | '|' :: rest, _ => readAlternatives fuel level (branch :: branches) { reading with rest }
    | _, [] => return (branch, reading)
    | _, _ => return (alt (branch :: branches).reverse, reading)

/-- A sequence. The items are kept last to first. -/
def readSequence : Nat → Nat → List Written → Reading → Option (Written × Reading)
  | 0, _, _, _ => none
  | fuel + 1, level, items, reading =>
    let verbose := reading.verbose
    let push (item : Written) (rest : List Char) : Option (Written × Reading) :=
      readSequence fuel level (item :: items) { reading with rest }
    let rest := skip verbose reading.rest
    match rest with
    | [] => some (ofItems items.reverse, { reading with rest })
    | ')' :: _ => some (ofItems items.reverse, { reading with rest })
    | '|' :: _ => some (ofItems items.reverse, { reading with rest })
    | '(' :: rest => do
      let (item, reading) ← readGroup fuel level { reading with rest }
      readSequence fuel level (item :: items) reading
    | '[' :: rest => do
      let (c, rest) ← readClass verbose fuel depthLimit rest
      push (chars c) rest
    | '.' :: rest => push dot rest
    | '^' :: rest => push (anchor .lineStart) rest
    | '$' :: rest => push (anchor .lineEnd) rest
    | '\\' :: rest => do
      let (escape, rest) ← readEscape verbose rest
      match escape with
      | .sign s => push (sign s) rest
      | .chars c => push (chars c) rest
      | .anchor a => push (anchor a) rest
    | c :: rest =>
      if c = '*' ∨ c = '+' ∨ c = '?' ∨ c = '{' then do
        let (least, most, lazily, rest) ← readRepeat verbose (c :: rest)
        match items with
        | item :: items =>
          if isRepeatable item then
            readSequence fuel level (.repeat item least most lazily :: items) { reading with rest }
          else none
        | [] => none
      else push (sign ⟨c, false⟩) rest

/-- A group or a change of settings, after the opening parenthesis. The level tells how many more
groups may be open. -/
def readGroup : Nat → Nat → Reading → Option (Written × Reading)
  | 0, _, _ => none
  | _, 0, _ => none
  | fuel + 1, level + 1, reading => do
    let verbose := reading.verbose
    let body (kind : GroupKind) (opened : Reading) : Option (Written × Reading) := do
      let (inner, after) ← readAlternatives fuel level [] opened
      match after.rest with
      | ')' :: rest => return (group kind inner, { after with rest, verbose })
      | _ => none
    let index := reading.groups + 1
    let named (rest : List Char) : Option (Written × Reading) := do
      let (name, rest) ← readGroupName rest
      if reading.names.contains name then none
      else
        body (.capture index)
          { reading with rest, groups := index, names := name :: reading.names }
    match skip verbose reading.rest with
    | '?' :: '=' :: _ | '?' :: '!' :: _ => none
    | '?' :: '<' :: '=' :: _ | '?' :: '<' :: '!' :: _ => none
    | '?' :: 'P' :: '<' :: rest => named rest
    | '?' :: '<' :: rest => named rest
    | '?' :: rest =>
      let (settings, rest) ← readSettings [] true rest
      let changed := verboseAfter verbose settings
      match rest with
      | ':' :: rest => body (.plain settings) { reading with rest, verbose := changed }
      | ')' :: rest =>
        if settings.isEmpty then none
        else some (change settings, { reading with rest, verbose := changed })
      | _ => none
    | rest => body (.capture index) { reading with rest, groups := index }

end

/-- Read a pattern. -/
def ofText? (text : String) : Option Written := do
  let cs := text.toList
  let (written, reading) ← readAlternatives (4 * cs.length + 4) depthLimit [] ⟨cs, 0, [], false⟩
  if reading.rest.isEmpty && decide (written.depth ≤ depthLimit) then some written else none

end Written

end ChannelRules
