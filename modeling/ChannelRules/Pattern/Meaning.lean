import ChannelRules.Text.Case
import ChannelRules.Text.NamedSet
import ChannelRules.Pattern.Basic

/-!
# The meaning of written patterns

In a mode a written pattern stands for a pattern, if for any. Case is ignored in a class before the
class is negated. Where a pattern does not use Unicode its classes are classes of bytes, and one
that reaches beyond ASCII is refused, since a text is never cut inside a character.
-/

namespace ChannelRules

/-- The settings in which a part of a pattern is understood. -/
structure Mode where
  ignoreCase : Bool
  multiLine : Bool
  dotAll : Bool
  swapGreed : Bool
  unicode : Bool
  returns : Bool

namespace Mode

/-- Turn a setting on or off. Verbose writing has no meaning. -/
def set (mode : Mode) : Setting × Bool → Mode
  | (.ignoreCase, on) => { mode with ignoreCase := on }
  | (.multiLine, on) => { mode with multiLine := on }
  | (.dotAll, on) => { mode with dotAll := on }
  | (.swapGreed, on) => { mode with swapGreed := on }
  | (.unicode, on) => { mode with unicode := on }
  | (.returns, on) => { mode with returns := on }
  | (.verbose, _) => mode

/-- Turn settings on or off. -/
def apply (mode : Mode) (change : SettingChange) : Mode := change.foldl set mode

/-- A set together with the ASCII letters that differ from one of it by case. -/
def withAsciiVariants (s : CodePoints) : CodePoints :=
  s.union (CodePoints.ofList ((List.range 26).flatMap fun i =>
    if s.holds (65 + i) || s.holds (97 + i) then [65 + i, 97 + i] else []))

/-- A set, with its case variants where case is ignored. -/
def fold (mode : Mode) (s : CodePoints) : CodePoints :=
  if mode.ignoreCase then
    if mode.unicode then Text.withCaseVariants s else withAsciiVariants s
  else s

/-- The rest of the characters, or of the bytes where Unicode is not used. -/
def negate (mode : Mode) (s : CodePoints) : CodePoints :=
  if mode.unicode then s.complement else s.complement.inter [(0, 255)]

/-- A set, when it cannot match a part of a character. -/
def allowed? (mode : Mode) (s : CodePoints) : Option CodePoints :=
  if mode.unicode || s.isAscii then some s else none

/-- A set of a class, negated or not. -/
def close? (mode : Mode) (negated : Bool) (s : CodePoints) : Option CodePoints :=
  let s := mode.fold s
  mode.allowed? (if negated then mode.negate s else s)

/-- The code point of a character in a class. -/
def codePoint? (mode : Mode) (sign : Sign) : Option Nat :=
  if mode.unicode || decide (sign.char.toNat < 128) then some sign.char.toNat else none

/-- The set of a class that has a letter of its own. -/
def letterChars (mode : Mode) : ClassLetter → CodePoints
  | .digit => if mode.unicode then Text.decimalDigits else [(48, 57)]
  | .blank => if mode.unicode then Text.blanks else [(9, 13), (32, 32)]
  | .word => if mode.unicode then Text.wordCharacters else [(48, 57), (65, 90), (95, 95), (97, 122)]

def namedChars? (mode : Mode) (name : SetName) : Option CodePoints := do
  if mode.unicode then
    let chars ← match name with
      | .alone name => Text.NamedSet.ofName? name
      | .value property value => Text.NamedSet.ofValue? property value
    return chars.codePoints
  else none

def combine : ClassOp → CodePoints → CodePoints → CodePoints
  | .both, s, t => s.inter t
  | .except, s, t => s.diff t
  | .either, s, t => s.symmDiff t

mutual

def classChars? (mode : Mode) : WrittenClass → Option CodePoints
  | .sign sign => do
    let n ← mode.codePoint? sign
    return [(n, n)]
  | .range first last => do
    let a ← mode.codePoint? first
    let b ← mode.codePoint? last
    return [(a, b)]
  | .listed negated ranges => mode.close? negated ranges
  | .letter negated letter =>
    let s := mode.letterChars letter
    mode.allowed? (if negated then mode.negate s else s)
  | .named negated name => do
    let s ← mode.namedChars? name
    mode.close? negated s
  | .bracket negated inner => do
    let s ← classChars? mode inner
    mode.close? negated s
  | .items list => itemChars? mode list
  | .combined op left right => do
    let s ← classChars? mode left
    let t ← classChars? mode right
    return combine op (mode.fold s) (mode.fold t)

def itemChars? (mode : Mode) : List WrittenClass → Option CodePoints
  | [] => some []
  | first :: others => do
    let s ← classChars? mode first
    let t ← itemChars? mode others
    return s.union t

end

def signPattern? (mode : Mode) (sign : Sign) : Option Pattern :=
  let n := sign.char.toNat
  if mode.unicode || decide (n < 128) then some (Pattern.ofSet (mode.fold [(n, n)]))
  else if sign.isByte then none
  else some (.literal [sign.char])

def dotPattern? (mode : Mode) : Option Pattern :=
  if mode.unicode then
    let ends : CodePoints :=
      if mode.dotAll then [] else if mode.returns then [(10, 10), (13, 13)] else [(10, 10)]
    some (.set ends.complement)
  else none

/-- The condition of a place. -/
def lookAt (mode : Mode) : Anchor → Look
  | .lineStart => if mode.multiLine then .lineStart mode.returns else .textStart
  | .lineEnd => if mode.multiLine then .lineEnd mode.returns else .textEnd
  | .textStart => .textStart
  | .textEnd => .textEnd
  | .word edge => .word edge mode.unicode

mutual

/-- What a written pattern stands for, and the mode after it. A group keeps its changes of mode to
itself. -/
def meaning? (mode : Mode) : Written → Option (Pattern × Mode)
  | .change change => some (.empty, mode.apply change)
  | .sign sign => (mode.signPattern? sign).map (·, mode)
  | .dot => mode.dotPattern?.map (·, mode)
  | .anchor anchor => some (.look (mode.lookAt anchor), mode)
  | .chars c => (mode.classChars? c).map fun s => (Pattern.ofSet s, mode)
  | .repeat inner least most lazily => do
    let (inner, mode) ← meaning? mode inner
    return (.repeated inner least most (lazily == mode.swapGreed), mode)
  | .group (.capture index) inner => do
    let (inner, _) ← meaning? mode inner
    return (.group index inner, mode)
  | .group (.plain change) inner => do
    let (inner, _) ← meaning? (mode.apply change) inner
    return (inner, mode)
  | .seq items => do
    let (items, mode) ← meanings? mode items
    return (.sequence items, mode)
  | .alt branches => do
    let (branches, mode) ← meanings? mode branches
    return (.alternatives branches, mode)

/-- What the patterns of a list stand for, each in the mode after the one before it. -/
def meanings? (mode : Mode) : List Written → Option (List Pattern × Mode)
  | [] => some ([], mode)
  | first :: others => do
    let (first, mode) ← meaning? mode first
    let (others, mode) ← meanings? mode others
    return (first :: others, mode)

end

/-- The mode a pattern starts in. -/
def initial (ignoreCase : Bool) : Mode :=
  { ignoreCase, multiLine := false, dotAll := false, swapGreed := false, unicode := true,
    returns := false }

end Mode

end ChannelRules
