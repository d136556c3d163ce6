import ChannelRules.Text.Property

/-!
# Word characters and decimal digits

The classes behind the pattern escapes for digits and for words: decimal digits (`Nd`), and
letters, marks, decimal digits, connector punctuation and the two joiners.
-/

namespace ChannelRules.Text

def decimalDigits : CodePoints := (Property.charsIn .decimalNumber).codePoints

def wordCharacters : CodePoints := (Property.word .sixteen).codePoints

/-- Whether a character is an ASCII letter, an ASCII digit or an underscore. -/
def isAsciiWord (c : Char) : Bool := c.isAlphanum || c == '_'

/-- Whether a character can be part of a word. -/
def isWord (c : Char) : Bool :=
  if c.toNat < 128 then isAsciiWord c else wordCharacters.contains c

end ChannelRules.Text
