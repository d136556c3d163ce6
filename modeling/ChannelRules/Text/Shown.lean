import ChannelRules.Text.Property

/-!
# Characters that stand for themselves in quoted text

Letters, marks that do not attach to the character before them, numbers, punctuation, symbols and
the plain space are shown as they are; every other character is escaped by its code point, and so
are the letters that only fill a place.
-/

namespace ChannelRules.Text

open Category in
/-- The characters that quoted text holds as they are, above the ASCII range. -/
def shownBeyondAscii : CharSet :=
  .union
    (.except (charsOf .seventeen (letters ++ numbers ++ punctuation ++ symbols))
      (.ranges Property.otherDefaultIgnorable))
    (.except (spacingMark.chars .seventeen) (.ranges Property.otherGraphemeExtend))

/-- Whether quoted text holds a character as it is. -/
def isShown (c : Char) : Bool :=
  if c.toNat < 128 then decide (32 ≤ c.toNat) && c.toNat != 127 else shownBeyondAscii.contains c

end ChannelRules.Text
