import ChannelRules.Text.CodePoints

/-!
# White space

The characters with the Unicode property `White_Space`, and texts with the white space at their
ends taken away.
-/

namespace ChannelRules.Text

def blanks : CodePoints :=
  [(9, 13), (32, 32), (133, 133), (160, 160), (5760, 5760), (8192, 8202), (8232, 8233),
   (8239, 8239), (8287, 8287), (12288, 12288)]

/-- Whether a character is white space. -/
def isBlank (c : Char) : Bool := blanks.contains c

/-- The text without the white space it starts with. -/
def trimStart (cs : List Char) : List Char := cs.dropWhile isBlank

/-- The text without the white space it starts and ends with. -/
def trim (cs : List Char) : List Char := (trimStart (trimStart cs).reverse).reverse

end ChannelRules.Text
