import ChannelRules.Text.Property

namespace ChannelRules.Text

def isAlphabetic (c : Char) : Bool :=
  if c.toNat < 128 then c.isAlpha else (Property.alphabetic .seventeen).contains c

/-- Whether a character is a letter or a number. -/
def isAlphanumeric (c : Char) : Bool :=
  if c.toNat < 128 then c.isAlphanum
  else (Property.alphabetic .seventeen).contains c ||
    (Category.charsOf .seventeen Category.numbers).contains c

end ChannelRules.Text
