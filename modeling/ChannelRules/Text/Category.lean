import ChannelRules.Text.CharSet
import ChannelRules.Text.Newest
import ChannelRules.Text.Category.Letter
import ChannelRules.Text.Category.Mark
import ChannelRules.Text.Category.Number
import ChannelRules.Text.Category.Punctuation
import ChannelRules.Text.Category.Separator
import ChannelRules.Text.Category.Symbol

/-!
# General categories

Every character has one general category. Names, letter case and quoted text follow edition 17 of
the Unicode Character Database, and patterns follow edition 16, in which the newest characters are
unassigned.
-/

namespace ChannelRules.Text

/-- An edition of the Unicode Character Database. -/
inductive Edition where
  | sixteen
  | seventeen

/-- The characters of a set, given for edition 17, that an edition knows. -/
def Edition.known : Edition → CharSet → CharSet
  | sixteen, s => .except s (.ranges newest)
  | seventeen, s => s

/-- A general category. -/
inductive Category where
  | uppercaseLetter
  | lowercaseLetter
  | titlecaseLetter
  | modifierLetter
  | otherLetter
  | nonspacingMark
  | spacingMark
  | enclosingMark
  | decimalNumber
  | letterNumber
  | otherNumber
  | connectorPunctuation
  | dashPunctuation
  | openPunctuation
  | closePunctuation
  | initialPunctuation
  | finalPunctuation
  | otherPunctuation
  | mathSymbol
  | currencySymbol
  | modifierSymbol
  | otherSymbol
  | spaceSeparator
  | lineSeparator
  | paragraphSeparator
  | control
  | format
  | privateUse

namespace Category

def codePoints : Category → CodePoints
  | uppercaseLetter => uppercaseLetters
  | lowercaseLetter => lowercaseLetters
  | titlecaseLetter => titlecaseLetters
  | modifierLetter => modifierLetters
  | otherLetter => otherLetters
  | nonspacingMark => nonspacingMarks
  | spacingMark => spacingMarks
  | enclosingMark => enclosingMarks
  | decimalNumber => decimalNumbers
  | letterNumber => letterNumbers
  | otherNumber => otherNumbers
  | connectorPunctuation => connectorPunctuations
  | dashPunctuation => dashPunctuations
  | openPunctuation => openPunctuations
  | closePunctuation => closePunctuations
  | initialPunctuation => initialPunctuations
  | finalPunctuation => finalPunctuations
  | otherPunctuation => otherPunctuations
  | mathSymbol => mathSymbols
  | currencySymbol => currencySymbols
  | modifierSymbol => modifierSymbols
  | otherSymbol => otherSymbols
  | spaceSeparator => spaceSeparators
  | lineSeparator => lineSeparators
  | paragraphSeparator => paragraphSeparators
  | control => controls
  | format => formats
  | privateUse => privateUses

/-- The pharyngeal letter, lowercase up to edition 16 and without case from edition 17 on. -/
def pharyngeal : CharSet := .ranges [(661, 661)]

def chars (edition : Edition) (category : Category) : CharSet :=
  let listed := edition.known (.ranges category.codePoints)
  match edition, category with
  | .sixteen, lowercaseLetter => .union listed pharyngeal
  | .sixteen, otherLetter => .except listed pharyngeal
  | _, _ => listed

def charsOf (edition : Edition) (categories : List Category) : CharSet :=
  .any (categories.map (chars edition))

def letters : List Category :=
  [uppercaseLetter, lowercaseLetter, titlecaseLetter, modifierLetter, otherLetter]

def marks : List Category := [nonspacingMark, spacingMark, enclosingMark]

def numbers : List Category := [decimalNumber, letterNumber, otherNumber]

def punctuation : List Category :=
  [connectorPunctuation, dashPunctuation, openPunctuation, closePunctuation, initialPunctuation,
    finalPunctuation, otherPunctuation]

def symbols : List Category := [mathSymbol, currencySymbol, modifierSymbol, otherSymbol]

def separators : List Category := [spaceSeparator, lineSeparator, paragraphSeparator]

/-- The characters that have a category. -/
def assigned (edition : Edition) : CharSet :=
  charsOf edition (letters ++ marks ++ numbers ++ punctuation ++ symbols ++ separators ++
    [control, format, privateUse])

end Category

end ChannelRules.Text
