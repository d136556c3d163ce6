import ChannelRules.Text.Category
import ChannelRules.Text.Blank
import ChannelRules.Text.Property.Casing
import ChannelRules.Text.Property.Emoji
import ChannelRules.Text.Property.Listed
import ChannelRules.Text.Property.Other

/-!
# Derived properties

Properties of characters that follow from their categories and from lists of exceptions. Where
names and texts use a property as well as patterns, it takes the edition; the others are given for
patterns, in edition 16 of the Unicode Character Database.
-/

namespace ChannelRules.Text.Property

open Category

/-- The characters with the property `Lowercase`. -/
def lowercase (edition : Edition) : CharSet :=
  .union (lowercaseLetter.chars edition) (edition.known (.ranges otherLowercase))

/-- The characters with the property `Uppercase`. -/
def uppercase (edition : Edition) : CharSet :=
  .union (uppercaseLetter.chars edition) (.ranges otherUppercase)

def cased (edition : Edition) : CharSet :=
  .any [lowercase edition, uppercase edition, titlecaseLetter.chars edition]

/-- The characters with the property `Alphabetic`. -/
def alphabetic (edition : Edition) : CharSet :=
  .union (charsOf edition (letterNumber :: letters)) (edition.known (.ranges otherAlphabetic))

/-- Apostrophes, full stops, colons and middle dots, which do not end a word between letters. -/
def wordInner : CodePoints :=
  [(39, 39), (46, 46), (58, 58), (183, 183), (903, 903), (1375, 1375), (1524, 1524), (8216, 8217),
   (8228, 8228), (8231, 8231), (65043, 65043), (65106, 65106), (65109, 65109), (65287, 65287),
   (65294, 65294), (65306, 65306)]

/-- The characters that case rules look through. -/
def caseIgnorable (edition : Edition) : CharSet :=
  .union (charsOf edition [nonspacingMark, enclosingMark, format, modifierLetter, modifierSymbol])
    (.ranges wordInner)

/-- The characters that attach to the one before them. -/
def graphemeExtend (edition : Edition) : CharSet :=
  .union (charsOf edition [nonspacingMark, enclosingMark]) (.ranges otherGraphemeExtend)

/-- The characters that can be part of a word. -/
def word (edition : Edition) : CharSet :=
  .any [alphabetic edition, charsOf edition (decimalNumber :: connectorPunctuation :: marks),
    .ranges joinControl]

def charsIn (category : Category) : CharSet := category.chars .sixteen

def whiteSpace : CharSet := .ranges blanks

def math : CharSet := .union (charsIn mathSymbol) (.ranges otherMath)

/-- Format controls, variation selectors and fillers that may be left out when text is shown. -/
def defaultIgnorable : CharSet :=
  .except (.any [charsIn format, .ranges variationSelector, .ranges otherDefaultIgnorable])
    (.any [.ranges [(65529, 65531), (78896, 78912)], .ranges prependedConcatenationMark])

/-- The characters a grapheme can start from. -/
def graphemeBase : CharSet :=
  .except (assigned .sixteen)
    (.union (charsOf .sixteen [control, format, privateUse, lineSeparator, paragraphSeparator])
      (graphemeExtend .sixteen))

/-- The characters that may start an identifier. -/
def idStart : CharSet :=
  .except (.union (charsOf .sixteen (letterNumber :: letters)) (.ranges otherIdStart))
    (.ranges [(11823, 11823)])

/-- The characters that may occur in an identifier. -/
def idContinue : CharSet :=
  .any [idStart,
    charsOf .sixteen [nonspacingMark, spacingMark, decimalNumber, connectorPunctuation],
    .ranges otherIdContinue]

/-- Characters of identifiers that a compatible normal form would take out of them. -/
def idUnstable : CodePoints :=
  [(890, 890), (12443, 12444), (64606, 64611), (65018, 65019), (65136, 65136), (65138, 65138),
   (65140, 65140), (65142, 65142), (65144, 65144), (65146, 65146), (65148, 65148), (65150, 65150)]

/-- The characters that may start an identifier whatever its normal form. -/
def xidStart : CharSet :=
  .except idStart (.union (.ranges idUnstable)
    (.ranges [(3635, 3635), (3763, 3763), (65438, 65439)]))

/-- The characters that may occur in an identifier whatever its normal form. -/
def xidContinue : CharSet := .except idContinue (.ranges idUnstable)

def casemapped : CharSet := .ranges changesWhenCasemapped

/-- The characters that lower case changes. -/
def changesWhenLowercased : CharSet :=
  .both casemapped (.union (uppercase .sixteen) (charsIn titlecaseLetter))

/-- The characters that upper case changes. -/
def changesWhenUppercased : CharSet := .except casemapped (uppercase .sixteen)

/-- The characters that title case changes: the Georgian letters keep their form, and the capital
digraphs have a form of their own. -/
def changesWhenTitlecased : CharSet :=
  .union
    (.except changesWhenUppercased
      (.union (charsIn titlecaseLetter) (.ranges [(4304, 4346), (4349, 4351)])))
    (.ranges [(452, 452), (455, 455), (458, 458), (497, 497)])

/-- The characters that case folding changes; Cherokee folds to its capital letters. -/
def changesWhenCasefolded : CharSet :=
  .union (.except changesWhenLowercased (.ranges [(5024, 5109)])) (.ranges changesOnlyWhenFolded)

end ChannelRules.Text.Property
