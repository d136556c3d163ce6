import ChannelRules.Text.Property
import ChannelRules.Text.Script

/-!
# Where text divides

The classes of characters by which text is divided into graphemes, words and sentences. A class is
given with its names, in small letters without blanks.
-/

namespace ChannelRules.Text

/-- A set of characters and its names. -/
structure NamedChars where
  names : List String
  chars : CharSet

namespace Break

open Category Property

/-- The code points of a script. -/
def scriptNamed (name : String) : CharSet :=
  .any ((scripts.filter fun script => script.names.contains name).map fun script =>
    .ranges script.codePoints)

/-- The Hangul syllables without a final consonant. -/
def openSyllables : CodePoints := (List.range 399).map fun i => (44032 + 28 * i, 44032 + 28 * i)

/-- Controls, and unassigned code points that may be left out when text is shown. -/
def controlled : CharSet :=
  .except
    (.union (charsOf .sixteen [lineSeparator, paragraphSeparator, control, format])
      (.except defaultIgnorable (assigned .sixteen)))
    (.any [.ranges [(10, 10), (13, 13), (8205, 8205)], .ranges prependedConcatenationMark,
      graphemeExtend .sixteen])

/-- Spacing marks that start no grapheme. -/
def joinedMarks : CharSet :=
  .union
    (.except (charsIn spacingMark)
      (.union (graphemeExtend .sixteen)
        (.ranges [(4139, 4140), (4152, 4152), (4194, 4196), (4199, 4205), (4227, 4227),
          (4231, 4236), (4239, 4239), (4250, 4252), (6753, 6753), (6755, 6756), (43643, 43643),
          (43645, 43645), (71456, 71457)])))
    (.ranges [(3635, 3635), (3763, 3763)])

def graphemeClasses : List NamedChars :=
  [⟨["cn", "control"], controlled⟩,
   ⟨["cr"], .ranges [(13, 13)]⟩,
   ⟨["ex", "extend"], .union (graphemeExtend .sixteen) (.ranges emojiModifier)⟩,
   ⟨["l"], .ranges [(4352, 4447), (43360, 43388)]⟩,
   ⟨["lf"], .ranges [(10, 10)]⟩,
   ⟨["lv"], .ranges openSyllables⟩,
   ⟨["lvt"], .except (.ranges [(44032, 55203)]) (.ranges openSyllables)⟩,
   ⟨["pp", "prepend"],
     .union (.ranges prependedConcatenationMark)
       (.ranges [(3406, 3406), (70082, 70083), (70609, 70609), (71999, 71999), (72001, 72001),
         (72250, 72250), (72324, 72329), (73030, 73030), (73474, 73474)])⟩,
   ⟨["ri", "regionalindicator"], .ranges regionalIndicator⟩,
   ⟨["sm", "spacingmark"], joinedMarks⟩,
   ⟨["t"], .ranges [(4520, 4607), (55243, 55291)]⟩,
   ⟨["v"], .ranges [(4448, 4519), (55216, 55238), (93539, 93539), (93543, 93546)]⟩,
   ⟨["zwj"], .ranges [(8205, 8205)]⟩]

/-- Characters that continue the one before them within a word. -/
def wordExtend : CharSet :=
  .except
    (.any [graphemeExtend .sixteen, charsIn spacingMark, .ranges emojiModifier])
    (.ranges [(8205, 8205)])

/-- Katakana, with the marks used among them. -/
def katakana : CharSet :=
  .union (scriptNamed "katakana")
    (.ranges [(12337, 12341), (12443, 12444), (12448, 12448), (12540, 12540), (65392, 65392)])

def hebrewLetter : CharSet := .both (scriptNamed "hebrew") (charsIn otherLetter)

/-- Letters of scripts that are written without blanks between words. -/
def unspacedLetters : CodePoints :=
  [(3585, 3632), (3634, 3635), (3648, 3654), (3713, 3714), (3716, 3716), (3718, 3722),
   (3724, 3747), (3749, 3749), (3751, 3760), (3762, 3763), (3773, 3773), (3776, 3780),
   (3782, 3782), (3804, 3807), (4096, 4138), (4159, 4159), (4176, 4181), (4186, 4189),
   (4193, 4193), (4197, 4198), (4206, 4208), (4213, 4225), (4238, 4238), (6016, 6067),
   (6103, 6103), (6108, 6108), (6480, 6509), (6512, 6516), (6528, 6571), (6576, 6601),
   (6688, 6740), (6823, 6823), (43488, 43492), (43494, 43503), (43514, 43518), (43616, 43638),
   (43642, 43642), (43646, 43695), (43697, 43697), (43701, 43702), (43705, 43709), (43712, 43712),
   (43714, 43714), (43739, 43741), (71424, 71450), (71488, 71494)]

/-- Marks that count as letters between letters. -/
def letterLike : CodePoints :=
  [(184, 184), (706, 709), (722, 727), (734, 735), (741, 747), (749, 749), (751, 767),
   (1370, 1372), (1374, 1374), (1418, 1418), (1523, 1523), (1807, 1807), (42760, 42774),
   (42784, 42785), (42889, 42890), (43867, 43867)]

def wordLetter : CharSet :=
  .union
    (.except (alphabetic .sixteen)
      (.any [.ranges ideographic, katakana, scriptNamed "hiragana", wordExtend, hebrewLetter,
        .ranges unspacedLetters]))
    (.ranges letterLike)

/-- Digits, and the signs that stand before or within them. -/
def numeric : CharSet :=
  .union (charsIn decimalNumber)
    (.ranges [(1536, 1541), (1643, 1643), (1757, 1757), (2192, 2193), (2274, 2274), (6618, 6618),
      (69821, 69821), (69837, 69837)])

def wordClasses : List NamedChars :=
  [⟨["cr"], .ranges [(13, 13)]⟩,
   ⟨["dq", "doublequote"], .ranges [(34, 34)]⟩,
   ⟨["ex", "extendnumlet"], .union (charsIn connectorPunctuation) (.ranges [(8239, 8239)])⟩,
   ⟨["extend"], wordExtend⟩,
   ⟨["fo", "format"],
     .except (charsIn format)
       (.any [.ranges [(8203, 8203), (8205, 8205)], wordExtend,
         .ranges prependedConcatenationMark])⟩,
   ⟨["hl", "hebrewletter"], hebrewLetter⟩,
   ⟨["ka", "katakana"], katakana⟩,
   ⟨["le", "aletter"], wordLetter⟩,
   ⟨["lf"], .ranges [(10, 10)]⟩,
   ⟨["mb", "midnumlet"],
     .ranges [(46, 46), (8216, 8217), (8228, 8228), (65106, 65106), (65287, 65287),
       (65294, 65294)]⟩,
   ⟨["ml", "midletter"],
     .ranges [(58, 58), (183, 183), (903, 903), (1375, 1375), (1524, 1524), (8231, 8231),
       (65043, 65043), (65109, 65109), (65306, 65306)]⟩,
   ⟨["mn", "midnum"],
     .ranges [(44, 44), (59, 59), (894, 894), (1417, 1417), (1548, 1549), (1644, 1644),
       (2040, 2040), (8260, 8260), (65104, 65104), (65108, 65108), (65292, 65292),
       (65307, 65307)]⟩,
   ⟨["nl", "newline"], .ranges [(11, 12), (133, 133), (8232, 8233)]⟩,
   ⟨["nu", "numeric"], numeric⟩,
   ⟨["ri", "regionalindicator"], .ranges regionalIndicator⟩,
   ⟨["sq", "singlequote"], .ranges [(39, 39)]⟩,
   ⟨["wsegspace"],
     .ranges [(32, 32), (5760, 5760), (8192, 8198), (8200, 8202), (8287, 8287), (12288, 12288)]⟩,
   ⟨["zwj"], .ranges [(8205, 8205)]⟩]

/-- Characters that continue the one before them within a sentence. -/
def sentenceExtend : CharSet := .union (graphemeExtend .sixteen)
  (.union (charsIn spacingMark) (.ranges [(8205, 8205)]))

/-- The Georgian letters that have no case within a sentence. -/
def caselessGeorgian : CodePoints := [(4304, 4347), (4349, 4351), (7312, 7359)]

def sentenceLower : CharSet :=
  .except (lowercase .sixteen) (.union sentenceExtend (.ranges caselessGeorgian))

def sentenceUpper : CharSet :=
  .except (.union (uppercase .sixteen) (charsIn titlecaseLetter)) (.ranges caselessGeorgian)

def fullStops : CodePoints := [(46, 46), (8228, 8228), (65106, 65106), (65294, 65294)]

/-- Brackets and quotation marks. -/
def closing : CharSet :=
  .union
    (.except
      (.union
        (charsOf .sixteen
          [openPunctuation, closePunctuation, initialPunctuation, finalPunctuation])
        (.ranges quotationMark))
      (.ranges [(65282, 65282), (65287, 65287)]))
    (.ranges [(10075, 10080), (11776, 11777), (11782, 11784), (11787, 11787), (128630, 128632)])

def sentenceClasses : List NamedChars :=
  [⟨["at", "aterm"], .ranges fullStops⟩,
   ⟨["cl", "close"], closing⟩,
   ⟨["cr"], .ranges [(13, 13)]⟩,
   ⟨["ex", "extend"], sentenceExtend⟩,
   ⟨["fo", "format"],
     .except (charsIn format)
       (.any [sentenceExtend,
         .except (.ranges prependedConcatenationMark) (.ranges [(1807, 1807)])])⟩,
   ⟨["le", "oletter"],
     .except (.union (alphabetic .sixteen) (.ranges [(1523, 1523)]))
       (.any [sentenceLower, sentenceUpper, sentenceExtend])⟩,
   ⟨["lf"], .ranges [(10, 10)]⟩,
   ⟨["lo", "lower"], sentenceLower⟩,
   ⟨["nu", "numeric"], .union numeric (.ranges [(1644, 1644)])⟩,
   ⟨["sc", "scontinue"],
     .ranges [(44, 45), (58, 59), (894, 894), (1373, 1373), (1548, 1549), (2040, 2040),
       (6146, 6146), (6152, 6152), (8211, 8212), (12289, 12289), (65040, 65041), (65043, 65044),
       (65073, 65074), (65104, 65105), (65108, 65109), (65112, 65112), (65123, 65123),
       (65292, 65293), (65306, 65307), (65380, 65380)]⟩,
   ⟨["se", "sep"], .ranges [(133, 133), (8232, 8233)]⟩,
   ⟨["sp"], .except whiteSpace (.ranges [(10, 10), (13, 13), (133, 133), (8232, 8233)])⟩,
   ⟨["st", "sterm"], .except (.ranges sentenceTerminal) (.ranges fullStops)⟩,
   ⟨["up", "upper"], sentenceUpper⟩]

end Break

end ChannelRules.Text
