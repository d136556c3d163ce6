import ChannelRules.Text.Age
import ChannelRules.Text.Break
import ChannelRules.Text.Script.Shared

/-!
# Sets of characters by name

The names of Unicode properties and of their values, as patterns write them: a set is named by a
category, a script or a property that characters have or do not have, or by a property and one of
its values.
-/

namespace ChannelRules.Text

/-- A name as it is compared: small letters, no blanks, underscores or dashes, and no `is` in
front. The name of an obsolete property that would be left with one letter keeps its `is`. -/
def plainName (name : String) : String :=
  let small (cs : List Char) : List Char :=
    (cs.filter fun c => decide (c.toNat < 128) && c != ' ' && c != '_' && c != '-').map Char.toLower
  match name.toList with
  | a :: b :: rest =>
    if a.toLower = 'i' ∧ b.toLower = 's' then
      if small rest = ['c'] then "isc" else String.ofList (small rest)
    else String.ofList (small (a :: b :: rest))
  | cs => String.ofList (small cs)

/-- The characters of the first entry with a name. -/
def NamedChars.find? (entries : List NamedChars) (name : String) : Option CharSet :=
  (entries.find? fun entry => entry.names.contains name).map NamedChars.chars

namespace NamedSet

open Category Property

/-- The categories and their unions. -/
def categories : List NamedChars :=
  [⟨["any"], .ranges CodePoints.everything⟩,
   ⟨["assigned"], assigned .sixteen⟩,
   ⟨["ascii"], .ranges [(0, 127)]⟩,
   ⟨["c", "other"],
     .complement (charsOf .sixteen
       (letters ++ marks ++ numbers ++ punctuation ++ symbols ++ separators))⟩,
   ⟨["cc", "control", "cntrl"], charsIn control⟩,
   ⟨["cf", "format"], charsIn format⟩,
   ⟨["cn", "unassigned"], .complement (assigned .sixteen)⟩,
   ⟨["co", "privateuse"], charsIn privateUse⟩,
   ⟨["l", "letter"], charsOf .sixteen letters⟩,
   ⟨["lc", "casedletter"], charsOf .sixteen [uppercaseLetter, lowercaseLetter, titlecaseLetter]⟩,
   ⟨["ll", "lowercaseletter"], charsIn lowercaseLetter⟩,
   ⟨["lm", "modifierletter"], charsIn modifierLetter⟩,
   ⟨["lo", "otherletter"], charsIn otherLetter⟩,
   ⟨["lt", "titlecaseletter"], charsIn titlecaseLetter⟩,
   ⟨["lu", "uppercaseletter"], charsIn uppercaseLetter⟩,
   ⟨["m", "mark", "combiningmark"], charsOf .sixteen marks⟩,
   ⟨["mc", "spacingmark"], charsIn spacingMark⟩,
   ⟨["me", "enclosingmark"], charsIn enclosingMark⟩,
   ⟨["mn", "nonspacingmark"], charsIn nonspacingMark⟩,
   ⟨["n", "number"], charsOf .sixteen numbers⟩,
   ⟨["nd", "decimalnumber", "digit"], charsIn decimalNumber⟩,
   ⟨["nl", "letternumber"], charsIn letterNumber⟩,
   ⟨["no", "othernumber"], charsIn otherNumber⟩,
   ⟨["p", "punctuation", "punct"], charsOf .sixteen Category.punctuation⟩,
   ⟨["pc", "connectorpunctuation"], charsIn connectorPunctuation⟩,
   ⟨["pd", "dashpunctuation"], charsIn dashPunctuation⟩,
   ⟨["pe", "closepunctuation"], charsIn closePunctuation⟩,
   ⟨["pf", "finalpunctuation"], charsIn finalPunctuation⟩,
   ⟨["pi", "initialpunctuation"], charsIn initialPunctuation⟩,
   ⟨["po", "otherpunctuation"], charsIn otherPunctuation⟩,
   ⟨["ps", "openpunctuation"], charsIn openPunctuation⟩,
   ⟨["s", "symbol"], charsOf .sixteen symbols⟩,
   ⟨["sc", "currencysymbol"], charsIn currencySymbol⟩,
   ⟨["sk", "modifiersymbol"], charsIn modifierSymbol⟩,
   ⟨["sm", "mathsymbol"], charsIn mathSymbol⟩,
   ⟨["so", "othersymbol"], charsIn otherSymbol⟩,
   ⟨["z", "separator"], charsOf .sixteen separators⟩,
   ⟨["zl", "lineseparator"], charsIn lineSeparator⟩,
   ⟨["zp", "paragraphseparator"], charsIn paragraphSeparator⟩,
   ⟨["zs", "spaceseparator"], charsIn spaceSeparator⟩]

def properties : List NamedChars :=
  [⟨["ahex", "asciihexdigit"], .ranges asciiHexDigit⟩,
   ⟨["alpha", "alphabetic"], alphabetic .sixteen⟩,
   ⟨["bidic", "bidicontrol"], .ranges bidiControl⟩,
   ⟨["cased"], cased .sixteen⟩,
   ⟨["ci", "caseignorable"], caseIgnorable .sixteen⟩,
   ⟨["cwcf", "changeswhencasefolded"], changesWhenCasefolded⟩,
   ⟨["cwcm", "changeswhencasemapped"], casemapped⟩,
   ⟨["cwl", "changeswhenlowercased"], changesWhenLowercased⟩,
   ⟨["cwt", "changeswhentitlecased"], changesWhenTitlecased⟩,
   ⟨["cwu", "changeswhenuppercased"], changesWhenUppercased⟩,
   ⟨["dash"], .ranges dash⟩,
   ⟨["dep", "deprecated"], .ranges Property.deprecated⟩,
   ⟨["di", "defaultignorablecodepoint"], defaultIgnorable⟩,
   ⟨["dia", "diacritic"], .ranges diacritic⟩,
   ⟨["ebase", "emojimodifierbase"], .ranges emojiModifierBase⟩,
   ⟨["ecomp", "emojicomponent"], .ranges emojiComponent⟩,
   ⟨["emod", "emojimodifier"], .ranges emojiModifier⟩,
   ⟨["emoji"], .ranges emoji⟩,
   ⟨["epres", "emojipresentation"], .ranges emojiPresentation⟩,
   ⟨["ext", "extender"], .ranges extender⟩,
   ⟨["extpict", "extendedpictographic"], .ranges extendedPictographic⟩,
   ⟨["grbase", "graphemebase"], graphemeBase⟩,
   ⟨["grext", "graphemeextend"], graphemeExtend .sixteen⟩,
   ⟨["grlink", "graphemelink"], .ranges graphemeLink⟩,
   ⟨["hex", "hexdigit"], .ranges hexDigit⟩,
   ⟨["hyphen"], .ranges hyphen⟩,
   ⟨["idc", "idcontinue"], idContinue⟩,
   ⟨["idcompatmathcontinue"], .ranges idCompatMathContinue⟩,
   ⟨["idcompatmathstart"], .ranges idCompatMathStart⟩,
   ⟨["ideo", "ideographic"], .ranges ideographic⟩,
   ⟨["ids", "idstart"], idStart⟩,
   ⟨["idsb", "idsbinaryoperator"], .ranges idsBinaryOperator⟩,
   ⟨["idst", "idstrinaryoperator"], .ranges idsTrinaryOperator⟩,
   ⟨["idsu", "idsunaryoperator"], .ranges idsUnaryOperator⟩,
   ⟨["joinc", "joincontrol"], .ranges joinControl⟩,
   ⟨["loe", "logicalorderexception"], .ranges logicalOrderException⟩,
   ⟨["lower", "lowercase"], lowercase .sixteen⟩,
   ⟨["math"], math⟩,
   ⟨["mcm", "modifiercombiningmark"], .ranges modifierCombiningMark⟩,
   ⟨["nchar", "noncharactercodepoint"], .ranges noncharacterCodePoint⟩,
   ⟨["oalpha", "otheralphabetic"], Edition.known .sixteen (.ranges otherAlphabetic)⟩,
   ⟨["odi", "otherdefaultignorablecodepoint"], .ranges otherDefaultIgnorable⟩,
   ⟨["ogrext", "othergraphemeextend"], .ranges otherGraphemeExtend⟩,
   ⟨["oidc", "otheridcontinue"], .ranges otherIdContinue⟩,
   ⟨["oids", "otheridstart"], .ranges otherIdStart⟩,
   ⟨["olower", "otherlowercase"], Edition.known .sixteen (.ranges otherLowercase)⟩,
   ⟨["omath", "othermath"], .ranges otherMath⟩,
   ⟨["oupper", "otheruppercase"], .ranges otherUppercase⟩,
   ⟨["patsyn", "patternsyntax"], .ranges patternSyntax⟩,
   ⟨["patws", "patternwhitespace"], .ranges patternWhiteSpace⟩,
   ⟨["pcm", "prependedconcatenationmark"], .ranges prependedConcatenationMark⟩,
   ⟨["qmark", "quotationmark"], .ranges quotationMark⟩,
   ⟨["radical"], .ranges radical⟩,
   ⟨["ri", "regionalindicator"], .ranges regionalIndicator⟩,
   ⟨["sd", "softdotted"], .ranges softDotted⟩,
   ⟨["sterm", "sentenceterminal"], .ranges sentenceTerminal⟩,
   ⟨["term", "terminalpunctuation"], .ranges terminalPunctuation⟩,
   ⟨["uideo", "unifiedideograph"], .ranges unifiedIdeograph⟩,
   ⟨["upper", "uppercase"], uppercase .sixteen⟩,
   ⟨["vs", "variationselector"], .ranges variationSelector⟩,
   ⟨["wspace", "whitespace", "space"], whiteSpace⟩,
   ⟨["xidc", "xidcontinue"], xidContinue⟩,
   ⟨["xids", "xidstart"], xidStart⟩]

def script? (name : String) : Option Script :=
  scripts.find? fun script => script.names.contains name

def usedWith (script : Script) : CharSet :=
  let shared (runs : List (Nat × Nat × List String)) : CharSet :=
    .ranges (runs.map fun run => (run.1, run.2.1))
  .union (.except (.ranges script.codePoints) (shared sharedRuns))
    (shared (sharedRuns.filter fun run => run.2.2.any script.names.contains))

/-- The characters of an edition and of those before it. -/
def addedBy? (name : String) : Option CharSet := do
  let major (e : Added) : String := toString e.major
  let names (e : Added) : List String :=
    [major e ++ "." ++ toString e.minor, "v" ++ major e ++ toString e.minor]
  let later := editions.dropWhile fun e => !(names e).contains name
  if later.isEmpty then none
  else
    some (.any ((editions.take (editions.length + 1 - later.length)).map fun e =>
      .ranges e.codePoints))

/-- The characters with a property, in a category or of a script. -/
def ofName? (written : String) : Option CharSet :=
  let name := plainName written
  (NamedChars.find? properties name).or <| (NamedChars.find? categories name).or <|
    (script? name).map fun script => .ranges script.codePoints

def ofValue? (property value : String) : Option CharSet :=
  let value := plainName value
  match plainName property with
  | "gc" | "generalcategory" => NamedChars.find? categories value
  | "sc" | "script" => (script? value).map fun script => .ranges script.codePoints
  | "scx" | "scriptextensions" => (script? value).map usedWith
  | "age" => addedBy? value
  | "gcb" | "graphemeclusterbreak" => NamedChars.find? Break.graphemeClasses value
  | "wb" | "wordbreak" => NamedChars.find? Break.wordClasses value
  | "sb" | "sentencebreak" => NamedChars.find? Break.sentenceClasses value
  | _ => none

end NamedSet

end ChannelRules.Text
