import Mudline.Text.Search
import Mudline.Unicode.Case
import Mudline.Unicode.Segment

/-!
# Character properties by name

Expressions name sets of characters by properties: general categories, scripts, ages, classes of
boundaries, and a number of properties that a character has or has not. Names are compared without
regard to case, blanks, underscores, hyphens, and a leading `is`.
-/

namespace Mudline.Regex

open Unicode

/-- The form of a name in which names are compared. One name keeps its `is`, without which it would
be that of a category. -/
def normalName (name : Text) : Text :=
  let dropped := Text.sameWord (name.take 2) "is"
  let rest := if dropped then name.drop 2 else name
  let plain := (Text.asciiLower rest).filter fun c => c != ' ' && c != '_' && c != '-' && isAscii c
  if dropped && plain == "c" then "isc" else plain

/-- The names of unions of general categories. -/
def unionNames : List (Text × List Category) :=
  [("l", letters), ("letter", letters),
   ("lc", [.lu, .ll, .lt]), ("casedletter", [.lu, .ll, .lt]),
   ("m", marks), ("mark", marks), ("combiningmark", marks),
   ("n", numbers), ("number", numbers),
   ("p", punctuations), ("punct", punctuations), ("punctuation", punctuations),
   ("s", symbols), ("symbol", symbols),
   ("z", separators), ("separator", separators),
   ("c", others), ("other", others)]

/-- The long names of single general categories. -/
def longCategoryNames : List (Text × Category) :=
  [("uppercaseletter", .lu), ("lowercaseletter", .ll), ("titlecaseletter", .lt),
   ("modifierletter", .lm), ("otherletter", .lo), ("nonspacingmark", .mn),
   ("spacingmark", .mc), ("enclosingmark", .me), ("decimalnumber", .nd), ("digit", .nd),
   ("letternumber", .nl), ("othernumber", .no), ("connectorpunctuation", .pc),
   ("dashpunctuation", .pd), ("openpunctuation", .ps), ("closepunctuation", .pe),
   ("initialpunctuation", .pi), ("finalpunctuation", .pf), ("otherpunctuation", .po),
   ("mathsymbol", .sm), ("currencysymbol", .sc), ("modifiersymbol", .sk),
   ("othersymbol", .so), ("spaceseparator", .zs), ("lineseparator", .zl),
   ("paragraphseparator", .zp), ("control", .cc), ("cntrl", .cc), ("format", .cf),
   ("privateuse", .co), ("unassigned", .cn)]

/-- The characters of a general category, or of a union of them. No character is a surrogate, so
that category has no name here. -/
def categorySet? (name : Text) : Option Charset :=
  if name == "any" then some .all
  else if name == "ascii" then some .ascii
  else if name == "assigned" then some Category.cn.chars.compl
  else if name == "cs" then none
  else match unionNames.lookup name with
    | some members => some (ofCategories members)
    | none => ((categoryNames ++ longCategoryNames).lookup name).map Category.chars

/-- The characters of a script. -/
def scriptSet? (name : Text) : Option Charset :=
  (scriptNames.lookup name).map scriptChars

/-- The properties that a character has or has not, under their short and long names. -/
def binaryClasses : List (List String × Charset) :=
  [(["alpha", "alphabetic"], alphabetic), (["lower", "lowercase"], lowercase),
   (["upper", "uppercase"], uppercase), (["cased"], cased),
   (["ci", "caseignorable"], caseIgnorable),
   (["cwl", "changeswhenlowercased"], changesLowercased),
   (["cwu", "changeswhenuppercased"], changesUppercased),
   (["cwt", "changeswhentitlecased"], changesTitlecased),
   (["cwcm", "changeswhencasemapped"], changesCasemapped),
   (["cwcf", "changeswhencasefolded"], changesCasefolded),
   (["wspace", "space", "whitespace"], whiteSpace),
   (["ahex", "asciihexdigit"], hexDigit.inter .ascii), (["hex", "hexdigit"], hexDigit),
   (["math"], math), (["dash"], dash), (["hyphen"], hyphen),
   (["qmark", "quotationmark"], quotationMark),
   (["term", "terminalpunctuation"], terminalPunctuation),
   (["sterm", "sentenceterminal"], sentenceTerminal),
   (["patsyn", "patternsyntax"], patternSyntax),
   (["patws", "patternwhitespace"], patternWhiteSpace),
   (["ids", "idstart"], idStart), (["idc", "idcontinue"], idContinue),
   (["xids", "xidstart"], xidStart), (["xidc", "xidcontinue"], xidContinue),
   (["idcompatmathstart"], idCompatMathStart),
   (["idcompatmathcontinue"], idCompatMathContinue),
   (["dia", "diacritic"], diacritic), (["ext", "extender"], extender),
   (["grbase", "graphemebase"], graphemeBase), (["grext", "graphemeextend"], graphemeExtend),
   (["grlink", "graphemelink"], graphemeLink),
   (["mcm", "modifiercombiningmark"], modifierCombiningMark),
   (["pcm", "prependedconcatenationmark"], prependedConcatenationMark),
   (["bidic", "bidicontrol"], bidiControl), (["joinc", "joincontrol"], joinControl),
   (["di", "defaultignorablecodepoint"], defaultIgnorable),
   (["vs", "variationselector"], variationSelector),
   (["nchar", "noncharactercodepoint"], noncharacter), (["dep", "deprecated"], deprecated),
   (["loe", "logicalorderexception"], logicalOrderException),
   (["sd", "softdotted"], softDotted), (["ideo", "ideographic"], ideographic),
   (["uideo", "unifiedideograph"], unifiedIdeograph), (["radical"], radical),
   (["idsu", "idsunaryoperator"], idsUnaryOperator),
   (["idsb", "idsbinaryoperator"], idsBinaryOperator),
   (["idst", "idstrinaryoperator"], idsTrinaryOperator),
   (["emoji"], emoji), (["epres", "emojipresentation"], emojiPresentation),
   (["emod", "emojimodifier"], emojiModifier),
   (["ebase", "emojimodifierbase"], emojiModifierBase),
   (["ecomp", "emojicomponent"], emojiComponent),
   (["extpict", "extendedpictographic"], extendedPictographic),
   (["ri", "regionalindicator"], regionalIndicator),
   (["oalpha", "otheralphabetic"], otherAlphabetic),
   (["olower", "otherlowercase"], otherLowercase),
   (["oupper", "otheruppercase"], otherUppercase), (["omath", "othermath"], otherMath),
   (["ogrext", "othergraphemeextend"], otherGraphemeExtend),
   (["oids", "otheridstart"], otherIdStart), (["oidc", "otheridcontinue"], otherIdContinue),
   (["odi", "otherdefaultignorablecodepoint"], otherDefaultIgnorable)]

/-- The characters with a property that is given by its name alone: a property that a character has
or has not, a general category, or a script. -/
def namedSet? (name : Text) : Option Charset :=
  let name := normalName name
  classNamed? binaryClasses name <|> categorySet? name <|> scriptSet? name

/-- The characters for which the property `name` has the value `value`. -/
def valuedSet? (name value : Text) : Option Charset :=
  let name := normalName name
  let value := normalName value
  let named (names : List Text) : Bool := names.contains name
  if named ["gc", "generalcategory"] then categorySet? value
  else if named ["sc", "script"] then scriptSet? value
  else if named ["scx", "scriptextensions"] then (scriptNames.lookup value).map scriptUsers
  else if named ["age"] then agedChars? value
  else if named ["gcb", "graphemeclusterbreak"] then classNamed? graphemeClasses value
  else if named ["wb", "wordbreak"] then classNamed? wordClasses value
  else if named ["sb", "sentencebreak"] then classNamed? sentenceClasses value
  else none

/-- The characters that the text between the braces of a property escape names, and whether those
without the property are meant instead. -/
def propertySet? (spec : Text) : Option (Charset × Bool) :=
  let valued (separator : Text) (negated : Bool) : Option (Option (Charset × Bool)) :=
    (Text.splitFirst? separator spec).map fun (name, value) =>
      (valuedSet? name value).map (·, negated)
  (valued "!=" true <|> valued ":" false <|> valued "=" false).getD
    ((namedSet? spec).map (·, false))

/-- The named ASCII classes. -/
def asciiClasses : List (List String × Charset) :=
  [(["alnum"], .ofWords ["30-39 41-5A 61-7A"]), (["alpha"], .ofWords ["41-5A 61-7A"]),
   (["ascii"], .ascii), (["blank"], .ofWords ["9 20"]), (["cntrl"], .ofWords ["0-1F 7F"]),
   (["digit"], .range '0' '9'), (["graph"], .range '!' '~'), (["lower"], .range 'a' 'z'),
   (["print"], .range ' ' '~'), (["punct"], .ofWords ["21-2F 3A-40 5B-60 7B-7E"]),
   (["space"], .ofWords ["9-D 20"]), (["upper"], .range 'A' 'Z'),
   (["word"], .ofWords ["30-39 41-5A 5F 61-7A"]), (["xdigit"], .ofWords ["30-39 41-46 61-66"])]

/-- The ASCII class with a name. -/
def asciiClass? (name : Text) : Option Charset :=
  classNamed? asciiClasses name

end Mudline.Regex
