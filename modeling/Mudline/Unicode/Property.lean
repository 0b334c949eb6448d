import Mudline.Unicode.CaseTable
import Mudline.Unicode.Category
import Mudline.Unicode.PropertyTable

/-!
# Character properties

The properties that the Unicode standard derives from the general category and from lists of further
characters, as sets, and the few questions about single characters that the library asks.
-/

namespace Mudline.Unicode

/-- The property `Alphabetic`: letters, letter numbers, and listed others. -/
def alphabetic : Charset :=
  (ofCategories (.nl :: letters)).union otherAlphabetic

/-- The property `Lowercase`. -/
def lowercase : Charset :=
  Category.ll.chars.union otherLowercase

/-- The property `Uppercase`. -/
def uppercase : Charset :=
  Category.lu.chars.union otherUppercase

/-- The property `Cased`: characters that have a case. -/
def cased : Charset :=
  .unions [lowercase, uppercase, Category.lt.chars]

/-- The property `Case_Ignorable`: characters that case rules look past. -/
def caseIgnorable : Charset :=
  (ofCategories [.mn, .me, .cf, .lm, .sk]).union
    (.ofWords ["27 2E 3A B7 387 55F 5F4 2018-2019 2024 2027 FE13 FE52 FE55 FF07 FF0E FF1A"])

/-- The property `Math`. -/
def math : Charset :=
  Category.sm.chars.union otherMath

/-- The property `Grapheme_Extend`: characters that join the character before them. -/
def graphemeExtend : Charset :=
  (ofCategories [.mn, .me]).union otherGraphemeExtend

/-- The property `Grapheme_Base`: characters that can be seen and join no other. -/
def graphemeBase : Charset :=
  (ofCategories ([.zl, .zp] ++ others)).compl.diff graphemeExtend

/-- The property `Default_Ignorable_Code_Point`: characters that are not shown. -/
def defaultIgnorable : Charset :=
  (Charset.unions [otherDefaultIgnorable, Category.cf.chars, variationSelector]).diff
    (.unions [whiteSpace, prependedConcatenationMark, .ofWords ["FFF9-FFFB 13430-1343F"]])

/-- The characters of formal syntax, which are kept out of identifiers. -/
def patternCharacters : Charset :=
  patternSyntax.union patternWhiteSpace

/-- The property `ID_Start`: characters that start identifiers. -/
def idStart : Charset :=
  ((ofCategories (.nl :: letters)).union otherIdStart).diff patternCharacters

/-- The property `ID_Continue`: characters that continue identifiers. -/
def idContinue : Charset :=
  (Charset.unions [idStart, ofCategories [.mn, .mc, .nd, .pc], otherIdContinue]).diff
    patternCharacters

/-- Characters that continue identifiers only as long as these are not normalized. -/
def unstableContinue : Charset :=
  .ofWords
    ["37A 309B-309C FC5E-FC63 FDFA-FDFB FE70 FE72 FE74 FE76 FE78 FE7A FE7C FE7E"]

/-- Characters that start identifiers only as long as these are not normalized. -/
def unstableStart : Charset :=
  unstableContinue.union (.ofWords ["E33 EB3 FF9E-FF9F"])

/-- The property `XID_Start`. -/
def xidStart : Charset :=
  idStart.diff unstableStart

/-- The property `XID_Continue`. -/
def xidContinue : Charset :=
  idContinue.diff unstableContinue

/-- The code points of a run. -/
def CaseRun.sources (r : CaseRun) : List Nat :=
  (List.range r.count).map fun i => r.first + i * r.stride

/-- The code point that a run maps `n` to. -/
def CaseRun.image (r : CaseRun) (n : Nat) : Nat :=
  ((n : Int) + r.shift).toNat

/-- The code points of a case mapping with their images. -/
def casePairs (runs : List CaseRun) : List (Nat × Nat) :=
  runs.flatMap fun r => r.sources.map fun n => (n, r.image n)

/-- The code points that a case mapping changes. -/
def changed (runs : List CaseRun) : Charset :=
  .ofPoints ((casePairs runs).map (·.1))

/-- The characters whose upper case is more than one character. -/
def expanding : Charset :=
  .ofPoints (upperExpansions.map (·.1))

/-- The property `Changes_When_Lowercased`. -/
def changesLowercased : Charset :=
  (changed lowerRuns).union (.single 'İ')

/-- The property `Changes_When_Uppercased`. -/
def changesUppercased : Charset :=
  (changed upperRuns).union expanding

/-- Characters that are their own title case although they have an upper case. -/
def titleCaseStable : Charset :=
  .ofWords
    ["1C5 1C8 1CB 1F2 10D0-10FA 10FD-10FF 1F88-1F8F 1F98-1F9F 1FA8-1FAF 1FBC 1FCC 1FFC"]

/-- The property `Changes_When_Titlecased`. Four digraphs in upper case have a title case. -/
def changesTitlecased : Charset :=
  (changesUppercased.diff titleCaseStable).union (.ofWords ["1C4 1C7 1CA 1F1"])

/-- The property `Changes_When_Casemapped`. -/
def changesCasemapped : Charset :=
  .unions [changesLowercased, changesUppercased, changesTitlecased]

/-- The property `Changes_When_Casefolded`: all that case folding changes, and what folds to more
than one character, or would once it is taken apart. -/
def changesCasefolded : Charset :=
  ((changed foldRuns).union
    (.ofWords
      ["DF 130 149 587 1E9A 1F80-1F87 1F90-1F97 1FA0-1FA7 1FB2-1FB4 1FB7 1FC2-1FC4 1FC7 1FF2-1FF4",
       "1FF7 FB00-FB04 FB06 FB13-FB17"])).diff
    (.ofWords ["1FBE 1FD3 1FE3"])

/-- Whether a code point is ASCII. -/
def isAscii (c : Char) : Bool :=
  c.toNat < 128

/-- Alphabetic characters. -/
def isAlphabetic (c : Char) : Bool :=
  if isAscii c then Text.isAsciiLetter c else alphabetic.contains c

/-- The decimal digits of all scripts. -/
def digits : Charset :=
  Category.nd.chars

/-- The characters of numbers. -/
def numeric : Charset :=
  ofCategories numbers

/-- Alphabetic characters and numbers. -/
def isAlphanumeric (c : Char) : Bool :=
  if isAscii c then Text.isAsciiLetter c || Text.isDigit c
  else alphabetic.contains c || numeric.contains c

/-- Characters that have a case. -/
def isCased (c : Char) : Bool :=
  cased.contains c

/-- Characters that case rules look past. -/
def isCaseIgnorable (c : Char) : Bool :=
  caseIgnorable.contains c

/-- Characters that join the character before them. -/
def extendsGrapheme (c : Char) : Bool :=
  graphemeExtend.contains c

/-- The characters of words in patterns: alphabetic characters, marks, decimal digits, connector
punctuation and the two joiners. -/
def wordCharacters : Charset :=
  .unions [alphabetic, ofCategories (marks ++ [.nd, .pc]), joinControl]

/-- The characters of words in patterns. -/
def isWordChar (c : Char) : Bool :=
  if isAscii c then Text.isAsciiLetter c || Text.isDigit c || c == '_'
  else wordCharacters.contains c

/-- The characters that can be shown as they are, apart from the space: all that are neither
separators nor controls, formats, private or unassigned. -/
def printable : Charset :=
  (ofCategories (separators ++ others)).compl

/-- The characters that can be shown as they are. -/
def isPrintable (c : Char) : Bool :=
  c == ' ' || printable.contains c

end Mudline.Unicode
