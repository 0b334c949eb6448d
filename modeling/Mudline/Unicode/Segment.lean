import Mudline.Unicode.Property
import Mudline.Unicode.Script

/-!
# Boundaries of graphemes, words and sentences

The classes of characters by which the Unicode standard finds the boundaries between graphemes,
between words and between sentences, with the names under which patterns know them. Characters
outside all classes have no name here.
-/

namespace Mudline.Unicode

/-- The joiner, which all three kinds of boundary treat apart. -/
def zeroWidthJoiner : Charset :=
  .ofWords ["200D"]

/-- The carriage return. -/
def carriageReturn : Charset :=
  .ofWords ["D"]

/-- The line feed. -/
def lineFeed : Charset :=
  .ofWords ["A"]

/-- Characters that continue the grapheme before them. -/
def graphemeExtender : Charset :=
  (graphemeExtend.union emojiModifier).diff zeroWidthJoiner

/-- Spacing marks, most of which continue the grapheme before them. -/
def graphemeSpacing : Charset :=
  ((Category.mc.chars.diff graphemeExtend).union (.ofWords ["E33 EB3"])).diff
    (.ofWords
      ["102B-102C 1038 1062-1064 1067-106D 1083 1087-108C 108F 109A-109C 1A61 1A63-1A64 AA7B AA7D",
       "11720-11721"])

/-- Characters that stand alone between graphemes. -/
def graphemeControl : Charset :=
  ((ofCategories [.zl, .zp, .cc, .cf]).union (Category.cn.chars.inter defaultIgnorable)).diff
    (.unions
      [carriageReturn, lineFeed, zeroWidthJoiner, graphemeExtend, prependedConcatenationMark])

/-- Characters that the grapheme after them continues. -/
def graphemePrepend : Charset :=
  prependedConcatenationMark.union
    (.ofWords ["D4E 111C2-111C3 113D1 1193F 11941 11A3A 11A84-11A89 11D46 11F02"])

/-- The first Hangul syllable. -/
def firstSyllable : Nat := 0xAC00

/-- The Hangul syllables without a final consonant: every twenty-eighth. -/
def openSyllables : Charset :=
  .ofPoints ((List.range 399).map fun i => firstSyllable + 28 * i)

/-- The Hangul syllables. -/
def syllables : Charset :=
  .ofRanges [(firstSyllable, firstSyllable + 28 * 399 - 1)]

/-- The classes of grapheme boundaries, by short and long names in lower case. -/
def graphemeClasses : List (List String × Charset) :=
  [(["cr"], carriageReturn), (["lf"], lineFeed), (["zwj"], zeroWidthJoiner),
   (["cn", "control"], graphemeControl), (["ex", "extend"], graphemeExtender),
   (["sm", "spacingmark"], graphemeSpacing), (["pp", "prepend"], graphemePrepend),
   (["ri", "regionalindicator"], regionalIndicator),
   (["l"], .ofWords ["1100-115F A960-A97C"]),
   (["v"], .ofWords ["1160-11A7 D7B0-D7C6 16D63 16D67-16D6A"]),
   (["t"], .ofWords ["11A8-11FF D7CB-D7FB"]),
   (["lv"], openSyllables), (["lvt"], syllables.diff openSyllables)]

/-- Characters that continue the word before them. -/
def wordExtend : Charset :=
  (Charset.unions [graphemeExtend, Category.mc.chars, emojiModifier]).diff zeroWidthJoiner

/-- The digits, and the signs that belong to numbers. -/
def wordNumeric : Charset :=
  (Charset.unions [Category.nd.chars, prependedConcatenationMark, .ofWords ["66B"]]).diff
    (.ofWords ["70F"])

/-- Formats within words. -/
def wordFormat : Charset :=
  Category.cf.chars.diff
    (.unions [graphemeExtend, wordNumeric, .ofWords ["70F 200B-200D"]])

/-- Katakana, and signs that belong to it. -/
def wordKatakana : Charset :=
  (scriptChars "Kana").union (.ofWords ["3031-3035 309B-309C 30A0 30FC FF70"])

/-- Hebrew letters. -/
def wordHebrew : Charset :=
  (scriptChars "Hebr").inter Category.lo.chars

/-- Letters of scripts that put no blanks between words. -/
def unspacedLetters : Charset :=
  .ofWords
    ["E01-E30 E32-E33 E40-E46 E81-E82 E84 E86-E8A E8C-EA3 EA5 EA7-EB0 EB2-EB3 EBD EC0-EC4 EC6",
     "EDC-EDF 1000-102A 103F 1050-1055 105A-105D 1061 1065-1066 106E-1070 1075-1081 108E",
     "1780-17B3 17D7 17DC 1950-196D 1970-1974 1980-19AB 19B0-19C9 1A20-1A54 1AA7 A9E0-A9E4",
     "A9E6-A9EF A9FA-A9FE AA60-AA76 AA7A AA7E-AAAF AAB1 AAB5-AAB6 AAB9-AABD AAC0 AAC2",
     "AADB-AADD 11700-1171A 11740-11746"]

/-- Letters of words between blanks. -/
def wordLetter : Charset :=
  (alphabetic.diff
    (.unions
      [ideographic, wordKatakana, wordHebrew, scriptChars "Hira", wordExtend,
       unspacedLetters])).union
    (.ofWords
      ["2C2-2C5 2D2-2D7 2DE-2DF 2E5-2EB 2ED 2EF-2FF 55A-55C 55E 58A 5F3 70F A708-A716 A720-A721",
       "A789-A78A AB5B"])

/-- The classes of word boundaries, by short and long names in lower case. -/
def wordClasses : List (List String × Charset) :=
  [(["cr"], carriageReturn), (["lf"], lineFeed), (["zwj"], zeroWidthJoiner),
   (["nl", "newline"], .ofWords ["B-C 85 2028-2029"]), (["extend"], wordExtend),
   (["fo", "format"], wordFormat), (["ka", "katakana"], wordKatakana),
   (["hl", "hebrewletter"], wordHebrew), (["le", "aletter"], wordLetter),
   (["nu", "numeric"], wordNumeric), (["ri", "regionalindicator"], regionalIndicator),
   (["ex", "extendnumlet"], Category.pc.chars.union (.ofWords ["202F"])),
   (["sq", "singlequote"], .ofWords ["27"]), (["dq", "doublequote"], .ofWords ["22"]),
   (["ml", "midletter"], .ofWords ["3A B7 387 55F 5F4 2027 FE13 FE55 FF1A"]),
   (["mn", "midnum"],
    .ofWords ["2C 3B 37E 589 60C-60D 66C 7F8 2044 FE10 FE14 FE50 FE54 FF0C FF1B"]),
   (["mb", "midnumlet"], .ofWords ["2E 2018-2019 2024 FE52 FF07 FF0E"]),
   (["wsegspace"], Category.zs.chars.diff (.ofWords ["A0 2007 202F"]))]

/-- Characters that continue the sentence before them without a part in it. -/
def sentenceExtend : Charset :=
  Charset.unions [graphemeExtend, Category.mc.chars, zeroWidthJoiner]

/-- Formats within sentences. -/
def sentenceFormat : Charset :=
  Category.cf.chars.diff
    (.unions [graphemeExtend, wordNumeric, .ofWords ["200C-200D"]])

/-- Letters in lower case. Georgian letters have an upper case that starts no sentence. -/
def sentenceLower : Charset :=
  lowercase.diff (graphemeExtend.union (.ofWords ["10D0-10FA 10FD-10FF"]))

/-- Letters in upper or title case. -/
def sentenceUpper : Charset :=
  (uppercase.union Category.lt.chars).diff (.ofWords ["1C90-1CBA 1CBD-1CBF"])

/-- Letters without case. -/
def sentenceLetter : Charset :=
  (alphabetic.diff (.unions [sentenceLower, sentenceUpper, sentenceExtend])).union
    (.ofWords ["5F3"])

/-- Full stops, which may end a sentence or an abbreviation. -/
def fullStops : Charset :=
  .ofWords ["2E 2024 FE52 FF0E"]

/-- Quotation marks and brackets after the end of a sentence. -/
def sentenceClose : Charset :=
  (ofCategories [.ps, .pe, .pi, .pf]).union
    (.ofWords ["22 27 275B-2760 2E00-2E01 2E06-2E08 2E0B 1F676-1F678"])

/-- The separators that end a sentence by themselves. -/
def sentenceSeparators : Charset :=
  .ofWords ["85 2028-2029"]

/-- The classes of sentence boundaries, by short and long names in lower case. -/
def sentenceClasses : List (List String × Charset) :=
  [(["cr"], carriageReturn), (["lf"], lineFeed), (["ex", "extend"], sentenceExtend),
   (["se", "sep"], sentenceSeparators), (["fo", "format"], sentenceFormat),
   (["sp"], whiteSpace.diff (.unions [carriageReturn, lineFeed, sentenceSeparators])),
   (["lo", "lower"], sentenceLower), (["up", "upper"], sentenceUpper),
   (["le", "oletter"], sentenceLetter), (["nu", "numeric"], wordNumeric.union (.ofWords ["66C"])),
   (["at", "aterm"], fullStops), (["st", "sterm"], sentenceTerminal.diff fullStops),
   (["cl", "close"], sentenceClose),
   (["sc", "scontinue"],
    .ofWords
      ["2C-2D 3A-3B 37E 55D 60C-60D 7F8 1802 1808 2013-2014 3001 FE10-FE11 FE13-FE14 FE31-FE32",
       "FE50-FE51 FE54-FE55 FE58 FE63 FF0C-FF0D FF1A-FF1B FF64"])]

/-- The class with a name, in lower case. -/
def classNamed? (classes : List (List String × Charset)) (name : Text) : Option Charset :=
  (classes.find? fun (names, _) => names.any (·.toList == name)).map (·.2)

end Mudline.Unicode
