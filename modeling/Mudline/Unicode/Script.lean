import Mudline.Unicode.AgeTable
import Mudline.Unicode.Category
import Mudline.Unicode.ScriptTable

/-!
# Scripts and ages

Every character belongs to one script, which patterns may name by its code or its long name. Some
characters are used with a number of scripts beside or instead of their own. Every character has
also an age: the version of Unicode that added it.
-/

namespace Mudline.Unicode

/-- The runs of equal script, by four-letter codes. -/
def scriptRuns : List (Text × Nat) :=
  readRuns 4 scriptRunText

/-- The names of scripts and the codes they stand for, each code first under itself. Names are in
lower case and without the underscores of their long form. -/
def scriptNames : List (Text × Text) :=
  (scriptNameText.flatMap fun line => Text.words line.toList).flatMap fun word =>
    let code := word.take 4
    [(Text.asciiLower code, code),
     (Text.asciiLower ((word.drop 5).filter (· != '_')), code)]

/-- The characters of a script, by its code. -/
def scriptChars (code : Text) : Charset :=
  .ofRuns (· == code) scriptRuns

/-- The characters whose scripts are listed one by one: the codes of scripts, and a set of
characters that are used with all of them. -/
def scriptExtensions : List (List Text × Charset) :=
  scriptExtensionText.map fun line =>
    let line := line.toList
    (Text.words (line.takeWhile (· != ':')),
     .ofRanges ((Text.words ((line.dropWhile (· != ':')).drop 1)).map Charset.readRange))

/-- The characters that are used with a script: those for which it is listed, and those of the
script for which none is listed. -/
def scriptUsers (code : Text) : Charset :=
  let listed := scriptExtensions.filter fun (codes, _) => codes.contains code
  ((scriptChars code).diff (.unions (scriptExtensions.map (·.2)))).union
    (.unions (listed.map (·.2)))

/-- The characters of a version of Unicode and of all versions before it. The version is named by
its two numbers with a point between them, or by the digits of both after a `v`. -/
def agedChars? (version : Text) : Option Charset :=
  let short (name : String) : Text := 'v' :: name.toList.filter (· != '.')
  (ageText.findIdx? fun (name, _) => version == name.toList || version == short name).map
    fun i => .unions ((ageText.take (i + 1)).map fun (_, lines) => .ofWords lines)

end Mudline.Unicode
