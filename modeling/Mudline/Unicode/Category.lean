import Mudline.Unicode.CategoryTable
import Mudline.Unicode.Charset

/-!
# General categories

Every character has one general category. The categories are grouped by their first letter.
-/

namespace Mudline.Unicode

/-- The general categories, by their two-letter names. -/
inductive Category
  | lu | ll | lt | lm | lo | mn | mc | me | nd | nl | no | pc | pd | ps | pe | pi | pf | po
  | sm | sc | sk | so | zs | zl | zp | cc | cf | cs | co | cn
  deriving DecidableEq, Repr

/-- The two-letter names, in lower case, with the categories they name. -/
def categoryNames : List (Text × Category) :=
  [("lu", .lu), ("ll", .ll), ("lt", .lt), ("lm", .lm), ("lo", .lo), ("mn", .mn), ("mc", .mc),
   ("me", .me), ("nd", .nd), ("nl", .nl), ("no", .no), ("pc", .pc), ("pd", .pd), ("ps", .ps),
   ("pe", .pe), ("pi", .pi), ("pf", .pf), ("po", .po), ("sm", .sm), ("sc", .sc), ("sk", .sk),
   ("so", .so), ("zs", .zs), ("zl", .zl), ("zp", .zp), ("cc", .cc), ("cf", .cf), ("cs", .cs),
   ("co", .co), ("cn", .cn)]

/-- Reads runs: words that hold a name of `width` letters and a number of code points. -/
def readRuns (width : Nat) (table : List String) : List (Text × Nat) :=
  (table.flatMap fun line => Text.words line.toList).map fun word =>
    (word.take width, Text.digitsValue 0 (word.drop width))

/-- The runs of equal general category. -/
def categoryRuns : List (Category × Nat) :=
  (readRuns 2 categoryRunText).map fun (name, count) =>
    ((categoryNames.lookup (Text.asciiLower name)).getD .cn, count)

/-- The characters of a general category. -/
def Category.chars (g : Category) : Charset :=
  .ofRuns (· == g) categoryRuns

/-- The characters of some general categories. -/
def ofCategories (members : List Category) : Charset :=
  .ofRuns members.contains categoryRuns

/-- The letters of every kind. -/
def letters : List Category := [.lu, .ll, .lt, .lm, .lo]

/-- The marks of every kind. -/
def marks : List Category := [.mn, .mc, .me]

/-- The numbers of every kind. -/
def numbers : List Category := [.nd, .nl, .no]

/-- The punctuation of every kind. -/
def punctuations : List Category := [.pc, .pd, .ps, .pe, .pi, .pf, .po]

/-- The symbols of every kind. -/
def symbols : List Category := [.sm, .sc, .sk, .so]

/-- The separators of every kind. -/
def separators : List Category := [.zs, .zl, .zp]

/-- The categories of characters that stand for nothing that can be seen. -/
def others : List Category := [.cc, .cf, .cs, .co, .cn]

end Mudline.Unicode
