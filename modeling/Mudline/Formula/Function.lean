import Mudline.Regex.Replace
import Mudline.Text.Search
import Mudline.Number.Numeral

/-!
# Functions

The functions that formulas may call. A function is looked up by its name in lower case and by the
number of its arguments; it takes texts without the quotes around them and returns a text. A truth
value is returned as its word.
-/

namespace Mudline.Function

/-- Why a call fails. -/
inductive Error
  /-- There is no function of that name with so many arguments. -/
  | missing (name : Text) (arity : Nat)
  /-- The start of a part of a text lies outside the text. -/
  | startOutOfBounds
  /-- The end of a part of a text lies outside the text. -/
  | endOutOfBounds
  deriving DecidableEq, Repr

/-- The report of an error. -/
def Error.message : Error → Text
  | missing name arity =>
    "No function registered as ".toList ++ name ++ ['('] ++ Text.ofNat arity ++ [')']
  | startOutOfBounds => "substring start index is out of bounds"
  | endOutOfBounds => "substring end index is out of bounds"

/-- What a call yields: a text, and the groups of a match if it made one. -/
structure Output where
  /-- The result. -/
  text : Text
  /-- The groups of the match, the whole match first. -/
  groups : List Text := []
  deriving DecidableEq, Repr

/-- The functions. -/
inductive Builtin
  /-- Whether a text occurs in another, in any case. -/
  | contains
  /-- How often a text occurs in another. -/
  | count
  /-- How many pieces a separator cuts a text into. -/
  | countSplit
  /-- The number of characters. -/
  | length
  /-- Whether an expression matches. -/
  | matchRe
  /-- A text in lower case. -/
  | toLower
  /-- A text in upper case. -/
  | toUpper
  /-- A text without the blanks around it. -/
  | trim
  /-- A text with another replaced in it. -/
  | replace
  /-- A text with every match of an expression replaced in it. -/
  | replaceRe
  /-- Whether a text begins with another. -/
  | startsWith
  /-- Whether a text ends with another. -/
  | endsWith
  /-- A text with a capital first and the rest in lower case. -/
  | capitalize
  /-- The greatest whole number that is not greater. -/
  | floor
  /-- The least whole number that is not less. -/
  | ceil
  /-- The nearest whole number. -/
  | round
  /-- Whether a shared variable is set. -/
  | isSet
  /-- A part of a text. -/
  | substring
  /-- An entry of a list. -/
  | element
  deriving DecidableEq, Repr

/-- The names of the functions. -/
def table : List (Text × Builtin) :=
  [("contains", .contains), ("count", .count), ("countsplit", .countSplit), ("length", .length),
   ("len", .length), ("matchre", .matchRe), ("tolower", .toLower), ("toupper", .toUpper),
   ("tocaps", .toUpper), ("trim", .trim), ("replace", .replace), ("replacere", .replaceRe),
   ("startswith", .startsWith), ("endswith", .endsWith), ("capitalize", .capitalize),
   ("titlecase", .capitalize), ("floor", .floor), ("ceil", .ceil), ("round", .round),
   ("def", .isSet), ("substring", .substring), ("substr", .substring), ("element", .element)]

/-- The function with a name, in any case. -/
def find? (name : Text) : Option Builtin :=
  table.lookup (Unicode.lower name)

/-- Whether some function has the name, in any case. -/
def exists? (name : Text) : Bool :=
  (find? name).isSome

/-- Drops the double quotes at both ends. -/
def trimQuotes (t : Text) : Text :=
  Text.trimWhile (· == '"') t

/-- A text as the result of a call. -/
def ofText (t : Text) : Output :=
  ⟨t, []⟩

/-- The word for a truth value. -/
def ofBool (b : Bool) : Output :=
  ⟨if b then "true" else "false", []⟩

/-- The numeral of a natural number. -/
def ofCount (n : Nat) : Output :=
  ⟨Text.ofNat n, []⟩

/-- Rounds the number that a text spells; any other text counts as zero. -/
def rounded (f : Float → Float) (t : Text) : Output :=
  ⟨Number.format (f ((Number.read? t).getD 0.0)), []⟩

/-- How often a text occurs in another; the empty text occurs nowhere. -/
def count (sep t : Text) : Nat :=
  if sep.isEmpty then 0 else Text.occurrences sep t

/-- How many pieces a separator cuts a text into. -/
def countSplit (sep t : Text) : Nat :=
  if sep.isEmpty then 1 else (Text.pieces sep t).length

/-- The groups of the first match of an expression. A malformed expression yields the text
itself. -/
def matchGroups (pattern t : Text) : Output :=
  match Regex.compile pattern with
  | .error _ => ⟨t, []⟩
  | .ok regex =>
    match regex.captures? t with
    | some groups => ⟨"true", groups⟩
    | none => ofBool false

/-- A text with every match of an expression replaced. A malformed expression changes nothing. -/
def replaceMatches (pattern template t : Text) : Text :=
  match Regex.compile pattern with
  | .error _ => t
  | .ok regex => regex.replaceAll template t

/-- The part of a text with the given start and length, which must lie within the text. -/
def part (t : Text) (start length : Int) : Except Error Text :=
  if start < 0 || (t.length : Int) < start then .error .startOutOfBounds
  else if length < 0 || (t.length : Int) - start < length then .error .endOutOfBounds
  else .ok ((t.drop start.toNat).take length.toNat)

/-- The whole number that a text spells between blanks; any other text counts as zero. -/
def readIndex (t : Text) : Int :=
  (Text.readInt? (Text.trim t)).getD 0

/-- An entry of a list whose entries are separated by bars; empty when there is no such entry. -/
def listEntry (index list : Text) : Text :=
  match Text.readWord? (Text.trim index) with
  | some i => if list.isEmpty then [] else ((Text.splitOn '|' list)[i]?).getD []
  | none => []

/-- Runs a function on arguments that have lost their quotes. There is no result when their number
is not the one that the function takes. The test `known` tells which shared variables are set. -/
def run? (known : Text → Bool) : Builtin → List Text → Option (Except Error Output)
  | .contains, [t, part] =>
    some (.ok (ofBool (Text.occursIn (Unicode.lower part) (Unicode.lower t))))
  | .count, [t, sep] => some (.ok (ofCount (count sep t)))
  | .countSplit, [t, sep] => some (.ok (ofCount (countSplit sep t)))
  | .length, [t] => some (.ok (ofCount t.length))
  | .matchRe, [t, pattern] => some (.ok (matchGroups pattern t))
  | .toLower, [t] => some (.ok (ofText (Unicode.lower t)))
  | .toUpper, [t] => some (.ok (ofText (Unicode.upper t)))
  | .trim, [t] => some (.ok (ofText (Text.trim t)))
  | .replace, [t, old, new] => some (.ok (ofText (Text.replace old new t)))
  | .replaceRe, [t, pattern, template] => some (.ok (ofText (replaceMatches pattern template t)))
  | .startsWith, [t, start] => some (.ok (ofBool (start.isPrefixOf t)))
  | .endsWith, [t, ending] => some (.ok (ofBool (ending.isSuffixOf t)))
  | .capitalize, [t] => some (.ok (ofText (Unicode.capitalize t)))
  | .floor, [t] => some (.ok (rounded Number.floor t))
  | .ceil, [t] => some (.ok (rounded Number.ceil t))
  | .round, [t] => some (.ok (rounded Number.round t))
  | .isSet, [name] => some (.ok (ofBool (known name)))
  | .substring, [t, start, length] =>
    some ((part t (readIndex start) (readIndex length)).map ofText)
  | .element, [index, list] => some (.ok (ofText (listEntry index list)))
  | _, _ => none

/-- Calls a function by its name in any case, on arguments that may stand between quotes. -/
def call (known : Text → Bool) (name : Text) (args : List Text) : Except Error Output :=
  match (find? name).bind fun f => run? known f (args.map trimQuotes) with
  | some r => r
  | none => .error (.missing (Unicode.lower name) args.length)

end Mudline.Function
