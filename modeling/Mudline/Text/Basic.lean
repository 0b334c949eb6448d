/-!
# Texts

A text is the list of its characters, so that every scan over it is structural recursion. This
module holds the blanks (the characters that separate words), trimming, words and lines, the order
of texts, and comparison without regard to the case of ASCII letters.
-/

namespace Mudline

/-- A text, as the list of its characters. -/
abbrev Text := List Char

instance : Coe String Text := ⟨String.toList⟩

namespace Text

/-- The characters with the Unicode property `White_Space`: the ones that separate words. -/
def isBlank (c : Char) : Bool :=
  let n := c.toNat
  (9 ≤ n && n ≤ 13) || n == 0x20 || n == 0x85 || n == 0xA0 || n == 0x1680
    || (0x2000 ≤ n && n ≤ 0x200A) || n == 0x2028 || n == 0x2029 || n == 0x202F || n == 0x205F
    || n == 0x3000

/-- The ASCII blanks: space, tab, line feed, form feed and carriage return. -/
def isAsciiBlank (c : Char) : Bool :=
  c == ' ' || c == '\t' || c == '\n' || c == '\x0c' || c == '\r'

/-- The ASCII letters. -/
def isAsciiLetter (c : Char) : Bool :=
  ('a' ≤ c && c ≤ 'z') || ('A' ≤ c && c ≤ 'Z')

/-- The ASCII digits. -/
def isDigit (c : Char) : Bool :=
  '0' ≤ c && c ≤ '9'

/-- The value of an ASCII digit. -/
def digitValue (c : Char) : Nat :=
  c.toNat - '0'.toNat

/-- Drops the characters satisfying `p` from the end. -/
def dropEndWhile (p : Char → Bool) (t : Text) : Text :=
  (t.reverse.dropWhile p).reverse

/-- Drops leading blanks. -/
def trimStart (t : Text) : Text :=
  t.dropWhile isBlank

/-- Drops trailing blanks. -/
def trimEnd (t : Text) : Text :=
  dropEndWhile isBlank t

/-- Drops blanks at both ends. -/
def trim (t : Text) : Text :=
  trimEnd (trimStart t)

/-- Drops the characters satisfying `p` at both ends. -/
def trimWhile (p : Char → Bool) (t : Text) : Text :=
  dropEndWhile p (t.dropWhile p)

/-- The first word, and what follows it from the next word on. Trailing blanks stay. -/
def splitWord (t : Text) : Text × Text :=
  let s := trimStart t
  (s.takeWhile (!isBlank ·), trimStart (s.dropWhile (!isBlank ·)))

/-- Adds a character to the first piece of a split. -/
def consFirst (c : Char) : List Text → List Text
  | [] => [[c]]
  | piece :: pieces => (c :: piece) :: pieces

/-- Cuts at every character satisfying `p`, which is dropped. -/
def splitWhere (p : Char → Bool) : Text → List Text
  | [] => [[]]
  | c :: rest => if p c then [] :: splitWhere p rest else consFirst c (splitWhere p rest)

/-- Cuts at every occurrence of the character `sep`. -/
def splitOn (sep : Char) (t : Text) : List Text :=
  splitWhere (· == sep) t

/-- The non-empty words between blanks. -/
def words (t : Text) : List Text :=
  (splitWhere isBlank t).filter (!·.isEmpty)

/-- Joins texts with a separator between neighbours. -/
def join (sep : Text) (pieces : List Text) : Text :=
  sep.intercalate pieces

/-- Drops one carriage return at the end. -/
def dropReturn (line : Text) : Text :=
  if line.getLast? == some '\r' then line.dropLast else line

/-- The lines of a text. A line ends at a line feed, with or without a carriage return before it;
what follows the last line feed is a line when it is not empty, and then it keeps a carriage
return. -/
def lines (t : Text) : List Text :=
  let pieces := splitOn '\n' t
  let last := pieces.getLast?.getD []
  pieces.dropLast.map dropReturn ++ if last.isEmpty then [] else [last]

/-- Lower-cases the ASCII letters. -/
def asciiLower (t : Text) : Text :=
  t.map Char.toLower

/-- Equality up to the case of ASCII letters. -/
def sameWord (a b : Text) : Bool :=
  asciiLower a == asciiLower b

/-- The order of texts, by code points from the left. -/
def order : Text → Text → Ordering
  | [], [] => .eq
  | [], _ :: _ => .lt
  | _ :: _, [] => .gt
  | a :: as, b :: bs => if a < b then .lt else if b < a then .gt else order as bs

/-- The decimal digits of a natural number. -/
def ofNat (n : Nat) : Text :=
  Nat.toDigits 10 n

/-- The decimal digits of an integer, after a minus sign if it is negative. -/
def ofInt : Int → Text
  | .ofNat n => ofNat n
  | .negSucc n => '-' :: ofNat (n + 1)

/-- The text drops `p` from its start, if it starts with `p`. -/
def stripStart? (p t : Text) : Option Text :=
  if p.isPrefixOf t then some (t.drop p.length) else none

/-- The text drops `p` from its end, if it ends with `p`. -/
def stripEnd? (p t : Text) : Option Text :=
  if p.isSuffixOf t then some (t.take (t.length - p.length)) else none

end Text

end Mudline
