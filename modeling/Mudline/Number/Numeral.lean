import Mudline.Number.Binary
import Mudline.Text.Integer

/-!
# Numerals

The decimal numerals that scripts write, read as doubles, and the text in which a double is shown.
-/

namespace Mudline.Number

/-- The double nearest to `digits · 10 ^ exponent`. Powers far out of range are cut off first. -/
def ofDecimal (digits : Nat) (exponent : Int) : Float :=
  let size := exponent + (Text.ofNat digits).length
  if digits == 0 || size < -400 then 0.0
  else if 400 < size then infinity
  else Float.ofScientific digits (exponent < 0) exponent.natAbs

/-- Reads the exponent that may follow the digits: nothing, or `e`, a sign and digits. -/
def readExponent? : Text → Option Int
  | [] => some 0
  | c :: rest =>
    if c == 'e' || c == 'E' then
      match rest with
      | '-' :: digits => (Text.readDigits? digits).map fun n => -(n : Int)
      | '+' :: digits => (Text.readDigits? digits).map fun n => (n : Int)
      | digits => (Text.readDigits? digits).map fun n => (n : Int)
    else none

/-- Reads digits with at most one point among them, at least one digit, and an exponent. -/
def readDecimal? (t : Text) : Option Float :=
  let whole := t.takeWhile Text.isDigit
  let (fraction, rest) := match t.dropWhile Text.isDigit with
    | '.' :: rest => (rest.takeWhile Text.isDigit, rest.dropWhile Text.isDigit)
    | rest => ([], rest)
  if whole.isEmpty && fraction.isEmpty then none
  else (readExponent? rest).map fun exponent =>
    ofDecimal (Text.digitsValue 0 (whole ++ fraction)) (exponent - fraction.length)

/-- Reads a numeral without its sign, or the name of an infinity or of no number in any case. -/
def readMagnitude? (t : Text) : Option Float :=
  if Text.sameWord t "inf" || Text.sameWord t "infinity" then some infinity
  else if Text.sameWord t "nan" then some nan
  else readDecimal? t

/-- Reads a double. -/
def readDouble? : Text → Option Float
  | '-' :: t => (readMagnitude? t).map (- ·)
  | '+' :: t => readMagnitude? t
  | t => readMagnitude? t

/-- Reads a finite number between blanks. -/
def read? (t : Text) : Option Float :=
  (readDouble? (Text.trim t)).filter (·.isFinite)

/-- The digits of `n` hundredths without needless ones: no trailing zeros, no trailing point. -/
def showHundredths (n : Nat) : Text :=
  let places := [n % 100 / 10, n % 10].map fun d => Char.ofNat ('0'.toNat + d)
  let kept := Text.dropEndWhile (· == '0') places
  Text.ofNat (n / 100) ++ if kept.isEmpty then [] else '.' :: kept

/-- The text of a double: a whole number has no point, any other has at most two places, rounded
exactly with ties to even, and zero has no sign. -/
def format (x : Float) : Text :=
  if x.isNaN then "NaN"
  else if x.isInf then if x < 0.0 then "-inf" else "inf"
  else
    let b := Binary.ofFloat x
    let hundredths := b.scaled 100
    (if b.negative && hundredths != 0 then ['-'] else []) ++ showHundredths hundredths

end Mudline.Number
