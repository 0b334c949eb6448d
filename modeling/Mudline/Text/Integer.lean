import Mudline.Text.Basic

/-!
# Reading integers

Whole numbers are read from texts that hold nothing but an optional sign and decimal digits, and
only up to a given bound: a numeral past the bound is no number.
-/

namespace Mudline.Text

/-- The value of a text of decimal digits, continuing from `acc`. -/
def digitsValue (acc : Nat) : Text → Nat
  | [] => acc
  | c :: rest => digitsValue (acc * 10 + digitValue c) rest

/-- Whether a character is a hexadecimal digit of ASCII. -/
def isHexDigit (c : Char) : Bool :=
  isDigit c || ('a' ≤ c && c ≤ 'f') || ('A' ≤ c && c ≤ 'F')

/-- The value of a hexadecimal digit. -/
def hexDigitValue (c : Char) : Nat :=
  if isDigit c then digitValue c else (c.toLower.toNat - 'a'.toNat) + 10

/-- The value of a text of hexadecimal digits. -/
def hexValue (digits : Text) : Nat :=
  digits.foldl (fun n c => n * 16 + hexDigitValue c) 0

/-- Reads a non-empty text of decimal digits. -/
def readDigits? (t : Text) : Option Nat :=
  if !t.isEmpty && t.all isDigit then some (digitsValue 0 t) else none

/-- Reads decimal digits after an optional plus sign, up to `max`. -/
def readNat? (max : Nat) (t : Text) : Option Nat :=
  let digits := match t with
    | '+' :: rest => rest
    | _ => t
  (readDigits? digits).filter (· ≤ max)

/-- The largest unsigned number of 64 bits. -/
def maxWord : Nat := 0xFFFFFFFFFFFFFFFF

/-- The largest signed number of 64 bits. -/
def maxInt : Nat := 0x7FFFFFFFFFFFFFFF

/-- Reads an unsigned number of 64 bits. -/
def readWord? (t : Text) : Option Nat :=
  readNat? maxWord t

/-- Reads a signed number of 64 bits. -/
def readInt? : Text → Option Int
  | '-' :: rest => ((readDigits? rest).filter (· ≤ maxInt + 1)).map fun n => -(n : Int)
  | t => (readNat? maxInt t).map fun n => (n : Int)

end Mudline.Text
