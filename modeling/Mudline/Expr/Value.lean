import Mudline.Number.Numeral

/-!
# Values

The words of scripts have no type of their own. In an expression a word is a boolean, a number or a
text, whichever it can be read as first.
-/

namespace Mudline

/-- An operand or a result of an expression. -/
inductive Value
  /-- A truth value. -/
  | bool (b : Bool)
  /-- A number. -/
  | number (x : Float)
  /-- Any other text. -/
  | text (t : Text)
  deriving Inhabited

namespace Value

/-- The value that a word stands for. -/
def parse (word : Text) : Value :=
  let word := Text.trim word
  if Text.sameWord word "true" then bool true
  else if Text.sameWord word "false" then bool false
  else match Number.read? word with
    | some x => number x
    | none => text word

/-- The words for the truth values. -/
def boolText (b : Bool) : Text :=
  if b then "true" else "false"

/-- The text in which a value is shown. -/
def display : Value → Text
  | bool b => boolText b
  | number x => Number.format x
  | text t => t

/-- The number that a value is. -/
def asNumber? : Value → Option Float
  | number x => some x
  | _ => none

/-- Whether a value that stands alone holds: a number when it is not zero, and no text. -/
def truthy : Value → Bool
  | bool b => b
  | number x => x != 0.0 && !x.isNaN
  | text _ => false

/-- Whether an operand of a connective holds: of the numbers, one alone does. -/
def holds : Value → Bool
  | bool b => b
  | number x => x == 1.0
  | text _ => false

/-- Equality in scripts. A boolean equals the number that stands for it, and no text; a number and a
text are equal when they are shown alike. -/
def looseEq : Value → Value → Bool
  | bool a, bool b => a == b
  | bool b, number x => x == (if b then 1.0 else 0.0)
  | number x, bool b => x == (if b then 1.0 else 0.0)
  | bool _, text _ => false
  | text _, bool _ => false
  | number x, number y => x == y
  | a, b => a.display == b.display

/-- The order in scripts: of two numbers by size, of other values as they are shown. -/
def order : Value → Value → Ordering
  | number x, number y => if x < y then .lt else if y < x then .gt else .eq
  | a, b => Text.order a.display b.display

end Value

end Mudline
