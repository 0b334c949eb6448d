import Mudline.Text.Basic

/-!
# Faults

A fault is a condition that the program does not survive: no result of the step in which it arises
is ever seen.
-/

namespace Mudline

/-- What the program does not survive. -/
inductive Fault
  /-- A word is cut within the encoding of one of its characters. -/
  | cutCharacter
  /-- A duration has too many seconds for 64 bits. -/
  | durationRange
  /-- A moment lies past the end of the clock. -/
  | clockRange
  deriving DecidableEq, Repr

/-- The report of a fault. -/
def Fault.message : Fault → Text
  | cutCharacter => "a word is cut within a character"
  | durationRange => "a duration is too long"
  | clockRange => "a moment lies past the end of the clock"

end Mudline
