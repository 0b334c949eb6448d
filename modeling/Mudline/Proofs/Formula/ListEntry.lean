import Mudline.Proofs.Formula.Part
import Mudline.Proofs.Text.Entries

/-!
# Functions on lists

A formula asks how many entries a list has, and for an entry by its place. The place is kept in one
word of the machine, and a numeral past the largest word names no entry.
-/

namespace Mudline.Function

/-- The entry between bars that is found at a place. -/
def entryFound (list : Text) (i : Nat) : Text :=
  if i ≤ Text.maxWord then Text.entryAt '|' list i else []

/-- Up to the largest word, an index finds the entry at its place. -/
theorem entryFound_of_le {list : Text} {i : Nat} (h : i ≤ Text.maxWord) :
    entryFound list i = Text.entryAt '|' list i :=
  if_pos h

/-- Behind the end of a list, an index finds nothing. -/
theorem entryFound_behind {list : Text} {i : Nat} (h : (Text.splitOn '|' list).length ≤ i) :
    entryFound list i = [] := by
  rw [entryFound, Text.entryAt_of_le h, ite_self]

section Lists

variable {list : Text} (hfirst : list.head? ≠ some '"') (hlast : list.getLast? ≠ some '"')

include hfirst hlast

/-- The entries between bars are counted. -/
theorem call_countSplit (known : Text → Bool) : call known "countsplit" [list, "|"] =
    .ok (ofCount (Text.splitOn '|' list).length) := by
  have hfind : find? "countsplit" = some .countSplit := by decide
  have hbar : trimQuotes "|" = ['|'] := by decide
  have hcount : countSplit ['|'] list = (Text.splitOn '|' list).length := by
    rw [countSplit, List.isEmpty_cons, Text.pieces_singleton]
    rfl
  refine call_of_run? hfind ?_
  simp only [List.map_cons, List.map_nil, trimQuotes_eq_self hfirst hlast, hbar, run?, hcount]

/-- The entry at a place is found, if the place fits a word. -/
theorem call_element (known : Text → Bool) (i : Nat) :
    call known "element" [Text.ofNat i, list] = .ok (ofText (entryFound list i)) := by
  have hfind : find? "element" = some .element := by decide
  have hdigits : trimQuotes (Text.ofNat i) = Text.ofNat i :=
    trimQuotes_integer (.unsigned (Text.ofNat_ne_nil i) fun _ hc => Text.isDigit_of_mem_ofNat hc)
  have hentry : listEntry (Text.ofNat i) list = entryFound list i := by
    rw [listEntry, Text.trim_ofNat, Text.readWord?_ofNat, entryFound]
    by_cases hi : i ≤ Text.maxWord
    · rw [if_pos hi, if_pos hi]
      cases list with
      | nil => exact (Text.entryAt_nil '|' i).symm
      | cons c list => rfl
    · rw [if_neg hi, if_neg hi]
  refine call_of_run? hfind ?_
  simp only [List.map_cons, List.map_nil, trimQuotes_eq_self hfirst hlast, hdigits, run?, hentry]

end Lists

end Mudline.Function
