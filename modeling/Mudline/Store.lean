import Mudline.Number.Numeral

/-!
# Variables

A store holds the variables of a script, or the ones that the stream and all scripts share. A name
in running text is not marked off from what follows it, so the store is also asked for the longest
of its names that a text starts with.
-/

namespace Mudline

/-- Variables with their values. No name occurs twice. -/
structure Store where
  /-- The variables, in the order in which they were first set. -/
  entries : List (Text × Text) := []
  deriving DecidableEq, Repr

namespace Store

/-- The store without variables. -/
def empty : Store := {}

/-- The value of a variable. -/
def get? (s : Store) (name : Text) : Option Text :=
  s.entries.lookup name

/-- Whether a variable is set. -/
def contains (s : Store) (name : Text) : Bool :=
  (s.get? name).isSome

/-- Puts an entry in the place of the one with its name, or at the end. -/
def put (name value : Text) : List (Text × Text) → List (Text × Text)
  | [] => [(name, value)]
  | entry :: rest => if entry.1 == name then (name, value) :: rest else entry :: put name value rest

/-- Sets a variable. -/
def set (s : Store) (name value : Text) : Store :=
  ⟨put name value s.entries⟩

/-- Sets several variables, in order. -/
def setAll (s : Store) (entries : List (Text × Text)) : Store :=
  entries.foldl (fun s (name, value) => s.set name value) s

/-- Removes a variable. -/
def unset (s : Store) (name : Text) : Store :=
  ⟨s.entries.filter (·.1 != name)⟩

/-- How many variables are set. -/
def size (s : Store) : Nat :=
  s.entries.length

/-- The value of a variable as a number: zero when it is missing or blank, and nothing when it is
no numeral. Infinities and the name of no number count as numerals here. -/
def number? (s : Store) (name : Text) : Option Float :=
  match Text.trim ((s.get? name).getD []) with
  | [] => some 0.0
  | value => Number.readDouble? value

/-- The better of two candidates for the longest name. -/
def longer (best : Option (Text × Text)) (entry : Text × Text) : Option (Text × Text) :=
  match best with
  | some found => if found.1.length < entry.1.length then some entry else best
  | none => some entry

/-- The longest non-empty name that `t` starts with, and its value. -/
def longestAtStart? (s : Store) (t : Text) : Option (Text × Text) :=
  (s.entries.filter fun (name, _) => !name.isEmpty && name.isPrefixOf t).foldl longer none

end Store

end Mudline
