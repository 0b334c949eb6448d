import Mudline.Regex.Footprint
import Mudline.Regex.Program

/-!
# Searching

A search tries every starting place from the left and, from each, the ways through the program in
order of preference. A way that comes to a place of the program and a position in the text that
another way has left without success is given up, so a search takes no more steps than there are
such pairs.
-/

namespace Mudline.Regex

/-- A way through the program that is still to be followed. -/
structure Thread where
  /-- The place in the program. -/
  place : Nat
  /-- The position in the text. -/
  position : Nat
  /-- The positions recorded so far, the latest first, by slot. -/
  slots : List (Nat × Nat)

/-- The ways that one instruction leads to, in order of preference. -/
def Thread.successors (t : Thread) (input : Array Char) : Instruction → List Thread
  | .take s next =>
    match input[t.position]? with
    | some c => if s.contains c then [⟨next, t.position + 1, t.slots⟩] else []
    | none => []
  | .fork first second => [{ t with place := first }, { t with place := second }]
  | .check l next =>
    let before := if t.position == 0 then none else input[t.position - 1]?
    if l.holds before input[t.position]? then [{ t with place := next }] else []
  | .mark slot next => [{ t with place := next, slots := (slot, t.position) :: t.slots }]
  | .accept => []

/-- Follows ways until one is accepted, with an allowance of steps. The pairs of place and position
that were visited are remembered. -/
def follow (program : Array Instruction) (input : Array Char) :
    Nat → List Thread → Array Bool → Option Thread × Array Bool
  | 0, _, visited => (none, visited)
  | _, [], visited => (none, visited)
  | allowance + 1, t :: rest, visited =>
    let pair := t.place * (input.size + 1) + t.position
    if visited.getD pair true then follow program input allowance rest visited
    else
      match program[t.place]? with
      | some .accept => (some t, visited)
      | some i =>
        follow program input allowance (t.successors input i ++ rest)
          (visited.setIfInBounds pair true)
      | none => follow program input allowance rest visited

/-- Tries `count` starting places from `start` on. -/
def searchFrom (program : Code) (input : Array Char) :
    Nat → Nat → Array Bool → Option (Nat × Thread)
  | 0, _, _ => none
  | count + 1, start, visited =>
    match follow program.instructions input (2 * visited.size + 2) [⟨program.entry, start, []⟩]
        visited with
    | (some t, _) => some (start, t)
    | (none, visited) => searchFrom program input count (start + 1) visited

/-- A match: where it starts and ends, and the same for every group that took part. -/
structure Match where
  /-- The position of the first character. -/
  start : Nat
  /-- The position after the last character. -/
  stop : Nat
  /-- The spans of the groups from the first on. -/
  groups : List (Option (Nat × Nat))

/-- The span that two slots record. -/
def spanOf (slots : List (Nat × Nat)) (index : Nat) : Option (Nat × Nat) := do
  some (← slots.lookup (2 * index), ← slots.lookup (2 * index + 1))

end Regex

/-- A compiled regular expression. -/
structure Regex where
  /-- The program to search with. -/
  program : Regex.Code
  /-- The number of groups. -/
  groups : Nat
  /-- The names of groups, with their indices. -/
  names : List (Text × Nat)

namespace Regex

/-- Why an expression cannot be used. -/
inductive Error
  /-- It is not an expression. -/
  | malformed (source : Text)
  /-- Its program would be too large. -/
  | tooLarge
  deriving DecidableEq, Repr

/-- The first line of the report of an error. What follows it quotes the source and explains what is
wrong with it. -/
def Error.message : Error → Text
  | .malformed _ => "regex parse error:"
  | .tooLarge => "Compiled regex exceeds size limit of 10485760 bytes."

/-- Compiles an expression. -/
def compile (source : Text) : Except Error Regex :=
  match parse? source with
  | none => .error (.malformed source)
  | some parsed =>
    if parsed.node.fits then .ok ⟨parsed.node.program, parsed.node.maxGroup, parsed.names⟩
    else .error .tooLarge

/-- The first match that starts at `start` or later. -/
def findFrom? (r : Regex) (input : Array Char) (start : Nat) : Option Match :=
  let visited := Array.replicate (r.program.instructions.size * (input.size + 1)) false
  (searchFrom r.program input (input.size + 1 - start) start visited).map fun (start, t) =>
    ⟨start, t.position, (List.range r.groups).map fun i => spanOf t.slots (i + 1)⟩

/-- The text of a span; a group that took no part has none. -/
def spanText (input : Array Char) : Option (Nat × Nat) → Text
  | some (start, stop) => (input.extract start stop).toList
  | none => []

/-- The texts of a match: of the whole, and of every group. -/
def Match.texts (m : Match) (input : Array Char) : List Text :=
  (some (m.start, m.stop) :: m.groups).map (spanText input)

/-- The texts of the first match in a text. -/
def captures? (r : Regex) (t : Text) : Option (List Text) :=
  let input := t.toArray
  (r.findFrom? input 0).map (·.texts input)

/-- Whether the expression matches somewhere in a text. -/
def occursIn (r : Regex) (t : Text) : Bool :=
  (r.captures? t).isSome

end Regex

end Mudline
