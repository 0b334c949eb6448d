import Mudline.Regex.Parser

/-!
# Search programs

A search runs a program of a few kinds of instruction. Where a program forks, the first way is tried
first, so the order of the ways carries the preferences of the expression.
-/

namespace Mudline.Regex

/-- An instruction; places in the program are its indices. -/
inductive Instruction
  /-- Take one character of a set. -/
  | take (s : Charset) (next : Nat)
  /-- Go on at either place, the first by preference. -/
  | fork (first second : Nat)
  /-- Go on where a condition holds. -/
  | check (l : Look) (next : Nat)
  /-- Record the position in a slot. -/
  | mark (slot : Nat) (next : Nat)
  /-- The expression has matched. -/
  | accept
  deriving Inhabited

/-- Code as far as it has been written, and the place where it is entered. -/
structure Code where
  /-- The instructions. -/
  instructions : Array Instruction
  /-- The place to start from. -/
  entry : Nat

namespace Code

/-- Adds an instruction and enters the code there. -/
def push (c : Code) (i : Instruction) : Code :=
  let place := c.instructions.size
  ⟨c.instructions.push i, place⟩

/-- The instruction that prefers another round, or not, before going on. -/
def choice (greedy : Bool) (again next : Nat) : Instruction :=
  if greedy then .fork again next else .fork next again

/-- Puts a number of copies of a piece of code in front. -/
def copies (emit : Code → Code) : Nat → Code → Code
  | 0, c => c
  | n + 1, c => copies emit n (emit c)

/-- Puts up to a number of optional copies in front, each inside the one before it. All of them can
be left for the place `next`. -/
def options (emit : Code → Code) (greedy : Bool) (next : Nat) : Nat → Code → Code
  | 0, c => c
  | n + 1, c =>
    let body := emit c
    options emit greedy next n (body.push (choice greedy body.entry next))

/-- Puts one or more rounds in front: the body, and after it the choice of another round. The choice
is at the place returned beside the code. -/
def rounds (emit : Code → Code) (greedy : Bool) (c : Code) : Code × Nat :=
  let next := c.entry
  let hole := c.push .accept
  let place := hole.entry
  let body := emit hole
  let again := body.entry
  (⟨body.instructions.set! place (choice greedy again next), again⟩, place)

/-- Puts any number of rounds in front. A body that always takes a character is entered through the
choice after it; any other gets a choice of its own before the first round, so that rounds that take
nothing do not change which match is preferred. -/
def anyRounds (emit : Code → Code) (takes greedy : Bool) (c : Code) : Code :=
  let next := c.entry
  let (body, place) := rounds emit greedy c
  if takes then { body with entry := place }
  else body.push (choice greedy body.entry next)

end Code

/-- Puts the code of an expression in front of code that goes on after it. -/
def Node.emit : Node → Code → Code
  | .empty, c => c
  | .literal t, c => t.foldr (fun char c => c.push (.take (.single char) c.entry)) c
  | .set s, c => c.push (.take s c.entry)
  | .look l, c => c.push (.check l c.entry)
  | .group index body, c =>
    let inner := body.emit (c.push (.mark (2 * index + 1) c.entry))
    inner.push (.mark (2 * index) inner.entry)
  | .seq first rest, c => first.emit (rest.emit c)
  | .alt first rest, c =>
    let next := c.entry
    let second := rest.emit c
    let other := second.entry
    let both := first.emit { second with entry := next }
    both.push (.fork both.entry other)
  | .loop min max greedy body, c =>
    match max with
    | some max =>
      Code.copies body.emit min (Code.options body.emit greedy c.entry (max - min) c)
    | none =>
      if min == 0 then Code.anyRounds body.emit body.takes greedy c
      else Code.copies body.emit (min - 1) (Code.rounds body.emit greedy c).1

/-- The program of an expression. -/
def Node.program (n : Node) : Code :=
  n.emit ⟨#[.accept], 0⟩

end Mudline.Regex
