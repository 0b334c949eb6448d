import Mudline.Script.Run

/-!
# Structured programs

A listing is flat: braces and chains of conditionals are only found while a script runs. This file
holds the nested reading of it. A block is a row of commands and chains; a chain tries its
conditions in order and carries out the body of the first that holds. Each block has the lines on
which it is laid out, and an evaluator that knows neither the index of the next line nor the stack
of chains.
-/

namespace Mudline.Script

/-- A line that does nothing. Such lines may stand between any two lines of a program. -/
inductive Filler
  | blank
  | comment
  deriving DecidableEq, Repr

/-- The line of a filler. -/
def Filler.line : Filler → Line
  | blank => .blank
  | comment => .comment

/-- The lines of fillers. -/
def gapLines (gap : List Filler) : List Line :=
  gap.map Filler.line

mutual

/-- A row of commands and chains of conditionals, with fillers before each and after the last. -/
inductive Block
  /-- The end of the row. -/
  | done (gap : List Filler)
  /-- A command and the row after it. -/
  | command (gap : List Filler) (raw : Text) (rest : Block)
  /-- A chain, which begins with a condition and its body, and the row after it. -/
  | chain (gap : List Filler) (cond : Condition) (arm : Arm) (others : Others) (rest : Block)

/-- The body of a conditional, by the way in which it is laid out. -/
inductive Arm
  /-- A command on the line of the condition. -/
  | inline (raw : Text)
  /-- A command in braces on the line of the condition. -/
  | braced (raw : Text)
  /-- A block opened on the line of the condition. -/
  | block (body : Block)
  /-- A block opened on a line of its own. -/
  | blockBelow (gap : List Filler) (body : Block)
  /-- A command on a line of its own. -/
  | commandBelow (gap : List Filler) (raw : Text)

/-- What follows the first conditional of a chain. -/
inductive Others
  /-- Nothing. -/
  | none
  /-- Another condition with its body, and what follows. -/
  | elseIf (gap : List Filler) (cond : Condition) (arm : Arm) (others : Others)
  /-- The body for the case that no condition holds. -/
  | otherwise (gap : List Filler) (arm : Arm)

end

/-- What the line of a conditional says of its body. -/
def Arm.body : Arm → Body
  | inline raw => .inline raw
  | braced raw => .blockInline raw
  | block _ => .block
  | blockBelow _ _ | commandBelow _ _ => .next

mutual

/-- The lines of a block. -/
def Block.lines : Block → List Line
  | .done gap => gapLines gap
  | .command gap raw rest => gapLines gap ++ .command raw :: rest.lines
  | .chain gap cond arm others rest =>
    gapLines gap ++ .ifLine cond arm.body :: (arm.lines ++ (others.lines ++ rest.lines))

/-- The lines of a body after the line of its condition. -/
def Arm.lines : Arm → List Line
  | .inline _ | .braced _ => []
  | .block body => body.lines ++ [.blockEnd]
  | .blockBelow gap body => gapLines gap ++ .blockStart :: (body.lines ++ [.blockEnd])
  | .commandBelow gap raw => gapLines gap ++ [.command raw]

/-- The lines of the rest of a chain. -/
def Others.lines : Others → List Line
  | .none => []
  | .elseIf gap cond arm others =>
    gapLines gap ++ .elseIfLine cond arm.body :: (arm.lines ++ others.lines)
  | .otherwise gap arm => gapLines gap ++ .elseLine arm.body :: arm.lines

end

/-- Whether a statement decides where or when the script goes on. -/
def Statement.isControl : Statement → Bool
  | .goto _ | .gosub _ _ | .comeBack | .exit | .matchWait _ | .waitFor _ _ | .pause _ => true
  | _ => false

/-- Carries out the command on the line with the given index, unless it is a control statement once
its references are replaced. -/
def obey? (s : Script) (i : Nat) (raw : Text) : Option Script :=
  let s := { s with current := i }
  let statement := Statement.read (s.expandLine raw)
  if statement.isControl then none else some (s.perform statement)

/-- Judges the condition on the line with the given index. -/
def judge (s : Script) (i : Nat) (cond : Condition) : Script × Bool :=
  { s with current := i }.test cond

mutual

/-- Carries out a block whose first line has the given index. There is no result when a control
statement is met. -/
def Block.carryOut? (i : Nat) : Block → Script → Option Script
  | .done _, s => some s
  | .command gap raw rest, s =>
    (s.obey? (i + gap.length) raw).bind (rest.carryOut? (i + gap.length + 1))
  | .chain gap cond arm others rest, s =>
    let (s, holds) := s.judge (i + gap.length) cond
    let after := i + gap.length + 1 + arm.lines.length
    (if holds then arm.carryOut? (i + gap.length) s else others.carryOut? after s).bind
      (rest.carryOut? (after + others.lines.length))

/-- Carries out a body, where the line of its condition has the given index. -/
def Arm.carryOut? (i : Nat) : Arm → Script → Option Script
  | .inline raw, s | .braced raw, s => s.obey? i raw
  | .block body, s => body.carryOut? (i + 1) s
  | .blockBelow gap body, s => body.carryOut? (i + 1 + gap.length + 1) s
  | .commandBelow gap raw, s => s.obey? (i + 1 + gap.length) raw

/-- Carries out the rest of a chain of which no condition has held, where its first line has the
given index. -/
def Others.carryOut? (i : Nat) : Others → Script → Option Script
  | .none, s => some s
  | .elseIf gap cond arm others, s =>
    let (s, holds) := s.judge (i + gap.length) cond
    if holds then arm.carryOut? (i + gap.length) s
    else others.carryOut? (i + gap.length + 1 + arm.lines.length) s
  | .otherwise gap arm, s => arm.carryOut? (i + gap.length) s

end

end Mudline.Script
