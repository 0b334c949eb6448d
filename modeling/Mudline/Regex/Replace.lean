import Mudline.Regex.Search
import Mudline.Text.Integer

/-!
# Replacing matches

A template refers to the groups of a match by a dollar sign and a number or a name, which may stand
between braces. A doubled dollar sign stands for one, and a dollar sign that begins no reference for
itself.
-/

namespace Mudline.Regex

/-- A part of a template. -/
inductive TemplatePart
  /-- A character as it stands. -/
  | char (c : Char)
  /-- A reference to a group, by number or by name. -/
  | group (name : Text)

/-- Whether a character may be part of a reference without braces. -/
def isReferenceChar (c : Char) : Bool :=
  Text.isAsciiLetter c || Text.isDigit c || c == '_'

/-- Reads a reference after its dollar sign: its name, and how many characters it takes. -/
def readReference? : Text → Option (Text × Nat)
  | '\x7b' :: rest =>
    let name := rest.takeWhile (· != '\x7d')
    if name.length < rest.length then some (name, name.length + 2) else none
  | t =>
    let name := t.takeWhile isReferenceChar
    if name.isEmpty then none else some (name, name.length)

/-- Reads a template whose first `skip` characters belong to a part already read. -/
def readTemplate (skip : Nat) : Text → List TemplatePart
  | [] => []
  | c :: rest =>
    match skip with
    | skip + 1 => readTemplate skip rest
    | 0 =>
      if c != '$' then .char c :: readTemplate 0 rest
      else if rest.head? == some '$' then .char '$' :: readTemplate 1 rest
      else match readReference? rest with
        | some (name, taken) => .group name :: readTemplate taken rest
        | none => .char '$' :: readTemplate 0 rest

/-- What a part of a template stands for at a match. -/
def TemplatePart.expand (r : Regex) (texts : List Text) : TemplatePart → Text
  | .char c => [c]
  | .group name =>
    match Text.readWord? name with
    | some index => texts[index]?.getD []
    | none => ((r.names.lookup name).bind (texts[·]?)).getD []

/-- The matches from a position on that do not overlap, where an empty match does not touch the end
of the match before it. The first number is an allowance of steps. -/
def matchesFrom (r : Regex) (input : Array Char) : Nat → Nat → Option Nat → List Match
  | 0, _, _ => []
  | allowance + 1, start, lastStop =>
    match r.findFrom? input start with
    | none => []
    | some m =>
      if m.start == m.stop && lastStop == some m.stop then
        if start < input.size then
          match r.findFrom? input (start + 1) with
          | none => []
          | some m => m :: matchesFrom r input allowance m.stop (some m.stop)
        else []
      else m :: matchesFrom r input allowance m.stop (some m.stop)

/-- All matches in a text. -/
def allMatches (r : Regex) (input : Array Char) : List Match :=
  matchesFrom r input (input.size + 2) 0 none

/-- Replaces every match by what the template stands for at it. -/
def replaceAll (r : Regex) (template : Text) (t : Text) : Text :=
  let input := t.toArray
  let parts := readTemplate 0 template
  let ms := allMatches r input
  let starts := 0 :: ms.map (·.stop)
  let pieces := (starts.zip ms).map fun (start, m) =>
    (input.extract start m.start).toList ++ parts.flatMap (·.expand r (m.texts input))
  pieces.flatten ++ (input.extract (starts.getLast?.getD 0) input.size).toList

end Mudline.Regex
