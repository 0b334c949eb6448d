import Mudline.Regex.Syntax

/-!
# Simple forms

Trees are built in a simple form that matches the same: sequences and alternatives are flat,
literals stand together, alternatives of single characters are a set, and what all alternatives
start with stands before them.
-/

namespace Mudline.Regex.Node

/-- Matches one character of a set. The set of one character is a literal. -/
def ofSet (s : Charset) : Node :=
  match s.only? with
  | some c => literal [c]
  | none => set s

/-- A repetition. What takes no character is not repeated, what occurs no time is empty, and what
occurs once is itself. -/
def times (min : Nat) (max : Option Nat) (greedy : Bool) (body : Node) : Node :=
  let (min, max) :=
    if body.takesNone then (Nat.min min 1, some (Nat.min (max.getD 1) 1)) else (min, max)
  if max == some 0 then empty
  else if min == 1 && max == some 1 then body
  else loop min max greedy body

/-- The parts of a sequence; the empty one has none. -/
def parts : Node → List Node
  | empty => []
  | seq first rest => first :: rest.parts
  | n => [n]

/-- The alternatives of a choice. -/
def choices : Node → List Node
  | alt first rest => first :: rest.choices
  | n => [n]

/-- The sequence of some parts. -/
def chain : List Node → Node
  | [] => empty
  | [n] => n
  | n :: rest => seq n (chain rest)

/-- The choice between some alternatives. -/
def choose : List Node → Node
  | [] => set .none
  | [n] => n
  | n :: rest => alt n (choose rest)

/-- Joins literals that stand side by side. -/
def joinLiterals : List Node → List Node
  | [] => []
  | literal s :: rest =>
    match joinLiterals rest with
    | literal t :: rest => literal (s ++ t) :: rest
    | rest => literal s :: rest
  | n :: rest => n :: joinLiterals rest

/-- Matches one after the other. -/
def sequence (nodes : List Node) : Node :=
  chain (joinLiterals (nodes.flatMap parts))

/-- The character of a literal that has just one. -/
def char? : Node → Option Char
  | literal [c] => some c
  | _ => none

/-- The set of a node that is one. -/
def set? : Node → Option Charset
  | set s => some s
  | _ => none

/-- The set that alternatives amount to, if all of them are single characters or all are sets. -/
def unionOf? (nodes : List Node) : Option Charset :=
  ((nodes.mapM char?).map fun cs => .unions (cs.map .single))
    <|> (nodes.mapM set?).map .unions

/-- The longest list that both lists start with. -/
def commonStart : List Node → List Node → List Node
  | a :: as, b :: bs => if a = b then a :: commonStart as bs else []
  | _, _ => []

/-- The parts of a sequence of two or more. -/
def manyParts : Node → List Node
  | seq first rest => first :: rest.parts
  | _ => []

/-- The parts that all of some sequences start with. -/
def sharedStart : List Node → List Node
  | [] => []
  | n :: rest => rest.foldl (fun shared n => commonStart shared n.manyParts) n.manyParts

/-- Matches one of some alternatives, the earlier ones by preference. What all of them start with is
taken out, and their remainders are alternatives again; the number is an allowance of such steps. -/
def alternateWithin : Nat → List Node → Node
  | 0, nodes => choose nodes
  | allowance + 1, nodes =>
    let nodes := nodes.flatMap choices
    match unionOf? nodes with
    | some s => ofSet s
    | none =>
      match sharedStart nodes with
      | [] => choose nodes
      | shared =>
        let remainders := nodes.map fun n => sequence (n.parts.drop shared.length)
        sequence (shared ++ [alternateWithin allowance remainders])

/-- Matches one of some alternatives, the earlier ones by preference. -/
def alternate (nodes : List Node) : Node :=
  match nodes with
  | [n] => n
  | _ => alternateWithin (nodes.foldl (fun total n => total + n.size) 1) nodes

end Mudline.Regex.Node
