import Mudline.Regex.Escape

/-!
# Character classes

A class between brackets is a union of characters, ranges, escapes, named ASCII classes and further
classes. Unions are combined by intersection, difference and symmetric difference, from the left.
-/

namespace Mudline.Regex

/-- A part of a class: its set, and the height of its tree as written. -/
structure ClassPart where
  /-- The set. -/
  set : Charset
  /-- The height. -/
  height : Nat := 0

/-- The operators between the unions of a class. -/
inductive ClassOp
  /-- The characters of both sides. -/
  | intersection
  /-- The characters of the left side alone. -/
  | difference
  /-- The characters of exactly one side. -/
  | symmetricDifference

/-- What an operator makes of its sides. -/
def ClassOp.apply : ClassOp → Charset → Charset → Charset
  | .intersection => Charset.inter
  | .difference => Charset.diff
  | .symmetricDifference => Charset.symmDiff

/-- A class as far as it has been read. -/
structure ClassState where
  /-- Whether the class is negated. -/
  negated : Bool := false
  /-- What stands before the last operator, and that operator. -/
  before : Option (ClassPart × ClassOp) := none
  /-- The parts of the union read since the last operator, from the last to the first. -/
  parts : List ClassPart := []

namespace ClassState

/-- Adds a part to the union. -/
def add (st : ClassState) (part : ClassPart) : ClassState :=
  { st with parts := part :: st.parts }

/-- The union read since the last operator. One part alone stays as it is. -/
def union (st : ClassState) : ClassPart :=
  match st.parts with
  | [part] => part
  | parts =>
    let height := parts.foldl (fun h part => Nat.max h part.height) 0
    ⟨.unions (parts.map (·.set)), if parts.isEmpty then 0 else height + 1⟩

/-- All that was read. -/
def total (f : Flags) (st : ClassState) : ClassPart :=
  match st.before with
  | some (left, op) =>
    let right := st.union
    ⟨op.apply (f.fold left.set) (f.fold right.set), Nat.max left.height right.height + 1⟩
  | none => st.union

/-- Starts another operand. -/
def operator (f : Flags) (op : ClassOp) (st : ClassState) : ClassState :=
  { st with before := some (st.total f, op), parts := [] }

/-- The set of a class that is closed, where `inner` is what it holds. -/
def finish? (f : Flags) (negated : Bool) (inner : Charset) : Option Charset :=
  f.admit? ((f.fold inner).complIf negated)

/-- The class that is closed. -/
def close? (f : Flags) (st : ClassState) : Option ClassPart := do
  let inner := st.total f
  some ⟨← finish? f st.negated inner.set, inner.height + 1⟩

end ClassState

/-- Reads a named ASCII class after its opening bracket, up to the bracket that closes it: its set,
and whether it is negated. -/
def readAsciiClass? (t : Text) : Option ((Charset × Bool) × Text) :=
  match t with
  | ':' :: rest =>
    let (negated, rest) := match rest with
      | '^' :: rest => (true, rest)
      | rest => (false, rest)
    match rest.dropWhile (· != ':') with
    | ':' :: ']' :: after =>
      (asciiClass? (rest.takeWhile (· != ':'))).map fun s => ((s, negated), after)
    | _ => none
  | _ => none

/-- Reads one item of a class: an escape, or a character as it stands. Without Unicode a character
must be ASCII. -/
def readClassItem? (f : Flags) (t : Text) : Option (Piece × Text) := do
  let (piece, rest) ← match t with
    | [] => none
    | '\\' :: rest => readEscape? f rest
    | c :: rest => some (.literal c, rest)
  match piece with
  | .literal c => if f.unicode || Unicode.isAscii c then some (piece, rest) else none
  | .set _ => some (piece, rest)
  | .look _ => none

/-- The first character that is no blank. One hash is passed over as well, although a comment would
be dropped with all of its line. -/
def peekMeaning? (hashes : Nat) : Text → Option Char
  | [] => none
  | c :: rest =>
    if Text.isBlank c then peekMeaning? hashes rest
    else if c == '#' then
      match hashes with
      | 0 => some c
      | hashes + 1 => peekMeaning? hashes rest
    else some c

/-- The character that decides whether a hyphen before it makes a range. -/
def Flags.peek? (f : Flags) (t : Text) : Option Char :=
  if f.extended then peekMeaning? 1 t <|> t.head? else t.head?

/-- Reads an item or a range of a class. A hyphen before the closing bracket or before another
hyphen makes no range. -/
def readClassRange? (f : Flags) (t : Text) : Option (Charset × Text) := do
  let (first, rest) ← readClassItem? f t
  let rest := f.skip rest
  let alone : Option (Charset × Text) := match first with
    | .literal c => some (.single c, rest)
    | .set s => some (s, rest)
    | .look _ => none
  match rest with
  | [] => none
  | '-' :: after =>
    if f.peek? after == some ']' || f.peek? after == some '-' then alone
    else do
      let (last, rest) ← readClassItem? f (f.skip after)
      match first, last with
      | .literal lo, .literal hi => if lo ≤ hi then some (.range lo hi, rest) else none
      | _, _ => none
  | _ => alone

/-- Reads the literal hyphens that may come first in a class, where `inComment` says whether a
comment is open. -/
def leadingHyphens (f : Flags) (inComment : Bool) (st : ClassState) : Text → ClassState × Text
  | [] => (st, [])
  | c :: rest =>
    if inComment then leadingHyphens f (c != '\n') st rest
    else if f.extended && Text.isBlank c then leadingHyphens f false st rest
    else if f.extended && c == '#' then leadingHyphens f true st rest
    else if c == '-' then leadingHyphens f false (st.add ⟨.single '-', 0⟩) rest
    else (st, c :: rest)

/-- Reads the start of a class after its bracket: a caret that negates it, hyphens, and a closing
bracket that stands for itself. -/
def openClass (f : Flags) (t : Text) : ClassState × Text :=
  let (negated, rest) := match f.skip t with
    | '^' :: rest => (true, f.skip rest)
    | rest => (false, rest)
  let fresh : ClassState := { negated }
  match rest with
  | ']' :: rest => (fresh.add ⟨.single ']', 0⟩, f.skip rest)
  | rest => leadingHyphens f false fresh rest

/-- Reads the items of classes, one inside the other and innermost first, up to the end of the
outermost. The number is an allowance of steps. -/
def readClassWithin? (f : Flags) :
    Nat → ClassState → List ClassState → Text → Option (ClassPart × Text)
  | 0, _, _, _ => none
  | allowance + 1, st, outer, t =>
    match f.skip t with
    | [] => none
    | '[' :: rest =>
      match readAsciiClass? rest with
      | some ((s, negated), rest) => do
        let s ← ClassState.finish? f negated s
        readClassWithin? f allowance (st.add ⟨s, 0⟩) outer rest
      | none =>
        let (inner, rest) := openClass f rest
        readClassWithin? f allowance inner (st :: outer) rest
    | ']' :: rest => do
      let part ← st.close? f
      match outer with
      | [] => some (part, rest)
      | st :: outer => readClassWithin? f allowance (st.add part) outer rest
    | '&' :: '&' :: rest =>
      readClassWithin? f allowance (st.operator f .intersection) outer rest
    | '-' :: '-' :: rest =>
      readClassWithin? f allowance (st.operator f .difference) outer rest
    | '~' :: '~' :: rest =>
      readClassWithin? f allowance (st.operator f .symmetricDifference) outer rest
    | t => do
      let (s, rest) ← readClassRange? f t
      readClassWithin? f allowance (st.add ⟨s, 0⟩) outer rest

/-- Reads a class after its opening bracket. -/
def readClass? (f : Flags) (t : Text) : Option (ClassPart × Text) :=
  let (st, rest) := openClass f t
  readClassWithin? f (t.length + 1) st [] rest

end Mudline.Regex
