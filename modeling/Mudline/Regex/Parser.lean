import Mudline.Regex.Class

/-!
# Reading regular expressions

An expression is read from the left with a stack of the groups that are open. The dialect has no
references back and no conditions on what lies ahead or behind; every operator that it does not know
makes the expression malformed.
-/

namespace Mudline.Regex

/-- A part of an expression, with the height of its tree as written. -/
structure Part where
  /-- The tree. -/
  node : Node
  /-- Its height. -/
  height : Nat := 0
  /-- Whether a repetition may follow: not after a setting of flags. -/
  repeatable : Bool := true

/-- The parts read on one level: the alternatives before the last bar, and the parts since then,
both from the last to the first. -/
structure Level where
  /-- The alternatives that are complete. -/
  alternatives : List Part := []
  /-- The parts of the alternative that is being read. -/
  parts : List Part := []

/-- Combines parts, given from the last to the first, into one. One part alone stays as it is. -/
def combineParts (join : List Node → Node) : List Part → Part
  | [] => ⟨.empty, 0, true⟩
  | [part] => part
  | parts =>
    ⟨join (parts.reverse.map (·.node)),
      1 + parts.foldl (fun h part => Nat.max h part.height) 0, true⟩

/-- Adds a part to a level. -/
def Level.push (l : Level) (part : Part) : Level :=
  { l with parts := part :: l.parts }

/-- Starts another alternative. -/
def Level.bar (l : Level) : Level :=
  { alternatives := combineParts .sequence l.parts :: l.alternatives, parts := [] }

/-- All of a level as one part. -/
def Level.close (l : Level) : Part :=
  combineParts .alternate (combineParts .sequence l.parts :: l.alternatives)

/-- A group that is open. -/
structure OpenGroup where
  /-- The level that the group is a part of. -/
  outer : Level
  /-- The flags to go back to. -/
  flags : Flags
  /-- The index of the group, if it records what it matches. -/
  index : Option Nat

/-- What has been read of an expression. -/
structure Progress where
  /-- The open groups, innermost first. -/
  groups : List OpenGroup := []
  /-- The innermost level. -/
  level : Level := {}
  /-- The flags in force. -/
  flags : Flags := {}
  /-- How many groups have an index. -/
  count : Nat := 0
  /-- The names of groups, with their indices. -/
  names : List (Text × Nat) := []

namespace Progress

/-- Adds a part. -/
def push (p : Progress) (node : Node) (height : Nat) : Progress :=
  { p with level := p.level.push ⟨node, height, true⟩ }

/-- Opens a group. -/
def enter (p : Progress) (index : Option Nat) (flags : Flags) : Progress :=
  { p with groups := ⟨p.level, p.flags, index⟩ :: p.groups, level := {}, flags }

/-- Opens a group that records what it matches. -/
def enterIndexed (p : Progress) : Progress :=
  { p.enter (some (p.count + 1)) p.flags with count := p.count + 1 }

/-- Opens a group with a name, which must be new. -/
def enterNamed? (p : Progress) (name : Text) : Option Progress :=
  if (p.names.lookup name).isSome then none
  else some { p.enterIndexed with names := p.names ++ [(name, p.count + 1)] }

/-- Closes the innermost group. -/
def leave? (p : Progress) : Option Progress :=
  match p.groups with
  | [] => none
  | g :: groups =>
    let inner := p.level.close
    let node := match g.index with
      | some index => .group index inner.node
      | none => inner.node
    some
      { p with
        groups, flags := g.flags, level := g.outer.push ⟨node, inner.height + 1, true⟩ }

/-- Repeats the last part. A mark turns the preference of the repetition around. -/
def repeat? (p : Progress) (min : Nat) (max : Option Nat) (marked : Bool) : Option Progress :=
  match p.level.parts with
  | part :: parts =>
    if part.repeatable then
      let node := Node.times min max (marked == p.flags.swapGreed) part.node
      some { p with level := { p.level with parts := ⟨node, part.height + 1, true⟩ :: parts } }
    else none
  | [] => none

/-- Sets flags up to the end of the group. -/
def setFlags (p : Progress) (flags : Flags) : Progress :=
  { p with flags, level := p.level.push ⟨.empty, 0, false⟩ }

end Progress

/-- Sets one flag. -/
def Flags.set? (f : Flags) (letter : Char) (value : Bool) : Option Flags :=
  match letter with
  | 'i' => some { f with ignoreCase := value }
  | 'm' => some { f with multiLine := value }
  | 's' => some { f with dotAll := value }
  | 'U' => some { f with swapGreed := value }
  | 'u' => some { f with unicode := value }
  | 'R' => some { f with returnLines := value }
  | 'x' => some { f with extended := value }
  | _ => none

/-- Reads flags up to a colon or a closing parenthesis, which is returned. No flag occurs twice, and
the hyphen that turns flags off occurs at most once and not last. -/
def readFlags? (f : Flags) (seen : Text) (off dangling : Bool) : Text → Option (Flags × Char × Text)
  | [] => none
  | c :: rest =>
    if c == ':' || c == ')' then
      if dangling || (c == ')' && seen.isEmpty) then none else some (f, c, rest)
    else if c == '-' then
      if off then none else readFlags? f ('-' :: seen) true true rest
    else if seen.contains c then none
    else do readFlags? (← f.set? c (!off)) (c :: seen) off false rest

/-- Reads the name of a group up to its closing angle. -/
def readName? (first : Bool) : Text → Option (Text × Text)
  | [] => none
  | c :: rest =>
    if c == '>' then if first then none else some ([], rest)
    else if c == '_' || Unicode.isAlphabetic c
        || (!first && (Unicode.isAlphanumeric c || c == '.' || c == '[' || c == ']')) then
      (readName? false rest).map fun (name, rest) => (c :: name, rest)
    else none

/-- Reads the start of a group after its parenthesis. -/
def readGroup? (p : Progress) (t : Text) : Option (Progress × Text) :=
  match p.flags.skip t with
  | '?' :: '=' :: _ => none
  | '?' :: '!' :: _ => none
  | '?' :: '<' :: '=' :: _ => none
  | '?' :: '<' :: '!' :: _ => none
  | '?' :: 'P' :: '<' :: rest => do
    let (name, rest) ← readName? true rest
    some (← p.enterNamed? name, rest)
  | '?' :: '<' :: rest => do
    let (name, rest) ← readName? true rest
    some (← p.enterNamed? name, rest)
  | '?' :: rest => do
    let (flags, closing, rest) ← readFlags? p.flags [] false false rest
    some (if closing == ')' then p.setFlags flags else p.enter none flags, rest)
  | rest => some (p.enterIndexed, rest)

/-- Reads decimal digits. What means nothing may follow each of them. -/
def readCountDigits (f : Flags) (inComment : Bool) : Text → Text × Text
  | [] => ([], [])
  | c :: rest =>
    if inComment then readCountDigits f (c != '\n') rest
    else if Text.isDigit c then
      let (digits, rest) := readCountDigits f false rest
      (c :: digits, rest)
    else if f.extended && Text.isBlank c then readCountDigits f false rest
    else if f.extended && c == '#' then readCountDigits f true rest
    else ([], c :: rest)

/-- Reads a decimal number with blanks around it. -/
def readCount? (f : Flags) (t : Text) : Option (Nat × Text) := do
  let (digits, rest) := readCountDigits f false (Text.trimStart t)
  let n ← Text.readDigits? digits
  if n < 0x100000000 then some (n, Text.trimStart rest) else none

/-- Reads the bounds of a repetition after the opening brace. -/
def readBounds? (f : Flags) (t : Text) : Option (Nat × Option Nat × Text) := do
  let (min, rest) ← readCount? f (f.skip t)
  match rest with
  | '\x7d' :: rest => some (min, some min, rest)
  | ',' :: rest =>
    match f.skip rest with
    | '\x7d' :: rest => some (min, none, rest)
    | rest => do
      let (max, rest) ← readCount? f rest
      match rest with
      | '\x7d' :: rest => if min ≤ max then some (min, some max, rest) else none
      | _ => none
  | _ => none

/-- Takes the question mark that may follow a repetition. -/
def takeMark : Text → Bool × Text
  | '?' :: rest => (true, rest)
  | t => (false, t)

/-- The tree of one piece under the flags. -/
def Piece.node (f : Flags) : Piece → Node
  | .literal c => .ofSet (f.fold (.single c))
  | .set s => .ofSet s
  | .look l => .look l

/-- The set that the dot stands for. -/
def dotSet (f : Flags) : Charset :=
  if f.dotAll then .all
  else (if f.returnLines then (Charset.single '\n').union (.single '\r') else .single '\n').compl

/-- The condition that an anchor stands for. -/
def anchor (f : Flags) (text line returnLine : Look) : Look :=
  if !f.multiLine then text else if f.returnLines then returnLine else line

/-- The greatest height of a tree that is accepted. -/
def maxHeight : Nat := 250

/-- Reads one part of an expression or one operator. -/
def readPart? (p : Progress) : Text → Option (Progress × Text)
  | [] => none
  | c :: rest =>
    let f := p.flags
    let repeated (min : Nat) (max : Option Nat) : Option (Progress × Text) := do
      let (marked, rest) := takeMark rest
      some (← p.repeat? min max marked, rest)
    match c with
    | '(' => readGroup? p rest
    | ')' => do some (← p.leave?, rest)
    | '|' => some ({ p with level := p.level.bar }, rest)
    | '[' => do
      let (part, rest) ← readClass? f rest
      some (p.push (.ofSet part.set) part.height, rest)
    | '?' => repeated 0 (some 1)
    | '*' => repeated 0 none
    | '+' => repeated 1 none
    | '\x7b' => do
      let (min, max, rest) ← readBounds? f rest
      let (marked, rest) := takeMark (f.skip rest)
      some (← p.repeat? min max marked, rest)
    | '.' => if f.unicode then some (p.push (.set (dotSet f)) 0, rest) else none
    | '^' => some (p.push (.look (anchor f .textStart .lineStart .returnLineStart)) 0, rest)
    | '$' => some (p.push (.look (anchor f .textEnd .lineEnd .returnLineEnd)) 0, rest)
    | '\\' => do
      let (piece, rest) ← readEscape? f rest
      some (p.push (piece.node f) 0, rest)
    | _ => some (p.push ((Piece.literal c).node f) 0, rest)

/-- Reads parts up to the end of the expression, with an allowance of steps. -/
def readParts? : Nat → Progress → Text → Option Progress
  | 0, _, _ => none
  | allowance + 1, p, t =>
    match p.flags.skip t with
    | [] => some p
    | t => do
      let (p, rest) ← readPart? p t
      readParts? allowance p rest

/-- An expression that was read. -/
structure Parsed where
  /-- The tree. -/
  node : Node
  /-- The names of groups, with their indices. -/
  names : List (Text × Nat)

/-- Reads an expression. -/
def parse? (t : Text) : Option Parsed := do
  let p ← readParts? (t.length + 1) {} t
  if !p.groups.isEmpty then none
  let whole := p.level.close
  if maxHeight < whole.height then none
  some ⟨whole.node, p.names⟩

end Mudline.Regex
