import Mudline.Script.Line
import Mudline.Unicode.Case

/-!
# Listings

A script is read through a library of scripts and made into one listing: the scripts that it
includes stand in the place of the lines that include them, every closing brace is on a line of its
own, and every line has its kind.
-/

namespace Mudline.Script

/-- A library of scripts: the lines of each, by its name. -/
abbrev Library := Text → Option (List Text)

/-- A line and where it comes from. -/
structure SourceLine where
  /-- The text of the line. -/
  text : Text
  /-- The script that the line was read from. -/
  file : Text
  /-- The number of the line in that script, from 1 on. -/
  number : Nat
  deriving DecidableEq, Repr

/-- A line of a listing. -/
structure ListedLine where
  /-- The line and where it comes from. -/
  source : SourceLine
  /-- What kind of line it is. -/
  kind : Line
  deriving DecidableEq, Repr

/-- A script that can run. -/
structure Listing where
  /-- The name of the script. -/
  name : Text
  /-- Its lines. -/
  lines : List ListedLine
  /-- The labels in lower case with the indices of their lines, the last line first. -/
  labels : List (Text × Nat)
  deriving DecidableEq, Repr

/-- Why a script cannot be loaded. -/
inductive LoadError
  /-- The library has no such script. -/
  | notFound (name : Text)
  /-- A line has no kind. -/
  | fault (f : Fault)
  deriving DecidableEq, Repr

/-- The report of a script that cannot be loaded. -/
def LoadError.message : LoadError → Text
  | notFound name => "script not found: ".toList ++ name
  | fault f => f.message

/-- The script that a line includes. -/
def includeTarget? (line : Text) : Option Text :=
  let (word, rest) := Text.splitWord line
  if Text.sameWord word "include" && !(Text.trim rest).isEmpty then some (Text.trim rest) else none

/-- The one or two lines that a source line becomes. -/
def SourceLine.split (line : SourceLine) : List SourceLine :=
  match splitClosing? line.text with
  | some (closing, rest) => [{ line with text := closing }, { line with text := rest }]
  | none => [line]

/-- Numbers the lines of a script. -/
def numbered (file : Text) (lines : List Text) : List SourceLine :=
  lines.zipIdx.map fun (text, i) => ⟨text, file, i + 1⟩

/-- The lines that an included script contributes: all but its own includes. -/
def included (target : Text) (lines : List Text) : List SourceLine :=
  (numbered target lines).filter fun line => (includeTarget? line.text).isNone

/-- The lines that a line of the script `name` contributes. A script does not include itself, and a
script that is missing contributes nothing. -/
def contributed (library : Library) (name : Text) (line : SourceLine) : List SourceLine :=
  match includeTarget? line.text with
  | none => [line]
  | some target =>
    if target == name then [] else ((library target).map (included target)).getD []

/-- The labels of lines whose first index is `start`, the last line first. -/
def labelsFrom (start : Nat) (lines : List ListedLine) : List (Text × Nat) :=
  ((lines.zipIdx start).filterMap fun (line, i) =>
    match line.kind with
    | .label name => some (Unicode.lower name, i)
    | _ => none).reverse

/-- The listing of the script with the given name. -/
def Listing.load (library : Library) (name : Text) : Except LoadError Listing :=
  match library name with
  | none => .error (.notFound name)
  | some source =>
    let lines := ((numbered name source).flatMap (contributed library name)).flatMap (·.split)
    match lines.mapM fun line => (classify line.text).map (⟨line, ·⟩) with
    | .error f => .error (.fault f)
    | .ok listed => .ok ⟨name, listed, labelsFrom 0 listed⟩

namespace Listing

/-- The kind of the line with the given index. -/
def kind? (l : Listing) (i : Nat) : Option Line :=
  (l.lines[i]?).map (·.kind)

/-- The index of the line that a label is on. -/
def label? (l : Listing) (name : Text) : Option Nat :=
  l.labels.lookup (Unicode.lower name)

/-- The kinds of the lines from an index on. -/
def kindsFrom (l : Listing) (i : Nat) : List Line :=
  (l.lines.drop i).map (·.kind)

end Listing

/-- How many lines come before the one at which the depth of blocks, counted from `depth`, is no
longer positive. -/
def blockLength (depth : Int) : List Line → Nat
  | [] => 0
  | line :: rest =>
    let depth := depth + line.delta
    if depth ≤ 0 then 0 else 1 + blockLength depth rest

/-- How many lines the next statement takes: the silent lines before it, the statement, and the
block that it opens or the statement that is its body. -/
def statementLength : List Line → Nat
  | [] => 0
  | line :: rest =>
    if line.isSilent then 1 + statementLength rest
    else if 0 < line.delta then blockLength 0 (line :: rest) + 1
    else if line.takesNext then 1 + statementLength rest
    else 1

/-- How many silent lines come first. -/
def silentLength (lines : List Line) : Nat :=
  (lines.takeWhile (·.isSilent)).length

end Mudline.Script
