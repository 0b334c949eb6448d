import Mudline.Store

/-!
# References

Before a line of a script runs, the references in it are replaced by what they stand for:

* `%0` to `%9` are the arguments, `%0` all of them together;
* `%name` is a variable of the script, `$name` a shared variable;
* `$1` and `&1` are groups of the last match;
* an index in brackets, as in `%name[2]`, picks an entry of a list whose entries are separated by
  bars. An index in parentheses is rewritten to one in brackets first.

A name is not marked off: the longest name that is set and that the text starts with is meant. What
refers to nothing stays as it is. Names may be built from other references, so the replacement is
repeated until nothing changes or a limit is reached.
-/

namespace Mudline.Script

/-- What the references in a line can refer to. -/
structure Scope where
  /-- The variables of the script. -/
  locals : Store := {}
  /-- The arguments: all together, then one by one. -/
  slots : List Text := []
  /-- The groups of the last match. -/
  captures : List Text := []
  /-- The shared variables. -/
  globals : Store := {}

/-- The digit that a text starts with. -/
def leadingDigit? : Text → Option Nat
  | [] => none
  | c :: _ => if Text.isDigit c then some (Text.digitValue c) else none

/-- Whether a character begins references. -/
def isSigil (c : Char) : Bool :=
  c == '%' || c == '$' || c == '&'

/-- The text between a bracket that opens a text and the next closing one. -/
def bracketed? : Text → Option Text
  | '[' :: rest =>
    let index := rest.takeWhile (· != ']')
    if index.length < rest.length then some index else none
  | _ => none

/-- What a reference with the given value stands for when `tail` follows it, and how much of `tail`
belongs to it. An index that holds references itself waits for another round: the reference is
written back. An index that is no number is not part of the reference. -/
def indexed (sigil : Char) (name value tail : Text) : Text × Nat :=
  match bracketed? tail with
  | none => (value, 0)
  | some index =>
    if index.any isSigil then (sigil :: name, 0)
    else match Text.readWord? (Text.trim index) with
      | some i => (((Text.splitOn '|' value)[i]?).getD [], index.length + 2)
      | none => (value, 0)

/-- What a named reference stands for, and how many characters after the sigil it takes. -/
def namedValue? (sigil : Char) (store : Store) (after : Text) : Option (Text × Nat) :=
  (store.longestAtStart? after).map fun (name, value) =>
    let (out, taken) := indexed sigil name value (after.drop name.length)
    (out, name.length + taken)

/-- What a reference to a group stands for. -/
def captureValue? (scope : Scope) (after : Text) : Option (Text × Nat) := do
  let d ← leadingDigit? after
  let group ← scope.captures[d]?
  some (group, 1)

/-- What a sigil and the text after it stand for, and how many characters of that text belong to the
reference. -/
def resolve? (scope : Scope) (sigil : Char) (after : Text) : Option (Text × Nat) :=
  match sigil with
  | '%' =>
    match leadingDigit? after with
    | some d =>
      let (out, taken) := indexed '%' (after.take 1) ((scope.slots[d]?).getD []) (after.drop 1)
      some (out, 1 + taken)
    | none => namedValue? '%' scope.locals after
  | '$' =>
    if (leadingDigit? after).isSome then captureValue? scope after
    else namedValue? '$' scope.globals after
  | '&' => captureValue? scope after
  | _ => none

/-- One round of replacement from the left, where the first `skip` characters belong to a reference
already replaced. -/
def expandAfter (scope : Scope) (skip : Nat) : Text → Text
  | [] => []
  | c :: rest =>
    match skip with
    | skip + 1 => expandAfter scope skip rest
    | 0 =>
      match resolve? scope c rest with
      | some (out, taken) => out ++ expandAfter scope taken rest
      | none => c :: expandAfter scope 0 rest

/-- One round of replacement. -/
def expandOnce (scope : Scope) (t : Text) : Text :=
  expandAfter scope 0 t

/-- The characters of the names before an index in parentheses. -/
def isIndexedNameChar (c : Char) : Bool :=
  Text.isAsciiLetter c || Text.isDigit c || c == '_' || c == '.'

/-- The name and the digits of an index in parentheses that follows a sigil. -/
def parenIndex? (after : Text) : Option (Text × Text) :=
  let name := after.takeWhile isIndexedNameChar
  match after.dropWhile isIndexedNameChar with
  | '(' :: rest =>
    let digits := rest.takeWhile Text.isDigit
    if !name.isEmpty && !digits.isEmpty && (rest.dropWhile Text.isDigit).head? == some ')' then
      some (name, digits)
    else none
  | _ => none

/-- Rewrites indices in parentheses, where the first `skip` characters belong to one already
rewritten. -/
def bracketAfter (skip : Nat) : Text → Text
  | [] => []
  | c :: rest =>
    match skip with
    | skip + 1 => bracketAfter skip rest
    | 0 =>
      let index := if c == '%' || c == '$' then parenIndex? rest else none
      match index with
      | some (name, digits) =>
        c :: name ++ '[' :: digits ++ ']' :: bracketAfter (name.length + digits.length + 2) rest
      | none => c :: bracketAfter 0 rest

/-- Rewrites every index in parentheses after a sigil and a name to one in brackets. -/
def bracketIndices (t : Text) : Text :=
  bracketAfter 0 t

/-- Replaces references until nothing changes, in at most the given number of rounds. -/
def expand (scope : Scope) : Nat → Text → Text
  | 0, t => t
  | rounds + 1, t =>
    let next := expandOnce scope (bracketIndices t)
    if next == t then next else expand scope rounds next

end Mudline.Script
