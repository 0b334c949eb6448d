import Mudline.Regex.Encoding
import Mudline.Regex.Simplify
import Std.Data.HashMap

/-!
# The memory that an expression takes

A search engine over bytes keeps an expression as a graph of states, one graph for reading forwards
and one for reading backwards. The size of both graphs is bounded, and an expression that needs more
is refused; so the size is reckoned here as exactly as the graphs would be laid out. States have
numbers, in the order in which they are written.
-/

namespace Mudline.Regex

/-- How much of a graph has been written. -/
structure Tally where
  /-- The number of states. -/
  states : Nat
  /-- The bytes that states take beyond their fixed size. -/
  extra : Nat

/-- The bytes of one state. -/
def stateSize : Nat := 32

/-- The bytes of one way that leads on from a state over bytes. -/
def edgeSize : Nat := 8

/-- The bytes of one way that leads on from a fork. -/
def linkSize : Nat := 4

/-- The greatest number of bytes of a graph. -/
def sizeLimit : Nat := 10485760

/-- Writes states and extra bytes, unless the graph grows too large. -/
def Tally.add? (states extra : Nat) (t : Tally) : Option Tally :=
  let t : Tally := ⟨t.states + states, t.extra + extra⟩
  if sizeLimit < stateSize * t.states + t.extra then none else some t

/-- Writes something a number of times. -/
def Tally.repeat? (write : Tally → Option Tally) : Nat → Tally → Option Tally
  | 0, t => some t
  | n + 1, t => (write t).bind (repeat? write n)

/-- The place of a key in a table. -/
def tablePlace (capacity : Nat) (key : List Nat) : Nat :=
  let mixed := key.foldl (fun (h : UInt64) n => (h ^^^ n.toUInt64) * 1099511628211)
    14695981039346656037
  mixed.toNat % capacity

/-- A table of the states of one set that may be shared. It has a fixed number of places, and a
state that is entered pushes out the one in its place. -/
abbrev ShareTable := Std.HashMap Nat (List Nat × Nat)

/-- The state that a table has under a key. -/
def ShareTable.find? (table : ShareTable) (place : Nat) (key : List Nat) : Option Nat :=
  match table[place]? with
  | some (key', state) => if key' == key then some state else none
  | none => none

/-- A set that is being written, with the table of its states. -/
structure SharedTally where
  /-- What has been written. -/
  tally : Tally
  /-- The states that may be shared. -/
  table : ShareTable

/-- The state for a key: the one in the table, or else a new one with extra bytes. -/
def SharedTally.intern? (capacity extra : Nat) (key : List Nat) (w : SharedTally) :
    Option (Nat × SharedTally) :=
  let place := tablePlace capacity key
  match w.table.find? place key with
  | some state => some (state, w)
  | none => do
    let state := w.tally.states
    some (state, ⟨← w.tally.add? 1 extra, w.table.insert place (key, state)⟩)

/-- The places of the table for reading backwards. -/
def backwardCapacity : Nat := 1000

/-- Writes one sequence of byte ranges for reading backwards: a chain of states that leads to
`next`, shared from its end with the chains before it. -/
def writeChain? : List (Nat × Nat) → Nat → SharedTally → Option SharedTally
  | [], _, w => some w
  | (lo, hi) :: rest, next, w => do
    let (state, w) ← w.intern? backwardCapacity 0 [next, lo, hi]
    writeChain? rest state w

/-- Writes a set for reading backwards: a fork, an end, and a chain for every sequence. -/
def writeBackward? (s : Charset) (t : Tally) : Option Tally := do
  let last := t.states + 1
  let t ← t.add? 2 0
  let w ← (byteSequences s).foldlM
    (fun (w : SharedTally) ranges => do
      let w ← writeChain? ranges last w
      some { w with tally := ← w.tally.add? 0 linkSize })
    ⟨t, {}⟩
  some w.tally

/-- A state over bytes to which ways are still added: those that are complete, as byte range and
next state each, and the byte range of the one that is not. -/
structure OpenState where
  /-- The ways that are complete. -/
  edges : List Nat := []
  /-- The byte range of the last way. -/
  last : Option (Nat × Nat) := none

/-- Completes the last way. -/
def OpenState.complete (o : OpenState) (next : Nat) : OpenState :=
  match o.last with
  | some (lo, hi) => ⟨o.edges ++ [lo, hi, next], none⟩
  | none => o

/-- The places of the table for reading forwards. -/
def forwardCapacity : Nat := 10000

/-- Completes the open states, deepest first, and writes all below depth `keep`. The last one that
is completed leads to `next`. -/
def completeBelow? (keep next : Nat) :
    List OpenState → SharedTally → Option (List OpenState × SharedTally)
  | [], w => some ([], w)
  | o :: rest, w =>
    let o := o.complete next
    if keep < rest.length then do
      let (state, w) ← w.intern? forwardCapacity (o.edges.length / 3 * edgeSize) o.edges
      completeBelow? keep state rest w
    else some (o :: rest, w)

/-- How many byte ranges a sequence has in common with the open states, from the shallowest on. -/
def commonDepth : List (Nat × Nat) → List OpenState → Nat
  | r :: ranges, o :: rest => if o.last == some r then commonDepth ranges rest + 1 else 0
  | _, _ => 0

/-- Opens states for byte ranges, the first of which belongs to the deepest open state. -/
def openRanges : List (Nat × Nat) → List OpenState → List OpenState
  | r :: ranges, o :: rest =>
    (ranges.reverse.map fun r => ⟨[], some r⟩) ++ { o with last := some r } :: rest
  | _, opened => opened

/-- Writes a set for reading forwards: an end, and a graph without cycles in which states with the
same ways are shared. Sequences ascend, so only the last way of a state can still change. -/
def writeForward? (s : Charset) (t : Tally) : Option Tally := do
  let last := t.states
  let t ← t.add? 1 0
  let (opened, w) ← (byteSequences s).foldlM
    (fun (state : List OpenState × SharedTally) ranges => do
      let (opened, w) := state
      let depth := commonDepth ranges opened.reverse
      let (opened, w) ← completeBelow? depth last opened w
      some (openRanges (ranges.drop depth) opened, w))
    ([{}], (⟨t, {}⟩ : SharedTally))
  let (opened, w) ← completeBelow? 0 last opened w
  match opened with
  | root :: _ =>
    let (_, w) ← w.intern? forwardCapacity (root.edges.length / 3 * edgeSize) root.edges
    some w.tally
  | [] => some w.tally

/-- Writes a set. -/
def writeSet? (backward : Bool) (s : Charset) (t : Tally) : Option Tally :=
  if s.withinAscii then t.add? 2 (s.ranges.length * edgeSize)
  else if backward then writeBackward? s t
  else writeForward? s t

/-- Cuts words at empty ones. -/
def cutAtEmpty : List (List Nat) → List (List (List Nat))
  | [] => [[]]
  | [] :: rest => [] :: cutAtEmpty rest
  | word :: rest =>
    match cutAtEmpty rest with
    | [] => [[word]]
    | group :: groups => (word :: group) :: groups

/-- Writes the tree of words that are alternatives, with an allowance of depth. Words that start
with the same byte share a state, but not across a word that ends where they start. -/
def writeTree? : Nat → List (List Nat) → Tally → Option Tally
  | 0, _, t => some t
  | allowance + 1, words, t =>
    let ended := words.takeWhile List.isEmpty
    let groups := cutAtEmpty ((if ended.isEmpty then [] else [[]]) ++ words.drop ended.length)
    if words.all List.isEmpty then some t
    else do
      let t ← groups.foldlM
        (fun (t : Tally) group => do
          let bytes := (group.filterMap List.head?).eraseDups
          let t ← bytes.foldlM
            (fun (t : Tally) byte =>
              writeTree? allowance
                ((group.filter fun word => word.head? == some byte).map List.tail) t) t
          match bytes with
          | [] => some t
          | [_] => t.add? 1 linkSize
          | _ => t.add? 1 (linkSize + bytes.length * edgeSize)) t
      t.add? 1 ((groups.length - 1) * linkSize)

/-- Writes alternatives that are all literals: an end, and the tree of their bytes. -/
def writeLiterals? (backward : Bool) (literals : List Text) (t : Tally) : Option Tally := do
  let words := literals.map fun literal =>
    if backward then (utf8Text literal).reverse else utf8Text literal
  writeTree? ((words.map List.length).foldl Nat.max 0 + 1) words (← t.add? 1 0)

namespace Node

/-- The text of a node that is a literal. -/
def text? : Node → Option Text
  | literal t => some t
  | _ => none

/-- The extra states and bytes after an alternative, by its place among the others: each has a link
from the fork, which is written with its end after the second. -/
def writeLink? (place : Nat) (t : Tally) : Option Tally :=
  t.add? (if place == 1 then 2 else 0) linkSize

/-- Writes the graph of an expression. The number is the place of the expression among alternatives
whose fork belongs to an expression around it, or zero. -/
def write? (backward : Bool) : Nat → Node → Tally → Option Tally
  | place, alt first rest, t =>
    match if place == 0 then (alt first rest).choices.mapM text? else none with
    | some literals => writeLiterals? backward literals t
    | none => do
      rest.write? backward (place + 1) (← writeLink? place (← first.write? backward 0 t))
  | place, n, t => do
    let t ← match n with
      | literal s => t.add? (utf8Text s).length 0
      | set s => writeSet? backward s t
      | group _ body => if backward then body.write? backward 0 t else do
        (← body.write? backward 0 (← t.add? 1 0)).add? 1 0
      | loop min max _ body =>
        let once := body.write? backward 0
        match max with
        | none =>
          if min != 0 then do (← Tally.repeat? once min t).add? 1 (2 * linkSize)
          else if body.takes && !body.fails then do once (← t.add? 1 (2 * linkSize))
          else do (← once t).add? 3 (4 * linkSize)
        | some max =>
          if min == 0 && max == 1 then do (← once (← t.add? 1 (2 * linkSize))).add? 1 0
          else do
            let t ← if min == 0 then t.add? 1 0 else Tally.repeat? once min t
            if min == max then some t
            else
              Tally.repeat? (fun t => do once (← t.add? 1 (2 * linkSize))) (max - min)
                (← t.add? 1 0)
      | seq first rest =>
        if backward then do first.write? backward 0 (← rest.write? backward 0 t)
        else do rest.write? backward 0 (← first.write? backward 0 t)
      | _ => t.add? 1 0
    if place == 0 then some t else writeLink? place t

/-- Writes a whole graph. A search that may start anywhere first passes over bytes in a loop;
reading forwards, the whole match is a group as well; and the match is a state of its own. -/
def writeGraph? (backward : Bool) (n : Node) : Option Tally := do
  let anchored := if backward then n.endsText else n.startsText
  let t ← if anchored then Tally.add? 1 0 ⟨0, 0⟩ else Tally.add? 3 (2 * linkSize + edgeSize) ⟨0, 0⟩
  if backward then (← n.write? backward 0 t).add? 1 0
  else (← n.write? backward 0 (← t.add? 1 0)).add? 2 0

/-- Whether the graphs of an expression stay within the limit. -/
def fits (n : Node) : Bool :=
  (n.writeGraph? false).isSome && (n.writeGraph? true).isSome

end Node

end Mudline.Regex
