import Mudline.Text.Integer

/-!
# Sets of characters

A set of characters is kept as the places where membership changes, in ascending order, so that one
walk over two such lists carries out every Boolean operation. Places are code points; those that are
no characters may be members and make no difference.
-/

namespace Mudline

/-- A set of characters. -/
structure Charset where
  /-- The code points at which membership changes, ascending and below `Charset.limit`. No code
  point before the first one is a member. -/
  bounds : List Nat
  deriving DecidableEq, Repr, Inhabited

namespace Charset

/-- The end of the code points. -/
def limit : Nat := 0x110000

/-- Whether code point `n` is a member, where `inside` says whether the code points before the first
bound are. -/
def holds (inside : Bool) : List Nat → Nat → Bool
  | [], _ => inside
  | b :: rest, n => if n < b then inside else holds (!inside) rest n

/-- Whether a character is a member. -/
def contains (s : Charset) (c : Char) : Bool :=
  holds false s.bounds c.toNat

/-- The set without characters. -/
def none : Charset := ⟨[]⟩

/-- The set of all characters. -/
def all : Charset := ⟨[0]⟩

/-- The members of ranges of code points, which ascend and do not touch. Both ends are included. -/
def ofRanges (ranges : List (Nat × Nat)) : Charset :=
  ⟨(ranges.flatMap fun (lo, hi) => [lo, hi + 1]).filter (· < limit)⟩

/-- The characters from `lo` to `hi`. -/
def range (lo hi : Char) : Charset :=
  ofRanges [(lo.toNat, hi.toNat)]

/-- The set of one character. -/
def single (c : Char) : Charset :=
  range c c

/-- The bounds of code points in ascending order, of which some may be equal. -/
def pointBounds : List Nat → List Nat
  | [] => []
  | n :: rest =>
    match pointBounds rest with
    | [] => [n, n + 1]
    | b :: bounds =>
      if b == n then b :: bounds
      else if b == n + 1 then n :: bounds
      else n :: (n + 1) :: b :: bounds

/-- The set of some code points, in any order. -/
def ofPoints (points : List Nat) : Charset :=
  ⟨(pointBounds (points.mergeSort (· ≤ ·))).filter (· < limit)⟩

/-- Reads a range of code points: hexadecimal digits, or two such numbers around a hyphen. -/
def readRange (word : Text) : Nat × Nat :=
  match Text.splitOn '-' word with
  | [lo, hi] => (Text.hexValue lo, Text.hexValue hi)
  | _ => (Text.hexValue word, Text.hexValue word)

/-- The members of the ranges that the words of some lines name. -/
def ofWords (lines : List String) : Charset :=
  ofRanges ((lines.flatMap fun line => Text.words line.toList).map readRange)

/-- The bounds of the code points to which runs give a value that satisfies `p`. The first run
starts at `start`, and `inside` says whether the code point before it is a member. -/
def runBounds (p : α → Bool) (inside : Bool) (start : Nat) : List (α × Nat) → List Nat
  | [] => []
  | (value, count) :: rest =>
    if p value == inside then runBounds p inside (start + count) rest
    else start :: runBounds p (!inside) (start + count) rest

/-- The code points to which runs give a value that satisfies `p`. -/
def ofRuns (p : α → Bool) (runs : List (α × Nat)) : Charset :=
  ⟨runBounds p false 0 runs⟩

/-- Walks over the bounds of two sets and keeps those at which `op` of the memberships changes. The
flags say whether the code points before the first bounds are members. -/
def combineBounds (op : Bool → Bool → Bool) (inLeft inRight : Bool) (left right : List Nat) :
    List Nat :=
  let keep (b : Nat) (inLeft' inRight' : Bool) (rest : List Nat) : List Nat :=
    if op inLeft inRight == op inLeft' inRight' then rest else b :: rest
  match left, right with
  | [], [] => []
  | a :: left, [] => keep a (!inLeft) inRight (combineBounds op (!inLeft) inRight left [])
  | [], b :: right => keep b inLeft (!inRight) (combineBounds op inLeft (!inRight) [] right)
  | a :: left, b :: right =>
    if a < b then
      keep a (!inLeft) inRight (combineBounds op (!inLeft) inRight left (b :: right))
    else if b < a then
      keep b inLeft (!inRight) (combineBounds op inLeft (!inRight) (a :: left) right)
    else
      keep a (!inLeft) (!inRight) (combineBounds op (!inLeft) (!inRight) left right)
termination_by left.length + right.length

/-- Combines two sets by an operation that keeps what is in neither outside. -/
def combine (op : Bool → Bool → Bool) (s t : Charset) : Charset :=
  ⟨combineBounds op false false s.bounds t.bounds⟩

/-- The characters of either set. -/
def union (s t : Charset) : Charset :=
  combine (· || ·) s t

/-- The characters of both sets. -/
def inter (s t : Charset) : Charset :=
  combine (· && ·) s t

/-- The characters of the first set alone. -/
def diff (s t : Charset) : Charset :=
  combine (fun a b => a && !b) s t

/-- The characters of exactly one of the sets. -/
def symmDiff (s t : Charset) : Charset :=
  combine (· != ·) s t

/-- The characters outside the set. -/
def compl (s : Charset) : Charset :=
  match s.bounds with
  | 0 :: rest => ⟨rest⟩
  | bounds => ⟨0 :: bounds⟩

/-- The complement, if asked for. -/
def complIf (negated : Bool) (s : Charset) : Charset :=
  if negated then s.compl else s

/-- The characters of some sets. -/
def unions (sets : List Charset) : Charset :=
  sets.foldl union none

/-- The ranges between bounds, both ends included. -/
def pairBounds : List Nat → List (Nat × Nat)
  | [] => []
  | [lo] => [(lo, limit - 1)]
  | lo :: next :: rest => (lo, next - 1) :: pairBounds rest

/-- The ranges of the set, both ends included. -/
def ranges (s : Charset) : List (Nat × Nat) :=
  pairBounds s.bounds

/-- Whether the set has no members. -/
def isEmpty (s : Charset) : Bool :=
  s.bounds.isEmpty

/-- The only member of the set, if there is just one. -/
def only? (s : Charset) : Option Char :=
  match s.bounds with
  | [lo, next] => if next == lo + 1 then some (Char.ofNat lo) else Option.none
  | _ => Option.none

/-- Whether the set stays within ASCII. -/
def withinAscii (s : Charset) : Bool :=
  s.ranges.all fun (_, hi) => hi < 128

/-- The ASCII characters. -/
def ascii : Charset :=
  ofRanges [(0, 127)]

/-- Adds what a mapping identifies with members: the images of members, and all that is mapped to
a member or to an image. No image is mapped in turn. -/
def close (pairs : List (Nat × Nat)) (s : Charset) : Charset :=
  let images := pairs.filter fun (n, _) => holds false s.bounds n
  let s := s.union (ofPoints (images.map (·.2)))
  let sources := pairs.filter fun (_, m) => holds false s.bounds m
  s.union (ofPoints (sources.map (·.1)))

end Charset

end Mudline
