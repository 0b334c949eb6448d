import Mudline.Unicode.Charset

/-!
# Characters as bytes

The bytes of characters in UTF-8, and the ranges of bytes that a range of characters amounts to:
sequences of byte ranges, one for every place, such that a character lies in the range exactly when
its bytes lie in those of one sequence.
-/

namespace Mudline.Regex

/-- The bytes of code point `n`. -/
def utf8Bytes (n : Nat) : List Nat :=
  if n < 0x80 then [n]
  else if n < 0x800 then [0xC0 + n / 64, 0x80 + n % 64]
  else if n < 0x10000 then [0xE0 + n / 4096, 0x80 + n / 64 % 64, 0x80 + n % 64]
  else [0xF0 + n / 262144, 0x80 + n / 4096 % 64, 0x80 + n / 64 % 64, 0x80 + n % 64]

/-- The bytes of a text. -/
def utf8Text (t : Text) : List Nat :=
  t.flatMap fun c => utf8Bytes c.toNat

/-- The part of a range between two places, if there is any. -/
def clip (lo hi : Nat) (r : Nat × Nat) : List (Nat × Nat) :=
  let (lo, hi) := (Nat.max lo r.1, Nat.min hi r.2)
  if lo ≤ hi then [(lo, hi)] else []

/-- The parts of a range whose code points have the same number of bytes, without the code points
that are no characters. -/
def splitLengths (r : Nat × Nat) : List (Nat × Nat) :=
  clip 0 0x7F r ++ clip 0x80 0x7FF r ++ clip 0x800 0xD7FF r ++ clip 0xE000 0xFFFF r
    ++ clip 0x10000 0x10FFFF r

/-- Cuts a range that does not lie in one block of the given size into the rest of its first block,
whole blocks, and the start of its last block. -/
def splitBlocks (block : Nat) (r : Nat × Nat) : List (Nat × Nat) :=
  let (lo, hi) := r
  if lo / block == hi / block then [r]
  else
    let first := (lo + block - 1) / block * block
    let last := (hi + 1) / block * block
    (if lo < first then [(lo, first - 1)] else [])
      ++ (if first < last then [(first, last - 1)] else [])
      ++ (if last ≤ hi then [(last, hi)] else [])

/-- The sequences of byte ranges of a range of characters. -/
def byteRanges (r : Nat × Nat) : List (List (Nat × Nat)) :=
  let parts := (splitLengths r).flatMap fun part =>
    if part.2 < 0x80 then [part]
    else ((splitBlocks 64 part).flatMap (splitBlocks 4096)).flatMap (splitBlocks 262144)
  parts.map fun (lo, hi) => (utf8Bytes lo).zip (utf8Bytes hi)

/-- The sequences of byte ranges of a set. -/
def byteSequences (s : Charset) : List (List (Nat × Nat)) :=
  s.ranges.flatMap byteRanges

end Mudline.Regex
