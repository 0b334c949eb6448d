import Mudline.Text.Basic

/-!
# Occurrences of one text in another

Occurrences are found from the left and do not overlap. Everything here is read off the pieces
between them: their number, and the text with every occurrence replaced.
-/

namespace Mudline.Text

/-- Whether `needle` occurs in the text. -/
def occursIn (needle : Text) : Text → Bool
  | [] => needle.isEmpty
  | c :: rest => needle.isPrefixOf (c :: rest) || occursIn needle rest

/-- The text before and after the first occurrence of `needle`. -/
def splitFirst? (needle : Text) : Text → Option (Text × Text)
  | [] => if needle.isEmpty then some ([], []) else none
  | c :: rest =>
    if needle.isPrefixOf (c :: rest) then some ([], (c :: rest).drop needle.length)
    else (splitFirst? needle rest).map fun (before, after) => (c :: before, after)

/-- The pieces between the occurrences of the non-empty `sep`, where the first `skip` characters
belong to an occurrence already found. -/
def piecesAfter (sep : Text) : Nat → Text → List Text
  | _, [] => [[]]
  | skip + 1, _ :: rest => piecesAfter sep skip rest
  | 0, c :: rest =>
    if sep.isPrefixOf (c :: rest) then [] :: piecesAfter sep (sep.length - 1) rest
    else consFirst c (piecesAfter sep 0 rest)

/-- The pieces between the occurrences of `sep`. The empty text occurs around every character, so
its pieces are the single characters between two empty ends. -/
def pieces (sep t : Text) : List Text :=
  if sep.isEmpty then [] :: t.map ([·]) ++ [[]] else piecesAfter sep 0 t

/-- How often `sep` occurs. -/
def occurrences (sep t : Text) : Nat :=
  (pieces sep t).length - 1

/-- The text with every occurrence of `old` replaced by `new`. -/
def replace (old new t : Text) : Text :=
  join new (pieces old t)

end Mudline.Text
