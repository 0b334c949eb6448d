import Mathlib.Data.List.Infix
import Mudline.Proofs.Text.Pieces

/-!
# Occurrences found from the left

An occurrence is looked for from the left, and the next one behind it. What the occurrences leave of
a text are its pieces. Joined by what was looked for they are the text again, and joined by another
text they are the text in which each occurrence has been replaced. So how long a replacement is can
be told from the number of the occurrences, and there are none exactly if a text is its only piece.
-/

namespace Mudline

namespace Text

/-- The pieces that the occurrences of a text leave of another, each occurrence being the first one
behind those before it. -/
inductive LeftmostCut (sep : Text) : Text → List Text → Prop
  /-- There is no occurrence. -/
  | whole {t : Text} (h : ¬sep <:+: t) : LeftmostCut sep t [t]
  /-- No occurrence ends before the first one does. -/
  | found {front rest : Text} {pieces : List Text} (h : ¬sep <:+: front ++ sep.dropLast)
    (hrest : LeftmostCut sep rest pieces) :
    LeftmostCut sep (front ++ (sep ++ rest)) (front :: pieces)

section Pieces

variable {sep : Text}

/-- The rest of an occurrence is passed over. -/
theorem piecesAfter_append (front t : Text) :
    piecesAfter sep front.length (front ++ t) = piecesAfter sep 0 t := by
  induction front with
  | nil => rfl
  | cons c front ih => exact ih

/-- A character at which no occurrence begins stands before the first piece. -/
theorem LeftmostCut.cons {c : Char} {t : Text} {pieces : List Text}
    (hcut : LeftmostCut sep t pieces)
    (h : ¬sep <+: c :: t) : LeftmostCut sep (c :: t) (consFirst c pieces) := by
  cases hcut with
  | whole hnone =>
    refine .whole fun hinfix => ?_
    rcases List.infix_cons_iff.mp hinfix with hprefix | hlater
    · exact h hprefix
    · exact hnone hlater
  | @found front rest pieces hfirst hrest =>
    refine @LeftmostCut.found sep (c :: front) rest pieces (fun hinfix => ?_) hrest
    rcases List.infix_cons_iff.mp hinfix with hstart | hlater
    · have hback : front ++ sep.dropLast <+: front ++ (sep ++ rest) :=
        (List.prefix_append_right_inj front).mpr
          ((List.dropLast_prefix sep).trans (List.prefix_append sep rest))
      exact h (hstart.trans ((List.prefix_cons_inj c).mpr hback))
    · exact hfirst hlater

variable (hne : sep ≠ [])

include hne

/-- An occurrence at the start leaves nothing before it. -/
theorem piecesAfter_found (rest : Text) :
    piecesAfter sep 0 (sep ++ rest) = [] :: piecesAfter sep 0 rest := by
  obtain ⟨d, tail, rfl⟩ := List.exists_cons_of_ne_nil hne
  have hprefix : (d :: tail).isPrefixOf (d :: (tail ++ rest)) = true :=
    List.isPrefixOf_iff_prefix.mpr (List.prefix_append (d :: tail) rest)
  rw [List.cons_append, piecesAfter, if_pos hprefix, ← piecesAfter_append tail rest]
  rfl

/-- The pieces of a text are those that are left when occurrences are found from the left. -/
theorem leftmostCut_piecesAfter (t : Text) : LeftmostCut sep t (piecesAfter sep 0 t) := by
  by_cases hfound : sep <+: t
  · obtain ⟨rest, rfl⟩ := hfound
    -- The last character of an occurrence at the start is the last of the first occurrence.
    have hfirst : ¬sep <:+: [] ++ sep.dropLast := fun hinfix => by
      have hlength := hinfix.length_le
      have hpos := List.length_pos_of_ne_nil hne
      rw [List.nil_append, List.length_dropLast] at hlength
      omega
    have hshorter : rest.length < (sep ++ rest).length := by
      have hpos := List.length_pos_of_ne_nil hne
      rw [List.length_append]
      omega
    rw [piecesAfter_found hne]
    exact .found hfirst (leftmostCut_piecesAfter rest)
  · cases t with
    | nil => exact .whole fun hinfix => hne (List.infix_nil.mp hinfix)
    | cons c t =>
      have hnone : ¬sep.isPrefixOf (c :: t) = true := fun h =>
        hfound (List.isPrefixOf_iff_prefix.mp h)
      rw [piecesAfter, if_neg hnone]
      exact (leftmostCut_piecesAfter t).cons hfound
termination_by t.length

/-- A text is cut at the leftmost occurrences first. -/
theorem leftmostCut_pieces (t : Text) : LeftmostCut sep t (pieces sep t) := by
  rw [pieces, if_neg (by simpa using hne)]
  exact leftmostCut_piecesAfter hne t

end Pieces

namespace LeftmostCut

variable {sep t : Text} {pieces : List Text}

/-- There is always a piece. -/
theorem ne_nil (h : LeftmostCut sep t pieces) : pieces ≠ [] := by
  cases h <;> exact List.cons_ne_nil _ _

/-- Joined by what was looked for, the pieces are the text again. -/
theorem join_eq (h : LeftmostCut sep t pieces) : join sep pieces = t := by
  induction h with
  | whole _ => exact List.intercalate_singleton
  | found _ hrest ih =>
    rw [join, List.intercalate_cons_of_ne_nil hrest.ne_nil, ← join, ih, List.append_assoc]

/-- A text is its only piece if there is no occurrence in it, and otherwise has more than one. -/
theorem length_eq_one_iff (h : LeftmostCut sep t pieces) : pieces.length = 1 ↔ ¬sep <:+: t := by
  cases h with
  | whole hnone => simpa using hnone
  | @found front rest pieces _ hrest =>
    have hmore : 0 < pieces.length := List.length_pos_of_ne_nil hrest.ne_nil
    have hinfix : sep <:+: front ++ (sep ++ rest) := ⟨front, rest, List.append_assoc _ _ _⟩
    simp only [List.length_cons, hinfix, not_true_eq_false, iff_false]
    omega

/-- Without an occurrence there is nothing to replace. -/
theorem join_of_not_infix (h : LeftmostCut sep t pieces) (hnone : ¬sep <:+: t) (new : Text) :
    join new pieces = t := by
  cases h with
  | whole _ => exact List.intercalate_singleton
  | @found front rest _ _ _ => exact absurd ⟨front, rest, List.append_assoc _ _ _⟩ hnone

end LeftmostCut

/-- Between pieces there is one separator less than there are pieces. -/
theorem length_join (sep : Text) {pieces : List Text} (h : pieces ≠ []) :
    (join sep pieces).length = pieces.flatten.length + (pieces.length - 1) * sep.length := by
  induction pieces with
  | nil => exact absurd rfl h
  | cons piece rest ih =>
    by_cases hrest : rest = []
    · subst hrest
      simp [join]
    · obtain ⟨n, hn⟩ : ∃ n, rest.length = n + 1 :=
        Nat.exists_eq_succ_of_ne_zero (by simpa using hrest)
      rw [join, List.intercalate_cons_of_ne_nil hrest, ← join, List.length_append,
        List.length_append, ih hrest, List.flatten_cons, List.length_append, List.length_cons, hn]
      simp only [Nat.add_sub_cancel, Nat.succ_mul]
      omega

/-- A text grows or shrinks with each occurrence that is replaced in it. -/
theorem LeftmostCut.length_join {sep t : Text} {pieces : List Text} (h : LeftmostCut sep t pieces)
    (new : Text) : (join new pieces).length + (pieces.length - 1) * sep.length =
      t.length + (pieces.length - 1) * new.length := by
  have hwhole := Text.length_join sep h.ne_nil
  rw [h.join_eq] at hwhole
  rw [Text.length_join new h.ne_nil, hwhole]
  omega

end Text

end Mudline
