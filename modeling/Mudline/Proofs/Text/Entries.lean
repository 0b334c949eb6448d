import Mudline.Proofs.Text.Pieces

/-!
# Lists in texts

A text holds a list when its entries stand one after the other with a character between neighbours.
The entries make up the text again, and entries that do not hold the character are found again.
-/

namespace Mudline

namespace Text

/-- A character is put before the first piece. -/
theorem consFirst_eq {pieces : List Text} (h : pieces ≠ []) (c : Char) :
    consFirst c pieces = pieces.modifyHead (List.cons c) := by
  obtain ⟨first, rest, rfl⟩ := List.exists_cons_of_ne_nil h
  rfl

/-- Cutting at a character is what it is for lists of any kind. -/
theorem splitOn_eq (sep : Char) (t : Text) : splitOn sep t = List.splitOn sep t := by
  induction t with
  | nil => rfl
  | cons c t ih =>
    have hrest : splitWhere (· == sep) t = List.splitOnP (· == sep) t := ih
    rw [splitOn, splitWhere, hrest, consFirst_eq (List.splitOnP_ne_nil _ t), List.splitOn,
      List.splitOnP_cons_eq_if_modifyHead]

/-- The entries make up the text again. -/
theorem join_splitOn (sep : Char) (t : Text) : join [sep] (splitOn sep t) = t := by
  rw [splitOn_eq]
  exact List.intercalate_splitOn sep

/-- Entries without the separator are found again. -/
theorem splitOn_join {sep : Char} {entries : List Text} (hne : entries ≠ [])
    (h : ∀ entry ∈ entries, sep ∉ entry) : splitOn sep (join [sep] entries) = entries := by
  rw [splitOn_eq]
  exact List.splitOn_intercalate sep h hne

/-- There is no separator in a piece. -/
theorem notMem_of_mem_splitOn {sep : Char} {t piece : Text} (h : piece ∈ splitOn sep t) :
    sep ∉ piece := by
  obtain ⟨pieces, left, hcut⟩ := exists_cutAt sep t
  rw [hcut.splitOn] at h
  rcases List.mem_append.mp h with hmem | hmem
  · exact hcut.pieces _ hmem
  · obtain rfl := List.mem_singleton.mp hmem
    exact hcut.left

/-- A separator between two texts cuts there, whatever the texts are. -/
theorem splitOn_append_cons (sep : Char) (s t : Text) :
    splitOn sep (s ++ sep :: t) = splitOn sep s ++ splitOn sep t := by
  obtain ⟨pieces, left, hs⟩ := exists_cutAt sep s
  obtain ⟨pieces', left', ht⟩ := exists_cutAt sep t
  have hleft : CutAt sep (left ++ sep :: t) (left :: pieces') left' :=
    ⟨by rw [ht.whole]; simp, List.forall_mem_cons.mpr ⟨hs.left, ht.pieces⟩, ht.left⟩
  rw [(hs.append hleft).splitOn, hs.splitOn, ht.splitOn]
  simp

/-- There is one piece more than there are separators. -/
theorem length_splitOn (sep : Char) (t : Text) : (splitOn sep t).length = t.count sep + 1 := by
  induction t with
  | nil => rfl
  | cons c t ih =>
    by_cases hc : c = sep
    · have hcut := splitOn_append_cons sep [] t
      rw [List.nil_append] at hcut
      rw [hc, hcut, List.length_append, ih, List.count_cons_self, Nat.add_comm]
      rfl
    · have hne : splitOn sep t ≠ [] := List.ne_nil_of_length_pos (by omega)
      have hstay : splitOn sep (c :: t) = consFirst c (splitOn sep t) := by
        rw [splitOn, splitWhere, if_neg (by simpa using hc)]
        rfl
      rw [hstay, consFirst_eq hne, List.length_modifyHead, ih, List.count_cons_of_ne hc]

/-- The occurrences of a single character cut where the character does. -/
theorem pieces_singleton (sep : Char) (t : Text) : pieces [sep] t = splitOn sep t := by
  have hpieces : piecesAfter [sep] 0 t = splitOn sep t := by
    induction t with
    | nil => rfl
    | cons c t ih =>
      rw [piecesAfter, splitOn, splitWhere, List.isPrefixOf_cons_cons,
        List.isPrefixOf_nil_left, Bool.and_true, Bool.beq_comm, List.length_singleton, ih]
      rfl
  rw [pieces, List.isEmpty_cons, hpieces]
  rfl

/-- The characters of an entry are among those of the text. -/
theorem mem_of_mem_splitOn {sep c : Char} {t entry : Text} (h : entry ∈ splitOn sep t)
    (hc : c ∈ entry) : c ∈ t := by
  have hentry := (List.sublist_flatten_of_mem h).trans (flatten_sublist_join [sep] _)
  rw [join_splitOn] at hentry
  exact hentry.subset hc

/-- The entry at a place of a list, empty behind its end. -/
def entryAt (sep : Char) (t : Text) (i : Nat) : Text :=
  ((splitOn sep t)[i]?).getD []

/-- Behind the last entry there is nothing. -/
theorem entryAt_of_le {sep : Char} {t : Text} {i : Nat} (h : (splitOn sep t).length ≤ i) :
    entryAt sep t i = [] := by
  rw [entryAt, List.getElem?_eq_none h]
  rfl

/-- The entries at all places, in order. -/
theorem map_entryAt (sep : Char) (t : Text) :
    (List.range (splitOn sep t).length).map (entryAt sep t) = splitOn sep t := by
  refine List.ext_getElem (by simp) fun i _ hi => ?_
  rw [List.getElem_map, List.getElem_range, entryAt, List.getElem?_eq_getElem hi]
  rfl

/-- The empty text holds one entry, which is empty. -/
theorem entryAt_nil (sep : Char) (i : Nat) : entryAt sep [] i = [] := by
  cases i <;> rfl

/-- What stands in an entry stands in the text. -/
theorem mem_of_mem_entryAt {sep c : Char} {t : Text} {i : Nat} (h : c ∈ entryAt sep t i) :
    c ∈ t := by
  rw [entryAt] at h
  cases hentry : (splitOn sep t)[i]? with
  | none => simp [hentry] at h
  | some entry =>
    rw [hentry] at h
    exact mem_of_mem_splitOn (List.mem_of_getElem? hentry) h

end Text

end Mudline
