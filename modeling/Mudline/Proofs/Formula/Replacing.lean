import Mudline.Proofs.Formula.Part
import Mudline.Proofs.Text.Occurrences

/-!
# Counting and replacing

A formula may count how often a text occurs in another, count the pieces that it is cut into,
replace each occurrence, and measure what comes of it. The four functions look at the same
occurrences, those that are found from the left, and so their answers fit together. But quotes at
the ends of a text are not measured, and a replacement can bring a quote to an end.
-/

namespace Mudline.Function

/-- That a text neither begins nor ends with a double quote. -/
def Unquoted (t : Text) : Prop :=
  t.head? ≠ some '"' ∧ t.getLast? ≠ some '"'

instance (t : Text) : Decidable (Unquoted t) :=
  inferInstanceAs (Decidable (_ ∧ _))

/-- Arguments without quotes at their ends are passed on as they are. -/
theorem call_of_unquoted {known : Text → Bool} {name : Text} (f : Builtin) {args : List Text}
    {r : Except Error Output} (hfind : find? name = some f) (hargs : ∀ a ∈ args, Unquoted a)
    (hrun : run? known f args = some r) : call known name args = r := by
  have hsame : args.map trimQuotes = args :=
    (List.map_congr_left fun a ha => trimQuotes_eq_self (hargs a ha).1 (hargs a ha).2).trans
      (List.map_id args)
  refine call_of_run? hfind ?_
  rw [hsame, hrun]

/-- What the functions say of the occurrences of `part` in `t`: how many there are, and what the
text becomes when `new` stands in the place of each. -/
structure Replaces (known : Text → Bool) (t part new : Text) (n : Nat) (replaced : Text) :
    Prop where
  /-- The occurrences are counted. -/
  count : call known "count" [t, part] = .ok (ofCount n)
  /-- There is one piece more. -/
  countSplit : call known "countsplit" [t, part] = .ok (ofCount (n + 1))
  /-- The occurrences are replaced. -/
  replace : call known "replace" [t, part, new] = .ok (ofText replaced)
  /-- The characters of a text are counted. -/
  length : ∀ u, Unquoted u → call known "length" [u] = .ok (ofCount u.length)
  /-- The result may begin or end with quotes. They are taken off before the rest is counted. -/
  length_replaced : call known "length" [replaced] = .ok (ofCount (trimQuotes replaced).length)
  /-- The occurrences are those that are found from the left. -/
  found : part ≠ [] → ∃ pieces, Text.LeftmostCut part t pieces ∧ pieces.length = n + 1 ∧
    replaced = Text.join new pieces
  /-- Replaced by itself, a text changes nothing. -/
  replace_self : part ≠ [] → call known "replace" [t, part, part] = .ok (ofText t)
  /-- There is no occurrence exactly if the text does not occur. -/
  eq_zero_iff : part ≠ [] → (n = 0 ↔ ¬part <:+: t)
  /-- Where the text does not occur, nothing is changed. -/
  unchanged : part ≠ [] → ¬part <:+: t → call known "replace" [t, part, new] = .ok (ofText t)
  /-- The result, with its quotes, is longer or shorter by what each occurrence makes out. -/
  lengths : part ≠ [] → replaced.length + n * part.length = t.length + n * new.length

/-- Counting, cutting, replacing and measuring go by the same occurrences. -/
theorem replacing_goes_with_counting (known : Text → Bool) {t part new : Text} (ht : Unquoted t)
    (hpart : Unquoted part) (hnew : Unquoted new) : ∃ n replaced,
      Replaces known t part new n replaced := by
  have htwo : ∀ a ∈ [t, part], Unquoted a := by simp [ht, hpart]
  have hthree (u : Text) (hu : Unquoted u) : ∀ a ∈ [t, part, u], Unquoted a := by
    simp [ht, hpart, hu]
  have hreplace (u : Text) (hu : Unquoted u) :
      call known "replace" [t, part, u] = .ok (ofText (Text.replace part u t)) :=
    call_of_unquoted .replace (by decide) (hthree u hu) rfl
  have hcount : call known "count" [t, part] = .ok (ofCount (count part t)) :=
    call_of_unquoted .count (by decide) htwo rfl
  have hcountSplit : call known "countsplit" [t, part] = .ok (ofCount (countSplit part t)) :=
    call_of_unquoted .countSplit (by decide) htwo rfl
  have hlength (u : Text) (hu : Unquoted u) : call known "length" [u] = .ok (ofCount u.length) :=
    call_of_unquoted .length (by decide) (by simpa using hu) rfl
  have htrimmed (u : Text) : call known "length" [u] = .ok (ofCount (trimQuotes u).length) := by
    have hfind : find? "length" = some .length := by decide
    exact call_of_run? hfind rfl
  by_cases hempty : part = []
  · subst hempty
    exact ⟨0, Text.replace [] new t, {
      count := hcount
      countSplit := hcountSplit
      replace := hreplace new hnew
      length := hlength
      length_replaced := htrimmed _
      found := fun h => absurd rfl h
      replace_self := fun h => absurd rfl h
      eq_zero_iff := fun h => absurd rfl h
      unchanged := fun h => absurd rfl h
      lengths := fun h => absurd rfl h }⟩
  · have hcut := Text.leftmostCut_pieces hempty t
    have hpos := List.length_pos_of_ne_nil hcut.ne_nil
    have hnonempty : ¬part.isEmpty = true := by simpa using hempty
    have hn : count part t = (Text.pieces part t).length - 1 := if_neg hnonempty
    have hmore : countSplit part t = count part t + 1 := by
      rw [hn, countSplit, if_neg hnonempty]
      omega
    refine ⟨count part t, Text.replace part new t, {
      count := hcount
      countSplit := hmore ▸ hcountSplit
      replace := hreplace new hnew
      length := hlength
      length_replaced := htrimmed _
      found := fun _ => ⟨_, hcut, by omega, rfl⟩
      replace_self := fun _ => ?_
      eq_zero_iff := fun _ => ?_
      unchanged := fun _ hnone => ?_
      lengths := fun _ => hn ▸ hcut.length_join new }⟩
    · rw [hreplace part hpart, Text.replace, hcut.join_eq]
    · rw [← hcut.length_eq_one_iff, hn]
      omega
    · rw [hreplace new hnew, Text.replace, hcut.join_of_not_infix hnone]

/-- In a text that could be cut in two ways, the occurrences are found from the left. -/
theorem replacing_goes_with_counting_banana :
    (Unquoted "banana" ∧ Unquoted "ana" ∧ Unquoted "é") ∧
      ∃ n replaced, Replaces (fun _ => false) "banana" "ana" "é" n replaced :=
  ⟨by decide, replacing_goes_with_counting _ (by decide) (by decide) (by decide)⟩

/-- What is left of a text may begin with a quote that stood within it, and then it is not all
counted. -/
theorem not_always_fully_counted :
    ¬∀ (known : Text → Bool) (t part new replaced : Text) (n length : Nat),
      Unquoted t → Unquoted part → Unquoted new → part ≠ [] →
      call known "count" [t, part] = .ok (ofCount n) →
      call known "replace" [t, part, new] = .ok (ofText replaced) →
      call known "length" [replaced] = .ok (ofCount length) →
        length + n * part.length = t.length + n * new.length := by
  intro h
  have hwrong := h (fun _ => false) "a\"\"b" "a" [] "\"\"b" 1 1 (by decide) (by decide) (by decide)
    (by decide) rfl rfl rfl
  exact absurd hwrong (by decide)

end Mudline.Function
