import Mudline.Proofs.Formula.Quoting

/-!
# Balanced texts

Two scans of formulas count how deep in parentheses they are, one to find the parenthesis that
closes a call, and one to find the commas between its arguments. Here the same is said without
counting: a text is balanced if each of its parentheses has a partner, and the first scan takes just
what is balanced. The second one cuts nothing in a balanced text whose commas are all in
parentheses.
-/

namespace Mudline

namespace Formula

/-- The texts in which each parenthesis outside quotes has its partner. Commas outside both quotes
and parentheses are allowed or not. -/
inductive Balanced : Bool → Text → Prop
  /-- Nothing is balanced. -/
  | nil {commas : Bool} : Balanced commas []
  /-- Any other character may stand first. -/
  | char {commas : Bool} {c : Char} {t : Text} (hmark : c ≠ '(' ∧ c ≠ ')' ∧ c ≠ '"')
      (hcomma : c = ',' → commas = true) (ht : Balanced commas t) : Balanced commas (c :: t)
  /-- Text between quotes may stand first. -/
  | quoted {commas : Bool} {s t : Text} (hs : '"' ∉ s) (ht : Balanced commas t) :
      Balanced commas ('"' :: s ++ '"' :: t)
  /-- Text between parentheses may stand first, with commas in any case. -/
  | group {commas : Bool} {s t : Text} (hs : Balanced true s) (ht : Balanced commas t) :
      Balanced commas ('(' :: s ++ ')' :: t)

/-- There are no marks among characters of a kind that parentheses and commas are not of. -/
theorem isMark_eq_false {p : Char → Bool} {c : Char} (hc : p c = true)
    (h : p '(' = false ∧ p ')' = false ∧ p ',' = false) : isMark c = false := by
  obtain ⟨hleft, hright, hcomma⟩ := h
  refine Bool.eq_false_iff.mpr fun hmark => ?_
  simp only [isMark, Bool.or_eq_true, beq_iff_eq] at hmark
  obtain (rfl | rfl) | rfl := hmark
  · exact Bool.noConfusion (hleft.symm.trans hc)
  · exact Bool.noConfusion (hright.symm.trans hc)
  · exact Bool.noConfusion (hcomma.symm.trans hc)

namespace Balanced

variable {commas : Bool} {s t : Text}

/-- Balanced texts are balanced one after the other. -/
theorem append (hs : Balanced commas s) (ht : Balanced commas t) : Balanced commas (s ++ t) := by
  induction hs with
  | nil => exact ht
  | char hmark hcomma _ ih => exact .char hmark hcomma (ih ht)
  | quoted hquoted _ ih => simpa using Balanced.quoted hquoted (ih ht)
  | group hgroup _ _ ih => simpa using Balanced.group hgroup (ih ht)

/-- Commas may always be allowed. -/
theorem loosen (h : Balanced commas s) : Balanced true s := by
  induction h with
  | nil => exact .nil
  | char hmark _ _ ih => exact .char hmark (fun _ => rfl) ih
  | quoted hquoted _ ih => exact .quoted hquoted ih
  | group hgroup _ _ ih => exact .group hgroup ih

/-- A text of which no character is looked at is balanced. -/
theorem of_forall (h : ∀ c ∈ s, isMark c = false ∧ c ≠ '"') : Balanced commas s := by
  induction s with
  | nil => exact .nil
  | cons c s ih =>
    obtain ⟨⟨hmark, hquote⟩, hrest⟩ := List.forall_mem_cons.mp h
    simp only [isMark, Bool.or_eq_false_iff, beq_eq_false_iff_ne] at hmark
    exact .char ⟨hmark.1.1, hmark.1.2, hquote⟩ (fun hcomma => absurd hcomma hmark.2) (ih hrest)

/-- Blanks at either end make no difference. -/
theorem of_trim (h : Balanced commas (Text.trim t)) : Balanced commas t := by
  have hblanks {blanks : Text} (hall : ∀ c ∈ blanks, Text.isBlank c = true) :
      Balanced commas blanks :=
    .of_forall fun c hc => ⟨isMark_eq_false (hall c hc) ⟨rfl, rfl, rfl⟩, by
      rintro rfl
      cases hall _ hc⟩
  obtain ⟨front, back, hfront, hback, ht⟩ := Text.exists_blanks_trim t
  rw [ht]
  exact (hblanks hfront).append (h.append (hblanks hback))

/-- Balanced pieces with commas between them. -/
theorem join {pieces : List Text} (h : ∀ p ∈ pieces, Balanced commas p) :
    Balanced true (Text.join [','] pieces) := by
  rcases pieces with _ | ⟨first, pieces⟩
  · exact .nil
  induction pieces generalizing first with
  | nil =>
    rw [Text.join, List.intercalate_singleton]
    exact (h first List.mem_cons_self).loosen
  | cons second pieces ih =>
    obtain ⟨hfirst, hrest⟩ := List.forall_mem_cons.mp h
    have hcomma : Balanced true (',' :: Text.join [','] (second :: pieces)) :=
      .char ⟨by decide, by decide, by decide⟩ (fun _ => rfl) (ih second hrest)
    simpa [Text.join, List.intercalate] using hfirst.loosen.append hcomma

end Balanced

/-- Up to its end, a quoted text is passed over in the search for a closing parenthesis. -/
theorem takeClosed?_quoted {s : Text} (h : '"' ∉ s) (depth : Nat) (rest : Text) :
    takeClosed? depth true (s ++ '"' :: rest) =
      (takeClosed? depth false rest).map (s ++ '"' :: ·) := by
  induction s with
  | nil => rw [List.nil_append, takeClosed?_cons]; rfl
  | cons c s ih =>
    obtain ⟨hc, hs⟩ : c ≠ '"' ∧ '"' ∉ s := by simpa [eq_comm] using h
    have hstay : (true != (c == '"')) = true := by simpa using hc
    rw [List.cons_append, takeClosed?_cons, hstay, deepen, if_pos rfl, ih hs, Option.map_map]
    simp [Function.comp_def]

/-- What is balanced is taken as it is. -/
theorem takeClosed?_balanced {commas : Bool} {s : Text} (h : Balanced commas s) {depth : Nat}
    (hdepth : depth ≠ 0) (rest : Text) :
    takeClosed? depth false (s ++ rest) = (takeClosed? depth false rest).map (s ++ ·) := by
  induction h generalizing depth rest with
  | nil => exact Option.map_id'.symm
  | @char _ c t hmark _ _ ih =>
    obtain ⟨hleft, hright, hquote⟩ := hmark
    have hnext : takeClosed? depth false (c :: (t ++ rest)) =
        (takeClosed? depth false (t ++ rest)).map (c :: ·) := by
      simp [takeClosed?_cons, deepen, hleft, hright, beq_eq_false_iff_ne.mpr hquote]
    rw [List.cons_append, hnext, ih hdepth, Option.map_map]
    rfl
  | @quoted _ s t hs _ ih =>
    have hnext : takeClosed? depth false ('"' :: (s ++ '"' :: (t ++ rest))) =
        (takeClosed? depth true (s ++ '"' :: (t ++ rest))).map ('"' :: ·) := rfl
    have hcut : '"' :: s ++ '"' :: t ++ rest = '"' :: (s ++ '"' :: (t ++ rest)) := by simp
    rw [hcut, hnext, takeClosed?_quoted hs, ih hdepth, Option.map_map, Option.map_map]
    simp [Function.comp_def]
  | @group _ s t _ _ ihs iht =>
    have hopen : takeClosed? depth false ('(' :: (s ++ ')' :: (t ++ rest))) =
        (takeClosed? (depth + 1) false (s ++ ')' :: (t ++ rest))).map ('(' :: ·) := rfl
    have hclose : takeClosed? (depth + 1) false (')' :: (t ++ rest)) =
        (takeClosed? depth false (t ++ rest)).map (')' :: ·) := by
      have hdeep : ¬depth + 1 ≤ 1 := by omega
      simp [takeClosed?_cons, deepen, hdeep]
    have hcut : '(' :: s ++ ')' :: t ++ rest = '(' :: (s ++ ')' :: (t ++ rest)) := by simp
    rw [hcut, hopen, ihs (Nat.succ_ne_zero depth), hclose, iht hdepth]
    simp [Option.map_map, Function.comp_def]

/-- What is taken up to the parenthesis that closes one more than `depth` open ones: the balanced
texts before and between the parentheses that close the others. -/
def Closes : Nat → Text → Prop
  | 0, t => Balanced true t
  | depth + 1, t => ∃ s rest, t = s ++ ')' :: rest ∧ Balanced true s ∧ Closes depth rest

namespace Closes

variable {depth : Nat} {s t : Text}

/-- A balanced text in front of one that closes leaves it one that closes. -/
theorem append (hs : Balanced true s) (ht : Closes depth t) : Closes depth (s ++ t) := by
  cases depth with
  | zero => exact hs.append ht
  | succ depth =>
    obtain ⟨u, rest, rfl, hu, hrest⟩ := ht
    exact ⟨s ++ u, rest, (List.append_assoc ..).symm, hs.append hu, hrest⟩

/-- An opening parenthesis is one more to close. -/
theorem cons_left (h : Closes (depth + 1) t) : Closes depth ('(' :: t) := by
  obtain ⟨s, rest, rfl, hs, hrest⟩ := h
  have hgroup : Balanced true ('(' :: s ++ [')']) := .group hs .nil
  simpa using hrest.append hgroup

/-- A closing parenthesis is one less to close. -/
theorem cons_right (h : Closes depth t) : Closes (depth + 1) (')' :: t) :=
  ⟨[], t, rfl, .nil, h⟩

/-- Other characters change nothing. -/
theorem cons_other {c : Char} (hmark : c ≠ '(' ∧ c ≠ ')' ∧ c ≠ '"') (h : Closes depth t) :
    Closes depth (c :: t) :=
  h.append (.char hmark (fun _ => rfl) .nil)

/-- What is quoted changes nothing. -/
theorem cons_quoted (hs : '"' ∉ s) (h : Closes depth t) : Closes depth ('"' :: s ++ '"' :: t) := by
  have hquoted : Balanced true ('"' :: s ++ ['"']) := .quoted hs .nil
  simpa using h.append hquoted

end Closes

/-- What is taken is balanced, but for the parentheses that close what was open before. -/
theorem closes_of_takeClosed? {depth : Nat} {quoted : Bool} {t inner : Text}
    (h : takeClosed? (depth + 1) quoted t = some inner) :
    if quoted then ∃ s rest, inner = s ++ '"' :: rest ∧ '"' ∉ s ∧ Closes depth rest
    else Closes depth inner := by
  induction t generalizing depth quoted inner with
  | nil => cases h
  | cons c t ih =>
    rw [takeClosed?_cons] at h
    cases quoted with
    | true =>
      rw [if_neg (by simp)] at h
      obtain ⟨inner, hinner, rfl⟩ := Option.map_eq_some_iff.mp h
      have hnext := ih hinner
      by_cases hquote : c = '"'
      · subst hquote
        exact ⟨[], inner, rfl, List.not_mem_nil, hnext⟩
      · simp only [beq_eq_false_iff_ne.mpr hquote, Bool.bne_false, if_true] at hnext
        obtain ⟨s, rest, rfl, hs, hrest⟩ := hnext
        exact ⟨c :: s, rest, rfl, by simpa [eq_comm] using ⟨hquote, hs⟩, hrest⟩
    | false =>
      by_cases hend : c = ')' ∧ depth = 0
      · obtain ⟨rfl, rfl⟩ := hend
        obtain rfl : inner = [] := (Option.some.inj h).symm
        exact .nil
      rw [if_neg (by simpa using hend)] at h
      obtain ⟨inner, hinner, rfl⟩ := Option.map_eq_some_iff.mp h
      by_cases hright : c = ')'
      · subst hright
        obtain ⟨depth, rfl⟩ := Nat.exists_eq_add_one_of_ne_zero fun hzero => hend ⟨rfl, hzero⟩
        exact Closes.cons_right (ih hinner)
      by_cases hleft : c = '('
      · subst hleft
        exact Closes.cons_left (ih hinner)
      have hdeep : deepen (depth + 1) false c = depth + 1 := by simp [deepen, hleft, hright]
      rw [hdeep] at hinner
      have hnext := ih hinner
      by_cases hquote : c = '"'
      · subst hquote
        obtain ⟨s, rest, rfl, hs, hrest⟩ := hnext
        exact hrest.cons_quoted hs
      · simp only [beq_eq_false_iff_ne.mpr hquote, Bool.bne_false, Bool.false_eq_true, if_false]
          at hnext
        exact hnext.cons_other ⟨hleft, hright, hquote⟩

/-- What is taken for the inside of a call is balanced, and every balanced text before a closing
parenthesis is taken. -/
theorem takeClosed?_eq_some_iff {t inner : Text} : takeClosed? 1 false t = some inner ↔
    Balanced true inner ∧ ∃ back, t = inner ++ ')' :: back := by
  constructor
  · exact fun h => ⟨closes_of_takeClosed? h, takeClosed?_eq_some h⟩
  · rintro ⟨hinner, back, rfl⟩
    have hclosed : takeClosed? 1 false (')' :: back) = some [] := rfl
    rw [takeClosed?_balanced hinner Nat.one_ne_zero, hclosed, Option.map_some, List.append_nil]

/-- A text that is put before the first of several comes there as a whole. -/
theorem foldr_consFirst (s first : Text) (rest : List Text) :
    s.foldr Text.consFirst (first :: rest) = (s ++ first) :: rest := by
  induction s with
  | nil => rfl
  | cons c s ih => rw [List.foldr_cons, ih]; rfl

/-- Up to its end, a quoted text goes into one piece. -/
theorem splitCommas_quoted {s : Text} (h : '"' ∉ s) (depth : Nat) (rest : Text) :
    splitCommas depth true (s ++ '"' :: rest) =
      (s ++ ['"']).foldr Text.consFirst (splitCommas depth false rest) := by
  induction s with
  | nil => rw [List.nil_append, splitCommas_cons]; rfl
  | cons c s ih =>
    obtain ⟨hc, hs⟩ : c ≠ '"' ∧ '"' ∉ s := by simpa [eq_comm] using h
    have hstay : (true != (c == '"')) = true := by simpa using hc
    rw [List.cons_append, splitCommas_cons, hstay, deepen, if_pos rfl, ih hs]
    simp

/-- A balanced text is not cut, unless at commas that stand outside quotes and parentheses. -/
theorem splitCommas_balanced {commas : Bool} {s : Text} (h : Balanced commas s) {depth : Nat}
    (hdepth : commas = true → depth ≠ 0) (rest : Text) :
    splitCommas depth false (s ++ rest) =
      s.foldr Text.consFirst (splitCommas depth false rest) := by
  induction h generalizing depth rest with
  | nil => rfl
  | @char _ c t hmark hcomma _ ih =>
    obtain ⟨hleft, hright, hquote⟩ := hmark
    have hcut : ¬(c = ',' ∧ depth = 0) := fun ⟨hc, hzero⟩ => hdepth (hcomma hc) hzero
    have hnext : splitCommas depth false (c :: (t ++ rest)) =
        Text.consFirst c (splitCommas depth false (t ++ rest)) := by
      simp [splitCommas_cons, deepen, hleft, hright, hcut, beq_eq_false_iff_ne.mpr hquote]
    rw [List.cons_append, hnext, ih hdepth]
    rfl
  | @quoted _ s t hs _ ih =>
    have hnext : splitCommas depth false ('"' :: (s ++ '"' :: (t ++ rest))) =
        Text.consFirst '"' (splitCommas depth true (s ++ '"' :: (t ++ rest))) := rfl
    have hcut : '"' :: s ++ '"' :: t ++ rest = '"' :: (s ++ '"' :: (t ++ rest)) := by simp
    rw [hcut, hnext, splitCommas_quoted hs, ih hdepth]
    simp
  | @group _ s t _ _ ihs iht =>
    have hopen : splitCommas depth false ('(' :: (s ++ ')' :: (t ++ rest))) =
        Text.consFirst '(' (splitCommas (depth + 1) false (s ++ ')' :: (t ++ rest))) := rfl
    have hclose : splitCommas (depth + 1) false (')' :: (t ++ rest)) =
        Text.consFirst ')' (splitCommas depth false (t ++ rest)) := rfl
    have hcut : '(' :: s ++ ')' :: t ++ rest = '(' :: (s ++ ')' :: (t ++ rest)) := by simp
    rw [hcut, hopen, ihs fun _ => Nat.succ_ne_zero depth, hclose, iht hdepth]
    simp

/-- Balanced pieces are cut apart at the commas between them. -/
theorem splitCommas_join {pieces : List Text} (hne : pieces ≠ [])
    (h : ∀ p ∈ pieces, Balanced false p) :
    splitCommas 0 false (Text.join [','] pieces) = pieces := by
  rcases pieces with _ | ⟨first, pieces⟩
  · exact absurd rfl hne
  induction pieces generalizing first with
  | nil =>
    have hfirst : splitCommas 0 false (first ++ []) = first.foldr Text.consFirst [[]] :=
      splitCommas_balanced (h first List.mem_cons_self) nofun []
    rw [Text.join, List.intercalate_singleton]
    rwa [List.append_nil, foldr_consFirst, List.append_nil] at hfirst
  | cons second pieces ih =>
    obtain ⟨hfirst, hrest⟩ := List.forall_mem_cons.mp h
    have hsecond := ih second (List.cons_ne_nil _ _) hrest
    have hcomma : splitCommas 0 false (',' :: Text.join [','] (second :: pieces)) =
        [] :: splitCommas 0 false (Text.join [','] (second :: pieces)) := rfl
    have hjoin : Text.join [','] (first :: second :: pieces) =
        first ++ ',' :: Text.join [','] (second :: pieces) := by simp [Text.join, List.intercalate]
    rw [hjoin, splitCommas_balanced hfirst nofun, hcomma, foldr_consFirst, hsecond, List.append_nil]

end Formula

end Mudline
