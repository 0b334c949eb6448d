import Mudline.Proofs.Script.Indexing

/-!
# Indices in parentheses and in brackets

Before references are replaced, every index in parentheses is rewritten to one in brackets. This
file says where such indices stand in a text, where no two of them overlap, and that the rewritten
text is the one in which each stands at its place in brackets and nothing else is changed. No index
in parentheses is left in it.
-/

namespace Mudline.Script

/-- An index behind a sigil and a name. -/
structure Index where
  /-- What begins the reference. -/
  sigil : Char
  /-- The name. -/
  name : Text
  /-- The number of the entry. -/
  digits : Text
  /-- A variable of the script or a shared one is named. -/
  sigil_eq : sigil = '%' ∨ sigil = '$'
  /-- The name is not empty. -/
  name_ne : name ≠ []
  /-- The name consists of ASCII letters, digits, underscores and dots. -/
  name_chars : ∀ c ∈ name, isIndexedNameChar c = true
  /-- There is a digit. -/
  digits_ne : digits ≠ []
  /-- The number consists of digits. -/
  digits_chars : ∀ c ∈ digits, Text.isDigit c = true

namespace Index

variable (x : Index)

/-- The index between two characters. -/
def between (opening closing : Char) : Text :=
  x.sigil :: (x.name ++ opening :: (x.digits ++ [closing]))

/-- The index in parentheses. -/
def inParens : Text :=
  x.between '(' ')'

/-- The index in brackets. -/
def inBrackets : Text :=
  x.between '[' ']'

/-- An index takes as many characters in brackets as in parentheses. -/
theorem length_inBrackets : x.inBrackets.length = x.inParens.length := by
  simp [inBrackets, inParens, between]

/-- What an index in parentheses consists of, in front of a text. -/
theorem inParens_append (rest : Text) :
    x.inParens ++ rest = x.sigil :: (x.name ++ '(' :: (x.digits ++ ')' :: rest)) := by
  simp [inParens, between]

/-- What an index in brackets consists of, in front of a text. -/
theorem inBrackets_append (rest : Text) :
    x.inBrackets ++ rest = x.sigil :: (x.name ++ '[' :: (x.digits ++ ']' :: rest)) := by
  simp [inBrackets, between]

/-- A character other than the two around the index does not depend on them. -/
theorem getElem?_between {opening closing c : Char} {k : Nat} (hopening : c ≠ opening)
    (hclosing : c ≠ closing) (h : (x.between opening closing)[k]? = some c)
    (opening' closing' : Char) : (x.between opening' closing')[k]? = some c := by
  rcases k with _ | k
  · exact h
  · simp only [between, List.getElem?_cons_succ] at h ⊢
    rw [List.getElem?_append] at h ⊢
    split at h
    · rename_i hname
      rw [if_pos hname, h]
    · rename_i hname
      rw [if_neg hname]
      generalize k - x.name.length = k at h ⊢
      rcases k with _ | k
      · exact absurd (Option.some.inj h).symm hopening
      · simp only [List.getElem?_cons_succ] at h ⊢
        rw [List.getElem?_append] at h ⊢
        split at h
        · rename_i hdigits
          rw [if_pos hdigits, h]
        · exact absurd (List.mem_singleton.mp (List.mem_of_getElem? h)) hclosing

/-- An index in parentheses is found behind its sigil. -/
theorem parenIndex?_eq (rest : Text) :
    parenIndex? (x.name ++ '(' :: (x.digits ++ ')' :: rest)) = some (x.name, x.digits) :=
  parenIndex?_eq_some_iff.mpr
    ⟨⟨x.name_ne, x.name_chars⟩, ⟨x.digits_ne, x.digits_chars⟩, rest, rfl⟩

/-- What is found behind a sigil is an index in parentheses. -/
theorem exists_of_parenIndex? {c : Char} (hc : c = '%' ∨ c = '$') {rest name digits : Text}
    (h : parenIndex? rest = some (name, digits)) : ∃ x : Index, x.inParens <+: c :: rest := by
  obtain ⟨⟨hname, hnames⟩, ⟨hdigits, hdigitchars⟩, more, rfl⟩ := parenIndex?_eq_some_iff.mp h
  refine ⟨⟨c, name, digits, hc, hname, hnames, hdigits, hdigitchars⟩, more, ?_⟩
  exact inParens_append _ more

/-- A digit may stand in the name of an index. -/
theorem isIndexedNameChar_of_mem_digits {c : Char} (h : c ∈ x.digits) :
    isIndexedNameChar c = true := by
  simp [isIndexedNameChar, x.digits_chars c h]

/-- Behind the sigil there is no other. -/
theorem isSigil_eq_false {c : Char} (h : c ∈ x.inParens.tail) : isSigil c = false := by
  simp only [inParens, between, List.tail_cons, List.mem_append, List.mem_cons,
    List.not_mem_nil, or_false] at h
  obtain h | rfl | h | rfl := h
  · exact isSigil_of_isIndexedNameChar (x.name_chars c h)
  · rfl
  · exact isSigil_of_isIndexedNameChar (x.isIndexedNameChar_of_mem_digits h)
  · rfl

/-- There are no brackets in it. -/
theorem ne_bracket_of_mem {c : Char} (h : c ∈ x.inParens) : c ≠ '[' ∧ c ≠ ']' := by
  have hname (hc : isIndexedNameChar c = true) : c ≠ '[' ∧ c ≠ ']' := by
    constructor <;> rintro rfl <;> cases hc
  simp only [inParens, between, List.mem_cons, List.mem_append, List.not_mem_nil, or_false] at h
  obtain rfl | h | rfl | h | rfl := h
  · obtain h | h := x.sigil_eq <;> rw [h] <;> decide
  · exact hname (x.name_chars c h)
  · decide
  · exact hname (x.isIndexedNameChar_of_mem_digits h)
  · decide

/-- The sigil of an index is one. -/
theorem isSigil_sigil : isSigil x.sigil = true := by
  obtain h | h := x.sigil_eq <;> rw [h] <;> rfl

variable {x}

/-- At most one index stands at the start of a text. -/
theorem eq_of_prefix {y : Index} {rest : Text} (h : y.inParens <+: x.inParens ++ rest) : y = x := by
  obtain ⟨more, h⟩ := h
  rw [inParens_append, inParens_append] at h
  obtain ⟨hsigil, hafter⟩ := List.cons.inj h
  have hpair := y.parenIndex?_eq more
  rw [hafter, x.parenIndex?_eq rest] at hpair
  obtain ⟨hname, hdigits⟩ := Prod.mk.inj (Option.some.inj hpair)
  cases x
  cases y
  cases hsigil
  cases hname
  cases hdigits
  rfl

/-- Where a text begins with an index, the others stand behind it. -/
theorem place_of_prefix_drop {y : Index} {rest : Text} {i : Nat}
    (h : y.inParens <+: (x.inParens ++ rest).drop i) :
    (i = 0 ∧ y = x) ∨ ∃ k, i = x.inParens.length + k ∧ y.inParens <+: rest.drop k := by
  rcases i with _ | i
  · exact .inl ⟨rfl, eq_of_prefix h⟩
  · have hlength : x.inParens.length = x.inParens.tail.length + 1 := by simp [inParens, between]
    have hdrop : (x.inParens ++ rest).drop (i + 1) = (x.inParens.tail ++ rest).drop i := rfl
    rw [hdrop] at h
    by_cases hi : i < x.inParens.tail.length
    · -- the sigil of the second index would stand within the first
      rw [List.drop_append_of_le_length hi.le, List.drop_eq_getElem_cons hi] at h
      obtain ⟨more, h⟩ := h
      have hsigil : y.sigil = x.inParens.tail[i] := (List.cons.inj h).1
      have hother := x.isSigil_eq_false (List.getElem_mem hi)
      rw [← hsigil, y.isSigil_sigil] at hother
      cases hother
    · rw [List.drop_append, List.drop_eq_nil_of_le (Nat.le_of_not_lt hi), List.nil_append] at h
      exact .inr ⟨i - x.inParens.tail.length, by omega, h⟩

end Index

/-- An index in front is put in brackets. -/
theorem bracketIndices_index (x : Index) (rest : Text) :
    bracketIndices (x.inParens ++ rest) = x.inBrackets ++ bracketIndices rest := by
  have hsigil : (x.sigil == '%' || x.sigil == '$') = true := by simpa using x.sigil_eq
  have hrest : (x.name ++ '(' :: (x.digits ++ ')' :: rest)).drop
      (x.name.length + x.digits.length + 2) = rest := by
    have hsplit : x.name ++ '(' :: (x.digits ++ ')' :: rest) =
        (x.name ++ '(' :: (x.digits ++ [')'])) ++ rest := by simp
    rw [hsplit]
    exact List.drop_left' (by simp; omega)
  rw [x.inParens_append, bracketIndices, bracketAfter]
  simp only [hsigil, if_true, x.parenIndex?_eq]
  rw [bracketAfter_drop, hrest, x.inBrackets_append]
  simp

/-- A character that begins no index is kept. -/
theorem bracketIndices_cons {c : Char} {t : Text} (h : ∀ x : Index, ¬x.inParens <+: c :: t) :
    bracketIndices (c :: t) = c :: bracketIndices t := by
  rw [bracketIndices, bracketAfter]
  split
  · rename_i name digits hindex
    split at hindex
    · rename_i hsigil
      obtain ⟨x, hx⟩ := Index.exists_of_parenIndex? (by simpa using hsigil) hindex
      exact absurd hx (h x)
    · cases hindex
  · rfl

/-- That one text is another with its indices in brackets instead of parentheses. -/
structure Bracketed (t out : Text) : Prop where
  /-- They are of the same length. -/
  length : out.length = t.length
  /-- Where an index in parentheses stands in one, the index in brackets stands in the other. -/
  index : ∀ i (x : Index), x.inParens <+: t.drop i → x.inBrackets <+: out.drop i
  /-- Every character outside the indices in parentheses is the same. -/
  other : ∀ i, (∀ j (x : Index), x.inParens <+: t.drop j → i < j ∨ j + x.inParens.length ≤ i) →
    out[i]? = t[i]?

namespace Bracketed

variable {t out : Text}

/-- Nothing is bracketed as nothing. -/
theorem nil : Bracketed [] [] where
  length := rfl
  index i x h := by simp [Index.inParens, Index.between] at h
  other _ _ := rfl

/-- A character at which no index begins stays in front. -/
theorem cons {c : Char} (hnone : ∀ x : Index, ¬x.inParens <+: c :: t) (h : Bracketed t out) :
    Bracketed (c :: t) (c :: out) where
  length := congrArg (· + 1) h.length
  index i x hx := by
    cases i with
    | zero => exact absurd hx (hnone x)
    | succ i => exact h.index i x hx
  other i hi := by
    cases i with
    | zero => rfl
    | succ i =>
      refine h.other i fun j x hx => ?_
      have hplace := hi (j + 1) x hx
      omega

/-- An index in front is put in brackets. -/
theorem index_append (x : Index) (h : Bracketed t out) :
    Bracketed (x.inParens ++ t) (x.inBrackets ++ out) where
  length := by rw [List.length_append, List.length_append, x.length_inBrackets, h.length]
  index i y hy := by
    obtain ⟨rfl, rfl⟩ | ⟨k, rfl, hrest⟩ := Index.place_of_prefix_drop hy
    · exact List.prefix_append _ _
    · rw [← x.length_inBrackets, List.drop_length_add_append]
      exact h.index k y hrest
  other i hi := by
    have hbehind : x.inParens.length ≤ i := by
      have hplace := hi 0 x (List.prefix_append _ _)
      omega
    obtain ⟨k, rfl⟩ := Nat.exists_eq_add_of_le hbehind
    rw [List.getElem?_append_right (by rw [x.length_inBrackets]; omega),
      List.getElem?_append_right (by omega), x.length_inBrackets, Nat.add_sub_cancel_left]
    refine h.other k fun j y hy => ?_
    have hplace := hi (x.inParens.length + j) y (by rwa [List.drop_length_add_append])
    omega

end Bracketed

/-- Bracketing the indices of a text brackets it. -/
theorem bracketed_bracketIndices (t : Text) : Bracketed t (bracketIndices t) := by
  induction hlength : t.length using Nat.strong_induction_on generalizing t with
  | _ n ih =>
    by_cases hindex : ∃ x : Index, x.inParens <+: t
    · obtain ⟨x, rest, rfl⟩ := hindex
      rw [bracketIndices_index]
      refine (ih rest.length ?_ rest rfl).index_append x
      rw [← hlength, Index.inParens, Index.between]
      simp
      omega
    · replace hindex := not_exists.mp hindex
      cases t with
      | nil => exact .nil
      | cons c t =>
        rw [bracketIndices_cons hindex]
        refine (ih t.length ?_ t rfl).cons hindex
        simp [← hlength]

/-- What stands at a place in a text stands in the text there. -/
theorem getElem?_of_prefix_drop {u t : Text} {i k : Nat} (h : u <+: t.drop i) (hk : k < u.length) :
    t[i + k]? = u[k]? := by
  rw [← List.getElem?_drop, List.prefix_iff_getElem?.mp h k hk, List.getElem?_eq_getElem hk]

/-- A character stays the same, or it belongs to an index and is found there in brackets. -/
theorem place_cases (t : Text) (i : Nat) : (∀ out, Bracketed t out → out[i]? = t[i]?) ∨
    ∃ (x : Index) (k : Nat), t[i]? = x.inParens[k]? ∧
      ∀ out, Bracketed t out → out[i]? = x.inBrackets[k]? := by
  by_cases hi : ∀ j (x : Index), x.inParens <+: t.drop j → i < j ∨ j + x.inParens.length ≤ i
  · exact .inl fun out h => h.other i hi
  · push Not at hi
    obtain ⟨j, x, hx, hle, hlt⟩ := hi
    obtain ⟨k, rfl⟩ := Nat.exists_eq_add_of_le hle
    have hk : k < x.inParens.length := by omega
    refine .inr ⟨x, k, getElem?_of_prefix_drop hx hk, fun out h => ?_⟩
    exact getElem?_of_prefix_drop (h.index j x hx) (x.length_inBrackets ▸ hk)

namespace Bracketed

variable {t out : Text}

/-- A text has only one form with its indices in brackets. -/
theorem unique {out' : Text} (h : Bracketed t out) (h' : Bracketed t out') : out = out' := by
  refine List.ext_getElem? fun i => ?_
  obtain hsame | ⟨x, k, -, hread⟩ := place_cases t i
  · rw [hsame out h, hsame out' h']
  · rw [hread out h, hread out' h']

/-- No other character than a bracket is new. -/
theorem getElem?_of_ne {i : Nat} {c : Char} (h : Bracketed t out) (hc : out[i]? = some c)
    (hopening : c ≠ '[') (hclosing : c ≠ ']') : t[i]? = some c := by
  obtain hsame | ⟨x, k, hindex, hread⟩ := place_cases t i
  · rw [← hsame out h, hc]
  · rw [hread out h] at hc
    rw [hindex, Index.inParens]
    exact x.getElem?_between hopening hclosing hc '(' ')'

/-- Where the indices are in brackets, none is left in parentheses. -/
theorem not_prefix_drop (h : Bracketed t out) (i : Nat) (x : Index) :
    ¬x.inParens <+: out.drop i := by
  intro hx
  -- an index in parentheses holds no bracket, so it stands in the first text already
  have hbefore : x.inParens <+: t.drop i := by
    refine List.prefix_iff_getElem?.mpr fun k hk => ?_
    obtain ⟨hopening, hclosing⟩ := x.ne_bracket_of_mem (List.getElem_mem hk)
    rw [List.getElem?_drop]
    refine h.getElem?_of_ne ?_ hopening hclosing
    rw [getElem?_of_prefix_drop hx hk, List.getElem?_eq_getElem hk]
  have hbrackets := h.index i x hbefore
  have hsame : x.inBrackets = x.inParens :=
    (List.prefix_of_prefix_length_le hbrackets hx x.length_inBrackets.le).eq_of_length
      x.length_inBrackets
  rw [Index.inBrackets, Index.inParens, Index.between, Index.between] at hsame
  have hopening := (List.cons.inj (List.append_cancel_left (List.cons.inj hsame).2)).1
  exact absurd hopening (by decide)

end Bracketed

/-- Every index in parentheses behind a sigil and a name is rewritten to one in brackets, and no
other character is changed; this leaves only one text. A second time there is nothing to rewrite. -/
theorem indices_are_bracketed (t : Text) :
    Bracketed t (bracketIndices t) ∧ (∀ out, Bracketed t out → out = bracketIndices t) ∧
      bracketIndices (bracketIndices t) = bracketIndices t := by
  have hbracketed := bracketed_bracketIndices t
  have hsettled : Bracketed (bracketIndices t) (bracketIndices t) :=
    { length := rfl
      index := fun i x hx => absurd hx (hbracketed.not_prefix_drop i x)
      other := fun _ _ => rfl }
  exact ⟨hbracketed, fun out h => h.unique hbracketed,
    (bracketed_bracketIndices (bracketIndices t)).unique hsettled⟩

/-- References may follow each other, sigils may stand before a name, and a name may begin with a
digit. -/
example :
    bracketIndices "é%%a.b(1)$2(34)$(5)%c(6x)%d(7" = "é%%a.b[1]$2[34]$(5)%c(6x)%d(7" := by decide

end Mudline.Script
