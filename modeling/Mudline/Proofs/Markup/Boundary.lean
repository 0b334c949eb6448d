import Mudline.Proofs.Markup.RoundTrip

/-!
# Chunks that are cut at markup

A text whose reading ends on the outermost level, with nothing cut off, can be read by itself: what
follows it is read as if it stood alone, provided that it begins with markup, for otherwise it would
belong to the last text. The reader moves from the left, and each of its moves is a matter of the
front of the text only, as long as the text does not end within it.
-/

namespace Mudline.Markup

/-- Once a predicate has failed, what follows makes no difference to where it failed. -/
theorem cut_front {p : Char → Bool} {t : Text} (h : t.dropWhile p ≠ []) (rest : Text) :
    (t ++ rest).takeWhile p = t.takeWhile p ∧ (t ++ rest).dropWhile p = t.dropWhile p ++ rest := by
  have hlength : (t.takeWhile p).length ≠ t.length := by
    have hsplit := congrArg List.length (List.takeWhile_append_dropWhile (p := p) (l := t))
    have hpos := List.length_pos_of_ne_nil h
    rw [List.length_append] at hsplit
    omega
  rw [List.takeWhile_append, if_neg hlength, List.dropWhile_append, if_neg (by simpa using h)]
  exact ⟨rfl, rfl⟩

/-- What is left is no longer. -/
theorem length_dropWhile_le (p : Char → Bool) (t : Text) : (t.dropWhile p).length ≤ t.length :=
  (List.dropWhile_sublist p).length_le

/-- Skipping a byte leaves what follows the text. -/
theorem skipByte_append {byte : Nat} {t : Text} (h : t ≠ []) (rest : Text) :
    skipByte byte (t ++ rest) = skipByte byte t ++ rest := by
  obtain ⟨c, t, rfl⟩ := List.exists_cons_of_ne_nil h
  rw [List.cons_append, skipByte, skipByte]
  split
  · rw [List.append_assoc]
  · rfl

/-- Something is left only of something. -/
theorem ne_nil_of_skipByte {byte : Nat} {t : Text} (h : skipByte byte t ≠ []) : t ≠ [] := by
  rintro rfl
  exact h rfl

/-- A byte that ends a character leaves at most three others. -/
theorem length_skipByte_le (byte : Nat) (t : Text) : (skipByte byte t).length ≤ t.length + 2 := by
  cases t with
  | nil => exact Nat.zero_le _
  | cons c rest =>
    have hbytes := c.utf8Size_le_four
    rw [skipByte]
    split
    · rw [List.length_append, remnant, List.length_replicate, trailing, List.length_cons]
      omega
    · exact Nat.le_add_right _ _

/-- A character of ASCII is one byte. -/
theorem trailing_of_ascii {c : Char} (hascii : c.toNat < 0x80) : trailing c = 0 := by
  have hsmall : c.val ≤ 0x7F := by
    rw [UInt32.le_iff_toNat_le]
    exact Nat.le_of_lt_succ hascii
  rw [trailing, Char.utf8Size_eq_one_iff.mpr hsmall]

/-- An ASCII character is skipped whole. -/
theorem length_skipByte_ascii_le (stop : Char) (hascii : stop.toNat < 0x80) (t : Text) :
    (skipByte stop.toNat t).length ≤ t.length := by
  cases t with
  | nil => exact Nat.le_refl _
  | cons c rest =>
    rw [skipByte]
    split
    · rename_i hlead
      obtain rfl : c = stop := (leadByte_eq_iff hascii).mp (by simpa using hlead)
      simp [remnant, trailing_of_ascii hascii]
    · exact Nat.le_refl _

/-- A value that ends within a text ends there whatever follows. -/
theorem readQuoted_append {stop : Nat} {t : Text} (h : (readQuoted stop t).2 ≠ []) (rest : Text) :
    readQuoted stop (t ++ rest) = ((readQuoted stop t).1, (readQuoted stop t).2 ++ rest) := by
  induction t using readQuoted.induct stop with
  | case1 => simp [readQuoted] at h
  | case2 c t hstop =>
    have hlead : leadByte c = stop := by simpa using hstop
    rw [List.cons_append, readQuoted_stop hlead, readQuoted_stop hlead]
    rfl
  | case3 c hstop hescape => simp [readQuoted_escape_end hstop hescape] at h
  | case4 c hstop hescape next t value left hleft ih =>
    rw [readQuoted_escape_next hstop hescape] at h ⊢
    rw [List.cons_append, List.cons_append, readQuoted_escape_next hstop hescape, ih h]
  | case5 c t hstop hplain value left hleft ih =>
    rw [readQuoted_plain hstop hplain] at h ⊢
    rw [List.cons_append, readQuoted_plain hstop hplain, ih h]

/-- What is left behind a value is no longer. -/
theorem length_readQuoted_le (stop : Nat) (t : Text) : (readQuoted stop t).2.length ≤ t.length := by
  induction t using readQuoted.induct stop with
  | case1 => exact Nat.le_refl _
  | case2 c t hstop =>
    have hlead : leadByte c = stop := by simpa using hstop
    rw [readQuoted_stop hlead]
  | case3 c hstop hescape =>
    rw [readQuoted_escape_end hstop hescape]
    exact Nat.zero_le _
  | case4 c hstop hescape next t value left hleft ih =>
    rw [readQuoted_escape_next hstop hescape, List.length_cons, List.length_cons]
    exact ih.trans (Nat.le_add_right _ 2)
  | case5 c t hstop hplain value left hleft ih =>
    rw [readQuoted_plain hstop hplain, List.length_cons]
    exact ih.trans (Nat.le_add_right _ 1)

/-- A value that does not end the text is read off its front. -/
theorem readValue?_append {bracketed : Bool} {t value left : Text}
    (h : readValue? bracketed t = some (value, left)) (hleft : left ≠ []) (rest : Text) :
    readValue? bracketed (t ++ rest) = some (value, left ++ rest) := by
  cases t with
  | nil => simp [readValue?] at h
  | cons delimiter t =>
    cases bracketed with
    | true =>
      simp only [readValue?, if_true, Option.some.injEq, Prod.mk.injEq] at h
      obtain ⟨rfl, rfl⟩ := h
      have hclose := ne_nil_of_skipByte hleft
      have hquoted := ne_nil_of_skipByte hclose
      simp only [List.cons_append, readValue?, if_true, readQuoted_append hquoted,
        skipByte_append hquoted, skipByte_append hclose]
    | false =>
      simp only [readValue?, Bool.false_eq_true, if_false, Option.some.injEq, Prod.mk.injEq] at h
      obtain ⟨rfl, rfl⟩ := h
      have hquoted := ne_nil_of_skipByte hleft
      simp only [List.cons_append, readValue?, Bool.false_eq_true, if_false,
        readQuoted_append hquoted, skipByte_append hquoted]

/-- The closing byte of a value may leave some of its character, but no more than two characters
beyond the value and its delimiter. -/
theorem length_readValue?_lt {bracketed : Bool} {t value left : Text}
    (h : readValue? bracketed t = some (value, left)) : left.length < t.length + 2 := by
  cases t with
  | nil => simp [readValue?] at h
  | cons delimiter t =>
    cases bracketed with
    | true =>
      simp only [readValue?, if_true, Option.some.injEq, Prod.mk.injEq] at h
      obtain ⟨-, rfl⟩ := h
      have hquoted := length_readQuoted_le ']'.toNat t
      have hclose := length_skipByte_ascii_le ']' (by decide) (readQuoted ']'.toNat t).2
      have hskip := length_skipByte_le (leadByte delimiter)
        (skipByte ']'.toNat (readQuoted ']'.toNat t).2)
      rw [List.length_cons]
      omega
    | false =>
      simp only [readValue?, Bool.false_eq_true, if_false, Option.some.injEq, Prod.mk.injEq] at h
      obtain ⟨-, rfl⟩ := h
      have hquoted := length_readQuoted_le (leadByte delimiter) t
      have hskip := length_skipByte_le (leadByte delimiter) (readQuoted (leadByte delimiter) t).2
      rw [List.length_cons]
      omega

/-- An attribute that does not end the text is read off its front. -/
theorem readAttr_append {tag t : Text} (h : (readAttr tag t).2 ≠ []) (rest : Text) :
    readAttr tag (t ++ rest) = ((readAttr tag t).1, (readAttr tag t).2 ++ rest) := by
  have hsign : t.dropWhile (· != '=') ≠ [] := by
    intro hnone
    simp [readAttr, hnone, readValue?] at h
  obtain ⟨htake, hdrop⟩ := cut_front hsign rest
  obtain ⟨sign, value, hvalue⟩ := List.exists_cons_of_ne_nil hsign
  simp only [readAttr, htake, hdrop, hvalue, List.cons_append, List.drop_one, List.tail_cons] at h ⊢
  split
  · rfl
  · rename_i hkey
    rw [if_neg hkey] at h
    cases hread : readValue? (isBracketed tag (t.takeWhile (· != '='))) value with
    | none =>
      cases value with
      | nil => simp [hread] at h
      | cons delimiter value => simp [readValue?] at hread
    | some read =>
      obtain ⟨found, left⟩ := read
      rw [hread] at h
      rw [readValue?_append hread h]

/-- An attribute takes a character at least. -/
theorem length_readAttr_lt (tag : Text) {t : Text} (h : t ≠ []) :
    (readAttr tag t).2.length < t.length := by
  have hsplit := congrArg List.length
    (List.takeWhile_append_dropWhile (p := (· != '=')) (l := t))
  have hpos := List.length_pos_of_ne_nil h
  rw [List.length_append] at hsplit
  rw [readAttr]
  split
  · rw [List.length_drop]
    omega
  · rename_i hkey
    have hkeyPos : 0 < (t.takeWhile (· != '=')).length :=
      List.length_pos_of_ne_nil (by simpa using hkey)
    split
    · rename_i value left hread
      have hlt := length_readValue?_lt hread
      have hsome : (t.dropWhile (· != '=')).drop 1 ≠ [] := by
        intro hnone
        simp [hnone, readValue?] at hread
      have hvalue := List.length_pos_of_ne_nil hsome
      rw [List.length_drop] at hlt hvalue
      dsimp only
      omega
    · rw [List.length_drop]
      omega

/-- Among blanks there are no attributes. -/
theorem readAttrsWithin_blank {t : Text} (h : t.dropWhile (· == ' ') = []) (allowance : Nat)
    (tag : Text) : readAttrsWithin allowance tag t = ([], []) := by
  cases allowance <;> simp [readAttrsWithin, h]

/-- Where a header ends, there are no more attributes. -/
theorem readAttrsWithin_stop {t left : Text} {c : Char} (h : t.dropWhile (· == ' ') = c :: left)
    (hc : (c == '>' || c == '/') = true) (allowance : Nat) (tag : Text) :
    readAttrsWithin allowance tag t = ([], c :: left) := by
  rw [readAttrsWithin.eq_def]
  simp only [h]
  cases allowance with
  | zero => rfl
  | succ allowance => exact if_pos hc

/-- Before the end of a header, an attribute is read and then the others. -/
theorem readAttrsWithin_next {t left : Text} {c : Char} (h : t.dropWhile (· == ' ') = c :: left)
    (hc : ¬(c == '>' || c == '/') = true) (allowance : Nat) (tag : Text) :
    readAttrsWithin (allowance + 1) tag t =
      ((readAttr tag (c :: left)).1.toList ++
          (readAttrsWithin allowance tag (readAttr tag (c :: left)).2).1,
        (readAttrsWithin allowance tag (readAttr tag (c :: left)).2).2) := by
  rw [readAttrsWithin.eq_def]
  simp only [h]
  rw [if_neg hc]

/-- What is left behind attributes is no longer. -/
theorem length_readAttrsWithin_le (allowance : Nat) (tag t : Text) :
    (readAttrsWithin allowance tag t).2.length ≤ t.length := by
  induction allowance generalizing t with
  | zero =>
    have hdrop := length_dropWhile_le (· == ' ') t
    cases h : t.dropWhile (· == ' ') with
    | nil => simp [readAttrsWithin_blank h]
    | cons c left => simpa [readAttrsWithin, h] using hdrop
  | succ allowance ih =>
    have hdrop := length_dropWhile_le (· == ' ') t
    cases h : t.dropWhile (· == ' ') with
    | nil => simp [readAttrsWithin_blank h]
    | cons c left =>
      rw [h] at hdrop
      by_cases hc : (c == '>' || c == '/') = true
      · simpa [readAttrsWithin_stop h hc] using hdrop
      · have hattr := length_readAttr_lt tag (List.cons_ne_nil c left)
        have hrest := ih (readAttr tag (c :: left)).2
        rw [readAttrsWithin_next h hc]
        dsimp only
        omega

/-- Attributes that do not end the text are read off its front. -/
theorem readAttrsWithin_append {allowance larger : Nat} {tag t : Text} {rest : Text}
    (hallowance : t.length < allowance) (hlarger : (t ++ rest).length < larger)
    (h : (readAttrsWithin allowance tag t).2 ≠ []) :
    readAttrsWithin larger tag (t ++ rest) =
      ((readAttrsWithin allowance tag t).1, (readAttrsWithin allowance tag t).2 ++ rest) := by
  induction allowance generalizing t larger with
  | zero => exact absurd hallowance (Nat.not_lt_zero _)
  | succ allowance ih =>
    cases larger with
    | zero => exact absurd hlarger (Nat.not_lt_zero _)
    | succ larger =>
      cases hblank : t.dropWhile (· == ' ') with
      | nil => simp [readAttrsWithin_blank hblank] at h
      | cons c left =>
        have hdrop := length_dropWhile_le (· == ' ') t
        have hfront : (t ++ rest).dropWhile (· == ' ') = c :: (left ++ rest) := by
          rw [(cut_front (by simp [hblank]) rest).2, hblank, List.cons_append]
        by_cases hc : (c == '>' || c == '/') = true
        · rw [readAttrsWithin_stop hblank hc, readAttrsWithin_stop hfront hc, List.cons_append]
        · rw [readAttrsWithin_next hblank hc] at h
          -- An attribute that takes the rest of the text leaves nothing for the end of the header.
          have hattr : (readAttr tag (c :: left)).2 ≠ [] := by
            intro hnone
            rw [hnone, readAttrsWithin_blank rfl] at h
            exact h rfl
          have hshorter := length_readAttr_lt tag (List.cons_ne_nil c left)
          rw [hblank] at hdrop
          rw [List.length_append] at hlarger
          rw [readAttrsWithin_next hblank hc, readAttrsWithin_next hfront hc, ← List.cons_append,
            readAttr_append hattr, ih (by omega) (by rw [List.length_append]; omega) h]

/-- What is left of a text is followed by more. -/
def Header.followedBy (rest : Text) : Header → Header
  | .opened name attrs left => .opened name attrs (left ++ rest)
  | .closed name attrs left => .closed name attrs (left ++ rest)
  | .dropped left => .dropped (left ++ rest)
  | .cut => .cut

/-- How many characters are left behind a header. -/
def Header.lengthLeft : Header → Nat
  | .opened _ _ left | .closed _ _ left | .dropped left => left.length
  | .cut => 0

/-- A header that ends within a text ends there whatever follows. -/
theorem headerEnd_append {name : Text} {attrs : List (Text × Text)} {t : Text}
    (h : headerEnd name attrs t ≠ .cut) (rest : Text) :
    headerEnd name attrs (t ++ rest) = (headerEnd name attrs t).followedBy rest := by
  rcases t with _ | ⟨c, t⟩
  · exact absurd rfl h
  · by_cases hslash : c = '/'
    · subst hslash
      rcases t with _ | ⟨d, t⟩
      · exact absurd rfl h
      · by_cases hangle : d = '>'
        · subst hangle
          rfl
        · simp [headerEnd, hangle, Header.followedBy]
    · by_cases hangle : c = '>'
      · subst hangle
        rfl
      · simp [headerEnd, hslash, hangle, Header.followedBy]

/-- What is left behind the end of a header is no longer. -/
theorem lengthLeft_headerEnd_le (name : Text) (attrs : List (Text × Text)) (t : Text) :
    (headerEnd name attrs t).lengthLeft ≤ t.length := by
  unfold headerEnd
  split <;> simp only [Header.lengthLeft, List.length_cons, Nat.zero_le] <;> omega

/-- A header that does not end the text is read off its front. -/
theorem readHeader_append {t : Text} (h : readHeader t ≠ .cut) (rest : Text) :
    readHeader (t ++ rest) = (readHeader t).followedBy rest := by
  have hname : t.dropWhile (!endsName ·) ≠ [] := by
    intro hnone
    simp [readHeader, hnone, headerEnd] at h
  obtain ⟨htake, hdrop⟩ := cut_front hname rest
  have hhead : (t.dropWhile (!endsName ·) ++ rest).head? = (t.dropWhile (!endsName ·)).head? :=
    List.head?_append_of_ne_nil _ hname
  simp only [readHeader, htake, hdrop, hhead] at h ⊢
  split
  · rename_i hspace
    rw [if_pos hspace] at h
    generalize Unicode.lower (t.takeWhile (!endsName ·)) = name at h ⊢
    generalize t.dropWhile (!endsName ·) = left at h ⊢
    have hattrs : (readAttrs name left).2 ≠ [] := by
      intro hnone
      rw [hnone] at h
      exact h rfl
    have hread : readAttrs name (left ++ rest) =
        ((readAttrs name left).1, (readAttrs name left).2 ++ rest) :=
      readAttrsWithin_append (Nat.lt_succ_self _) (Nat.lt_succ_self _) hattrs
    rw [hread]
    exact headerEnd_append h rest
  · rename_i hspace
    rw [if_neg hspace] at h
    exact headerEnd_append h rest

/-- What is left behind a header is no longer. -/
theorem lengthLeft_readHeader_le (t : Text) : (readHeader t).lengthLeft ≤ t.length := by
  have hdrop := length_dropWhile_le (!endsName ·) t
  rw [readHeader]
  dsimp only
  split
  · have hattrs := length_readAttrsWithin_le ((t.dropWhile (!endsName ·)).length + 1)
      (Unicode.lower (t.takeWhile (!endsName ·))) (t.dropWhile (!endsName ·))
    exact (lengthLeft_headerEnd_le _ _ _).trans (hattrs.trans hdrop)
  · exact (lengthLeft_headerEnd_le _ _ _).trans hdrop

/-- What has been read once a header has been, and the text that is left. -/
def Reading.withHeader (r : Reading) : Header → Reading × Text
  | .opened name attrs left => (r.enter name attrs, left)
  | .closed name attrs left => (r.push (.tag name attrs []), left)
  | .dropped left => (r, left)
  | .cut => (r, [])

/-- What has been read after one move of the reader, and the text that is left. -/
def advance (r : Reading) : Text → Reading × Text
  | [] => (r, [])
  | '<' :: '/' :: rest => (r.leave, skipClosing rest)
  | '<' :: rest => r.withHeader (readHeader rest)
  | t => (r.push (.text (t.takeWhile (· != '<'))), t.dropWhile (· != '<'))

/-- Whether a text ends within a header. -/
def Header.isCut : Header → Bool
  | .cut => true
  | _ => false

/-- Whether the text does not end within the next move: a header comes to its end, and a closing
marker to its angle. -/
def isWhole : Text → Bool
  | '<' :: '/' :: rest => rest.contains '>'
  | '<' :: rest => !(readHeader rest).isCut
  | _ => true

/-- The reading of a text ends on the outermost level, and no header and no closing marker is cut
off at its end. -/
inductive EndsWhole : Reading → Text → Prop
  /-- The end of the text, with nothing open. -/
  | done {r : Reading} (houtermost : r.opened = []) : EndsWhole r []
  /-- A move that the text does not end within. -/
  | move {r : Reading} {t : Text} (ht : t ≠ []) (hwhole : isWhole t = true)
      (hrest : EndsWhole (advance r t).1 (advance r t).2) : EndsWhole r t

/-- An angle bracket without a slash behind it begins a header. -/
theorem advance_header {rest : Text} (hslash : rest.head? ≠ some '/') (r : Reading) :
    advance r ('<' :: rest) = r.withHeader (readHeader rest) := by
  rw [advance]
  rintro tail rfl
  exact hslash rfl

/-- Any other character begins a text up to the next angle bracket. -/
theorem advance_text {c : Char} (hc : c ≠ '<') (r : Reading) (rest : Text) :
    advance r (c :: rest) = (r.push (.text ((c :: rest).takeWhile (· != '<'))),
      (c :: rest).dropWhile (· != '<')) := by
  rw [advance.eq_def]
  simp [hc]

/-- A header is whole if it is not cut off. -/
theorem isWhole_header {rest : Text} (hslash : rest.head? ≠ some '/') :
    isWhole ('<' :: rest) = !(readHeader rest).isCut := by
  rw [isWhole]
  rintro tail rfl
  exact hslash rfl

/-- The reader reads by moves. -/
theorem readWithin_succ (allowance : Nat) (r : Reading) (t : Text) :
    readWithin (allowance + 1) r t = readWithin allowance (advance r t).1 (advance r t).2 := by
  rcases t with _ | ⟨c, rest⟩
  · rw [readWithin_nil, advance, readWithin_nil]
  · by_cases hc : c = '<'
    · subst hc
      by_cases hslash : rest.head? = some '/'
      · obtain ⟨rest, rfl⟩ := List.head?_eq_some_iff.mp hslash
        rw [readWithin_close, advance]
      · rw [advance_header hslash, readWithin]
        · cases readHeader rest with
          | cut => simp [Reading.withHeader, readWithin_nil]
          | _ => rfl
        · rintro tail rfl
          exact hslash rfl
    · rw [readWithin_text hc, advance_text hc]

/-- Each move takes a character at least. -/
theorem length_advance_lt (r : Reading) {t : Text} (h : t ≠ []) :
    (advance r t).2.length < t.length := by
  obtain ⟨c, rest, rfl⟩ := List.exists_cons_of_ne_nil h
  by_cases hc : c = '<'
  · subst hc
    by_cases hslash : rest.head? = some '/'
    · obtain ⟨rest, rfl⟩ := List.head?_eq_some_iff.mp hslash
      have hdrop := length_dropWhile_le (· != '>') rest
      rw [advance, skipClosing, List.length_drop, List.length_cons, List.length_cons]
      omega
    · have hleft := lengthLeft_readHeader_le rest
      have hsame (header : Header) : (r.withHeader header).2.length = header.lengthLeft := by
        cases header <;> rfl
      rw [advance_header hslash, hsame, List.length_cons]
      omega
  · have hdrop := length_dropWhile_le (· != '<') rest
    rw [advance_text hc, List.dropWhile_cons_of_pos (by simpa using hc)]
    exact Nat.lt_succ_of_le hdrop

/-- As long as the allowance is enough, it makes no difference. -/
theorem readWithin_of_length_le {allowance other : Nat} {t : Text} (h : t.length ≤ allowance)
    (hother : t.length ≤ other) (r : Reading) :
    readWithin allowance r t = readWithin other r t := by
  induction allowance generalizing other r t with
  | zero =>
    obtain rfl := List.length_eq_zero_iff.mp (Nat.le_zero.mp h)
    rw [readWithin_nil, readWithin_nil]
  | succ allowance ih =>
    by_cases hnil : t = []
    · rw [hnil, readWithin_nil, readWithin_nil]
    · have hshorter := length_advance_lt r hnil
      obtain ⟨other, rfl⟩ : ∃ n, other = n + 1 :=
        Nat.exists_eq_succ_of_ne_zero (by omega)
      rw [readWithin_succ, readWithin_succ]
      exact ih (by omega) (by omega) _

/-- What has been read when a text is at its end. -/
def readFrom (r : Reading) (t : Text) : Reading :=
  readWithin t.length r t

/-- Nothing is read of nothing. -/
@[simp] theorem readFrom_nil (r : Reading) : readFrom r [] = r := rfl

/-- A text is read move by move. -/
theorem readFrom_move {t : Text} (h : t ≠ []) (r : Reading) :
    readFrom r t = readFrom (advance r t).1 (advance r t).2 := by
  have hshorter := length_advance_lt r h
  obtain ⟨n, hn⟩ : ∃ n, t.length = n + 1 := Nat.exists_eq_succ_of_ne_zero (by omega)
  rw [readFrom, hn, readWithin_succ]
  exact readWithin_of_length_le (by omega) (Nat.le_refl _) _

/-- Decides within an allowance whether the reading of a text ends whole. -/
def endsWholeWithin (allowance : Nat) (r : Reading) (t : Text) : Bool :=
  match allowance, t with
  | _, [] => r.opened.isEmpty
  | 0, _ => false
  | allowance + 1, t =>
    isWhole t && endsWholeWithin allowance (advance r t).1 (advance r t).2

/-- Reading may end where no tag is open. -/
theorem endsWhole_nil_iff {r : Reading} : EndsWhole r [] ↔ r.opened = [] := by
  constructor
  · intro hends
    cases hends with
    | done houtermost => exact houtermost
    | move ht => exact absurd rfl ht
  · exact .done

/-- A text ends whole if its first move is whole and what is left ends whole. -/
theorem endsWhole_move_iff {r : Reading} {t : Text} (ht : t ≠ []) :
    EndsWhole r t ↔ isWhole t = true ∧ EndsWhole (advance r t).1 (advance r t).2 := by
  constructor
  · intro hends
    cases hends with
    | done => exact absurd rfl ht
    | move _ hwhole hrest => exact ⟨hwhole, hrest⟩
  · exact fun hends => .move ht hends.1 hends.2

/-- Whether a text ends whole is tested within its length. -/
theorem endsWholeWithin_iff {allowance : Nat} {r : Reading} {t : Text}
    (h : t.length ≤ allowance) : endsWholeWithin allowance r t = true ↔ EndsWhole r t := by
  induction allowance generalizing r t with
  | zero =>
    obtain rfl := List.length_eq_zero_iff.mp (Nat.le_zero.mp h)
    rw [endsWhole_nil_iff, endsWholeWithin, List.isEmpty_iff]
  | succ allowance ih =>
    cases t with
    | nil => rw [endsWhole_nil_iff, endsWholeWithin, List.isEmpty_iff]
    | cons c rest =>
      have hnil := List.cons_ne_nil c rest
      have hshorter := length_advance_lt r hnil
      have hrest : endsWholeWithin allowance (advance r (c :: rest)).1 (advance r (c :: rest)).2 =
          true ↔ EndsWhole (advance r (c :: rest)).1 (advance r (c :: rest)).2 := ih (by omega)
      rw [endsWhole_move_iff hnil, ← hrest, endsWholeWithin, Bool.and_eq_true]
      exact hnil

instance (r : Reading) (t : Text) : Decidable (EndsWhole r t) :=
  decidable_of_iff _ (endsWholeWithin_iff (Nat.le_refl t.length))

/-- A text ends where it ended before, if markup or nothing follows it. -/
theorem cut_markup {t rest : Text} (hrest : AtMarkup rest) :
    (t ++ rest).takeWhile (· != '<') = t.takeWhile (· != '<') ∧
      (t ++ rest).dropWhile (· != '<') = t.dropWhile (· != '<') ++ rest := by
  by_cases hall : t.dropWhile (· != '<') = []
  · have hchars : ∀ c ∈ t, (c != '<') = true := List.dropWhile_eq_nil_iff.mp hall
    have hnext : rest.takeWhile (· != '<') = [] ∧ rest.dropWhile (· != '<') = rest := by
      cases rest with
      | nil => exact ⟨rfl, rfl⟩
      | cons d rest =>
        obtain rfl : d = '<' := hrest d rfl
        exact ⟨rfl, rfl⟩
    have hself : t.takeWhile (· != '<') = t := by simpa using hchars
    rw [List.takeWhile_append_of_pos hchars, List.dropWhile_append_of_pos hchars, hnext.1, hnext.2,
      hall, hself, List.append_nil, List.nil_append]
    exact ⟨rfl, rfl⟩
  · exact cut_front hall rest

/-- A move at markup that the text does not end within is made alike before whatever follows. -/
theorem advance_markup_append {t : Text} (hwhole : isWhole ('<' :: t) = true) (rest : Text)
    (r : Reading) :
    advance r ('<' :: (t ++ rest)) =
      ((advance r ('<' :: t)).1, (advance r ('<' :: t)).2 ++ rest) := by
  by_cases hslash : t.head? = some '/'
  · obtain ⟨t, rfl⟩ := List.head?_eq_some_iff.mp hslash
    have hangle : t.dropWhile (· != '>') ≠ [] := by
      intro hnone
      rw [List.dropWhile_eq_nil_iff] at hnone
      have hmem : '>' ∈ t := by simpa [isWhole] using hwhole
      simpa using hnone '>' hmem
    simp only [List.cons_append, advance, skipClosing, (cut_front hangle rest).2]
    rw [List.drop_append_of_le_length (List.length_pos_of_ne_nil hangle)]
  · rw [isWhole_header hslash] at hwhole
    have hcut : readHeader t ≠ .cut := by
      intro hcut
      simp [hcut, Header.isCut] at hwhole
    have hnil : t ≠ [] := by
      rintro rfl
      exact hcut rfl
    have hsame : (t ++ rest).head? ≠ some '/' := by
      rwa [List.head?_append_of_ne_nil _ hnil]
    have hleft (header : Header) (h : header ≠ .cut) : r.withHeader (header.followedBy rest) =
        ((r.withHeader header).1, (r.withHeader header).2 ++ rest) := by
      cases header with
      | cut => exact absurd rfl h
      | _ => rfl
    rw [advance_header hsame, advance_header hslash, readHeader_append hcut, hleft _ hcut]

/-- A move that the first part does not end within is made alike when markup or nothing follows. -/
theorem advance_append {t rest : Text} (ht : t ≠ []) (hwhole : isWhole t = true)
    (hrest : AtMarkup rest) (r : Reading) :
    advance r (t ++ rest) = ((advance r t).1, (advance r t).2 ++ rest) := by
  obtain ⟨c, t, rfl⟩ := List.exists_cons_of_ne_nil ht
  by_cases hc : c = '<'
  · subst hc
    exact advance_markup_append hwhole rest r
  · have hcut := cut_markup (t := c :: t) hrest
    rw [List.cons_append] at hcut ⊢
    rw [advance_text hc, advance_text hc, hcut.1, hcut.2]

/-- What the reader has read of the first part is all that it takes along to the second. -/
theorem readFrom_append {r : Reading} {t rest : Text} (hends : EndsWhole r t)
    (hrest : AtMarkup rest) : readFrom r (t ++ rest) = readFrom (readFrom r t) rest := by
  induction hends with
  | done => rfl
  | move ht hwhole _ ih =>
    have hboth := List.append_ne_nil_of_left_ne_nil ht rest
    rw [readFrom_move ht, readFrom_move hboth, advance_append ht hwhole hrest]
    exact ih

/-- Where a text ends whole, no tag is open. -/
theorem opened_readFrom {r : Reading} {t : Text} (hends : EndsWhole r t) :
    (readFrom r t).opened = [] := by
  induction hends with
  | done houtermost => exact houtermost
  | move ht _ _ ih => rwa [readFrom_move ht]

/-- Puts tokens before those of the outermost open tag. -/
def addBefore (front : List Token) : List OpenTag → List OpenTag
  | [] => []
  | [outermost] => [{ outermost with before := front ++ outermost.before }]
  | tag :: outer => tag :: addBefore front outer

/-- What has been read, behind other tokens of the outermost level. -/
def Reading.behind (front : List Token) (r : Reading) : Reading :=
  match r.opened with
  | [] => { r with siblings := front ++ r.siblings }
  | tag :: outer => { r with opened := addBefore front (tag :: outer) }

namespace Reading

variable (front : List Token) (r : Reading)

/-- A token may be added behind others that are complete. -/
theorem behind_push (t : Token) : (r.behind front).push t = (r.push t).behind front := by
  rcases r with ⟨_ | ⟨tag, outer⟩, siblings⟩
  · simp [behind, push]
  · rfl

/-- A tag may be opened behind tokens that are complete. -/
theorem behind_enter (name : Text) (attrs : List (Text × Text)) :
    (r.behind front).enter name attrs = (r.enter name attrs).behind front := by
  rcases r with ⟨_ | ⟨tag, outer⟩, siblings⟩ <;> rfl

/-- A tag may be closed behind tokens that are complete. -/
theorem behind_leave : (r.behind front).leave = r.leave.behind front := by
  rcases r with ⟨_ | ⟨tag, _ | ⟨next, outer⟩⟩, siblings⟩
  · rfl
  · simp [behind, leave, addBefore]
  · rfl

/-- Tokens that were complete stay in front. -/
theorem complete_behind : (r.behind front).complete = front ++ r.complete := by
  have hlast (tags : List OpenTag) : (addBefore front tags).getLast? =
      tags.getLast?.map fun tag => { tag with before := front ++ tag.before } := by
    induction tags with
    | nil => rfl
    | cons tag outer ih =>
      cases outer with
      | nil => rfl
      | cons next outer =>
        have hskip : addBefore front (tag :: next :: outer) =
            tag :: addBefore front (next :: outer) := rfl
        rw [hskip, List.getLast?_cons, ih, List.getLast?_cons_cons, List.getLast?_cons]
        rfl
  rcases r with ⟨_ | ⟨tag, outer⟩, siblings⟩
  · rfl
  · simp only [behind, complete, hlast, List.getLast?_cons, Option.map_some]

/-- A header may be taken up behind tokens that are complete. -/
theorem behind_withHeader (header : Header) : (r.behind front).withHeader header =
    ((r.withHeader header).1.behind front, (r.withHeader header).2) := by
  cases header with
  | opened name attrs left => exact congrArg (·, left) (behind_enter front r name attrs)
  | closed name attrs left => exact congrArg (·, left) (behind_push front r _)
  | dropped left => rfl
  | cut => rfl

end Reading

/-- A move is the same behind tokens that are complete. -/
theorem advance_behind (front : List Token) (r : Reading) (t : Text) :
    advance (r.behind front) t = ((advance r t).1.behind front, (advance r t).2) := by
  rcases t with _ | ⟨c, rest⟩
  · rfl
  · by_cases hc : c = '<'
    · subst hc
      by_cases hslash : rest.head? = some '/'
      · obtain ⟨rest, rfl⟩ := List.head?_eq_some_iff.mp hslash
        rw [advance, advance, Reading.behind_leave]
      · rw [advance_header hslash, advance_header hslash, Reading.behind_withHeader]
    · rw [advance_text hc, advance_text hc, Reading.behind_push]

/-- So are all moves. -/
theorem readWithin_behind (allowance : Nat) (front : List Token) (r : Reading) (t : Text) :
    readWithin allowance (r.behind front) t = (readWithin allowance r t).behind front := by
  induction allowance generalizing r t with
  | zero => cases t <;> rfl
  | succ allowance ih => rw [readWithin_succ, readWithin_succ, advance_behind, ih]

/-- A text that can be read by itself is read alike before markup, and what follows it is read as if
it stood alone. -/
theorem read_append {t rest : Text} (hends : EndsWhole {} t) (hrest : AtMarkup rest) :
    read (t ++ rest) = read t ++ read rest := by
  have houtermost := opened_readFrom hends
  -- On the outermost level, the tokens are all that has been read of the first part.
  obtain ⟨front, hfront⟩ : ∃ front, readFrom {} t = Reading.behind front {} := by
    refine ⟨(readFrom {} t).siblings, ?_⟩
    rcases hread : readFrom {} t with ⟨opened, siblings⟩
    obtain rfl : opened = [] := by simpa [hread] using houtermost
    simp [Reading.behind]
  have hcomplete : read t = front :=
    (congrArg Reading.complete hfront).trans (List.append_nil front)
  calc read (t ++ rest)
      = (readFrom {} (t ++ rest)).complete := rfl
    _ = (readFrom (Reading.behind front {}) rest).complete := by
        rw [readFrom_append hends hrest, hfront]
    _ = ((readFrom {} rest).behind front).complete := by
        rw [readFrom, readWithin_behind, readFrom]
    _ = read t ++ read rest := by
        rw [Reading.complete_behind, hcomplete]
        rfl

end Mudline.Markup
