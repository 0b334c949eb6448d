import Mudline.Proofs.Expr.Literal

/-!
# The cut of texts that are joined

The lexer looks one character ahead, so what a text is cut into may change with the text behind it:
a word runs on, a sign meets its equals sign, a percent sign begins a reference. Where none of that
happens, and no literal is left open, the cut of two joined texts is the cut of the one and the cut
of the other.
-/

namespace Mudline

namespace Expr

/-- Whether a lexeme at the end of a text stays as it is before the given character. -/
def Lexeme.endsBefore (x : Char) : Lexeme → Bool
  | .word _ => Text.isBlank x || isReserved x
  | .percent => !(Unicode.isAlphabetic x || x == '_')
  | .bang | .eq | .lt | .gt => x != '='
  | _ => true

/-- A blank or reserved character does not stand in a word. -/
theorem inWord_of_reserved {x : Char} (h : (Text.isBlank x || isReserved x) = true)
    (letters : Bool) (next : Option Char) : inWord letters x next = false := by
  rw [inWord, if_pos h]

/-- At the end of a text the next character decides whether an ampersand, a bar or a percent sign is
in a word, and nothing else. -/
theorem inWord_some {letters : Bool} {c x : Char}
    (hword : inWord letters c none = true → (Text.isBlank x || isReserved x) = true)
    (hpercent : c = '%' → (Unicode.isAlphabetic x || x == '_') = false) :
    inWord letters c (some x) = inWord letters c none := by
  have hne {y : Char} (hy : x ≠ y) : (some x != some y) = true :=
    bne_iff_ne.mpr fun heq => hy (Option.some.inj heq)
  simp only [inWord]
  split
  · rfl
  · split
    · rename_i hc
      obtain rfl : c = '&' := by simpa using hc
      have hx : x ≠ '&' := by
        rintro rfl
        exact absurd (hword rfl) (by decide)
      exact (hne hx).trans rfl
    · split
      · rename_i hc
        obtain rfl : c = '|' := by simpa using hc
        have hx : x ≠ '|' := by
          rintro rfl
          exact absurd (hword rfl) (by decide)
        exact (hne hx).trans rfl
      · split
        · rename_i hc
          simpa using hpercent (by simpa using hc)
        · rfl

/-- A word stays as it is before a character that it does not go on with. -/
theorem takeWord_before {letters : Bool} {t v : Text} {x : Char} (hx : v.head? = some x)
    (hend : (takeWord letters t).2 = [] → (Text.isBlank x || isReserved x) = true)
    (hpercent : (takeWord letters t).2 = ['%'] → (Unicode.isAlphabetic x || x == '_') = false) :
    takeWord letters (t ++ v) = ((takeWord letters t).1, (takeWord letters t).2 ++ v) := by
  induction t generalizing letters with
  | nil =>
    obtain ⟨v, rfl⟩ := List.head?_eq_some_iff.mp hx
    simp [takeWord, inWord_of_reserved (hend rfl)]
  | cons c t ih =>
    simp only [takeWord] at hend hpercent
    have hlook : inWord letters c (t ++ v).head? = inWord letters c t.head? := by
      cases t with
      | nil =>
        rw [List.nil_append, hx]
        refine inWord_some (fun hc => hend ?_) (fun hc => hpercent ?_)
        · simp [takeWord, hc]
        · subst hc
          rfl
      | cons d t => rfl
    rw [List.cons_append, takeWord, takeWord, hlook]
    split
    · rename_i hc
      simp only [if_pos hc] at hend hpercent
      rw [ih hend hpercent]
    · rfl

/-- A plain character in front of a quoted text belongs to it. -/
theorem takeString_cons {c : Char} (hquote : c ≠ '"') (hbackslash : c ≠ '\\') (t : Text) :
    takeString (c :: t) = (c :: (takeString t).1, c :: (takeString t).2.1, (takeString t).2.2) := by
  rw [takeString]
  · exact hquote
  · exact fun hc _ => hbackslash hc
  · exact fun _ _ hc _ => hbackslash hc

/-- A closed string stays as it is. -/
theorem takeString_before {t : Text} (h : QuoteState.inside.after (takeString t).2.1 = .outside)
    (v : Text) :
    takeString (t ++ v) = ((takeString t).1, (takeString t).2.1, (takeString t).2.2 ++ v) := by
  fun_induction takeString t
  case case1 => cases h
  case case3 => cases h
  case case2 => rfl
  case case4 c rest text source left hrest ih =>
    rw [hrest] at ih
    simp [takeString, ih (by simpa [QuoteState.next] using h)]
  case case5 c rest hquote hlone hpair text source left hrest ih =>
    have hc := ne_backslash hlone hpair
    have hafter : QuoteState.inside.after source = .outside := by
      simpa [QuoteState.next, hc, show c ≠ '"' from hquote] using h
    rw [hrest] at ih
    rw [List.cons_append, takeString_cons hquote hc, ih hafter]

/-- That the lexemes of a text stay as they are when it is followed by the given character. -/
structure EndsBefore (x : Char) (t : Text) : Prop where
  /-- No literal is left open. -/
  closed : QuoteState.outside.after t = .outside
  /-- The last lexeme does not go on, unless a blank keeps it apart. -/
  last : ∀ l, (lexemes t).getLast? = some l →
    t.getLast?.any Text.isBlank = true ∨ l.endsBefore x = true

/-- The last character of a text is no operator of two. -/
theorem not_long_at_end {c : Char} {lexeme : Lexeme} {long : Bool}
    (h : operator? c none = some (lexeme, long)) : long = false := by
  simp only [operator?] at h
  split at h
  case h_14 => cases h
  all_goals exact (Prod.mk.inj (Option.some.inj h)).2.symm

/-- An operator at the end of a text stays as it is before a character that does not go on with
it. -/
theorem operator_before {c x : Char} {lexeme : Lexeme} {long : Bool}
    (hword : inWord false c none = false) (hop : operator? c none = some (lexeme, long))
    (hend : lexeme.endsBefore x = true) :
    operator? c (some x) = some (lexeme, long) ∧ inWord false c (some x) = false := by
  have hpercent : c = '%' → (Unicode.isAlphabetic x || x == '_') = false := by
    rintro rfl
    obtain ⟨rfl, -⟩ := Prod.mk.inj (Option.some.inj hop)
    simpa [Lexeme.endsBefore] using hend
  refine ⟨?_, (inWord_some (by simp [hword]) hpercent).trans hword⟩
  simp only [operator?] at hop ⊢
  split at hop
  case h_14 => cases hop
  all_goals
    obtain ⟨rfl, rfl⟩ := Prod.mk.inj (Option.some.inj hop)
    first
    | rfl
    | exact absurd hword (by decide)
    | simp_all [Lexeme.endsBefore]

/-- A lexeme is taken alike before what follows. -/
theorem takeLexeme_before {c : Char} {tail source rest v : Text} {lexeme : Lexeme} {x : Char}
    (hx : v.head? = some x) (htake : takeLexeme (c :: tail) = .ok (lexeme, source, rest))
    (hclosed : rest = [] → QuoteState.outside.after source = .outside)
    (hend : rest = [] → lexeme.endsBefore x = true)
    (hpercent : rest = ['%'] → (Unicode.isAlphabetic x || x == '_') = false) :
    takeLexeme (c :: (tail ++ v)) = .ok (lexeme, source, rest ++ v) := by
  obtain ⟨hword, rfl, htaken⟩ | ⟨rfl, text, inner, rfl, rfl, hstring⟩ |
    ⟨hword, hquote, long, hop, rfl, rfl⟩ := takeLexeme_cases htake
  · have hbefore := @takeWord_before false (c :: tail) v x hx
      (fun h => hend (by rwa [htaken] at h)) (fun h => hpercent (by rwa [htaken] at h))
    rw [htaken, List.cons_append] at hbefore
    have hlook : inWord false c (tail ++ v).head? = true := by
      by_contra hnot
      rw [takeWord, if_neg hnot] at hbefore
      rw [takeWord, if_pos hword] at htaken
      simp_all
    rw [takeLexeme, if_pos hlook, hbefore]
  · have hinner : QuoteState.inside.after (takeString tail).2.1 = .outside := by
      by_cases hrest : (takeString tail).2.2 = []
      · rw [hstring] at hrest ⊢
        exact hclosed hrest
      · exact after_takeString hrest
    have hbefore := takeString_before hinner v
    rw [hstring] at hbefore
    have hreserved : inWord false '"' (tail ++ v).head? = false :=
      inWord_of_reserved (by decide) _ _
    rw [takeLexeme, hreserved, hbefore]
    rfl
  · have hlook : operator? c (tail ++ v).head? = some (lexeme, long) ∧
        inWord false c (tail ++ v).head? = false := by
      cases tail with
      | nil =>
        rw [List.nil_append, hx]
        exact operator_before hword hop (hend (by simp))
      | cons d tail => exact ⟨hop, hword⟩
    have hcut : (tail ++ v).take (if long then 1 else 0) = tail.take (if long then 1 else 0) ∧
        (tail ++ v).drop (if long then 1 else 0) = tail.drop (if long then 1 else 0) ++ v := by
      cases tail with
      | nil =>
        obtain rfl := not_long_at_end hop
        exact ⟨rfl, rfl⟩
      | cons d tail => cases long <;> exact ⟨rfl, rfl⟩
    have hnot : ¬(c == '"') = true := by simpa using hquote
    rw [takeLexeme, hlook.2, if_neg Bool.false_ne_true, if_neg hnot, hlook.1]
    simp only [hcut]

/-- Blanks in front make no difference to the lexemes. -/
theorem lexemes_blanks_append {blanks : Text} (h : ∀ c ∈ blanks, Text.isBlank c = true) (v : Text) :
    lexemes (blanks ++ v) = lexemes v := by
  obtain ⟨placed, hplaced⟩ := exists_lexes v
  cases hplaced with
  | done hblanks =>
    rw [lexemes_of_blanks hblanks, lexemes_of_blanks]
    exact fun c hc => (List.mem_append.mp hc).elim (h c) (hblanks c)
  | next hblanks hc htake hrest =>
    rw [← List.append_assoc, lexemes_next hblanks hc htake, lexemes_next ?_ hc htake]
    exact fun c hc => (List.mem_append.mp hc).elim (h c) (hblanks c)

/-- A lexeme before the end of a text leaves no literal open. -/
theorem after_source {c : Char} {tail source rest : Text} {lexeme : Lexeme}
    (htake : takeLexeme (c :: tail) = .ok (lexeme, source, rest)) (hrest : rest ≠ []) :
    QuoteState.outside.after source = .outside := by
  obtain ⟨-, rfl, htaken⟩ | ⟨rfl, text, inner, rfl, rfl, hstring⟩ |
    ⟨-, -, long, hop, rfl, rfl⟩ := takeLexeme_cases htake
  · have hquote := notMem_quote_takeWord false (c :: tail)
    rw [htaken] at hquote
    exact QuoteState.after_outside hquote
  · have hclosed := after_takeString (t := tail) (by rwa [hstring])
    rw [hstring] at hclosed
    exact hclosed
  · exact QuoteState.after_outside (notMem_quote_operator hop)

/-- The second character of an operator is not blank. -/
theorem not_blank_of_long {c : Char} {next : Option Char} {lexeme : Lexeme}
    (h : operator? c next = some (lexeme, true)) : next.any Text.isBlank = false := by
  obtain ⟨d, hd, hlong⟩ : ∃ d, next = some d ∧ (d = '=' ∨ d = '&' ∨ d = '|') := by
    simp only [operator?] at h
    split at h
    case h_14 => cases h
    all_goals
      simp only [Option.some.injEq] at h
      try split at h
      all_goals simp_all
  rcases hlong with rfl | rfl | rfl <;> rw [hd] <;> rfl

/-- The last character of a text that ends with a word or an operator is no blank. -/
theorem getLast?_of_takeLexeme {c : Char} {tail source : Text} {lexeme : Lexeme}
    (hc : Text.isBlank c = false) (htake : takeLexeme (c :: tail) = .ok (lexeme, source, [])) :
    lexeme.isString = true ∨ (c :: tail).getLast?.any Text.isBlank = false := by
  obtain ⟨-, rfl, htaken⟩ | ⟨rfl, text, inner, rfl, rfl, hstring⟩ |
    ⟨-, -, long, hop, -, hrest⟩ := takeLexeme_cases htake
  · have hwhole := (takeLexeme_spec hc htake).2.2
    rw [List.append_nil] at hwhole
    rw [← hwhole]
    cases hlast : source.getLast? with
    | none => exact .inr rfl
    | some d =>
      have hmem : d ∈ (takeWord false (c :: tail)).1 := by
        rw [htaken]
        exact List.mem_of_getLast? hlast
      exact .inr (not_reserved_of_mem_takeWord hmem).1
  · exact .inl rfl
  · right
    cases long with
    | false =>
      obtain rfl : tail = [] := by simpa using hrest.symm
      exact hc
    | true =>
      have hnext := not_blank_of_long hop
      rcases tail with _ | ⟨d, _ | ⟨e, tail⟩⟩
      · exact hc
      · exact hnext
      · cases hrest

/-- The cut of two texts, where the first ends before the second. -/
theorem lexemes_append {t v : Text} {x : Char} (hx : v.head? = some x) (h : EndsBefore x t) :
    lexemes (t ++ v) = lexemes t ++ lexemes v := by
  obtain ⟨placed, hplaced⟩ := exists_lexes t
  induction hplaced with
  | done hblanks => rw [lexemes_blanks_append hblanks, lexemes_of_blanks hblanks, List.nil_append]
  | @next blanks source tail rest c lexeme placed hblanks hc htake hrest ih =>
    have hfirst := lexemes_next hblanks hc htake
    have hcut := (takeLexeme_spec hc htake).2.2
    have hclosed : QuoteState.outside.after (source ++ rest) = .outside := by
      have hwhole := h.closed
      have hfront := QuoteState.after_outside (notMem_quote_of_blanks hblanks)
      rwa [QuoteState.after_append, hfront, ← hcut] at hwhole
    have hlast {l : Lexeme} (hl : (lexemes (blanks ++ c :: tail)).getLast? = some l)
        (hblank : l.isString = true ∨ (c :: tail).getLast?.any Text.isBlank = false) :
        l.endsBefore x = true := by
      rcases hblank with hstring | hblank
      · cases l <;> first | rfl | cases hstring
      · refine (h.last l hl).resolve_left ?_
        simpa [List.getLast?_append, List.getLast?_cons] using hblank
    have hbefore : takeLexeme (c :: (tail ++ v)) = .ok (lexeme, source, rest ++ v) := by
      refine takeLexeme_before hx htake ?_ ?_ ?_
      · rintro rfl
        simpa using hclosed
      · rintro rfl
        exact hlast (by rw [hfirst]; rfl) (getLast?_of_takeLexeme hc htake)
      -- A lone percent sign has ended the word before it, and is the last lexeme.
      · rintro rfl
        have hpercent : Lexeme.endsBefore x .percent = true := by
          refine hlast (by rw [hfirst]; rfl) (.inr ?_)
          rw [← hcut, List.getLast?_append]
          rfl
        simpa [Lexeme.endsBefore] using hpercent
    have hend : EndsBefore x rest := by
      by_cases hrest : rest = []
      · subst hrest
        exact ⟨rfl, fun l hl => absurd hl (by simp [lexemes_of_blanks])⟩
      · refine ⟨?_, fun l hl => ?_⟩
        · rwa [QuoteState.after_append, after_source htake hrest] at hclosed
        · have hwhole := h.last l (by rw [hfirst, List.getLast?_cons, hl]; rfl)
          rw [← hcut, List.getLast?_append, List.getLast?_append] at hwhole
          cases hchar : rest.getLast? with
          | none => exact absurd (List.getLast?_eq_none_iff.mp hchar) hrest
          | some d => simpa [hchar] using hwhole
    rw [List.append_assoc, List.cons_append, lexemes_next hblanks hc hbefore, ih hend, hfirst,
      List.cons_append]

/-- What a string is read as is no longer than its source. -/
theorem length_takeString (t : Text) : (takeString t).1.length ≤ t.length := by
  fun_induction takeString t <;> simp_all
  omega

/-- A string in front of a text. -/
theorem lexemes_quote (t : Text) :
    lexemes ('"' :: t) = .str (takeString t).1 :: lexemes (takeString t).2.2 := by
  have htake : takeLexeme ('"' :: t) =
      .ok (.str (takeString t).1, '"' :: (takeString t).2.1, (takeString t).2.2) := by
    rw [takeLexeme, inWord_of_reserved (by decide)]
    rfl
  exact lexemes_next (List.forall_mem_nil _) (by decide) htake

/-- Without quotes and backslashes a text in quotes is read as it is. -/
theorem takeString_quoted {r : Text} (hquote : '"' ∉ r) (hbackslash : '\\' ∉ r) (post : Text) :
    takeString (r ++ '"' :: post) = (r, r ++ ['"'], post) := by
  induction r with
  | nil => rfl
  | cons c r ih =>
    rw [List.mem_cons, not_or] at hquote hbackslash
    rw [List.cons_append, takeString_cons (Ne.symm hquote.1) (Ne.symm hbackslash.1),
      ih hquote.2 hbackslash.2]
    rfl

/-- What a text in quotes is read as is no longer than the text. -/
theorem length_takeString_quoted : ∀ {r : Text}, '"' ∉ r →
    (takeString (r ++ ['"'])).1.length ≤ r.length
  | [], _ => Nat.le_refl 0
  | [c], hquote => by
    by_cases hc : c = '\\'
    · subst hc
      decide
    · have hne : c ≠ '"' := by simpa [eq_comm] using hquote
      rw [List.cons_append, takeString_cons hne hc]
      exact Nat.le_refl 1
  | c :: d :: r, hquote => by
    simp only [List.mem_cons, not_or] at hquote
    by_cases hc : c = '\\'
    · subst hc
      have hrest := length_takeString_quoted hquote.2.2
      simp only [List.cons_append, takeString, List.length_cons]
      omega
    · have hrest := length_takeString_quoted (r := d :: r) (by simpa using hquote.2)
      rw [List.cons_append, takeString_cons (Ne.symm hquote.1) hc]
      exact Nat.succ_le_succ hrest

/-- With a backslash a text in quotes is not read as it is. -/
theorem takeString_quoted_ne {r : Text} (hquote : '"' ∉ r) (hbackslash : '\\' ∈ r) :
    (takeString (r ++ ['"'])).1 ≠ r := by
  induction r with
  | nil => cases hbackslash
  | cons c r ih =>
    rw [List.mem_cons, not_or] at hquote
    by_cases hc : c = '\\'
    · subst hc
      cases r with
      | nil => decide
      | cons d r =>
        have hlength := length_takeString_quoted (r := r) (by simp_all)
        intro heq
        simp only [List.cons_append, takeString, List.cons.injEq] at heq
        rw [heq.2] at hlength
        exact Nat.not_succ_le_self _ hlength
    · rw [List.cons_append, takeString_cons (Ne.symm hquote.1) hc]
      have hrest := ih hquote.2 ((List.mem_cons.mp hbackslash).resolve_left (Ne.symm hc))
      exact fun heq => hrest (List.cons.inj heq).2

end Expr

end Mudline
