import Mathlib.Data.List.TakeWhile
import Mudline.Expr.Eval

/-!
# The cut into lexemes

The lexer works with an allowance of lexemes. Here it is described without one: every text is cut
into lexemes, in exactly one way, and the cut loses nothing. What the other proofs about expressions
say of a text, they say by induction on this cut.
-/

namespace Mudline

namespace Expr

/-- The characters of a word are neither blanks nor reserved. -/
theorem not_reserved_of_inWord {letters : Bool} {c : Char} {next : Option Char}
    (h : inWord letters c next = true) : Text.isBlank c = false ∧ isReserved c = false := by
  simp only [inWord] at h
  split at h
  · cases h
  · rename_i hneither
    simpa using hneither

/-- A word and what is left are the text that it was taken from. -/
theorem takeWord_append (letters : Bool) (t : Text) :
    (takeWord letters t).1 ++ (takeWord letters t).2 = t := by
  induction t generalizing letters with
  | nil => rfl
  | cons c t ih =>
    simp only [takeWord]
    split
    · simp [ih]
    · rfl

/-- No blank and no reserved character stands in a word. -/
theorem not_reserved_of_mem_takeWord {letters : Bool} {t : Text} {c : Char}
    (h : c ∈ (takeWord letters t).1) : Text.isBlank c = false ∧ isReserved c = false := by
  induction t generalizing letters with
  | nil => simp [takeWord] at h
  | cons d t ih =>
    simp only [takeWord] at h
    split at h
    · rename_i hd
      rcases List.mem_cons.mp h with rfl | h
      · exact not_reserved_of_inWord hd
      · exact ih h
    · simp at h

/-- A quoted text and what is left are the text that it was taken from. -/
theorem takeString_append (t : Text) : (takeString t).2.1 ++ (takeString t).2.2 = t := by
  fun_induction takeString t <;> simp_all

/-- A character that begins neither a word nor a string begins an operator, if it is no blank. -/
theorem exists_operator {c : Char} {next : Option Char} (hblank : Text.isBlank c = false)
    (hword : inWord false c next = false) (hquote : c ≠ '"') :
    ∃ lexeme long, operator? c next = some (lexeme, long) := by
  simp only [inWord, hblank, Bool.false_or] at hword
  split at hword
  · rename_i hreserved
    simp only [isReserved, Bool.or_eq_true, beq_iff_eq] at hreserved
    rcases hreserved with ((((((((rfl | rfl) | rfl) | rfl) | rfl) | rfl) | rfl) | rfl) | rfl) | rfl
    all_goals first | exact absurd rfl hquote | exact ⟨_, _, rfl⟩
  · split at hword
    · rename_i hc
      obtain rfl : c = '&' := by simpa using hc
      exact ⟨_, _, rfl⟩
    · split at hword
      · rename_i hc
        obtain rfl : c = '|' := by simpa using hc
        exact ⟨_, _, rfl⟩
      · split at hword
        · rename_i hc
          obtain rfl : c = '%' := by simpa using hc
          exact ⟨_, _, rfl⟩
        · split at hword
          · rename_i hc
            obtain rfl : c = '-' := by simpa using hc
            exact ⟨_, _, rfl⟩
          · cases hword

/-- The value of a lexeme that is an operand on its own. -/
def Lexeme.operand? : Lexeme → Option Value
  | .word w => some (Value.parse w)
  | .str t => some (.text t)
  | _ => none

/-- An operator is no operand and not the end, and it has no quote in it. -/
theorem operator_spec {c : Char} {next : Option Char} {lexeme : Lexeme} {long : Bool}
    (h : operator? c next = some (lexeme, long)) :
    c ≠ '"' ∧ lexeme.operand? = none ∧ lexeme ≠ .eof ∧ (long = true → next ≠ some '"') := by
  simp only [operator?] at h
  split at h
  case h_14 => cases h
  all_goals
    simp only [Option.some.injEq] at h
    try split at h
    all_goals
      obtain ⟨rfl, rfl⟩ := Prod.mk.inj h
      refine ⟨by decide, rfl, by decide, ?_⟩
      intro hlong
      simp_all

/-- What begins with no blank begins with a lexeme, which is not the end. -/
theorem exists_takeLexeme {c : Char} (hblank : Text.isBlank c = false) (rest : Text) :
    ∃ lexeme source left, takeLexeme (c :: rest) = .ok (lexeme, source, left) ∧
      lexeme ≠ .eof ∧ source ≠ [] ∧ source ++ left = c :: rest := by
  cases hword : inWord false c rest.head? with
  | true =>
    refine ⟨.word (takeWord false (c :: rest)).1, (takeWord false (c :: rest)).1,
      (takeWord false (c :: rest)).2, ?_, Lexeme.noConfusion, ?_, takeWord_append false (c :: rest)⟩
    · simp [takeLexeme, hword]
    · simp [takeWord, hword]
  | false =>
    by_cases hquote : c = '"'
    · subst hquote
      refine ⟨.str (takeString rest).1, '"' :: (takeString rest).2.1, (takeString rest).2.2, ?_,
        Lexeme.noConfusion, List.cons_ne_nil _ _, ?_⟩
      · simp [takeLexeme, hword]
      · rw [List.cons_append, takeString_append]
    · obtain ⟨lexeme, long, hop⟩ := exists_operator hblank hword hquote
      refine ⟨lexeme, c :: rest.take (if long then 1 else 0), rest.drop (if long then 1 else 0), ?_,
        (operator_spec hop).2.2.1, List.cons_ne_nil _ _, ?_⟩
      · simp [takeLexeme, hword, hquote, hop]
      · rw [List.cons_append, List.take_append_drop]

/-- What is taken off the front is a lexeme with a source, and not the end. -/
theorem takeLexeme_spec {c : Char} {tail source rest : Text} {lexeme : Lexeme}
    (hc : Text.isBlank c = false) (htake : takeLexeme (c :: tail) = .ok (lexeme, source, rest)) :
    lexeme ≠ .eof ∧ source ≠ [] ∧ source ++ rest = c :: tail := by
  obtain ⟨_, _, _, htake', hspec⟩ := exists_takeLexeme hc tail
  obtain ⟨rfl, rfl, rfl⟩ : _ = lexeme ∧ _ = source ∧ _ = rest := by
    simpa using htake'.symm.trans htake
  exact hspec

/-- The three ways in which a lexeme is taken: as a word, as a string, or as an operator. -/
theorem takeLexeme_cases {c : Char} {tail source rest : Text} {lexeme : Lexeme}
    (h : takeLexeme (c :: tail) = .ok (lexeme, source, rest)) :
    (inWord false c tail.head? = true ∧ lexeme = .word source ∧
        takeWord false (c :: tail) = (source, rest)) ∨
      (c = '"' ∧ ∃ text inner, lexeme = .str text ∧ source = '"' :: inner ∧
        takeString tail = (text, inner, rest)) ∨
      (inWord false c tail.head? = false ∧ c ≠ '"' ∧
        ∃ long, operator? c tail.head? = some (lexeme, long) ∧
          source = c :: tail.take (if long then 1 else 0) ∧
          rest = tail.drop (if long then 1 else 0)) := by
  simp only [takeLexeme] at h
  split at h
  · rename_i hword
    obtain ⟨rfl, htaken⟩ := Prod.mk.inj (Except.ok.inj h)
    obtain ⟨rfl, rfl⟩ := Prod.mk.inj htaken
    exact .inl ⟨hword, rfl, rfl⟩
  · rename_i hword
    split at h
    · rename_i hquote
      obtain ⟨rfl, htaken⟩ := Prod.mk.inj (Except.ok.inj h)
      obtain ⟨rfl, rfl⟩ := Prod.mk.inj htaken
      exact .inr (.inl ⟨by simpa using hquote, _, _, rfl, rfl, rfl⟩)
    · rename_i hquote
      cases hop : operator? c tail.head? with
      | none => simp [hop] at h
      | some op =>
        obtain ⟨rfl, rfl, rfl⟩ : _ = lexeme ∧ _ = source ∧ _ = rest := by simpa [hop] using h
        exact .inr (.inr ⟨by simpa using hword, by simpa using hquote, op.2, rfl, rfl, rfl⟩)

/-- How a text is cut into lexemes. -/
inductive Lexes : Text → List Placed → Prop
  /-- Blanks alone hold nothing but the end. -/
  | done {blanks : Text} (hblanks : ∀ c ∈ blanks, Text.isBlank c = true) :
    Lexes blanks [⟨blanks, [], .eof⟩]
  /-- The first character that is no blank begins a lexeme. -/
  | next {blanks source tail rest : Text} {c : Char} {lexeme : Lexeme} {placed : List Placed}
    (hblanks : ∀ d ∈ blanks, Text.isBlank d = true) (hc : Text.isBlank c = false)
    (htake : takeLexeme (c :: tail) = .ok (lexeme, source, rest)) (hrest : Lexes rest placed) :
    Lexes (blanks ++ c :: tail) (⟨blanks, source, lexeme⟩ :: placed)

/-- There is always the end of the text. -/
theorem Lexes.ne_nil {t : Text} {placed : List Placed} (h : Lexes t placed) : placed ≠ [] := by
  cases h <;> exact List.cons_ne_nil _ _

/-- Every text can be cut. -/
theorem exists_lexes (t : Text) : ∃ placed, Lexes t placed := by
  induction hn : t.length using Nat.strongRecOn generalizing t with
  | ind n ih =>
    have hsplit : t.takeWhile Text.isBlank ++ t.dropWhile Text.isBlank = t :=
      List.takeWhile_append_dropWhile
    have hblanks : ∀ c ∈ t.takeWhile Text.isBlank, Text.isBlank c = true :=
      fun c hc => List.mem_takeWhile_imp hc
    cases hrest : t.dropWhile Text.isBlank with
    | nil =>
      rw [hrest, List.append_nil] at hsplit
      rw [hsplit] at hblanks
      exact ⟨_, .done hblanks⟩
    | cons c tail =>
      have hc : Text.isBlank c = false := by
        have hhead := List.head?_dropWhile_not Text.isBlank t
        simpa [hrest] using hhead
      obtain ⟨lexeme, source, rest, htake, -, hsource, hcut⟩ := exists_takeLexeme hc tail
      have hshorter : rest.length < t.length := by
        have hlength := congrArg List.length hcut
        have hwhole := congrArg List.length hsplit
        have hpos := List.length_pos_iff.mpr hsource
        rw [hrest] at hwhole
        simp only [List.length_append, List.length_cons] at hlength hwhole
        omega
      obtain ⟨placed, hplaced⟩ := ih rest.length (by omega) rest rfl
      rw [← hsplit, hrest]
      exact ⟨_, .next hblanks hc htake hplaced⟩

/-- A text is lexed within an allowance that is longer than the text. -/
theorem lexWithin_of_lexes {t : Text} {placed : List Placed} (h : Lexes t placed)
    {allowance : Nat} (hallowance : t.length < allowance) : lexWithin allowance t = .ok placed := by
  induction h generalizing allowance with
  | done hblanks =>
    obtain ⟨allowance, rfl⟩ := Nat.exists_eq_add_one_of_ne_zero (Nat.ne_zero_of_lt hallowance)
    have htake := List.takeWhile_eq_self_iff.mpr hblanks
    have hdrop := List.dropWhile_eq_nil_iff.mpr hblanks
    simp [lexWithin, htake, hdrop, takeLexeme, bind, Except.bind, pure, Except.pure]
  | @next blanks source tail rest c lexeme placed hblanks hc htake hrest ih =>
    obtain ⟨allowance, rfl⟩ := Nat.exists_eq_add_one_of_ne_zero (Nat.ne_zero_of_lt hallowance)
    obtain ⟨hlexeme, hsource, hcut⟩ := takeLexeme_spec hc htake
    have hblanksTake : (blanks ++ c :: tail).takeWhile Text.isBlank = blanks := by
      rw [List.takeWhile_append_of_pos hblanks]
      simp [hc]
    have hblanksDrop : (blanks ++ c :: tail).dropWhile Text.isBlank = c :: tail := by
      rw [List.dropWhile_append_of_pos hblanks]
      simp [hc]
    have hshorter : rest.length < allowance := by
      have hlength := congrArg List.length hcut
      have hpos := List.length_pos_iff.mpr hsource
      simp only [List.length_append, List.length_cons] at hlength hallowance
      omega
    simp [lexWithin, hblanksTake, hblanksDrop, htake, hlexeme, ih hshorter, bind, Except.bind, pure,
      Except.pure]

/-- A text is lexed as the rules say. -/
theorem lex_eq_ok_iff {t : Text} {placed : List Placed} : lex t = .ok placed ↔ Lexes t placed := by
  constructor
  · intro h
    obtain ⟨placed', hplaced⟩ := exists_lexes t
    have hlex : lex t = .ok placed' := lexWithin_of_lexes hplaced (Nat.lt_succ_self _)
    rw [hlex] at h
    exact Except.ok.inj h ▸ hplaced
  · exact fun h => lexWithin_of_lexes h (Nat.lt_succ_self _)

/-- The lexemes of a text, without the end. -/
def lexemes (t : Text) : List Lexeme :=
  match lex t with
  | .ok placed => (placed.map (·.lexeme)).dropLast
  | .error _ => []

/-- The lexemes of a text are those that the rules give, without the end. -/
theorem Lexes.lexemes_eq {t : Text} {placed : List Placed} (h : Lexes t placed) :
    lexemes t = (placed.map (·.lexeme)).dropLast := by
  rw [lexemes, lex_eq_ok_iff.mpr h]

/-- Blanks have no lexemes. -/
theorem lexemes_of_blanks {t : Text} (h : ∀ c ∈ t, Text.isBlank c = true) : lexemes t = [] := by
  rw [(Lexes.done h).lexemes_eq]
  rfl

/-- The lexemes of a text are the first one and those of what follows it. -/
theorem lexemes_next {blanks source tail rest : Text} {c : Char} {lexeme : Lexeme}
    (hblanks : ∀ d ∈ blanks, Text.isBlank d = true) (hc : Text.isBlank c = false)
    (htake : takeLexeme (c :: tail) = .ok (lexeme, source, rest)) :
    lexemes (blanks ++ c :: tail) = lexeme :: lexemes rest := by
  obtain ⟨placed, hplaced⟩ := exists_lexes rest
  have hne : placed.map (·.lexeme) ≠ [] := by simpa using hplaced.ne_nil
  rw [(Lexes.next hblanks hc htake hplaced).lexemes_eq, hplaced.lexemes_eq, List.map_cons,
    List.dropLast_cons_of_ne_nil hne]

/-- A text without lexemes is all blanks. -/
theorem isBlank_of_lexemes_eq_nil {t : Text} (h : lexemes t = []) :
    ∀ c ∈ t, Text.isBlank c = true := by
  obtain ⟨placed, hplaced⟩ := exists_lexes t
  cases hplaced with
  | done hblanks => exact hblanks
  | next hblanks hc htake hrest =>
    rw [lexemes_next hblanks hc htake] at h
    cases h

/-- A text with one lexeme has nothing but blanks around it. -/
theorem exists_of_lexemes_eq_singleton {t : Text} {l : Lexeme} (h : lexemes t = [l]) :
    ∃ blanks c tail source rest, t = blanks ++ c :: tail ∧ Text.isBlank c = false ∧
      (∀ d ∈ blanks, Text.isBlank d = true) ∧ (∀ d ∈ rest, Text.isBlank d = true) ∧
      takeLexeme (c :: tail) = .ok (l, source, rest) := by
  obtain ⟨placed, hplaced⟩ := exists_lexes t
  cases hplaced with
  | done hblanks =>
    rw [lexemes_of_blanks hblanks] at h
    cases h
  | @next blanks source tail rest c lexeme placed hblanks hc htake hrest =>
    rw [lexemes_next hblanks hc htake] at h
    obtain ⟨rfl, hnil⟩ := List.cons.inj h
    exact ⟨blanks, c, tail, source, rest, rfl, hc, hblanks, isBlank_of_lexemes_eq_nil hnil, htake⟩

/-- A text without blanks that has one lexeme is its source. -/
theorem takeLexeme_of_lexemes_eq_singleton {t : Text} {l : Lexeme}
    (hblanks : ∀ c ∈ t, Text.isBlank c = false) (h : lexemes t = [l]) :
    ∃ c tail, t = c :: tail ∧ takeLexeme (c :: tail) = .ok (l, t, []) := by
  have hnone {u : Text} (hu : ∀ c ∈ u, Text.isBlank c = true) (hsub : u ⊆ t) : u = [] :=
    List.eq_nil_iff_forall_not_mem.mpr fun d hd =>
      absurd (hu d hd) (by simp [hblanks d (hsub hd)])
  obtain ⟨blanks, c, tail, source, rest, heq, hc, hfront, hback, htake⟩ :=
    exists_of_lexemes_eq_singleton h
  have hcut := (takeLexeme_spec hc htake).2.2
  rw [← hcut] at heq
  obtain rfl := hnone hfront (heq ▸ List.subset_append_left _ _)
  rw [List.nil_append] at heq
  obtain rfl := hnone hback (heq ▸ List.subset_append_right _ _)
  rw [List.append_nil] at heq
  rw [List.append_nil] at hcut
  exact ⟨c, tail, heq.trans hcut, heq ▸ htake⟩

/-- A word in front of a text. -/
theorem lexemes_word {c : Char} {tail word rest : Text} (hc : Text.isBlank c = false)
    (h : takeWord false (c :: tail) = (word, rest)) (hword : word ≠ []) :
    lexemes (c :: tail) = .word word :: lexemes rest := by
  have hfirst : inWord false c tail.head? = true := by
    by_contra hnot
    rw [takeWord, if_neg hnot] at h
    exact hword (Prod.mk.inj h).1.symm
  have htake : takeLexeme (c :: tail) = .ok (.word word, word, rest) := by
    rw [takeLexeme, if_pos hfirst, h]
  exact lexemes_next (List.forall_mem_nil _) hc htake

/-- The last lexeme is the end. -/
theorem Lexes.map_lexeme {t : Text} {placed : List Placed} (h : Lexes t placed) :
    placed.map (·.lexeme) = lexemes t ++ [.eof] := by
  induction h with
  | done hblanks =>
    rw [lexemes_of_blanks hblanks]
    rfl
  | next hblanks hc htake hrest ih =>
    rw [lexemes_next hblanks hc htake, List.map_cons, ih]
    rfl

/-- The end of the text makes no difference to parsing. -/
theorem parseFrom_concat_eof (stack : List Pending) (place : Place) (ls : List Lexeme) :
    parseFrom stack place (ls ++ [.eof]) = parseFrom stack place ls := by
  induction ls generalizing stack place with
  | nil => rfl
  | cons l ls ih =>
    cases l <;> simp only [List.cons_append, parseFrom]
    all_goals
      congr 1
      funext next
      exact ih _ _

/-- What a text spells is what its lexemes spell. -/
theorem parse_eq (t : Text) : parse t = ofLexemes (lexemes t) := by
  obtain ⟨placed, hplaced⟩ := exists_lexes t
  rw [parse, lex_eq_ok_iff.mpr hplaced]
  simp only [hplaced.map_lexeme, ofLexemes, parseFrom_concat_eof]

/-- The value of the expression that lexemes spell. -/
def evaluateLexemes (ls : List Lexeme) : Except Error Value := do
  (← ofLexemes ls).eval

/-- A text is evaluated by its lexemes. -/
theorem evaluate_eq (t : Text) : evaluate t = evaluateLexemes (lexemes t) := by
  rw [evaluate, evaluateLexemes, parse_eq]

end Expr

end Mudline
