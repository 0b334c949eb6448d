import Mudline.Proofs.Expr.Joining

/-!
# The classes of lexemes

A lexeme is a word, a string literal or an operator. Here the three classes are described by what
their lexemes are written with and by what may stand behind them: a word holds all that goes on with
it, a literal ends with its closing quote or with the text, and an operator is the longest one that
is written in its place. Whatever begins with no blank begins with exactly one lexeme of one class.
So every text has a cut into lexemes and no second one, the lexer finds it, and an ampersand or a
bar that stands alone is part of no operator in it.
-/

namespace Mudline

namespace Expr

/-- That a word stands in front of the rest of a text. -/
structure IsWord (rest w : Text) : Prop where
  /-- It has a character. -/
  filled : w ≠ []
  /-- Each of its characters goes on with those before it. -/
  inside : ∀ a c b, w = a ++ c :: b →
    inWord (a.any Unicode.isAlphabetic) c (b ++ rest).head? = true
  /-- The character behind it does not go on with it. -/
  ends : ∀ c tail, rest = c :: tail → inWord (w.any Unicode.isAlphabetic) c tail.head? = false

/-- Each character of a word may stand in a word behind those before it. -/
theorem takeWord_inside {letters : Bool} {t a b : Text} {c : Char}
    (h : (takeWord letters t).1 = a ++ c :: b) :
    inWord (letters || a.any Unicode.isAlphabetic) c (b ++ (takeWord letters t).2).head? =
      true := by
  induction t generalizing letters a with
  | nil => simp [takeWord] at h
  | cons d t ih =>
    rw [takeWord] at h ⊢
    split at h
    · rename_i hd
      rw [if_pos hd]
      cases a with
      | nil =>
        obtain ⟨rfl, rfl⟩ := List.cons.inj h
        rwa [takeWord_append, List.any_nil, Bool.or_false]
      | cons e a =>
        obtain ⟨rfl, hrest⟩ := List.cons.inj h
        rw [List.any_cons, ← Bool.or_assoc]
        exact ih hrest
    · simp at h

/-- A word ends where a character may not stand in it. -/
theorem takeWord_ends {letters : Bool} {t tail : Text} {c : Char}
    (h : (takeWord letters t).2 = c :: tail) :
    inWord (letters || (takeWord letters t).1.any Unicode.isAlphabetic) c tail.head? = false := by
  induction t generalizing letters with
  | nil => simp [takeWord] at h
  | cons d t ih =>
    rw [takeWord] at h ⊢
    split at h
    · rename_i hd
      rw [if_pos hd, List.any_cons, ← Bool.or_assoc]
      exact ih h
    · rename_i hd
      obtain ⟨rfl, rfl⟩ := List.cons.inj h
      simpa [if_neg hd] using hd

/-- What goes on character by character, up to one that does not, is taken as a whole. -/
theorem takeWord_eq {letters : Bool} {w rest : Text}
    (hinside : ∀ a c b, w = a ++ c :: b →
      inWord (letters || a.any Unicode.isAlphabetic) c (b ++ rest).head? = true)
    (hends : ∀ c tail, rest = c :: tail →
      inWord (letters || w.any Unicode.isAlphabetic) c tail.head? = false) :
    takeWord letters (w ++ rest) = (w, rest) := by
  induction w generalizing letters with
  | nil =>
    cases rest with
    | nil => rfl
    | cons c tail =>
      have hc := hends c tail rfl
      rw [List.any_nil, Bool.or_false] at hc
      rw [List.nil_append, takeWord, hc, if_neg Bool.false_ne_true]
  | cons d w ih =>
    have hd := hinside [] d w rfl
    rw [List.any_nil, Bool.or_false] at hd
    have hrest : takeWord (letters || Unicode.isAlphabetic d) (w ++ rest) = (w, rest) := by
      refine ih (fun a c b hw => ?_) (fun c tail hrest => ?_)
      · have hc := hinside (d :: a) c b (by rw [hw]; rfl)
        rwa [List.any_cons, ← Bool.or_assoc] at hc
      · have hc := hends c tail hrest
        rwa [List.any_cons, ← Bool.or_assoc] at hc
    rw [List.cons_append, takeWord, if_pos hd, hrest]

/-- A word that stands in front is taken as a whole. -/
theorem IsWord.takeWord_eq {rest w : Text} (h : IsWord rest w) :
    takeWord false (w ++ rest) = (w, rest) :=
  Expr.takeWord_eq h.inside h.ends

/-- What is taken as a word is one. -/
theorem isWord_takeWord {t : Text} (h : (takeWord false t).1 ≠ []) :
    IsWord (takeWord false t).2 (takeWord false t).1 :=
  ⟨h, fun _ _ _ => takeWord_inside, fun _ _ => takeWord_ends⟩

/-- A word begins where the word test holds of a character with none before it. -/
theorem IsWord.exists_cons {rest w : Text} (h : IsWord rest w) :
    ∃ c tail, w = c :: tail ∧ inWord false c (tail ++ rest).head? = true := by
  obtain ⟨c, tail, rfl⟩ := List.exists_cons_of_ne_nil h.filled
  exact ⟨c, tail, rfl, h.inside [] c tail rfl⟩

/-- What a literal in front of the rest of a text is read as, from its source behind the opening
quote. -/
inductive IsLiteral (rest : Text) : Text → Text → Prop
  /-- A quote closes the literal. -/
  | closed : IsLiteral rest ['"'] []
  /-- So does the end of the text. -/
  | ended (hrest : rest = []) : IsLiteral rest [] []
  /-- A backslash at the end of the text stands for nothing. -/
  | lone (hrest : rest = []) : IsLiteral rest ['\\'] []
  /-- Behind a backslash every character stands for itself. -/
  | escaped (c : Char) {source text : Text} (h : IsLiteral rest source text) :
    IsLiteral rest ('\\' :: c :: source) (c :: text)
  /-- Elsewhere every character does but a quote and a backslash. -/
  | plain {c : Char} (hquote : c ≠ '"') (hbackslash : c ≠ '\\') {source text : Text}
    (h : IsLiteral rest source text) : IsLiteral rest (c :: source) (c :: text)

/-- What is taken as a quoted text is one, up to its opening quote. -/
theorem isLiteral_takeString (t : Text) :
    IsLiteral (takeString t).2.2 (takeString t).2.1 (takeString t).1 := by
  fun_induction takeString t with
  | case1 => exact .ended rfl
  | case2 rest => exact .closed
  | case3 => exact .lone rfl
  | case4 c rest text source left hrest ih =>
    rw [hrest] at ih
    exact .escaped c ih
  | case5 c rest hquote hlone hpair text source left hrest ih =>
    rw [hrest] at ih
    exact .plain hquote (ne_backslash hlone hpair) ih

/-- A quoted text that stands in front is taken as a whole. -/
theorem IsLiteral.takeString_eq {rest source text : Text} (h : IsLiteral rest source text) :
    takeString (source ++ rest) = (text, source, rest) := by
  induction h with
  | closed => rfl
  | ended hrest | lone hrest =>
    subst hrest
    rfl
  | escaped c h ih => simp [takeString, ih]
  | plain hquote hbackslash h ih => rw [List.cons_append, takeString_cons hquote hbackslash, ih]

/-- The operators with the ways to write them. -/
def operators : List (Text × Lexeme) :=
  [(['+'], .plus), (['-'], .minus), (['*'], .star), (['/'], .slash), (['%'], .percent),
    (['!'], .bang), (['='], .eq), (['=', '='], .eq), (['!', '='], .ne), (['<'], .lt),
    (['<', '='], .le), (['>'], .gt), (['>', '='], .ge), (['&', '&'], .and), (['|', '|'], .or),
    (['('], .lparen), ([')'], .rparen)]

/-- That an operator stands in front of the rest of a text. -/
structure IsOperator (rest : Text) (l : Lexeme) (source : Text) : Prop where
  /-- It can be written so. -/
  listed : (source, l) ∈ operators
  /-- No longer operator is written in its place. -/
  longest : ∀ e ∈ operators, e.1 <+: source ++ rest → e.1.length ≤ source.length
  /-- No word begins there. -/
  noWord : ∀ c tail, source ++ rest = c :: tail → inWord false c tail.head? = false

/-- An operator begins neither with a blank nor with a quote. -/
theorem head_of_mem_operators : ∀ e ∈ operators,
    e.1.head?.any (fun c => !Text.isBlank c && c != '"') = true := by
  decide

/-- An operator has at most two characters. -/
theorem length_of_mem_operators : ∀ e ∈ operators, e.1.length ≤ 2 := by
  decide

/-- No operator is the end of the text. -/
theorem ne_eof_of_mem_operators : ∀ e ∈ operators, e.2 ≠ .eof := by
  decide

/-- A text is a way to write one operator at most. -/
theorem eq_of_mem_operators :
    ∀ e ∈ operators, ∀ e' ∈ operators, e.1 = e'.1 → e.2 = e'.2 := by
  decide

/-- An operator is told from its first character and the one behind it. -/
theorem operator_of_mem_operators : ∀ e ∈ operators,
    (e.1.head?.bind fun c => operator? c e.1.tail.head?) = some (e.2, e.1.length == 2) := by
  decide

/-- The characters of which only a pair is an operator, with that operator. -/
def doubled : List (Char × Lexeme) :=
  [('&', .and), ('|', .or)]

/-- They are in no operator but their own. -/
theorem pair_of_mem_operators : ∀ s ∈ doubled, ∀ e ∈ operators,
    (s.1 ∈ e.1 → e.1 = [s.1, s.1]) ∧ (e.2 = s.2 ↔ e.1 = [s.1, s.1]) := by
  decide

/-- Where one of them begins no word, another one is behind it. -/
theorem eq_of_inWord_eq_false {next : Option Char} : ∀ s ∈ doubled,
    inWord false s.1 next = false → next = some s.1 := by
  simp [doubled, inWord, isReserved, Text.isBlank]

/-- An operator begins with a character that is neither blank nor a quote. -/
theorem exists_cons_of_mem_operators {source : Text} {l : Lexeme} (h : (source, l) ∈ operators) :
    ∃ c tail, source = c :: tail ∧ Text.isBlank c = false ∧ c ≠ '"' := by
  have hhead := head_of_mem_operators _ h
  cases source with
  | nil => cases hhead
  | cons c tail => exact ⟨c, tail, rfl, by simpa using hhead⟩

/-- What the lexer takes for an operator, where no word begins, is one as it is written. -/
theorem listed_of_operator? {c : Char} {next : Option Char} {l : Lexeme} {long : Bool}
    (hword : inWord false c next = false) (hop : operator? c next = some (l, long)) :
    (c :: (if long then next.toList else []), l) ∈ operators := by
  simp only [operator?] at hop
  split at hop
  case h_14 => cases hop
  -- A lone ampersand or bar would begin a word.
  case h_12 =>
    obtain rfl := eq_of_inWord_eq_false ('&', .and) (by decide) hword
    obtain ⟨rfl, rfl⟩ := Prod.mk.inj (Option.some.inj hop)
    decide
  case h_13 =>
    obtain rfl := eq_of_inWord_eq_false ('|', .or) (by decide) hword
    obtain ⟨rfl, rfl⟩ := Prod.mk.inj (Option.some.inj hop)
    decide
  case h_8 | h_9 | h_10 | h_11 =>
    rw [Option.some.injEq] at hop
    split at hop
    · rename_i hnext
      obtain rfl : next = some '=' := by simpa using hnext
      obtain ⟨rfl, rfl⟩ := Prod.mk.inj hop
      decide
    · obtain ⟨rfl, rfl⟩ := Prod.mk.inj hop
      simp [operators]
  all_goals
    obtain ⟨rfl, rfl⟩ := Prod.mk.inj (Option.some.inj hop)
    simp [operators]

/-- No operator that is longer than what the lexer takes is written in its place. -/
theorem length_le_of_operator? {c : Char} {tail : Text} {l : Lexeme} {long : Bool}
    (hop : operator? c tail.head? = some (l, long)) {e : Text × Lexeme} (he : e ∈ operators)
    (hstarts : e.1 <+: c :: tail) :
    e.1.length ≤ (c :: tail.take (if long then 1 else 0)).length := by
  obtain ⟨source, lexeme⟩ := e
  obtain ⟨d, rest, rfl, -⟩ := exists_cons_of_mem_operators he
  obtain ⟨rfl, behind, rfl⟩ := List.cons_prefix_cons.mp hstarts
  cases rest with
  | nil => exact Nat.le_add_left _ _
  | cons x rest =>
    obtain rfl : rest = [] := by simpa using length_of_mem_operators _ he
    have hfound := operator_of_mem_operators _ he
    obtain ⟨-, rfl⟩ := Prod.mk.inj (Option.some.inj (hop.symm.trans hfound))
    exact Nat.le_refl 2

/-- What is read as an operator stands in the table, and no longer one stands there. -/
theorem isOperator_of_operator? {c : Char} {tail : Text} {l : Lexeme} {long : Bool}
    (hword : inWord false c tail.head? = false) (hop : operator? c tail.head? = some (l, long)) :
    IsOperator (tail.drop (if long then 1 else 0)) l (c :: tail.take (if long then 1 else 0)) := by
  have hsource : tail.take (if long then 1 else 0) = if long then tail.head?.toList else [] := by
    cases long
    · rfl
    · exact List.take_one
  have hwhole : (c :: tail.take (if long then 1 else 0)) ++ tail.drop (if long then 1 else 0) =
      c :: tail := by
    rw [List.cons_append, List.take_append_drop]
  refine ⟨hsource ▸ listed_of_operator? hword hop, fun e he hstarts => ?_, fun d rest hcons => ?_⟩
  · exact length_le_of_operator? hop he (hwhole ▸ hstarts)
  · obtain ⟨rfl, rfl⟩ := List.cons.inj (hwhole.symm.trans hcons)
    exact hword

/-- Of two operators in one place, neither is longer, so they are the same. -/
theorem IsOperator.unique {l l' : Lexeme} {source source' rest rest' : Text}
    (h : IsOperator rest l source) (h' : IsOperator rest' l' source')
    (hplace : source ++ rest = source' ++ rest') : l = l' ∧ source = source' ∧ rest = rest' := by
  have hle : source.length ≤ source'.length :=
    h'.longest _ h.listed (hplace ▸ List.prefix_append source rest)
  have hge : source'.length ≤ source.length :=
    h.longest _ h'.listed (hplace ▸ List.prefix_append source' rest')
  obtain ⟨rfl, rfl⟩ := List.append_inj hplace (Nat.le_antisymm hle hge)
  exact ⟨eq_of_mem_operators _ h.listed _ h'.listed rfl, rfl, rfl⟩

/-- That a lexeme, written as its source, stands in front of the rest of a text. -/
inductive Stands (rest : Text) : Lexeme → Text → Prop
  /-- A word is written as it is. -/
  | word {w : Text} (h : IsWord rest w) : Stands rest (.word w) w
  /-- A literal begins with a quote. -/
  | str {source text : Text} (h : IsLiteral rest source text) :
    Stands rest (.str text) ('"' :: source)
  /-- All else is an operator. -/
  | operator {l : Lexeme} {source : Text} (h : IsOperator rest l source) : Stands rest l source

/-- A quote does not stand in a word. -/
theorem inWord_quote (next : Option Char) : inWord false '"' next = false :=
  inWord_of_reserved (by decide) _ _

/-- Nothing stands for the end of the text. -/
theorem Stands.ne_eof {rest source : Text} {l : Lexeme} (h : Stands rest l source) : l ≠ .eof := by
  cases h with
  | word | str => exact Lexeme.noConfusion
  | operator h => exact ne_eof_of_mem_operators _ h.listed

/-- What stands for a lexeme begins with a character that is not blank. -/
theorem Stands.exists_cons {rest source : Text} {l : Lexeme} (h : Stands rest l source) :
    ∃ c tail, source = c :: tail ∧ Text.isBlank c = false := by
  cases h with
  | word h =>
    obtain ⟨c, tail, hw, hc⟩ := h.exists_cons
    exact ⟨c, tail, hw, (not_reserved_of_inWord hc).1⟩
  | str h => exact ⟨_, _, rfl, by decide⟩
  | operator h =>
    obtain ⟨c, tail, hsource, hc, -⟩ := exists_cons_of_mem_operators h.listed
    exact ⟨c, tail, hsource, hc⟩

/-- What the lexer takes is a lexeme of one of the classes. -/
theorem stands_of_takeLexeme {c : Char} {tail source rest : Text} {l : Lexeme}
    (h : takeLexeme (c :: tail) = .ok (l, source, rest)) : Stands rest l source := by
  obtain ⟨hword, rfl, htaken⟩ | ⟨-, text, inner, rfl, rfl, hstring⟩ |
    ⟨hword, -, long, hop, rfl, rfl⟩ := takeLexeme_cases h
  · have hfilled : (takeWord false (c :: tail)).1 ≠ [] := by
      rw [takeWord, if_pos hword]
      exact List.cons_ne_nil _ _
    have hisWord := isWord_takeWord hfilled
    rw [htaken] at hisWord
    exact .word hisWord
  · have hliteral := isLiteral_takeString tail
    rw [hstring] at hliteral
    exact .str hliteral
  · exact .operator (isOperator_of_operator? hword hop)

/-- A lexeme of one of the classes is what the lexer takes. -/
theorem Stands.takeLexeme_eq {rest source : Text} {l : Lexeme} (h : Stands rest l source) :
    takeLexeme (source ++ rest) = .ok (l, source, rest) := by
  cases h with
  | word h =>
    obtain ⟨c, tail, rfl, hc⟩ := h.exists_cons
    have htaken := h.takeWord_eq
    rw [List.cons_append] at htaken ⊢
    rw [takeLexeme, if_pos hc, htaken]
  | str h =>
    rw [List.cons_append, takeLexeme, inWord_quote, h.takeString_eq]
    rfl
  | operator h =>
    -- Neither a word nor a literal begins here, and of operators there is only one.
    obtain ⟨c, tail, hsource, hc, hquote⟩ := exists_cons_of_mem_operators h.listed
    obtain ⟨l', source', rest', htake, -, -, hplace⟩ := exists_takeLexeme hc (tail ++ rest)
    rw [← List.cons_append, ← hsource] at htake hplace
    cases stands_of_takeLexeme (hsource ▸ htake) with
    | word h' =>
      obtain ⟨d, word, rfl, hd⟩ := h'.exists_cons
      rw [h.noWord d (word ++ rest') hplace.symm] at hd
      cases hd
    | str h' =>
      rw [hsource] at hplace
      exact absurd (List.cons.inj hplace).1.symm hquote
    | operator h' =>
      obtain ⟨rfl, rfl, rfl⟩ := h.unique h' hplace.symm
      exact htake

/-- An operator does not begin with a blank. -/
theorem not_blank_of_operator? {c : Char} {next : Option Char} {l : Lexeme} {long : Bool}
    (h : operator? c next = some (l, long)) : Text.isBlank c = false := by
  simp only [operator?] at h
  split at h
  case h_14 => cases h
  all_goals decide

/-- The blanks are the only characters that begin no lexeme. -/
theorem takeLexeme_eq_error_iff {t : Text} {c : Char} :
    takeLexeme t = .error c ↔ t.head? = some c ∧ Text.isBlank c = true := by
  cases t with
  | nil => exact iff_of_false nofun nofun
  | cons d tail =>
    rw [List.head?_cons, Option.some.injEq]
    cases hd : Text.isBlank d with
    | false =>
      obtain ⟨l, source, rest, htake, -⟩ := exists_takeLexeme hd tail
      rw [htake]
      refine iff_of_false nofun ?_
      rintro ⟨rfl, hblank⟩
      exact Bool.false_ne_true (hd.symm.trans hblank)
    | true =>
      have hword : inWord false d tail.head? = false := inWord_of_reserved (by simp [hd]) _ _
      have hquote : ¬(d == '"') = true := by
        rintro heq
        rw [eq_of_beq heq] at hd
        exact absurd hd (by decide)
      have hop : operator? d tail.head? = none := by
        refine Option.eq_none_iff_forall_ne_some.mpr fun ⟨l, long⟩ hfound => ?_
        exact Bool.false_ne_true ((not_blank_of_operator? hfound).symm.trans hd)
      rw [takeLexeme, hword, if_neg Bool.false_ne_true, if_neg hquote, hop, Except.error.injEq]
      exact ⟨fun heq => ⟨heq, heq ▸ hd⟩, And.left⟩

/-- The characters that a lexeme and the blanks before it take up. -/
def Placed.span (p : Placed) : Text :=
  p.blanks ++ p.source

/-- That a text is cut into lexemes and the blanks behind the last one. -/
structure IsCut (t : Text) (front : List Placed) (blanks : Text) : Prop where
  /-- Nothing is lost. -/
  whole : front.flatMap Placed.span ++ blanks = t
  /-- Only blanks stand between the lexemes. -/
  between : ∀ p ∈ front, ∀ c ∈ p.blanks, Text.isBlank c = true
  /-- Only blanks stand behind them. -/
  behind : ∀ c ∈ blanks, Text.isBlank c = true
  /-- Each lexeme stands in front of what follows it. -/
  stands : ∀ before p later, front = before ++ p :: later →
    Stands (later.flatMap Placed.span ++ blanks) p.lexeme p.source

/-- What lies behind the first piece is cut as well. -/
theorem IsCut.of_cons {t blanks : Text} {p : Placed} {front : List Placed}
    (h : IsCut t (p :: front) blanks) :
    IsCut (front.flatMap Placed.span ++ blanks) front blanks where
  whole := rfl
  between q hq := h.between q (List.mem_cons_of_mem p hq)
  behind := h.behind
  stands before q later hfront := h.stands (p :: before) q later (by rw [hfront]; rfl)

/-- A piece in front of a text that is cut gives a text that is cut. -/
theorem IsCut.cons {rest blanks : Text} {p : Placed} {front : List Placed}
    (h : IsCut rest front blanks) (hblanks : ∀ c ∈ p.blanks, Text.isBlank c = true)
    (hstands : Stands rest p.lexeme p.source) : IsCut (p.span ++ rest) (p :: front) blanks where
  whole := by rw [List.flatMap_cons, List.append_assoc, h.whole]
  between := List.forall_mem_cons.mpr ⟨hblanks, h.between⟩
  behind := h.behind
  stands before q later hfront := by
    rcases List.cons_eq_append_iff.mp hfront with ⟨rfl, hcons⟩ | ⟨before, rfl, hrest⟩
    · obtain ⟨rfl, rfl⟩ := List.cons.inj hcons
      rwa [h.whole]
    · exact h.stands before q later hrest

/-- A text that is cut is lexed into its pieces and the end. -/
theorem IsCut.lexes {t blanks : Text} {front : List Placed} (h : IsCut t front blanks) :
    Lexes t (front ++ [⟨blanks, [], .eof⟩]) := by
  induction front generalizing t with
  | nil =>
    obtain rfl : blanks = t := h.whole
    exact .done h.behind
  | cons p front ih =>
    have hstands := h.stands [] p front rfl
    obtain ⟨c, tail, hsource, hc⟩ := hstands.exists_cons
    have htake := hstands.takeLexeme_eq
    rw [hsource, List.cons_append] at htake
    have hnext := Lexes.next (h.between p List.mem_cons_self) hc htake (ih h.of_cons)
    rw [← List.cons_append, ← hsource, ← List.append_assoc] at hnext
    rw [← h.whole, List.flatMap_cons, List.append_assoc]
    exact hnext

/-- A text that is lexed is cut into the pieces before its end. -/
theorem Lexes.exists_isCut {t : Text} {placed : List Placed} (h : Lexes t placed) :
    ∃ front blanks, placed = front ++ [⟨blanks, [], .eof⟩] ∧ IsCut t front blanks := by
  induction h with
  | @done blanks hblanks =>
    refine ⟨[], blanks, rfl, rfl, List.forall_mem_nil _, hblanks, fun before p later hfront => ?_⟩
    cases before <;> cases hfront
  | @next blanks source tail rest c lexeme placed hblanks hc htake hrest ih =>
    obtain ⟨front, last, rfl, hcut⟩ := ih
    have hnext := hcut.cons (p := ⟨blanks, source, lexeme⟩) hblanks (stands_of_takeLexeme htake)
    rw [Placed.span, List.append_assoc, (takeLexeme_spec hc htake).2.2] at hnext
    exact ⟨_, last, rfl, hnext⟩

/-- What the lexer yields is the cut, with the end behind it. -/
theorem lex_eq_ok_iff_isCut {t : Text} {placed : List Placed} :
    lex t = .ok placed ↔
      ∃ front blanks, placed = front ++ [⟨blanks, [], .eof⟩] ∧ IsCut t front blanks := by
  rw [lex_eq_ok_iff]
  constructor
  · exact Lexes.exists_isCut
  · rintro ⟨front, blanks, rfl, hcut⟩
    exact hcut.lexes

/-- A text is cut in one way. -/
theorem IsCut.unique {t blanks blanks' : Text} {front front' : List Placed}
    (h : IsCut t front blanks) (h' : IsCut t front' blanks') :
    front = front' ∧ blanks = blanks' := by
  have hlex := lex_eq_ok_iff_isCut.mpr ⟨front, blanks, rfl, h⟩
  have hlex' := lex_eq_ok_iff_isCut.mpr ⟨front', blanks', rfl, h'⟩
  obtain ⟨hfront, hlast⟩ := List.append_inj' (Except.ok.inj (hlex.symm.trans hlex')) rfl
  exact ⟨hfront, by simpa using hlast⟩

/-- Where two texts are joined, a character is in the first or in the second. -/
theorem append_eq_append_cons {u v before behind : Text} {x : Char}
    (h : u ++ v = before ++ x :: behind) :
    (∃ b, u = before ++ x :: b ∧ behind = b ++ v) ∨
      ∃ a, before = u ++ a ∧ v = a ++ x :: behind := by
  rcases List.append_eq_append_iff.mp h with ⟨a, hbefore, hv⟩ | ⟨rest, hu, hrest⟩
  · exact .inr ⟨a, hbefore, hv⟩
  · cases rest with
    | nil => exact .inr ⟨[], by simpa using hu.symm, hrest.symm⟩
    | cons y b =>
      obtain ⟨rfl, rfl⟩ := List.cons.inj hrest
      exact .inl ⟨b, hu, rfl⟩

/-- That a character of a text, with what stands before it and behind it, belongs to the source of a
lexeme of a cut. -/
def LiesIn (front : List Placed) (blanks before : Text) (x : Char) (behind : Text) (p : Placed) :
    Prop :=
  ∃ earlier later a b, front = earlier ++ p :: later ∧ p.source = a ++ x :: b ∧
    before = earlier.flatMap Placed.span ++ (p.blanks ++ a) ∧
    behind = b ++ (later.flatMap Placed.span ++ blanks)

/-- Every character but a blank belongs to a lexeme. -/
theorem IsCut.exists_liesIn {t blanks before behind : Text} {front : List Placed} {x : Char}
    (h : IsCut t front blanks) (ht : t = before ++ x :: behind) (hx : Text.isBlank x = false) :
    ∃ p, LiesIn front blanks before x behind p := by
  have hnot {u a b : Text} (hu : ∀ c ∈ u, Text.isBlank c = true) : u ≠ a ++ x :: b := by
    rintro rfl
    have hblank := hu x (List.mem_append_right _ List.mem_cons_self)
    rw [hx] at hblank
    cases hblank
  induction front generalizing t before with
  | nil => exact absurd (h.whole.trans ht) (hnot h.behind)
  | cons p front ih =>
    have hwhole := h.whole.trans ht
    rw [List.flatMap_cons, List.append_assoc] at hwhole
    rcases append_eq_append_cons hwhole with ⟨b, hspan, hbehind⟩ | ⟨before, rfl, hrest⟩
    · rcases append_eq_append_cons hspan with ⟨b', hblanks, -⟩ | ⟨a, hbefore, hsource⟩
      · exact absurd hblanks (hnot (h.between p List.mem_cons_self))
      · exact ⟨p, [], front, a, b, rfl, hsource, hbefore, hbehind⟩
    · obtain ⟨q, earlier, later, a, b, rfl, hsource, rfl, hbehind⟩ := ih h.of_cons hrest
      refine ⟨q, p :: earlier, later, a, b, rfl, hsource, ?_, hbehind⟩
      rw [List.flatMap_cons, List.append_assoc]

/-- A lexeme that holds an ampersand or a bar is a word, a literal or the pair. -/
theorem Stands.text_or_pair {rest source : Text} {l : Lexeme} (h : Stands rest l source)
    {s : Char × Lexeme} (hs : s ∈ doubled) (hmem : s.1 ∈ source) :
    (l = .word source ∨ l.isString = true) ∨ source = [s.1, s.1] := by
  cases h with
  | word => exact .inl (.inl rfl)
  | str => exact .inl (.inr rfl)
  | operator h => exact .inr ((pair_of_mem_operators s hs _ h.listed).1 hmem)

/-- The pair is the operator, and the operator is the pair. -/
theorem Stands.eq_iff_pair {rest source : Text} {l : Lexeme} (h : Stands rest l source)
    {s : Char × Lexeme} (hs : s ∈ doubled) : l = s.2 ↔ source = [s.1, s.1] := by
  have hclass : ∀ s ∈ doubled, (∀ w, .word w ≠ s.2) ∧ ∀ t, .str t ≠ s.2 := by simp [doubled]
  have hfirst : ∀ s ∈ doubled, inWord false s.1 (some s.1) = false ∧ '"' ≠ s.1 := by decide
  cases h with
  | word h =>
    refine iff_of_false ((hclass s hs).1 source) ?_
    rintro rfl
    have hbegins := h.inside [] s.1 [s.1] rfl
    rw [List.any_nil, List.cons_append, List.head?_cons, (hfirst s hs).1] at hbegins
    cases hbegins
  | str h =>
    exact iff_of_false ((hclass s hs).2 _) fun heq => (hfirst s hs).2 (List.cons.inj heq).1
  | operator h => exact (pair_of_mem_operators s hs _ h.listed).2

/-- A character that stands alone is part of a word or of a literal. -/
theorem IsCut.lone {t blanks before behind : Text} {front : List Placed} {s : Char × Lexeme}
    (h : IsCut t front blanks) (hs : s ∈ doubled) (ht : t = before ++ s.1 :: behind)
    (hbefore : before.getLast? ≠ some s.1) (hbehind : behind.head? ≠ some s.1) :
    ∃ p, LiesIn front blanks before s.1 behind p ∧
      (p.lexeme = .word p.source ∨ p.lexeme.isString = true) := by
  have hblank : ∀ s ∈ doubled, Text.isBlank s.1 = false := by decide
  obtain ⟨p, earlier, later, a, b, rfl, hsource, rfl, rfl⟩ := h.exists_liesIn ht (hblank s hs)
  refine ⟨p, ⟨earlier, later, a, b, rfl, hsource, rfl, rfl⟩, ?_⟩
  have hmem : s.1 ∈ p.source := by
    rw [hsource]
    exact List.mem_append_right a List.mem_cons_self
  refine ((h.stands earlier p later rfl).text_or_pair hs hmem).resolve_right fun hpair => ?_
  rw [hsource] at hpair
  cases a with
  | nil =>
    obtain rfl := (List.cons.inj hpair).2
    exact hbehind rfl
  | cons c a =>
    obtain ⟨rfl, hrest⟩ := List.cons.inj hpair
    obtain ⟨rfl, -⟩ := (List.append_eq_singleton_iff.mp hrest).resolve_right (by simp)
    simp at hbefore

/-- Behind an operand, no lexeme is reported as an unexpected character. -/
theorem afterOperand_ne_error (e : Expr) (stack : List Pending) (l : Lexeme) (c : Char) :
    afterOperand e stack l ≠ .error (.unexpectedCharacter c) := by
  rw [afterOperand]
  split
  · exact nofun
  · split
    · split <;> exact nofun
    · exact nofun

/-- No lexeme is reported as an unexpected character. -/
theorem advance_ne_error (stack : List Pending) (place : Place) (l : Lexeme) (c : Char) :
    advance stack place l ≠ .error (.unexpectedCharacter c) := by
  cases place with
  | operand => cases l <;> exact nofun
  | words ws =>
    by_cases hl : ∃ w, l = .word w
    · obtain ⟨w, rfl⟩ := hl
      exact nofun
    · rw [advance]
      · exact afterOperand_ne_error _ _ _ _
      · exact fun w hw => hl ⟨w, hw⟩
  | operator e => exact afterOperand_ne_error _ _ _ _

/-- The end of a text is not reported as an unexpected character. -/
theorem finish_ne_error (stack : List Pending) (place : Place) (c : Char) :
    finish stack place ≠ .error (.unexpectedCharacter c) := by
  have hwith (e : Expr) : finishWith e stack ≠ .error (.unexpectedCharacter c) := by
    rw [finishWith]
    split <;> exact nofun
  cases place with
  | operand => exact nofun
  | words | operator => exact hwith _

/-- No report of the parser is about a character. -/
theorem parseFrom_ne_error (stack : List Pending) (place : Place) (ls : List Lexeme) (c : Char) :
    parseFrom stack place ls ≠ .error (.unexpectedCharacter c) := by
  induction ls generalizing stack place with
  | nil => exact finish_ne_error stack place c
  | cons l ls ih =>
    by_cases hl : l = .eof
    · subst hl
      exact finish_ne_error stack place c
    · rw [parseFrom]
      · cases hnext : advance stack place l with
        | error e =>
          intro heq
          obtain rfl : e = .unexpectedCharacter c := Except.error.inj heq
          exact advance_ne_error stack place l c hnext
        | ok next => exact ih next.1 next.2
      · exact hl

/-- Every text has a cut, and no second one. The lexer finds it, whatever the text: it comes upon no
character that it could not take, all its lexemes but the end have a character, and the end is the
last one and no other. An ampersand or a bar makes an operator with another one of its kind, and
only so; where it stands alone it is part of a word or of a literal. -/
theorem every_text_is_cut (t : Text) :
    ∃ front blanks, lex t = .ok (front ++ [⟨blanks, [], .eof⟩]) ∧
      IsCut t front blanks ∧
      (∀ front' blanks', IsCut t front' blanks' → front' = front ∧ blanks' = blanks) ∧
      (∀ p ∈ front, p.lexeme ≠ .eof ∧ p.source ≠ []) ∧
      (∀ c, takeLexeme (t.dropWhile Text.isBlank) ≠ .error c ∧
        parse t ≠ .error (.unexpectedCharacter c)) ∧
      ∀ s ∈ doubled,
        (∀ p ∈ front, p.lexeme = s.2 ↔ p.source = [s.1, s.1]) ∧
        ∀ before behind, t = before ++ s.1 :: behind →
          before.getLast? ≠ some s.1 → behind.head? ≠ some s.1 →
          ∃ p, LiesIn front blanks before s.1 behind p ∧
            (p.lexeme = .word p.source ∨ p.lexeme.isString = true) := by
  obtain ⟨placed, hlexes⟩ := exists_lexes t
  obtain ⟨front, blanks, rfl, hcut⟩ := hlexes.exists_isCut
  have hstands {p : Placed} (hp : p ∈ front) : ∃ rest, Stands rest p.lexeme p.source := by
    obtain ⟨before, later, hfront⟩ := List.append_of_mem hp
    exact ⟨_, hcut.stands before p later hfront⟩
  refine ⟨front, blanks, lex_eq_ok_iff.mpr hlexes, hcut, fun _ _ h => h.unique hcut, ?_, ?_, ?_⟩
  · intro p hp
    obtain ⟨rest, h⟩ := hstands hp
    obtain ⟨c, tail, hsource, -⟩ := h.exists_cons
    exact ⟨h.ne_eof, hsource ▸ List.cons_ne_nil c tail⟩
  · intro c
    refine ⟨?_, ?_⟩
    · rw [ne_eq, takeLexeme_eq_error_iff]
      rintro ⟨hhead, hblank⟩
      have hnot := List.head?_dropWhile_not Text.isBlank t
      rw [hhead] at hnot
      exact Bool.false_ne_true (hnot.symm.trans hblank)
    · rw [parse_eq]
      exact parseFrom_ne_error _ _ _ c
  · intro s hs
    refine ⟨fun p hp => ?_, fun before behind => hcut.lone hs⟩
    obtain ⟨rest, h⟩ := hstands hp
    exact h.eq_iff_pair hs

/-- Of three ampersands two are the operator, and the third one begins a word. -/
example :
    lexemes "R&D &&&a|b || x-y-2 - 2" =
      [.word "R&D", .and, .word "&a|b", .or, .word "x-y-2", .minus, .word "2"] := by
  decide +kernel

end Expr

end Mudline
