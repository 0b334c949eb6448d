import Mudline.Proofs.Expr.Lexing

/-!
# String literals

Whether a character belongs to a string literal can be told from what stands before it, in one walk
from the left: a quote opens a literal, in a literal a backslash takes the next character as it is,
and any other quote closes it. The lexer agrees with that walk on every character.
-/

namespace Mudline

namespace Expr

/-- How far a walk has come in a literal. -/
inductive QuoteState
  /-- In no literal. -/
  | outside
  /-- In a literal. -/
  | inside
  /-- In a literal, right behind a backslash. -/
  | escaped
  deriving DecidableEq, Repr

namespace QuoteState

/-- One step of the walk. -/
def next : QuoteState → Char → QuoteState
  | outside, c => if c == '"' then inside else outside
  | inside, c => if c == '"' then outside else if c == '\\' then escaped else inside
  | escaped, _ => inside

/-- The walk over a text. -/
def after (s : QuoteState) (t : Text) : QuoteState :=
  t.foldl next s

/-- Nothing changes the state of the quotes in nothing. -/
@[simp]
theorem after_nil (s : QuoteState) : s.after [] = s :=
  rfl

/-- A text is read character by character. -/
@[simp]
theorem after_cons (s : QuoteState) (c : Char) (t : Text) : s.after (c :: t) = (s.next c).after t :=
  rfl

/-- A text may be read in two parts. -/
@[simp]
theorem after_append (s : QuoteState) (a b : Text) : s.after (a ++ b) = (s.after a).after b :=
  List.foldl_append

/-- Whether a character belongs to a literal: a quote always does. -/
def covers (s : QuoteState) (c : Char) : Bool :=
  s != outside || c == '"'

/-- Which characters of a text belong to literals. -/
def marks (s : QuoteState) : Text → List Bool
  | [] => []
  | c :: rest => s.covers c :: (s.next c).marks rest

/-- The characters of a text are marked part by part. -/
theorem marks_append (s : QuoteState) (a b : Text) :
    s.marks (a ++ b) = s.marks a ++ (s.after a).marks b := by
  induction a generalizing s with
  | nil => rfl
  | cons c a ih => simp [marks, ih]

/-- Without quotes no literal is opened. -/
theorem after_outside {t : Text} (h : '"' ∉ t) : outside.after t = outside := by
  induction t with
  | nil => rfl
  | cons c t ih =>
    rw [List.mem_cons, not_or] at h
    have hc : c ≠ '"' := fun heq => h.1 heq.symm
    simp [next, hc, ih h.2]

/-- Without quotes, no character stands in a quoted text. -/
theorem marks_outside {t : Text} (h : '"' ∉ t) : outside.marks t = t.map fun _ => false := by
  induction t with
  | nil => rfl
  | cons c t ih =>
    rw [List.mem_cons, not_or] at h
    have hc : c ≠ '"' := fun heq => h.1 heq.symm
    simp [marks, covers, next, hc, ih h.2]

end QuoteState

/-- Whether a lexeme is a string. -/
def Lexeme.isString : Lexeme → Bool
  | .str _ => true
  | _ => false

/-- Which characters of a lexeme and of the blanks before it belong to a literal. -/
def Placed.marks (p : Placed) : List Bool :=
  p.blanks.map (fun _ => false) ++ p.source.map fun _ => p.lexeme.isString

/-- Which characters of a text the lexer reads as parts of strings, quotes included. -/
def literals (t : Text) : List Bool :=
  match lex t with
  | .ok placed => placed.flatMap Placed.marks
  | .error _ => []

/-- There is no quote among blanks. -/
theorem notMem_quote_of_blanks {t : Text} (h : ∀ c ∈ t, Text.isBlank c = true) : '"' ∉ t := by
  intro hquote
  exact absurd (h _ hquote) (by decide)

/-- There is no quote in a word. -/
theorem notMem_quote_takeWord (letters : Bool) (t : Text) : '"' ∉ (takeWord letters t).1 := by
  intro hquote
  exact absurd (not_reserved_of_mem_takeWord hquote).2 (by decide)

/-- A character that none of the other cases of a string is about is no backslash. -/
theorem ne_backslash {c : Char} {rest : Text} (hlone : c = '\\' → rest = [] → False)
    (hpair : ∀ d tail, c = '\\' → rest = d :: tail → False) : c ≠ '\\' := by
  intro hc
  cases rest with
  | nil => exact hlone hc rfl
  | cons d tail => exact hpair d tail hc rfl

/-- The source of a string is walked through within a literal. -/
theorem marks_takeString (t : Text) :
    QuoteState.inside.marks t =
      ((takeString t).2.1.map fun _ => true) ++ QuoteState.outside.marks (takeString t).2.2 := by
  fun_induction takeString t
  case case5 c rest hquote hlone hpair text source left hrest ih =>
    have hc := ne_backslash hlone hpair
    simp_all [QuoteState.marks, QuoteState.covers, QuoteState.next]
  all_goals simp_all [QuoteState.marks, QuoteState.covers, QuoteState.next]

/-- A string before the end of the text is closed. -/
theorem after_takeString {t : Text} (h : (takeString t).2.2 ≠ []) :
    QuoteState.inside.after (takeString t).2.1 = .outside := by
  fun_induction takeString t
  case case5 c rest hquote hlone hpair text source left hrest ih =>
    have hc := ne_backslash hlone hpair
    simp_all [QuoteState.next]
  all_goals simp_all [QuoteState.next]

/-- The source of an operator holds no quote. -/
theorem notMem_quote_operator {c : Char} {tail : Text} {lexeme : Lexeme} {long : Bool}
    (h : operator? c tail.head? = some (lexeme, long)) :
    '"' ∉ c :: tail.take (if long then 1 else 0) := by
  obtain ⟨hc, -, -, hnext⟩ := operator_spec h
  cases long with
  | false => simpa [eq_comm] using hc
  | true =>
    cases tail with
    | nil => simpa [eq_comm] using hc
    | cons d tail => simpa [eq_comm, hc] using hnext rfl

/-- A quoted text is an operand. -/
theorem isString_of_operand?_eq_none {lexeme : Lexeme} (h : lexeme.operand? = none) :
    lexeme.isString = false := by
  cases lexeme <;> first | rfl | cases h

/-- Over each lexeme the walk and the lexer agree. -/
theorem marks_takeLexeme {c : Char} {tail source rest : Text} {lexeme : Lexeme}
    (h : takeLexeme (c :: tail) = .ok (lexeme, source, rest)) :
    QuoteState.outside.marks (c :: tail) =
      (source.map fun _ => lexeme.isString) ++ QuoteState.outside.marks rest := by
  obtain ⟨-, rfl, hword⟩ | ⟨rfl, text, inner, rfl, rfl, hstring⟩ |
    ⟨-, -, long, hop, rfl, rfl⟩ := takeLexeme_cases h
  · have hsource := notMem_quote_takeWord false (c :: tail)
    have hcut := takeWord_append false (c :: tail)
    rw [hword] at hsource hcut
    rw [← hcut, QuoteState.marks_append, QuoteState.after_outside hsource,
      QuoteState.marks_outside hsource]
    rfl
  · have hmarks := marks_takeString tail
    rw [hstring] at hmarks
    simpa [QuoteState.marks, QuoteState.covers, QuoteState.next, Lexeme.isString] using hmarks
  · have hsource := notMem_quote_operator hop
    have hmarks := QuoteState.marks_append .outside (c :: tail.take (if long then 1 else 0))
      (tail.drop (if long then 1 else 0))
    rw [List.cons_append, List.take_append_drop, QuoteState.after_outside hsource,
      QuoteState.marks_outside hsource] at hmarks
    rw [isString_of_operand?_eq_none (operator_spec hop).2.1, hmarks]

/-- The lexer reads as strings what the walk finds to be literals. -/
theorem literals_eq (t : Text) : literals t = QuoteState.outside.marks t := by
  obtain ⟨placed, hplaced⟩ := exists_lexes t
  rw [literals, lex_eq_ok_iff.mpr hplaced]
  induction hplaced with
  | done hblanks =>
    rw [QuoteState.marks_outside (notMem_quote_of_blanks hblanks)]
    simp [Placed.marks]
  | next hblanks hc htake hrest ih =>
    have hquote := notMem_quote_of_blanks hblanks
    rw [QuoteState.marks_append, QuoteState.after_outside hquote, QuoteState.marks_outside hquote,
      marks_takeLexeme htake, ← ih]
    simp [Placed.marks]

end Expr

end Mudline
