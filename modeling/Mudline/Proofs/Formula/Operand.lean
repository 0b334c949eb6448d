import Mudline.Formula.Eval
import Mudline.Proofs.Expr.Joining
import Mudline.Proofs.Text.Pieces

/-!
# Results as operands

The result of a call is put back into the text around it, and the whole is read as one expression. A
result is put in quotes when it holds one of the characters on a list, and never when it holds a
quote. Here it is told for which results that makes one operand that shows the result, and what the
whole then evaluates to.
-/

namespace Mudline

namespace Formula

open Mudline.Expr (Lexeme lexemes takeWord takeString inWord isReserved)

/-- The characters of a result that is read as a word. -/
def isPlainChar (c : Char) : Bool :=
  !breaksOperand c && c != '"'

/-- In a plain text hyphens alone may end a word. -/
theorem inWord_of_isPlainChar {c : Char} (h : isPlainChar c = true) (letters : Bool)
    (next : Option Char) : inWord letters c next = (c != '-' || letters) := by
  simp only [isPlainChar, breaksOperand, Bool.and_eq_true, Bool.not_eq_true', Bool.or_eq_false_iff]
    at h
  obtain ⟨hbreaks, hquote⟩ := h
  have hne : (c == '"') = false := by simpa using hquote
  simp only [inWord, isReserved, hbreaks, hne]
  cases hhyphen : c == '-' <;> simp [bne, hhyphen]

/-- That every hyphen of a text has a letter before it, in the text or, where `letters` holds,
before the text. -/
def HyphensBehindLetters (letters : Bool) (r : Text) : Prop :=
  ∀ front back, r = front ++ '-' :: back →
    letters = true ∨ ∃ c ∈ front, Unicode.isAlphabetic c = true

/-- Hyphens stand behind letters if the first character is no hyphen without a letter before it, and
those that follow do. -/
theorem hyphensBehindLetters_cons {letters : Bool} {c : Char} {r : Text} :
    HyphensBehindLetters letters (c :: r) ↔
      (c = '-' → letters = true) ∧ HyphensBehindLetters (letters || Unicode.isAlphabetic c) r := by
  constructor
  · intro h
    refine ⟨?_, fun front back heq => ?_⟩
    · rintro rfl
      simpa using h [] r rfl
    · have hall := h (c :: front) back (by rw [heq, List.cons_append])
      simpa [or_assoc] using hall
  · rintro ⟨hfirst, hrest⟩ front back heq
    cases front with
    | nil => exact .inl (hfirst (List.cons.inj heq).1)
    | cons d front =>
      obtain ⟨rfl, rfl⟩ := List.cons.inj heq
      simpa [or_assoc] using hrest front back rfl

/-- A plain text is taken as one word when its hyphens are behind letters. -/
theorem takeWord_plain {letters : Bool} {r : Text} (hplain : ∀ c ∈ r, isPlainChar c = true)
    (h : HyphensBehindLetters letters r) (post : Text) :
    takeWord letters (r ++ post) =
      (r ++ (takeWord (letters || r.any Unicode.isAlphabetic) post).1,
        (takeWord (letters || r.any Unicode.isAlphabetic) post).2) := by
  induction r generalizing letters with
  | nil => simp
  | cons c r ih =>
    obtain ⟨hfirst, hrest⟩ := hyphensBehindLetters_cons.mp h
    have hword : inWord letters c (r ++ post).head? = true := by
      rw [inWord_of_isPlainChar (hplain c List.mem_cons_self)]
      by_cases hc : c = '-'
      · simp [hfirst hc]
      · simp [hc]
    rw [List.cons_append, takeWord, if_pos hword,
      ih (fun d hd => hplain d (List.mem_cons_of_mem c hd)) hrest, List.any_cons, ← Bool.or_assoc]
    rfl

/-- A plain text that is taken as one word has its hyphens behind letters. -/
theorem hyphensBehindLetters_of_takeWord {letters : Bool} {r : Text}
    (hplain : ∀ c ∈ r, isPlainChar c = true) (h : (takeWord letters r).2 = []) :
    HyphensBehindLetters letters r := by
  induction r generalizing letters with
  | nil =>
    intro front back heq
    simp at heq
  | cons c r ih =>
    rw [takeWord] at h
    split at h
    · rename_i hword
      rw [inWord_of_isPlainChar (hplain c List.mem_cons_self)] at hword
      refine hyphensBehindLetters_cons.mpr
        ⟨?_, ih (fun d hd => hplain d (List.mem_cons_of_mem c hd)) h⟩
      rintro rfl
      simpa using hword
    · cases h

/-- Whether a result is meant to be read as a word. -/
def isPlain (r : Text) : Bool :=
  !r.isEmpty && !r.any breaksOperand

/-- The operand that a result is meant to be. -/
def operand (r : Text) : Lexeme :=
  if isPlain r then .word r else .str r

/-- The results that are put back as one operand: without quotes, and without hyphens before the
first letter in a word, or backslashes in a text that is put in quotes. -/
def IsWhole (r : Text) : Prop :=
  '"' ∉ r ∧ if isPlain r then HyphensBehindLetters false r else '\\' ∉ r

/-- That a value shows a result: in the same letters, or as the truth value or the number that the
result is the word or a numeral for. -/
def Shows (v : Value) (r : Text) : Prop :=
  v.display = r ∨ (∃ b, v = .bool b ∧ Text.sameWord r (Value.boolText b) = true) ∨
    ∃ x, v = .number x ∧ Number.read? r = some x

/-- That a result is read as one operand which shows it. -/
def ReadsAsOne (r : Text) : Prop :=
  ∃ l v, lexemes (quoteOperand r) = [l] ∧ l.operand? = some v ∧ Shows v r

/-- A text with a quote in it is not quoted again. -/
theorem quoteOperand_of_mem {r : Text} (h : '"' ∈ r) : quoteOperand r = r := by
  simp [quoteOperand, h]

/-- A plain text is not quoted. -/
theorem quoteOperand_of_isPlain {r : Text} (h : isPlain r = true) : quoteOperand r = r := by
  rw [isPlain] at h
  simp [quoteOperand, h]

/-- A text that is neither plain nor has a quote in it is quoted. -/
theorem quoteOperand_of_not_isPlain {r : Text} (hquote : '"' ∉ r) (h : isPlain r = false) :
    quoteOperand r = '"' :: (r ++ ['"']) := by
  rw [isPlain] at h
  simp [quoteOperand, h, hquote]

/-- A result is never spliced as nothing. -/
theorem quoteOperand_ne_nil (r : Text) : quoteOperand r ≠ [] := by
  cases r with
  | nil => exact List.cons_ne_nil _ _
  | cons c r =>
    rw [quoteOperand]
    split <;> exact List.cons_ne_nil _ _

/-- A plain text without quotes consists of plain characters. -/
theorem isPlainChar_of_isPlain {r : Text} (h : isPlain r = true) (hquote : '"' ∉ r) :
    ∀ c ∈ r, isPlainChar c = true := by
  intro c hc
  have hne : c ≠ '"' := fun heq => hquote (heq ▸ hc)
  simp only [isPlain, Bool.and_eq_true, Bool.not_eq_true', List.any_eq_false] at h
  simp [isPlainChar, h.2 c hc, hne]

/-- A plain character is not blank. -/
theorem not_blank_of_isPlainChar {c : Char} (h : isPlainChar c = true) :
    Text.isBlank c = false := by
  simp_all [isPlainChar, breaksOperand]

/-- The value of a word without blanks shows the word. -/
theorem shows_parse {r : Text} (h : ∀ c ∈ r, Text.isBlank c = false) : Shows (Value.parse r) r := by
  rw [Value.parse, Text.trim_eq_self h]
  split
  · rename_i htrue
    exact .inr (.inl ⟨true, rfl, htrue⟩)
  · split
    · rename_i hfalse
      exact .inr (.inl ⟨false, rfl, hfalse⟩)
    · split
      · rename_i x hx
        exact .inr (.inr ⟨x, rfl, hx⟩)
      · exact .inl rfl

/-- The value of the operand that a result is meant to be shows the result. -/
theorem operand_shows (r : Text) : ∃ v, (operand r).operand? = some v ∧ Shows v r := by
  rw [operand]
  split
  · rename_i hplain
    refine ⟨Value.parse r, rfl, shows_parse fun c hc => ?_⟩
    simp_all [isPlain, breaksOperand]
  · exact ⟨.text r, rfl, .inl rfl⟩

/-- A result that holds a quote is not read as itself. -/
theorem not_readsAsOne_of_mem {r : Text} (hquote : '"' ∈ r) : ¬ReadsAsOne r := by
  rintro ⟨l, v, hlexemes, hvalue, hshows⟩
  rw [quoteOperand_of_mem hquote] at hlexemes
  obtain ⟨blanks, c, tail, source, rest, rfl, hc, hblanks, hrest, htake⟩ :=
    Expr.exists_of_lexemes_eq_singleton hlexemes
  have hcut := (Expr.takeLexeme_spec hc htake).2.2
  have hsource : '"' ∈ source := by
    rw [← hcut] at hquote
    rcases List.mem_append.mp hquote with hmem | hmem
    · exact absurd hmem (Expr.notMem_quote_of_blanks hblanks)
    · exact (List.mem_append.mp hmem).resolve_right (Expr.notMem_quote_of_blanks hrest)
  obtain ⟨-, rfl, htaken⟩ | ⟨rfl, text, inner, rfl, rfl, hstring⟩ |
    ⟨-, -, long, hop, rfl, rfl⟩ := Expr.takeLexeme_cases htake
  · have hword := Expr.notMem_quote_takeWord false (c :: tail)
    rw [htaken] at hword
    exact hword hsource
  -- The source of a string has a quote more than the text it stands for.
  · obtain rfl : Value.text text = v := Option.some.inj hvalue
    obtain hsame | ⟨b, hbool, -⟩ | ⟨x, hnumber, -⟩ := hshows
    · have hlength : text.length ≤ tail.length := by
        simpa [hstring] using Expr.length_takeString tail
      have hwhole := congrArg List.length (show text = _ from hsame)
      simp only [List.length_append, List.length_cons] at hwhole
      omega
    · cases hbool
    · cases hnumber
  · exact Expr.notMem_quote_operator hop hsource

/-- That a text does not go on with a word. -/
def StopsWord (letters : Bool) (t : Text) : Prop :=
  ∀ c rest, t = c :: rest → inWord letters c rest.head? = false

/-- No word is taken where one stops. -/
theorem takeWord_of_stopsWord {letters : Bool} {t : Text} (h : StopsWord letters t) :
    takeWord letters t = ([], t) := by
  cases t with
  | nil => rfl
  | cons c rest => rw [takeWord, h c rest rfl, if_neg Bool.false_ne_true]

/-- A plain result in front of a text that does not go on with it. -/
theorem lexemes_plain {r post : Text} (hplain : isPlain r = true) (hquote : '"' ∉ r)
    (hhyphens : HyphensBehindLetters false r)
    (hpost : StopsWord (r.any Unicode.isAlphabetic) post) :
    lexemes (r ++ post) = .word r :: lexemes post := by
  have hchars := isPlainChar_of_isPlain hplain hquote
  have htaken := takeWord_plain hchars hhyphens post
  rw [Bool.false_or, takeWord_of_stopsWord hpost, List.append_nil] at htaken
  cases r with
  | nil => cases hplain
  | cons c r =>
    exact Expr.lexemes_word (not_blank_of_isPlainChar (hchars c List.mem_cons_self)) htaken
      (List.cons_ne_nil c r)

/-- A plain result is read as one operand when its hyphens are behind letters. -/
theorem readsAsOne_iff_of_isPlain {r : Text} (hquote : '"' ∉ r) (hplain : isPlain r = true) :
    ReadsAsOne r ↔ HyphensBehindLetters false r := by
  have hchars := isPlainChar_of_isPlain hplain hquote
  have hblanks : ∀ c ∈ r, Text.isBlank c = false := fun c hc =>
    not_blank_of_isPlainChar (hchars c hc)
  rw [ReadsAsOne, quoteOperand_of_isPlain hplain]
  constructor
  · rintro ⟨l, v, hlexemes, hvalue, -⟩
    obtain ⟨c, tail, rfl, htake⟩ := Expr.takeLexeme_of_lexemes_eq_singleton hblanks hlexemes
    obtain ⟨-, rfl, htaken⟩ | ⟨rfl, -⟩ | ⟨-, -, long, hop, -⟩ := Expr.takeLexeme_cases htake
    · exact hyphensBehindLetters_of_takeWord hchars (by rw [htaken])
    · exact absurd List.mem_cons_self hquote
    · rw [(Expr.operator_spec hop).2.1] at hvalue
      cases hvalue
  · intro hhyphens
    have hlexemes : lexemes (r ++ []) = .word r :: lexemes [] :=
      lexemes_plain hplain hquote hhyphens (by rintro c rest ⟨⟩)
    rw [List.append_nil] at hlexemes
    exact ⟨.word r, Value.parse r, hlexemes, rfl, shows_parse hblanks⟩

/-- A result in quotes is read as one operand when it has no backslash. -/
theorem readsAsOne_iff_of_not_isPlain {r : Text} (hquote : '"' ∉ r) (hplain : isPlain r = false) :
    ReadsAsOne r ↔ '\\' ∉ r := by
  rw [ReadsAsOne, quoteOperand_of_not_isPlain hquote hplain, Expr.lexemes_quote]
  constructor
  · rintro ⟨l, v, hlexemes, hvalue, hshows⟩ hbackslash
    obtain ⟨rfl, -⟩ := List.cons.inj hlexemes
    obtain rfl : Value.text (takeString (r ++ ['"'])).1 = v := Option.some.inj hvalue
    obtain hsame | ⟨b, hbool, -⟩ | ⟨x, hnumber, -⟩ := hshows
    · exact Expr.takeString_quoted_ne hquote hbackslash hsame
    · cases hbool
    · cases hnumber
  · intro hbackslash
    refine ⟨.str r, .text r, ?_, rfl, .inl rfl⟩
    rw [Expr.takeString_quoted hquote hbackslash []]
    rfl

/-- A result is read as one operand that shows it when it is whole. -/
theorem readsAsOne_iff (r : Text) : ReadsAsOne r ↔ IsWhole r := by
  rw [IsWhole]
  by_cases hquote : '"' ∈ r
  · exact ⟨fun h => absurd h (not_readsAsOne_of_mem hquote), fun h => absurd hquote h.1⟩
  · cases hplain : isPlain r with
    | true => simp [hquote, readsAsOne_iff_of_isPlain hquote hplain]
    | false => simp [hquote, readsAsOne_iff_of_not_isPlain hquote hplain]

/-- That the text around a result leaves it alone: no lexeme before it goes on, no literal before it
is open, and no word goes on behind it. -/
structure StandsApart (pre r post : Text) : Prop where
  /-- The text before the result ends there. -/
  before : ∀ x, (quoteOperand r).head? = some x → Expr.EndsBefore x pre
  /-- The text behind the result does not go on with it. -/
  behind : isPlain r = true → StopsWord (r.any Unicode.isAlphabetic) post

/-- A whole result that stands apart is one lexeme among those of the text around it. -/
theorem lexemes_around {pre r post : Text} (hwhole : IsWhole r) (hapart : StandsApart pre r post) :
    lexemes (pre ++ (quoteOperand r ++ post)) = lexemes pre ++ operand r :: lexemes post := by
  obtain ⟨x, tail, hcut⟩ := List.exists_cons_of_ne_nil (quoteOperand_ne_nil r)
  have hhead : (quoteOperand r ++ post).head? = some x := by rw [hcut]; rfl
  rw [Expr.lexemes_append hhead (hapart.before x (by rw [hcut]; rfl))]
  congr 1
  obtain ⟨hquote, hrest⟩ := hwhole
  cases hplain : isPlain r with
  | true =>
    rw [if_pos hplain] at hrest
    rw [quoteOperand_of_isPlain hplain, lexemes_plain hplain hquote hrest (hapart.behind hplain),
      operand, if_pos hplain]
  | false =>
    rw [hplain, if_neg Bool.false_ne_true] at hrest
    rw [quoteOperand_of_not_isPlain hquote hplain, List.cons_append, List.append_assoc,
      Expr.lexemes_quote]
    simp only [List.cons_append, List.nil_append, Expr.takeString_quoted hquote hrest post, operand,
      hplain, if_neg Bool.false_ne_true]

/-- Sequences are spliced one after the other. -/
theorem splice_append (ctx : Context) (parts parts' : List Formula) :
    (splice ctx (parts ++ parts')).1 = (splice ctx parts).1 ++ (splice ctx parts').1 := by
  induction parts with
  | nil => rfl
  | cons part parts ih =>
    cases part <;> simp [splice, ih]

/-- The result of a condition, from the value of its expression. -/
def conditionOf (e : Except Expr.Error Value) : Text :=
  Value.boolText (match e with | .ok v => v.truthy | .error _ => false)

/-- The result of arithmetic, from the value of its expression. -/
def numberOf : Except Expr.Error Value → Text
  | .ok (.number x) => Number.format x
  | _ => "0"

/-- The result as text, from the value of the expression. What is no expression yields itself. -/
def textOf (t : Text) : Except Expr.Error Value → Text
  | .ok v => v.display
  | .error _ => Function.trimQuotes (Text.trim t)

/-- The number of a text is that of its value. -/
theorem numberValue_eq (t : Text) : numberValue t = numberOf (Expr.evaluate t) := by
  rw [numberValue, Expr.evaluateNumber]
  cases Expr.evaluate t with
  | error e => rfl
  | ok v => cases v <;> rfl

/-- Every result is read as one operand that shows it exactly when it is whole. In any sequence, a
call whose result is whole and stands apart is evaluated as one operand that shows the result. -/
theorem result_is_one_operand (r : Text) :
    (ReadsAsOne r ↔ IsWhole r) ∧ (∃ v, (operand r).operand? = some v ∧ Shows v r) ∧
      ∀ ctx parts name args parts', (callOutcome ctx name args).result = r → IsWhole r →
        StandsApart (splice ctx parts).1 r (splice ctx parts').1 →
        let whole := parts ++ call name args :: parts'
        let e := Expr.evaluateLexemes
          (lexemes (splice ctx parts).1 ++ operand r :: lexemes (splice ctx parts').1)
        (evalBool ctx (sequence whole)).result = conditionOf e ∧
          (evalNumber ctx (sequence whole)).result = numberOf e ∧
          (evalText ctx (sequence whole)).result = textOf (splice ctx whole).1 e := by
  refine ⟨readsAsOne_iff r, operand_shows r, ?_⟩
  rintro ctx parts name args parts' rfl hwhole hapart whole e
  have he : Expr.evaluate (splice ctx whole).1 = e := by
    rw [Expr.evaluate_eq, splice_append]
    simp only [splice, evalText, lexemes_around hwhole hapart, e]
  refine ⟨?_, ?_, ?_⟩
  · rw [← he]
    rfl
  · rw [← he, ← numberValue_eq]
    rfl
  · rw [← he]
    rfl

/-- The words of a blade are one operand between two others. -/
theorem result_is_one_operand_sword :
    ReadsAsOne "steel sword" ∧
      parse "x == tolower(\"STEEL SWORD\") && y" =
        sequence ([plain "x == "] ++ call "tolower" ["\"STEEL SWORD\""] :: [plain " && y"]) ∧
      (evalBool (context fun _ => false) (sequence
          ([plain "x == "] ++ call "tolower" ["\"STEEL SWORD\""] :: [plain " && y"]))).result =
        conditionOf
          (Expr.evaluateLexemes [.word "x", .eq, .str "steel sword", .and, .word "y"]) := by
  obtain ⟨hreads, -, haround⟩ := result_is_one_operand "steel sword"
  have hwhole : IsWhole "steel sword" := ⟨by decide, by rw [if_neg (by decide)]; decide⟩
  refine ⟨hreads.mpr hwhole, rfl, ?_⟩
  refine (haround _ _ "tolower" _ _ (by decide +kernel) hwhole ⟨?_, ?_⟩).1
  · exact fun x _ => ⟨rfl, fun l _ => .inl rfl⟩
  · exact fun hplain => absurd hplain (by decide)

/-- A hyphen in front is read as a minus sign, and what follows as another operand. -/
theorem not_always_one_operand :
    (¬∀ known name args out, Function.call known name args = .ok out → ReadsAsOne out.text) ∧
      (evalBool (context fun _ => false) (parse "trim(\"-a\") == \"-a\"")).result = "false".toList ∧
      ∃ v, Expr.evaluateLexemes [operand "-a", .eq, .str "-a"] = .ok v ∧ v.truthy = true := by
  refine ⟨fun h => ?_, by decide +kernel, .bool true, rfl, rfl⟩
  have hcall : Function.call (fun _ => false) "trim" ["\"-a\""] = .ok ⟨"-a", []⟩ := by
    decide +kernel
  obtain ⟨-, hhyphens⟩ := (readsAsOne_iff _).mp (h _ _ _ _ hcall)
  rw [if_pos (by decide)] at hhyphens
  simpa using hhyphens [] ['a'] rfl

end Formula

end Mudline
