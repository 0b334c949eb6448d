import Mudline.Proofs.Expr.Printing
import Mudline.Proofs.Number.Order
import Mathlib.Data.Char
import Mathlib.Data.List.Lex
import Mathlib.Order.Compare

/-!
# Comparisons

An operand of a comparison is written bare, as a single word, or between quotes. How it is written
decides how it is compared: a bare word is a number if it can be read as one, and what stands
between quotes is a text, whatever it could be read as. Two numbers are compared by size, and all
other operands as texts. Of a number nothing but its value is kept, so as a text it is what scripts
show it as, and not the numeral that was written.
-/

namespace Mudline

/-- Texts are in the order of lists of characters. -/
theorem Text.order_compares (t u : Text) : (order t u).Compares t u := by
  induction t generalizing u with
  | nil =>
    cases u with
    | nil => rfl
    | cons d u => exact List.nil_lt_cons d u
  | cons c t ih =>
    cases u with
    | nil => exact List.nil_lt_cons c t
    | cons d u =>
      rw [order]
      split
      · rename_i hlt
        exact List.cons_lt_cons_iff.mpr (.inl hlt)
      · split
        · rename_i hgt
          exact List.cons_lt_cons_iff.mpr (.inl hgt)
        · rename_i hle hge
          obtain rfl : c = d := le_antisymm (not_lt.mp hge) (not_lt.mp hle)
          have hrest := ih u
          cases hkind : order t u with
          | lt =>
            rw [hkind] at hrest
            exact List.cons_lt_cons_iff.mpr (.inr ⟨rfl, hrest⟩)
          | eq =>
            rw [hkind] at hrest
            exact congrArg (c :: ·) hrest
          | gt =>
            rw [hkind] at hrest
            exact List.cons_lt_cons_iff.mpr (.inr ⟨rfl, hrest⟩)

namespace Value

/-- Finite numbers are compared by size. -/
theorem order_number {x y : Float} (hx : x.isFinite = true) (hy : y.isFinite = true) :
    ((number x).order (number y)).Compares (Number.value x) (Number.value y) ∧
      ((number x).looseEq (number y) = true ↔ Number.value x = Number.value y) := by
  refine ⟨?_, Number.beq_iff_value_eq hx hy⟩
  have hlt := Number.lt_iff_value_lt hx hy
  have hgt := Number.lt_iff_value_lt hy hx
  rw [order]
  split
  · rename_i h
    exact hlt.mp h
  · split
    · rename_i h
      exact hgt.mp h
    · rename_i hle hge
      exact le_antisymm (not_lt.mp fun h => hge (hgt.mpr h)) (not_lt.mp fun h => hle (hlt.mpr h))

/-- That a value is no truth value. -/
def IsPlain : Value → Prop
  | bool _ => False
  | number _ => True
  | text _ => True

/-- Unless both are numbers, values other than truth values are compared as they are shown. -/
theorem order_display {v w : Value} (hv : v.IsPlain) (hw : w.IsPlain)
    (h : v.asNumber? = none ∨ w.asNumber? = none) :
    (v.order w).Compares v.display w.display ∧
      (v.looseEq w = true ↔ v.display = w.display) := by
  have hshown := Text.order_compares v.display w.display
  cases v with
  | bool b => exact hv.elim
  | number x =>
    cases w with
    | bool b => exact hw.elim
    | number y => simp [asNumber?] at h
    | text u => exact ⟨hshown, beq_iff_eq⟩
  | text t =>
    cases w with
    | bool b => exact hw.elim
    | number y => exact ⟨hshown, beq_iff_eq⟩
    | text u => exact ⟨hshown, beq_iff_eq⟩

end Value

namespace Number

variable {c : Char} (hc : Text.isAsciiLetter c = true)

include hc

/-- What is no letter is not the letter in question. -/
theorem ne_of_letter {d : Char} (hd : Text.isAsciiLetter d = false) : c ≠ d := by
  rintro rfl
  rw [hc] at hd
  cases hd

/-- A text that begins with a letter is no decimal. -/
theorem readDecimal?_of_letter (t : Text) : readDecimal? (c :: t) = none := by
  have hdigit : Text.isDigit c = false := by
    rw [Bool.eq_false_iff]
    intro hdigit
    have hall : ∀ d ∈ Text.decimalDigits, Text.isAsciiLetter d = false :=
      Text.forall_mem_of_all (by decide)
    exact ne_of_letter hc (hall c (Text.mem_decimalDigits hdigit)) rfl
  have htake : (c :: t).takeWhile Text.isDigit = [] :=
    List.takeWhile_cons_of_neg (by simp [hdigit])
  have hdrop : (c :: t).dropWhile Text.isDigit = c :: t :=
    List.dropWhile_cons_of_neg (by simp [hdigit])
  simp only [readDecimal?, htake, hdrop]
  split
  · rename_i hpoint
    exact absurd (List.cons.inj hpoint).1 (ne_of_letter hc (by decide))
  · rfl

/-- A word that begins with a letter is no number, unless it is the name of one. -/
theorem readDouble?_of_letter (hi : c.toLower ≠ 'i'.toLower) (hn : c.toLower ≠ 'n'.toLower)
    (t : Text) : readDouble? (c :: t) = none := by
  have hname : Text.sameWord (c :: t) "inf" = false ∧ Text.sameWord (c :: t) "infinity" = false ∧
      Text.sameWord (c :: t) "nan" = false :=
    ⟨Text.sameWord_cons_eq_false hi t _, Text.sameWord_cons_eq_false hi t _,
      Text.sameWord_cons_eq_false hn t _⟩
  have hmagnitude : readMagnitude? (c :: t) = none := by
    rw [readMagnitude?, hname.1, hname.2.1, hname.2.2, readDecimal?_of_letter hc t]
    rfl
  unfold readDouble?
  split
  · rename_i heq
    exact absurd (List.cons.inj heq).1 (ne_of_letter hc (by decide))
  · rename_i heq
    exact absurd (List.cons.inj heq).1 (ne_of_letter hc (by decide))
  · exact hmagnitude

end Number

/-- The words for truth values are no numbers. -/
theorem Number.readDouble?_of_truth {w : Text}
    (h : Text.sameWord w "true" = true ∨ Text.sameWord w "false" = true) :
    readDouble? w = none := by
  obtain ⟨c, t, d, rfl, hlower, hd⟩ : ∃ c t d, w = c :: t ∧ c.toLower = d.toLower ∧
      d ∈ "tf".toList := by
    rcases h with htrue | hfalse
    · obtain ⟨c, t, hw, hlower⟩ := Text.exists_cons_of_sameWord htrue
      exact ⟨c, t, 't', hw, hlower, by decide⟩
    · obtain ⟨c, t, hw, hlower⟩ := Text.exists_cons_of_sameWord hfalse
      exact ⟨c, t, 'f', hw, hlower, by decide⟩
  have hall : ∀ e ∈ "tf".toList, Text.isAsciiLetter e = true ∧ e.toLower ≠ 'i'.toLower ∧
      e.toLower ≠ 'n'.toLower :=
    Text.forall_mem_of_all (by decide)
  obtain ⟨hletter, hi, hn⟩ := hall d hd
  rw [← Text.isAsciiLetter_toLower, ← hlower, Text.isAsciiLetter_toLower] at hletter
  exact readDouble?_of_letter hletter (hlower ▸ hi) (hlower ▸ hn) t

namespace Expr

/-- The operators that compare their operands. -/
inductive Comparison
  | eq | ne | lt | le | gt | ge
  deriving DecidableEq, Repr

namespace Comparison

/-- The operator. -/
def op : Comparison → BinaryOp
  | eq => .eq
  | ne => .ne
  | lt => .lt
  | le => .le
  | gt => .gt
  | ge => .ge

/-- The ways to write the operator. -/
def signs : Comparison → List Text
  | eq => ["==", "="]
  | ne => ["!="]
  | lt => ["<"]
  | le => ["<="]
  | gt => [">"]
  | ge => [">="]

/-- What the operator asks of two things in order. -/
def holds {α : Type} [LinearOrder α] : Comparison → α → α → Bool
  | eq, a, b => a = b
  | ne, a, b => a ≠ b
  | lt, a, b => a < b
  | le, a, b => a ≤ b
  | gt, a, b => b < a
  | ge, a, b => b ≤ a

/-- Two values that are compared as two things in order are compared truly. -/
theorem apply_op {α : Type} [LinearOrder α] (c : Comparison) {v w : Value} {a b : α}
    (h : (v.order w).Compares a b ∧ (v.looseEq w = true ↔ a = b)) :
    apply c.op v w = .ok (.bool (c.holds a b)) := by
  obtain ⟨horder, heq⟩ := h
  have hloose : v.looseEq w = decide (a = b) := Bool.eq_iff_iff.mpr (by simpa using heq)
  have hlt : (v.order w == .lt) = decide (a < b) :=
    Bool.eq_iff_iff.mpr (by simpa using horder.eq_lt)
  have hle : (v.order w != .gt) = decide (a ≤ b) :=
    Bool.eq_iff_iff.mpr (by simpa using horder.ne_gt)
  have hgt : (v.order w == .gt) = decide (b < a) :=
    Bool.eq_iff_iff.mpr (by simpa using horder.eq_gt)
  have hge : (v.order w != .lt) = decide (b ≤ a) :=
    Bool.eq_iff_iff.mpr (by simpa using horder.ne_lt)
  cases c with
  | eq => simp [op, apply, holds, hloose]
  | ne => simp [op, apply, holds, hloose]
  | lt => simp only [op, apply, holds, hlt]
  | le => simp only [op, apply, holds, hle]
  | gt => simp only [op, apply, holds, hgt]
  | ge => simp only [op, apply, holds, hge]

/-- The sign of a comparison begins with a reserved character. -/
theorem exists_reserved (c : Comparison) {sign : Text} (hsign : sign ∈ c.signs) :
    ∃ first tail, sign = first :: tail ∧ isReserved first = true := by
  have hall : ∀ s ∈ c.signs, s.head?.any isReserved = true := by
    cases c <;> decide
  have hhead := hall sign hsign
  cases sign with
  | nil => cases hhead
  | cons first tail => exact ⟨first, tail, rfl, hhead⟩

/-- A character that belongs to no word, and is no quote, begins an operator. -/
theorem lexemes_operator {first : Char} {v : Text} {l : Lexeme} {long : Bool}
    (hreserved : isReserved first = true) (hfirst : first ≠ '"' ∧ Text.isBlank first = false)
    (hop : operator? first v.head? = some (l, long)) :
    lexemes (first :: v) = l :: lexemes (v.drop (if long then 1 else 0)) := by
  have htake : takeLexeme (first :: v) =
      .ok (l, first :: v.take (if long then 1 else 0), v.drop (if long then 1 else 0)) := by
    rw [takeLexeme, inWord_of_reserved (by simp [hreserved]), if_neg Bool.false_ne_true,
      if_neg (by simpa using hfirst.1), hop]
  exact Written.lexemes_first hfirst.2 htake

/-- An operator in front of an operand is one lexeme. -/
theorem lexemes_sign (c : Comparison) {sign v : Text} (hsign : sign ∈ c.signs)
    (hv : v.head? ≠ some '=') : lexemes (sign ++ v) = c.op.lexeme :: lexemes v := by
  have hnext : (v.head? == some '=') = false := beq_false_of_ne hv
  have hlong (first : Char) (l : Lexeme)
      (hfirst : isReserved first = true ∧ first ≠ '"' ∧ Text.isBlank first = false)
      (hop : operator? first (some '=') = some (l, true)) :
      lexemes (first :: '=' :: v) = l :: lexemes v :=
    @lexemes_operator first ('=' :: v) l true hfirst.1 hfirst.2 hop
  have hshort (first : Char) (l : Lexeme)
      (hfirst : isReserved first = true ∧ first ≠ '"' ∧ Text.isBlank first = false)
      (hop : operator? first v.head? = some (l, false)) :
      lexemes (first :: v) = l :: lexemes v :=
    lexemes_operator hfirst.1 hfirst.2 hop
  cases c with
  | eq =>
    rcases List.mem_pair.mp hsign with rfl | rfl
    · exact hlong '=' .eq (by decide) rfl
    · exact hshort '=' .eq (by decide) (by simp [operator?, hnext])
  | ne =>
    obtain rfl := List.mem_singleton.mp hsign
    exact hlong '!' .ne (by decide) rfl
  | lt =>
    obtain rfl := List.mem_singleton.mp hsign
    exact hshort '<' .lt (by decide) (by simp [operator?, hnext])
  | le =>
    obtain rfl := List.mem_singleton.mp hsign
    exact hlong '<' .le (by decide) rfl
  | gt =>
    obtain rfl := List.mem_singleton.mp hsign
    exact hshort '>' .gt (by decide) (by simp [operator?, hnext])
  | ge =>
    obtain rfl := List.mem_singleton.mp hsign
    exact hlong '>' .ge (by decide) rfl

end Comparison

/-- A text that is written as an operand. -/
inductive Operand
  /-- It is a word, and stands bare. -/
  | bare (w : Text) (hword : lexemes w = [.word w])
  /-- It stands between quotes. -/
  | quoted (t : Text)

namespace Operand

/-- The text. -/
def text : Operand → Text
  | bare w _ => w
  | quoted t => t

/-- The text as it is written. -/
def source : Operand → Text
  | bare w _ => w
  | quoted t => '"' :: escape t ++ ['"']

/-- The number that the operand is: one that stands bare and can be read as a finite number. -/
def number? : Operand → Option Float
  | bare w _ => Number.read? w
  | quoted _ => none

/-- The text that the operand is compared as if it is no number or the other is none. -/
def shown (o : Operand) : Text :=
  match o.number? with
  | some x => Number.format x
  | none => o.text

/-- That the operand stands bare and is the word for a truth value. -/
def IsTruth : Operand → Prop
  | bare w _ => Text.sameWord w "true" = true ∨ Text.sameWord w "false" = true
  | quoted _ => False

/-- The lexeme of the operand. -/
def lexeme : Operand → Lexeme
  | bare w _ => .word w
  | quoted t => .str t

/-- The value of the operand. -/
def value : Operand → Value
  | bare w _ => Value.parse w
  | quoted t => .text t

/-- A bare word holds neither blanks nor signs nor quotes. -/
theorem not_reserved_of_word {w : Text} (hword : lexemes w = [.word w]) :
    w ≠ [] ∧ ∀ c ∈ w, Text.isBlank c = false ∧ isReserved c = false := by
  refine ⟨fun hnil => by simp [hnil, lexemes_of_blanks] at hword, ?_⟩
  obtain ⟨blanks, c, tail, source, rest, -, hc, -, -, htake⟩ :=
    exists_of_lexemes_eq_singleton hword
  obtain ⟨-, hw, htaken⟩ | ⟨-, text, inner, hstring, -⟩ | ⟨-, -, long, hop, -⟩ :=
    takeLexeme_cases htake
  · obtain rfl : w = source := by simpa using hw
    have hfirst : (takeWord false (c :: tail)).1 = w := by rw [htaken]
    exact fun d hd => not_reserved_of_mem_takeWord (hfirst ▸ hd)
  · cases hstring
  · have hoperand := (operator_spec hop).2.1
    cases hoperand

/-- No operand begins with a character that would prolong the sign before it. -/
theorem head?_source (o : Operand) (v : Text) : (o.source ++ v).head? ≠ some '=' := by
  cases o with
  | bare w hword =>
    obtain ⟨hne, hchars⟩ := not_reserved_of_word hword
    obtain ⟨c, rest, rfl⟩ := List.exists_cons_of_ne_nil hne
    have hc := (hchars c List.mem_cons_self).2
    rintro heq
    obtain rfl : c = '=' := by simpa [source] using heq
    cases hc
  | quoted t => simp [source]

/-- An operand in front of something that does not go on with a word is one lexeme. -/
theorem lexemes_source (o : Operand) {v : Text} (hv : Written.Apart v) :
    lexemes (o.source ++ v) = o.lexeme :: lexemes v := by
  cases o with
  | bare w hword =>
    cases v with
    | nil =>
      rw [List.append_nil]
      exact hword
    | cons x v =>
      have hquote : '"' ∉ w := fun hmem =>
        absurd ((not_reserved_of_word hword).2 _ hmem).2 (by decide)
      have hends : EndsBefore x w := by
        refine ⟨QuoteState.after_outside hquote, fun l hl => .inr ?_⟩
        obtain rfl : .word w = l := by simpa [hword] using hl
        exact hv x rfl
      have hsplit := @lexemes_append w (x :: v) x rfl hends
      rw [hword] at hsplit
      exact hsplit
  | quoted t => simp [source, lexeme, lexemes_quote, takeString_escape]

/-- The words for truth values are no numbers. -/
theorem not_truth_of_number? {o : Operand} {x : Float} (h : o.number? = some x) : ¬o.IsTruth := by
  cases o with
  | bare w hword =>
    intro htruth
    have hblanks : Text.trim w = w :=
      Text.trim_eq_self fun c hc => ((not_reserved_of_word hword).2 c hc).1
    have hnone := Number.readDouble?_of_truth htruth
    simp [number?, Number.read?, hblanks, hnone] at h
  | quoted t => exact id

/-- An operand that is no truth value is a number or a text. -/
theorem value_of_not_truth {o : Operand} (h : ¬o.IsTruth) :
    o.value = (o.number?.map Value.number).getD (.text o.text) := by
  cases o with
  | bare w hword =>
    have hblanks : Text.trim w = w :=
      Text.trim_eq_self fun c hc => ((not_reserved_of_word hword).2 c hc).1
    obtain ⟨htrue, hfalse⟩ := not_or.mp h
    rw [value, Value.parse, hblanks, if_neg htrue, if_neg hfalse, number?, text]
    cases Number.read? w <;> rfl
  | quoted t => rfl

/-- An operand that is no truth value has a plain value, with the number and the text that it
shows. -/
theorem value_spec {o : Operand} (h : ¬o.IsTruth) :
    o.value.IsPlain ∧ o.value.asNumber? = o.number? ∧ o.value.display = o.shown := by
  rw [value_of_not_truth h, shown]
  cases o.number? with
  | none => exact ⟨trivial, rfl, rfl⟩
  | some x => exact ⟨trivial, rfl, rfl⟩

/-- The number of an operand is finite. -/
theorem isFinite_of_number? {o : Operand} {x : Float} (h : o.number? = some x) :
    x.isFinite = true := by
  cases o with
  | bare w hword => exact (Option.filter_eq_some_iff.mp h).2
  | quoted t => cases h

end Operand

/-- An operator between two operands, with blanks wherever there may be some. -/
def comparison (a : Operand) (gap sign between : Text) (b : Operand) : Text :=
  a.source ++ (gap ++ (sign ++ (between ++ b.source)))

section Comparing

variable (a b : Operand) (c : Comparison) {sign gap between : Text} (hsign : sign ∈ c.signs)
  (hgap : ∀ d ∈ gap, Text.isBlank d = true) (hbetween : ∀ d ∈ between, Text.isBlank d = true)

include hsign hgap hbetween

/-- A comparison is lexed into two operands and the sign between them. -/
theorem lexemes_comparison :
    lexemes (comparison a gap sign between b) = [a.lexeme, c.op.lexeme, b.lexeme] := by
  have hlast : lexemes (between ++ b.source) = [b.lexeme] := by
    have hend := @Operand.lexemes_source b [] (by rintro d ⟨⟩)
    rw [List.append_nil, lexemes_of_blanks (List.forall_mem_nil _)] at hend
    rw [lexemes_blanks_append hbetween, hend]
  have hnext : (between ++ b.source).head? ≠ some '=' := by
    cases between with
    | nil => simpa using b.head?_source []
    | cons d between =>
      rintro heq
      obtain rfl : d = '=' := by simpa using heq
      exact absurd (hbetween '=' List.mem_cons_self) (by decide)
  have hapart : Written.Apart (gap ++ (sign ++ (between ++ b.source))) := by
    intro d hd
    cases gap with
    | nil =>
      obtain ⟨first, tail, rfl, hfirst⟩ := c.exists_reserved hsign
      obtain rfl : first = d := by simpa using hd
      simp [hfirst]
    | cons e gap =>
      obtain rfl : e = d := by simpa using hd
      simp [hgap e List.mem_cons_self]
  rw [comparison, a.lexemes_source hapart, lexemes_blanks_append hgap,
    c.lexemes_sign hsign hnext, hlast]

/-- Two operands are compared by their values. -/
theorem evaluate_operands :
    evaluate (comparison a gap sign between b) = apply c.op a.value b.value := by
  rw [evaluate_eq, lexemes_comparison a b c hsign hgap hbetween]
  cases a <;> cases b <;> cases c <;> rfl

/-- Two bare numbers are compared by size. Unless both operands are, and if neither is a bare truth
value, they are compared as texts, character by character, where a bare number is the text that
scripts show it as. -/
theorem comparison_by_form :
    (∀ x y, a.number? = some x → b.number? = some y →
      evaluate (comparison a gap sign between b) =
        .ok (.bool (c.holds (Number.value x) (Number.value y)))) ∧
    (¬a.IsTruth → ¬b.IsTruth → a.number? = none ∨ b.number? = none →
      evaluate (comparison a gap sign between b) = .ok (.bool (c.holds a.shown b.shown))) := by
  rw [evaluate_operands a b c hsign hgap hbetween]
  constructor
  · intro x y hx hy
    rw [Operand.value_of_not_truth (Operand.not_truth_of_number? hx),
      Operand.value_of_not_truth (Operand.not_truth_of_number? hy), hx, hy]
    exact c.apply_op (Value.order_number (Operand.isFinite_of_number? hx)
      (Operand.isFinite_of_number? hy))
  · intro ha hb hnone
    obtain ⟨haplain, hanumber, hadisplay⟩ := Operand.value_spec ha
    obtain ⟨hbplain, hbnumber, hbdisplay⟩ := Operand.value_spec hb
    rw [← hanumber, ← hbnumber] at hnone
    rw [← hadisplay, ← hbdisplay]
    exact c.apply_op (Value.order_display haplain hbplain hnone)

end Comparing

/-- A numeral that stands bare. -/
def Operand.numeral (n : Numeral) : Operand :=
  .bare n.text (by
    have hlexemes := (Written.number n).lexemes_printAt 0 (v := []) (by rintro c ⟨⟩)
    rwa [List.append_nil, lexemes_of_blanks (List.forall_mem_nil _)] at hlexemes)

/-- A numeral shows the number that it stands for. -/
theorem Operand.shown_numeral (n : Numeral) : (numeral n).shown = Number.format n.number := by
  have hnumber : (numeral n).number? = some n.number := n.read?_text
  rw [shown, hnumber]

/-- A whole number below ten. -/
def nine : Numeral where
  whole := "9"
  fraction := none
  digits := Text.forall_mem_of_all (by decide)
  ne_nil := by decide
  isFinite := by decide +kernel

/-- A number of two digits. -/
def ten : Numeral where
  whole := "10"
  fraction := none
  digits := Text.forall_mem_of_all (by decide)
  ne_nil := by decide
  isFinite := by decide +kernel

/-- A numeral with a needless zero. -/
def oneFifty : Numeral where
  whole := "1"
  fraction := some "50"
  digits := Text.forall_mem_of_all (by decide)
  ne_nil := by decide
  isFinite := by decide +kernel

/-- Ten is at least nine as a number, but not beside a quoted nine, where texts are compared. -/
theorem comparison_by_form_nine :
    (">=".toList ∈ Comparison.ge.signs ∧ ∀ d ∈ " ".toList, Text.isBlank d = true) ∧
      evaluate "10 >= 9" =
        .ok (.bool (Comparison.ge.holds (Number.value ten.number) (Number.value nine.number))) ∧
      evaluate "10 >= \"9\"" = .ok (.bool (Comparison.ge.holds "10".toList "9".toList)) := by
  have hsign : ">=".toList ∈ Comparison.ge.signs := by decide
  have hgap : ∀ d ∈ " ".toList, Text.isBlank d = true := Text.forall_mem_of_all (by decide)
  have hnumbers := (comparison_by_form (.numeral ten) (.numeral nine) .ge hsign hgap hgap).1
    ten.number nine.number ten.read?_text nine.read?_text
  have htexts := (comparison_by_form (.numeral ten) (.quoted "9") .ge hsign hgap hgap).2
    (Operand.not_truth_of_number? ten.read?_text) id (.inr rfl)
  have hshown : (Operand.numeral ten).shown = "10" := by
    rw [Operand.shown_numeral]
    decide +kernel
  rw [hshown] at htexts
  exact ⟨⟨hsign, hgap⟩, hnumbers, htexts⟩

/-- What can be read as two numbers is not compared by size if it stands between quotes, and a bare
number in front of a text is not compared by its own digits. -/
theorem not_always_by_content :
    (¬ ∀ (a b : Operand) (c : Comparison) (sign gap between : Text), sign ∈ c.signs →
      (∀ d ∈ gap, Text.isBlank d = true) → (∀ d ∈ between, Text.isBlank d = true) →
        ∀ x y, Number.read? a.text = some x → Number.read? b.text = some y →
          evaluate (comparison a gap sign between b) =
            .ok (.bool (c.holds (Number.value x) (Number.value y)))) ∧
    (¬ ∀ (a b : Operand) (c : Comparison) (sign gap between : Text), sign ∈ c.signs →
      (∀ d ∈ gap, Text.isBlank d = true) → (∀ d ∈ between, Text.isBlank d = true) →
        (∀ t ∈ [a.text, b.text], Text.sameWord t "true" = false ∧ Text.sameWord t "false" = false) →
        Number.read? a.text = none ∨ Number.read? b.text = none →
          evaluate (comparison a gap sign between b) = .ok (.bool (c.holds a.text b.text))) := by
  have hnone : ∀ d ∈ ([] : Text), Text.isBlank d = true := List.forall_mem_nil _
  constructor
  · intro hall
    have hsign : "<".toList ∈ Comparison.lt.signs := by decide
    have hcompared := hall (.quoted "9") (.quoted "10") .lt _ _ _ hsign hnone hnone nine.number
      ten.number nine.read?_text ten.read?_text
    have hless : nine.number < ten.number := by decide +kernel
    have hvalues : Number.value nine.number < Number.value ten.number :=
      (Number.lt_iff_value_lt nine.isFinite ten.isFinite).mp hless
    rw [evaluate_operands _ _ _ hsign hnone hnone] at hcompared
    have htexts : apply .lt (.text "9") (.text "10") = .ok (.bool false) := rfl
    have hfalse := hcompared.symm.trans htexts
    simp [Comparison.holds, hvalues] at hfalse
  · intro hall
    have hsign : ">".toList ∈ Comparison.gt.signs := by decide
    have hcompared := hall (.numeral oneFifty) (.quoted "1.5-a") .gt _ _ _ hsign hnone hnone
      (by decide) (.inr (by decide +kernel))
    rw [evaluate_operands _ _ _ hsign hnone hnone] at hcompared
    have hshown : Number.format oneFifty.number = "1.5" := by decide +kernel
    have hvalue : (Operand.numeral oneFifty).value = .number oneFifty.number :=
      oneFifty.parse_text
    have htexts : apply .gt (.number oneFifty.number) (.text "1.5-a") = .ok (.bool false) := by
      have horder : (Value.number oneFifty.number).order (.text "1.5-a") = .lt := by
        rw [Value.order, Value.display, hshown]
        · rfl
        · rintro x y - ⟨⟩
      rw [apply, horder]
      rfl
    rw [hvalue] at hcompared
    have hfalse := hcompared.symm.trans htexts
    have htrue : Comparison.gt.holds "1.50".toList "1.5-a".toList = true := by decide
    change Except.ok (Value.bool (Comparison.gt.holds "1.50".toList "1.5-a".toList)) = _ at hfalse
    rw [htrue] at hfalse
    cases hfalse

end Expr

end Mudline
