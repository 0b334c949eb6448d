import Mudline.Proofs.Formula.Operand
import Mudline.Proofs.Text.Digits

/-!
# Printed expressions

An expression is written with blanks around the operators that have two operands, and with
parentheses where the levels of the operators ask for them and nowhere else. Read back, it is the
same expression: the lexer finds the lexemes that were meant, and the parser puts them together at
their levels, each of which groups to the left.
-/

namespace Mudline

namespace Expr

/-- The number that digits before and behind a point stand for. -/
def decimal (whole fraction : Text) : Float :=
  Number.ofDecimal (Text.digitsValue 0 (whole ++ fraction)) (-(fraction.length : Int))

/-- A decimal numeral without a sign. One that is past all doubles is read as a text, so it is the
numeral of no number. -/
structure Numeral where
  /-- The digits before the point. -/
  whole : Text
  /-- The digits behind the point, if there is a point. -/
  fraction : Option Text
  /-- All of them are digits. -/
  digits : ∀ c ∈ whole ++ fraction.getD [], Text.isDigit c = true
  /-- There is a digit. -/
  ne_nil : whole ++ fraction.getD [] ≠ []
  /-- The number is finite. -/
  isFinite : (decimal whole (fraction.getD [])).isFinite = true

namespace Numeral

/-- The number that the numeral stands for. -/
def number (n : Numeral) : Float :=
  decimal n.whole (n.fraction.getD [])

/-- The numeral as it is written. -/
def text (n : Numeral) : Text :=
  n.whole ++ (n.fraction.map ('.' :: ·)).getD []

/-- The characters of numerals. -/
def chars : Text :=
  '.' :: Text.decimalDigits

/-- A digit is a character of numerals. -/
theorem mem_chars {c : Char} (h : Text.isDigit c = true) : c ∈ chars :=
  List.mem_cons_of_mem _ (Text.mem_decimalDigits h)

/-- A numeral consists of such characters. -/
theorem mem_chars_of_mem_text {n : Numeral} {c : Char} (h : c ∈ n.text) : c ∈ chars := by
  have hdigits := n.digits
  rw [text] at h
  cases hfraction : n.fraction with
  | none =>
    simp only [hfraction, Option.map_none, Option.getD_none, List.append_nil] at h hdigits
    exact mem_chars (hdigits c h)
  | some fraction =>
    simp only [hfraction, Option.map_some, Option.getD_some] at h hdigits
    rcases List.mem_append.mp h with hwhole | hrest
    · exact mem_chars (hdigits c (List.mem_append_left _ hwhole))
    · rcases List.mem_cons.mp hrest with rfl | hbehind
      · decide
      · exact mem_chars (hdigits c (List.mem_append_right _ hbehind))

/-- No numeral is empty. -/
theorem text_ne_nil (n : Numeral) : n.text ≠ [] := by
  have hne := n.ne_nil
  intro hnil
  rw [text] at hnil
  obtain ⟨hwhole, hrest⟩ := List.append_eq_nil_iff.mp hnil
  cases hfraction : n.fraction with
  | none => simp [hwhole, hfraction] at hne
  | some fraction => simp [hfraction] at hrest

/-- The digits are read up to the point, and behind it up to the end. -/
theorem readDecimal?_text (n : Numeral) : Number.readDecimal? n.text = some n.number := by
  have hdigits := n.digits
  have hne := n.ne_nil
  rw [text, number, decimal]
  cases hfraction : n.fraction with
  | none =>
    simp only [hfraction, Option.map_none, Option.getD_none, List.append_nil] at hdigits hne ⊢
    have htake : n.whole.takeWhile Text.isDigit = n.whole := List.takeWhile_eq_self_iff.mpr hdigits
    have hdrop : n.whole.dropWhile Text.isDigit = [] := List.dropWhile_eq_nil_iff.mpr hdigits
    simp [Number.readDecimal?, htake, hdrop, hne, Number.readExponent?]
  | some fraction =>
    simp only [hfraction, Option.map_some, Option.getD_some] at hdigits hne ⊢
    have hwhole : ∀ c ∈ n.whole, Text.isDigit c = true := fun c hc =>
      hdigits c (List.mem_append_left _ hc)
    have hbehind : ∀ c ∈ fraction, Text.isDigit c = true := fun c hc =>
      hdigits c (List.mem_append_right _ hc)
    have hpoint : Text.isDigit '.' = false := by decide
    have htake : (n.whole ++ '.' :: fraction).takeWhile Text.isDigit = n.whole := by
      rw [List.takeWhile_append_of_pos hwhole, List.takeWhile_cons_of_neg (by simp [hpoint]),
        List.append_nil]
    have hdrop : (n.whole ++ '.' :: fraction).dropWhile Text.isDigit = '.' :: fraction := by
      rw [List.dropWhile_append_of_pos hwhole, List.dropWhile_cons_of_neg (by simp [hpoint])]
    have htake' : fraction.takeWhile Text.isDigit = fraction :=
      List.takeWhile_eq_self_iff.mpr hbehind
    have hdrop' : fraction.dropWhile Text.isDigit = [] := List.dropWhile_eq_nil_iff.mpr hbehind
    have hsome : (n.whole.isEmpty && fraction.isEmpty) = false := by
      rw [Bool.and_eq_false_iff, List.isEmpty_eq_false_iff, List.isEmpty_eq_false_iff]
      by_contra! hnil
      exact hne (by rw [hnil.1, hnil.2]; rfl)
    simp [Number.readDecimal?, htake, hdrop, htake', hdrop', hsome, Number.readExponent?]

/-- A numeral begins with such a character. -/
theorem exists_first (n : Numeral) : ∃ c rest, n.text = c :: rest ∧ c ∈ chars := by
  obtain ⟨c, rest, htext⟩ := List.exists_cons_of_ne_nil n.text_ne_nil
  exact ⟨c, rest, htext, mem_chars_of_mem_text (htext ▸ List.mem_cons_self)⟩

/-- A numeral is no word that begins with a letter. -/
theorem sameWord_text (n : Numeral) {d : Char} (hd : ∀ c ∈ chars, c.toLower ≠ d.toLower)
    (u : Text) : Text.sameWord n.text (d :: u) = false := by
  obtain ⟨c, rest, htext, hc⟩ := n.exists_first
  rw [htext]
  exact Text.sameWord_cons_eq_false (hd c hc) rest u

/-- A numeral is read as the double that it stands for. -/
theorem readDouble?_text (n : Numeral) : Number.readDouble? n.text = some n.number := by
  have hmagnitude : Number.readMagnitude? n.text = some n.number := by
    have hinf : ∀ c ∈ chars, c.toLower ≠ 'i'.toLower := Text.forall_mem_of_all (by decide)
    have hnan : ∀ c ∈ chars, c.toLower ≠ 'n'.toLower := Text.forall_mem_of_all (by decide)
    have hname : Text.sameWord n.text "inf" = false ∧ Text.sameWord n.text "infinity" = false ∧
        Text.sameWord n.text "nan" = false :=
      ⟨n.sameWord_text hinf _, n.sameWord_text hinf _, n.sameWord_text hnan _⟩
    rw [Number.readMagnitude?, hname.1, hname.2.1, hname.2.2, n.readDecimal?_text]
    rfl
  have hsign : ∀ c ∈ chars, c ≠ '-' ∧ c ≠ '+' := Text.forall_mem_of_all (by decide)
  obtain ⟨c, rest, htext, hc⟩ := n.exists_first
  rw [htext] at hmagnitude ⊢
  unfold Number.readDouble?
  split
  · rename_i heq
    exact absurd (List.cons.inj heq).1 (hsign c hc).1
  · rename_i heq
    exact absurd (List.cons.inj heq).1 (hsign c hc).2
  · exact hmagnitude

/-- There are no blanks around a numeral. -/
theorem trim_text (n : Numeral) : Text.trim n.text = n.text := by
  have hall : ∀ c ∈ chars, Text.isBlank c = false := Text.forall_mem_of_all (by decide)
  apply Text.trim_eq_self
  intro c hc
  exact hall c (mem_chars_of_mem_text hc)

/-- A numeral is read as the number that it stands for. -/
theorem read?_text (n : Numeral) : Number.read? n.text = some n.number := by
  rw [Number.read?, n.trim_text, n.readDouble?_text]
  exact Option.filter_some_pos n.isFinite

/-- A numeral is read as its number. -/
theorem parse_text (n : Numeral) : Value.parse n.text = .number n.number := by
  have htrue : ∀ c ∈ chars, c.toLower ≠ 't'.toLower := Text.forall_mem_of_all (by decide)
  have hfalse : ∀ c ∈ chars, c.toLower ≠ 'f'.toLower := Text.forall_mem_of_all (by decide)
  have hbool : Text.sameWord n.text "true" = false ∧ Text.sameWord n.text "false" = false :=
    ⟨n.sameWord_text htrue _, n.sameWord_text hfalse _⟩
  rw [Value.parse, n.trim_text, hbool.1, hbool.2, n.read?_text]
  rfl

end Numeral

/-- A text with a backslash before each quote and each backslash. -/
def escape : Text → Text
  | [] => []
  | c :: t => if c = '"' ∨ c = '\\' then '\\' :: c :: escape t else c :: escape t

/-- An escaped text is taken up to the quote that closes it. -/
theorem takeString_escape (t v : Text) :
    takeString (escape t ++ '"' :: v) = (t, escape t ++ ['"'], v) := by
  induction t with
  | nil => rfl
  | cons c t ih =>
    rw [escape]
    split
    · simp [takeString, ih]
    · rename_i hplain
      obtain ⟨hquote, hbackslash⟩ := not_or.mp hplain
      rw [List.cons_append, takeString_cons hquote hbackslash, ih]
      rfl

/-- The operator as it is written. -/
def UnaryOp.sign : UnaryOp → Char
  | neg => '-'
  | not => '!'

/-- The lexeme of the operator. -/
def UnaryOp.lexeme : UnaryOp → Lexeme
  | neg => .minus
  | not => .bang

/-- The operator as it is written. -/
def BinaryOp.sign : BinaryOp → Text
  | add => "+"
  | sub => "-"
  | mul => "*"
  | div => "/"
  | rem => "%"
  | eq => "=="
  | ne => "!="
  | lt => "<"
  | le => "<="
  | gt => ">"
  | ge => ">="
  | and => "&&"
  | or => "||"

/-- The lexeme of the operator. -/
def BinaryOp.lexeme : BinaryOp → Lexeme
  | add => .plus
  | sub => .minus
  | mul => .star
  | div => .slash
  | rem => .percent
  | eq => .eq
  | ne => .ne
  | lt => .lt
  | le => .le
  | gt => .gt
  | ge => .ge
  | and => .and
  | or => .or

/-- An expression whose numbers are written as numerals. -/
inductive Written
  /-- A text. -/
  | text (t : Text)
  /-- A truth value. -/
  | bool (b : Bool)
  /-- A number. -/
  | number (n : Numeral)
  /-- An operator before its operand. -/
  | unary (op : UnaryOp) (operand : Written)
  /-- An operator between its operands. -/
  | binary (op : BinaryOp) (left right : Written)

namespace Written

/-- The expression that is written. -/
def expr : Written → Expr
  | text t => .literal (.text t)
  | bool b => .literal (.bool b)
  | number n => .literal (.number n.number)
  | unary op operand => .unary op operand.expr
  | binary op left right => .binary op left.expr right.expr

/-- How an operand is written where nothing may bind less tightly than `level`. The levels of the
operators with two operands are below 5, that of the operators with one operand is 5. -/
def printAt (level : Nat) : Written → Text
  | text t => '"' :: escape t ++ ['"']
  | bool b => Value.boolText b
  | number n => n.text
  | unary op operand => op.sign :: operand.printAt 5
  | binary op left right =>
    let bare := left.printAt op.level ++ ' ' :: op.sign ++ ' ' :: right.printAt (op.level + 1)
    if op.level < level then '(' :: bare ++ [')'] else bare

/-- How an expression is written. -/
def print (w : Written) : Text :=
  w.printAt 0

/-- The lexemes of an operand that is written where nothing may bind less tightly. -/
def lexemesAt (level : Nat) : Written → List Lexeme
  | text t => [.str t]
  | bool b => [.word (Value.boolText b)]
  | number n => [.word n.text]
  | unary op operand => op.lexeme :: operand.lexemesAt 5
  | binary op left right =>
    let bare := left.lexemesAt op.level ++ op.lexeme :: right.lexemesAt (op.level + 1)
    if op.level < level then .lparen :: bare ++ [.rparen] else bare

/-- That a text starts with nothing that goes on with a word. -/
def Apart (v : Text) : Prop :=
  ∀ c, v.head? = some c → (Text.isBlank c || isReserved c) = true

/-- A word without hyphens is cut off before what does not go on with it. -/
theorem lexemes_word_apart {w v : Text} (hw : w ≠ [])
    (hchars : ∀ c ∈ w, Formula.isPlainChar c = true ∧ c ≠ '-') (hv : Apart v) :
    lexemes (w ++ v) = .word w :: lexemes v := by
  have hplain : Formula.isPlain w = true := by
    have hnone : w.any Formula.breaksOperand = false := by
      rw [List.any_eq_false]
      intro c hc
      have hclear := (hchars c hc).1
      simp_all [Formula.isPlainChar]
    rw [Formula.isPlain, hnone, List.isEmpty_eq_false_iff.mpr hw]
    rfl
  have hquote : '"' ∉ w := by
    intro hmem
    exact absurd (hchars _ hmem).1 (by decide)
  have hhyphens : Formula.HyphensBehindLetters false w := by
    rintro front back rfl
    exact absurd rfl (hchars '-' (by simp)).2
  apply Formula.lexemes_plain hplain hquote hhyphens
  rintro c rest rfl
  exact inWord_of_reserved (hv c rfl) _ _

/-- A blank in front makes no difference to the lexemes. -/
theorem lexemes_blank (v : Text) : lexemes (' ' :: v) = lexemes v := by
  have hblank : ∀ c ∈ [' '], Text.isBlank c = true := Text.forall_mem_of_all (by decide)
  exact lexemes_blanks_append hblank v

/-- The first lexeme is taken off the front. -/
theorem lexemes_first {c : Char} {tail source rest : Text} {lexeme : Lexeme}
    (hc : Text.isBlank c = false) (htake : takeLexeme (c :: tail) = .ok (lexeme, source, rest)) :
    lexemes (c :: tail) = lexeme :: lexemes rest :=
  lexemes_next (List.forall_mem_nil _) hc htake

/-- An opening parenthesis is a lexeme. -/
theorem lexemes_paren (v : Text) : lexemes ('(' :: v) = .lparen :: lexemes v :=
  lexemes_first (by decide) rfl

/-- A closing parenthesis is a lexeme. -/
theorem lexemes_closingParen (v : Text) : lexemes (')' :: v) = .rparen :: lexemes v :=
  lexemes_first (by decide) rfl

/-- An operator between blanks is one lexeme. -/
theorem lexemes_sign (op : BinaryOp) (v : Text) :
    lexemes (' ' :: op.sign ++ ' ' :: v) = op.lexeme :: lexemes v := by
  obtain ⟨c, tail, hsign, hblank, htake⟩ : ∃ c tail, op.sign = c :: tail ∧
      Text.isBlank c = false ∧
      takeLexeme (c :: (tail ++ ' ' :: v)) = .ok (op.lexeme, op.sign, ' ' :: v) := by
    cases op <;> exact ⟨_, _, rfl, by decide, rfl⟩
  have hfirst := lexemes_first hblank htake
  rw [lexemes_blank] at hfirst
  rw [hsign, List.cons_append, lexemes_blank]
  exact hfirst

/-- A sign before an operand is one lexeme, unless an equals sign makes it another. -/
theorem lexemes_unarySign (op : UnaryOp) {v : Text} (hv : v.head? ≠ some '=') :
    lexemes (op.sign :: v) = op.lexeme :: lexemes v := by
  cases op with
  | neg => exact lexemes_first (by decide) rfl
  | not =>
    have hshort : (v.head? == some '=') = false := beq_false_of_ne hv
    have htake : takeLexeme ('!' :: v) = .ok (.bang, ['!'], v) := by
      rw [takeLexeme, inWord_of_reserved (by decide)]
      simp [operator?, hshort]
    exact lexemes_first (by decide) htake

/-- No printed expression begins with a character that would prolong the operator before it. -/
theorem head?_printAt (w : Written) (level : Nat) (v : Text) :
    (w.printAt level ++ v).head? ≠ some '=' := by
  induction w generalizing level v with
  | text t => simp [printAt]
  | bool b => cases b <;> simp [printAt, Value.boolText]
  | number n =>
    obtain ⟨c, rest, htext, hc⟩ := n.exists_first
    have hall : ∀ d ∈ Numeral.chars, d ≠ '=' := Text.forall_mem_of_all (by decide)
    simpa [printAt, htext] using hall c hc
  | unary op operand ih => cases op <;> simp [printAt, UnaryOp.sign]
  | binary op left right ihleft ihright =>
    rw [printAt]
    split
    · simp
    · rw [List.append_assoc, List.append_assoc]
      exact ihleft op.level _

/-- The lexemes of what is written are those that are meant. -/
theorem lexemes_printAt (w : Written) (level : Nat) {v : Text} (hv : Apart v) :
    lexemes (w.printAt level ++ v) = w.lexemesAt level ++ lexemes v := by
  induction w generalizing level v with
  | text t => simp [printAt, lexemesAt, lexemes_quote, takeString_escape]
  | bool b =>
    have hne : Value.boolText b ≠ [] := by
      cases b <;> decide
    have hletters : ∀ c ∈ Value.boolText b, Formula.isPlainChar c = true ∧ c ≠ '-' := by
      apply Text.forall_mem_of_all
      cases b <;> decide
    exact lexemes_word_apart hne hletters hv
  | number n =>
    refine lexemes_word_apart n.text_ne_nil ?_ hv
    intro c hc
    have hall : ∀ d ∈ Numeral.chars, Formula.isPlainChar d = true ∧ d ≠ '-' :=
      Text.forall_mem_of_all (by decide)
    exact hall c (Numeral.mem_chars_of_mem_text hc)
  | unary op operand ih =>
    rw [printAt, List.cons_append, lexemes_unarySign op (operand.head?_printAt 5 v), ih 5 hv]
    rfl
  | binary op left right ihleft ihright =>
    have hblank (u : Text) : Apart (' ' :: u) := by
      rintro c hc
      obtain rfl := Option.some.inj hc
      decide
    have hbare {u : Text} (hu : Apart u) :
        lexemes (left.printAt op.level ++ ' ' :: op.sign ++ ' ' :: right.printAt (op.level + 1) ++
            u) =
          left.lexemesAt op.level ++ op.lexeme :: right.lexemesAt (op.level + 1) ++
            lexemes u := by
      have hright := ihright (op.level + 1) hu
      have hsign := lexemes_sign op (right.printAt (op.level + 1) ++ u)
      have hleft := ihleft op.level (hblank (op.sign ++ ' ' :: (right.printAt (op.level + 1) ++ u)))
      rw [List.cons_append] at hsign
      rw [hsign, hright] at hleft
      simpa using hleft
    simp only [printAt, lexemesAt]
    split
    · have hclosing : Apart (')' :: v) := by
        rintro c hc
        obtain rfl := Option.some.inj hc
        decide
      have hinner := hbare hclosing
      rw [lexemes_closingParen] at hinner
      simp only [List.cons_append, List.append_assoc, List.nil_append] at hinner ⊢
      rw [lexemes_paren, hinner]
    · exact hbare hv

end Written

/-- That nothing on the stack takes an operand before an operator of the level or a higher one. -/
def Settled (level : Nat) (stack : List Pending) : Prop :=
  ∀ p, level ≤ p → p < 5 → ∀ e, reduce p e stack = (e, stack)

/-- That lexemes do not go on with an operand of the level: no word is first, and no operator that
binds more tightly. -/
def Follows (level : Nat) (ls : List Lexeme) : Prop :=
  ∀ l, ls.head? = some l → (∀ w, l ≠ .word w) ∧ ∀ op, l.binaryOp? = some op → op.level ≤ level

/-- A stack that is settled for a level is so for any higher one. -/
theorem Settled.mono {p q : Nat} {stack : List Pending} (h : Settled p stack) (hle : p ≤ q) :
    Settled q stack :=
  fun r hr => h r (hle.trans hr)

/-- What may follow an expression of some level may follow one of a higher level. -/
theorem Follows.mono {p q : Nat} {ls : List Lexeme} (h : Follows p ls) (hle : p ≤ q) :
    Follows q ls :=
  fun l hl => ⟨(h l hl).1, fun op hop => ((h l hl).2 op hop).trans hle⟩

namespace Written

end Written

/-- A numeral with digits on both sides of the point. -/
def oneAndHalf : Numeral where
  whole := "1"
  fraction := some "5"
  digits := Text.forall_mem_of_all (by decide)
  ne_nil := by decide
  isFinite := by decide +kernel

/-- A numeral without a point. -/
def seven : Numeral where
  whole := "7"
  fraction := none
  digits := Text.forall_mem_of_all (by decide)
  ne_nil := by decide
  isFinite := by decide +kernel

/-- An expression with operators of all levels, and operands of all kinds. -/
def tally : Written :=
  .binary .or
    (.binary .and
      (.binary .le
        (.binary .sub (.number seven)
          (.binary .sub (.unary .neg (.binary .add (.number seven) (.number oneAndHalf)))
            (.binary .mul (.number seven) (.number oneAndHalf))))
        (.text "say \"hi\" \\"))
      (.bool true))
    (.unary .not (.unary .not (.bool false)))

end Expr

end Mudline
