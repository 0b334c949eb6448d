import Mathlib.Algebra.Group.Nat.Even
import Mudline.Proofs.Expr.Literal
import Mudline.Proofs.Formula.Role

/-!
# Calls and string literals

The scans of formulas turn a switch at every quote. The lexer of expressions lets a backslash take
the next character as it is, a quote included. The two ways to tell what is quoted part at a quote
behind a backslash and meet again at the next one, so where they disagree is told by counting those
quotes.
-/

namespace Mudline

namespace Expr

/-- The number of quotes that a backslash takes. -/
def QuoteState.escapedQuotes (s : QuoteState) : Text → Nat
  | [] => 0
  | c :: rest => (if s == escaped && c == '"' then 1 else 0) + (s.next c).escapedQuotes rest

/-- The escaped quotes of a text are counted part by part. -/
@[simp]
theorem QuoteState.escapedQuotes_append (s : QuoteState) (a b : Text) :
    s.escapedQuotes (a ++ b) = s.escapedQuotes a + (s.after a).escapedQuotes b := by
  induction a generalizing s with
  | nil => simp [escapedQuotes]
  | cons c a ih => simp [escapedQuotes, ih, Nat.add_assoc]

/-- Without quotes, none are escaped. -/
theorem QuoteState.escapedQuotes_eq_zero {t : Text} (h : '"' ∉ t) (s : QuoteState) :
    s.escapedQuotes t = 0 := by
  induction t generalizing s with
  | nil => rfl
  | cons c t ih =>
    rw [List.mem_cons, not_or] at h
    have hc : c ≠ '"' := fun heq => h.1 heq.symm
    simp [escapedQuotes, hc, ih h.2]

end Expr

namespace Formula

open Mudline.Expr (QuoteState)

/-- The switch that every quote turns. -/
def toggle (quoted : Bool) (t : Text) : Bool :=
  t.foldl (fun quoted c => quoted != (c == '"')) quoted

/-- Nothing opens or closes no quotes. -/
@[simp]
theorem toggle_nil (quoted : Bool) : toggle quoted [] = quoted :=
  rfl

/-- A text is passed character by character. -/
@[simp]
theorem toggle_cons (quoted : Bool) (c : Char) (t : Text) :
    toggle quoted (c :: t) = toggle (quoted != (c == '"')) t :=
  rfl

/-- A text may be passed in two parts. -/
@[simp]
theorem toggle_append (quoted : Bool) (a b : Text) :
    toggle quoted (a ++ b) = toggle (toggle quoted a) b :=
  List.foldl_append

/-- A text does the opposite where it begins in the opposite state. -/
theorem toggle_not (quoted : Bool) (t : Text) : toggle (!quoted) t = !toggle quoted t := by
  induction t generalizing quoted with
  | nil => rfl
  | cons c t ih =>
    rw [toggle_cons, toggle_cons, ← ih]
    congr 1
    cases quoted <;> cases c == '"' <;> rfl

/-- A text without quotes opens and closes none. -/
theorem toggle_of_notMem {t : Text} (h : '"' ∉ t) (quoted : Bool) : toggle quoted t = quoted := by
  induction t generalizing quoted with
  | nil => rfl
  | cons c t ih =>
    rw [List.mem_cons, not_or] at h
    have hc : (c == '"') = false := beq_eq_false_iff_ne.mpr (Ne.symm h.1)
    rw [toggle_cons, hc, Bool.bne_false, ih h.2]

/-- At any other quote the switch and the literals turn together. -/
theorem next_ne_outside {s : QuoteState} {c : Char} (h : ¬(s = .escaped ∧ c = '"')) :
    ((s != .outside) != (c == '"')) = (s.next c != .outside) := by
  cases hquote : c == '"' with
  | true => cases s <;> simp_all [QuoteState.next]
  | false =>
    cases hbackslash : c == '\\' <;> cases s <;>
      simp only [QuoteState.next, hquote, hbackslash] <;> decide

/-- The switch tells what is in a literal after an even number of escaped quotes, and the contrary
after an odd one. -/
theorem toggle_eq_iff (s : QuoteState) (t : Text) :
    toggle (s != .outside) t = (s.after t != .outside) ↔ Even (s.escapedQuotes t) := by
  induction t generalizing s with
  | nil => simp [QuoteState.escapedQuotes]
  | cons c t ih =>
    by_cases hturn : s = .escaped ∧ c = '"'
    -- The switch turns and the literal goes on, so the two part here or meet again.
    · obtain ⟨rfl, rfl⟩ := hturn
      have hnext := ih .inside
      have hnot := toggle_not true t
      have hcount : QuoteState.escaped.escapedQuotes ('"' :: t) =
          QuoteState.inside.escapedQuotes t + 1 := by
        simp [QuoteState.escapedQuotes, QuoteState.next, Nat.add_comm]
      rw [hcount, Nat.even_add_one, ← hnext]
      change toggle false t = (QuoteState.inside.after t != .outside) ↔
        ¬toggle true t = (QuoteState.inside.after t != .outside)
      rw [← Bool.not_true, hnot]
      cases toggle true t <;> cases QuoteState.inside.after t != .outside <;> decide
    · have hcount : s.escapedQuotes (c :: t) = (s.next c).escapedQuotes t := by
        simp [QuoteState.escapedQuotes, hturn]
      rw [hcount, ← ih, toggle_cons, next_ne_outside hturn, QuoteState.after_cons]

/-- A quote is no character of a name. -/
theorem ne_quote_of_isNameChar {c : Char} (h : isNameChar c = true) : c ≠ '"' := by
  rintro rfl
  exact absurd h (by decide)

/-- What may begin a name may stand in it. -/
theorem isNameChar_of_startsName {c : Char} (h : startsName c = true) : isNameChar c = true := by
  simp [isNameChar, h]

/-- A character of a name in front makes no difference to whether a call opens. -/
theorem opensCall_cons {c : Char} (h : isNameChar c = true) (rest : Text) :
    opensCall (c :: rest) = opensCall rest := by
  simp [opensCall, h]

/-- A name and a parenthesis, taken apart. -/
theorem opensCall_eq_true {t : Text} (h : opensCall t = true) :
    ∃ name rest, (∀ c ∈ name, isNameChar c = true) ∧ t = name ++ '(' :: rest := by
  obtain ⟨rest, hrest⟩ := List.head?_eq_some_iff.mp (by simpa [opensCall] using h)
  exact ⟨t.takeWhile isNameChar, rest, fun c hc => List.mem_takeWhile_imp hc,
    by rw [← hrest, List.takeWhile_append_dropWhile]⟩

/-- Where a call is read, one opens. -/
theorem opensCall_of_callAt? {t : Text} (h : (callAt? t).isSome = true) : opensCall t = true := by
  unfold callAt? at h
  split at h
  · rename_i hrest
    simp [opensCall, hrest]
  · cases h

/-- What the reader has made sure of: in a name, that a call follows. -/
def Mode.Ready : Mode → Text → Prop
  | name, t => opensCall t = true
  | _, _ => True

/-- The characters that the scans stop at: parentheses and commas. -/
def isMark (c : Char) : Bool :=
  c == '(' || c == ')' || c == ','

/-- A quote is no mark of a call. -/
theorem ne_quote_of_isMark {c : Char} (h : isMark c = true) : c ≠ '"' := by
  rintro rfl
  exact absurd h (by decide)

/-- What a step does with the switch. -/
structure Mode.StepKeeps (mode : Mode) (before : Option Char) (c : Char) (rest : Text) : Prop where
  /-- The reader stays sure of the call it is in. -/
  ready : (mode.step before c rest).2.Ready rest
  /-- Quotes alone turn the switch. -/
  quoted : (mode.step before c rest).2.quoted = (mode.quoted != (c == '"'))
  /-- The switch is off where a call is made, at a mark or in a name. -/
  unquoted : (mode.step before c rest).1.isSyntax = true →
    mode.quoted = false ∧ (isMark c = true ∨ isNameChar c = true ∧ opensCall rest = true)

/-- Each step of the scan keeps what is known of it. -/
theorem Mode.stepKeeps {mode : Mode} {c : Char} {rest : Text} (hready : mode.Ready (c :: rest))
    (before : Option Char) : mode.StepKeeps before c rest := by
  cases mode with
  | between quoted =>
    by_cases hplain : (quoted || !startsName c || before.any blocksCall) = true
    · constructor <;> simp only [step, if_pos hplain]
      · trivial
      · rfl
      · exact fun h => absurd h (by decide)
    · have hquoted : quoted = false := by simp_all
      have hname : isNameChar c = true := isNameChar_of_startsName (by simp_all)
      have hquote : (c == '"') = false := beq_eq_false_iff_ne.mpr (ne_quote_of_isNameChar hname)
      by_cases hcall : (callAt? (c :: rest)).isSome = true
      · have hopens : opensCall rest = true :=
          opensCall_cons hname rest ▸ opensCall_of_callAt? hcall
        constructor <;> simp only [step, if_neg hplain, if_pos hcall]
        · exact hopens
        · rw [hquote, hquoted]
          rfl
        · exact fun _ => ⟨hquoted, .inr ⟨hname, hopens⟩⟩
      · constructor <;> simp only [step, if_neg hplain, if_neg hcall]
        · trivial
        · rw [hquote, hquoted]
          rfl
        · intro h
          split at h <;> exact absurd h (by decide)
  | name =>
    by_cases hname : isNameChar c = true
    · have hopens : opensCall rest = true := opensCall_cons hname rest ▸ hready
      have hquote : (c == '"') = false := beq_eq_false_iff_ne.mpr (ne_quote_of_isNameChar hname)
      constructor <;> simp only [step, if_pos hname]
      · exact hopens
      · rw [hquote]
        rfl
      · exact fun _ => ⟨rfl, .inr ⟨hname, hopens⟩⟩
    · obtain rfl : c = '(' := by simpa [Ready, opensCall, hname] using hready
      exact ⟨trivial, rfl, fun _ => ⟨rfl, .inl rfl⟩⟩
  | args depth quoted =>
    cases quoted with
    | true =>
      have hstep : (args depth true).step before c rest = (.argument, args depth (c != '"')) := rfl
      constructor <;> rw [hstep]
      · trivial
      · simp [Mode.quoted, bne]
      · exact fun h => absurd h Bool.false_ne_true
    | false =>
      by_cases hmark : isMark c = true
      · have hquote : (c == '"') = false := beq_eq_false_iff_ne.mpr (ne_quote_of_isMark hmark)
        refine ⟨?_, ?_, fun _ => ⟨rfl, .inl hmark⟩⟩ <;>
          simp only [step, hquote, Bool.false_eq_true, if_false]
        · split_ifs <;> trivial
        · split_ifs <;> rfl
      · have hstep :
            (args depth false).step before c rest = (.argument, args depth (c == '"')) := by
          simp only [isMark, Bool.or_eq_true, not_or] at hmark
          simp [step, hmark]
        constructor <;> rw [hstep]
        · trivial
        · simp [Mode.quoted]
        · exact fun h => absurd h Bool.false_ne_true

/-- The role of a character is given by a step, in a place where the switch stands as the quotes
before it say. -/
theorem getElem?_rolesFrom {mode : Mode} {front back : Text} {c : Char}
    (hready : mode.Ready (front ++ c :: back)) (before : Option Char) :
    ∃ reached : Mode, reached.Ready (c :: back) ∧ reached.quoted = toggle mode.quoted front ∧
      (rolesFrom mode before (front ++ c :: back))[front.length]? =
        some (reached.step (front.getLast?.or before) c back).1 := by
  induction front generalizing mode before with
  | nil => exact ⟨mode, hready, rfl, rfl⟩
  | cons d front ih =>
    have hkeeps : mode.StepKeeps before d (front ++ c :: back) := Mode.stepKeeps hready before
    obtain ⟨reached, hreached, hquoted, hrole⟩ := ih hkeeps.ready (some d)
    refine ⟨reached, hreached, ?_, ?_⟩
    · rw [hquoted, hkeeps.quoted, toggle_cons]
    · rw [List.cons_append, rolesFrom_cons, List.length_cons, List.getElem?_cons_succ, hrole]
      cases front <;> simp [List.getLast?_cons]

/-- Every character has a role. -/
theorem length_rolesFrom (mode : Mode) (before : Option Char) (t : Text) :
    (rolesFrom mode before t).length = t.length := by
  induction t generalizing mode before with
  | nil => rfl
  | cons c t ih => rw [rolesFrom_cons, List.length_cons, ih, List.length_cons]

/-- A text consists of a character, what is before it and what is behind it. -/
theorem eq_take_append {t : Text} {i : Nat} {c : Char} (h : t[i]? = some c) :
    t = t.take i ++ c :: t.drop (i + 1) ∧ (t.take i).length = i := by
  obtain ⟨hi, rfl⟩ := List.getElem?_eq_some_iff.mp h
  rw [← List.drop_eq_getElem_cons hi, List.take_append_drop, List.length_take,
    Nat.min_eq_left hi.le]
  exact ⟨rfl, rfl⟩

/-- The same for a position in a whole text. -/
theorem step_of_getElem?_roles {t : Text} {i : Nat} {role : Role} (h : (roles t)[i]? = some role) :
    ∃ c, t[i]? = some c ∧
      ∃ mode : Mode, mode.Ready (c :: t.drop (i + 1)) ∧ mode.quoted = toggle false (t.take i) ∧
        role = (mode.step (t.take i).getLast? c (t.drop (i + 1))).1 := by
  have hi : i < t.length := by
    rw [← length_rolesFrom (.between false) none t]
    exact (List.getElem?_eq_some_iff.mp h).1
  obtain ⟨hcut, hlength⟩ := eq_take_append (List.getElem?_eq_getElem hi)
  refine ⟨t[i], List.getElem?_eq_getElem hi, ?_⟩
  obtain ⟨mode, hready, hquoted, hrole⟩ := @getElem?_rolesFrom (.between false) (t.take i)
    (t.drop (i + 1)) t[i] trivial none
  rw [← hcut, hlength, Option.or_none] at hrole
  exact ⟨mode, hready, hquoted, Option.some.inj (h.symm.trans hrole)⟩

/-- Whether a position lies in a string that the lexer of expressions reads, quotes included. -/
def InLiteral (t : Text) (i : Nat) : Prop :=
  (Expr.literals t)[i]? = some true

/-- Whether a name and a parenthesis stand at a position, behind no longer word. -/
def isNameAt (t : Text) (i : Nat) : Bool :=
  (t[i]?).any startsName && !(t.take i).getLast?.any blocksCall && opensCall (t.drop (i + 1))

/-- Takes the text up to the parenthesis that closes `depth` open ones. Parentheses in literals do
not count. -/
def takeClosedOutside? (depth : Nat) (s : QuoteState) : Text → Option Text
  | [] => none
  | c :: rest =>
    if c == ')' && s == .outside && depth ≤ 1 then some []
    else (takeClosedOutside? (deepen depth (s != .outside) c) (s.next c) rest).map (c :: ·)

/-- That the calls of a text are found where the lexer of expressions reads no literals. -/
structure AgreesOnLiterals (t : Text) : Prop where
  /-- Nothing in a literal is part of a call, a comma after an argument or a closing parenthesis. -/
  calls_outside : ∀ i role, (roles t)[i]? = some role → role.isSyntax = true → ¬InLiteral t i
  /-- A name outside the literals, and outside other calls, is passed over only when no parenthesis
  outside the literals closes its own. -/
  names_called : ∀ i role, isNameAt t i = true → (roles t)[i]? = some role →
    role = .text ∨ role = .unclosed → ¬InLiteral t i →
      ∀ name rest, (∀ c ∈ name, isNameChar c = true) → t.drop i = name ++ '(' :: rest →
        takeClosedOutside? 1 .outside rest = none

/-- That before every parenthesis and comma a backslash takes an even number of quotes. -/
def EvenAtMarks (t : Text) : Prop :=
  ∀ i, (hi : i < t.length) → isMark t[i] = true → Even (QuoteState.outside.escapedQuotes (t.take i))

/-- The mark of a character is decided by what is before it. -/
theorem getElem?_marks (s : QuoteState) (front : Text) (c : Char) (back : Text) :
    (s.marks (front ++ c :: back))[front.length]? = some ((s.after front).covers c) := by
  induction front generalizing s with
  | nil => rfl
  | cons d front ih => exact ih (s.next d)

/-- A character other than a quote is in a literal when the walk before it has come into one. -/
theorem inLiteral_iff {t : Text} {i : Nat} {c : Char} (h : t[i]? = some c) (hc : c ≠ '"') :
    InLiteral t i ↔ QuoteState.outside.after (t.take i) ≠ .outside := by
  obtain ⟨hcut, hlength⟩ := eq_take_append h
  have hmarks := getElem?_marks .outside (t.take i) c (t.drop (i + 1))
  rw [← hcut, hlength] at hmarks
  rw [InLiteral, Expr.literals_eq, hmarks]
  simp [QuoteState.covers, hc]

/-- After an even number of escaped quotes, what the switch says of literals is right. -/
theorem toggle_take_iff {t : Text} {i : Nat} {c : Char} (h : t[i]? = some c) (hc : c ≠ '"')
    (hoff : toggle false (t.take i) = false) :
    InLiteral t i ↔ ¬Even (QuoteState.outside.escapedQuotes (t.take i)) := by
  rw [inLiteral_iff h hc, ← toggle_eq_iff]
  change _ ↔ ¬toggle false (t.take i) = _
  rw [hoff]
  simp

/-- A quote is not part of the syntax of a call. -/
theorem ne_quote_of_isSyntax {c : Char} {rest : Text}
    (h : isMark c = true ∨ isNameChar c = true ∧ opensCall rest = true) : c ≠ '"' :=
  h.elim ne_quote_of_isMark fun hname => ne_quote_of_isNameChar hname.1

/-- What makes a call is in a literal after an odd number of escaped quotes. -/
theorem inLiteral_of_isSyntax {t : Text} {i : Nat} {role : Role} (h : (roles t)[i]? = some role)
    (hmakes : role.isSyntax = true) :
    InLiteral t i ↔ ¬Even (QuoteState.outside.escapedQuotes (t.take i)) := by
  obtain ⟨c, hc, mode, hready, hquoted, rfl⟩ := step_of_getElem?_roles h
  obtain ⟨hoff, hkind⟩ := (Mode.stepKeeps hready (t.take i).getLast?).unquoted hmakes
  exact toggle_take_iff hc (ne_quote_of_isSyntax hkind) (hquoted ▸ hoff)

/-- Before a mark, an even number of quotes is escaped. -/
theorem EvenAtMarks.even {t front back : Text} {c : Char} (h : EvenAtMarks t)
    (hcut : t = front ++ c :: back) (hmark : isMark c = true) :
    Even (QuoteState.outside.escapedQuotes front) := by
  subst hcut
  have heven := h front.length (by simp) (by simpa using hmark)
  rwa [List.take_left' rfl] at heven

/-- There is no quote in a name. -/
theorem notMem_quote_of_name {name : Text} (h : ∀ c ∈ name, isNameChar c = true) : '"' ∉ name :=
  fun hquote => ne_quote_of_isNameChar (h _ hquote) rfl

/-- No quote stands between a name and its parenthesis. -/
theorem EvenAtMarks.even_of_opensCall {t front back : Text} {c : Char} (h : EvenAtMarks t)
    (hcut : t = front ++ c :: back) (hname : isNameChar c = true)
    (hopens : opensCall back = true) : Even (QuoteState.outside.escapedQuotes front) := by
  obtain ⟨name, rest, hnames, rfl⟩ := opensCall_eq_true hopens
  have hquote : '"' ∉ c :: name := by
    rw [List.mem_cons, not_or]
    exact ⟨(ne_quote_of_isNameChar hname).symm, notMem_quote_of_name hnames⟩
  have hparen : t = front ++ c :: name ++ '(' :: rest := by simp [hcut]
  have heven := h.even hparen rfl
  rwa [QuoteState.escapedQuotes_append, QuoteState.escapedQuotes_eq_zero hquote, Nat.add_zero]
    at heven

/-- Where the switch and the literals agree at every parenthesis, they close the same one. -/
theorem takeClosed?_eq_outside {depth : Nat} {quoted : Bool} {s : QuoteState} {t : Text}
    (h : ∀ front c back, t = front ++ c :: back → isMark c = true →
      toggle quoted front = (s.after front != .outside)) :
    takeClosedOutside? depth s t = takeClosed? depth quoted t := by
  induction t generalizing depth quoted s with
  | nil => rfl
  | cons c t ih =>
    have hnext := fun depth => @ih depth (quoted != (c == '"')) (s.next c)
      fun front d back hcut => h (c :: front) d back (by rw [hcut, List.cons_append])
    rw [takeClosed?_cons, takeClosedOutside?, hnext]
    by_cases hmark : isMark c = true
    · have hflag : quoted = (s != .outside) := h [] c t rfl hmark
      rw [hflag]
      cases s <;> rfl
    · simp only [isMark, Bool.or_eq_true, not_or, Bool.not_eq_true] at hmark
      have hdeepen : deepen depth quoted c = deepen depth (s != .outside) c := by
        simp [deepen, hmark]
      simp [hmark, hdeepen]

/-- Behind a name, a call is read up to its closing parenthesis. -/
theorem callAt?_append {name rest : Text} (hnames : ∀ c ∈ name, isNameChar c = true) :
    callAt? (name ++ '(' :: rest) = (takeClosed? 1 false rest).map (name, ·) := by
  have hparen : isNameChar '(' = false := rfl
  have hdrop : (name ++ '(' :: rest).dropWhile isNameChar = '(' :: rest := by
    rw [List.dropWhile_append_of_pos hnames, List.dropWhile_cons_of_neg (by simp [hparen])]
  have htake : (name ++ '(' :: rest).takeWhile isNameChar = name := by
    rw [List.takeWhile_append_of_pos hnames, List.takeWhile_cons_of_neg (by simp [hparen]),
      List.append_nil]
  rw [callAt?, hdrop, htake]
  rfl

/-- A character that is passed over stands between calls. -/
theorem Mode.between_of_passed {mode : Mode} {before : Option Char} {c : Char} {rest : Text}
    (h : (mode.step before c rest).1 = .text ∨ (mode.step before c rest).1 = .unclosed) :
    ∃ quoted, mode = between quoted := by
  cases mode with
  | between quoted => exact ⟨quoted, rfl⟩
  | name =>
    simp only [step] at h
    split at h <;> simp at h
  | args depth quoted =>
    simp only [step] at h
    split_ifs at h <;> simp at h

/-- A name that is passed over where the switch is off is not closed. -/
theorem callAt?_eq_none_of_passed {before : Option Char} {c : Char} {rest : Text}
    (hc : startsName c = true) (hbefore : before.any blocksCall = false)
    (h : ((Mode.between false).step before c rest).1 = .text ∨
      ((Mode.between false).step before c rest).1 = .unclosed) : callAt? (c :: rest) = none := by
  simp only [Mode.step, hc, hbefore, Bool.not_true, Bool.or_self, Bool.false_eq_true, if_false] at h
  split at h
  · simp at h
  · rename_i hcall
    simpa using hcall

/-- Where a name stands, it begins one, nothing before it blocks a call, and a call opens behind
it. -/
theorem isNameAt_eq_true {t : Text} {i : Nat} {c : Char} (h : isNameAt t i = true)
    (hc : t[i]? = some c) : startsName c = true ∧ (t.take i).getLast?.any blocksCall = false ∧
      opensCall (t.drop (i + 1)) = true := by
  simpa [isNameAt, hc, and_assoc] using h

/-- Where an even number of quotes is taken before every mark, the calls are found where the lexer
reads no literals. -/
theorem EvenAtMarks.agreesOnLiterals {t : Text} (h : EvenAtMarks t) : AgreesOnLiterals t where
  calls_outside := by
    intro i role hrole hmakes hinside
    refine (inLiteral_of_isSyntax hrole hmakes).mp hinside ?_
    obtain ⟨c, hc, mode, hready, -, rfl⟩ := step_of_getElem?_roles hrole
    obtain ⟨-, hmark | ⟨hname, hopens⟩⟩ :=
      (Mode.stepKeeps hready (t.take i).getLast?).unquoted hmakes
    · exact h.even (eq_take_append hc).1 hmark
    · exact h.even_of_opensCall (eq_take_append hc).1 hname hopens
  names_called := by
    intro i role hname hrole hpassed houtside name rest hnames hdrop
    obtain ⟨c, hc, mode, -, hquoted, rfl⟩ := step_of_getElem?_roles hrole
    obtain ⟨hstarts, hbefore, hopens⟩ := isNameAt_eq_true hname hc
    have hnameChar := isNameChar_of_startsName hstarts
    have hcut := (eq_take_append hc).1
    have hclosed : QuoteState.outside.after (t.take i) = .outside := by
      rw [inLiteral_iff hc (ne_quote_of_isNameChar hnameChar)] at houtside
      exact not_not.mp houtside
    have hoff : toggle false (t.take i) = false := by
      have heven := h.even_of_opensCall hcut hnameChar hopens
      rw [← toggle_eq_iff, hclosed] at heven
      exact heven
    obtain ⟨quoted, rfl⟩ := Mode.between_of_passed hpassed
    obtain rfl : quoted = false := hquoted.trans hoff
    have hnone := callAt?_eq_none_of_passed hstarts hbefore hpassed
    have htail : c :: t.drop (i + 1) = name ++ '(' :: rest := by
      rw [← hdrop]
      exact (List.append_cancel_left ((List.take_append_drop i t).trans hcut)).symm
    rw [htail, callAt?_append hnames, Option.map_eq_none_iff] at hnone
    -- Behind the parenthesis the switch and the literals start from the same side.
    rw [← hnone]
    refine takeClosed?_eq_outside fun front d back hrest hmark => ?_
    have hquote : '"' ∉ name ++ ['('] := by
      simpa using notMem_quote_of_name hnames
    have hplace : t = t.take i ++ (name ++ ['(']) ++ front ++ d :: back :=
      hcut.trans (by rw [htail, hrest]; simp)
    have heven := h.even hplace hmark
    rw [← toggle_eq_iff, toggle_append, toggle_append, QuoteState.after_append,
      QuoteState.after_append, hclosed, QuoteState.after_outside hquote] at heven
    change toggle (toggle (toggle false (t.take i)) _) _ = _ at heven
    rwa [hoff, toggle_of_notMem hquote] at heven

/-- A name and a parenthesis are not passed over as quoted where the switch is off. -/
theorem step_ne_text {before : Option Char} {c : Char} {rest : Text} (hc : startsName c = true)
    (hbefore : before.any blocksCall = false) (hopens : opensCall rest = true) :
    ((Mode.between false).step before c rest).1 ≠ .text := by
  simp only [Mode.step, hc, hbefore, hopens, Bool.not_true, Bool.or_self, Bool.false_eq_true,
    if_false, if_true]
  split <;> exact Role.noConfusion

/-- A name that is passed over as quoted is in a literal after an even number of escaped quotes. -/
theorem inLiteral_of_skipped {t : Text} {i : Nat} (hname : isNameAt t i = true)
    (h : (roles t)[i]? = some .text) :
    InLiteral t i ↔ Even (QuoteState.outside.escapedQuotes (t.take i)) := by
  obtain ⟨c, hc, mode, -, hquoted, hrole⟩ := step_of_getElem?_roles h
  obtain ⟨hstarts, hbefore, hopens⟩ := isNameAt_eq_true hname hc
  obtain ⟨quoted, rfl⟩ := Mode.between_of_passed (.inl hrole.symm)
  have hon : toggle false (t.take i) = true := by
    cases quoted with
    | true => exact hquoted.symm
    | false => exact absurd hrole.symm (step_ne_text hstarts hbefore hopens)
  rw [inLiteral_iff hc (ne_quote_of_isNameChar (isNameChar_of_startsName hstarts)), ← toggle_eq_iff]
  change _ ↔ toggle false (t.take i) = _
  rw [hon]
  cases QuoteState.outside.after (t.take i) <;> decide

/-- The roles of characters tell all that the reader of formulas finds. What it takes for part of a
call is in a literal after an odd number of escaped quotes, and a name that it passes over as quoted
is in none after an odd number. Where the number is even at every parenthesis and comma, the calls
are found where the lexer reads no literals. -/
theorem calls_and_literals (t : Text) :
    assemble t (roles t) = scan 0 none false t ∧
      (∀ i role, (roles t)[i]? = some role → role.isSyntax = true →
        (InLiteral t i ↔ ¬Even (QuoteState.outside.escapedQuotes (t.take i)))) ∧
      (∀ i, isNameAt t i = true → (roles t)[i]? = some .text →
        (InLiteral t i ↔ Even (QuoteState.outside.escapedQuotes (t.take i)))) ∧
      (EvenAtMarks t → AgreesOnLiterals t) :=
  ⟨assemble_roles t, fun _ _ => inLiteral_of_isSyntax, fun _ => inLiteral_of_skipped,
    EvenAtMarks.agreesOnLiterals⟩

/-- Escaped quotes that come in pairs between the parentheses and commas do no harm. -/
theorem calls_and_literals_pair :
    AgreesOnLiterals "\"f(x)\" == len(\"a \\\"b\\\" c\")" ∧
      InLiteral "\"f(x)\" == len(\"a \\\"b\\\" c\")" 1 ∧
      ¬InLiteral "\"f(x)\" == len(\"a \\\"b\\\" c\")" 13 := by
  obtain ⟨-, hcall, hskipped, hagrees⟩ := calls_and_literals "\"f(x)\" == len(\"a \\\"b\\\" c\")"
  refine ⟨hagrees ?_, (hskipped 1 (by decide) (by decide)).mpr (by decide), fun hinside => ?_⟩
  · unfold EvenAtMarks
    decide
  · exact (hcall 13 .opening (by decide) rfl).mp hinside (by decide)

/-- Behind an escaped quote a call is found in a literal. -/
theorem not_always_agreesOnLiterals : ¬∀ t, AgreesOnLiterals t := by
  intro h
  have hname : (roles "\"\\\"len(x)\" == a")[3]? = some .name := by decide
  exact (h "\"\\\"len(x)\" == a").calls_outside 3 .name hname rfl
    (by unfold InLiteral; decide)

end Formula

end Mudline
