import Mudline.Proofs.Script.Layout
import Mudline.Script.Run

/-!
# Counting arguments

The keyword of a conditional may hold a number, and then it asks whether there are at least so many
arguments. A numeral may have any length, but its number is kept in one word of the machine: a
number past the largest word is taken for zero, and there are always that many arguments.
-/

namespace Mudline

namespace Script

/-- The lines that start with the keyword that asks for a number of arguments, alone or behind
`else`, and the kind of line that each of them is. -/
inductive Asks (digits : Text) : (Condition → Body → Line) → Text → Prop
  /-- The keyword stands alone. -/
  | alone {indent word rest : Text} (hindent : ∀ c ∈ indent, Text.isBlank c = true)
    (hword : Text.sameWord word argCountWord = true) (hrest : Text.StartsBlank rest) :
    Asks digits .ifLine (indent ++ (word ++ digits ++ rest))
  /-- The keyword stands behind `else`. -/
  | behindElse {indent front gap word rest : Text} (hindent : ∀ c ∈ indent, Text.isBlank c = true)
    (hfront : Text.sameWord front "else" = true) (hgap : ∀ c ∈ gap, Text.isBlank c = true)
    (hne : gap ≠ []) (hword : Text.sameWord word argCountWord = true)
    (hrest : Text.StartsBlank rest) :
    Asks digits .elseIfLine (indent ++ (front ++ (gap ++ (word ++ digits ++ rest))))

/-- The number that the machine keeps for a numeral. -/
def keptCount (digits : Text) : Nat :=
  let n := Nat.ofDigitChars 10 digits 0
  if n ≤ Text.maxWord then n else 0

section Numerals

variable {digits : Text}

/-- There are as many arguments as the machine asks for exactly if there are as many as the numeral
says, or the machine cannot keep its number. -/
theorem keptCount_le_iff {count : Nat} : keptCount digits ≤ count ↔
    Nat.ofDigitChars 10 digits 0 ≤ count ∨ Text.maxWord < Nat.ofDigitChars 10 digits 0 := by
  rw [keptCount]
  split <;> omega

variable (hne : digits ≠ []) (hdigits : ∀ c ∈ digits, Text.isDigit c = true)

include hne hdigits

/-- The line is a conditional that asks for the number that is kept. -/
theorem Asks.classify {kind : Condition → Body → Line} {line : Text} (h : Asks digits kind line) :
    ∃ body, classify line = .ok (kind (.argCount (keptCount digits)) body) := by
  have hread := Text.readDigits?_of_digits hne hdigits
  cases h with
  | @alone indent word rest hindent hword hrest =>
    have hkeyword := isKeyword_count hword hdigits
    have hcount := argCount_digits hword hread
    have hother := @ne_keyword_of_count word digits hword
    refine ⟨(readConditional (some (keptCount digits)) (Text.trim rest)).2, ?_⟩
    rw [hkeyword.classify hindent hrest]
    simp only [classifyWord, hkeyword.splitWord hrest, hother, hcount, bind, Except.bind, pure,
      Except.pure, Bool.false_eq_true, ↓reduceIte]
    rfl
  | @behindElse indent front gap word rest hindent hfront hgap hgapne hword hrest =>
    have hkeyword := isKeyword_count hword hdigits
    have hcount := argCount_digits hword hread
    have hother := @ne_keyword_of_count word digits hword
    have hgapstart : Text.StartsBlank (gap ++ (word ++ digits ++ rest)) := by
      intro c hc
      rw [List.head?_append_of_ne_nil _ hgapne] at hc
      exact hgap c (List.mem_of_head? hc)
    refine ⟨(readConditional (some (keptCount digits)) (Text.trim rest)).2, ?_⟩
    rw [classify_sameWord_else hindent hfront hgapstart, Text.trim_blanks_append hgap]
    simp only [classifyElse, hkeyword.splitWord hrest, hother, hcount, bind, Except.bind, pure,
      Except.pure, Bool.false_eq_true, ↓reduceIte]
    rfl

/-- Whatever the numeral, the condition is judged without any change to the script. It holds exactly
if there are at least as many arguments as the numeral says, or the numeral goes past the largest
word. So it counts the arguments, however many there are, exactly if the numeral does not. -/
theorem count_holds_iff {kind : Condition → Body → Line} {line : Text} (h : Asks digits kind line) :
    ∃ cond body, classify line = .ok (kind cond body) ∧
      (∀ s : Script, (s.test cond).1 = s ∧
        ((s.test cond).2 = true ↔
          Nat.ofDigitChars 10 digits 0 ≤ s.args.length ∨
            Text.maxWord < Nat.ofDigitChars 10 digits 0)) ∧
      ((∀ s : Script, (s.test cond).2 = true ↔ Nat.ofDigitChars 10 digits 0 ≤ s.args.length) ↔
        Nat.ofDigitChars 10 digits 0 ≤ Text.maxWord) := by
  obtain ⟨body, hkind⟩ := h.classify hne hdigits
  have htest (s : Script) : (s.test (.argCount (keptCount digits))).2 = true ↔
      Nat.ofDigitChars 10 digits 0 ≤ s.args.length ∨
        Text.maxWord < Nat.ofDigitChars 10 digits 0 := by
    simpa [test] using keptCount_le_iff
  refine ⟨_, body, hkind, fun s => ⟨rfl, htest s⟩, ?_⟩
  constructor
  · intro hcounts
    by_contra hpast
    -- Without arguments, the condition holds all the same.
    let bare : Script := { listing := { name := [], lines := [], labels := [] } }
    have hnone := (hcounts bare).mp ((htest bare).mpr (.inr (not_le.mp hpast)))
    change _ ≤ 0 at hnone
    omega
  · intro hkept s
    rw [htest s]
    omega

end Numerals

/-- A number of arguments may be asked for at once, with any digits. -/
theorem asks_many (digits : Text) :
    Asks digits .ifLine ("if_".toList ++ digits ++ " then echo many".toList) :=
  @Asks.alone digits [] "if_" " then echo many" (by simp) (by decide) (startsBlank_blank _)

/-- Twelve arguments are asked for behind an else, in capitals and with an open block. -/
theorem count_holds_iff_pack :
    ("12".toList ≠ [] ∧ ∀ c ∈ "12".toList, Text.isDigit c = true) ∧
      Asks "12" .elseIfLine "\tElse  IF_12 \x7b" ∧
      ∃ cond body, classify "\tElse  IF_12 \x7b" = .ok (.elseIfLine cond body) ∧
        (∀ s : Script, (s.test cond).1 = s ∧
          ((s.test cond).2 = true ↔
            Nat.ofDigitChars 10 "12".toList 0 ≤ s.args.length ∨
              Text.maxWord < Nat.ofDigitChars 10 "12".toList 0)) ∧
        ((∀ s : Script, (s.test cond).2 = true ↔
            Nat.ofDigitChars 10 "12".toList 0 ≤ s.args.length) ↔
          Nat.ofDigitChars 10 "12".toList 0 ≤ Text.maxWord) := by
  have hdigits : ∀ c ∈ "12".toList, Text.isDigit c = true := Text.forall_mem_of_all (by decide)
  have hasks : Asks "12" .elseIfLine "\tElse  IF_12 \x7b" :=
    @Asks.behindElse "12" "\t" "Else" "  " "IF_" " \x7b" (Text.forall_mem_of_all (by decide))
      (by decide) (Text.forall_mem_of_all (by decide)) (by decide) (by decide) (startsBlank_blank _)
  exact ⟨⟨by decide, hdigits⟩, hasks, count_holds_iff (by decide) hdigits hasks⟩

/-- Without a single argument there are as many arguments as the first number past the largest
word. -/
theorem not_always_counted :
    ¬ ∀ (digits : Text) (kind : Condition → Body → Line) (line : Text), digits ≠ [] →
      (∀ c ∈ digits, Text.isDigit c = true) → Asks digits kind line →
        ∃ cond body, classify line = .ok (kind cond body) ∧
          ∀ s : Script, (s.test cond).2 = true ↔ Nat.ofDigitChars 10 digits 0 ≤ s.args.length := by
  intro hall
  obtain ⟨cond, body, hkind, hcounts⟩ :=
    hall "18446744073709551616" .ifLine "if_18446744073709551616 then echo many" (by decide)
      (Text.forall_mem_of_all (by decide)) (asks_many _)
  have hread : classify "if_18446744073709551616 then echo many" =
      .ok (.ifLine (.argCount 0) (.inline "echo many")) := by decide
  obtain ⟨rfl, rfl⟩ : .argCount 0 = cond ∧ .inline "echo many" = body := by
    simpa using hread.symm.trans hkind
  have hnone := (hcounts { listing := { name := [], lines := [], labels := [] } }).mp (by decide)
  exact absurd hnone (by decide)

end Script

end Mudline
