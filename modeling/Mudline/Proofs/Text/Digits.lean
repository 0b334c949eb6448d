import Mudline.Proofs.Text.Pieces
import Mudline.Text.Integer

/-!
# Decimal digits

The numerals that are written for natural numbers are made of the ten digits, and they are read back
as the same numbers. An integer may be written with any number of digits, and it is read where it
fits a word of the machine.
-/

namespace Mudline

namespace Text

/-- The ten digits. -/
def decimalDigits : Text :=
  "0123456789"

/-- A digit is one of the ten. -/
theorem mem_decimalDigits {c : Char} (h : isDigit c = true) : c ∈ decimalDigits := by
  have hbounds : 48 ≤ c.toNat ∧ c.toNat ≤ 57 := by
    simpa [isDigit, Char.le_def, UInt32.le_iff_toNat_le] using h
  have hall : ∀ i : Fin 58, 48 ≤ i.val → Char.ofNat i.val ∈ decimalDigits := by decide
  have hc := hall ⟨c.toNat, by omega⟩ hbounds.1
  rwa [Char.ofNat_toNat] at hc

/-- A number is written in digits. -/
theorem isDigit_of_mem_ofNat {n : Nat} {c : Char} (h : c ∈ ofNat n) : isDigit c = true := by
  have hten : 0 < 10 ∧ 10 ≤ 10 := by decide
  have hdigit : c.isDigit = true := Nat.isDigit_of_mem_toDigits hten.1 hten.2 h
  simpa [isDigit, Char.isDigit, Char.le_def] using hdigit

/-- A digit in front weighs ten times the place behind it. -/
theorem digitsValue_cons (acc : Nat) (c : Char) (t : Text) :
    digitsValue acc (c :: t) = digitsValue (acc * 10 + digitValue c) t := by
  rfl

/-- The value of digits is that of the number that they write. -/
theorem digitsValue_eq (acc : Nat) (t : Text) : digitsValue acc t = Nat.ofDigitChars 10 t acc := by
  induction t generalizing acc with
  | nil => rfl
  | cons c t ih =>
    rw [digitsValue_cons, ih, Nat.mul_comm]
    rfl

/-- A numeral of any length is read as the number it stands for. -/
theorem readDigits?_of_digits {digits : Text} (hne : digits ≠ [])
    (hdigits : ∀ c ∈ digits, isDigit c = true) :
    readDigits? digits = some (Nat.ofDigitChars 10 digits 0) := by
  rw [readDigits?, List.isEmpty_eq_false_iff.mpr hne, List.all_eq_true.mpr hdigits,
    digitsValue_eq]
  rfl

/-- The digits of a number are read back. -/
theorem readDigits?_ofNat (n : Nat) : readDigits? (ofNat n) = some n := by
  have hten : 1 < 10 ∧ 10 ≤ 10 := by decide
  have hdigits : ∀ c ∈ Nat.toDigits 10 n, isDigit c = true := fun c hc => isDigit_of_mem_ofNat hc
  have hne : Nat.toDigits 10 n ≠ [] := Nat.toDigits_ne_nil
  rw [ofNat, readDigits?_of_digits hne hdigits, Nat.ofDigitChars_toDigits hten.1 hten.2]

/-- The texts that write an integer in decimal digits, perhaps behind a minus sign. -/
inductive IsInteger : Text → Int → Prop
  /-- No sign stands before the digits. -/
  | unsigned {digits : Text} (hne : digits ≠ []) (hdigits : ∀ c ∈ digits, isDigit c = true) :
      IsInteger digits (Nat.ofDigitChars 10 digits 0)
  /-- A minus sign stands before them. -/
  | negative {digits : Text} (hne : digits ≠ []) (hdigits : ∀ c ∈ digits, isDigit c = true) :
      IsInteger ('-' :: digits) (-Nat.ofDigitChars 10 digits 0)

/-- A digit is not a character that is none. -/
theorem ne_of_isDigit {c d : Char} (hc : isDigit c = true) (hd : isDigit d = false) : c ≠ d := by
  rintro rfl
  exact Bool.noConfusion (hc.symm.trans hd)

/-- A digit is not blank. -/
theorem not_isBlank_of_isDigit {c : Char} (h : isDigit c = true) : isBlank c = false := by
  have hall : ∀ d ∈ decimalDigits, isBlank d = false := forall_mem_of_all (by decide)
  exact hall c (mem_decimalDigits h)

/-- There are neither blanks nor quotes in an integer. -/
theorem IsInteger.plain {t : Text} {z : Int} (h : IsInteger t z) :
    ∀ c ∈ t, isBlank c = false ∧ c ≠ '"' := by
  have hplain {digits : Text} (hdigits : ∀ c ∈ digits, isDigit c = true) :
      ∀ c ∈ digits, isBlank c = false ∧ c ≠ '"' :=
    fun c hc => ⟨not_isBlank_of_isDigit (hdigits c hc), ne_of_isDigit (hdigits c hc) rfl⟩
  cases h with
  | unsigned _ hdigits => exact hplain hdigits
  | negative _ hdigits => exact List.forall_mem_cons.mpr ⟨by decide, hplain hdigits⟩

/-- That an integer fits a word of the machine. -/
def FitsWord (z : Int) : Prop :=
  -(maxInt + 1) ≤ z ∧ z ≤ maxInt

instance (z : Int) : Decidable (FitsWord z) :=
  inferInstanceAs (Decidable (_ ∧ _))

/-- Digits are read as the number that they write, up to the largest. -/
theorem readNat?_of_digits {digits : Text} (hne : digits ≠ [])
    (hdigits : ∀ c ∈ digits, isDigit c = true) (max : Nat) :
    readNat? max digits = (some (Nat.ofDigitChars 10 digits 0)).filter (· ≤ max) := by
  have hread := readDigits?_of_digits hne hdigits
  obtain ⟨c, rest, rfl⟩ := List.exists_cons_of_ne_nil hne
  have hplus : c ≠ '+' := ne_of_isDigit (hdigits c List.mem_cons_self) rfl
  unfold readNat?
  rw [← hread]
  split
  · rename_i heq
    exact absurd (List.cons.inj heq).1 hplus
  · rfl

/-- An integer is read where it fits a word, and nowhere else. -/
theorem IsInteger.readInt? {t : Text} {z : Int} (h : IsInteger t z) :
    readInt? t = if FitsWord z then some z else none := by
  cases h with
  | unsigned hne hdigits =>
    have hread : Text.readInt? t = (readNat? maxInt t).map fun n => (n : Int) := by
      obtain ⟨c, rest, rfl⟩ := List.exists_cons_of_ne_nil hne
      have hminus : c ≠ '-' := ne_of_isDigit (hdigits c List.mem_cons_self) rfl
      unfold Text.readInt?
      split
      · rename_i heq
        exact absurd (List.cons.inj heq).1 hminus
      · rfl
    rw [hread, readNat?_of_digits hne hdigits]
    have hfits : FitsWord (Nat.ofDigitChars 10 t 0) ↔ Nat.ofDigitChars 10 t 0 ≤ maxInt := by
      unfold FitsWord maxInt
      omega
    by_cases h : Nat.ofDigitChars 10 t 0 ≤ maxInt <;> simp [h, hfits, Option.filter]
  | @negative digits hne hdigits =>
    rw [Text.readInt?, readDigits?_of_digits hne hdigits]
    have hfits : FitsWord (-Nat.ofDigitChars 10 digits 0) ↔
        Nat.ofDigitChars 10 digits 0 ≤ maxInt + 1 := by
      unfold FitsWord maxInt
      omega
    by_cases h : Nat.ofDigitChars 10 digits 0 ≤ maxInt + 1 <;> simp [h, hfits, Option.filter]

/-- No number is written as nothing. -/
theorem ofNat_ne_nil (n : Nat) : ofNat n ≠ [] :=
  Nat.toDigits_ne_nil

/-- There are no blanks around a number. -/
theorem trim_ofNat (n : Nat) : trim (ofNat n) = ofNat n :=
  trim_eq_self fun _ hc => not_isBlank_of_isDigit (isDigit_of_mem_ofNat hc)

/-- A number is read back where it fits an unsigned word, and nowhere else. -/
theorem readWord?_ofNat (n : Nat) : readWord? (ofNat n) = if n ≤ maxWord then some n else none := by
  have hten : 1 < 10 ∧ 10 ≤ 10 := by decide
  have hvalue : Nat.ofDigitChars 10 (ofNat n) 0 = n := Nat.ofDigitChars_toDigits hten.1 hten.2
  rw [readWord?, readNat?_of_digits (ofNat_ne_nil n) (fun _ hc => isDigit_of_mem_ofNat hc), hvalue]
  by_cases h : n ≤ maxWord <;> simp [h, Option.filter]

end Text

end Mudline
