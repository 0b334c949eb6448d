import Mudline.Proofs.Markup.RoundTrip
import Mudline.Regex.Encoding

/-!
# Bytes and the texts they spell

The bytes of a character are its first one, which tells it from all others of its length, and bytes
that go on with it, which begin no character. Bytes are read back leniently: whatever is no
character becomes a replacement character. So the bytes of a text are read back as that text, and a
byte that goes on with a character is read as a replacement character where it stands in front.
-/

namespace Mudline

open Regex (utf8Bytes utf8Text)

namespace Markup

/-- Bytes, each of them below 256. -/
abbrev Bytes := List Nat

/-- Whether a byte goes on with a character. -/
def isTail (b : Nat) : Bool :=
  0x80 ≤ b && b < 0xC0

/-- The bytes of a character behind the first. -/
def tails (c : Char) : Bytes :=
  (utf8Bytes c.toNat).tail

/-- The bytes of a character are its lead byte and its tails. -/
theorem utf8Bytes_eq (c : Char) : utf8Bytes c.toNat = leadByte c :: tails c := by
  simp only [tails, utf8Bytes, leadByte]
  split_ifs <;> rfl

/-- The bytes of the first character come first. -/
theorem utf8Text_cons (c : Char) (t : Text) :
    utf8Text (c :: t) = leadByte c :: (tails c ++ utf8Text t) := by
  rw [utf8Text, List.flatMap_cons, utf8Bytes_eq]
  rfl

/-- The bytes of texts come one after the other. -/
theorem utf8Text_append (t u : Text) : utf8Text (t ++ u) = utf8Text t ++ utf8Text u :=
  List.flatMap_append

/-- The tails of a character are tails. -/
theorem isTail_of_mem_tails {c : Char} {b : Nat} (h : b ∈ tails c) : isTail b = true := by
  have hbound (n k : Nat) : isTail (0x80 + n / k % 64) = true := by
    have hsmall : n / k % 64 < 64 := Nat.mod_lt _ (by decide)
    simp only [isTail, Bool.and_eq_true, decide_eq_true_eq]
    omega
  have hlast (n : Nat) : isTail (0x80 + n % 64) = true := by
    simpa using hbound n 1
  simp only [tails, utf8Bytes] at h
  split_ifs at h
  · cases h
  · simp only [List.tail_cons, List.mem_singleton] at h
    exact h ▸ hlast _
  · simp only [List.tail_cons, List.mem_cons, List.not_mem_nil, or_false] at h
    rcases h with rfl | rfl
    · exact hbound _ _
    · exact hlast _
  · simp only [List.tail_cons, List.mem_cons, List.not_mem_nil, or_false] at h
    rcases h with rfl | rfl | rfl
    · exact hbound _ _
    · exact hbound _ _
    · exact hlast _

/-- A character has as many tails as trail its lead byte. -/
theorem length_tails (c : Char) : (tails c).length = trailing c := by
  have hval (k : UInt32) : c.val ≤ k ↔ c.toNat ≤ k.toNat := UInt32.le_iff_toNat_le
  simp only [tails, utf8Bytes, trailing, Char.utf8Size, hval]
  change _ = (if c.toNat ≤ 127 then 1 else if c.toNat ≤ 2047 then 2 else if c.toNat ≤ 65535 then 3
    else 4) - 1
  split_ifs <;> first | rfl | omega

/-- No character begins with a byte that goes on with one. -/
theorem isTail_leadByte (c : Char) : isTail (leadByte c) = false := by
  have houtside : leadByte c < 0x80 ∨ 0xC0 ≤ leadByte c := by
    simp only [leadByte]
    split_ifs <;> omega
  simp [isTail]
  omega

/-- The characters of ASCII are single bytes. -/
theorem tails_eq_nil_iff {c : Char} : tails c = [] ↔ leadByte c < 0x80 := by
  simp only [tails, utf8Bytes, leadByte]
  split_ifs <;> simp <;> omega

/-- The code point that bytes begin with, if they begin with a character. -/
def codePoint : Bytes → Nat
  | [] => 0
  | a :: rest =>
    let at_ (i : Nat) := rest.getD i 0 - 0x80
    if a < 0x80 then a
    else if a < 0xE0 then (a - 0xC0) * 64 + at_ 0
    else if a < 0xF0 then (a - 0xE0) * 4096 + at_ 0 * 64 + at_ 1
    else (a - 0xF0) * 262144 + at_ 0 * 4096 + at_ 1 * 64 + at_ 2

/-- The character that bytes begin with. -/
def firstChar? (bs : Bytes) : Option Char :=
  let c := Char.ofNat (codePoint bs)
  if (utf8Bytes c.toNat).isPrefixOf bs then some c else none

/-- How many bytes become one replacement character where no character begins: the longest front
that a character could have begun with, and one byte if there is none. -/
def brokenLength (bs : Bytes) : Nat :=
  let begins (n : Nat) := n ≤ bs.length && (firstChar? (bs.take n ++ List.replicate 3 0x80)).isSome
  ([3, 2].find? begins).getD 1

/-- Reads bytes, where the first ones have been read already. -/
def lossyFrom (skip : Nat) : Bytes → Text
  | [] => []
  | b :: rest =>
    match skip with
    | skip + 1 => lossyFrom skip rest
    | 0 =>
      match firstChar? (b :: rest) with
      | some c => c :: lossyFrom (trailing c) rest
      | none => '\uFFFD' :: lossyFrom (brokenLength (b :: rest) - 1) rest

/-- Reads bytes leniently: what is no character becomes a replacement character. -/
def lossy (bs : Bytes) : Text :=
  lossyFrom 0 bs

/-- The bytes of a character are decoded as its code point. -/
theorem codePoint_utf8Bytes (c : Char) (rest : Bytes) :
    codePoint (utf8Bytes c.toNat ++ rest) = c.toNat := by
  have hmax : c.toNat < 0xD800 ∨ 0xDFFF < c.toNat ∧ c.toNat < 0x110000 := c.valid
  generalize c.toNat = n at hmax
  simp only [utf8Bytes]
  split_ifs with hone htwo hthree
  · simp [codePoint, hone]
  · have hlead : ¬0xC0 + n / 64 < 0x80 ∧ 0xC0 + n / 64 < 0xE0 := by omega
    simp only [List.cons_append, codePoint, hlead, List.getD_cons_zero, if_false, if_true]
    omega
  · have hlead : ¬0xE0 + n / 4096 < 0x80 ∧ ¬0xE0 + n / 4096 < 0xE0 ∧ 0xE0 + n / 4096 < 0xF0 := by
      omega
    simp only [List.cons_append, codePoint, hlead, List.getD_cons_zero, List.getD_cons_succ,
      if_false, if_true]
    omega
  · have hlead : ¬0xF0 + n / 262144 < 0x80 ∧ ¬0xF0 + n / 262144 < 0xE0 ∧
        ¬0xF0 + n / 262144 < 0xF0 := by
      omega
    simp only [List.cons_append, codePoint, hlead, List.getD_cons_zero, List.getD_cons_succ,
      if_false]
    omega

/-- The bytes of a character are decoded as the character. -/
theorem firstChar?_utf8Bytes (c : Char) (rest : Bytes) :
    firstChar? (utf8Bytes c.toNat ++ rest) = some c := by
  have hspelled : (utf8Bytes c.toNat).isPrefixOf (utf8Bytes c.toNat ++ rest) = true :=
    List.isPrefixOf_iff_prefix.mpr (List.prefix_append _ _)
  simp only [firstChar?, codePoint_utf8Bytes, Char.ofNat_toNat, hspelled, if_true]

/-- No character begins with a tail. -/
theorem firstChar?_tail {b : Nat} (hb : isTail b = true) (rest : Bytes) :
    firstChar? (b :: rest) = none := by
  rw [firstChar?]
  split
  · rename_i hspelled
    rw [List.isPrefixOf_iff_prefix, utf8Bytes_eq, List.cons_prefix_cons] at hspelled
    have hlead := isTail_leadByte (Char.ofNat (codePoint (b :: rest)))
    rw [hspelled.1, hb] at hlead
    cases hlead
  · rfl

/-- Skipped bytes make no difference to those behind them. -/
theorem lossyFrom_eq (skip : Nat) (bs : Bytes) : lossyFrom skip bs = lossy (bs.drop skip) := by
  induction skip generalizing bs with
  | zero => rfl
  | succ skip ih =>
    cases bs with
    | nil => rfl
    | cons b rest => exact ih rest

/-- No bytes are decoded as nothing. -/
@[simp] theorem lossy_nil : lossy [] = [] := rfl

/-- The bytes of a character in front are read as that character. -/
theorem lossy_utf8Bytes (c : Char) (rest : Bytes) :
    lossy (utf8Bytes c.toNat ++ rest) = c :: lossy rest := by
  have hfirst := firstChar?_utf8Bytes c rest
  have hbehind : (tails c ++ rest).drop (trailing c) = rest := List.drop_left' (length_tails c)
  rw [utf8Bytes_eq, List.cons_append] at hfirst ⊢
  rw [lossy, lossyFrom]
  simp only [hfirst]
  rw [lossyFrom_eq, hbehind]

/-- A byte that goes on with a character is read as a replacement character where it stands in
front. -/
theorem lossy_tail {b : Nat} (hb : isTail b = true) (rest : Bytes) :
    lossy (b :: rest) = '\uFFFD' :: lossy rest := by
  have hbroken : brokenLength (b :: rest) = 1 := by
    have hnone : ∀ n ∈ [3, 2], firstChar? ((b :: rest).take n ++ List.replicate 3 0x80) = none := by
      intro n hn
      obtain ⟨k, rfl⟩ : ∃ k, n = k + 1 := Nat.exists_eq_succ_of_ne_zero (by rintro rfl; simp at hn)
      rw [List.take_succ_cons, List.cons_append, firstChar?_tail hb]
    rw [brokenLength, List.find?_eq_none.mpr]
    · rfl
    · intro n hn
      simp only [hnone n hn, Option.isSome_none, Bool.and_false, Bool.false_eq_true,
        not_false_eq_true]
  rw [lossy, lossyFrom]
  simp only [firstChar?_tail hb, hbroken, Nat.sub_self]
  rfl

/-- The bytes of a text are read back. -/
theorem lossy_utf8Text (t : Text) : lossy (utf8Text t) = t := by
  induction t with
  | nil => rfl
  | cons c t ih => rw [utf8Text, List.flatMap_cons, lossy_utf8Bytes, ← utf8Text, ih]

/-- A character that is cut off, or longer than it has to be, is one broken character or several. -/
example : lossy [0xE2, 0x82] = ['\uFFFD'] ∧ lossy [0xE2, 0x82, 0x61] = ['\uFFFD', 'a'] ∧
    lossy [0xC0, 0xAF] = ['\uFFFD', '\uFFFD'] ∧
    lossy [0xED, 0xA0, 0x80] = ['\uFFFD', '\uFFFD', '\uFFFD'] ∧
    lossy [0xF0, 0x9F, 0x99, 0x82] = ['🙂'] := by
  decide

section Cuts

variable {p : Char → Bool} {q : Nat → Bool}
  (hlead : ∀ c, q (leadByte c) = p c) (htails : ∀ c, p c = true → ∀ b ∈ tails c, q b = true)

include hlead htails

/-- What decides about a character by its first byte cuts the bytes where it cuts the text. -/
theorem takeWhile_utf8Text (t : Text) :
    (utf8Text t).takeWhile q = utf8Text (t.takeWhile p) ∧
      (utf8Text t).dropWhile q = utf8Text (t.dropWhile p) := by
  induction t with
  | nil => exact ⟨rfl, rfl⟩
  | cons c t ih =>
    rw [utf8Text_cons]
    cases hc : p c with
    | true =>
      have hfirst : q (leadByte c) = true := (hlead c).trans hc
      rw [List.takeWhile_cons_of_pos hfirst, List.takeWhile_append_of_pos (htails c hc),
        List.dropWhile_cons_of_pos hfirst, List.dropWhile_append_of_pos (htails c hc), ih.1, ih.2,
        List.takeWhile_cons_of_pos hc, List.dropWhile_cons_of_pos hc, utf8Text_cons]
      exact ⟨rfl, rfl⟩
    | false =>
      have hfirst : ¬q (leadByte c) = true := by simp [hlead c, hc]
      rw [List.takeWhile_cons_of_neg hfirst, List.dropWhile_cons_of_neg hfirst,
        List.takeWhile_cons_of_neg (by simp [hc]), List.dropWhile_cons_of_neg (by simp [hc]),
        utf8Text_cons]
      exact ⟨rfl, rfl⟩

end Cuts

end Markup

end Mudline
