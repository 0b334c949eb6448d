import Mudline.Number.Binary
import Mathlib.Algebra.Order.Field.Power
import Mathlib.Algebra.Order.Field.Rat
import Mathlib.Tactic.Linarith
import Mathlib.Tactic.Positivity
import Mathlib.Tactic.Ring

/-!
# The order of doubles

A finite double stands for an exact number, and finite doubles are compared as the numbers that they
stand for: the two zeros are the same number, and any other number has a single double. The doubles
are compared by their parts, first by the exponents and then by the mantissas. This is the order of
the numbers because a mantissa is as long as the exponent allows.
-/

namespace Mudline

namespace Number

open Float.Model Float.Model.UnpackedFloat

/-- The size of the number. -/
def Binary.magnitude (b : Binary) : ℚ :=
  b.mantissa * 2 ^ b.exponent

/-- The exact number. -/
def Binary.value (b : Binary) : ℚ :=
  if b.negative then -b.magnitude else b.magnitude

/-- The exact number that a finite double stands for. -/
def value (x : Float) : ℚ :=
  (Binary.ofFloat x).value

/-- That the mantissa is as long as the exponent allows: it has all its digits, or the exponent is
the least. -/
structure Binary.IsNormal (b : Binary) : Prop where
  /-- The mantissa has no more digits than there are. -/
  short : b.mantissa < 2 ^ 53
  /-- The exponent is not below the least. -/
  least : -1074 ≤ b.exponent
  /-- Above the least exponent, the mantissa has all digits. -/
  long : -1074 < b.exponent → 2 ^ 52 ≤ b.mantissa

/-- A number with a greater exponent is greater. -/
theorem Binary.IsNormal.magnitude_lt {b c : Binary} (hb : b.IsNormal) (hc : c.IsNormal)
    (hlt : b.exponent < c.exponent) : b.magnitude < c.magnitude := by
  have hshort : (b.mantissa : ℚ) < 2 ^ 53 := by exact_mod_cast hb.short
  have hlong : (2 : ℚ) ^ 52 ≤ c.mantissa := by exact_mod_cast hc.long (hb.least.trans_lt hlt)
  have hnext : (2 : ℚ) ^ (b.exponent + 1) ≤ 2 ^ c.exponent :=
    zpow_le_zpow_right₀ (by norm_num) hlt
  calc b.magnitude < 2 ^ 53 * 2 ^ b.exponent := mul_lt_mul_of_pos_right hshort (by positivity)
    _ = 2 ^ 52 * 2 ^ (b.exponent + 1) := by
      rw [zpow_add_one₀ (by norm_num)]
      ring
    _ ≤ 2 ^ 52 * 2 ^ c.exponent := mul_le_mul_of_nonneg_left hnext (by positivity)
    _ ≤ c.magnitude := mul_le_mul_of_nonneg_right hlong (by positivity)

/-- The exponents decide which number is greater, and the mantissas if the exponents do not. -/
theorem Binary.IsNormal.compare_magnitude {b c : Binary} (hb : b.IsNormal) (hc : c.IsNormal) :
    (compare b.exponent c.exponent).then (compare b.mantissa c.mantissa) =
      compare b.magnitude c.magnitude := by
  rcases lt_trichotomy b.exponent c.exponent with hlt | heq | hgt
  · rw [compare_lt_iff_lt.mpr hlt, compare_lt_iff_lt.mpr (hb.magnitude_lt hc hlt)]
    rfl
  · have hpos : (0 : ℚ) < 2 ^ c.exponent := by positivity
    rw [compare_eq_iff_eq.mpr heq, Ordering.then, magnitude, magnitude, heq]
    rcases lt_trichotomy b.mantissa c.mantissa with hlt | hsame | hgt
    · have hcast : (b.mantissa : ℚ) < c.mantissa := by exact_mod_cast hlt
      rw [compare_lt_iff_lt.mpr hlt, compare_lt_iff_lt.mpr (mul_lt_mul_of_pos_right hcast hpos)]
    · rw [compare_eq_iff_eq.mpr hsame, hsame, compare_eq_iff_eq.mpr rfl]
    · have hcast : (c.mantissa : ℚ) < b.mantissa := by exact_mod_cast hgt
      rw [compare_gt_iff_gt.mpr hgt, compare_gt_iff_gt.mpr (mul_lt_mul_of_pos_right hcast hpos)]
  · rw [compare_gt_iff_gt.mpr hgt, compare_gt_iff_gt.mpr (hc.magnitude_lt hb hgt)]
    rfl

/-- The parts of a double are normal. -/
theorem isNormal_ofFloat (x : Float) : (Binary.ofFloat x).IsNormal := by
  have hfraction : x.toBits.toNat % twoTo 52 < 2 ^ 52 := Nat.mod_lt _ (by decide)
  have htwo : twoTo 52 = 2 ^ 52 := rfl
  constructor
  · simp only [Binary.ofFloat]
    split <;> omega
  · simp only [Binary.ofFloat]
    omega
  · simp only [Binary.ofFloat]
    intro hexponent
    rw [if_neg]
    · omega
    · intro hbiased
      rw [beq_iff_eq] at hbiased
      omega

section Bits

variable (b : BitVec 64)

/-- The mantissa is the last 52 bits. -/
theorem toNat_unpackMantissa : (@unpackMantissa Format.binary64 b).toNat = b.toNat % 2 ^ 52 := by
  simp [unpackMantissa, BitVec.extractLsb, BitVec.extractLsb']

/-- The exponent is the 11 bits before them. -/
theorem toNat_unpackExponent :
    (@unpackExponent Format.binary64 b).toNat = b.toNat / 2 ^ 52 % 2 ^ 11 := by
  simp [unpackExponent, BitVec.extractLsb, BitVec.extractLsb', Nat.shiftRight_eq_div_pow]

/-- The sign is the first bit. -/
theorem toNat_unpackSign : (@unpackSign Format.binary64 b).toNat = b.toNat / 2 ^ 63 := by
  have hbits := b.isLt
  delta unpackSign
  simp [BitVec.extractLsb, BitVec.extractLsb', Nat.shiftRight_eq_div_pow]
  omega

/-- A digit before the others counts for itself. -/
theorem toNat_one_append {n : Nat} (v : BitVec n) : (1#1 ++ v).toNat = 2 ^ n + v.toNat := by
  rw [BitVec.toNat_append, ← Nat.shiftLeft_add_eq_or_of_lt v.isLt]
  simp [Nat.shiftLeft_eq]

end Bits

/-- The sign that a bit stands for. -/
def signOf (negative : Bool) : Sign :=
  if negative then .negative else .positive

/-- The sign of a double is that of its parts. -/
theorem ofBitVec_unpackSign (x : Float) :
    Sign.ofBitVec (@unpackSign Format.binary64 x.toBits.toBitVec) =
      signOf (Binary.ofFloat x).negative := by
  have hsign := toNat_unpackSign x.toBits.toBitVec
  have hbits := x.toBits.toBitVec.isLt
  change _ = x.toBits.toNat / 2 ^ 63 at hsign
  change x.toBits.toNat < 2 ^ 64 at hbits
  have hpow : twoTo 63 = 2 ^ 63 := rfl
  rw [Sign.ofBitVec, signOf, Binary.ofFloat, hpow]
  by_cases hzero : x.toBits.toNat / 2 ^ 63 = 0
  · have hbit : @unpackSign Format.binary64 x.toBits.toBitVec = 0#1 :=
      BitVec.eq_of_toNat_eq (hsign.trans hzero)
    rw [if_pos hbit, hzero]
    rfl
  · have hone : x.toBits.toNat / 2 ^ 63 = 1 := by omega
    rw [if_neg fun hbit => hzero (by rw [← hsign, hbit]; rfl), hone]
    rfl

/-- The parts of a finite double are those that it is compared by. -/
theorem unpack_eq {x : Float} (hx : x.isFinite = true) :
    x.toModel.unpack =
      if hpos : 0 < (Binary.ofFloat x).mantissa then
        .finite (signOf (Binary.ofFloat x).negative) (Binary.ofFloat x).mantissa
          (Binary.ofFloat x).exponent hpos
      else .zero (signOf (Binary.ofFloat x).negative) := by
  have hmantissa := toNat_unpackMantissa x.toBits.toBitVec
  have hexponent := toNat_unpackExponent x.toBits.toBitVec
  change _ = x.toBits.toNat % twoTo 52 at hmantissa
  change _ = x.toBits.toNat / twoTo 52 % twoTo 11 at hexponent
  change (UnpackedFloat.unpack Format.binary64 x.toBits.toBitVec).isFinite = true at hx
  change UnpackedFloat.unpack Format.binary64 x.toBits.toBitVec = _
  have hsign := ofBitVec_unpackSign x
  -- The cases are written out, since the parts of a finite number carry a proof.
  delta UnpackedFloat.unpack at hx ⊢
  dsimp only at hx ⊢
  rw [hsign] at hx ⊢
  have hlast : @unpackExponent Format.binary64 x.toBits.toBitVec ≠ -1#11 := by
    intro hlast
    rw [if_pos hlast] at hx
    split at hx <;> cases hx
  rw [if_neg hlast]
  by_cases hleast : @unpackExponent Format.binary64 x.toBits.toBitVec = 0#11
  · have hbiased : x.toBits.toNat / twoTo 52 % twoTo 11 = 0 := by
      rw [← hexponent, hleast]
      rfl
    have hparts : (Binary.ofFloat x).mantissa = x.toBits.toNat % twoTo 52 ∧
        (Binary.ofFloat x).exponent = -1074 := by
      simp [Binary.ofFloat, hbiased]
    rw [if_pos hleast]
    by_cases hnone : @unpackMantissa Format.binary64 x.toBits.toBitVec = 0#52
    · have hzero : x.toBits.toNat % twoTo 52 = 0 := by
        rw [← hmantissa, hnone]
        rfl
      rw [dif_pos hnone, dif_neg (by omega)]
    · have hpos : 0 < (Binary.ofFloat x).mantissa := by
        rw [hparts.1, ← hmantissa, Nat.pos_iff_ne_zero]
        exact fun hzero => hnone (BitVec.eq_of_toNat_eq hzero)
      rw [dif_neg hnone, dif_pos hpos, finite.injEq]
      refine ⟨rfl, hmantissa.trans hparts.1.symm, ?_⟩
      rw [hparts.2, hexponent, hbiased]
      rfl
  · have hbiased : x.toBits.toNat / twoTo 52 % twoTo 11 ≠ 0 := by
      rw [← hexponent]
      exact fun hzero => hleast (BitVec.eq_of_toNat_eq hzero)
    rw [if_neg hleast]
    have hparts : (Binary.ofFloat x).mantissa = x.toBits.toNat % twoTo 52 + twoTo 52 ∧
        (Binary.ofFloat x).exponent = (x.toBits.toNat / twoTo 52 % twoTo 11 : Nat) - 1075 := by
      have hone : 1 ≤ x.toBits.toNat / twoTo 52 % twoTo 11 := Nat.pos_of_ne_zero hbiased
      simp [Binary.ofFloat, hbiased, max_eq_left hone]
    have hpos : 0 < (Binary.ofFloat x).mantissa := by
      rw [hparts.1]
      exact Nat.add_pos_right _ (by decide)
    rw [dif_pos hpos, finite.injEq]
    refine ⟨rfl, ?_, ?_⟩
    · rw [hparts.1, ← hmantissa, toNat_one_append, Nat.add_comm]
      rfl
    · rw [hparts.2, hexponent]
      rfl

/-- A mantissa that is not zero makes the magnitude positive. -/
theorem Binary.magnitude_pos {b : Binary} (h : 0 < b.mantissa) : 0 < b.magnitude := by
  have hcast : (0 : ℚ) < b.mantissa := by exact_mod_cast h
  exact mul_pos hcast (by positivity)

/-- The mantissa zero makes the value zero. -/
theorem Binary.value_eq_zero {b : Binary} (h : ¬0 < b.mantissa) : b.value = 0 := by
  have hzero : b.mantissa = 0 := by omega
  simp [value, magnitude, hzero]

/-- Opposite numbers are compared the other way round. -/
theorem compare_neg (p q : ℚ) : compare (-p) (-q) = (compare p q).swap := by
  rcases lt_trichotomy p q with hlt | rfl | hgt
  · rw [compare_lt_iff_lt.mpr hlt, compare_gt_iff_gt.mpr (neg_lt_neg hlt)]
    rfl
  · rw [compare_eq_iff_eq.mpr rfl, compare_eq_iff_eq.mpr rfl]
    rfl
  · rw [compare_gt_iff_gt.mpr hgt, compare_lt_iff_lt.mpr (neg_lt_neg hgt)]
    rfl

/-- Finite doubles are compared as the numbers that they stand for. -/
theorem compare_unpack {x y : Float} (hx : x.isFinite = true) (hy : y.isFinite = true) :
    UnpackedFloat.compare x.toModel.unpack y.toModel.unpack =
      some (compare (value x) (value y)) := by
  rw [unpack_eq hx, unpack_eq hy, value, value]
  by_cases hxpos : 0 < (Binary.ofFloat x).mantissa
  · have hxabove := Binary.magnitude_pos hxpos
    rw [dif_pos hxpos]
    by_cases hypos : 0 < (Binary.ofFloat y).mantissa
    · have hyabove := Binary.magnitude_pos hypos
      have hmagnitude := (isNormal_ofFloat x).compare_magnitude (isNormal_ofFloat y)
      rw [dif_pos hypos, Binary.value, Binary.value]
      cases (Binary.ofFloat x).negative <;> cases (Binary.ofFloat y).negative
      · exact congrArg some hmagnitude
      · have hgt : -(Binary.ofFloat y).magnitude < (Binary.ofFloat x).magnitude := by linarith
        exact congrArg some (compare_gt_iff_gt.mpr hgt).symm
      · have hlt : -(Binary.ofFloat x).magnitude < (Binary.ofFloat y).magnitude := by linarith
        exact congrArg some (compare_lt_iff_lt.mpr hlt).symm
      · exact congrArg some ((congrArg Ordering.swap hmagnitude).trans (compare_neg _ _).symm)
    · rw [dif_neg hypos, Binary.value_eq_zero hypos, Binary.value]
      cases (Binary.ofFloat x).negative
      · exact congrArg some (compare_gt_iff_gt.mpr hxabove).symm
      · exact congrArg some (compare_lt_iff_lt.mpr (neg_lt_zero.mpr hxabove)).symm
  · rw [dif_neg hxpos, Binary.value_eq_zero hxpos]
    by_cases hypos : 0 < (Binary.ofFloat y).mantissa
    · have hyabove := Binary.magnitude_pos hypos
      rw [dif_pos hypos, Binary.value]
      cases (Binary.ofFloat y).negative
      · exact congrArg some (compare_lt_iff_lt.mpr hyabove).symm
      · exact congrArg some (compare_gt_iff_gt.mpr (neg_lt_zero.mpr hyabove)).symm
    · rw [dif_neg hypos, Binary.value_eq_zero hypos]
      exact congrArg some (compare_eq_iff_eq.mpr rfl).symm

section Finite

variable {x y : Float} (hx : x.isFinite = true) (hy : y.isFinite = true)

include hx hy

/-- A finite double is less than another if its value is. -/
theorem lt_iff_value_lt : x < y ↔ value x < value y := by
  change decide (x.toModel < y.toModel) = true ↔ _
  rw [decide_eq_true_eq]
  change (UnpackedFloat.compare x.toModel.unpack y.toModel.unpack == some .lt) = true ↔ _
  rw [compare_unpack hx hy, beq_iff_eq, Option.some.injEq, compare_lt_iff_lt]

/-- Finite doubles are equal if their values are. -/
theorem beq_iff_value_eq : (x == y) = true ↔ value x = value y := by
  change (UnpackedFloat.compare x.toModel.unpack y.toModel.unpack == some .eq) = true ↔ _
  rw [compare_unpack hx hy, beq_iff_eq, Option.some.injEq, compare_eq_iff_eq]

end Finite

end Number

end Mudline
