/-!
# Doubles as exact numbers

A finite double is `± mantissa · 2 ^ exponent`. Whatever has to be exact (rounding to a whole
number, remainders, printing) is computed on these parts, in natural numbers.
-/

namespace Mudline.Number

/-- The power of two with the given exponent. -/
def twoTo (n : Nat) : Nat :=
  Nat.pow 2 n

/-- The sign, mantissa and exponent of a finite double. -/
structure Binary where
  /-- Whether the sign bit is set. -/
  negative : Bool
  /-- The whole number that the power of two scales. -/
  mantissa : Nat
  /-- The exponent of two. -/
  exponent : Int

/-- The parts of a finite double. -/
def Binary.ofFloat (x : Float) : Binary :=
  let bits := x.toBits.toNat
  let biased := bits / twoTo 52 % twoTo 11
  let fraction := bits % twoTo 52
  { negative := bits / twoTo 63 == 1
    mantissa := if biased == 0 then fraction else fraction + twoTo 52
    exponent := (max biased 1 : Nat) - 1075 }

/-- The double with the given parts, for a mantissa below `2 ^ 53` and an exponent of at least
`-1074`. The mantissa is first shifted as far left as both bounds allow. -/
def Binary.toFloat (b : Binary) : Float :=
  let shift := min (52 - b.mantissa.log2) (b.exponent + 1074).toNat
  let mantissa := b.mantissa * twoTo shift
  let biased := if mantissa < twoTo 52 then 0 else (b.exponent - shift + 1075).toNat
  let sign := if b.negative then twoTo 63 else 0
  Float.ofBits (UInt64.ofNat (sign + biased * twoTo 52 + mantissa % twoTo 52))

/-- The number of binary places after the point. -/
def Binary.places (b : Binary) : Nat :=
  (-b.exponent).toNat

/-- Whether the number is whole. -/
def Binary.isWhole (b : Binary) : Bool :=
  b.mantissa % twoTo b.places == 0

/-- The whole part of the magnitude. -/
def Binary.wholePart (b : Binary) : Nat :=
  b.mantissa * twoTo b.exponent.toNat / twoTo b.places

/-- Rounds a finite double to a whole number: `up` decides, from the sign and from the fraction's
numerator and denominator, whether the magnitude grows to the next whole number. -/
def roundBy (up : Bool → Nat → Nat → Bool) (x : Float) : Float :=
  let b := Binary.ofFloat x
  if !x.isFinite || 0 ≤ b.exponent then x
  else
    let unit := twoTo b.places
    let fraction := b.mantissa % unit
    let whole := b.mantissa / unit + if up b.negative fraction unit then 1 else 0
    Binary.toFloat ⟨b.negative, whole, 0⟩

/-- The greatest whole number that is not larger. -/
def floor (x : Float) : Float :=
  roundBy (fun negative fraction _ => negative && fraction != 0) x

/-- The least whole number that is not smaller. -/
def ceil (x : Float) : Float :=
  roundBy (fun negative fraction _ => !negative && fraction != 0) x

/-- The nearest whole number; a half goes away from zero. -/
def round (x : Float) : Float :=
  roundBy (fun _ fraction unit => unit ≤ 2 * fraction) x

/-- The double that is no number. -/
def nan : Float := 0.0 / 0.0

/-- The positive infinity. -/
def infinity : Float := 1.0 / 0.0

/-- The exact remainder of the truncated division, with the sign of the dividend. It is no number
when the dividend is infinite or the divisor zero, and the dividend when the divisor is infinite. -/
def remainder (x y : Float) : Float :=
  if x.isNaN || y.isNaN || x.isInf || y == 0.0 then nan
  else if y.isInf then x
  else
    let a := Binary.ofFloat x
    let b := Binary.ofFloat y
    let exponent := min a.exponent b.exponent
    let dividend := a.mantissa * twoTo (a.exponent - exponent).toNat
    let divisor := b.mantissa * twoTo (b.exponent - exponent).toNat
    Binary.toFloat ⟨a.negative, dividend % divisor, exponent⟩

/-- Rounds a quotient to the nearest whole number; a tie goes to the even one. -/
def divideToEven (numerator denominator : Nat) : Nat :=
  let quotient := numerator / denominator
  let twice := 2 * (numerator % denominator)
  if twice > denominator || (twice == denominator && quotient % 2 == 1) then quotient + 1
  else quotient

/-- The magnitude times `scale`, rounded to the nearest whole number with ties to even. -/
def Binary.scaled (b : Binary) (scale : Nat) : Nat :=
  divideToEven (b.mantissa * twoTo b.exponent.toNat * scale) (twoTo b.places)

end Mudline.Number
