/-! Double precision numbers, held as their 64 bits.

A finite number is `± m · 2 ^ q` with natural `m`; all arithmetic here is exact
on `m` and `q`, and `ofRatio` is the one place where a result is rounded: to the
nearest number, of two equally near to the one with an even `m`. -/
namespace Prepared

/-- A number in the IEEE 754 binary64 format. -/
structure Binary64 where
  bits : UInt64
  deriving DecidableEq, Repr, Inhabited

namespace Binary64

/-- The biased exponent, eleven bits. -/
def exponentField (x : Binary64) : Nat :=
  x.bits.toNat / Nat.pow 2 52 % Nat.pow 2 11

/-- The fraction, fifty-two bits. -/
def fractionField (x : Binary64) : Nat :=
  x.bits.toNat % Nat.pow 2 52

/-- The sign bit. -/
def isNegative (x : Binary64) : Bool :=
  decide (Nat.pow 2 63 ≤ x.bits.toNat)

/-- Neither infinite nor a NaN. -/
def isFinite (x : Binary64) : Bool :=
  x.exponentField != 2047

/-- Not a number. -/
def isNaN (x : Binary64) : Bool :=
  x.exponentField == 2047 && x.fractionField != 0

/-- Either zero. -/
def isZero (x : Binary64) : Bool :=
  x.exponentField == 0 && x.fractionField == 0

/-- The `m` of a finite number `± m · 2 ^ q`. -/
def significand (x : Binary64) : Nat :=
  if x.exponentField = 0 then x.fractionField else Nat.pow 2 52 + x.fractionField

/-- The `q` of a finite number `± m · 2 ^ q`. -/
def scale (x : Binary64) : Int :=
  if x.exponentField = 0 then -1074 else (x.exponentField : Int) - 1075

/-- The magnitude of a finite number as a fraction. -/
def magnitude (x : Binary64) : Nat × Nat :=
  (x.significand * Nat.pow 2 x.scale.toNat, Nat.pow 2 (-x.scale).toNat)

/-- The place of a number on the line, as a fraction with a positive denominator; an
infinity is put beyond every other number. -/
def onLine (x : Binary64) : Int × Nat :=
  let (num, den) := if x.isFinite then x.magnitude else (Nat.pow 2 1024, 1)
  (if x.isNegative then -num else num, den)

/-- The number with the opposite sign. -/
def negate (x : Binary64) : Binary64 :=
  ⟨x.bits ^^^ 0x8000000000000000⟩

/-- The absolute value of a number that is no NaN. A zero stays as it is, since neither
is less than zero. -/
def absolute (x : Binary64) : Binary64 :=
  if x.isNegative && !x.isZero then x.negate else x

/-- The comparison of numbers: the two zeros are one number, and a NaN equals
nothing. -/
def same (x y : Binary64) : Bool :=
  !x.isNaN && !y.isNaN && (x.bits == y.bits || (x.isZero && y.isZero))

/-- Whether a number is exactly this integer. -/
def isInt (x : Binary64) (i : Int) : Bool :=
  x.isFinite &&
    (let size := x.magnitude
     size.1 == i.natAbs * size.2 && (i == 0 || x.isNegative == decide (i < 0)))

/-- Builds a number from a sign and the other 63 bits. -/
def ofParts (negative : Bool) (rest : Nat) : Binary64 :=
  ⟨UInt64.ofNat (rest + if negative then Nat.pow 2 63 else 0)⟩

/-- The infinity of a sign. -/
def infinity (negative : Bool) : Binary64 :=
  ofParts negative (2047 * Nat.pow 2 52)

/-- A quotient rounded to the nearest natural number, a half to the even one. -/
def roundHalfEven (num den : Nat) : Nat :=
  let whole := num / den
  let twice := 2 * (num % den)
  if twice > den ∨ (twice = den ∧ whole % 2 = 1) then whole + 1 else whole

/-- The number nearest to `± num / den`, for a positive `den`. -/
def ofRatio (negative : Bool) (num den : Nat) : Binary64 :=
  if num = 0 then ofParts negative 0
  else
    let guess : Int := (num.log2 : Int) - (den.log2 : Int) - 52
    let scaled (q : Int) : Nat × Nat := (num * Nat.pow 2 (-q).toNat, den * Nat.pow 2 q.toNat)
    let first := scaled guess
    let q : Int := max (if first.1 / first.2 < Nat.pow 2 52 then guess - 1 else guess) (-1074)
    let last := scaled q
    let m := roundHalfEven last.1 last.2
    let rest := if m < Nat.pow 2 52 then m else (q + 1074).toNat * Nat.pow 2 52 + m
    if 2047 * Nat.pow 2 52 ≤ rest then infinity negative else ofParts negative rest

/-- The number nearest to an integer. -/
def ofInt (i : Int) : Binary64 :=
  ofRatio (decide (i < 0)) i.natAbs 1

/-- The number nearest to `± significand · 10 ^ exponent`. -/
def ofDecimal (negative : Bool) (significand : Nat) (exponent : Int) : Binary64 :=
  ofRatio negative (significand * Nat.pow 10 exponent.toNat) (Nat.pow 10 (-exponent).toNat)

/-- The rounded sum of two finite numbers; a sum of zero is negative only if both
are. -/
def add (x y : Binary64) : Binary64 :=
  let (a, b) := x.onLine
  let (c, d) := y.onLine
  let sum := a * d + c * b
  if sum = 0 then ofParts (x.isNegative && y.isNegative) 0
  else ofRatio (decide (sum < 0)) sum.natAbs (b * d)

/-- The rounded product of two finite numbers. -/
def mul (x y : Binary64) : Binary64 :=
  let (a, b) := x.magnitude
  let (c, d) := y.magnitude
  ofRatio (x.isNegative != y.isNegative) (a * c) (b * d)

/-- The rounded quotient of two finite numbers, the divisor not zero. -/
def div (x y : Binary64) : Binary64 :=
  let (a, b) := x.magnitude
  let (c, d) := y.magnitude
  ofRatio (x.isNegative != y.isNegative) (a * d) (b * c)

end Binary64

end Prepared
