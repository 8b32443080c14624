import Prepared.Number.Shortest

/-! JSON values.

A number keeps the digits it was written with, since what it can be read as
depends on them. A text whose escapes name half of a surrogate pair is no text
and is kept as `none`: it can stand where nobody looks at it, and nowhere else. -/
namespace Prepared

/-- A number as it is written: a sign, whole digits, and perhaps a fraction and an
exponent. -/
structure Numeral where
  negative : Bool := false
  whole : List Char
  fraction : Option (List Char) := none
  /-- The sign and the digits of the exponent. -/
  exponent : Option (Bool × List Char) := none
  deriving DecidableEq, Repr, Inhabited

/-- A JSON value. Members keep their order, and a name may come twice. -/
inductive Json where
  | null
  | bool (b : Bool)
  | number (n : Numeral)
  | text (s : Option String)
  | list (items : List Json)
  | record (members : List (Option String × Json))
  deriving Repr, Inhabited

namespace Numeral

/-- The numeral of an integer. -/
def ofInt (i : Int) : Numeral :=
  { negative := decide (i < 0), whole := Nat.toDigits 10 i.natAbs }

/-- The natural number that digits stand for. -/
def value (digits : List Char) : Nat :=
  Nat.ofDigitChars 10 digits 0

/-- The integer that a numeral without fraction and exponent stands for. A negative
zero is no integer. -/
def toInt? (n : Numeral) : Option Int :=
  match n.fraction, n.exponent with
  | none, none =>
    let size := value n.whole
    if n.negative then (if size = 0 then none else some (-(size : Int))) else some size
  | _, _ => none

/-- Takes digits into a significand as long as it fits in 64 bits; gives back the
significand and how many digits were taken. -/
def accumulate : Nat → Nat → List Char → Nat × Nat
  | acc, taken, [] => (acc, taken)
  | acc, taken, c :: cs =>
    let next := acc * 10 + (c.toNat - '0'.toNat)
    if next < Nat.pow 2 64 then accumulate next (taken + 1) cs else (acc, taken)

/-- Multiplies or divides by powers of ten, every power and every step rounded. The
largest power is the 308th; what overflows is no number. -/
def scaleByTen : Nat → Binary64 → Int → Option Binary64
  | 0, _, _ => none
  | fuel + 1, x, e =>
    if e.natAbs ≤ 308 then
      let power := Binary64.ofDecimal false 1 e.natAbs
      if 0 ≤ e then
        let y := x.mul power
        if y.isFinite then some y else none
      else some (x.div power)
    else if x.isZero then some x
    else if 0 ≤ e then none
    else scaleByTen fuel (x.div (.ofDecimal false 1 308)) (e + 308)

/-- The double precision number that a numeral is read as: digits that fit in 64
bits, rounded once, then scaled by powers of ten. Whole digits that do not fit only
raise the exponent; digits of the fraction are taken as long as they fit behind those
taken before, and the rest is ignored. An exponent that does not fit in 31 bits makes
any number but zero too large or zero. -/
def toBinary64? (n : Numeral) : Option Binary64 :=
  let (whole, taken) := accumulate 0 0 n.whole
  let dropped := n.whole.length - taken
  let (significand, places) := accumulate whole 0 (n.fraction.getD [])
  let shift : Int := (dropped : Int) - (places : Int)
  let magnitude :=
    match n.exponent with
    | none => scaleByTen 1000 (.ofInt significand) shift
    | some (negative, digits) =>
      let e := value digits
      if Nat.pow 2 31 ≤ e then
        if significand ≠ 0 ∧ !negative then none else some (.ofInt 0)
      else if negative then scaleByTen 1000 (.ofInt significand) (shift - e)
      else scaleByTen 1000 (.ofInt significand) (shift + e)
  magnitude.map fun x => if n.negative then x.negate else x

/-- A run of zeros. -/
def zeros (n : Nat) : List Char :=
  List.replicate n '0'

/-- The numeral of a finite number: the fewest digits that read back, positional
between 10 to the power of -5 and of 16, and always with a fraction or an
exponent. -/
def ofBinary64 (x : Binary64) : Numeral :=
  let d := Decimal.shortest x
  let digits := Nat.toDigits 10 d.digits
  let point : Int := digits.length + d.exponent
  if d.digits = 0 then
    { negative := x.isNegative, whole := ['0'], fraction := some ['0'] }
  else if 0 ≤ d.exponent ∧ point ≤ 16 then
    { negative := x.isNegative, whole := digits ++ zeros d.exponent.toNat, fraction := some ['0'] }
  else if 0 < point ∧ point ≤ 16 then
    { negative := x.isNegative, whole := digits.take point.toNat,
      fraction := some (digits.drop point.toNat) }
  else if -5 < point ∧ point ≤ 0 then
    { negative := x.isNegative, whole := ['0'],
      fraction := some (zeros (-point).toNat ++ digits) }
  else
    let e := point - 1
    { negative := x.isNegative, whole := digits.take 1,
      fraction := if digits.length = 1 then none else some (digits.drop 1),
      exponent := some (decide (e < 0), Nat.toDigits 10 e.natAbs) }

end Numeral

namespace Json

/-- The value of an integer. -/
def ofInt (i : Int) : Json :=
  number (.ofInt i)

/-- The value of a text. -/
def ofString (s : String) : Json :=
  text (some s)

/-- A record with well-formed names. -/
def ofMembers (members : List (String × Json)) : Json :=
  record (members.map fun m => (some m.1, m.2))

/-- The value of a double precision number; what is not finite has none and becomes
`null`. -/
def ofBinary64 (x : Binary64) : Json :=
  if x.isFinite then number (.ofBinary64 x) else null

end Json

end Prepared
