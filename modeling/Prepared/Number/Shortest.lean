import Prepared.Number.Binary64

/-! The shortest decimal that reads back.

The decimals with a given number of digits form a grid. For one digit, two
digits and so on, the two grid points around a number are tested against the
interval of reals that round to that number; the first grid with a hit wins, and
of two hits the nearer one, a tie going to the even digit. -/
namespace Prepared

/-- A decimal `digits · 10 ^ exponent`. -/
structure Decimal where
  digits : Nat
  exponent : Int
  deriving DecidableEq, Repr, Inhabited

namespace Decimal

/-- Moves the zeros at the end of the digits into the exponent. -/
def strip : Nat → Decimal → Decimal
  | 0, d => d
  | fuel + 1, d =>
    if d.digits ≠ 0 ∧ d.digits % 10 = 0 then strip fuel ⟨d.digits / 10, d.exponent + 1⟩ else d

/-- The exponent `p` with `10 ^ (p - 1) ≤ num / den < 10 ^ p`, for a positive
quotient that is a finite binary64 number. -/
def magnitudeOf (num den : Nat) : Int :=
  match (List.range 400).find? fun t => num < den * Nat.pow 10 t with
  | some 0 =>
    match (List.range 400).find? fun t => den ≤ num * Nat.pow 10 t with
    | some t => 1 - (t : Int)
    | none => 0
  | some t => t
  | none => 400

/-- The interval of reals that round to a number, as numerators over a common
denominator: the number itself, the lower end, the upper end. -/
def interval (x : Binary64) : Nat × Nat × Nat × Nat :=
  let m := x.significand
  let q := x.scale - 2
  let up := Nat.pow 2 q.toNat
  let below := if m = Nat.pow 2 52 ∧ x.exponentField > 1 then 1 else 2
  (4 * m * up, (4 * m - below) * up, (4 * m + 2) * up, Nat.pow 2 (-q).toNat)

/-- A decimal of `count` digits next to a positive finite number that reads back
as that number. -/
def onGrid? (x : Binary64) (count : Nat) : Option Decimal :=
  let (value, low, high, den) := interval x
  let k : Int := magnitudeOf value den - count
  let unit := den * Nat.pow 10 k.toNat
  let lift := Nat.pow 10 (-k).toNat
  let closed := x.significand % 2 == 0
  let inside (a : Nat) : Bool :=
    if closed then decide (low * lift ≤ a * unit) && decide (a * unit ≤ high * lift)
    else decide (low * lift < a * unit) && decide (a * unit < high * lift)
  let a := value * lift / unit
  let below := value * lift - a * unit
  let beyond := (a + 1) * unit - value * lift
  match inside a, inside (a + 1) with
  | true, true =>
    if below < beyond ∨ (below = beyond ∧ a % 2 = 0) then some ⟨a, k⟩ else some ⟨a + 1, k⟩
  | true, false => some ⟨a, k⟩
  | false, true => some ⟨a + 1, k⟩
  | false, false => none

/-- The shortest decimal that reads back as the magnitude of a finite number. -/
def shortest (x : Binary64) : Decimal :=
  if x.isZero then ⟨0, 0⟩
  else
    match (List.range 17).findSome? fun d => onGrid? x (d + 1) with
    | some d => strip 400 d
    | none => ⟨0, 0⟩

end Decimal

end Prepared
