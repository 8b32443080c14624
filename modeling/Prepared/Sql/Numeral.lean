import Prepared.Number.Paired

/-! Decimal numbers as the SQL dialect reads them.

Digits are taken into 64 bits as long as they fit for certain; the number is then scaled
with powers of ten, as a sum of two double precision numbers. The result is close to the
decimal but not always the nearest number: large and small powers of ten cost the last
bit now and then. -/
namespace Prepared.Sql

/-- A decimal as it is written: digits in front of the point, digits behind it, and an
exponent. -/
structure Numeral where
  whole : List Char
  fraction : List Char := []
  /-- Whether the exponent is negative, and its digits. -/
  exponent : Bool × List Char := (false, [])
  deriving DecidableEq, Repr, Inhabited

namespace Numeral

/-- The value of a digit. -/
def digit (c : Char) : Nat :=
  c.toNat - '0'.toNat

/-- A significand that is not below this takes no more digits. -/
def full : Nat := (Nat.pow 2 64 - 10) / 10

/-- Takes digits until the significand is full; gives back it and how many digits are
left. -/
def takeWhole : Nat → List Char → Nat × Nat
  | s, [] => (s, 0)
  | s, c :: cs =>
    let s := s * 10 + digit c
    if full ≤ s then (s, cs.length) else takeWhole s cs

/-- Takes digits as long as the significand is not full; gives back it and how many were
taken. -/
def takeFraction : Nat → Nat → List Char → Nat × Nat
  | s, taken, [] => (s, taken)
  | s, taken, c :: cs =>
    if s < full then takeFraction (s * 10 + digit c) (taken + 1) cs else (s, taken)

/-- The value of the digits of an exponent; one that has five digits does not grow. -/
def exponentValue (digits : List Char) : Nat :=
  digits.foldl (fun e c => if e < 10000 then e * 10 + digit c else 10000) 0

/-- Moves powers of ten from the exponent into the significand while it stays in 64
bits, or zeros from its end into a negative exponent. -/
def balance : Nat → Nat → Int → Nat × Int
  | 0, s, e => (s, e)
  | fuel + 1, s, e =>
    if 0 < e ∧ s < (Nat.pow 2 64 - 2048) / 10 then balance fuel (s * 10) (e - 1)
    else if e < 0 ∧ s % 10 = 0 then balance fuel (s / 10) (e + 1)
    else (s, e)

/-- The hundredth, the tenth and the first power of ten. -/
def powers : List Paired :=
  [⟨.ofDecimal false 1 100, .ofDecimal true 15902891109759918046 64⟩,
   ⟨.ofDecimal false 1 10, .ofInt 0⟩,
   ⟨.ofDecimal false 1 1, .ofInt 0⟩]

/-- Their inverses. -/
def inverses : List Paired :=
  [⟨.ofDecimal false 1 (-100), .ofDecimal true 199918998026028836196 (-137)⟩,
   ⟨.ofDecimal false 1 (-10), .ofDecimal true 36432197315497741579 (-46)⟩,
   ⟨.ofDecimal false 1 (-1), .ofDecimal true 55511151231257827021 (-37)⟩]

/-- The factors that make up a power of ten: hundreds first, then tens, then ones. -/
def factors (e : Int) : List Paired :=
  let n := e.natAbs
  List.flatten <| List.zipWith List.replicate [n / 100, n % 100 / 10, n % 10]
    (if 0 ≤ e then powers else inverses)

/-- The double precision number for a decimal. -/
def toBinary64 (n : Numeral) : Binary64 :=
  let (s, left) := takeWhole 0 n.whole
  let (s, taken) := takeFraction s 0 n.fraction
  if s = 0 then .ofInt 0
  else
    let written : Int := exponentValue n.exponent.2
    let e := (if n.exponent.1 then -written else written) + left - taken
    let (s, e) := balance 20 s e
    match (factors e).foldlM Paired.mul? (Paired.ofNat s) with
    | some x => x.toBinary64
    | none => .infinity false

end Numeral

end Prepared.Sql
