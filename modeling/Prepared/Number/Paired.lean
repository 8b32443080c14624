import Prepared.Number.Binary64

/-! Numbers held as the sum of two double precision numbers.

The second number is a correction of the first, so that a product keeps about twice the
digits of one number. Each factor is split into an upper and a lower half; every sum and
every product of halves is rounded on its own, in a fixed order. A product that leaves the
finite numbers on the way has no value. -/
namespace Prepared

/-- A positive number as the sum of two. -/
structure Paired where
  head : Binary64
  tail : Binary64
  deriving DecidableEq, Repr, Inhabited

namespace Paired

/-- A number that is finite. -/
def finite? (x : Binary64) : Option Binary64 :=
  if x.isFinite then some x else none

/-- The rounded sum, if it is finite. -/
def sum? (x y : Binary64) : Option Binary64 :=
  finite? (x.add y)

/-- The rounded product, if it is finite. -/
def product? (x y : Binary64) : Option Binary64 :=
  finite? (x.mul y)

/-- The upper half of a number: its 26 last bits are cleared. -/
def upper (x : Binary64) : Binary64 :=
  ⟨x.bits &&& 0xFFFFFFFFFC000000⟩

/-- A natural number of 64 bits: the nearest number, and what it is off by. -/
def ofNat (n : Nat) : Paired :=
  let head := Binary64.ofInt n
  let size := head.magnitude.1 / head.magnitude.2
  { head, tail := if size < Nat.pow 2 64 then .ofInt (n - size) else .ofInt 0 }

/-- The product of two numbers. -/
def mul? (x y : Paired) : Option Paired := do
  let upperX := upper x.head
  let lowerX ← sum? x.head upperX.negate
  let upperY := upper y.head
  let lowerY ← sum? y.head upperY.negate
  let p ← product? upperX upperY
  let q ← sum? (← product? upperX lowerY) (← product? lowerX upperY)
  let c ← sum? p q
  let rest ← sum? (← sum? (← sum? p c.negate) q) (← product? lowerX lowerY)
  let cross ← sum? (← product? x.head y.tail) (← product? x.tail y.head)
  let cc ← sum? cross rest
  let head ← sum? c cc
  let tail ← sum? (← sum? c head.negate) cc
  return { head, tail }

/-- The number nearest to the sum, infinite if it is too large. -/
def toBinary64 (x : Paired) : Binary64 :=
  (sum? x.head x.tail).getD (.infinity false)

end Paired

end Prepared
