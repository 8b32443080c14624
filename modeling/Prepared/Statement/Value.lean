import Prepared.Number.Binary64

/-! Values, bindings and outputs of statements.

A value is tagged with its SQL storage type. A binding asks for a value at a
1-based parameter position. An output is what one execution gives back. -/
namespace Prepared

/-- A SQL value, as bound to a parameter or found in a row. -/
inductive Value where
  | null
  | integer (i : Int64)
  | real (x : Binary64)
  | text (s : String)
  | binary (bytes : List UInt8)
  deriving DecidableEq, Repr, Inhabited

namespace Value

/-- The stable label of a value's type. -/
def typeName : Value → String
  | null => "null"
  | integer _ => "integer"
  | real _ => "real"
  | text _ => "text"
  | binary _ => "binary"

/-- Whether two values are the same: values of different types never are, and
real numbers compare as numbers. -/
def same : Value → Value → Bool
  | null, null => true
  | integer i, integer j => i == j
  | real x, real y => x.same y
  | text s, text t => s == t
  | binary a, binary b => a == b
  | _, _ => false

/-- The value of something that may be missing: `null` when it is. -/
def ofOption (f : α → Value) : Option α → Value
  | some a => f a
  | none => null

end Value

/-- A value to be bound at a parameter position. -/
structure Binding where
  position : UInt32
  value : Value
  deriving DecidableEq, Repr, Inhabited

/-- What one execution of a statement gives back. -/
structure Output where
  /-- Names of the result columns, none for a statement without a result. -/
  columns : List String := []
  /-- Result rows. -/
  rows : List (List Value) := []
  /-- Rows changed by a statement that modifies data. -/
  changes : UInt64 := 0
  deriving DecidableEq, Repr, Inhabited

/-- The number that an engine gives to a compiled statement. Zero stands for "not
compiled" and is no statement's number. -/
structure StatementId where
  number : Nat
  number_pos : 0 < number := by omega
  deriving DecidableEq, Repr

namespace StatementId

/-- The statement with a number, if it can be one. -/
def ofNat? (n : Nat) : Option StatementId :=
  if h : 0 < n then some ⟨n, h⟩ else none

/-- The number that follows `n`. -/
def after (n : Nat) : StatementId :=
  ⟨n + 1, Nat.succ_pos n⟩

instance : ToString StatementId where
  toString s := toString s.number

theorem ext_number {s t : StatementId} (h : s.number = t.number) : s = t := by
  cases s; cases t; simp_all

end StatementId

end Prepared
