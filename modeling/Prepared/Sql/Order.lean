import Prepared.Statement.Value

/-! The order of values in an index.

Values of different types come in the order `null`, numbers, texts, bytes. Numbers are
in the order of what they stand for, whatever their type; texts and bytes are in the
order of their first difference. -/
namespace Prepared.Sql

/-- The place of a value's type among the types. -/
def rank : Value → Nat
  | .null => 0
  | .integer _ | .real _ => 1
  | .text _ => 2
  | .binary _ => 3

/-- The place of a number on the line; zero for anything else. -/
def onLine : Value → Int × Nat
  | .integer i => (i.toInt, 1)
  | .real x => x.onLine
  | _ => (0, 1)

/-- Whether a value comes no later than another. -/
def noLater : Value → Value → Bool
  | .text s, .text t => decide (s ≤ t)
  | .binary a, .binary b => decide (a ≤ b)
  | v, w =>
    if rank v = rank w then decide ((onLine v).1 * (onLine w).2 ≤ (onLine w).1 * (onLine v).2)
    else decide (rank v < rank w)

end Prepared.Sql
