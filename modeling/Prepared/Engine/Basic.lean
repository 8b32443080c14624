import Prepared.Statement.Error
import Prepared.Statement.Value

/-! Engines.

An engine carries out five primitives on statements that it has compiled. It is
a function on a state of its own, so an operation that drives it is a function
too, and a statement about every engine quantifies over this type. One state may
serve several engines, told apart by number; each gives out numbers of its own. -/
namespace Prepared

/-- The number of an engine among those that share a state. -/
abbrev EngineId := Nat

/-- A request to an engine. -/
inductive Primitive where
  | compile (sql : String)
  | destroy (statement : StatementId)
  | bind (statement : StatementId) (position : UInt32) (value : Value)
  | clearBindings (statement : StatementId)
  | execute (statement : StatementId)
  deriving DecidableEq, Repr

namespace Primitive

/-- The five primitives. -/
inductive Name where
  | compile | destroy | bind | clearBindings | execute
  deriving DecidableEq, Repr, Inhabited

/-- Which primitive is requested. -/
def name : Primitive → Name
  | compile _ => .compile
  | destroy _ => .destroy
  | bind .. => .bind
  | clearBindings _ => .clearBindings
  | execute _ => .execute

/-- What a request is answered with when it succeeds. -/
abbrev Answer : Primitive → Type
  | compile _ => StatementId
  | execute _ => Output
  | _ => Unit

/-- The statement a request is about; none for a compilation. -/
def target? : Primitive → Option StatementId
  | compile _ => none
  | destroy s | bind s .. | clearBindings s | execute s => some s

end Primitive

/-- Engines over a state. A request that fails may still change the state. -/
structure Engine (σ : Type) where
  run : EngineId → (p : Primitive) → σ → Except EngineError p.Answer × σ

end Prepared
