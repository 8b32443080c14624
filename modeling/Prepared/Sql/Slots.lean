import Prepared.Statement.Error
import Prepared.Statement.Value

/-! The slots of a SQL engine.

A slot holds the text of a live statement and one value for each of its parameters,
`null` where nothing is bound. Slots are numbered from one, and no number is used
twice. -/
namespace Prepared.Sql

/-- A live statement. -/
structure Slot where
  sql : String
  /-- The bound values, that of position one first. -/
  parameters : List Value
  deriving DecidableEq, Repr, Inhabited

/-- All live statements of an engine. -/
structure Slots where
  /-- The last number given out. -/
  lastNumber : Nat := 0
  /-- The newest slot first. -/
  live : List (StatementId × Slot) := []
  deriving DecidableEq, Repr, Inhabited

namespace Slots

/-- The slot of a statement. -/
def find? (t : Slots) (s : StatementId) : Option Slot :=
  t.live.lookup s

/-- The slot of a statement, or the error that there is none. -/
def get (t : Slots) (s : StatementId) : Except EngineError Slot :=
  match t.find? s with
  | some slot => .ok slot
  | none => .error (.unknownStatement s.number)

/-- Changes the slot of a statement. -/
def modify (t : Slots) (s : StatementId) (f : Slot → Slot) : Slots :=
  { t with live := t.live.map fun e => if e.1 = s then (e.1, f e.2) else e }

/-- Adds a slot with all parameters `null`. -/
def add (t : Slots) (sql : String) (count : Nat) : StatementId × Slots :=
  let s := StatementId.after t.lastNumber
  (s, { lastNumber := s.number,
        live := (s, { sql, parameters := List.replicate count .null }) :: t.live })

/-- Removes a slot. -/
def destroy (t : Slots) (s : StatementId) : Except EngineError Unit × Slots :=
  match t.get s with
  | .ok _ => (.ok (), { t with live := t.live.filter fun e => e.1 != s })
  | .error e => (.error e, t)

/-- Why a position is refused. -/
def outOfRange (position : UInt32) (count : Nat) : EngineError :=
  .bind ("bind position " ++ toString position ++ " out of range (statement has "
    ++ toString count ++ " parameters)")

/-- Binds a value at a position, which counts from one. -/
def bind (t : Slots) (s : StatementId) (position : UInt32) (value : Value) :
    Except EngineError Unit × Slots :=
  match t.get s with
  | .error e => (.error e, t)
  | .ok slot =>
    let count := slot.parameters.length
    if 1 ≤ position.toNat ∧ position.toNat ≤ count then
      (.ok (), t.modify s fun slot =>
        { slot with parameters := slot.parameters.set (position.toNat - 1) value })
    else (.error (outOfRange position count), t)

/-- Makes all parameters of a statement `null`. -/
def clear (t : Slots) (s : StatementId) : Except EngineError Unit × Slots :=
  match t.get s with
  | .error e => (.error e, t)
  | .ok _ =>
    (.ok (), t.modify s fun slot =>
      { slot with parameters := List.replicate slot.parameters.length .null })

end Slots

end Prepared.Sql
