import Prepared.Cache
import Prepared.Engine.Basic
import Prepared.Operation
import Prepared.Settings.Basic
import Prepared.Store.Event
import Prepared.Table

/-! The store.

All connections, programs and compiled statements of a run stand in three
tables, next to the state of the engines that they use and the events they have
caused. An entry is never removed from its table, so a position names one object
for good; a position that was never given out reads as an object that is closed. -/
namespace Prepared

/-- A position in the table of connections. -/
abbrev ConnectionId := Nat

/-- A position in the table of programs. -/
abbrev ProgramId := Nat

/-- A position in the table of compiled statements. -/
abbrev CompiledId := Nat

/-- A statement that an engine compiled for a connection. -/
structure Compiled where
  engine : EngineId
  statement : StatementId
  sql : String
  connection : ConnectionId
  /-- The token of the program that uses it. -/
  inUse : Bool := false
  /-- Whether its engine was told to destroy it. -/
  destroyed : Bool := false
  /-- References kept outside, as answers to look-ups. -/
  borrowers : Nat := 0
  deriving DecidableEq, Repr

instance : Inhabited Compiled where
  default := { engine := 0, statement := ⟨1, Nat.one_pos⟩, sql := "", connection := 0,
               destroyed := true }

/-- A use of a SQL text on a connection. -/
structure Program where
  connection : ConnectionId
  sql : String
  kind : Kind
  /-- The compiled statement it holds. -/
  held : Option CompiledId := none
  /-- Bindings that wait for a compiled statement, the oldest first. -/
  pending : List Binding := []
  isClosed : Bool := false
  /-- Whether the program has gone out of use altogether. -/
  isDropped : Bool := false
  deriving DecidableEq, Repr

instance : Inhabited Program where
  default := { connection := 0, sql := "", kind := .other, isClosed := true, isDropped := true }

/-- What all clones of a connection share. -/
structure Connection where
  engine : EngineId
  logsLifecycle : Bool
  isOpen : Bool := true
  /-- The owner's reference, one for each open program, and those taken outside. -/
  references : Nat := 1
  cache : Cache CompiledId
  /-- The open programs, in the order of their creation. -/
  programs : List ProgramId := []
  /-- The clones in use. -/
  clones : Nat := 1
  deriving Repr

/-- The most references that a connection counts. -/
def maxReferences : Nat := 4294967295

namespace Connection

/-- Whether a connection gives another reference: one is left, and its counter is not full. -/
def Grants (x : Connection) : Prop :=
  x.references ≠ 0 ∧ x.references < maxReferences

instance (x : Connection) : Decidable x.Grants :=
  inferInstanceAs (Decidable (_ ∧ _))

end Connection

instance : Inhabited Connection where
  default := { engine := 0, logsLifecycle := false, isOpen := false, references := 0,
               cache := { capacity := 0 }, clones := 0 }

/-- Everything that operations act on. -/
structure Store (σ : Type) where
  engine : σ
  connections : Table Connection := {}
  programs : Table Program := {}
  compiled : Table Compiled := {}
  /-- Events, the oldest first. -/
  events : List Event := []

/-- An operation on a store. -/
abbrev Op (σ ε α : Type) := Operation (Store σ) ε α

namespace Store

open Operation

variable {σ ε : Type}

/-- The connection at a position. -/
def connection (s : Store σ) (c : ConnectionId) : Connection :=
  s.connections.get c

/-- The program at a position. -/
def program (s : Store σ) (p : ProgramId) : Program :=
  s.programs.get p

/-- The compiled statement at a position. -/
def statement (s : Store σ) (h : CompiledId) : Compiled :=
  s.compiled.get h

/-- Changes a connection. -/
def withConnection (s : Store σ) (c : ConnectionId) (f : Connection → Connection) : Store σ :=
  { s with connections := s.connections.modify c f }

/-- Changes a program. -/
def withProgram (s : Store σ) (p : ProgramId) (f : Program → Program) : Store σ :=
  { s with programs := s.programs.modify p f }

/-- Changes a compiled statement. -/
def withStatement (s : Store σ) (h : CompiledId) (f : Compiled → Compiled) : Store σ :=
  { s with compiled := s.compiled.modify h f }

/-- Reports an event. -/
def report (e : Event) : Op σ ε Unit :=
  change fun s => { s with events := s.events ++ [e] }

/-- Reports an event if the connection reports the life of its statements. -/
def trace (c : ConnectionId) (e : Event) : Op σ ε Unit := do
  if (← read (·.connection c)).logsLifecycle then report e

/-- Sends a request to an engine. -/
def request (E : Engine σ) (i : EngineId) (p : Primitive) : Op σ EngineError p.Answer :=
  ⟨fun s =>
    let (r, engine) := E.run i p s.engine
    (r, { s with engine })⟩

end Store

end Prepared
