import Prepared.Engine.Basic
import Prepared.File.Tree
import Prepared.Sql.Slots

/-! SQL engines over a library.

What prepares and runs SQL is a library with a state of its own. It comes as a structure of
functions, and nothing is said here of what they do. An engine keeps a slot for each statement
that it has compiled, and nothing that was prepared: a text is prepared once when it is compiled,
for the number of its parameters, and each time it is executed the library gives a statement for
it anew. -/
namespace Prepared.Sql

/-- What a row has at an index, from zero on, or why it has nothing there. -/
abbrev Row := Nat → Except String Value

/-- The rows that a query gives one after the other. Whoever reads them may stop at any row. -/
inductive Cursor (δ : Type) where
  /-- There are no more. -/
  | finished (library : δ)
  | failed (reason : String) (library : δ)
  /-- A row, what the library comes to if nothing is read after it, and what follows. -/
  | row (values : Row) (stopped : δ) (rest : Cursor δ)

/-- Reads all rows, each at as many indices. -/
def Cursor.read {δ : Type} (width : Nat) : Cursor δ → Except String (List (List Value)) × δ
  | .finished d => (.ok [], d)
  | .failed reason d => (.error reason, d)
  | .row values stopped rest =>
    match (List.range width).mapM values with
    | .error reason => (.error reason, stopped)
    | .ok first =>
      match rest.read width with
      | (.ok others, d) => (.ok (first :: others), d)
      | (.error reason, d) => (.error reason, d)

/-- A library that prepares and runs SQL for links to databases. A link has the number of the
engine that it is for. -/
structure Library (δ : Type) where
  /-- Statements that were prepared, with what is bound to their parameters. -/
  Statement : Type
  /-- Prepares a text, and gives its number of parameters. -/
  prepare : EngineId → String → δ → Except String Nat × δ
  /-- Gives a statement for a text: one that it has kept, or a new one. Nothing is bound. The state is
  the one that is left if the statement is put back without being run. -/
  fetch : EngineId → String → δ → Except String Statement × δ
  /-- Binds a value at a position, which counts from one. -/
  bind : Statement → Nat → Value → Except String Statement
  /-- The titles of the columns of a statement. -/
  titles : Statement → List String
  /-- Runs a statement without columns, and gives the number of rows that were changed. -/
  execute : EngineId → Statement → δ → Except String UInt64 × δ
  /-- Runs a statement with columns. -/
  query : EngineId → Statement → δ → Cursor δ

namespace Library

variable {δ : Type} (L : Library δ)

/-- Binds values at the positions from one on. -/
def bindFrom (position : Nat) (p : L.Statement) : List Value → Except EngineError L.Statement
  | [] => .ok p
  | v :: vs =>
    match L.bind p position v with
    | .ok p => bindFrom (position + 1) p vs
    | .error reason => .error (.bind reason)

/-- Runs a statement to the end. -/
def perform (i : EngineId) (p : L.Statement) (d : δ) : Except EngineError Output × δ :=
  let titles := L.titles p
  if titles.isEmpty then
    match L.execute i p d with
    | (.ok changes, d) => (.ok { columns := [], rows := [], changes }, d)
    | (.error reason, d) => (.error (.execute reason), d)
  else
    match (L.query i p d).read titles.length with
    | (.ok rows, d) => (.ok { columns := titles, rows, changes := 0 }, d)
    | (.error reason, d) => (.error (.execute reason), d)

/-- Runs the text of a slot with the values that are bound there. -/
def run (i : EngineId) (slot : Slot) (d : δ) : Except EngineError Output × δ :=
  match L.fetch i slot.sql d with
  | (.error reason, d) => (.error (.execute reason), d)
  | (.ok p, d) =>
    match L.bindFrom 1 p slot.parameters with
    | .error e => (.error e, d)
    | .ok p => L.perform i p d

end Library

/-- What engines keep: files, the library, and the slots of each engine. -/
structure Engines (δ : Type) where
  tree : Tree := {}
  library : δ := by exact default
  slots : EngineId → Slots := fun _ => {}

namespace Engines

variable {δ : Type}

/-- Replaces the slots of an engine. -/
def withSlots (s : Engines δ) (i : EngineId) (t : Slots) : Engines δ :=
  { s with slots := fun j => if j = i then t else s.slots j }

/-- The number of live statements of an engine. -/
def liveCount (s : Engines δ) (i : EngineId) : Nat :=
  (s.slots i).live.length

end Engines

/-- The engines over the links of a library. -/
def Library.engine {δ : Type} (L : Library δ) : Engine (Engines δ) where
  run i p s :=
    match p with
    | .compile sql =>
      match L.prepare i sql s.library with
      | (.error reason, d) => (.error (.compile reason), { s with library := d })
      | (.ok count, d) =>
        let (n, t) := (s.slots i).add sql count
        (.ok n, { s with library := d }.withSlots i t)
    | .destroy n =>
      let (r, t) := (s.slots i).destroy n
      (r, s.withSlots i t)
    | .bind n position value =>
      let (r, t) := (s.slots i).bind n position value
      (r, s.withSlots i t)
    | .clearBindings n =>
      let (r, t) := (s.slots i).clear n
      (r, s.withSlots i t)
    | .execute n =>
      match (s.slots i).get n with
      | .error e => (.error e, s)
      | .ok slot =>
        let (r, d) := L.run i slot s.library
        (r, { s with library := d })

end Prepared.Sql
