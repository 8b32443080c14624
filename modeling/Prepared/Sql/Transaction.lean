import Prepared.Sql.Plan
import Prepared.Sql.Settings

/-! Transactions on a database that several links share.

A transaction sees the content that was committed when it first looked, with its own
changes. One of them at a time may write. Where changes are kept in a log, readers and
the writer do not meet, but a transaction that has looked at older content may not
write any more. Where a journal saves what is overwritten, the writer cannot commit while
others are looking: its attempt keeps further ones from looking until they are done. -/
namespace Prepared.Sql

/-- The content of a database after so many changes. -/
structure Snapshot where
  content : Database := []
  version : Nat := 0
  deriving DecidableEq, Repr, Inhabited

/-- A transaction that has begun. -/
structure Transaction where
  /-- What it sees, once it has looked: the content it started from and its own
  changes. -/
  view : Option Snapshot := none
  /-- Whether it is the one that writes. -/
  isWriter : Bool := false
  /-- Whether it keeps others from looking. -/
  isClosing : Bool := false
  /-- Whether it has written anything. -/
  wrote : Bool := false
  /-- Whether it has made or removed tables. -/
  altered : Bool := false
  deriving DecidableEq, Repr, Inhabited

/-- What a link meets at its database. -/
structure Surroundings where
  journal : JournalMode
  committed : Snapshot
  /-- The transactions of the other links. -/
  others : List Transaction := []
  deriving Repr

namespace Surroundings

/-- Whether a transaction that has not looked yet may look. -/
def isOpen (w : Surroundings) : Bool :=
  !w.others.any (·.isClosing)

/-- Whether a writer may commit. -/
def isFree (w : Surroundings) : Bool :=
  w.journal = .wal || !w.others.any (·.view.isSome)

end Surroundings

namespace Transaction

/-- The content that a transaction sees or would see now, if it may look. -/
def visible? (t : Transaction) (w : Surroundings) : Option Database :=
  match t.view with
  | some v => some v.content
  | none => if w.isOpen then some w.committed.content else none

/-- Looks at the database. -/
def look? (t : Transaction) (w : Surroundings) : Option Transaction :=
  match t.view with
  | some _ => some t
  | none => if w.isOpen then some { t with view := some w.committed } else none

/-- Becomes the one that writes. -/
def claim? (t : Transaction) (w : Surroundings) : Option Transaction := do
  let t ← t.look? w
  if t.isWriter then return t
  else if w.others.any fun o => o.isWriter || o.isClosing then none
  else if (t.view.map (·.version)) = some w.committed.version then
    return { t with isWriter := true }
  else none

/-- Gets ready for what a command does with the database. -/
def acquire? (t : Transaction) (w : Surroundings) : Access → Option Transaction
  | .none => some t
  | .reads => t.look? w
  | .writes => t.claim? w

/-- Claims what a command that begins a transaction asks for; tells whether that was
possible, and what has become of the transaction. One that has looked already and cannot
be alone keeps further ones from looking all the same. -/
def secure (t : Transaction) (w : Surroundings) : Claim → Bool × Transaction
  | .deferred => (true, t)
  | .immediate => ((t.claim? w).isSome, (t.claim? w).getD t)
  | .exclusive =>
    let isClosing := w.journal = .delete
    match t.claim? w with
    | none => (false, t)
    | some sole =>
      if t.isWriter then (true, t)
      else if w.isFree then (true, { sole with isClosing })
      else (false, if t.view.isSome then { t with isClosing } else t)

/-- Takes up what a command has done. -/
def record (t : Transaction) (r : Result) (alters : Bool) : Transaction :=
  { t with
    view := t.view.map fun v => { v with content := r.content }
    wrote := t.wrote || r.wrote
    altered := t.altered || (alters && r.wrote) }

/-- The committed content behind a transaction, if it may commit. -/
def commit? (t : Transaction) (w : Surroundings) : Option Snapshot :=
  if t.isWriter && !w.isFree then none
  else
    match t.view with
    | some v =>
      if t.wrote then some { v with version := v.version + 1 } else some w.committed
    | none => some w.committed

end Transaction

end Prepared.Sql
