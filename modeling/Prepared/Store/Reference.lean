import Prepared.Store.Acquire

/-! References to a connection.

A connection is kept by its owner, by each of its open programs and by whoever
asked for a reference from outside. When the last reference is given back the
connection closes for good and its cached statements are destroyed. -/
namespace Prepared.Store

open Operation

variable {σ ε : Type}

/-- Fails when the connection is closed. -/
def verifyOpen (c : ConnectionId) : Op σ ProgramError Unit := do
  if (← read (·.connection c)).isOpen then return ()
  throw (.usage .connectionClosed)

/-- Takes a reference; a connection without references gives none, nor does one whose counter
is full. -/
def acquireReference (c : ConnectionId) : Op σ ProgramError Unit := do
  let held := (← read (·.connection c)).references
  if held = 0 then throw (.usage .connectionReleased)
  if maxReferences ≤ held then throw (.usage .tooManyReferences)
  change (·.withConnection c fun x => { x with references := x.references + 1 })

/-- Closes a connection that has no references left, and destroys what its cache
stores. -/
def retire (E : Engine σ) (c : ConnectionId) : Op σ EngineError Unit := do
  change (·.withConnection c fun x => { x with isOpen := false })
  let drained ← onCache c Cache.drain
  trace c (.connectionReleased drained.length)
  forAll (destroy E) drained

/-- Gives back a reference; giving back more than there are does nothing. -/
def releaseReference (E : Engine σ) (c : ConnectionId) : Op σ EngineError Unit := do
  let held := (← read (·.connection c)).references
  if held = 0 then return ()
  change (·.withConnection c fun x => { x with references := held - 1 })
  if held = 1 then retire E c

/-- Whether anything still refers to a connection: a clone in use or a program that
is not dropped. -/
def isReferenced (s : Store σ) (c : ConnectionId) : Bool :=
  decide (0 < (s.connection c).clones) ||
    s.programs.positions.any fun p =>
      (s.program p).connection == c && !(s.program p).isDropped

/-- Whether anything still refers to an engine: a connection that is referred to, or a
statement that was looked up. -/
def usesEngine (s : Store σ) (i : EngineId) : Bool :=
  (s.connections.positions.any fun c => (s.connection c).engine == i && s.isReferenced c) ||
    s.compiled.positions.any fun h =>
      (s.statement h).engine == i && decide (0 < (s.statement h).borrowers)

/-- Empties the cache of a connection that nothing refers to any more, and destroys
what nothing else refers to either. -/
def dropConnectionIfUnreferenced (E : Engine σ) (c : ConnectionId) : Op σ ε Unit := do
  if ← read (·.isReferenced c) then return ()
  let drained ← onCache c Cache.drain
  forAll (dropUnreferenced E) drained

end Prepared.Store
