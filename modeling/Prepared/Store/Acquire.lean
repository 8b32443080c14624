import Prepared.Store.Basic

/-! Compiled statements: how they are obtained, given up and destroyed.

A program of a shared kind attaches to the cached statement of its text when that
one is idle, compiles one for the cache when there is none, and compiles one of
its own when the cached one is in use. A statement given up goes back to the
cache if it is still the one stored there, and is destroyed otherwise. -/
namespace Prepared.Store

open Operation

variable {σ ε : Type}

/-- Whether a compiled statement is the one its own connection's cache stores. -/
def isCached (s : Store σ) (h : CompiledId) : Bool :=
  let x := s.statement h
  (s.connection x.connection).cache.holds x.sql h

/-- Whether a compiled statement is the one that this connection's cache stores for
its text. -/
def isCachedBy (s : Store σ) (c : ConnectionId) (h : CompiledId) : Bool :=
  (s.connection c).cache.holds (s.statement h).sql h

/-- Whether a program holds a compiled statement. -/
def isHeld (s : Store σ) (h : CompiledId) : Bool :=
  s.programs.positions.any fun p => (s.program p).held == some h

/-- Changes the cache of a connection, with a result. -/
def onCache (c : ConnectionId) (f : Cache CompiledId → α × Cache CompiledId) : Op σ ε α :=
  ⟨fun s =>
    let (a, cache) := f (s.connection c).cache
    (.ok a, s.withConnection c fun x => { x with cache })⟩

/-- Compiles a text for a connection. -/
def compile (E : Engine σ) (c : ConnectionId) (sql : String) : Op σ EngineError CompiledId := do
  let engine := (← read (·.connection c)).engine
  let statement ← request E engine (.compile sql)
  let h ← read (·.compiled.next)
  change fun s =>
    { s with compiled := s.compiled.push { engine, statement, sql, connection := c } }
  return h

/-- Takes the token of a compiled statement; fails to when it is taken. -/
def claim (h : CompiledId) : Op σ ε Bool := do
  if (← read (·.statement h)).inUse then return false
  change (·.withStatement h fun x => { x with inUse := true })
  return true

/-- Gives back the token of a compiled statement. -/
def unclaim (h : CompiledId) : Op σ ε Unit :=
  change (·.withStatement h fun x => { x with inUse := false })

/-- Has a statement destroyed by its engine, once: the mark is set before the
engine is asked, and stays when the engine fails. -/
def destroy (E : Engine σ) (h : CompiledId) : Op σ EngineError Unit := do
  let x ← read (·.statement h)
  if x.destroyed then return ()
  change (·.withStatement h fun x => { x with destroyed := true })
  request E x.engine (.destroy x.statement)

/-- Deals with a statement that left the cache: an idle one is destroyed, one in
use is left to its program. -/
def discard (E : Engine σ) (h : CompiledId) : Op σ EngineError Unit := do
  let x ← read (·.statement h)
  if x.inUse then report (.evictedInUse x.statement)
  else do
    report (.evicted x.statement)
    destroy E h

/-- Compiles for the cache: the new statement is claimed and stored, and what has
to make room for it is discarded. A failure to discard is only reported. -/
def acquireMiss (E : Engine σ) (c : ConnectionId) (sql : String) : Op σ EngineError CompiledId := do
  let h ← compile E c sql
  let _ ← claim h
  onCache c fun cache => ((), cache.count .miss)
  let displaced ← onCache c fun cache => cache.insert sql h
  trace c (.cached (← read (·.statement h)).statement sql)
  match ← attempt (forAll (discard E) displaced) with
  | .ok () => return h
  | .error e => do
    report (.evictFailed e)
    return h

/-- Compiles a statement that stays outside the cache, because the cached one is
in use. -/
def acquireContended (E : Engine σ) (c : ConnectionId) (sql : String) (cached : CompiledId) :
    Op σ EngineError CompiledId := do
  let h ← compile E c sql
  onCache c fun cache => ((), cache.count .contention)
  report (.contentionFallback (← read (·.statement h)).statement
    (← read (·.statement cached)).statement sql)
  return h

/-- Compiles a statement of a kind that is not shared. -/
def acquireUncached (E : Engine σ) (c : ConnectionId) (kind : Kind) (sql : String) :
    Op σ EngineError CompiledId := do
  let h ← compile E c sql
  onCache c fun cache => ((), cache.count .uncached)
  trace c (.compiledUncached (← read (·.statement h)).statement kind sql)
  return h

/-- Obtains a compiled statement for a text. Finding the cached one counts as a use
of it, whether or not it can be attached to. -/
def acquire (E : Engine σ) (c : ConnectionId) (kind : Kind) (sql : String) :
    Op σ EngineError CompiledId := do
  if kind.isShared then
    match ← onCache c fun cache => (cache.peek? sql, cache.touch sql) with
    | some h =>
      if ← claim h then do
        onCache c fun cache => ((), cache.count .hit)
        trace c (.reused (← read (·.statement h)).statement sql)
        return h
      else acquireContended E c sql h
    | none => acquireMiss E c sql
  else acquireUncached E c kind sql

/-- Gives up a compiled statement of a connection: the cached one becomes idle, any
other is destroyed. -/
def relinquish (E : Engine σ) (c : ConnectionId) (h : CompiledId) : Op σ EngineError Unit := do
  let x ← read (·.statement h)
  if ← read (·.isCachedBy c h) then do
    unclaim h
    trace c (.released x.statement)
  else do
    trace c (.destroyed x.statement)
    destroy E h

/-- Destroys a statement that nothing refers to any more; a failure is only
reported. -/
def dropUnreferenced (E : Engine σ) (h : CompiledId) : Op σ ε Unit := do
  let x ← read (·.statement h)
  let referenced ← read fun s => s.isCached h || s.isHeld h || decide (0 < x.borrowers)
  if referenced then return ()
  match ← attempt (destroy E h) with
  | .ok () => return ()
  | .error e => report (.compiledDropFailed x.statement e)

end Prepared.Store
