import Prepared.Store.Program

/-! Connections.

A connection owns a cache of compiled statements and the list of its open
programs. Closing it closes those programs and gives back the owner's reference;
whatever fails on the way, the rest is done, and the first failure is the answer. -/
namespace Prepared.Store

open Operation

variable {σ ε : Type}

/-- Adds an open connection with an empty cache. -/
def addConnection (engine : EngineId) (settings : Settings) : Op σ ε ConnectionId := do
  let c ← read (·.connections.next)
  change fun s =>
    { s with
      connections := s.connections.push
        { engine, logsLifecycle := settings.logsLifecycle,
          cache := { capacity := settings.capacity.toNat } } }
  return c

/-- Opens a connection with valid settings. -/
def openConnection (engine : EngineId) (settings : Settings) :
    Op σ SettingsError ConnectionId :=
  match settings.validate with
  | .ok settings => addConnection engine settings
  | .error e => throw e

/-- Opens a connection with the default settings. -/
def openDefault (engine : EngineId) : Op σ ε ConnectionId :=
  addConnection engine {}

/-- Makes another clone of a connection. -/
def cloneConnection (c : ConnectionId) : Op σ ε Unit :=
  change (·.withConnection c fun x => { x with clones := x.clones + 1 })

/-- Takes a clone of a connection out of use, which does not close it. -/
def dropConnection (E : Engine σ) (c : ConnectionId) : Op σ ε Unit := do
  change (·.withConnection c fun x => { x with clones := x.clones - 1 })
  dropConnectionIfUnreferenced E c

/-- The compiled statement cached for a text, which is kept by the caller from now
on. Looking it up is no use of it. -/
def lookup (c : ConnectionId) (sql : String) : Op σ ε (Option CompiledId) := do
  match (← read (·.connection c)).cache.peek? (Text.trim sql) with
  | some h =>
    change (·.withStatement h fun x => { x with borrowers := x.borrowers + 1 })
    return some h
  | none => return none

/-- Gives back a compiled statement that was looked up. -/
def giveBack (E : Engine σ) (h : CompiledId) : Op σ ε Unit := do
  change (·.withStatement h fun x => { x with borrowers := x.borrowers - 1 })
  dropUnreferenced E h

/-- Removes the cached statement of a text; tells whether there was one. An idle one
is destroyed, one in use is left to its program. -/
def evict (E : Engine σ) (c : ConnectionId) (sql : String) : Op σ EngineError Bool := do
  match ← onCache c fun cache => cache.erase (Text.trim sql) with
  | some h =>
    discard E h
    return true
  | none => return false

/-- Changes the capacity of the cache, which can only grow. -/
def setCapacity (E : Engine σ) (c : ConnectionId) (size : Nat) : Op σ ProgramError Unit := do
  if maxCapacity < size then throw (.usage (.capacityTooLarge size maxCapacity))
  let present := (← read (·.connection c)).cache.capacity
  if size < present then throw (.usage (.capacityShrinks present size))
  let displaced ← onCache c fun cache => cache.resize size
  mapError .engine (forAll (discard E) displaced)

/-- Closes a connection, sweeping the given programs in the given order. A
connection that is closed already is left alone. -/
def closeInOrder (E : Engine σ) (c : ConnectionId) (order : List ProgramId) :
    Op σ EngineError Unit := do
  if (← read (·.connection c)).isOpen then do
    change (·.withConnection c fun x => { x with isOpen := false, programs := [] })
    trace c (.connectionClosed order.length)
    both (forAll (tearDown E false) order) (releaseReference E c)

/-- Closes a connection, sweeping its programs in the order of their creation. -/
def closeConnection (E : Engine σ) (c : ConnectionId) : Op σ EngineError Unit := do
  closeInOrder E c (← read (·.connection c)).programs

end Prepared.Store
