import Prepared.Store.Reference

/-! Programs.

A program uses a SQL text on a connection. It obtains a compiled statement when
it is first needed; the bindings made before that wait, and are replayed in order
once there is a statement. A program keeps its connection alive until it is
closed. -/
namespace Prepared.Store

open Operation

variable {σ ε : Type}

/-- Fails when the program is closed. -/
def verifyLive (p : ProgramId) : Op σ ProgramError Unit := do
  if (← read (·.program p)).isClosed then throw (.usage .programClosed)

/-- Fails when the connection of the program or the program itself is closed. -/
def verifyUsable (p : ProgramId) : Op σ ProgramError Unit := do
  verifyOpen (← read (·.program p)).connection
  verifyLive p

/-- Applies a binding to a compiled statement. -/
def applyBinding (E : Engine σ) (h : CompiledId) (b : Binding) : Op σ EngineError Unit := do
  let x ← read (·.statement h)
  request E x.engine (.bind x.statement b.position b.value)

/-- Applies bindings in order, until one is refused. -/
def replay (E : Engine σ) (h : CompiledId) (bs : List Binding) : Op σ EngineError Unit :=
  untilError (applyBinding E h) bs

/-- Gives a statement up after its bindings were not all accepted. A failure to do
so is only reported. -/
def abandon (E : Engine σ) (c : ConnectionId) (h : CompiledId) : Op σ ε Unit := do
  let x ← read (·.statement h)
  match ← attempt (relinquish E c h) with
  | .ok () => return ()
  | .error e => report (.replayReleaseFailed x.statement e)

/-- The compiled statement of a program, obtained now if it holds none: then the
waiting bindings are replayed. When one is refused the statement is given up, and
the program is as it was before. -/
def ensureCompiled (E : Engine σ) (p : ProgramId) : Op σ EngineError CompiledId := do
  let x ← read (·.program p)
  match x.held with
  | some h => return h
  | none =>
    let h ← acquire E x.connection x.kind x.sql
    match ← attempt (replay E h x.pending) with
    | .ok () =>
      change (·.withProgram p fun x => { x with held := some h, pending := [] })
      return h
    | .error e =>
      abandon E x.connection h
      throw e

/-- Gives up the statement a program holds, if it holds one. -/
def relinquishHeld (E : Engine σ) (p : ProgramId) : Op σ EngineError Unit := do
  let x ← read (·.program p)
  match x.held with
  | some h =>
    change (·.withProgram p fun x => { x with held := none })
    relinquish E x.connection h
  | none => return ()

/-- Takes a program off the list of open programs. -/
def deregister (p : ProgramId) : Op σ ε Unit := do
  let c := (← read (·.program p)).connection
  change (·.withConnection c fun x => { x with programs := x.programs.filter (· != p) })

/-- Closes a program: its waiting bindings are forgotten, its statement is given up
and its reference to the connection given back, whichever of these fails. A
program that is closed already only forgets its bindings. -/
def tearDown (E : Engine σ) (unlist : Bool) (p : ProgramId) : Op σ EngineError Unit := do
  change (·.withProgram p fun x => { x with pending := [] })
  let x ← read (·.program p)
  if x.isClosed then return ()
  change (·.withProgram p fun x => { x with isClosed := true })
  both (relinquishHeld E p) do
    if unlist then deregister p
    releaseReference E x.connection

/-- Creates a program that is compiled when it is first needed. The text is
trimmed. -/
def createDeferred (c : ConnectionId) (sql : String) : Op σ ProgramError ProgramId := do
  verifyOpen c
  let sql := Text.trim sql
  acquireReference c
  let p ← read (·.programs.next)
  change fun s =>
    { s with programs := s.programs.push { connection := c, sql, kind := Kind.classify sql } }
  change (·.withConnection c fun x => { x with programs := x.programs ++ [p] })
  return p

/-- Binds a value at a position: at once if the program is compiled, else when it
is. -/
def bindValue (E : Engine σ) (p : ProgramId) (position : UInt32) (value : Value) :
    Op σ ProgramError Unit := do
  if position = 0 then throw (.usage .positionZero)
  verifyUsable p
  match (← read (·.program p)).held with
  | some h => mapError .engine (applyBinding E h ⟨position, value⟩)
  | none =>
    change (·.withProgram p fun x => { x with pending := x.pending ++ [⟨position, value⟩] })

/-- Binds a value that may be missing, which is a misuse. -/
def bindPresent (E : Engine σ) (p : ProgramId) (position : UInt32) (value : Option Value) :
    Op σ ProgramError Unit :=
  match value with
  | some v => bindValue E p position v
  | none => throw (.usage (.absentValue position))

/-- Forgets the waiting bindings and clears those of the compiled statement. -/
def clearBindings (E : Engine σ) (p : ProgramId) : Op σ ProgramError Unit := do
  verifyUsable p
  change (·.withProgram p fun x => { x with pending := [] })
  match (← read (·.program p)).held with
  | some h =>
    let x ← read (·.statement h)
    mapError .engine (request E x.engine (.clearBindings x.statement))
  | none => return ()

/-- Compiles a program now. -/
def compileProgram (E : Engine σ) (p : ProgramId) : Op σ ProgramError Unit := do
  verifyUsable p
  let _ ← mapError .engine (ensureCompiled E p)

/-- Executes the statement that a program holds. -/
def executeHeld (E : Engine σ) (p : ProgramId) : Op σ ProgramError Output := do
  match (← read (·.program p)).held with
  | some h =>
    let x ← read (·.statement h)
    mapError .engine (request E x.engine (.execute x.statement))
  | none => throw (.usage .notCompiled)

/-- Executes a program with its present bindings. -/
def execute (E : Engine σ) (p : ProgramId) : Op σ ProgramError Output := do
  verifyUsable p
  let _ ← mapError .engine (ensureCompiled E p)
  executeHeld E p

/-- Closes a program and takes it off the list of open programs. -/
def closeProgram (E : Engine σ) (p : ProgramId) : Op σ EngineError Unit :=
  tearDown E true p

/-- Takes a program out of use. It is closed first; a failure is only reported. -/
def dropProgram (E : Engine σ) (p : ProgramId) : Op σ ε Unit := do
  let x ← read (·.program p)
  match ← attempt (tearDown E true p) with
  | .ok () => pure ()
  | .error e => report (.programDropFailed x.sql e)
  change (·.withProgram p fun x => { x with isDropped := true })
  dropConnectionIfUnreferenced E x.connection

/-- Creates a program and compiles it. A program that cannot be compiled goes out of
use again. -/
def createCompiled (E : Engine σ) (c : ConnectionId) (sql : String) :
    Op σ ProgramError ProgramId := do
  let p ← createDeferred c sql
  match ← attempt (compileProgram E p) with
  | .ok () => return p
  | .error e =>
    dropProgram E p
    throw e

end Prepared.Store
