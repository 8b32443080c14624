import Prepared.Operation
import Prepared.Sql.Library
import Prepared.Sql.Settings
import Prepared.Store.Reference

/-! Opening databases.

The path of a database file is checked before anything is touched; directories above it are made
as needed. Then the library opens the file and is told its settings. The waiting time is handed
over last, and one that does not fit in 31 bits is not refused but ends the whole run. How a
library opens files is not said here. -/
namespace Prepared.Sql

/-- What makes the path of a database unacceptable. -/
inductive PathFault where
  | pathTooLong
  | componentTooLong
  | isDirectory
  /-- A fault in somebody else's words. -/
  | stated (fault : String)
  deriving DecidableEq, Repr, Inhabited

namespace PathFault

/-- The text of a fault. -/
def message : PathFault → String
  | pathTooLong => "database path exceeds length limit"
  | componentTooLong => "database path contains an overlong component"
  | isDirectory => "database path must be a file, not a directory"
  | stated fault => fault

end PathFault

/-- Why a database was not opened. -/
inductive OpenError where
  /-- The directories above it cannot be made. -/
  | io (reason : String)
  /-- The database itself cannot be used. -/
  | db (reason : String)
  | invalid (fault : PathFault)
  deriving DecidableEq, Repr, Inhabited

namespace OpenError

/-- The text of an error. -/
def message : OpenError → String
  | io reason => "sqlite engine io error: " ++ reason
  | db reason => "sqlite engine db error: " ++ reason
  | invalid fault => "sqlite engine invalid config: " ++ fault.message

/-- The error as one of an engine. -/
def toEngineError (e : OpenError) : EngineError :=
  .native e.message

end OpenError

/-- How an attempt to open a database can fail. -/
inductive OpenFailure where
  | refused (e : OpenError)
  /-- The run ends here. -/
  | crashed
  deriving DecidableEq, Repr, Inhabited

namespace FileSettings

/-- The largest waiting time that can be handed over. -/
def maxTimeout : Nat := 2147483647

/-- What is wrong with the path, by its length or because a directory is there. -/
def pathFault? (s : FileSettings) (tree : Tree) : Option PathFault :=
  match Path.excess? s.path with
  | some .path => some .pathTooLong
  | some .component => some .componentTooLong
  | none => if tree.isDirectory s.path then some .isDirectory else none

/-- The tree with the directories above the path, or why they cannot be made. -/
def withParents (s : FileSettings) (tree : Tree) : Except String Tree :=
  match Path.parent? s.path with
  | none => .error "database path missing parent directory"
  | some above =>
    match tree.makeAll? above.reverse with
    | none => .error "the directory cannot be made"
    | some tree => .ok tree

end FileSettings

/-- The text that asks for foreign keys to be checked. -/
def foreignKeysText : String :=
  "PRAGMA foreign_keys = ON;"

/-- The text that sets how a database keeps its journal. -/
def JournalMode.text (m : JournalMode) : String :=
  "PRAGMA journal_mode = " ++ m.word ++ ";"

/-- The text that sets how often a database waits for its data to be safe. -/
def SyncMode.text (m : SyncMode) : String :=
  "PRAGMA synchronous = " ++ m.word ++ ";"

/-- How a library opens links to databases. It may look at files and make some. -/
structure Opener (δ : Type) where
  /-- Links that are not in use yet. -/
  Draft : Type
  /-- Opens the database at a path. -/
  connect : String → Operation (Tree × δ) String Draft
  /-- Opens a database of its own in memory. -/
  connectMemory : Operation (Tree × δ) String Draft
  /-- Runs a text for a new link. -/
  batch : Draft → String → Operation (Tree × δ) String Draft
  /-- Sets how long to wait for a busy database, in milliseconds. -/
  wait : Draft → UInt64 → Operation (Tree × δ) String Draft
  /-- Sets how many prepared texts are kept. -/
  keep : Draft → UInt64 → Draft
  /-- Takes a link into use, for an engine with a new number. -/
  register : Draft → δ → EngineId × δ

namespace Opener

open Operation

variable {δ ε : Type} (O : Opener δ)

/-- Takes a link into use. -/
def enter (x : O.Draft) : Operation (Tree × δ) ε EngineId :=
  ⟨fun s => (.ok (O.register x s.2).1, s.1, (O.register x s.2).2)⟩

/-- Checks the path of a database and makes the directories above it. -/
def makeRoom (f : FileSettings) : Operation (Tree × δ) OpenError Unit := do
  match ← read fun s => f.pathFault? s.1 with
  | some fault => throw (.invalid fault)
  | none =>
    match ← read fun s => f.withParents s.1 with
    | .error reason => throw (.io reason)
    | .ok tree => change fun s => (tree, s.2)

/-- Opens the database at a path and tells it all settings but the waiting time. -/
def configure (f : FileSettings) : Operation (Tree × δ) String O.Draft := do
  let x ← O.connect f.path
  let x ← O.batch x foreignKeysText
  let x ← O.batch x f.journalMode.text
  O.batch x f.syncMode.text

/-- All that is done for a database before the waiting time is handed over. -/
def locate (f : FileSettings) : Operation (Tree × δ) OpenError O.Draft := do
  makeRoom f
  mapError .db (O.configure f)

/-- Hands over the waiting time of a database that was found, and takes the link into use. -/
def settle (f : FileSettings) (x : O.Draft) : Operation (Tree × δ) OpenFailure EngineId :=
  if FileSettings.maxTimeout < f.busyTimeout.toNat then throw .crashed
  else do
    let x ← mapError (fun reason => .refused (.db reason)) (O.wait x f.busyTimeout)
    O.enter (O.keep x f.statementCapacity)

/-- Opens a link to a database in a file. -/
def openFile (f : FileSettings) : Operation (Tree × δ) OpenFailure EngineId := do
  let x ← mapError .refused (O.locate f)
  O.settle f x

/-- Opens a link to a database of its own in memory. -/
def openMemory : Operation (Tree × δ) OpenError EngineId := do
  let x ← mapError .db (do O.batch (← O.connectMemory) foreignKeysText)
  O.enter (O.keep x 16)

end Opener

/-- Carries out an operation on files and the library, which leaves all slots as they are. -/
def Engines.within {δ ε α : Type} (s : Engines δ) (x : Operation (Tree × δ) ε α) :
    Except ε α × Engines δ :=
  let (r, tree, library) := x.run (s.tree, s.library)
  (r, { s with tree, library })

/-- Opens a link to a database in a file for the connections of a store. -/
def Opener.openFor {δ : Type} (O : Opener δ) (f : FileSettings) :
    Op (Engines δ) OpenFailure EngineId := do
  let (r, engines) ← Operation.read fun s => s.engine.within (O.openFile f)
  Operation.change fun s => { s with engine := engines }
  match r with
  | .ok i => do
    Store.report (.databaseOpened f.path)
    return i
  | .error e => throw e

end Prepared.Sql
