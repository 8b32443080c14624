import Prepared.Toml.Reader

/-! Settings of a database that is kept in a file. -/
namespace Prepared.Sql

/-- How a database keeps its journal. -/
inductive JournalMode where
  | wal | delete
  deriving DecidableEq, Repr, Inhabited

namespace JournalMode

/-- The word for a mode. -/
def word : JournalMode → String
  | wal => "wal"
  | delete => "delete"

/-- The mode of a word. -/
def ofWord? : String → Option JournalMode
  | "wal" => some wal
  | "delete" => some delete
  | _ => none

theorem ofWord?_word (m : JournalMode) : ofWord? m.word = some m := by
  cases m <;> rfl

end JournalMode

/-- How often a database waits for its data to be safe. -/
inductive SyncMode where
  | full | normal
  deriving DecidableEq, Repr, Inhabited

namespace SyncMode

/-- The word for a mode. -/
def word : SyncMode → String
  | full => "full"
  | normal => "normal"

/-- The mode of a word. -/
def ofWord? : String → Option SyncMode
  | "full" => some full
  | "normal" => some normal
  | _ => none

/-- The number for a mode. -/
def number : SyncMode → Int64
  | full => 2
  | normal => 1

theorem ofWord?_word (m : SyncMode) : ofWord? m.word = some m := by
  cases m <;> rfl

end SyncMode

/-- The settings of a database in a file. -/
structure FileSettings where
  path : String
  /-- How long to wait for a busy database, in milliseconds. -/
  busyTimeout : UInt64 := 5000
  journalMode : JournalMode := .wal
  syncMode : SyncMode := .full
  /-- How many prepared texts are kept. -/
  statementCapacity : UInt64 := 16
  deriving DecidableEq, Repr, Inhabited

namespace FileSettings

/-- The setting under a key, or its default when there is none. -/
def setting? (t : Toml) (key : String) (default : α) (f : Toml → Option α) : Option α :=
  match t.member? key with
  | some v => f v
  | none => some default

/-- The settings of a table. The path has no default, and other keys are ignored. -/
def ofToml? (t : Toml) : Option FileSettings := do
  return {
    path := ← (← t.member? "path").toString?
    busyTimeout := ← setting? t "busy_timeout_ms" 5000 Toml.toUInt64?
    journalMode := ← setting? t "journal_mode" .wal fun v => v.toChoice?.bind JournalMode.ofWord?
    syncMode := ← setting? t "sync_mode" .full fun v => v.toChoice?.bind SyncMode.ofWord?
    statementCapacity := ← setting? t "statement_cache_capacity" 16 Toml.toUInt64? }

/-- The settings of a TOML text. -/
def ofText? (text : String) : Option FileSettings :=
  (Toml.parse? text).bind ofToml?

end FileSettings

end Prepared.Sql
