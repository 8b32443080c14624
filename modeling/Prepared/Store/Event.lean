import Prepared.Statement.Error
import Prepared.Statement.Kind
import Prepared.Statement.Value

/-! Events.

What an operation reports besides its result: steps in the life of a compiled
statement, and failures that no caller is told of. -/
namespace Prepared

/-- How much an event matters. -/
inductive Level where
  | debug | warn
  deriving DecidableEq, Repr, Inhabited

/-- The value of a field of an event. -/
inductive Field where
  | number (n : Nat)
  | text (s : String)
  deriving DecidableEq, Repr

/-- Something worth a line in a log. -/
inductive Event where
  /-- A statement of a kind that is not shared was compiled. -/
  | compiledUncached (statement : StatementId) (kind : Kind) (sql : String)
  /-- An idle cached statement was attached to. -/
  | reused (statement : StatementId) (sql : String)
  /-- A statement was compiled because the cached one was in use. -/
  | contentionFallback (statement cached : StatementId) (sql : String)
  /-- A statement was compiled for the cache. -/
  | cached (statement : StatementId) (sql : String)
  /-- A cached statement became idle. -/
  | released (statement : StatementId)
  /-- A statement outside the cache was given up by its program. -/
  | destroyed (statement : StatementId)
  /-- An idle statement left the cache. -/
  | evicted (statement : StatementId)
  /-- A statement left the cache while a program held it. -/
  | evictedInUse (statement : StatementId)
  /-- The last reference to a connection was given back. -/
  | connectionReleased (cached : Nat)
  /-- A connection was closed. -/
  | connectionClosed (programs : Nat)
  /-- A database file was opened. -/
  | databaseOpened (path : String)
  /-- A statement that left the cache during an acquisition failed to go. -/
  | evictFailed (error : EngineError)
  /-- A statement failed to go after its bindings could not be replayed. -/
  | replayReleaseFailed (statement : StatementId) (error : EngineError)
  /-- A program that went out of use failed to close. -/
  | programDropFailed (sql : String) (error : EngineError)
  /-- A statement that nothing refers to any more failed to go. -/
  | compiledDropFailed (statement : StatementId) (error : EngineError)
  deriving DecidableEq, Repr

namespace Event

/-- The level of an event: failures are warnings, and so is contention. -/
def level : Event → Level
  | contentionFallback .. | evictFailed _ | replayReleaseFailed .. | programDropFailed ..
  | compiledDropFailed .. => .warn
  | _ => .debug

/-- The name of an event. -/
def name : Event → String
  | compiledUncached .. => "stmt_cache.handle.compiled_uncached"
  | reused .. => "stmt_cache.handle.reused"
  | contentionFallback .. => "stmt_cache.handle.contention_fallback"
  | cached .. => "stmt_cache.handle.cached"
  | released _ => "stmt_cache.handle.released"
  | destroyed _ => "stmt_cache.handle.destroyed"
  | evicted _ => "stmt_cache.handle.evicted"
  | evictedInUse _ => "stmt_cache.handle.evicted_in_use"
  | connectionReleased _ => "stmt_cache.connection.released"
  | connectionClosed _ => "stmt_cache.connection.close"
  | databaseOpened _ => "stmt_cache.sqlite.opened"
  | evictFailed _ => "stmt_cache.cache.evict_destroy_failed"
  | replayReleaseFailed .. => "stmt_cache.program.replay_release_failed"
  | programDropFailed .. => "stmt_cache.program.drop_failed"
  | compiledDropFailed .. => "stmt_cache.handle.drop_destroy_failed"

/-- The statement an event is about, if it names one. -/
def statement? : Event → Option StatementId
  | compiledUncached s .. | reused s _ | contentionFallback s .. | cached s _ | released s
  | destroyed s | evicted s | evictedInUse s | replayReleaseFailed s _
  | compiledDropFailed s _ => some s
  | _ => none

/-- The fields of an event. -/
def fields : Event → List (String × Field)
  | compiledUncached s kind sql =>
    [("statement_id", .number s.number), ("kind", .text kind.label), ("sql", .text sql)]
  | reused s sql | cached s sql => [("statement_id", .number s.number), ("sql", .text sql)]
  | contentionFallback s other sql =>
    [("statement_id", .number s.number), ("cached_statement_id", .number other.number),
     ("sql", .text sql)]
  | released s | destroyed s | evicted s | evictedInUse s => [("statement_id", .number s.number)]
  | connectionReleased count => [("cached", .number count)]
  | connectionClosed programs => [("programs", .number programs)]
  | databaseOpened path => [("path", .text path)]
  | evictFailed e => [("error", .text e.message)]
  | replayReleaseFailed s e | compiledDropFailed s e =>
    [("statement_id", .number s.number), ("error", .text e.message)]
  | programDropFailed sql e => [("sql", .text sql), ("error", .text e.message)]

end Event

end Prepared
