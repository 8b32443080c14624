/-! Errors of engines and of the statement cache.

An engine reports that a primitive failed; the cache passes such an error on
unchanged. A usage error is raised before anything has happened, when a caller
breaks a rule. -/
namespace Prepared

/-- A failure reported by an engine. -/
inductive EngineError where
  /-- A SQL text could not be compiled. -/
  | compile (reason : String)
  /-- A binding was refused. -/
  | bind (reason : String)
  /-- An execution failed. -/
  | execute (reason : String)
  /-- No live statement has this number. -/
  | unknownStatement (number : Nat)
  /-- Anything else. -/
  | native (reason : String)
  deriving DecidableEq, Repr, Inhabited

namespace EngineError

/-- The text of an engine error. -/
def message : EngineError → String
  | compile reason => "sql compile failed: " ++ reason
  | bind reason => "bind failed: " ++ reason
  | execute reason => "statement execution failed: " ++ reason
  | unknownStatement number => "unknown native statement: " ++ toString number
  | native reason => "native engine error: " ++ reason

end EngineError

/-- A rule that a caller of a connection or a program has broken. -/
inductive Misuse where
  | connectionClosed
  | programClosed
  /-- Every reference to the connection has been given back. -/
  | connectionReleased
  /-- The counter of a connection's references is full. -/
  | tooManyReferences
  /-- Positions count from one. -/
  | positionZero
  /-- A text or binary binding was asked for without a value. -/
  | absentValue (position : UInt32)
  /-- A capacity above the bound. -/
  | capacityTooLarge (size bound : Nat)
  /-- A capacity below the present one. -/
  | capacityShrinks (present size : Nat)
  /-- A program has no compiled statement to execute. -/
  | notCompiled
  /-- A rule in the caller's own words. -/
  | stated (rule : String)
  deriving DecidableEq, Repr, Inhabited

namespace Misuse

/-- The text of a broken rule. -/
def message : Misuse → String
  | connectionClosed => "connection is closed"
  | programClosed => "program is closed"
  | connectionReleased => "attempt to re-open an already-closed connection"
  | tooManyReferences => "connection reference count overflow"
  | positionZero => "bind position must be 1-based"
  | absentValue position => "the bind value at index " ++ toString position ++ " is null"
  | capacityTooLarge size bound =>
    "max_sql_cache_size out of range: " ++ toString size ++ " (max " ++ toString bound ++ ")"
  | capacityShrinks present size =>
    "cannot shrink max_sql_cache_size from " ++ toString present ++ " to " ++ toString size
  | notCompiled => "program has no compiled statement"
  | stated rule => rule

end Misuse

/-- What an operation of a connection or a program can fail with. -/
inductive ProgramError where
  | usage (misuse : Misuse)
  | engine (error : EngineError)
  deriving DecidableEq, Repr, Inhabited

namespace ProgramError

/-- The text of an error; an engine's error keeps its own. -/
def message : ProgramError → String
  | usage misuse => "usage error: " ++ misuse.message
  | engine error => error.message

/-- Whether the caller broke a rule. -/
def isUsage : ProgramError → Bool
  | usage _ => true
  | engine _ => false

end ProgramError

end Prepared
