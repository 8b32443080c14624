import Prepared.Engine.Basic

/-! The recording engine.

It numbers statements from one, remembers which are live, and writes every
request that succeeded into a log. Texts can be marked to be refused, and an
output can be set for the executions of a text. Its counters are read off the
log as it stands. -/
namespace Prepared

/-- A request that succeeded, with the statement that it was about. -/
inductive Call where
  | compile (statement : StatementId) (sql : String)
  | destroy (statement : StatementId)
  | bind (statement : StatementId) (position : UInt32) (value : Value)
  | clearBindings (statement : StatementId)
  | execute (statement : StatementId)
  deriving DecidableEq, Repr

namespace Call

/-- The statement that a call was about. -/
def statement : Call → StatementId
  | compile s _ | destroy s | bind s .. | clearBindings s | execute s => s

/-- Whether a call compiled a statement. -/
def isCompile : Call → Bool
  | compile .. => true
  | _ => false

end Call

/-- The state of the recording engine. -/
structure Recording where
  /-- The last number given out. -/
  lastNumber : Nat := 0
  /-- The live statements with their texts, the newest first. -/
  live : List (StatementId × String) := []
  /-- The calls that succeeded, the oldest first. -/
  log : List Call := []
  /-- Texts that are refused. -/
  refused : List String := []
  /-- Outputs by text, the latest setting first. -/
  outputs : List (String × Output) := []
  deriving DecidableEq, Repr, Inhabited

namespace Recording

/-- The text of a live statement. -/
def sql? (r : Recording) (s : StatementId) : Option String :=
  r.live.lookup s

/-- Whether a statement is compiled and not yet destroyed. -/
def isLive (r : Recording) (s : StatementId) : Bool :=
  (r.sql? s).isSome

/-- The number of live statements. -/
def liveCount (r : Recording) : Nat :=
  r.live.length

/-- Writes a call into the log. -/
def record (r : Recording) (c : Call) : Recording :=
  { r with log := r.log ++ [c] }

/-- Refuses a text from now on. -/
def refuse (r : Recording) (sql : String) : Recording :=
  { r with refused := sql :: r.refused }

/-- Sets the output of later executions of a text. -/
def setOutput (r : Recording) (sql : String) (output : Output) : Recording :=
  { r with outputs := (sql, output) :: r.outputs }

/-- Empties the log. -/
def forget (r : Recording) : Recording :=
  { r with log := [] }

/-- The calls of the log that were about one statement. -/
def callsFor (r : Recording) (s : StatementId) : List Call :=
  r.log.filter fun c => c.statement == s

/-- The number of compilations in the log. -/
def compileCount (r : Recording) : Nat :=
  r.log.countP Call.isCompile

/-- The number of times the log destroys a statement. -/
def destroyCount (r : Recording) (s : StatementId) : Nat :=
  r.log.count (.destroy s)

/-- The error for a statement that is not live. -/
def unknown (s : StatementId) : EngineError :=
  .unknownStatement s.number

/-- Compiles a text. -/
def compile (r : Recording) (sql : String) : Except EngineError StatementId × Recording :=
  if r.refused.contains sql then
    (.error (.compile ("injected failure for: " ++ sql)), r)
  else
    let s := StatementId.after r.lastNumber
    (.ok s, { r with lastNumber := s.number, live := (s, sql) :: r.live }.record (.compile s sql))

/-- Destroys a live statement. -/
def destroy (r : Recording) (s : StatementId) : Except EngineError Unit × Recording :=
  if r.isLive s then
    (.ok (), { r with live := r.live.filter fun e => e.1 != s }.record (.destroy s))
  else (.error (unknown s), r)

/-- Records a binding; the position is looked at before the statement. -/
def bind (r : Recording) (s : StatementId) (position : UInt32) (value : Value) :
    Except EngineError Unit × Recording :=
  if position = 0 then (.error (.bind "bind position must be 1-based"), r)
  else if r.isLive s then (.ok (), r.record (.bind s position value))
  else (.error (unknown s), r)

/-- Records that the bindings of a live statement were cleared. -/
def clearBindings (r : Recording) (s : StatementId) : Except EngineError Unit × Recording :=
  if r.isLive s then (.ok (), r.record (.clearBindings s)) else (.error (unknown s), r)

/-- Executes a live statement. -/
def execute (r : Recording) (s : StatementId) : Except EngineError Output × Recording :=
  match r.sql? s with
  | some sql => (.ok ((r.outputs.lookup sql).getD {}), r.record (.execute s))
  | none => (.error (unknown s), r)

/-- The recording engine; there is one, whatever number it is asked for by. -/
def engine : Engine Recording where
  run _ p r :=
    match p with
    | .compile sql => r.compile sql
    | .destroy s => r.destroy s
    | .bind s position value => r.bind s position value
    | .clearBindings s => r.clearBindings s
    | .execute s => r.execute s

end Recording

end Prepared
