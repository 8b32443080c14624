import Prepared.Store.Connection
import Prepared.Text.Quoted

/-! Descriptions of the objects in a store, for people to read. -/
namespace Prepared

/-- The name of a kind in a description. -/
def Kind.title (k : Kind) : String :=
  match k.label.toList with
  | c :: cs => String.ofList (c.toUpper :: cs)
  | [] => ""

/-- A name with fields in braces, and a mark that there is more. -/
def describe (name : String) (fields : List (String × String)) : String :=
  name ++ " \x7b " ++ String.join (fields.map fun f => f.1 ++ ": " ++ f.2 ++ ", ") ++ ".. \x7d"

namespace Store

variable {σ : Type}

/-- The number of the statement a program holds, zero if it holds none. -/
def statementNumber (s : Store σ) (p : ProgramId) : Nat :=
  match (s.program p).held with
  | some h => (s.statement h).statement.number
  | none => 0

/-- Describes a program. -/
def describeProgram (s : Store σ) (p : ProgramId) : String :=
  let x := s.program p
  describe "Program"
    [("sql", Text.quote x.sql), ("kind", x.kind.title),
     ("statement_id", toString (s.statementNumber p))]

/-- Describes a compiled statement. -/
def describeStatement (s : Store σ) (h : CompiledId) : String :=
  let x := s.statement h
  describe "CompiledHandle"
    [("native", "NativeStatement(" ++ toString x.statement ++ ")"), ("sql", Text.quote x.sql),
     ("in_use", toString x.inUse), ("destroyed", toString x.destroyed)]

/-- Describes a connection. -/
def describeConnection (s : Store σ) (c : ConnectionId) : String :=
  let x := s.connection c
  describe "Connection"
    [("open", toString x.isOpen), ("cached_statements", toString x.cache.size),
     ("open_programs", toString x.programs.length)]

end Store

end Prepared
