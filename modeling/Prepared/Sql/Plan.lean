import Prepared.Sql.Database

/-! Plans: commands prepared for the tables of a database.

A command is prepared for tables as they are at that time: it gets the titles of its
columns and what it will do with the database. When the tables have changed, a new plan
is needed, and there may be none. -/
namespace Prepared.Sql

/-- What running a command does with a database. -/
inductive Access where
  | none | reads | writes
  deriving DecidableEq, Repr, Inhabited

/-- A prepared command. -/
structure Plan where
  command : Command
  /-- The titles of its columns, if it gives back rows. -/
  titles : List String := []
  access : Access := .none
  /-- Whether it must not be used again without being prepared anew. -/
  isExpired : Bool := false
  deriving DecidableEq, Repr, Inhabited

/-- Why a command does not fit tables. -/
inductive Misfit where
  /-- It names something that does not exist, or makes a table that does. -/
  | tables
  /-- It contradicts itself, or gives the wrong number of values. -/
  | form
  deriving DecidableEq, Repr, Inhabited

/-- What is wrong with the columns that a filter names. -/
def Filter.misfit? (columns : List Column) : Filter → Option Misfit
  | .none => .none
  | some (column, _) => if (indexOf? columns column).isSome then .none else some .tables

/-- The title of the answer to a question. -/
def Pragma.title : Pragma → String
  | foreignKeys => "foreign_keys"
  | journalMode => "journal_mode"
  | synchronous => "synchronous"
  | busyTimeout => "timeout"

namespace Command

/-- Whether the columns of a table have different names. -/
def distinct : List Column → Bool
  | [] => true
  | c :: cs => !(cs.any fun d => sameName c.name d.name) && distinct cs

/-- Whether preparing a command takes a look at the tables. -/
def needsSchema : Command → Bool
  | createTable .. | dropTable .. | insert .. | delete .. | update .. | query .. => true
  | pragma question => question = .journalMode ∨ question = .synchronous
  | _ => false

/-- Whether a command makes or removes tables. -/
def alters : Command → Bool
  | createTable .. | dropTable .. => true
  | _ => false

/-- Whether a command counts the rows it changes. -/
def counts : Command → Bool
  | insert .. | delete .. | update .. => true
  | _ => false

/-- What is wrong with a command, for tables; the first fault counts. -/
def misfit? (s : Schema) : Command → Option Misfit
  | createTable table columns unlessExists =>
    if (s.find? table).isSome then (if unlessExists then none else some .tables)
    else if distinct columns then none
    else some .form
  | dropTable table ifExists =>
    if (s.find? table).isSome || ifExists then none else some .tables
  | insert table names values _ =>
    match s.find? table, names with
    | some columns, none => if values.length = columns.length then none else some .form
    | some columns, some ns =>
      if ns.any fun n => (indexOf? columns n).isNone then some .tables
      else if values.length = ns.length then none
      else some .form
    | none, _ => some .tables
  | delete table f =>
    match s.find? table with
    | some columns => f.misfit? columns
    | none => some .tables
  | update table column _ f =>
    match s.find? table with
    | some columns =>
      if (indexOf? columns column).isSome then f.misfit? columns else some .tables
    | none => some .tables
  | query selection table f =>
    match s.find? table with
    | some columns =>
      match selection with
      | .columns cs =>
        if cs.any fun c => (indexOf? columns c.1).isNone then some .tables
        else f.misfit? columns
      | _ => f.misfit? columns
    | none => some .tables
  | _ => none

/-- The titles of the columns of a command that fits tables. -/
def titles (s : Schema) : Command → List String
  | compute items => items.map (·.2)
  | query selection table _ =>
    let columns := (s.find? table).getD []
    match selection with
    | .all => columns.map (·.name)
    | .columns cs => (selected columns cs).map (·.1)
    | .count title => [title]
  | pragma question => [question.title]
  | _ => []

/-- What a command that fits tables does with the database. -/
def access (s : Schema) : Command → Access
  | createTable table .. => if (s.find? table).isSome then .reads else .writes
  | dropTable table _ => if (s.find? table).isSome then .writes else .reads
  | insert .. | delete .. | update .. => .writes
  | query .. => .reads
  | _ => .none

/-- The plan of a command for tables that it fits. -/
def plan (s : Schema) (c : Command) : Plan where
  command := c
  titles := c.titles s
  access := c.access s

end Command

end Prepared.Sql
