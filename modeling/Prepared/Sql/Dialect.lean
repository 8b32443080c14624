import Prepared.Sql.Library
import Prepared.Sql.Link
import Prepared.Table
import Prepared.Text.Blank

/-! A library for a small dialect of SQL.

Its state has all links and the content of every database as it was last committed. Several links
may share a database in a file. It is one library among others: engines run on it, but what is
proved of engines over every library does not look into it. -/
namespace Prepared.Sql

/-- All links, and the databases as they were last committed. -/
structure Dialect where
  databases : List (Location × Snapshot) := []
  links : Table Link := {}
  deriving Inhabited

/-- A statement that was prepared. -/
structure Fetched where
  text : String
  plan : Plan
  /-- The titles of its columns as they were read when it was fetched. -/
  titles : List String
  /-- The bound values, that of position one first. -/
  parameters : List Value
  deriving DecidableEq, Repr, Inhabited

namespace Fetched

/-- A statement with nothing bound. -/
def ofPlan (text : String) (plan : Plan) (titles : List String) : Fetched where
  text
  plan
  titles
  parameters :=
    match Command.ofString? text with
    | some (_, count) => List.replicate count .null
    | none => []

/-- Binds a value at a position, which counts from one. -/
def bind (p : Fetched) (position : Nat) (value : Value) : Except String Fetched :=
  if 1 ≤ position ∧ position ≤ p.parameters.length then
    .ok { p with parameters := p.parameters.set (position - 1) value }
  else .error "there is no such parameter"

end Fetched

namespace Dialect

/-- A link by its number. -/
def link (s : Dialect) (i : EngineId) : Link :=
  s.links.get i

/-- The committed content of a database. -/
def committed (s : Dialect) (location : Location) : Snapshot :=
  (s.databases.lookup location).getD {}

/-- Replaces a link. -/
def withLink (s : Dialect) (i : EngineId) (l : Link) : Dialect :=
  { s with links := s.links.modify i fun _ => l }

/-- Takes up the content of a database if it is other than the one committed before. -/
def commit (s : Dialect) (location : Location) (content : Snapshot) : Dialect :=
  if content.version = (s.committed location).version then s
  else { s with databases := (location, content) :: s.databases.filter fun e => e.1 != location }

/-- What a link to a location meets there, apart from the link with a number. -/
def around (s : Dialect) (i : EngineId) (location : Location) (journal : JournalMode) :
    Surroundings where
  journal
  committed := s.committed location
  others := (s.links.positions.filter (· != i)).filterMap fun j =>
    if (s.link j).location = location then (s.link j).transaction else none

/-- What a link meets at its database. -/
def surroundings (s : Dialect) (i : EngineId) : Surroundings :=
  s.around i (s.link i).location (s.link i).journal

/-- Gives up a link: its transaction is undone. -/
def abandon (s : Dialect) (i : EngineId) : Dialect :=
  { s with links := s.links.modify i fun l => { l with transaction := none } }

/-- Prepares a text, and gives its number of parameters. -/
def prepare (i : EngineId) (sql : String) (s : Dialect) : Except String Nat × Dialect :=
  match (s.link i).prepare (s.surroundings i) sql with
  | (none, l) => (.error "the text cannot be prepared", s.withLink i l)
  | (some (_, count), l) => (.ok count, s.withLink i l)

/-- Gives a statement for a text, whatever blanks there are around it. -/
def fetch (i : EngineId) (sql : String) (s : Dialect) : Except String Fetched × Dialect :=
  let text := Text.trim sql
  match (s.link i).planFor (s.surroundings i) text with
  | (none, l) => (.error "the statement cannot be prepared", s.withLink i l)
  | (some (plan, titles), l) => (.ok (.ofPlan text plan titles), s.withLink i l)

/-- Runs a statement. -/
def run (i : EngineId) (p : Fetched) (s : Dialect) :
    Except String (List (List Value)) × Dialect :=
  let (r, l, committed) := (s.link i).run (s.surroundings i) p.parameters p.text p.plan
  (r, (s.withLink i l).commit l.location committed)

/-- Runs a statement, and gives the number of rows changed by the last command of the link that
counts them. -/
def execute (i : EngineId) (p : Fetched) (s : Dialect) : Except String UInt64 × Dialect :=
  match s.run i p with
  | (.ok _, s) => (.ok (.ofNat (s.link i).changes), s)
  | (.error reason, s) => (.error reason, s)

/-- A row has what it has, and nothing behind that. -/
def row (values : List Value) : Row := fun k =>
  match values[k]? with
  | some v => .ok v
  | none => .error "a column is missing"

/-- Rows that are all there; reading them changes nothing. -/
def cursor (rows : List (List Value)) (s : Dialect) : Cursor Dialect :=
  rows.foldr (fun values rest => .row (row values) s rest) (.finished s)

/-- Runs a statement for its rows. -/
def query (i : EngineId) (p : Fetched) (s : Dialect) : Cursor Dialect :=
  match s.run i p with
  | (.ok rows, s) => cursor rows s
  | (.error reason, s) => .failed reason s

/-- The library of the dialect. -/
def library : Library Dialect where
  Statement := Fetched
  prepare
  fetch
  bind := Fetched.bind
  titles := Fetched.titles
  execute
  query

end Dialect

end Prepared.Sql
