import Prepared.Sql.Command
import Prepared.Sql.Order

/-! Databases of the SQL dialect, and what a command on tables does to one.

A table keeps its rows in the order of insertion, and they are read in that order
unless an index has everything that is asked for. Values are stored as they are.
Numbers are equal when they are the same number, whatever their types; other values
of different types differ; nothing equals `null`. -/
namespace Prepared.Sql

/-- A table. -/
structure Relation where
  columns : List Column
  rows : List (List Value) := []
  deriving DecidableEq, Repr, Inhabited

/-- The tables of a database by name. -/
abbrev Database := List (String × Relation)

/-- The equality of values in a condition. -/
def equal : Value → Value → Bool
  | .integer i, .integer j => i == j
  | .integer i, .real x => x.isInt i.toInt
  | .real x, .integer i => x.isInt i.toInt
  | .real x, .real y => x.same y
  | .text s, .text t => s == t
  | .binary a, .binary b => a == b
  | _, _ => false

/-- Names are the same whatever the case of their letters. -/
def sameName (s t : String) : Bool :=
  Command.upper s == Command.upper t

/-- The columns of the tables of a database. -/
abbrev Schema := List (String × List Column)

namespace Schema

/-- The columns of a table. -/
def find? (s : Schema) (table : String) : Option (List Column) :=
  (List.find? (fun e => sameName e.1 table) s).map (·.2)

end Schema

/-- The position of a column. -/
def indexOf? (columns : List Column) (column : String) : Option Nat :=
  columns.findIdx? fun c => sameName c.name column

namespace Relation

/-- Whether the column at a position is unique. -/
def isUniqueAt (r : Relation) (i : Nat) : Bool :=
  ((r.columns[i]?).map (·.isUnique)).getD false

/-- Whether two rows have equal values in a unique column. -/
def clashes (r : Relation) (row other : List Value) : Bool :=
  (r.columns.zip (row.zip other)).any fun (c, v, w) => c.isUnique && equal v w

/-- Appends a row. A row that clashes with it is removed if the new one replaces it,
and otherwise refuses it. -/
def append? (r : Relation) (row : List Value) (replaces : Bool) : Option Relation :=
  if replaces then some { r with rows := r.rows.filter (!r.clashes row ·) ++ [row] }
  else if r.rows.any (r.clashes row) then none
  else some { r with rows := r.rows ++ [row] }

/-- Changes the rows that are chosen, one after the other, until one would clash with
another; gives back all rows, how many were changed, and whether none clashed. The rows
in front are those already dealt with. -/
def updateRows (r : Relation) (chosen : List Value → Bool) (change : List Value → List Value) :
    List (List Value) → List (List Value) → List (List Value) × Nat × Bool
  | front, [] => (front, 0, true)
  | front, row :: rows =>
    if chosen row then
      let changed := change row
      if (front ++ rows).any (r.clashes changed) then (front ++ row :: rows, 0, false)
      else
        let (rows, n, fits) := updateRows r chosen change (front ++ [changed]) rows
        (rows, n + 1, fits)
    else updateRows r chosen change (front ++ [row]) rows

/-- Whether nothing is asked for but one unique column of a table that has others: its
index then has less to read. -/
def isCovered (r : Relation) : List Nat → Bool
  | [] => false
  | i :: is =>
    is.all (· == i) && decide (1 < r.columns.length) && r.isUniqueAt i

/-- The rows in the order in which they are read, when these columns are asked for. -/
def reading (r : Relation) (asked : List Nat) : List (List Value) :=
  if r.isCovered asked then
    r.rows.mergeSort fun v w =>
      noLater (v.getD (asked.headD 0) .null) (w.getD (asked.headD 0) .null)
  else r.rows

end Relation

namespace Database

/-- The columns of the tables. -/
def schema (db : Database) : Schema :=
  db.map fun e => (e.1, e.2.columns)

/-- A table by its name. -/
def find? (db : Database) (table : String) : Option Relation :=
  (List.find? (fun e => sameName e.1 table) db).map (·.2)

/-- Changes a table. -/
def set (db : Database) (table : String) (r : Relation) : Database :=
  db.map fun e => if sameName e.1 table then (e.1, r) else e

/-- Removes a table. -/
def erase (db : Database) (table : String) : Database :=
  db.filter fun e => !sameName e.1 table

end Database

/-- The number that a text starts with; zero if it starts with none. -/
def leadingNumber (cs : List Char) : Binary64 :=
  let cs := cs.dropWhile Lexeme.isLaterSpace
  let (negative, cs) :=
    match cs with
    | '-' :: cs => (true, cs)
    | '+' :: cs => (false, cs)
    | cs => (false, cs)
  let (whole, rest) := cs.span Char.isDigit
  let (fraction, rest) :=
    match rest with
    | '.' :: ds => ds.span Char.isDigit
    | _ => ([], rest)
  let exponent := (Lexeme.exponent Char.isDigit rest).1
  let x := Numeral.toBinary64 { whole, fraction, exponent }
  if negative then x.negate else x

/-- The absolute value of a value; the least integer has none. -/
def absolute? : Value → Option Value
  | .null => some .null
  | .integer i =>
    if 0 ≤ i then some (.integer i)
    else if i = Int64.minValue then none
    else some (.integer (-i))
  | .real x => some (.real x.absolute)
  | .text s => some (.real (leadingNumber s.toList).absolute)
  | .binary bs => some (.real (leadingNumber (bs.map fun b => Char.ofNat b.toNat)).absolute)

/-- A value as it reaches a command: what is not a number is `null`. -/
def passed : Value → Value
  | .real x => if x.isNaN then .null else .real x
  | v => v

namespace Expr

/-- The value of an expression under parameters. -/
def eval? (parameters : List Value) : Expr → Option Value
  | literal v => some v
  | parameter i => some (passed (parameters.getD (i - 1) .null))
  | absolute e => (eval? parameters e).bind absolute?

end Expr

/-- What came of a command on tables. -/
structure Result where
  rows : List (List Value) := []
  /-- The number of rows it changed, if it is one that changes rows. -/
  changed : Option Nat := none
  /-- The tables behind it. -/
  content : Database
  /-- Whether anything was written, be it what was there before. -/
  wrote : Bool := false
  succeeded : Bool := true
  deriving DecidableEq, Repr, Inhabited

namespace Command

/-- The condition of a filter, if its column exists. Its value is computed for the index of
a unique column, or when there are rows to compare with. -/
def chosen? (r : Relation) (parameters : List Value) :
    Filter → Option (List Value → Bool)
  | none => some fun _ => true
  | some (column, e) => do
    let i ← indexOf? r.columns column
    if r.rows.isEmpty && !r.isUniqueAt i then return fun _ => false
    else
      let v ← e.eval? parameters
      return fun row => equal (row.getD i .null) v

/-- The row of an insertion. -/
def rowOf (r : Relation) (columns : Option (List String)) (values : List Value) : List Value :=
  match columns with
  | none => values
  | some cs =>
    let given := cs.zip values
    r.columns.map fun c =>
      ((given.find? fun g => sameName g.1 c.name).map (·.2)).getD .null

/-- The columns of a selection with their titles, as positions in a row. -/
def selected (columns : List Column) (cs : List (String × Option String)) :
    List (String × Nat) :=
  cs.filterMap fun (c, title) => do
    let i ← indexOf? columns c
    let column ← columns[i]?
    return (title.getD column.name, i)

/-- The columns that a query asks for, in its selection and in its condition. -/
def asked (columns : List Column) (s : Selection) (f : Filter) : List Nat :=
  (match s with
    | .all => List.range columns.length
    | .columns cs => (selected columns cs).map (·.2)
    | .count _ => []) ++
  (match f with
    | some (column, _) => (indexOf? columns column).toList
    | none => [])

/-- Whether an update writes anything: it writes rows that become different, and every
row that it is about when it sets a unique column. -/
def updateWrites (r : Relation) (i : Nat) (rows : List (List Value)) (n : Nat) : Bool :=
  rows != r.rows || (r.isUniqueAt i && n != 0)

/-- Runs a command on tables, if it fits them and its values can be computed. The value of
an update is only computed when there is a row for it. -/
def runOn? (db : Database) (parameters : List Value) : Command → Option Result
  | createTable table columns _ =>
    if (db.find? table).isSome then some { content := db }
    else some { content := db ++ [(table, { columns })], wrote := true }
  | dropTable table _ => some { content := db.erase table, wrote := (db.find? table).isSome }
  | insert table columns values replaces => do
    let r ← db.find? table
    let vs ← values.mapM (·.eval? parameters)
    let r ← r.append? (rowOf r columns vs) replaces
    return { changed := some 1, content := db.set table r, wrote := true }
  | delete table f => do
    let r ← db.find? table
    let p ← chosen? r parameters f
    let kept := r.rows.filter fun row => !p row
    let n := r.rows.length - kept.length
    return {
      changed := some n
      content := db.set table { r with rows := kept }
      wrote := f.isNone || n != 0 }
  | update table column e f => do
    let r ← db.find? table
    let p ← chosen? r parameters f
    let i ← indexOf? r.columns column
    let v ← if r.rows.any p then e.eval? parameters else some .null
    let (rows, n, succeeded) := r.updateRows p (·.set i v) [] r.rows
    return {
      changed := some n
      content := if succeeded then db.set table { r with rows } else db
      wrote := updateWrites r i rows n
      succeeded }
  | query s table f => do
    let r ← db.find? table
    let p ← chosen? r parameters f
    let rows := (r.reading (asked r.columns s f)).filter p
    match s with
    | .all => return { rows, content := db }
    | .columns cs =>
      let cs := selected r.columns cs
      return { rows := rows.map fun row => cs.map fun c => row.getD c.2 .null, content := db }
    | .count _ => return { rows := [[.integer (Int64.ofNat rows.length)]], content := db }
  | _ => some { content := db }

/-- Runs a command on tables. One that fails has changed nothing, but may have
written. -/
def runOn (db : Database) (parameters : List Value) (c : Command) : Result :=
  (c.runOn? db parameters).getD { content := db, succeeded := false }

end Command

end Prepared.Sql
