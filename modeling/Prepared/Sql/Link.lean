import Prepared.Cache
import Prepared.File.Tree
import Prepared.Sql.Transaction

/-! Links to databases.

A link has perhaps a transaction, and what it remembers of its database: the tables as it last
read them, and the plans of the texts it ran last. What is remembered may be out of date.
Preparing a text trusts it unless the text does not fit; running a plan does not: when the tables
have changed, the plan is replaced by a new one, though the titles of its columns have been read
by then and stay as they were. -/
namespace Prepared.Sql

/-- Where a database is kept. -/
inductive Location where
  /-- Apart from any file, for one link only. -/
  | own (link : Nat)
  /-- Apart from any file, for all links that know its name. -/
  | named (name : String)
  | file (place : Place)
  deriving DecidableEq, Repr

/-- What a link answers about itself. -/
structure Pragmas where
  journalMode : String
  synchronous : Int64
  busyTimeout : Int64
  deriving DecidableEq, Repr, Inhabited

namespace Pragmas

/-- The answer to a question. -/
def answer (p : Pragmas) : Pragma → Value
  | .foreignKeys => .integer 1
  | .journalMode => .text p.journalMode
  | .synchronous => .integer p.synchronous
  | .busyTimeout => .integer p.busyTimeout

end Pragmas

/-- A link to a database. -/
structure Link where
  location : Location
  pragmas : Pragmas
  journal : JournalMode
  /-- Whether the files that a change of the database needs can be made. -/
  isWritable : Bool := true
  /-- Whether all links to the database remember its tables together, so that none of them is
  out of date. -/
  isShared : Bool := false
  /-- The tables as they were when they were last read. -/
  schema : Option Schema := none
  /-- Whether it has ever read a table of the database. -/
  hasRead : Bool := false
  /-- The plans of the texts that were run last. -/
  plans : Cache Plan
  transaction : Option Transaction := none
  /-- The rows changed by the last command that counts them. -/
  changes : Nat := 0
  deriving Repr

instance : Inhabited Link where
  default :=
    { location := .own 0, pragmas := default, journal := .delete, plans := { capacity := 0 } }

/-- What came of running a command: rows or the reason of a failure, the link, and the content
that is committed then. -/
abbrev Ran := Except String (List (List Value)) × Link × Snapshot

namespace Link

/-- Reads the tables, if that is possible now. -/
def readSchema? (l : Link) (w : Surroundings) : Option Schema :=
  ((l.transaction.getD {}).visible? w).map Database.schema

/-- Marks all plans as not to be used again. -/
def expire (l : Link) : Link :=
  { l with plans.entries := l.plans.entries.map fun e => (e.1, { e.2 with isExpired := true }) }

/-- Takes up the tables as they were just read. Plans made when the database was known to have none
must not be used again once there are some. -/
def see (l : Link) (s : Schema) : Link :=
  let l := if l.hasRead || l.schema.all fun known => known = s then l else l.expire
  { l with schema := some s, hasRead := l.hasRead || !s.isEmpty }

/-- Prepares a text: its plan and its number of parameters, if it makes sense for the
tables. They are read if that was not done before, and once more if the text does not fit
them. -/
def prepare (l : Link) (w : Surroundings) (sql : String) : Option (Plan × Nat) × Link :=
  match Command.ofString? sql with
  | none => (none, l)
  | some (c, count) =>
    let known : Option Schema :=
      match l.schema with
      | none => l.readSchema? w
      | some s =>
        if l.isShared || c.misfit? s = some .tables then (l.readSchema? w).or l.schema else l.schema
    if c.needsSchema then
      match known with
      | some s => (if (c.misfit? s).isNone then some (c.plan s, count) else none, l.see s)
      | none => (none, l)
    else (some (c.plan [], count), l)

/-- Remembers the plan of a text. -/
def remember (l : Link) (text : String) (p : Plan) : Link :=
  if p.command = .empty then l else { l with plans := (l.plans.insert text p).2 }

/-- Ends a transaction whose changes are undone. What is remembered about tables that it
has made or removed is given up. -/
def undo (l : Link) (t : Transaction) : Link :=
  let l := { l with transaction := none }
  if t.altered then { l.expire with schema := none } else l

/-- Keeps what a command did to a transaction, unless it was for that command alone. -/
def keep (l : Link) (t : Transaction) : Link :=
  if l.transaction.isSome then { l with transaction := some t } else l

/-- The plan for a text and the titles that its rows will have: a remembered plan, made anew if
it is expired, or a new one. -/
def planFor (l : Link) (w : Surroundings) (text : String) :
    Option (Plan × List String) × Link :=
  match l.plans.peek? text with
  | some p =>
    let l := l.remember text p
    if p.isExpired then
      match l.prepare w text with
      | (some (fresh, _), l) => (some (fresh, p.titles), l.remember text fresh)
      | (none, l) => (none, l)
    else (some (p, p.titles), l)
  | none =>
    match l.prepare w text with
    | (some (p, _), l) => (some (p, p.titles), l.remember text p)
    | (none, l) => (none, l)

/-- A failure of a command that had begun to run. One that counts rows has changed
none. -/
def fail (l : Link) (w : Surroundings) (c : Command) (reason : String) : Ran :=
  (.error reason, { l with changes := if c.counts then 0 else l.changes }, w.committed)

/-- Ends the run of a command on tables. Outside a transaction the changes are committed at
once, or undone if that is not possible. -/
def finish (l : Link) (w : Surroundings) (c : Command) (t : Transaction) (r : Result) : Ran :=
  let done (l : Link) (committed : Snapshot) : Ran :=
    (.ok r.rows,
      { l with schema := some r.content.schema, changes := r.changed.getD l.changes }, committed)
  if l.transaction.isSome then done (l.keep t) w.committed
  else
    match t.commit? w with
    | some committed => done l committed
    | none => (l.undo t).fail w c "the database is busy"

/-- Runs the plan of a command on tables. The plan decides what is claimed first; when the
tables are others than it was made for, a new plan takes its place. -/
def runOnTables (l : Link) (w : Surroundings) (parameters : List Value) (text : String)
    (p : Plan) : Ran :=
  let c := p.command
  match (l.transaction.getD {}).acquire? w p.access with
  | none => l.fail w c "the database is busy"
  | some t =>
    let content := (t.view.getD w.committed).content
    let s := content.schema
    let l := (l.see s).keep t
    if (c.misfit? s).isSome then
      (.error "the tables have changed", l.remember text { p with isExpired := true }, w.committed)
    else
      match (l.transaction.getD {}).acquire? w (c.access s) with
      | none => l.fail w c "the database is busy"
      | some t =>
        let l := (l.remember text (c.plan s)).keep t
        if c.access s = .writes ∧ !l.isWritable then l.fail w c "the database cannot be written"
        else
          let r := c.runOn content parameters
          let t := t.record r c.alters
          let l := { l with hasRead := l.hasRead || !r.content.isEmpty }
          if r.succeeded then l.finish w c t r
          else (l.keep t).fail w c "the command failed"

/-- Runs a plan. -/
def run (l : Link) (w : Surroundings) (parameters : List Value) (text : String) (p : Plan) : Ran :=
  let refuse (reason : String) (l : Link) : Ran := (.error reason, l, w.committed)
  match p.command, l.transaction with
  | .empty, _ => refuse "there is no command" l
  | .compute items, _ =>
    match items.mapM fun i => i.1.eval? parameters with
    | some row => (.ok [row], l, w.committed)
    | none => refuse "a value cannot be computed" l
  | .pragma question, _ => (.ok [[l.pragmas.answer question]], l, w.committed)
  | .begin claim, none =>
    match Transaction.secure {} w claim with
    | (true, t) => (.ok [], { l with transaction := some t }, w.committed)
    | (false, _) => refuse "the database is busy" l
  | .begin claim, some t =>
    let (isSecured, t) := t.secure w claim
    refuse (if isSecured then "a transaction has begun already" else "the database is busy")
      { l with transaction := some t }
  | .commit, some t =>
    match t.commit? w with
    | some committed => (.ok [], { l with transaction := none }, committed)
    | none =>
      let t := { t with isClosing := true }
      refuse "the database is busy" { l with transaction := some t }
  | .commit, none => refuse "no transaction has begun" l
  | .rollback, some t => (.ok [], l.undo t, w.committed)
  | .rollback, none => refuse "no transaction has begun" l
  | _, _ => l.runOnTables w parameters text p

end Link

end Prepared.Sql
