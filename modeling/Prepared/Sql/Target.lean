import Prepared.Sql.Settings
import Prepared.Sql.Uri

/-! What the path of a database asks for.

A path is the name of a file, or a URI that may ask for less than a whole file: only for
reading, for a database in memory, or for another way to reach the file. A way is chosen
by its name; the last one counts, and the name has to be known. -/
namespace Prepared.Sql

/-- What a database is opened for. -/
inductive OpenMode where
  | readOnly | readWrite
  /-- To be read, written and made if there is none. -/
  | create
  | memory
  deriving DecidableEq, Repr, Inhabited

namespace OpenMode

/-- The mode of a word. -/
def ofWord? : String → Option OpenMode
  | "ro" => some readOnly
  | "rw" => some readWrite
  | "rwc" => some create
  | "memory" => some memory
  | _ => none

/-- How much a mode allows. A database in memory asks for nothing and allows
everything. -/
def asks : OpenMode → Nat
  | memory => 0
  | readOnly => 1
  | readWrite => 2
  | create => 3

/-- Takes up a mode by its word; it must not allow more than the one before. -/
def narrow? (m : OpenMode) (word : String) : Option OpenMode := do
  let next ← ofWord? word
  if m = memory ∨ next.asks ≤ m.asks then some next else none

end OpenMode

/-- A way to reach the file of a database. -/
inductive Way where
  | plain
  /-- Without the locks that a log of changes needs. -/
  | simple
  /-- Not at all: there is no file. -/
  | memory
  deriving DecidableEq, Repr, Inhabited

/-- The way of a name. -/
def Way.ofName? : String → Option Way
  | "unix" | "unix-excl" => some plain
  | "unix-none" | "unix-dotfile" => some simple
  | "memdb" => some memory
  | _ => none

/-- What a path asks for. -/
structure Target where
  name : String
  mode : OpenMode := .create
  way : Way := .plain
  /-- Whether links in one process share what they hold. -/
  isShared : Bool := false
  /-- Whether the file is said to change never. -/
  isFrozen : Bool := false
  /-- A file that the database's file is to be made like; it has to exist. -/
  model : Option String := none
  deriving DecidableEq, Repr, Inhabited

namespace Target

/-- Takes up an option. -/
def withOption? (t : Target) (o : String × String) : Option Target :=
  match o with
  | ("mode", word) => (t.mode.narrow? word).map fun mode => { t with mode }
  | ("cache", "shared") => some { t with isShared := true }
  | ("cache", "private") => some { t with isShared := false }
  | ("cache", _) => none
  | _ => some t

/-- What a URI asks for. -/
def ofUri? (u : Uri) : Option Target := do
  let t ← u.options.foldlM withOption? { name := u.name }
  let way ← Way.ofName? ((u.options.filter (·.1 == "vfs")).getLast?.elim "unix" (·.2))
  let isFrozen := u.allows "immutable"
  let isSimple := isFrozen || u.allows "nolock"
  return { t with
    way := if way = .plain ∧ isSimple then .simple else way
    isFrozen
    model := u.options.lookup "modeof" }

/-- What a path asks for. -/
def ofPath? (path : String) : Option Target :=
  match path.toList with
  | 'f' :: 'i' :: 'l' :: 'e' :: ':' :: cs => (Uri.ofList? cs).bind ofUri?
  | _ => some { name := path }

/-- Whether the database is in memory whatever the way. -/
def isMemory (t : Target) : Bool :=
  t.mode = .memory || t.name = ":memory:"

/-- Whether the database is for one link and for a time. -/
def isTemporary (t : Target) : Bool :=
  t.name = ""

/-- Whether there is no file that other links could find. -/
def isFileless (t : Target) : Bool :=
  t.isMemory || t.isTemporary || t.way = .memory

/-- Whether other links find a database without a file by its name. -/
def isFound (t : Target) : Bool :=
  !t.isTemporary &&
    if t.isMemory then t.isShared
    else t.isShared || (t.name.startsWith "/" && t.name != "/")

/-- How changes are kept: a log needs a file and all locks. -/
def journal (t : Target) (wanted : JournalMode) : JournalMode :=
  if t.isFileless || t.way = .simple then .delete else wanted

/-- The word for how changes are kept. -/
def journalWord (t : Target) (wanted : JournalMode) : String :=
  if t.isMemory then "memory"
  else if t.way = .memory && !t.isTemporary && wanted = .wal then "memory"
  else (t.journal wanted).word

/-- Whether the database may be changed. -/
def isWritable (t : Target) : Bool :=
  t.mode != .readOnly && (t.isMemory || t.isTemporary || !t.isFrozen)

end Target

end Prepared.Sql
