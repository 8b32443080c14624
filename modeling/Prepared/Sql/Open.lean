import Prepared.Sql.Dialect
import Prepared.Sql.Opener
import Prepared.Sql.Target

/-! Opening databases of the dialect.

The path may be a URI. A database is looked for when its link is told how to keep the journal; a
file that holds something else is refused then. -/
namespace Prepared.Sql

/-- The longest place of a database file, in bytes, with a slash before each name. -/
def maxPlaceLength : Nat := 504

/-- The place of a file, from the names of its path alone. -/
def placeOf (path : String) : Place :=
  let segments := Path.segments path
  segments.foldl (fun place segment =>
    if segment = "" ∨ segment = "." then place
    else if segment = ".." then Tree.above place
    else place ++ [segment]) (Tree.start segments)

/-- The place with a suffix behind its last name. -/
def beside (place : Place) (suffix : String) : Place :=
  Tree.above place ++ [place.getLastD "" ++ suffix]

/-- Whether the journal beside a file can be made: there is room for the longest suffix
behind the file's name, and no directory stands there. -/
def canJournal (tree : Tree) (place : Place) : Bool :=
  decide ((place.getLastD "").utf8ByteSize + "-journal".utf8ByteSize ≤ Path.maxComponent) &&
    !tree.isDirectoryAt (beside place "-journal")

/-- Where a database is found. -/
structure Site where
  location : Location
  journal : JournalMode
  isWritable : Bool
  /-- The tree with its file. -/
  tree : Tree

/-- The file of a database, if it can be used. -/
def fileSite? (t : Target) (journal : JournalMode) (tree : Tree) : Option Site :=
  let place := placeOf t.name
  let site (tree : Tree) : Site :=
    { location := .file place, journal,
      isWritable := t.isWritable && canJournal tree place &&
        !(journal = .wal && tree.isDirectoryAt (beside place "-shm")),
      tree }
  let length := place.foldl (fun length n => length + n.utf8ByteSize + 1) 0
  if Tree.above place = [] ∨ maxPlaceLength < length then none
  else if tree.isDirectoryAt (beside place "-wal") then none
  else if t.model.any fun path => (tree.resolve? path).isNone then none
  else if journal = .wal ∧ (!canJournal tree place || t.mode = .readOnly) then none
  else
    match tree.entry? place with
    | some .directory => none
    | some (.file content) => if content.isEmpty then some (site tree) else none
    | none =>
      if t.mode = .create ∧ tree.isDirectoryAt (Tree.above place) then
        some (site (tree.put place (.file .empty)))
      else none

/-- Where a database is found, if it can be used. -/
def site? (t : Target) (wanted : JournalMode) (s : Dialect) (tree : Tree) : Option Site :=
  let journal := t.journal wanted
  if t.isFileless then
    some
      { location := if t.isFound then .named t.name else .own s.links.next,
        journal, isWritable := t.isWritable, tree }
  else fileSite? t journal tree

/-- How a database keeps its journal, by the text that sets it. -/
def JournalMode.ofText? (text : String) : Option JournalMode :=
  [wal, delete].find? fun m => m.text = text

/-- How often a database waits, by the text that sets it. -/
def SyncMode.ofText? (text : String) : Option SyncMode :=
  [full, normal].find? fun m => m.text = text

/-- A link that is being opened. -/
structure Draft where
  target : Target
  link : Link

namespace Dialect

/-- A new link; where its database is it does not know yet. -/
def draft (s : Dialect) (target : Target) (journalMode : String) : Draft where
  target
  link :=
    { location := .own s.links.next
      pragmas := { journalMode, synchronous := 2, busyTimeout := 5000 }
      journal := .delete
      plans := { capacity := 16 } }

/-- Opens what a path asks for. -/
def connect (path : String) (s : Dialect) : Except String Draft :=
  if path.toList.contains '\x00' then .error "the database cannot be opened"
  else
    match Target.ofPath? path with
    | none => .error "the database cannot be opened"
    | some target => .ok (s.draft target "delete")

/-- A link to a database that was found. -/
def linkTo (s : Dialect) (x : Draft) (wanted : JournalMode) (site : Site) : Link :=
  { x.link with
    location := site.location
    pragmas := { x.link.pragmas with journalMode := x.target.journalWord wanted }
    journal := site.journal
    isWritable := site.isWritable
    isShared := x.target.isShared
    schema := some (s.committed site.location).content.schema
    hasRead := !(s.committed site.location).content.isEmpty }

/-- Looks for the database of a new link. -/
def find (x : Draft) (wanted : JournalMode) (s : Tree × Dialect) :
    Except String Draft × Tree × Dialect :=
  match site? x.target wanted s.2 s.1 with
  | none => (.error "the database cannot be opened", s)
  | some site =>
    if (s.2.around s.2.links.next site.location site.journal).isOpen then
      (.ok { x with link := s.2.linkTo x wanted site }, site.tree, s.2)
    else (.error "the database is busy", site.tree, s.2)

/-- Takes up a setting. -/
def batch (x : Draft) (text : String) (s : Tree × Dialect) : Except String Draft × Tree × Dialect :=
  if text = foreignKeysText then (.ok x, s)
  else
    match JournalMode.ofText? text, SyncMode.ofText? text with
    | some wanted, _ => find x wanted s
    | none, some m => (.ok { x with link.pragmas.synchronous := m.number }, s)
    | none, none => (.error "there is no such setting", s)

/-- How databases of the dialect are opened. -/
def opener : Opener Dialect where
  Draft := Draft
  connect path := ⟨fun s => (s.2.connect path, s)⟩
  connectMemory := ⟨fun s => (.ok (s.2.draft { name := ":memory:" } "memory"), s)⟩
  batch x text := ⟨batch x text⟩
  wait x time := ⟨fun s => (.ok { x with link.pragmas.busyTimeout := Int64.ofNat time.toNat }, s)⟩
  keep x capacity := { x with link.plans := (x.link.plans.resize capacity.toNat).2 }
  register x s := (s.links.next, { s with links := s.links.push x.link })

end Dialect

/-- The engines over the dialect. -/
abbrev Server := Engines Dialect

namespace Server

/-- The engines over a server's links. -/
def engine : Engine Server :=
  Dialect.library.engine

/-- Opens a link to a database in a file. -/
def openFile (s : Server) (f : FileSettings) : Except OpenFailure EngineId × Server :=
  s.within (Dialect.opener.openFile f)

/-- Opens a link to a database of its own in memory, which nothing keeps from being done. -/
def openMemory (s : Server) : EngineId × Server :=
  (s.library.links.next,
   { s with library.links := s.library.links.push (s.library.draft { name := ":memory:" } "memory").link })

/-- Opening a database in memory does not fail. -/
theorem within_openMemory (s : Server) :
    s.within Dialect.opener.openMemory = (.ok s.openMemory.1, s.openMemory.2) :=
  rfl

/-- Opens a link to a database in a file for the connections of a store. -/
def openFor (f : FileSettings) : Op Server OpenFailure EngineId :=
  Dialect.opener.openFor f

/-- Gives up the links that no connection and no statement of a store refers to, except
one. -/
def settle (s : Store Server) (current : EngineId) : Store Server :=
  let unused := s.engine.library.links.positions.filter fun i => i != current && !s.usesEngine i
  { s with engine.library := unused.foldl Dialect.abandon s.engine.library }

end Server

end Prepared.Sql
