import Prepared.File.Path

/-! A small file system: directories and files below one root, and a directory that
relative paths start from. Names are case-sensitive and there are no links. -/
namespace Prepared

/-- Where something stands: the names from the root down. -/
abbrev Place := List String

/-- What stands at a place. -/
inductive Entry where
  | directory
  | file (content : ByteArray)

/-- The entries of a file system, apart from the root and the working directory,
which are always there. -/
structure Tree where
  entries : List (Place × Entry) := []

namespace Tree

/-- The directory that relative paths start from. -/
def working : Place := ["tmp", "workspace.dir"]

/-- What stands at a place. -/
def entry? (t : Tree) (place : Place) : Option Entry :=
  if place.isPrefixOf working then some .directory else t.entries.lookup place

/-- Whether a directory stands at a place. -/
def isDirectoryAt (t : Tree) (place : Place) : Bool :=
  match t.entry? place with
  | some .directory => true
  | _ => false

/-- Puts something at a place. -/
def put (t : Tree) (place : Place) (e : Entry) : Tree :=
  { t with entries := (place, e) :: t.entries.filter fun x => x.1 != place }

/-- The place above. -/
def above (place : Place) : Place :=
  place.dropLast

/-- One step of a path from a place, which has to be a directory; what a name leads to
has to exist. -/
def step (t : Tree) (place : Place) (segment : String) : Option Place :=
  if t.isDirectoryAt place then
    if segment = "" ∨ segment = "." then some place
    else if segment = ".." then some (above place)
    else
      let next := place ++ [segment]
      if segment.utf8ByteSize ≤ Path.maxComponent ∧ (t.entry? next).isSome then some next
      else none
  else none

/-- The place that a path starts from. -/
def start (segments : List String) : Place :=
  match segments with
  | "" :: _ :: _ => []
  | _ => working

/-- Whether a path can be handed to the file system at all. -/
def isUsable (path : String) : Bool :=
  path != "" && decide (path.utf8ByteSize < Path.maxLength) && !path.toList.contains '\x00'

/-- The existing place that a path leads to. -/
def resolve? (t : Tree) (path : String) : Option Place :=
  if isUsable path then
    let segments := Path.segments path
    segments.foldlM t.step (start segments)
  else none

/-- Whether a path leads to a directory. -/
def isDirectory (t : Tree) (path : String) : Bool :=
  match t.resolve? path with
  | some place => t.isDirectoryAt place
  | none => false

/-- The content of the file that a path leads to. -/
def read? (t : Tree) (path : String) : Option ByteArray :=
  match t.resolve? path with
  | some place =>
    match t.entry? place with
    | some (.file content) => some content
    | _ => none
  | none => none

/-- The name of a component as a step. -/
def segmentOf : Component → String
  | .root | .here => "."
  | .up => ".."
  | .name s => s

/-- The existing place that components lead to. -/
def follow? (t : Tree) (components : List Component) : Option Place :=
  (components.map segmentOf).foldlM t.step
    (if components.head? = some .root then [] else working)

/-- What came of an attempt to make a directory. -/
inductive Made where
  | done (t : Tree)
  /-- Something on the way does not exist. -/
  | missing
  | refused

/-- Whether every directory on the way exists as far as it goes, and the first one
that does not is missing rather than a file. -/
def isMissing (t : Tree) : List String → Place → Bool
  | [], _ => false
  | s :: ss, place =>
    match t.step place s with
    | some next => isMissing t ss next
    | none => t.isDirectoryAt place && decide (s.utf8ByteSize ≤ Path.maxComponent)

/-- Makes one directory, in one that exists; nothing can be made in the root. -/
def makeDirectory (t : Tree) (components : List Component) : Made :=
  if components.any fun c => (segmentOf c).toList.contains '\x00' then .refused
  else
    let before := components.dropLast
    match t.follow? before with
    | some place =>
      match components.getLast? with
      | some (.name s) =>
        let target := place ++ [s]
        if t.isDirectoryAt place && decide (s.utf8ByteSize ≤ Path.maxComponent) && place != []
            && (t.entry? target).isNone then
          .done (t.put target .directory)
        else .refused
      | _ => .refused
    | none =>
      if t.isMissing (before.map segmentOf)
          (if components.head? = some .root then [] else working) then .missing
      else .refused

/-- Makes a directory with all that are missing above it. The components are given in
reverse order. -/
def makeAll? : List Component → Tree → Option Tree
  | [], t => some t
  | c :: above, t =>
    let components := (c :: above).reverse
    let isThere (t : Tree) : Bool :=
      match t.follow? components with
      | some place => t.isDirectoryAt place
      | none => false
    let orThere (t : Tree) : Made → Option Tree
      | .done t => some t
      | _ => if isThere t then some t else none
    match t.makeDirectory components with
    | .missing =>
      match makeAll? above t with
      | some t => orThere t (t.makeDirectory components)
      | none => none
    | made => orThere t made

end Tree

end Prepared
