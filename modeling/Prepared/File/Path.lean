/-! File paths.

A path is a text with slashes between names. Its components leave out what says
nothing: empty names, and a single dot anywhere but in front. -/
namespace Prepared

/-- A step of a path. -/
inductive Component where
  | root
  | here
  | up
  | name (s : String)
  deriving DecidableEq, Repr

namespace Component

/-- The number of bytes of a component. -/
def size : Component → Nat
  | root => 1
  | here => 1
  | up => 2
  | name s => s.utf8ByteSize

end Component

namespace Path

/-- The longest component and the longest path that may be used, in bytes. -/
def maxComponent : Nat := 255

/-- The longest path that may be asked for, in bytes. -/
def maxLength : Nat := 4096

/-- The names between the slashes of a path. -/
def segments (path : String) : List String :=
  (path.toList.splitOn '/').map String.ofList

/-- The component of a name inside a path, if it says something. -/
def ofSegment? : String → Option Component
  | "" => none
  | "." => none
  | ".." => some .up
  | s => some (.name s)

/-- The components of a path. -/
def components (path : String) : List Component :=
  let inner := (segments path).filterMap ofSegment?
  match segments path with
  | "" :: _ :: _ => .root :: inner
  | "." :: _ => .here :: inner
  | _ => inner

/-- The components of a path without the last one; a path that is empty or ends at
the root has none. -/
def parent? (path : String) : Option (List Component) :=
  match (components path).reverse with
  | [] => none
  | .root :: _ => none
  | _ :: before => some before.reverse

/-- What is wrong with a path by its length alone. -/
inductive Excess where
  | path
  | component
  deriving DecidableEq, Repr

/-- Checks the length of a path and of its components. -/
def excess? (path : String) : Option Excess :=
  if maxLength < path.utf8ByteSize then some .path
  else if (components path).any fun c => decide (maxComponent < c.size) then some .component
  else none

end Path

end Prepared
