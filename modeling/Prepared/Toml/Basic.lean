/-! TOML values and how a document's tables grow.

A document is a sequence of lines: headers and entries. Each table remembers how it
came about, since that decides who may still add to it: a table made by its own
header is not made again, a table made by dotted keys is only extended by dotted
keys, and a table that only stands above others may still get its header. -/
namespace Prepared

/-- A TOML value. Floats and moments in time are kept as they are written. -/
inductive Toml where
  | text (s : String)
  | integer (i : Int)
  | float (written : List Char)
  | moment (written : List Char)
  | bool (b : Bool)
  | list (items : List Toml)
  | table (entries : List (String × Toml))
  deriving Repr, Inhabited

namespace Toml

/-- How a table came about. -/
inductive Origin where
  /-- By a header of its own. -/
  | header
  /-- Above a table that has a header. -/
  | above
  /-- By dotted keys. -/
  | dotted
  deriving DecidableEq, Repr

/-- A part of a document that is still growing. -/
inductive Node where
  /-- A value, which nothing can be added to. -/
  | value (v : Toml)
  | table (origin : Origin) (entries : List (String × Node))
  /-- The tables made by headers in double brackets, the last one first. -/
  | tables (last : List (String × Node)) (earlier : List (List (String × Node)))
  deriving Inhabited

/-- The entries of a growing table. -/
abbrev Entries := List (String × Node)

/-- Changes what stands under a key; a change can be refused. -/
def Entries.alter (key : String) (f : Option Node → Option Node) : Entries → Option Entries
  | [] => (f none).map fun n => [(key, n)]
  | (k, n) :: es =>
    if k = key then (f (some n)).map fun n => (k, n) :: es
    else (alter key f es).map ((k, n) :: ·)

/-- Changes the table that a path leads to. Tables missing on the way are made; of
tables in double brackets the last one counts. A path of dotted keys does not lead
through a table that has its own header. -/
def Entries.within (dotted : Bool) (f : Origin → Entries → Option Entries) :
    List String → Origin → Entries → Option Entries
  | [], origin, es => f origin es
  | key :: path, _, es =>
    es.alter key fun
      | none =>
        let origin := if dotted then .dotted else .above
        (within dotted f path origin []).map (.table origin)
      | some (.table origin sub) =>
        if dotted && origin == .header then none
        else (within dotted f path origin sub).map (.table origin)
      | some (.tables last earlier) =>
        (within dotted f path .header last).map (.tables · earlier)
      | some (.value _) => none

/-- Adds a value under a key that is free. -/
def Entries.add (key : String) (v : Toml) (es : Entries) : Option Entries :=
  es.alter key fun
    | none => some (.value v)
    | some _ => none

/-- Adds an entry with a possibly dotted key. Dotted keys only add to tables that
dotted keys made. -/
def Entries.addDotted (path : List String) (key : String) (v : Toml) (origin : Origin)
    (es : Entries) : Option Entries :=
  es.within (!path.isEmpty) (fun origin sub =>
    if (origin == .dotted) == path.isEmpty then none else sub.add key v) path origin

/-- Makes the table of a header. -/
def Entries.addHeader (path : List String) (key : String) (es : Entries) : Option Entries :=
  es.within false (fun _ sub =>
    sub.alter key fun
      | none => some (.table .header [])
      | some (.table .above sub) => some (.table .header sub)
      | some _ => none) path .header

/-- Makes the table of a header in double brackets. -/
def Entries.addArrayHeader (path : List String) (key : String) (es : Entries) : Option Entries :=
  es.within false (fun _ sub =>
    sub.alter key fun
      | none => some (.tables [] [])
      | some (.tables last earlier) => some (.tables [] (last :: earlier))
      | some _ => none) path .header

mutual

/-- The finished value of a part. -/
def Node.finish : Node → Toml
  | .value v => v
  | .table _ entries => .table (finishEntries entries)
  | .tables last earlier => .list (finishTables earlier [.table (finishEntries last)])

/-- The finished entries of a table. -/
def finishEntries : List (String × Node) → List (String × Toml)
  | [] => []
  | (key, n) :: es => (key, n.finish) :: finishEntries es

/-- The finished tables, in front of those given. -/
def finishTables : List (List (String × Node)) → List Toml → List Toml
  | [], after => after
  | es :: earlier, after => finishTables earlier (.table (finishEntries es) :: after)

end

/-- A line of a document. -/
inductive Line where
  | header (path : List String) (key : String)
  | arrayHeader (path : List String) (key : String)
  | entry (path : List String) (key : String) (v : Toml)
  deriving Inhabited

/-- Adds lines to a document; `place` is the path of the header in force. -/
def addLines : List Line → List String → Entries → Option Entries
  | [], _, es => some es
  | .header path key :: lines, _, es =>
    match es.addHeader path key with
    | some es => addLines lines (path ++ [key]) es
    | none => none
  | .arrayHeader path key :: lines, _, es =>
    match es.addArrayHeader path key with
    | some es => addLines lines (path ++ [key]) es
    | none => none
  | .entry path key v :: lines, place, es =>
    match es.within false (fun origin sub => sub.addDotted path key v origin) place .header with
    | some es => addLines lines place es
    | none => none

/-- The table that lines describe. -/
def ofLines? (lines : List Line) : Option Toml :=
  (addLines lines [] []).map fun es => .table (finishEntries es)

/-- The table that entries in braces describe. -/
def ofInline? (entries : List (List String × String × Toml)) : Option Toml :=
  ofLines? (entries.map fun (path, key, v) => .entry path key v)

/-- The value under a key of a table. -/
def member? (key : String) : Toml → Option Toml
  | table entries => entries.lookup key
  | _ => none

/-- The keys of a table. -/
def keys : Toml → List String
  | table entries => entries.map (·.1)
  | _ => []

/-- A text. -/
def toString? : Toml → Option String
  | text s => some s
  | _ => none

/-- A truth value. -/
def toBool? : Toml → Option Bool
  | bool b => some b
  | _ => none

/-- An unsigned 64-bit number. -/
def toUInt64? : Toml → Option UInt64
  | integer (.ofNat n) => if n < Nat.pow 2 64 then some (.ofNat n) else none
  | _ => none

/-- The name of a choice: a text, or the only key of a table, with nothing under it. -/
def toChoice? : Toml → Option String
  | text s => some s
  | table [(key, list [])] => some key
  | table [(key, table [])] => some key
  | _ => none

end Toml

end Prepared
