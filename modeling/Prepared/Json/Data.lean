import Prepared.Cache
import Prepared.Json.Reader
import Prepared.Json.Writer
import Prepared.Settings.Basic
import Prepared.Statement.Kind
import Prepared.Statement.Value

/-! The JSON forms of the library's data.

A structure is written as a record with its fields in order, and read from a record
or from the list of its fields. A value is written with the tag of its type. What
is written is read back, except a real number that is not finite: it is written as
`null`, which is no number. -/
namespace Prepared

namespace Json

/-- The members of a record with these names, or the items of a list in this order;
`none` for each that is missing. No name may come twice, and in a `closed` record no
other name may come at all. -/
def columns? (names : List String) (closed : Bool) : Json → Option (List (Option Json))
  | list items =>
    if items.length ≤ names.length then
      some ((List.range names.length).map fun i => items[i]?)
    else none
  | record members =>
    if members.all fun m =>
        match m.1 with
        | none => false
        | some name => !closed || names.contains name
    then
      if names.all fun name => decide (members.countP (fun m => m.1 == some name) ≤ 1) then
        some (names.map fun name => members.lookup (some name))
      else none
    else none
  | _ => none

/-- A text. -/
def toString? : Json → Option String
  | text s => s
  | _ => none

/-- An integer. -/
def toInt? : Json → Option Int
  | number n => n.toInt?
  | _ => none

/-- A natural number below a bound. -/
def toNat? (bound : Nat) (j : Json) : Option Nat :=
  match j.toInt? with
  | some (.ofNat n) => if n < bound then some n else none
  | _ => none

/-- A truth value. -/
def toBool? : Json → Option Bool
  | bool b => some b
  | _ => none

/-- The items of a list, each read by `f`. -/
def toList? (f : Json → Option α) : Json → Option (List α)
  | list items => items.mapM f
  | _ => none

/-- The name of a choice, alone or as the only member of a record, with `null`. -/
def toChoice? : Json → Option String
  | text s => s
  | record [(name, null)] => name
  | _ => none

/-- An unsigned 64-bit number. -/
def toUInt64? (j : Json) : Option UInt64 :=
  (j.toNat? (Nat.pow 2 64)).map UInt64.ofNat

/-- An unsigned 32-bit number. -/
def toUInt32? (j : Json) : Option UInt32 :=
  (j.toNat? (Nat.pow 2 32)).map UInt32.ofNat

/-- A byte. -/
def toUInt8? (j : Json) : Option UInt8 :=
  (j.toNat? (Nat.pow 2 8)).map UInt8.ofNat

/-- A signed 64-bit number. -/
def toInt64? (j : Json) : Option Int64 := do
  let i ← j.toInt?
  if -Int.pow 2 63 ≤ i ∧ i < Int.pow 2 63 then some (Int64.ofInt i) else none

/-- A double precision number. -/
def toBinary64? : Json → Option Binary64
  | number n => n.toBinary64?
  | _ => none

end Json

namespace Value

/-- The JSON form of a value. -/
def toJson (v : Value) : Json :=
  let content : List (String × Json) :=
    match v with
    | null => []
    | integer i => [("value", .ofInt i.toInt)]
    | real x => [("value", .ofBinary64 x)]
    | text s => [("value", .ofString s)]
    | binary bytes => [("value", .list (bytes.map fun b => .ofInt b.toNat))]
  .ofMembers (("type", .ofString v.typeName) :: content)

/-- The value with a tag and a content. -/
def ofTagged? (tag : String) (content : Option Json) : Option Value :=
  match tag, content with
  | "null", none => some null
  | "null", some .null => some null
  | "integer", some j => j.toInt64?.map integer
  | "real", some j => j.toBinary64?.map real
  | "text", some j => j.toString?.map text
  | "binary", some j => (j.toList? Json.toUInt8?).map binary
  | _, _ => none

/-- Reads a value: a record with its tag and its content in either order, or the list
of the two. In a list the tag has to be a text. -/
def ofJson? : Json → Option Value
  | .list [tag, content] => do ofTagged? (← tag.toString?) (some content)
  | .list _ => none
  | j => do
    match ← j.columns? ["type", "value"] false with
    | [some tag, content] => ofTagged? (← tag.toChoice?) content
    | _ => none

end Value

namespace Binding

/-- The JSON form of a binding. -/
def toJson (b : Binding) : Json :=
  .ofMembers [("position", .ofInt b.position.toNat), ("value", b.value.toJson)]

/-- Reads a binding. -/
def ofJson? (j : Json) : Option Binding := do
  match ← j.columns? ["position", "value"] false with
  | [some position, some value] =>
    return { position := ← position.toUInt32?, value := ← Value.ofJson? value }
  | _ => none

end Binding

namespace Output

/-- The JSON form of an output. -/
def toJson (o : Output) : Json :=
  .ofMembers
    [("columns", .list (o.columns.map .ofString)),
     ("rows", .list (o.rows.map fun row => .list (row.map Value.toJson))),
     ("changes", .ofInt o.changes.toNat)]

/-- Reads an output. -/
def ofJson? (j : Json) : Option Output := do
  match ← j.columns? ["columns", "rows", "changes"] false with
  | [some columns, some rows, some changes] =>
    return {
      columns := ← columns.toList? Json.toString?
      rows := ← rows.toList? fun row => row.toList? Value.ofJson?
      changes := ← changes.toUInt64? }
  | _ => none

end Output

namespace Kind

/-- The JSON form of a kind. -/
def toJson (k : Kind) : Json :=
  .ofString k.label

/-- Reads a kind. -/
def ofJson? (j : Json) : Option Kind := do
  ofLabel? (← j.toChoice?)

end Kind

namespace StatementId

/-- The JSON form of a statement's number. -/
def toJson (s : StatementId) : Json :=
  .ofInt s.number

/-- Reads a statement's number, which has 64 bits and is not zero. -/
def ofJson? (j : Json) : Option StatementId := do
  ofNat? (← j.toNat? (Nat.pow 2 64))

end StatementId

namespace CacheStats

/-- The JSON form of statistics. -/
def toJson (s : CacheStats) : Json :=
  .ofMembers
    [("hits", .ofInt s.hits.toNat), ("misses", .ofInt s.misses.toNat),
     ("contention_fallbacks", .ofInt s.contentionFallbacks.toNat),
     ("uncached_compiles", .ofInt s.uncachedCompiles.toNat),
     ("evictions", .ofInt s.evictions.toNat),
     ("cached_statements", .ofInt s.cachedStatements.toNat),
     ("max_sql_cache_size", .ofInt s.maxCacheSize.toNat)]

/-- Reads statistics. -/
def ofJson? (j : Json) : Option CacheStats := do
  match ← j.columns?
      ["hits", "misses", "contention_fallbacks", "uncached_compiles", "evictions",
       "cached_statements", "max_sql_cache_size"] false with
  | [some hits, some misses, some contentionFallbacks, some uncachedCompiles, some evictions,
     some cachedStatements, some maxCacheSize] =>
    return {
      hits := ← hits.toUInt64?
      misses := ← misses.toUInt64?
      contentionFallbacks := ← contentionFallbacks.toUInt64?
      uncachedCompiles := ← uncachedCompiles.toUInt64?
      evictions := ← evictions.toUInt64?
      cachedStatements := ← cachedStatements.toUInt64?
      maxCacheSize := ← maxCacheSize.toUInt64? }
  | _ => none

end CacheStats

namespace Settings

/-- The names of the settings. -/
def names : List String :=
  ["max_sql_cache_size", "log_statement_lifecycle"]

/-- The JSON form of settings. -/
def toJson (s : Settings) : Json :=
  .ofMembers
    [("max_sql_cache_size", .ofInt s.capacity.toNat),
     ("log_statement_lifecycle", .bool s.logsLifecycle)]

/-- Reads settings, which are not checked for validity. What is missing has its
default, and other names are refused. -/
def ofJson? (j : Json) : Option Settings := do
  match ← j.columns? names true with
  | [capacity, logs] =>
    return {
      capacity := ← match capacity with
        | some j => j.toUInt64?
        | none => some 250
      logsLifecycle := ← match logs with
        | some j => j.toBool?
        | none => some false }
  | _ => none

end Settings

end Prepared
