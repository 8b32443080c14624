/-! The recency cache.

A cache is a list of entries, the most recently used first, with at most one
entry for a text. Using or storing an entry moves it to the front; what does not
fit is taken from the back. Looking at an entry without using it moves nothing. -/
namespace Prepared

/-- The ways in which a compiled statement is obtained. -/
inductive Acquisition where
  /-- An idle cached statement was attached to. -/
  | hit
  /-- A statement was compiled for the cache. -/
  | miss
  /-- The cached statement was in use, so another one was compiled. -/
  | contention
  /-- A statement of a kind that is not shared was compiled. -/
  | uncached
  deriving DecidableEq, Repr

/-- Counts of what has happened to a cache. -/
structure Counters where
  hits : Nat := 0
  misses : Nat := 0
  contentions : Nat := 0
  uncached : Nat := 0
  /-- Entries removed by overflow, replacement or explicit eviction. -/
  evictions : Nat := 0
  deriving DecidableEq, Repr, Inhabited

namespace Counters

/-- Counts one acquisition. -/
def count (n : Counters) : Acquisition → Counters
  | .hit => { n with hits := n.hits + 1 }
  | .miss => { n with misses := n.misses + 1 }
  | .contention => { n with contentions := n.contentions + 1 }
  | .uncached => { n with uncached := n.uncached + 1 }

end Counters

/-- A snapshot of the statistics of a cache. -/
structure CacheStats where
  hits : UInt64
  misses : UInt64
  contentionFallbacks : UInt64
  uncachedCompiles : UInt64
  evictions : UInt64
  cachedStatements : UInt64
  maxCacheSize : UInt64
  deriving DecidableEq, Repr, Inhabited

/-- A bounded map from texts to `α`, ordered by recency. -/
structure Cache (α : Type) where
  /-- The entries, the most recently used first. -/
  entries : List (String × α) := []
  capacity : Nat
  counters : Counters := {}
  deriving Repr, Inhabited

namespace Cache

variable {α : Type}

/-- The number of entries. -/
def size (c : Cache α) : Nat :=
  c.entries.length

/-- The texts with an entry, the most recently used first. -/
def keys (c : Cache α) : List String :=
  c.entries.map (·.1)

/-- What is stored, the most recently used first. -/
def values (c : Cache α) : List α :=
  c.entries.map (·.2)

/-- The entry of a text, without using it. -/
def peek? (c : Cache α) (key : String) : Option α :=
  c.entries.lookup key

/-- Whether `a` is what is stored for this text. -/
def holds [DecidableEq α] (c : Cache α) (key : String) (a : α) : Bool :=
  c.peek? key == some a

/-- The entries of all other texts. -/
def others (c : Cache α) (key : String) : List (String × α) :=
  c.entries.filter fun e => e.1 != key

/-- Moves the entry of a text to the front, if there is one. -/
def touch (c : Cache α) (key : String) : Cache α :=
  match c.peek? key with
  | some a => { c with entries := (key, a) :: c.others key }
  | none => c

/-- Counts one acquisition. -/
def count (c : Cache α) (a : Acquisition) : Cache α :=
  { c with counters := c.counters.count a }

/-- Counts entries that were removed. -/
def countEvictions (c : Cache α) (n : Nat) : Cache α :=
  { c with counters := { c.counters with evictions := c.counters.evictions + n } }

/-- Keeps what fits; gives back the rest, the least recently used first. -/
def trim (c : Cache α) : List α × Cache α :=
  ((c.entries.drop c.capacity).reverse.map (·.2),
   { c with entries := c.entries.take c.capacity })

/-- Stores `a` for a text; gives back what had to leave. A cache without capacity
stores nothing. -/
def insert (c : Cache α) (key : String) (a : α) : List α × Cache α :=
  if c.capacity = 0 then ([], c)
  else
    let (overflow, kept) := trim { c with entries := (key, a) :: c.others key }
    let displaced := (c.peek? key).toList ++ overflow
    (displaced, kept.countEvictions displaced.length)

/-- Removes the entry of a text; gives back what was stored. -/
def erase (c : Cache α) (key : String) : Option α × Cache α :=
  match c.peek? key with
  | some a => (some a, { c with entries := c.others key }.countEvictions 1)
  | none => (none, c)

/-- Changes the capacity; gives back what had to leave. -/
def resize (c : Cache α) (capacity : Nat) : List α × Cache α :=
  let (displaced, kept) := trim { c with capacity }
  (displaced, kept.countEvictions displaced.length)

/-- Removes every entry; gives back what was stored, the least recently used
first. What leaves this way is not counted. -/
def drain (c : Cache α) : List α × Cache α :=
  (c.entries.reverse.map (·.2), { c with entries := [] })

/-- The statistics of a cache. -/
def stats (c : Cache α) : CacheStats where
  hits := .ofNat c.counters.hits
  misses := .ofNat c.counters.misses
  contentionFallbacks := .ofNat c.counters.contentions
  uncachedCompiles := .ofNat c.counters.uncached
  evictions := .ofNat c.counters.evictions
  cachedStatements := .ofNat c.size
  maxCacheSize := .ofNat c.capacity

end Cache

end Prepared
