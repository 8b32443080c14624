import Mathlib.Logic.Relation
import Prepared.Proofs.Cache
import Prepared.Proofs.Store

/-! Moves.

An operation on a store is a sequence of moves, each of which changes one thing. Between
its moves an operation is in charge of things that stand nowhere in the store: a compiled
statement on its way between the cache and a program, statements that have left the cache
and are yet to be dealt with, programs that are yet to be closed, references that are yet to
be given back. `Grip` says what these are, so that an invariant of stores can be stated
between moves as well, and proved move by move. What may be assumed at a move is what the
operation has looked at by then. -/
namespace Prepared.Store

variable {σ : Type}

/-- What an operation on a connection is in charge of between its moves. -/
structure Grip where
  /-- The connection that it works on. -/
  connection : ConnectionId
  /-- The program that it works for. -/
  actor : Option ProgramId := none
  /-- The compiled statement that it has obtained for a program or taken from one. -/
  hand : Option CompiledId := none
  /-- The statements that have left the cache, the next one to be dealt with first. -/
  loose : List CompiledId := []
  /-- The programs that are yet to be closed. -/
  sweep : List ProgramId := []
  /-- The references that are yet to be given back, or to be handed out. -/
  owed : Nat := 0
  /-- Whether a clone or a program has just gone out of use, and the connection may be
  without any. -/
  leaving : Bool := false

theorem Grip.hand_eta {g : Grip} (free : g.hand = none) : { g with hand := none } = g := by
  rw [← free]

theorem Grip.loose_eta {g : Grip} (empty : g.loose = []) : { g with loose := [] } = g := by
  rw [← empty]

theorem Grip.sweep_eta {g : Grip} (swept : g.sweep = []) : { g with sweep := [] } = g := by
  rw [← swept]

/-- A store in the middle of an operation. -/
structure Moment (σ : Type) where
  store : Store σ
  grip : Grip

/-- The store once an engine has answered a request. -/
def asked (E : Engine σ) (i : EngineId) (p : Primitive) (s : Store σ) : Store σ :=
  { s with engine := (E.run i p s.engine).2 }

@[simp] theorem connections_asked (E : Engine σ) (i : EngineId) (p : Primitive) (s : Store σ) :
    (s.asked E i p).connections = s.connections := rfl

@[simp] theorem programs_asked (E : Engine σ) (i : EngineId) (p : Primitive) (s : Store σ) :
    (s.asked E i p).programs = s.programs := rfl

@[simp] theorem compiled_asked (E : Engine σ) (i : EngineId) (p : Primitive) (s : Store σ) :
    (s.asked E i p).compiled = s.compiled := rfl

@[simp] theorem connection_asked (E : Engine σ) (i : EngineId) (p : Primitive) (s : Store σ)
    (c : ConnectionId) : (s.asked E i p).connection c = s.connection c := rfl

@[simp] theorem program_asked (E : Engine σ) (i : EngineId) (p : Primitive) (s : Store σ)
    (q : ProgramId) : (s.asked E i p).program q = s.program q := rfl

@[simp] theorem statement_asked (E : Engine σ) (i : EngineId) (p : Primitive) (s : Store σ)
    (h : CompiledId) : (s.asked E i p).statement h = s.statement h := rfl

/-- The store once a statement was marked as destroyed and its engine has been asked to
destroy it. -/
def struck (E : Engine σ) (h : CompiledId) (s : Store σ) : Store σ :=
  (s.withStatement h fun x => { x with destroyed := true }).asked E (s.statement h).engine
    (.destroy (s.statement h).statement)

/-- The store once an engine has compiled a text for a connection. -/
def grown (E : Engine σ) (c : ConnectionId) (sql : String) (n : StatementId) (s : Store σ) :
    Store σ :=
  { s.asked E (s.connection c).engine (.compile sql) with
    compiled := s.compiled.push
      { engine := (s.connection c).engine, statement := n, sql, connection := c } }

/-- The store once a program was created on a connection. -/
def created (c : ConnectionId) (sql : String) (s : Store σ) : Store σ :=
  Store.withConnection
    { s with
      programs := s.programs.push
        { connection := c, sql := Text.trim sql, kind := Kind.classify (Text.trim sql) } }
    c fun x => { x with programs := x.programs ++ [s.programs.next] }

/-- Changes the cache of a connection. -/
def withCache (s : Store σ) (c : ConnectionId)
    (f : Cache CompiledId → Cache CompiledId) : Store σ :=
  s.withConnection c fun x => { x with cache := f x.cache }

theorem program_created (s : Store σ) (c : ConnectionId) (sql : String) (p : ProgramId) :
    (s.created c sql).program p =
      if p = s.programs.next then
        { connection := c, sql := Text.trim sql, kind := Kind.classify (Text.trim sql) }
      else s.program p :=
  Table.get_push ..

theorem cache_created (s : Store σ) (c d : ConnectionId) (sql : String) :
    ((s.created c sql).connection d).cache = (s.connection d).cache :=
  connection_part _ c d (fun x => x.cache) fun _ => rfl

theorem statement_grown (E : Engine σ) (c : ConnectionId) (sql : String) (n : StatementId)
    (s : Store σ) (h : CompiledId) :
    (s.grown E c sql n).statement h =
      if h = s.compiled.next then
        { engine := (s.connection c).engine, statement := n, sql, connection := c }
      else s.statement h :=
  Table.get_push ..

theorem statement_struck (E : Engine σ) (h k : CompiledId) (s : Store σ) :
    (s.struck E h).statement k =
      if k = h ∧ h < s.compiled.next then { s.statement k with destroyed := true }
      else s.statement k :=
  statement_withStatement ..

/-- Destroying one statement leaves the others as they are. -/
theorem statement_struck_of_ne {E : Engine σ} {h k : CompiledId} {s : Store σ} (hk : k ≠ h) :
    (s.struck E h).statement k = s.statement k :=
  statement_withStatement_of_ne hk _

@[simp] theorem connection_struck (E : Engine σ) (h : CompiledId) (s : Store σ)
    (c : ConnectionId) : (s.struck E h).connection c = s.connection c := rfl

@[simp] theorem program_struck (E : Engine σ) (h : CompiledId) (s : Store σ) (p : ProgramId) :
    (s.struck E h).program p = s.program p := rfl

@[simp] theorem statement_withCache (s : Store σ) (c : ConnectionId)
    (f : Cache CompiledId → Cache CompiledId) (h : CompiledId) :
    (s.withCache c f).statement h = s.statement h := rfl

@[simp] theorem program_withCache (s : Store σ) (c : ConnectionId)
    (f : Cache CompiledId → Cache CompiledId) (p : ProgramId) :
    (s.withCache c f).program p = s.program p := rfl

/-- A cache that was never given out has no place to change. -/
theorem cache_withCache (s : Store σ) (c d : ConnectionId)
    (f : Cache CompiledId → Cache CompiledId) :
    ((s.withCache c f).connection d).cache =
      if d = c ∧ c < s.connections.next then f (s.connection d).cache
      else (s.connection d).cache := by
  rw [withCache, connection_withConnection]
  split <;> rfl

/-- What a cache has as an entry after one cache was changed is an entry of that cache, or it was one
before. -/
theorem mem_withCache {s : Store σ} {c d : ConnectionId} {f : Cache CompiledId → Cache CompiledId}
    {e : String × CompiledId} (hm : e ∈ ((s.withCache c f).connection d).cache.entries) :
    (d = c ∧ e ∈ (f (s.connection c).cache).entries) ∨ e ∈ (s.connection d).cache.entries := by
  rw [cache_withCache] at hm
  split at hm
  · next hd => exact .inl ⟨hd.1, hd.1 ▸ hm⟩
  · exact .inr hm

/-- Whether a loose statement may be destroyed: it is idle, or its connection is closed, or
nobody has it in hand. -/
def Spare (g : Grip) (s : Store σ) (h : CompiledId) : Prop :=
  (s.statement h).inUse = false ∨ (s.connection g.connection).isOpen = false ∨
    (g.hand = none ∧ s.isHeld h = false)

/-- A move: one change of a store by an operation, and what the operation is in charge of
before and after it. -/
inductive Move (E : Engine σ) : Moment σ → Moment σ → Prop
  /-- Events are reported. -/
  | report {s g} (es : List Event) : Move E ⟨s, g⟩ ⟨{ s with events := s.events ++ es }, g⟩
  /-- An engine refuses to compile a text. -/
  | refuse {s g sql e} (isOpen : (s.connection g.connection).isOpen = true)
      (answer : (E.run (s.connection g.connection).engine (.compile sql) s.engine).1 = .error e) :
      Move E ⟨s, g⟩ ⟨s.asked E (s.connection g.connection).engine (.compile sql), g⟩
  /-- An engine compiles a text. -/
  | compile {s g sql n} (isOpen : (s.connection g.connection).isOpen = true)
      (free : g.hand = none)
      (answer : (E.run (s.connection g.connection).engine (.compile sql) s.engine).1 = .ok n) :
      Move E ⟨s, g⟩ ⟨s.grown E g.connection sql n, { g with hand := some s.compiled.next }⟩
  /-- The token of the statement at hand is taken. -/
  | claim {s g h} (atHand : g.hand = some h) :
      Move E ⟨s, g⟩ ⟨s.withStatement h fun x => { x with inUse := true }, g⟩
  /-- The token of an idle cached statement is taken, and the statement with it. -/
  | attach {s g sql h} (free : g.hand = none)
      (stored : (sql, h) ∈ (s.connection g.connection).cache.entries)
      (idle : (s.statement h).inUse = false) :
      Move E ⟨s, g⟩
        ⟨s.withStatement h fun x => { x with inUse := true }, { g with hand := some h }⟩
  /-- The entries of the cache are the same, perhaps in another order. -/
  | reorder {s g f} (same : (s.connection g.connection).cache.keys.Nodup →
        (f (s.connection g.connection).cache).entries.Perm
          (s.connection g.connection).cache.entries) :
      Move E ⟨s, g⟩ ⟨s.withCache g.connection f, g⟩
  /-- The claimed statement at hand is stored. -/
  | store {s g h sql} (isOpen : (s.connection g.connection).isOpen = true)
      (referenced : s.isReferenced g.connection = true)
      (atHand : g.hand = some h) (empty : g.loose = [])
      (claimed : (s.statement h).inUse = true) (live : (s.statement h).destroyed = false)
      (key : (s.statement h).sql = sql)
      (absent : (s.connection g.connection).cache.peek? sql = none) :
      Move E ⟨s, g⟩
        ⟨s.withCache g.connection fun x => { x with entries := (sql, h) :: x.entries }, g⟩
  /-- Some entries leave the cache and become loose. -/
  | clear {s g f out} (empty : g.loose = [])
      (parts : (s.connection g.connection).cache.keys.Nodup →
        Cache.Parts (s.connection g.connection).cache (f (s.connection g.connection).cache) out) :
      Move E ⟨s, g⟩ ⟨s.withCache g.connection f, { g with loose := out }⟩
  /-- A loose statement is left alone: it is destroyed already, or in somebody's hands. -/
  | leave {s g h hs} (next : g.loose = h :: hs)
      (settled : (s.statement h).inUse = true ∨ (s.statement h).destroyed = true ∨
        s.isCached h = true ∨ s.isHeld h = true ∨
        (0 < (s.statement h).borrowers ∧ s.isReferenced g.connection = false)) :
      Move E ⟨s, g⟩ ⟨s, { g with loose := hs }⟩
  /-- A loose statement that may be destroyed is destroyed. -/
  | destroyLoose {s g h hs} (next : g.loose = h :: hs)
      (live : (s.statement h).destroyed = false) (spare : Spare g s h) :
      Move E ⟨s, g⟩ ⟨s.struck E h, { g with loose := hs }⟩
  /-- A program takes the statement at hand; its waiting bindings have been replayed. -/
  | hold {s g p h} (actor : g.actor = some p) (atHand : g.hand = some h)
      (home : (s.program p).connection = g.connection)
      (free : (s.program p).held = none) (isOpen : (s.program p).isClosed = false) :
      Move E ⟨s, g⟩
        ⟨s.withProgram p fun x => { x with held := some h, pending := [] },
          { g with hand := none }⟩
  /-- A statement is used by its program, or for the program that it is meant for. -/
  | use {s g h r} (isOpen : (s.connection g.connection).isOpen = true)
      (about : r.target? = some (s.statement h).statement) (used : r.name ≠ .destroy)
      (held : g.hand = some h ∨ ∃ p, g.actor = some p ∧ (s.program p).held = some h ∧
        (s.program p).connection = g.connection) :
      Move E ⟨s, g⟩ ⟨s.asked E (s.statement h).engine r, g⟩
  /-- The waiting bindings of a program change. -/
  | queue {s g p} (own : g.actor = some p ∨ (s.program p).isClosed = true)
      (f : List Binding → List Binding) :
      Move E ⟨s, g⟩ ⟨s.withProgram p fun x => { x with pending := f x.pending }, g⟩
  /-- A program is closed; what it held is at hand, and its reference is owed. -/
  | close {s g p} (free : g.hand = none) (isOpen : (s.program p).isClosed = false)
      (home : (s.program p).connection = g.connection) :
      Move E ⟨s, g⟩
        ⟨s.withProgram p fun x => { x with held := none, pending := [], isClosed := true },
          { g with hand := (s.program p).held, sweep := g.sweep.erase p, owed := g.owed + 1 }⟩
  /-- A program that was to be closed is closed already. -/
  | skip {s g p} (closed : (s.program p).isClosed = true) :
      Move E ⟨s, g⟩ ⟨s, { g with sweep := g.sweep.erase p }⟩
  /-- The statement at hand becomes idle in the cache. -/
  | park {s g h} (atHand : g.hand = some h) (stored : s.isCachedBy g.connection h = true) :
      Move E ⟨s, g⟩
        ⟨s.withStatement h fun x => { x with inUse := false }, { g with hand := none }⟩
  /-- The statement at hand is destroyed, since it is not the cached one. -/
  | destroyHand {s g h} (atHand : g.hand = some h) (empty : g.loose = [])
      (absent : s.isCachedBy g.connection h = false)
      (live : (s.statement h).destroyed = false) :
      Move E ⟨s, g⟩ ⟨s.struck E h, { g with hand := none }⟩
  /-- The statement at hand was destroyed before. -/
  | forget {s g h} (atHand : g.hand = some h) (empty : g.loose = []) (gone : (s.statement h).destroyed = true) :
      Move E ⟨s, g⟩ ⟨s, { g with hand := none }⟩
  /-- A closed program is taken off the list of its connection. -/
  | deregister {s g p} (closed : (s.program p).isClosed = true) :
      Move E ⟨s, g⟩
        ⟨s.withConnection g.connection fun x =>
            { x with programs := x.programs.filter (· != p) }, g⟩
  /-- A reference is taken. -/
  | take {s g} (some : (s.connection g.connection).references ≠ 0)
      (referenced : s.isReferenced g.connection = true) :
      Move E ⟨s, g⟩
        ⟨s.withConnection g.connection fun x => { x with references := x.references + 1 },
          { g with owed := g.owed + 1 }⟩
  /-- A reference is given back, and others remain. -/
  | release {s g n k} (owed : g.owed = k + 1)
      (held : (s.connection g.connection).references = n + 2) :
      Move E ⟨s, g⟩
        ⟨s.withConnection g.connection fun x => { x with references := n + 1 },
          { g with owed := k }⟩
  /-- A reference is given back where none remained. -/
  | releaseNone {s g k} (owed : g.owed = k + 1)
      (held : (s.connection g.connection).references = 0) :
      Move E ⟨s, g⟩ ⟨s, { g with owed := k }⟩
  /-- The last reference to a connection with an empty cache is given back: the connection is
  closed. -/
  | retire {s g k} (owed : g.owed = k + 1)
      (held : (s.connection g.connection).references = 1)
      (drained : (s.connection g.connection).cache.entries = [])
      (referenced : s.isReferenced g.connection = true) :
      Move E ⟨s, g⟩
        ⟨s.withConnection g.connection fun x => { x with references := 0, isOpen := false },
          { g with owed := k }⟩
  /-- A program is created with a reference that was taken for it. -/
  | create {s g k} (sql : String) (owed : g.owed = k + 1)
      (isOpen : (s.connection g.connection).isOpen = true)
      (referenced : s.isReferenced g.connection = true) :
      Move E ⟨s, g⟩
        ⟨s.created g.connection sql, { g with owed := k }⟩
  /-- A connection is closed; its programs are yet to be closed, and its owner's reference is
  owed. -/
  | shut {s g order} (swept : g.sweep = []) (isOpen : (s.connection g.connection).isOpen = true)
      (all : order.Perm (s.connection g.connection).programs) :
      Move E ⟨s, g⟩
        ⟨s.withConnection g.connection fun x => { x with isOpen := false, programs := [] },
          { g with sweep := order, owed := g.owed + 1 }⟩
  /-- A closed program goes out of use. -/
  | dropProgram {s g p} (empty : g.loose = [])
      (home : (s.program p).connection = g.connection) (closed : (s.program p).isClosed = true) :
      Move E ⟨s, g⟩
        ⟨s.withProgram p fun x => { x with isDropped := true }, { g with leaving := true }⟩
  /-- A clone of a connection goes out of use. -/
  | dropClone {s g} (empty : g.loose = []) :
      Move E ⟨s, g⟩
        ⟨s.withConnection g.connection fun x => { x with clones := x.clones - 1 },
          { g with leaving := true }⟩
  /-- A clone of a connection is made. -/
  | clone {s g} (referenced : s.isReferenced g.connection = true) :
      Move E ⟨s, g⟩
        ⟨s.withConnection g.connection fun x => { x with clones := x.clones + 1 }, g⟩
  /-- Something still refers to the connection, or its cache is empty. -/
  | settle {s g} (settled : s.isReferenced g.connection = true ∨
        (s.connection g.connection).cache.entries = []) :
      Move E ⟨s, g⟩ ⟨s, { g with leaving := false }⟩
  /-- A connection is added. -/
  | connect {s g} (i : EngineId) (settings : Settings) :
      Move E ⟨s, g⟩
        ⟨{ s with
            connections := s.connections.push
              { engine := i, logsLifecycle := settings.logsLifecycle,
                cache := { capacity := settings.capacity.toNat } } }, g⟩
  /-- A statement is looked up. -/
  | borrow {s g} (h : CompiledId) :
      Move E ⟨s, g⟩ ⟨s.withStatement h fun x => { x with borrowers := x.borrowers + 1 }, g⟩
  /-- A looked-up statement is given back, and something else still refers to it. -/
  | giveBack {s g h}
      (settled : (s.statement h).destroyed = true ∨ s.isCached h = true ∨ s.isHeld h = true ∨
        1 < (s.statement h).borrowers) :
      Move E ⟨s, g⟩ ⟨s.withStatement h fun x => { x with borrowers := x.borrowers - 1 }, g⟩
  /-- A looked-up statement is given back, and nothing else refers to it. -/
  | destroyReturned {s g h} (free : g.hand = none) (empty : g.loose = [])
      (live : (s.statement h).destroyed = false)
      (absent : s.isCached h = false) (unheld : s.isHeld h = false) :
      Move E ⟨s, g⟩
        ⟨(s.withStatement h fun x => { x with borrowers := x.borrowers - 1 }).struck E h, g⟩

/-- What a run of moves leads to, as a predicate on stores: the moment `m` leads to the store
with this grip. -/
def At (E : Engine σ) (m : Moment σ) (g : Grip) (s : Store σ) : Prop :=
  Relation.ReflTransGen (Move E) m ⟨s, g⟩

theorem At.start {E : Engine σ} {s : Store σ} {g : Grip} : At E ⟨s, g⟩ g s :=
  Relation.ReflTransGen.refl

theorem At.move {E : Engine σ} {m : Moment σ} {g g' : Grip} {s s' : Store σ} (h : At E m g s)
    (hm : Move E ⟨s, g⟩ ⟨s', g'⟩) : At E m g' s' :=
  Relation.ReflTransGen.tail h hm

/-- What every move keeps is kept by a run of moves. -/
theorem At.invariant {E : Engine σ} {m : Moment σ} {g : Grip} {s : Store σ}
    {I : Moment σ → Prop} (step : ∀ a b, Move E a b → I a → I b) (h : At E m g s) (start : I m) :
    I ⟨s, g⟩ := by
  unfold At at h
  generalize (⟨s, g⟩ : Moment σ) = m' at h ⊢
  induction h with
  | refl => exact start
  | tail _ hm ih => exact step _ _ hm ih

end Prepared.Store
