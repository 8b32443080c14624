import Prepared.Proofs.Bookkeeping
import Prepared.Proofs.Retaining
import Prepared.Proofs.Ways

/-! What obtaining a statement makes of the cache.
-/
namespace Prepared.Store

open Operation

variable {σ ε : Type} {E : Engine σ} {s t u : Store σ} {c d : ConnectionId} {h : CompiledId}
  {p : ProgramId} {kind : Kind} {sql : String}

/-- The cache of a connection once a statement was obtained for a text. -/
def obtained (s : Store σ) (c : ConnectionId) (kind : Kind) (sql : String) : Cache CompiledId :=
  let cache := (s.connection c).cache
  if kind.isShared then
    match cache.peek? sql with
    | some h => (cache.touch sql).count (if (s.statement h).inUse then .contention else .hit)
    | none => ((cache.count .miss).insert sql s.compiled.next).2
  else cache.count .uncached

/-- The cache of a connection once it was asked for a text. -/
def lookedUp (s : Store σ) (c : ConnectionId) (kind : Kind) (sql : String) : Cache CompiledId :=
  if kind.isShared then (s.connection c).cache.touch sql else (s.connection c).cache

/-- Whether a connection exists and has this cache. -/
structure Caches (c : ConnectionId) (v : Cache CompiledId) (s : Store σ) : Prop where
  exists_ : c < s.connections.next
  cache : (s.connection c).cache = v

namespace Caches

variable {v w : Cache CompiledId} {α β : Type}

theorem of_connections (hs : Caches c v s) (same : t.connections = s.connections) :
    Caches c v t where
  exists_ := Nat.lt_of_lt_of_eq hs.exists_ (congrArg (fun b => b.next) same).symm
  cache := (congrArg (fun b => (b.get c).cache) same).trans hs.cache

theorem of_tables (hs : Caches c v s) (same : t.tables = s.tables) : Caches c v t :=
  hs.of_connections (congrArg Prod.fst same)

theorem withCache (hs : Caches c v s) (f : Cache CompiledId → Cache CompiledId) :
    Caches c (f v) (s.withCache c f) where
  exists_ := Nat.lt_of_lt_of_eq hs.exists_ (next_withConnection ..).symm
  cache := by rw [cache_withCache, if_pos ⟨rfl, hs.exists_⟩, hs.cache]

theorem keeps {x : Op σ ε α} (hx : Keeps tables x) :
    Ensures (Caches c v) x fun _ => Caches c v :=
  fun s hs => hs.of_tables (hx s)

theorem onCache_bind {f : Cache CompiledId → α × Cache CompiledId} {k : α → Op σ ε β}
    (hk : ∀ a, Ensures (Caches c (f v).2) (k a) fun _ => Caches c w) :
    Ensures (Caches c v) (onCache c f >>= k) fun _ => Caches c w :=
  Ensures.onCache_bind (Q := fun _ => Caches c (f v).2)
    (fun _ hs => hs.withCache fun x => (f x).2) hk

/-- After a text was compiled, what is done with the new statement. -/
theorem compile_bind {n : StatementId} {k : CompiledId → Op σ EngineError β}
    (hs : Caches c v s)
    (answer : (E.run (s.connection c).engine (.compile sql) s.engine).1 = .ok n)
    (hk : Ensures (Caches c v) (k s.compiled.next) fun _ => Caches c w) :
    Caches c w ((compile E c sql >>= k).run s).2 := by
  rw [run_bind, compile_ok answer]
  exact hk _ ⟨hs.exists_, hs.cache⟩

theorem acquireMiss {n : StatementId} (hs : Caches c v s)
    (answer : (E.run (s.connection c).engine (.compile sql) s.engine).1 = .ok n) :
    Caches c ((v.count .miss).insert sql s.compiled.next).2 ((acquireMiss E c sql).run s).2 := by
  refine hs.compile_bind answer ?_
  refine Ensures.claim_bind (Q := fun _ => Caches c v) (fun _ hs _ => hs)
    (fun _ hs _ => hs.of_tables rfl) fun _ => onCache_bind fun _ => onCache_bind fun out =>
    keeps (.bind (.read _) fun _ => .bind trace_tables fun _ =>
      .bind (.attempt (.forAll (fun _ => discard_tables) out)) fun r => ?_)
  cases r with
  | ok _ => exact .pure _
  | error e => exact .bind report_tables fun _ => .pure _

theorem acquireContended {n : StatementId} (hs : Caches c v s)
    (answer : (E.run (s.connection c).engine (.compile sql) s.engine).1 = .ok n) :
    Caches c (v.count .contention) ((acquireContended E c sql h).run s).2 :=
  hs.compile_bind answer <| onCache_bind fun _ => keeps <| .bind (.read _) fun _ =>
    .bind (.read _) fun _ => .bind report_tables fun _ => .pure _

theorem acquireUncached {n : StatementId} (hs : Caches c v s)
    (answer : (E.run (s.connection c).engine (.compile sql) s.engine).1 = .ok n) :
    Caches c (v.count .uncached) ((acquireUncached E c kind sql).run s).2 :=
  hs.compile_bind answer <| onCache_bind fun _ => keeps <| .bind (.read _) fun _ =>
    .bind trace_tables fun _ => .pure _

end Caches

section Acquire

variable (exists_ : c < s.connections.next)

include exists_

/-- A statement is attached to or compiled, and the cache has changed accordingly. -/
theorem acquire_obtains (accepts : s.idle? c kind sql = none →
      ∃ n, (E.run (s.connection c).engine (.compile sql) s.engine).1 = .ok n) :
    Caches c (s.obtained c kind sql) ((acquire E c kind sql).run s).2 := by
  have here : Caches c (s.connection c).cache s := ⟨exists_, rfl⟩
  by_cases shared : kind.isShared = true
  · have touched := here.withCache (·.touch sql)
    have answer {n : StatementId}
        (ok : (E.run (s.connection c).engine (.compile sql) s.engine).1 = .ok n) :
        (E.run ((s.withCache c (·.touch sql)).connection c).engine (.compile sql)
          (s.withCache c (·.touch sql)).engine).1 = .ok n := by
      rw [engine_withCache]
      exact ok
    cases stored : (s.connection c).cache.peek? sql with
    | none =>
      obtain ⟨n, ok⟩ := accepts (by simp [idle?, stored])
      have untouched : (s.connection c).cache.touch sql = (s.connection c).cache := by
        rw [Cache.touch, stored]
      rw [untouched] at touched
      have run : (acquire E c kind sql).run s =
          (acquireMiss E c sql).run (s.withCache c (·.touch sql)) := by
        simp only [acquire, shared, if_true, run_bind, onCache_run, stored]
      have cache : s.obtained c kind sql =
          (((s.connection c).cache.count .miss).insert sql s.compiled.next).2 := by
        simp [obtained, shared, stored]
      rw [run, cache]
      exact touched.acquireMiss (answer ok)
    | some h =>
      cases busy : (s.statement h).inUse with
      | false =>
        have idle : s.idle? c kind sql = some h := by simp [idle?, shared, stored, busy]
        obtain ⟨es, run⟩ := acquire_attached (E := E) idle
        have claimed : Caches c ((s.connection c).cache.touch sql)
            ((s.withCache c (·.touch sql)).withStatement h fun x => { x with inUse := true }) :=
          touched.of_tables rfl
        have cache : s.obtained c kind sql = ((s.connection c).cache.touch sql).count .hit := by
          simp [obtained, shared, stored, busy]
        rw [run, cache]
        exact (claimed.withCache (·.count .hit)).of_tables rfl
      | true =>
        obtain ⟨n, ok⟩ := accepts (by simp [idle?, stored, busy])
        have claimed : (claim h : Op σ EngineError Bool).run (s.withCache c (·.touch sql)) =
            (.ok false, s.withCache c (·.touch sql)) := claim_taken busy
        have run : (acquire E c kind sql).run s =
            (acquireContended E c sql h).run (s.withCache c (·.touch sql)) := by
          simp only [acquire, shared, if_true, run_bind, onCache_run, stored, claimed]
          rfl
        have cache : s.obtained c kind sql =
            ((s.connection c).cache.touch sql).count .contention := by
          simp [obtained, shared, stored, busy]
        rw [run, cache]
        exact touched.acquireContended (answer ok)
  · obtain ⟨n, ok⟩ := accepts (by simp [idle?, shared])
    have cache : s.obtained c kind sql = (s.connection c).cache.count .uncached := if_neg shared
    rw [acquire, if_neg shared, cache]
    exact here.acquireUncached ok

/-- A text that is refused was only looked up. -/
theorem acquire_looksUp {e : EngineError} (none : s.idle? c kind sql = none)
    (answer : (E.run (s.connection c).engine (.compile sql) s.engine).1 = .error e) :
    Caches c (s.lookedUp c kind sql) ((acquire E c kind sql).run s).2 := by
  have here : Caches c (s.connection c).cache s := ⟨exists_, rfl⟩
  rw [acquire_refused none answer]
  unfold looked lookedUp
  split
  · exact (here.withCache (·.touch sql)).of_tables rfl
  · exact here.of_tables rfl

end Acquire

/-- Whether a connection that is asked for a text has an idle statement, or its engine compiles
the text. -/
def Accepts (E : Engine σ) (s : Store σ) (c : ConnectionId) (kind : Kind) (sql : String) : Prop :=
  s.idle? c kind sql = none →
    ∃ n, (E.run (s.connection c).engine (.compile sql) s.engine).1 = .ok n

/-- A text that is not accepted has no idle statement, and is refused. -/
theorem refused_of_not_accepts (refused : ¬ Accepts E s c kind sql) :
    s.idle? c kind sql = none ∧
      ∃ e, (E.run (s.connection c).engine (.compile sql) s.engine).1 = .error e := by
  unfold Accepts at refused
  rw [Classical.not_imp] at refused
  obtain ⟨none, never⟩ := refused
  refine ⟨none, ?_⟩
  cases answer : (E.run (s.connection c).engine (.compile sql) s.engine).1 with
  | ok n => exact absurd ⟨n, answer⟩ never
  | error e => exact ⟨e, rfl⟩

/-- The cache of a connection once a text was asked for, which may have been refused. -/
structure Yields (E : Engine σ) (s : Store σ) (c : ConnectionId) (kind : Kind) (sql : String)
    (v : Cache CompiledId) : Prop where
  accepted : Accepts E s c kind sql → v = s.obtained c kind sql
  refused : ¬ Accepts E s c kind sql → v = s.lookedUp c kind sql

theorem acquire_yields (E : Engine σ) (exists_ : c < s.connections.next) (kind : Kind)
    (sql : String) :
    ∃ v, Yields E s c kind sql v ∧ Caches c v ((acquire E c kind sql).run s).2 := by
  by_cases accepted : Accepts E s c kind sql
  · exact ⟨_, ⟨fun _ => rfl, (absurd accepted ·)⟩, acquire_obtains exists_ accepted⟩
  · obtain ⟨none, e, answer⟩ := refused_of_not_accepts accepted
    exact ⟨_, ⟨(absurd · accepted), fun _ => rfl⟩, acquire_looksUp exists_ none answer⟩

section Programs

variable {v : Cache CompiledId}

/-- Once a statement was obtained for a program, its bindings are replayed, and the cache stays as
it is. -/
theorem ensureCompiled_caches (free : (s.program p).held = none)
    (acquired : Caches c v (acquireFor E p s).2) : Caches c v ((ensureCompiled E p).run s).2 := by
  rcases hu : acquireFor E p s with ⟨e | h, u⟩ <;> rw [hu] at acquired
  · rw [ensureCompiled_refused free hu]
    exact acquired
  · have replayed : Caches c v ((replay E h (s.program p).pending).run u).2 :=
      acquired.of_tables (replay_tables u)
    rcases hr : (replay E h (s.program p).pending).run u with ⟨e | _, w⟩ <;> rw [hr] at replayed
    · rw [ensureCompiled_unbound free hu hr]
      exact replayed.of_tables (abandon_tables w)
    · rw [ensureCompiled_obtained free hu hr]
      exact replayed.of_connections rfl

end Programs

namespace Action

/-- The connection of which an action obtains a statement, with the kind and the text that the
statement is for: a program that holds none is compiled or executed, or is created and
compiled. -/
def obtains (s : Store σ) : Action → Option (ConnectionId × Kind × String)
  | compile p | execute p =>
    let x := s.program p
    if (s.connection x.connection).isOpen && !x.isClosed && x.held.isNone then
      some (x.connection, x.kind, x.sql)
    else none
  | createCompiled c sql =>
    if (s.connection c).isOpen && decide (s.connection c).Grants then
      some (c, Kind.classify (Text.trim sql), Text.trim sql)
    else none
  | _ => none

/-- The text that an action looks up in the cache of a connection, to obtain a statement for
it. -/
def acquires (s : Store σ) (c : ConnectionId) (a : Action) : Option String :=
  match a.obtains s with
  | some (d, kind, sql) => if d = c ∧ kind.isShared = true then some sql else none
  | none => none

theorem acquires_of_obtains {a : Action} (obtains : a.obtains s = some (c, kind, sql))
    (shared : kind.isShared = true) : a.acquires s c = some sql := by
  unfold acquires
  rw [obtains]
  exact if_pos ⟨rfl, shared⟩

theorem acquires_eq_some_iff {a : Action} :
    a.acquires s c = some sql ↔
      ∃ kind, a.obtains s = some (c, kind, sql) ∧ kind.isShared = true := by
  unfold acquires
  rcases a.obtains s with _ | ⟨d, k, text⟩
  · simp
  · by_cases h : d = c ∧ k.isShared = true
    · obtain ⟨rfl, shared⟩ := h
      simp [shared]
    · simp only [if_neg h, Option.some.injEq, Prod.mk.injEq, reduceCtorEq, false_iff]
      rintro ⟨kind, ⟨rfl, rfl, -⟩, shared⟩
      exact h ⟨rfl, shared⟩

/-- A program that obtains a statement is usable and holds none. -/
theorem obtains_program {q : ProgramId} (obtains : (compile q).obtains s = some (c, kind, sql)) :
    Active q s ∧ (s.program q).held = none ∧ (s.program q).connection = c ∧
      (s.program q).kind = kind ∧ (s.program q).sql = sql := by
  dsimp only [Action.obtains] at obtains
  split at obtains
  · next usable =>
    simp only [Bool.and_eq_true, Bool.not_eq_true', Option.isNone_iff_eq_none] at usable
    cases obtains
    exact ⟨⟨usable.1.2, usable.1.1⟩, usable.2, rfl, rfl, rfl⟩
  · nomatch obtains

theorem obtains_created {d : ConnectionId} {text : String}
    (obtains : (createCompiled d text).obtains s = some (c, kind, sql)) :
    (s.connection c).isOpen = true ∧ (s.connection c).Grants ∧ d = c ∧
      Kind.classify (Text.trim text) = kind ∧ Text.trim text = sql := by
  dsimp only [Action.obtains] at obtains
  split at obtains
  · next usable =>
    simp only [Bool.and_eq_true, decide_eq_true_eq] at usable
    simp only [Option.some.injEq, Prod.mk.injEq] at obtains
    obtain ⟨rfl, rfl, rfl⟩ := obtains
    exact ⟨usable.1, usable.2, rfl, rfl, rfl⟩
  · nomatch obtains

/-- How an action obtains a statement: it does so for a program `q` of a store `u` that differs from
`s` at most by this program, and what then remains of it is told by `ends`. -/
structure Procures (E : Engine σ) (s : Store σ) (c : ConnectionId) (kind : Kind) (sql : String)
    (a : Action) (q : ProgramId) (u : Store σ) : Prop where
  actor : a.actor s = some q
  active : Active q u
  free : (u.program q).held = none
  home : (u.program q).connection = c
  kind : (u.program q).kind = kind
  sql : (u.program q).sql = sql
  cache : (u.connection c).cache = (s.connection c).cache
  client : (u.connection c).engine = (s.connection c).engine
  engine : u.engine = s.engine
  compiled : u.compiled = s.compiled
  obtained : ∀ h t, (ensureCompiled E q).run u = (.ok h, t) → (a.perform E s).2 = t ∨
    (a.perform E s).2 = t.asked E (t.statement h).engine (.execute (t.statement h).statement)
  failed : ∀ e t, (ensureCompiled E q).run u = (.error e, t) → (a.perform E s).1 = false ∧
    ((a.perform E s).2 = t ∨ (u.program q).pending = [] ∧
      (a.perform E s).2 = ((Store.dropProgram E q : Op σ ProgramError Unit).run t).2)

theorem procures {a : Action} (obtains : a.obtains s = some (c, kind, sql)) :
    ∃ q u, Procures E s c kind sql a q u := by
  cases a with
  | compile q =>
    obtain ⟨active, free, rfl, rfl, rfl⟩ := obtains_program obtains
    have run {r : Except EngineError CompiledId × Store σ}
        (ensured : (ensureCompiled E q).run s = r) :
        (compile q).perform E s = (r.1.isOk, r.2) := by
      have := compileProgram_usable active.verified ensured
      rcases r with ⟨_ | _, _⟩ <;> exact congrArg (fun x => (x.1.isOk, x.2)) this
    exact ⟨q, s, rfl, active, free, rfl, rfl, rfl, rfl, rfl, rfl, rfl,
      fun h t ensured => .inl (congrArg Prod.snd (run ensured)),
      fun e t ensured => ⟨congrArg Prod.fst (run ensured), .inl (congrArg Prod.snd (run ensured))⟩⟩
  | execute q =>
    obtain ⟨active, free, rfl, rfl, rfl⟩ := obtains_program obtains
    exact ⟨q, s, rfl, active, free, rfl, rfl, rfl, rfl, rfl, rfl, rfl,
      fun h t ensured => .inr (congrArg Prod.snd (execute_obtained active.verified ensured)),
      fun e t ensured =>
        have run := execute_refused active.verified ensured
        ⟨congrArg (fun x => x.1.isOk) run, .inl (congrArg Prod.snd run)⟩⟩
  | createCompiled d text =>
    obtain ⟨isOpen, grants, rfl, rfl, rfl⟩ := obtains_created obtains
    let p := s.programs.next
    let t := s.withConnection d fun x => { x with references := x.references + 1 }
    let u := t.created d text
    have created : (Store.createDeferred d text).run s = (.ok p, u) :=
      createDeferred_ok text isOpen grants
    obtain ⟨v, made, own, active, -⟩ := createDeferred_active text isOpen grants
    have same : v = u := congrArg Prod.snd (made.symm.trans created)
    rw [same] at own active
    have part {β : Type} (part : Connection → β)
        (references : ∀ x n, part { x with references := n } = part x)
        (programs : ∀ x ps, part { x with programs := ps } = part x) :
        part (u.connection d) = part (s.connection d) :=
      (connection_part _ d d part fun x => programs x _).trans
        (connection_part s d d part fun x => references x _)
    refine ⟨p, u, rfl, active, by rw [own], by rw [own], by rw [own], by rw [own],
      part (fun x => x.cache) (fun _ _ => rfl) fun _ _ => rfl,
      part (fun x => x.engine) (fun _ _ => rfl) fun _ _ => rfl, rfl, rfl, fun h v ensured => ?_,
      fun e v ensured => ?_⟩
    · have compiled := compileProgram_usable active.verified ensured
      exact .inl (congrArg Prod.snd (createCompiled_ok created compiled))
    -- a program that cannot be compiled is closed again
    · have compiled := compileProgram_usable active.verified ensured
      have run := createCompiled_error created compiled
      exact ⟨congrArg (fun x => x.1.isOk) run, .inr ⟨by rw [own], congrArg Prod.snd run⟩⟩
  | _ => nomatch obtains

namespace Procures

variable {a : Action} {q : ProgramId} (way : Procures E s c kind sql a q u)

include way

theorem idle? : u.idle? c kind sql = s.idle? c kind sql := by
  unfold Store.idle? statement
  rw [way.cache, way.compiled]

theorem answer : E.run (u.connection c).engine (.compile sql) u.engine =
    E.run (s.connection c).engine (.compile sql) s.engine := by
  rw [way.client, way.engine]

theorem yields {v : Cache CompiledId} (h : Yields E u c kind sql v) : Yields E s c kind sql v := by
  have accepts : Accepts E s c kind sql ↔ Accepts E u c kind sql := by
    unfold Accepts
    rw [way.idle?, way.answer]
  have obtained : u.obtained c kind sql = s.obtained c kind sql := by
    unfold Store.obtained statement
    rw [way.cache, way.compiled]
  have lookedUp : u.lookedUp c kind sql = s.lookedUp c kind sql := by
    unfold Store.lookedUp
    rw [way.cache]
  exact ⟨fun accepted => obtained ▸ h.accepted (accepts.1 accepted),
    fun refused => lookedUp ▸ h.refused fun accepted => refused (accepts.2 accepted)⟩

end Procures

/-- What an action makes of the cache of the connection of which it obtains a statement. -/
theorem yields {a : Action} (obtains : a.obtains s = some (c, kind, sql)) :
    ∃ v, Yields E s c kind sql v ∧ Remains c v (a.perform E s).2 := by
  obtain ⟨q, u, way⟩ := procures (E := E) obtains
  obtain ⟨v, yields, acquired⟩ :=
    acquire_yields E (way.home ▸ lt_of_isOpen way.active.isOpen) kind sql
  refine ⟨v, way.yields yields, ?_⟩
  have ensured : Caches c v ((ensureCompiled E q).run u).2 := by
    refine ensureCompiled_caches way.free ?_
    unfold acquireFor
    rw [way.home, way.kind, way.sql]
    exact acquired
  rcases hr : (ensureCompiled E q).run u with ⟨e | h, t⟩ <;> rw [hr] at ensured
  · rcases (way.failed e t hr).2 with after | ⟨-, after⟩ <;> rw [after]
    · exact .of_eq ensured.cache
    · rw [← ensured.cache]
      exact (retains_dropProgram (ε := ProgramError) t).cache
  · rcases way.obtained h t hr with after | after <;> rw [after]
    · exact .of_eq ensured.cache
    · exact .of_eq ensured.cache

/-- A program that obtains no statement is not usable, or holds one. -/
theorem not_obtains_program {q : ProgramId} (obtains : (compile q).obtains s = none) :
    (∃ e, (verifyUsable q).run s = (.error (.usage e), s)) ∨
      ∃ h, (s.program q).held = some h ∧ (verifyUsable q).run s = (.ok (), s) := by
  rcases verifyUsable_cases q s with ⟨live, isOpen, verified⟩ | unusable
  · cases held : (s.program q).held with
    | none => simp [Action.obtains, live, isOpen, held] at obtains
    | some h => exact .inr ⟨h, rfl, verified⟩
  · exact .inl unusable

/-- A program that obtains no statement is left alone, and its statement may be executed. -/
theorem compile_kept {q : ProgramId} (obtains : (compile q).obtains s = none) :
    ((compile q).perform E s).2 = s := by
  rcases not_obtains_program obtains with ⟨e, unusable⟩ | ⟨h, held, verified⟩
  · exact congrArg Prod.snd (compileProgram_unusable unusable)
  · exact congrArg Prod.snd (compileProgram_usable verified (ensureCompiled_held held))

theorem execute_kept {q : ProgramId} (obtains : (execute q).obtains s = none) :
    ((execute q).perform E s).2 = s ∨ ∃ i r, ((execute q).perform E s).2 = s.asked E i r := by
  rcases not_obtains_program obtains with ⟨e, unusable⟩ | ⟨h, held, verified⟩
  · exact .inl (congrArg Prod.snd (execute_unusable unusable))
  · exact .inr ⟨_, _, congrArg Prod.snd (execute_obtained verified (ensureCompiled_held held))⟩

/-- A program that is refused is not created. -/
theorem createCompiled_kept {d : ConnectionId} {text : String}
    (obtains : (createCompiled d text).obtains s = none) :
    ((createCompiled d text).perform E s).2 = s := by
  have refused : (s.connection d).isOpen = false ∨ ¬ (s.connection d).Grants := by
    by_contra usable
    rw [not_or, Bool.not_eq_false, not_not] at usable
    simp [Action.obtains, usable.1, usable.2] at obtains
  obtain ⟨e, unmade⟩ := createDeferred_error text refused
  show ((Store.createCompiled E d text).run s).2 = s
  simp only [Store.createCompiled, run_bind, unmade]

/-- What an action that obtains no statement makes of a cache, unless it is to change it. -/
theorem caches_kept {a : Action} (obtains : a.obtains s = none) (exists_ : c < s.connections.next)
    (evict : ∀ text, a ≠ .evict c text) (resize : ∀ n, a ≠ .setCapacity c n) :
    Remains c (s.connection c).cache (a.perform E s).2 := by
  have same (kept : (a.perform E s).2 = s) :
      Remains c (s.connection c).cache (a.perform E s).2 :=
    .of_eq (congrArg (fun t => (t.connection c).cache) kept)
  have taken (d : ConnectionId) : ((s.withConnection d fun x =>
      { x with references := x.references + 1 }).connection c).cache = (s.connection c).cache :=
    connection_part s d c (fun x => x.cache) fun _ => rfl
  have led {α ε : Type} {x : Op σ ε α} (hx : Leads (Retains c) x) :
      Remains c (s.connection c).cache (x.run s).2 :=
    (hx s).cache
  have pushed (x : Connection) :
      (({ s with connections := s.connections.push x } : Store σ).connection c).cache =
        (s.connection c).cache := by
    rw [connection_pushed, if_neg (Nat.ne_of_lt exists_)]
  cases a with
  | openConnection i settings =>
    show Remains c _ ((Store.openConnection i settings).run s).2
    unfold Store.openConnection
    cases settings.validate with
    | ok settings => exact .of_eq (pushed _)
    | error e => exact .of_eq rfl
  | openDefault i => exact .of_eq (pushed _)
  | cloneConnection d => exact .of_eq (connection_part s d c (fun x => x.cache) fun _ => rfl)
  | dropConnection d =>
    let t := s.withConnection d fun x => { x with clones := x.clones - 1 }
    have cache : (t.connection c).cache = (s.connection c).cache :=
      connection_part s d c (fun x => x.cache) fun _ => rfl
    rw [← cache]
    exact (retains_dropConnectionIfUnreferenced (ε := Empty) t).cache
  | closeConnection d order => exact led retains_closeInOrder
  | acquireReference d =>
    by_cases grants : (s.connection d).Grants
    · refine .of_eq (Eq.trans ?_ (taken d))
      simp [perform, outcome, acquireReference_ok grants]
    · exact same (congrArg Prod.snd (acquireReference_error grants))
  | releaseReference d => exact led retains_releaseReference
  | lookup d text => exact led (ε := Empty) retains_lookup
  | giveBack h => exact led (ε := Empty) retains_giveBack
  | evict d text => exact led (retains_evict fun same => evict text (same ▸ rfl))
  | setCapacity d n => exact led (retains_setCapacity fun same => resize n (same ▸ rfl))
  | createDeferred d text =>
    by_cases usable : (s.connection d).isOpen = false ∨ ¬ (s.connection d).Grants
    · obtain ⟨e, unmade⟩ := createDeferred_error text usable
      exact .of_eq (congrArg (fun r => (r.2.connection c).cache) unmade)
    · rw [not_or, Bool.not_eq_false, not_not] at usable
      refine .of_eq ((congrArg (fun r => (r.2.connection c).cache)
        (createDeferred_ok text usable.1 usable.2)).trans ?_)
      exact (cache_created ..).trans (taken d)
  | createCompiled d text => exact same (createCompiled_kept obtains)
  | bindValue q position value => exact led retains_bindValue
  | bindPresent q position value =>
    cases value with
    | none => exact .of_eq rfl
    | some v => exact led retains_bindValue
  | clearBindings q => exact led retains_clearBindings
  | compile q => exact same (compile_kept obtains)
  | execute q =>
    rcases execute_kept (E := E) obtains with kept | ⟨i, r, kept⟩
    · exact same kept
    · exact .of_eq (congrArg (fun t => (t.connection c).cache) kept)
  | closeProgram q => exact led retains_tearDown
  | dropProgram q => exact led (ε := Empty) retains_dropProgram

/-- The connection of which an action obtains a statement is the one that it works on. -/
theorem connection_of_obtains {a : Action} (obtains : a.obtains s = some (c, kind, sql)) :
    a.connection s = c := by
  cases a with
  | compile q | execute q => exact (obtains_program obtains).2.2.1
  | createCompiled d text => exact (obtains_created obtains).2.2.1
  | _ => nomatch obtains

end Action

/-- A cache in which nothing was ever stored. -/
structure Unused (v : Cache CompiledId) : Prop where
  entries : v.entries = []
  counters : v.counters = {}

/-- A move changes no connection but the one that is worked on, and may add one. -/
theorem Move.elsewhere {a b : Moment σ} (hm : Move E a b) (other : c ≠ a.grip.connection) :
    b.store.connection c = a.store.connection c ∨
      c = a.store.connections.next ∧ Unused (b.store.connection c).cache := by
  have kept (t : Store σ) (f : Connection → Connection) :
      (t.withConnection a.grip.connection f).connection c = t.connection c := by
    rw [connection_withConnection, if_neg fun hn => other hn.1]
  cases hm with
  | reorder | store | clear | deregister | take | release | retire | shut | dropClone | clone |
    create => exact .inl (kept _ _)
  | @connect s g i settings =>
    rw [connection_pushed]
    split
    · next new => exact .inr ⟨new, rfl, rfl⟩
    · exact .inl rfl
  | _ => exact .inl rfl

theorem Action.elsewhere (registered : Registered s) {a : Action} (allowed : a.Allowed s)
    (other : c ≠ a.connection s) (exists_ : c < s.connections.next) :
    (a.perform E s).2.connection c = s.connection c := by
  have moves := a.moves (E := E) registered allowed
  refine (moves.invariant (I := fun m => m.grip.connection = a.connection s ∧ Extends s m.store ∧
    m.store.connection c = s.connection c) (fun m n hm ⟨home, old, same⟩ =>
      ⟨hm.connection.trans home, old.trans hm.extends, ?_⟩) ⟨rfl, .refl s, rfl⟩).2.2
  have here : c < m.store.connections.next := Nat.lt_of_lt_of_le exists_ old.connections
  rcases hm.elsewhere (home ▸ other) with kept | ⟨new, -⟩
  · exact kept.trans same
  · exact absurd new (Nat.ne_of_lt here)

/-- A connection that an action adds has an unused cache. -/
theorem Action.unused (sound : Sound ⟨s, { connection := 0 }⟩) {a : Action} (allowed : a.Allowed s)
    (new : s.connections.next ≤ c) : Unused ((a.perform E s).2.connection c).cache := by
  have before : s.connection c = default := Table.get_of_le _ new
  rcases a.exists_or_adds (E := E) sound.rooted allowed with old | same | ⟨-, i, settings, added⟩
  · have moves := a.moves (E := E) sound.registered allowed
    refine (moves.invariant (I := fun m => m.grip.connection = a.connection s ∧
      Unused (m.store.connection c).cache) (fun m n hm ⟨home, unused⟩ =>
        ⟨hm.connection.trans home, ?_⟩) ⟨rfl, before ▸ ⟨rfl, rfl⟩⟩).2
    have other : c ≠ m.grip.connection := home ▸ Nat.ne_of_gt (Nat.lt_of_lt_of_le old new)
    rcases hm.elsewhere other with kept | ⟨-, unused⟩
    · exact kept ▸ unused
    · exact unused
  · rw [same, before]
    exact ⟨rfl, rfl⟩
  · rw [added]
    show Unused (({ s with connections := s.connections.push _ } : Store σ).connection c).cache
    rw [connection_pushed]
    split
    · exact ⟨rfl, rfl⟩
    · rw [before]
      exact ⟨rfl, rfl⟩

/-! The operations that are there to change a cache. -/

section Changes

variable {v : Cache CompiledId}

theorem evict_caches (text : String) :
    Ensures (Caches c v) (evict E c text) fun _ => Caches c (v.erase (Text.trim text)).2 := by
  refine Caches.onCache_bind fun out => ?_
  cases out with
  | none => exact .keeps (.pure _)
  | some h => exact .keeps (.bind discard_tables fun _ => .pure _)

theorem setCapacity_caches (n : Nat) : Ensures (Caches c v) (setCapacity E c n) fun _ t =>
    Caches c v t ∨ v.capacity ≤ n ∧ Caches c (v.resize n).2 t := by
  have resized : Ensures (Caches c v) (onCache c (·.resize n) >>= fun out =>
      mapError ProgramError.engine (forAll (discard E) out)) fun _ => Caches c (v.resize n).2 :=
    Caches.onCache_bind fun out => .keeps (.mapError (.forAll (fun _ => discard_tables) out))
  refine .ite (fun _ => .throw fun _ => .inl) fun _ => .read_bind fun x =>
    .ite (fun _ => .throw fun _ hs => .inl hs.1) fun room s ⟨hs, known⟩ => .inr ⟨?_, resized s hs⟩
  rw [← hs.cache, known]
  exact Nat.le_of_not_lt room

end Changes

/-- What an action makes of the cache of a connection: a statement may be obtained of it, a text
evicted from it, or its capacity changed, and otherwise it is kept. -/
inductive Action.Turns (E : Engine σ) (s : Store σ) (c : ConnectionId) (a : Action) :
    Cache CompiledId → Prop
  | obtained {kind : Kind} {sql : String} {v : Cache CompiledId}
      (obtains : a.obtains s = some (c, kind, sql)) (yields : Yields E s c kind sql v) :
      Turns E s c a v
  | evicted (text : String) (evicts : a = .evict c text) :
      Turns E s c a ((s.connection c).cache.erase (Text.trim text)).2
  | resized (n : Nat) (resizes : a = .setCapacity c n)
      (grows : (s.connection c).cache.capacity ≤ n) :
      Turns E s c a ((s.connection c).cache.resize n).2
  | kept (unasked : ∀ kind sql, a.obtains s ≠ some (c, kind, sql))
      (unevicted : ∀ text, a ≠ .evict c text) : Turns E s c a (s.connection c).cache

/-- Every action makes something of a cache, which stays until its connection goes out of use. -/
theorem Action.turns {a : Action} (exists_ : c < s.connections.next) (registered : Registered s)
    (allowed : a.Allowed s) : ∃ v, a.Turns E s c v ∧ Remains c v (a.perform E s).2 := by
  have here : Caches c (s.connection c).cache s := ⟨exists_, rfl⟩
  rcases obtains : a.obtains s with _ | ⟨d, kind, text⟩
  · have unasked (kind : Kind) (sql : String) : a.obtains s ≠ some (c, kind, sql) :=
      fun same => nomatch obtains.symm.trans same
    by_cases evicts : ∃ text, a = .evict c text
    · obtain ⟨text, rfl⟩ := evicts
      exact ⟨_, .evicted text rfl, .of_eq (evict_caches text s here).cache⟩
    have unevicted (text : String) : a ≠ .evict c text := fun same => evicts ⟨text, same⟩
    by_cases resizes : ∃ n, a = .setCapacity c n
    · obtain ⟨n, rfl⟩ := resizes
      rcases setCapacity_caches (E := E) n s here with kept | ⟨grows, resized⟩
      · exact ⟨_, .kept unasked unevicted, .of_eq kept.cache⟩
      · exact ⟨_, .resized n rfl grows, .of_eq resized.cache⟩
    · exact ⟨_, .kept unasked unevicted,
        caches_kept obtains exists_ unevicted fun n same => resizes ⟨n, same⟩⟩
  · by_cases own : d = c
    · subst own
      obtain ⟨v, yields, remains⟩ := yields (E := E) obtains
      exact ⟨v, .obtained obtains yields, remains⟩
    · have other : c ≠ a.connection s :=
        fun h => own ((connection_of_obtains obtains).symm.trans h.symm)
      refine ⟨_, .kept (fun kind sql same => ?_) fun text same => ?_,
        .of_eq (congrArg Connection.cache (elsewhere registered allowed other exists_))⟩
      · rw [obtains] at same
        cases same
        exact own rfl
      · rw [same] at obtains
        nomatch obtains

end Prepared.Store
