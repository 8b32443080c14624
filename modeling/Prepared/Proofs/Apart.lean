import Prepared.Proofs.Obtained

/-! Statements of a program's own.

A text is compiled for one program alone when statements of its kind are not shared, when the
cached one is in use, and when nothing can be cached. Such a statement does not enter the cache
and displaces nothing, so once it is given up all is as it was. A statement that is obtained in
any other way is the cached one of its text then. -/
namespace Prepared

/-- What is stored is found, if there is room for anything. -/
theorem Cache.peek?_insert {α : Type} {c : Cache α} (key : String) (a : α) (room : c.capacity ≠ 0) :
    (c.insert key a).2.peek? key = some a := by
  obtain ⟨n, capacity⟩ := Nat.exists_eq_succ_of_ne_zero room
  simp [insert, trim, countEvictions, peek?, capacity]

namespace Store

open Operation

variable {σ ε : Type} {E : Engine σ} {s t u : Store σ} {c : ConnectionId} {kind : Kind}
  {sql : String} {h : CompiledId}

/-- Whether a text has to be compiled for one program alone. -/
def Private (s : Store σ) (c : ConnectionId) (kind : Kind) (sql : String) : Prop :=
  kind.isShared = true → match (s.connection c).cache.peek? sql with
    | some h => (s.statement h).inUse = true
    | none => (s.connection c).cache.capacity = 0

/-- A statement was compiled for one program alone: the others are as they were, and so is what is
cached for the text. -/
structure Apart (s : Store σ) (c : ConnectionId) (sql : String) (h : CompiledId) (t : Store σ) :
    Prop where
  new : h = s.compiled.next
  text : (t.statement h).sql = sql
  destroyed : ∀ k, (t.statement k).destroyed = if k = h then false else (s.statement k).destroyed
  inUse : ∀ k ≠ h, (t.statement k).inUse = (s.statement k).inUse
  cached : (t.connection c).cache.peek? sql = (s.connection c).cache.peek? sql
  capacity : (t.connection c).cache.capacity = (s.connection c).cache.capacity

namespace Apart

theorem events (ht : Apart s c sql h t) (es : List Event) :
    Apart s c sql h { t with events := t.events ++ es } :=
  ⟨ht.new, ht.text, ht.destroyed, ht.inUse, ht.cached, ht.capacity⟩

theorem withEngine (ht : Apart s c sql h t) (engine : σ) :
    Apart s c sql h { t with engine } :=
  ⟨ht.new, ht.text, ht.destroyed, ht.inUse, ht.cached, ht.capacity⟩

theorem withCache (ht : Apart s c sql h t) {f : Cache CompiledId → Cache CompiledId}
    (hf : ∀ x, (f x).peek? sql = x.peek? sql ∧ (f x).capacity = x.capacity) :
    Apart s c sql h (t.withCache c f) where
  new := ht.new
  text := ht.text
  destroyed := ht.destroyed
  inUse := ht.inUse
  cached := (connection_part t c c (fun x => x.cache.peek? sql) fun x => (hf x.cache).1).trans
    ht.cached
  capacity := (connection_part t c c (fun x => x.cache.capacity) fun x => (hf x.cache).2).trans
    ht.capacity

theorem claimed (ht : Apart s c sql h t) :
    Apart s c sql h (t.withStatement h fun x => { x with inUse := true }) where
  new := ht.new
  text := by
    rw [← ht.text]
    exact statement_part t h h (fun x => x.sql) fun _ => rfl
  destroyed k := by
    rw [← ht.destroyed k]
    exact destroyed_withStatement t h k fun _ => rfl
  inUse k hk := by
    rw [statement_withStatement_of_ne hk]
    exact ht.inUse k hk
  cached := ht.cached
  capacity := ht.capacity

/-- Of the statements that are not destroyed it is the only one that was not there before. -/
theorem others (ht : Apart s c sql h t) (k : CompiledId) :
    (k ≠ h ∧ (t.statement k).destroyed = false) ↔ (s.statement k).destroyed = false := by
  constructor
  · intro ⟨hk, live⟩
    rw [ht.destroyed, if_neg hk] at live
    exact live
  · intro live
    have hk : k ≠ h := ht.new ▸ Nat.ne_of_lt (lt_of_not_destroyed live)
    rw [ht.destroyed, if_neg hk]
    exact ⟨hk, live⟩

end Apart

theorem destroyed_attached (s : Store σ) (c : ConnectionId) (sql : String) (h : CompiledId)
    (es : List Event) (k : CompiledId) :
    (({ s.attached c sql h with events := es } : Store σ).statement k).destroyed =
      (s.statement k).destroyed :=
  destroyed_withStatement (s.withCache c (·.touch sql)) h k fun _ => rfl

/-- What an acquisition apart from the cache ends with. -/
def ObtainsApart (s : Store σ) (c : ConnectionId) (sql : String) (r : Except EngineError CompiledId)
    (t : Store σ) : Prop :=
  ∀ h, r = .ok h → Apart s c sql h t

theorem compile_apart :
    Ensures (· = s.looked c kind sql) (compile E c sql) (ObtainsApart s c sql) := by
  rintro w rfl h hr
  have compiled : (s.looked c kind sql).compiled = s.compiled := by
    unfold looked
    split <;> rfl
  have cache : ((s.looked c kind sql).connection c).cache.peek? sql =
        (s.connection c).cache.peek? sql ∧
      ((s.looked c kind sql).connection c).cache.capacity = (s.connection c).cache.capacity := by
    unfold looked
    split
    · exact ⟨connection_part s c c (fun x => x.cache.peek? sql) fun x => Cache.peek?_touch ..,
        connection_part s c c (fun x => x.cache.capacity) fun x => Cache.capacity_touch ..⟩
    · exact ⟨rfl, rfl⟩
  cases answer : (E.run ((s.looked c kind sql).connection c).engine (.compile sql)
      (s.looked c kind sql).engine).1 with
  | error e =>
    rw [compile_error answer] at hr
    nomatch hr
  | ok n =>
    rw [compile_ok answer] at hr ⊢
    obtain rfl := Except.ok.inj hr
    have statement (k : CompiledId) : (s.looked c kind sql).statement k = s.statement k :=
      congrArg (fun x => x.get k) compiled
    refine ⟨congrArg Table.next compiled, ?_, fun k => ?_, fun k hk => ?_, cache.1, cache.2⟩
    · rw [statement_grown, if_pos rfl]
    · rw [statement_grown, ← statement]
      split <;> rfl
    · rw [statement_grown, if_neg hk, statement]

section Acquire

variable {cached : CompiledId}

theorem acquireUncached_apart :
    Ensures (· = s.looked c kind sql) (acquireUncached E c kind sql) (ObtainsApart s c sql) := by
  refine compile_apart.bind (fun h => ?_) fun _ _ _ => nofun
  refine Ensures.onCache_bind (Q := fun _ => Apart s c sql h)
    (fun t ht => (ht h rfl).withCache fun _ => ⟨rfl, rfl⟩) fun _ => ?_
  refine .read_bind fun x => Ensures.trace_bind (fun t es ht => ⟨ht.1.events es, ht.2⟩) ?_
  refine .pure fun t ht k hk => ?_
  cases hk
  exact ht.1

theorem acquireContended_apart :
    Ensures (· = s.looked c kind sql) (acquireContended E c sql cached) (ObtainsApart s c sql) := by
  refine compile_apart.bind (fun h => ?_) fun _ _ _ => nofun
  refine Ensures.onCache_bind (Q := fun _ => Apart s c sql h)
    (fun t ht => (ht h rfl).withCache fun _ => ⟨rfl, rfl⟩) fun _ => ?_
  refine .read_bind fun x => .read_bind fun y => .change_bind (M := Apart s c sql h)
    (fun t ht => ht.1.1.events _) ?_
  refine .pure fun t ht k hk => ?_
  cases hk
  exact ht

/-- Nothing is displaced from a cache without capacity. -/
theorem acquireMiss_apart (full : (s.connection c).cache.capacity = 0) :
    Ensures (· = s.looked c kind sql) (acquireMiss E c sql) (ObtainsApart s c sql) := by
  refine compile_apart.bind (fun h => ?_) fun _ _ _ => nofun
  refine Ensures.claim_bind (Q := fun _ => Apart s c sql h) (fun t ht _ => ht h rfl)
    (fun t ht _ => (ht h rfl).claimed) fun _ => ?_
  refine Ensures.onCache_bind (Q := fun _ => Apart s c sql h)
    (fun t ht => ht.withCache fun _ => ⟨rfl, rfl⟩) fun _ => ?_
  refine Ensures.onCache_bind (Q := fun out t => Apart s c sql h t ∧ out = []) (fun t ht => ?_)
    fun out => .of_fact fun nothing => ?_
  · have none : (t.connection c).cache.insert sql h = ([], (t.connection c).cache) :=
      Cache.insert_of_zero sql h (ht.capacity.trans full)
    have same : (t.withCache c fun x => (x.insert sql h).2) = t.withCache c fun x => x :=
      withConnection_congr (by dsimp only; rw [none])
    rw [same, none]
    exact ⟨ht.withCache fun _ => ⟨rfl, rfl⟩, rfl⟩
  · rw [nothing]
    refine .read_bind fun x => Ensures.trace_bind (fun t es ht => ⟨ht.1.events es, ht.2⟩) ?_
    refine .pure fun t ht k hk => ?_
    cases hk
    exact ht.1

end Acquire

/-- A text that is to be cached and is not cached yet is compiled. -/
theorem acquire_missed (shared : kind.isShared = true)
    (stored : (s.connection c).cache.peek? sql = none) :
    (acquire E c kind sql).run s = (acquireMiss E c sql).run (s.withCache c (·.touch sql)) := by
  simp only [acquire, shared, if_true, run_bind, onCache_run, stored]

/-- A text that is compiled for one program alone is compiled apart from the cache. -/
theorem Private.acquire (own : s.Private c kind sql)
    (acquired : (acquire E c kind sql).run s = (.ok h, u)) : Apart s c sql h u := by
  by_cases shared : kind.isShared = true
  · have lookedUp : s.looked c kind sql = s.withCache c (·.touch sql) := if_pos shared
    have apart := own shared
    cases stored : (s.connection c).cache.peek? sql with
    | none =>
      rw [stored] at apart
      have ends := (acquireMiss_apart apart :
        Ensures (· = s.looked c kind sql) (acquireMiss E c sql) _) _ rfl
      rw [lookedUp, ← acquire_missed shared stored, acquired] at ends
      exact ends h rfl
    | some k =>
      rw [stored] at apart
      have claimed : (claim k : Op σ EngineError Bool).run (s.withCache c (·.touch sql)) =
          (.ok false, s.withCache c (·.touch sql)) := claim_taken apart
      have run : (Store.acquire E c kind sql).run s =
          (acquireContended E c sql k).run (s.looked c kind sql) := by
        simp only [Store.acquire, shared, if_true, run_bind, onCache_run, stored, lookedUp, claimed]
        rfl
      have ends := (acquireContended_apart :
        Ensures (· = s.looked c kind sql) (acquireContended E c sql k) (ObtainsApart s c sql)) _ rfl
      rw [← run, acquired] at ends
      exact ends h rfl
  · have ends := (acquireUncached_apart :
      Ensures (· = s.looked c kind sql) (acquireUncached E c kind sql) (ObtainsApart s c sql)) _ rfl
    have run : (Store.acquire E c kind sql).run s =
        (acquireUncached E c kind sql).run (s.looked c kind sql) := by
      rw [Store.acquire, if_neg shared, looked, if_neg shared]
    rw [← run, acquired] at ends
    exact ends h rfl

/-- Where a text is compiled for one program alone nothing idle is cached for it. -/
theorem Private.idle? (own : s.Private c kind sql) : s.idle? c kind sql = none := by
  unfold Store.idle?
  split
  · next shared =>
    have busy := own shared
    split at busy
    · next h stored => simp [stored, busy]
    · next stored => simp [stored]
  · rfl

/-- It stays so as long as what is cached for the text does. -/
theorem Private.of_apart (own : s.Private c kind sql) (apart : Apart s c sql h u)
    (given : ∀ k, (s.connection c).cache.peek? sql = some k → k ≠ h)
    (connection : t.connection c = u.connection c)
    (inUse : ∀ k ≠ h, (t.statement k).inUse = (u.statement k).inUse) : t.Private c kind sql := by
  intro shared
  have before := own shared
  rw [connection, apart.cached, apart.capacity]
  cases stored : (s.connection c).cache.peek? sql with
  | none =>
    rw [stored] at before
    exact before
  | some k =>
    rw [stored] at before
    have other := given k stored
    exact (inUse k other).trans ((apart.inUse k other).trans before)

/-- What was obtained was idle in the cache, or its text was compiled. -/
theorem answer_of_acquired (none : s.idle? c kind sql = none)
    (acquired : (acquire E c kind sql).run s = (.ok h, u)) :
    h = s.compiled.next ∧
      ∃ n, (E.run (s.connection c).engine (.compile sql) s.engine).1 = .ok n := by
  cases acquire_cases acquired with
  | attached idle => nomatch none.symm.trans idle
  | compiled _ answer => exact ⟨rfl, _, answer⟩

/-- A statement that was not compiled for one program alone is the cached one of its text. -/
theorem acquire_stored (exists_ : c < s.connections.next) (common : ¬ s.Private c kind sql)
    (acquired : (acquire E c kind sql).run s = (.ok h, u)) :
    kind.isShared = true ∧ (u.connection c).cache.peek? sql = some h := by
  obtain ⟨shared, room⟩ := Classical.not_imp.1 common
  have caches : Caches c (s.obtained c kind sql) ((acquire E c kind sql).run s).2 :=
    acquire_obtains exists_ fun none => (answer_of_acquired none acquired).2
  rw [acquired] at caches
  refine ⟨shared, ?_⟩
  rw [caches.cache]
  cases stored : (s.connection c).cache.peek? sql with
  | none =>
    rw [stored] at room
    have none : s.idle? c kind sql = none := by simp [idle?, stored]
    rw [(answer_of_acquired none acquired).1]
    simp only [obtained, shared, if_true, stored]
    exact Cache.peek?_insert sql _ room
  | some k =>
    rw [stored] at room
    have idle : s.idle? c kind sql = some k := by simpa [idle?, shared, stored] using room
    obtain ⟨es, run⟩ := acquire_attached (E := E) idle
    obtain rfl := Except.ok.inj (Prod.mk.inj (run.symm.trans acquired)).1
    simp only [obtained, shared, if_true, stored]
    exact (Cache.peek?_touch ..).trans stored

/-! ## What is displaced -/

theorem compiled_discard (h : CompiledId) (s : Store σ) :
    ((discard E h).run s).2.compiled =
      if (s.statement h).inUse || (s.statement h).destroyed then s.compiled
      else s.compiled.modify h fun x => { x with destroyed := true } := by
  let reported (e : Event) : Store σ := { s with events := s.events ++ [e] }
  simp only [discard, run_bind, run_read, run_ite]
  cases busy : (s.statement h).inUse with
  | true => rfl
  | false =>
    show ((destroy E h).run (reported _)).2.compiled = _
    cases gone : (s.statement h).destroyed with
    | true =>
      rw [destroy_gone (show ((reported _).statement h).destroyed = true from gone)]
      rfl
    | false =>
      rw [destroy_live (show ((reported _).statement h).destroyed = false from gone)]
      rfl

/-- What becomes of statements that are displaced is not up to the engine. -/
theorem compiled_discards (same : t.compiled = s.compiled) (out : List CompiledId) :
    ((forAll (discard E) out).run t).2.compiled = ((forAll (discard E) out).run s).2.compiled := by
  induction out generalizing s t with
  | nil => exact same
  | cons h out ih =>
    have statement : t.statement h = s.statement h := congrArg (fun x => x.get h) same
    simp only [forAll, run_both_snd]
    refine ih ?_
    rw [compiled_discard, compiled_discard, statement, same]

theorem compiled_acquireMiss {n : StatementId}
    (answer : (E.run (s.connection c).engine (.compile sql) s.engine).1 = .ok n) :
    ∃ w : Store σ,
      w.compiled = (s.grown E c sql n).compiled.modify s.compiled.next
        (fun x => { x with inUse := true }) ∧
      ((acquireMiss E c sql).run s).2.compiled =
        ((forAll (discard E) ((((s.withCache c (·.count .miss)).connection c).cache).insert sql
          s.compiled.next).1).run w).2.compiled := by
  have free : ((s.grown E c sql n).statement s.compiled.next).inUse = false := by
    rw [statement_grown, if_pos rfl]
  let v := (((s.grown E c sql n).withStatement s.compiled.next
    fun x => { x with inUse := true }).withCache c (·.count .miss)).withCache c
      fun x => (x.insert sql s.compiled.next).2
  obtain ⟨es, traced⟩ := trace_run (ε := EngineError) c
    (.cached (v.statement s.compiled.next).statement sql) v
  refine ⟨{ v with events := v.events ++ es }, rfl, ?_⟩
  simp only [acquireMiss, run_bind, compile_ok answer, claim_idle free, onCache_run, run_read]
  rw [traced]
  simp only [attempt]
  have same : (((s.grown E c sql n).withStatement s.compiled.next
      fun x => { x with inUse := true }).withCache c (·.count .miss)).connection c =
      (s.withCache c (·.count .miss)).connection c := rfl
  rw [same]
  rcases (forAll (discard E) _).run { v with events := v.events ++ es } with ⟨_ | _, w⟩ <;> rfl

theorem acquireMiss_congr {n : StatementId} (connections : t.connections = s.connections)
    (compiled : t.compiled = s.compiled)
    (answer : (E.run (s.connection c).engine (.compile sql) s.engine).1 = .ok n)
    (answer' : (E.run (t.connection c).engine (.compile sql) t.engine).1 = .ok n) :
    ((acquireMiss E c sql).run t).2.compiled = ((acquireMiss E c sql).run s).2.compiled := by
  have cache : (t.withCache c (·.count .miss)).connection c =
      (s.withCache c (·.count .miss)).connection c := by
    unfold withCache withConnection connection
    rw [connections]
  have engine : (t.connection c).engine = (s.connection c).engine :=
    congrArg (fun x => (x.get c).engine) connections
  obtain ⟨v, claimed, run⟩ := compiled_acquireMiss answer
  obtain ⟨w, claimed', run'⟩ := compiled_acquireMiss answer'
  have same : w.compiled = v.compiled := by
    rw [claimed, claimed']
    unfold grown
    rw [compiled, engine]
  rw [run, run', cache, compiled, compiled_discards same]

/-- What an acquisition makes of the marks of statements is not up to the engine, given that it
gives out the same numbers. -/
theorem acquire_congr {k : CompiledId} {v : Store σ} (connections : t.connections = s.connections)
    (compiled : t.compiled = s.compiled)
    (numbers : ∀ n m, (E.run (s.connection c).engine (.compile sql) s.engine).1 = .ok n →
      (E.run (t.connection c).engine (.compile sql) t.engine).1 = .ok m → m = n)
    (acquired : (acquire E c kind sql).run s = (.ok h, u))
    (acquired' : (acquire E c kind sql).run t = (.ok k, v)) :
    k = h ∧ ∀ x, (v.statement x).destroyed = (u.statement x).destroyed := by
  have connection : t.connection c = s.connection c := congrArg (fun x => x.get c) connections
  have statement (x : CompiledId) : t.statement x = s.statement x :=
    congrArg (fun y => y.get x) compiled
  have idle' : t.idle? c kind sql = s.idle? c kind sql := by
    simp only [idle?, connection, statement]
  have own' : t.Private c kind sql ↔ s.Private c kind sql := by
    simp only [Private, connection, statement]
  cases idle : s.idle? c kind sql with
  | some h' =>
    obtain ⟨es, run⟩ := acquire_attached (E := E) idle
    obtain ⟨es', run'⟩ := acquire_attached (E := E) (idle'.trans idle)
    obtain ⟨same, rfl⟩ := Prod.mk.inj (run.symm.trans acquired)
    obtain ⟨same', rfl⟩ := Prod.mk.inj (run'.symm.trans acquired')
    refine ⟨(Except.ok.inj same').symm.trans (Except.ok.inj same), fun x => ?_⟩
    rw [destroyed_attached, destroyed_attached, statement]
  | none =>
    obtain ⟨new, n, answer⟩ := answer_of_acquired idle acquired
    obtain ⟨new', m, answer'⟩ := answer_of_acquired (idle'.trans idle) acquired'
    obtain rfl := numbers n m answer answer'
    refine ⟨by rw [new', new, compiled], fun x => ?_⟩
    by_cases own : s.Private c kind sql
    · rw [(own.acquire acquired).destroyed, ((own'.2 own).acquire acquired').destroyed, new, new',
        compiled, statement]
    · obtain ⟨shared, room⟩ := Classical.not_imp.1 own
      have stored : (s.connection c).cache.peek? sql = none := by
        cases found : (s.connection c).cache.peek? sql with
        | none => rfl
        | some h' =>
          rw [found] at room
          exact absurd (by simpa [idle?, shared, found] using idle) room
      have run := acquire_missed (E := E) shared stored
      have run' := acquire_missed (E := E) shared (connection ▸ stored)
      have same : ((acquireMiss E c sql).run (t.withCache c (·.touch sql))).2.compiled =
          ((acquireMiss E c sql).run (s.withCache c (·.touch sql))).2.compiled := by
        refine acquireMiss_congr (n := m) ?_ compiled ?_ ?_
        · unfold withCache withConnection
          rw [connections]
        · rw [engine_withCache]
          exact answer
        · rw [engine_withCache]
          exact answer'
      rw [← run, ← run', acquired, acquired'] at same
      exact congrArg (fun y => (y.get x).destroyed) same

/-! ## Giving up -/

/-- The cached statement of a text becomes idle when it is given up. -/
theorem abandon_stored (stored : s.isCachedBy c h = true) :
    ∃ es, ((abandon E c h : Op σ ε Unit).run s).2 =
      { s.withStatement h (fun x => { x with inUse := false }) with events := s.events ++ es } := by
  let w := s.withStatement h fun x => { x with inUse := false }
  obtain ⟨es, traced⟩ := trace_run (ε := EngineError) c (.released (s.statement h).statement) w
  refine ⟨es, ?_⟩
  simp only [abandon, relinquish, unclaim, run_bind, run_read, attempt, stored, run_ite, if_true,
    run_change]
  rw [traced]
  rfl

/-- Any other statement is marked and destroyed, whether or not the engine answers. -/
theorem abandon_own (own : s.isCachedBy c h = false) (live : (s.statement h).destroyed = false) :
    ∃ es, ((abandon E c h : Op σ ε Unit).run s).2 =
      { s.struck E h with events := s.events ++ es } := by
  obtain ⟨es, traced⟩ := trace_run (ε := EngineError) c (.destroyed (s.statement h).statement) s
  let w : Store σ := { s with events := s.events ++ es }
  have gone : ((destroy E h).run w).2 = w.struck E h :=
    destroy_live (show (w.statement h).destroyed = false from live)
  have unstored : ¬ s.isCachedBy c h = true := by simp [own]
  simp only [abandon, relinquish, run_bind, run_read, attempt, run_ite, if_neg unstored, traced]
  rcases ended : (destroy E h).run w with ⟨_ | _, v⟩
  all_goals
    rw [ended] at gone
    subst gone
  case ok => exact ⟨es, rfl⟩
  case error =>
    have order (x : Event) : s.events ++ es ++ [x] = s.events ++ (es ++ [x]) :=
      List.append_assoc ..
    exact ⟨_, congrArg (fun events => { s.struck E h with events }) (order _)⟩

/-- Once the cached statement is given up it is what a program attaches to next. -/
theorem abandon_idle (shared : kind.isShared = true)
    (stored : (s.connection c).cache.peek? sql = some h) (text : (s.statement h).sql = sql)
    (live : (s.statement h).destroyed = false)
    (abandoned : t = ((abandon E c h : Op σ ε Unit).run s).2) :
    t.idle? c kind sql = some h ∧ (∀ k, (t.statement k).destroyed = (s.statement k).destroyed) ∧
      t.engine = s.engine ∧ ∀ k, t.native k = s.native k := by
  have cached : s.isCachedBy c h = true := by simp [isCachedBy, Cache.holds, text, stored]
  obtain ⟨es, back⟩ := abandon_stored (E := E) (ε := ε) cached
  rw [back] at abandoned
  subst abandoned
  refine ⟨?_, fun k => destroyed_withStatement s h k fun _ => rfl, rfl, fun k => ?_⟩
  · have free : ((s.withStatement h fun x => { x with inUse := false }).statement h).inUse =
        false := by
      rw [statement_withStatement_self (lt_of_not_destroyed live)]
    unfold idle?
    rw [if_pos shared]
    exact Option.filter_eq_some_iff.2 ⟨stored, Bool.not_eq_true' _ ▸ free⟩
  · exact statement_part s h k (fun x => (x.engine, x.statement)) fun _ => rfl

/-- Once a statement of a program's own is given up all statements are as they were. -/
theorem Private.abandon (own : s.Private c kind sql) (apart : Apart s c sql h u)
    (given : ∀ e ∈ (s.connection c).cache.entries, e.2 < s.compiled.next)
    (abandoned : t = ((abandon E c h : Op σ ε Unit).run u).2) :
    t.Private c kind sql ∧ ∀ k, (t.statement k).destroyed = (s.statement k).destroyed := by
  have other (k : CompiledId) (stored : (s.connection c).cache.peek? sql = some k) : k ≠ h := by
    rw [apart.new]
    exact Nat.ne_of_lt (given _ (Cache.mem_of_peek? stored))
  have uncached : u.isCachedBy c h = false := by
    unfold isCachedBy Cache.holds
    rw [apart.text, apart.cached]
    exact beq_false_of_ne fun stored => other h stored rfl
  have live : (u.statement h).destroyed = false := by rw [apart.destroyed, if_pos rfl]
  obtain ⟨es, gone⟩ := abandon_own (E := E) (ε := ε) uncached live
  rw [gone] at abandoned
  subst abandoned
  refine ⟨own.of_apart apart other rfl fun k _ => inUse_struck (E := E) u h k, fun k => ?_⟩
  show ((u.struck E h).statement k).destroyed = _
  rw [statement_struck]
  by_cases hk : k = h
  · -- it was not there before, and what is not there reads as destroyed
    have absent : s.statement k = default :=
      Table.get_of_le _ (Nat.le_of_eq (hk.trans apart.new).symm)
    rw [if_pos ⟨hk, lt_of_not_destroyed live⟩, absent]
    rfl
  · rw [if_neg fun hn => hk hn.1, apart.destroyed, if_neg hk]

end Store

end Prepared
