import Prepared.Proofs.Program

/-! What an acquisition comes to.

A program attaches to the cached statement of its text if that one is idle. Otherwise a text
is compiled, and only what is done for the cache then remains: events are reported, tokens
taken and displaced statements destroyed. What none of these changes is the same after an
acquisition as after the compilation alone. -/
namespace Prepared

namespace Store

open Operation

variable {σ ε : Type} {E : Engine σ} {s t : Store σ} {I : Store σ → Prop}

/-- An assertion that events, caches and tokens have no influence on, nor that statements are
destroyed. -/
structure Calm (E : Engine σ) (I : Store σ → Prop) : Prop where
  events : ∀ s es, I s → I { s with events := s.events ++ es }
  cache : ∀ s c f, I s → I (s.withCache c f)
  token : ∀ s h b, I s → I (s.withStatement h fun x => { x with inUse := b })
  struck : ∀ s h, (s.statement h).destroyed = false → I s → I (s.struck E h)

namespace Calm

variable {c : ConnectionId} {h : CompiledId}

theorem report (hI : Calm E I) (e : Event) :
    Ensures I (Store.report e : Op σ ε Unit) fun _ => I :=
  .change fun s => hI.events s [e]

theorem trace (hI : Calm E I) (e : Event) :
    Ensures I (Store.trace c e : Op σ ε Unit) fun _ => I :=
  Ensures.trace hI.events

theorem destroyed (hI : Calm E I) (h : CompiledId) :
    Ensures I (Store.destroy E h) fun _ => I := by
  intro s hs
  cases hd : (s.statement h).destroyed with
  | true =>
    rw [destroy_gone hd]
    exact hs
  | false =>
    rw [destroy_live hd]
    exact hI.struck s h hd hs

theorem discard (hI : Calm E I) (h : CompiledId) : Ensures I (Store.discard E h) fun _ => I := by
  refine .read_bind fun x => .ite (fun _ => (hI.report _).pre fun _ => And.left) fun _ => ?_
  exact (((hI.report _).pre fun _ => And.left).bind (fun _ => hI.destroyed h) fun _ _ => id)

theorem relinquish (hI : Calm E I) (h : CompiledId) :
    Ensures I (Store.relinquish E c h) fun _ => I := by
  refine .read_bind fun x => .read_bind fun cached => .ite (fun _ => ?_) fun _ => ?_
  · exact .change_bind (fun s hs => hI.token s h false hs.1.1) (hI.trace _)
  · exact ((hI.trace _).pre fun _ hs => hs.1.1).bind (fun _ => hI.destroyed h) fun _ _ => id

theorem abandon (hI : Calm E I) (h : CompiledId) :
    Ensures I (Store.abandon E c h : Op σ ε Unit) fun _ => I := by
  refine .read_bind fun x => .attempt_bind ((hI.relinquish h).pre fun _ => And.left) fun r => ?_
  cases r with
  | ok _ => exact .pure fun _ => id
  | error e => exact hI.report _

end Calm

/-- What the marks of a statement do not change. -/
theorem Calm.statement {β : Type} (E : Engine σ) (h : CompiledId) (part : Compiled → β)
    (marks : ∀ x inUse destroyed, part { x with inUse, destroyed } = part x) (b : β) :
    Calm E fun s => part (s.statement h) = b where
  events _ _ hs := hs
  cache _ _ _ hs := hs
  token s k inUse hs := by
    rw [← hs]
    exact statement_part s k h part fun x => marks x inUse x.destroyed
  struck s k _ hs := by
    rw [← hs]
    exact statement_part s k h part fun x => marks x x.inUse true

/-- The cached statement that a program of a kind can attach to. -/
def idle? (s : Store σ) (c : ConnectionId) (kind : Kind) (sql : String) : Option CompiledId :=
  if kind.isShared then
    ((s.connection c).cache.peek? sql).filter fun h => !(s.statement h).inUse
  else none

/-- The store once the cache was asked for a text, if that is of a kind to be cached. -/
def looked (s : Store σ) (c : ConnectionId) (kind : Kind) (sql : String) : Store σ :=
  if kind.isShared then s.withCache c (·.touch sql) else s

/-- The store once a program has attached to a cached statement. -/
def attached (s : Store σ) (c : ConnectionId) (sql : String) (h : CompiledId) : Store σ :=
  ((s.withCache c (·.touch sql)).withStatement h fun x => { x with inUse := true }).withCache c
    (·.count .hit)

theorem Calm.attached (hI : Calm E I) {c : ConnectionId} {sql : String} {h : CompiledId}
    (es : List Event) (hs : I s) : I { s.attached c sql h with events := s.events ++ es } :=
  hI.events _ es (hI.cache _ _ _ (hI.token _ _ _ (hI.cache _ _ _ hs)))

theorem engine_withCache (s : Store σ) (c d : ConnectionId)
    (f : Cache CompiledId → Cache CompiledId) :
    ((s.withCache c f).connection d).engine = (s.connection d).engine :=
  connection_part s c d (fun x => x.engine) fun _ => rfl

theorem grown_withCache (s : Store σ) (c : ConnectionId) (f : Cache CompiledId → Cache CompiledId)
    (sql : String) (n : StatementId) :
    (s.withCache c f).grown E c sql n = (s.grown E c sql n).withCache c f := by
  simp only [grown, engine_withCache]
  rfl

section Acquire

variable {c : ConnectionId} {kind : Kind} {sql : String} {h : CompiledId}

theorem peek?_of_idle (idle : s.idle? c kind sql = some h) :
    kind.isShared = true ∧ (s.connection c).cache.peek? sql = some h ∧
      (s.statement h).inUse = false := by
  unfold idle? at idle
  split at idle
  · next shared =>
    obtain ⟨stored, free⟩ := Option.filter_eq_some_iff.1 idle
    exact ⟨shared, stored, by simpa using free⟩
  · nomatch idle

/-- An idle cached statement is attached to. -/
theorem acquire_attached (idle : s.idle? c kind sql = some h) :
    ∃ es, (acquire E c kind sql).run s =
      (.ok h, { s.attached c sql h with events := s.events ++ es }) := by
  obtain ⟨shared, stored, free⟩ := peek?_of_idle idle
  let u := s.withCache c (·.touch sql)
  have asked : (onCache c fun cache => (cache.peek? sql, cache.touch sql) :
      Op σ EngineError _).run s = (.ok (some h), u) := by
    rw [onCache_run, stored]
  have claimed : (claim h : Op σ EngineError Bool).run u =
      (.ok true, u.withStatement h fun x => { x with inUse := true }) := claim_idle free
  obtain ⟨es, traced⟩ := trace_run (ε := EngineError) c
    (.reused ((s.attached c sql h).statement h).statement sql) (s.attached c sql h)
  refine ⟨es, ?_⟩
  simp only [acquire, shared, if_true, run_bind, asked, claimed, onCache_run, run_read]
  rw [show (u.withStatement h fun x => { x with inUse := true }).withCache c
    (fun x => x.count .hit) = s.attached c sql h from rfl, traced]
  rfl

/-- An operation that compiles a text and then only brings the cache in order. -/
def Settles (E : Engine σ) (c : ConnectionId) (sql : String)
    (x : Op σ EngineError CompiledId) : Prop :=
  ∃ settle : CompiledId → Op σ EngineError CompiledId, x = compile E c sql >>= settle ∧
    ∀ I, Calm E I → ∀ h, Ensures I (settle h) fun r t => r = .ok h ∧ I t

theorem acquireUncached_settles : Settles E c sql (acquireUncached E c kind sql) := by
  refine ⟨_, rfl, fun I hI h => ?_⟩
  exact Ensures.onCache_bind (Q := fun _ => I) (fun s hs => hI.cache s c _ hs) fun _ =>
    .read_bind fun x => Ensures.trace_bind (fun s es hs => ⟨hI.events s es hs.1, hs.2⟩)
      (.pure fun s hs => ⟨rfl, hs.1⟩)

theorem acquireContended_settles : Settles E c sql (acquireContended E c sql h) := by
  refine ⟨_, rfl, fun I hI k => ?_⟩
  exact Ensures.onCache_bind (Q := fun _ => I) (fun s hs => hI.cache s c _ hs) fun _ =>
    .read_bind fun x => .read_bind fun y => .change_bind
      (fun s hs => hI.events s _ hs.1.1) (.pure fun s hs => ⟨rfl, hs⟩)

theorem acquireMiss_settles : Settles E c sql (acquireMiss E c sql) := by
  refine ⟨_, rfl, fun I hI h => ?_⟩
  refine Ensures.claim_bind (Q := fun _ => I) (fun s hs _ => hs)
    (fun s hs _ => hI.token s h true hs) fun _ => ?_
  refine Ensures.onCache_bind (Q := fun _ => I) (fun s hs => hI.cache s c _ hs) fun _ => ?_
  refine Ensures.onCache_bind (Q := fun _ => I) (fun s hs => hI.cache s c _ hs) fun out => ?_
  refine .read_bind fun x => Ensures.trace_bind (fun s es hs => ⟨hI.events s es hs.1, hs.2⟩) ?_
  have discarded : Ensures I (forAll (discard E) out) fun _ => I :=
    .forAll (I := fun _ => I) (fun k _ => hI.discard k) out
  refine .attempt_bind (discarded.pre fun _ => And.left) fun r => ?_
  cases r with
  | ok _ => exact .pure fun s hs => ⟨rfl, hs⟩
  | error e => exact .change_bind (fun s hs => hI.events s _ hs) (.pure fun s hs => ⟨rfl, hs⟩)

/-- Without an idle cached statement a text is compiled. -/
theorem acquire_fresh (none : s.idle? c kind sql = none) :
    ∃ x, (acquire E c kind sql).run s = x.run (s.looked c kind sql) ∧ Settles E c sql x := by
  by_cases shared : kind.isShared = true
  · have lookedUp : s.looked c kind sql = s.withCache c (·.touch sql) := if_pos shared
    rw [lookedUp]
    cases stored : (s.connection c).cache.peek? sql with
    | none =>
      refine ⟨_, ?_, acquireMiss_settles⟩
      simp only [acquire, shared, if_true, run_bind, onCache_run, stored]
    | some k =>
      have busy : (s.statement k).inUse = true := by
        simpa [idle?, shared, stored] using none
      have claimed : (claim k : Op σ EngineError Bool).run (s.withCache c (·.touch sql)) =
          (.ok false, s.withCache c (·.touch sql)) := claim_taken busy
      refine ⟨_, ?_, acquireContended_settles (h := k)⟩
      simp only [acquire, shared, if_true, run_bind, onCache_run, stored, claimed]
      rfl
  · exact ⟨_, by rw [acquire, if_neg shared, looked, if_neg shared], acquireUncached_settles⟩

theorem engine_looked (d : ConnectionId) :
    ((s.looked c kind sql).connection d).engine = (s.connection d).engine := by
  unfold looked
  split
  · exact engine_withCache ..
  · rfl

theorem answer_looked : E.run ((s.looked c kind sql).connection c).engine (.compile sql)
    (s.looked c kind sql).engine = E.run (s.connection c).engine (.compile sql) s.engine := by
  rw [engine_looked]
  unfold looked
  split <;> rfl

/-- A text that is refused leaves the cache looked up and the engine asked. -/
theorem acquire_refused {e : EngineError} (none : s.idle? c kind sql = none)
    (answer : (E.run (s.connection c).engine (.compile sql) s.engine).1 = .error e) :
    (acquire E c kind sql).run s =
      (.error e, (s.looked c kind sql).asked E (s.connection c).engine (.compile sql)) := by
  obtain ⟨x, run, settle, rfl, -⟩ := acquire_fresh (E := E) none
  rw [run, run_bind, compile_error (answer_looked (E := E) ▸ answer), engine_looked]

/-- What calm assertions say of a store with the new statement they say of the store after the
acquisition. -/
theorem acquire_compiled {n : StatementId} (none : s.idle? c kind sql = none)
    (answer : (E.run (s.connection c).engine (.compile sql) s.engine).1 = .ok n) :
    ∃ t, (acquire E c kind sql).run s = (.ok s.compiled.next, t) ∧
      ∀ I, Calm E I → I (s.grown E c sql n) → I t := by
  obtain ⟨x, run, settle, rfl, settles⟩ := acquire_fresh (E := E) none
  let u := s.looked c kind sql
  have next : u.compiled.next = s.compiled.next := by
    simp only [u, looked]
    split <;> rfl
  rw [run_bind, compile_ok (answer_looked (E := E) ▸ answer)] at run
  have always : Calm E fun _ => True := ⟨by simp, by simp, by simp, by simp⟩
  have first := (settles _ always u.compiled.next (u.grown E c sql n) trivial).1
  refine ⟨((settle u.compiled.next).run (u.grown E c sql n)).2, ?_, fun I hI hs => ?_⟩
  · rw [← next]
    exact run.trans (Prod.ext first rfl)
  · refine (settles I hI u.compiled.next (u.grown E c sql n) ?_).2
    simp only [u, looked]
    split
    · rw [grown_withCache]
      exact hI.cache _ _ _ hs
    · exact hs

/-- How an acquisition ends: an idle statement is attached to, or else the text is refused or
compiled, and then the cache is brought in order. -/
inductive Acquires (E : Engine σ) (c : ConnectionId) (kind : Kind) (sql : String) (s : Store σ) :
    Except EngineError CompiledId → Store σ → Prop
  | attached {k : CompiledId} (idle : s.idle? c kind sql = some k) (es : List Event) :
      Acquires E c kind sql s (.ok k) { s.attached c sql k with events := s.events ++ es }
  | refused {e} (none : s.idle? c kind sql = none)
      (answer : (E.run (s.connection c).engine (.compile sql) s.engine).1 = .error e) :
      Acquires E c kind sql s (.error e)
        ((s.looked c kind sql).asked E (s.connection c).engine (.compile sql))
  | compiled {n t} (none : s.idle? c kind sql = none)
      (answer : (E.run (s.connection c).engine (.compile sql) s.engine).1 = .ok n)
      (settled : ∀ I, Calm E I → I (s.grown E c sql n) → I t) :
      Acquires E c kind sql s (.ok s.compiled.next) t

/-- All that an acquisition can do. -/
theorem acquire_cases {r : Except EngineError CompiledId} {t : Store σ}
    (acquired : (acquire E c kind sql).run s = (r, t)) : Acquires E c kind sql s r t := by
  cases idle : s.idle? c kind sql with
  | some h =>
    obtain ⟨es, run⟩ := acquire_attached (E := E) idle
    obtain ⟨rfl, rfl⟩ := Prod.mk.inj (run.symm.trans acquired)
    exact .attached idle es
  | none =>
    cases answer : (E.run (s.connection c).engine (.compile sql) s.engine).1 with
    | error e =>
      obtain ⟨rfl, rfl⟩ := Prod.mk.inj ((acquire_refused idle answer).symm.trans acquired)
      exact .refused idle answer
    | ok n =>
      obtain ⟨u, run, settled⟩ := acquire_compiled idle answer
      obtain ⟨rfl, rfl⟩ := Prod.mk.inj (run.symm.trans acquired)
      exact .compiled idle answer settled

end Acquire

/-! What a program comes to when it is to have a statement. -/

/-- The acquisition of a statement for a program. -/
def acquireFor (E : Engine σ) (p : ProgramId) (s : Store σ) :
    Except EngineError CompiledId × Store σ :=
  (acquire E (s.program p).connection (s.program p).kind (s.program p).sql).run s

section Ensure

variable {p : ProgramId} {h : CompiledId} {e : EngineError} {u v : Store σ}

theorem abandon_ok (c : ConnectionId) (h : CompiledId) (s : Store σ) :
    ((abandon E c h : Op σ ε Unit).run s).1 = .ok () := by
  simp only [abandon, run_bind, run_read, attempt]
  rcases (relinquish E c h).run s with ⟨_ | _, t⟩ <;> rfl

theorem ensureCompiled_held (held : (s.program p).held = some h) :
    (ensureCompiled E p).run s = (.ok h, s) := by
  simp only [ensureCompiled, run_bind, run_read, held]
  rfl

theorem ensureCompiled_refused (free : (s.program p).held = none)
    (acquired : acquireFor E p s = (.error e, u)) :
    (ensureCompiled E p).run s = (.error e, u) := by
  unfold acquireFor at acquired
  simp only [ensureCompiled, run_bind, run_read, free, acquired]

theorem ensureCompiled_unbound (free : (s.program p).held = none)
    (acquired : acquireFor E p s = (.ok h, u))
    (replayed : (replay E h (s.program p).pending).run u = (.error e, v)) :
    (ensureCompiled E p).run s =
      (.error e, ((abandon E (s.program p).connection h : Op σ EngineError Unit).run v).2) := by
  unfold acquireFor at acquired
  have abandoned := abandon_ok (E := E) (ε := EngineError) (s.program p).connection h v
  simp only [ensureCompiled, run_bind, run_read, free, acquired, attempt, replayed]
  rcases hv : (abandon E (s.program p).connection h : Op σ EngineError Unit).run v with ⟨_ | _, w⟩
  · rw [hv] at abandoned
    nomatch abandoned
  · rfl

theorem ensureCompiled_obtained (free : (s.program p).held = none)
    (acquired : acquireFor E p s = (.ok h, u))
    (replayed : (replay E h (s.program p).pending).run u = (.ok (), v)) :
    (ensureCompiled E p).run s =
      (.ok h, v.withProgram p fun x => { x with held := some h, pending := [] }) := by
  unfold acquireFor at acquired
  simp only [ensureCompiled, run_bind, run_read, free, acquired, attempt, replayed]
  rfl

end Ensure

end Store

end Prepared
