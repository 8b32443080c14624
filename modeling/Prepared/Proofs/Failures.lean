import Prepared.Engine.Faults
import Prepared.Proofs.Acquisition
import Prepared.Proofs.Log
import Prepared.Proofs.Sound

/-! Failures of engines.

An attempt to compile or to execute a program ends with the first request that fails, and its
answer is the error of that request. Requests to destroy a statement are made on the side: when
they fail nobody is told but the log. Before the program has taken its statement a failure leaves
it as it was; after that the statement stays with it. -/
namespace Prepared

/-- Whether a request failed that was not to destroy a statement. -/
def Sent.failed (x : Sent) : Bool :=
  x.request.name != .destroy && !x.answer.isOk

namespace Store

open Operation

variable {σ ε : Type} {E : Engine σ}

/-- The failed requests so far, those to destroy a statement apart. -/
def failures (s : Store (Logged σ)) : List Sent :=
  s.engine.log.filter Sent.failed

section Failures

variable {s t : Store (Logged σ)} {i : EngineId} {r : Primitive}

theorem failures_asked_ok {a : r.Answer} (answer : (E.run i r s.engine.inner).1 = .ok a) :
    (s.asked E.logged i r).failures = s.failures := by
  simp [failures, asked, answer, Sent.failed, Except.map, Except.isOk, Except.toBool]

theorem failures_asked_error {e : EngineError} (used : r.name ≠ .destroy)
    (answer : (E.run i r s.engine.inner).1 = .error e) :
    (s.asked E.logged i r).failures = s.failures ++ [⟨i, r, .error e⟩] := by
  simp [failures, asked, answer, Sent.failed, Except.map, Except.isOk, Except.toBool, used]

/-- A request that fails is put on record with its error. -/
theorem request_failures (used : r.name ≠ .destroy) (fs : List Sent) :
    Ensures (fun s => s.failures = fs) (request E.logged i r) fun a t => match a with
      | .ok _ => t.failures = fs
      | .error e => t.failures = fs ++ [⟨i, r, .error e⟩] := by
  intro s hs
  have run : (request E.logged i r).run s =
      ((E.run i r s.engine.inner).1, s.asked E.logged i r) := rfl
  rw [run]
  cases answer : (E.run i r s.engine.inner).1 with
  | ok a => exact (failures_asked_ok answer).trans hs
  | error e =>
    rw [← hs]
    exact failures_asked_error used answer

/-- The failures change by other requests only. -/
theorem failures_calm (fs : List Sent) : Calm E.logged fun s => s.failures = fs where
  events _ _ h := h
  cache _ _ _ h := h
  token _ _ _ h := h
  struck s k _ h := by
    rw [← h]
    simp [failures, struck, asked, Sent.failed, Primitive.name]

end Failures

/-! What a failed replay leaves. -/

/-- A statement that nobody has any more: it is idle in the cache, or destroyed. -/
def Spared (c : ConnectionId) (h : CompiledId) (s : Store σ) : Prop :=
  (s.isCachedBy c h = true ∧ (s.statement h).inUse = false) ∨ (s.statement h).destroyed = true

theorem relinquish_spares (c : ConnectionId) (h : CompiledId) :
    Ensures (fun _ => True) (relinquish E c h) fun _ => Spared c h := by
  refine .read_bind fun x => .read_bind fun cached => .ite (fun hc => ?_) fun _ => ?_
  · refine .change_bind (M := Spared c h) (fun s hs => .inl ⟨?_, ?_⟩) (Ensures.trace fun _ _ => id)
    · have sql : ((s.withStatement h fun x => { x with inUse := false }).statement h).sql =
          (s.statement h).sql := statement_part s h h (fun x => x.sql) fun _ => rfl
      have stored : s.isCachedBy c h = true := hs.2.trans hc
      unfold isCachedBy at stored ⊢
      rw [sql]
      exact stored
    · rw [statement_withStatement]
      by_cases hh : h < s.compiled.next
      · rw [if_pos ⟨rfl, hh⟩]
      · rw [if_neg fun hn => hh hn.2]
        exact congrArg Compiled.inUse (Table.get_of_le _ (Nat.le_of_not_lt hh))
  · refine .pre (P := fun _ => True) (Ensures.trace_bind (fun _ _ => id) ?_) fun _ _ => trivial
    intro s _
    right
    cases hd : (s.statement h).destroyed with
    | true =>
      rw [destroy_gone hd]
      exact hd
    | false =>
      rw [destroy_live hd, statement_struck, if_pos ⟨rfl, lt_of_not_destroyed hd⟩]

theorem abandon_spares (c : ConnectionId) (h : CompiledId) :
    Ensures (fun _ => True) (abandon E c h : Op σ ε Unit) fun _ => Spared c h := by
  refine .read_bind fun x => .attempt_bind ((relinquish_spares c h).pre fun _ _ => trivial) fun r => ?_
  cases r with
  | ok _ => exact .pure fun _ => id
  | error e => exact .change fun _ => id

/-- A replay fails with the first binding that the engine refuses its statement. -/
theorem replay_failures (h : CompiledId) (x : Compiled) (bs : List Binding) (fs : List Sent) :
    Ensures (fun s => s.failures = fs ∧ s.statement h = x) (replay E.logged h bs)
      fun r t => match r with
        | .ok _ => t.failures = fs
        | .error e => ∃ b ∈ bs, t.failures = fs ++
          [⟨x.engine, .bind x.statement b.position b.value, .error e⟩] := by
  induction bs with
  | nil => exact .pure fun _ => And.left
  | cons b bs ih =>
    have first : Ensures (fun s => s.failures = fs ∧ s.statement h = x) (applyBinding E.logged h b)
        fun r t => t.statement h = x ∧ match r with
          | .ok _ => t.failures = fs
          | .error e => t.failures = fs ++
            [⟨x.engine, .bind x.statement b.position b.value, .error e⟩] := by
      rintro s ⟨fresh, rfl⟩
      let r : Primitive := .bind (s.statement h).statement b.position b.value
      have sent := request_failures (E := E) (i := (s.statement h).engine) (r := r)
        (by simp [r, Primitive.name]) fs s fresh
      have run : (applyBinding E.logged h b).run s =
          (request E.logged (s.statement h).engine r).run s := rfl
      have kept : ((applyBinding E.logged h b).run s).2.statement h = s.statement h := rfl
      rw [← run] at sent
      rcases ran : (applyBinding E.logged h b).run s with ⟨e | _, t⟩ <;> rw [ran] at sent kept
      · exact ⟨kept, sent⟩
      · exact ⟨kept, sent⟩
    refine first.bind (fun _ => ?_) fun e t ht => ⟨b, List.mem_cons_self .., ht.2⟩
    refine (ih.pre fun t ht => ⟨ht.2, ht.1⟩).post fun r t ht => ?_
    cases r with
    | ok _ => exact ht
    | error e =>
      obtain ⟨b', hb, found⟩ := ht
      exact ⟨b', List.mem_cons_of_mem _ hb, found⟩

/-! The attempt to obtain a statement. -/

/-- What a program comes to when it is to have a statement and has none yet. -/
inductive Attempt (E : Engine σ) (p : ProgramId) (s : Store (Logged σ)) :
    Except EngineError CompiledId → Store (Logged σ) → Prop
  | refused {e} (busy : s.idle? (s.program p).connection (s.program p).kind (s.program p).sql = none)
      (answer : (E.run (s.connection (s.program p).connection).engine
        (.compile (s.program p).sql) s.engine.inner).1 = .error e) :
      Attempt E p s (.error e)
        ((s.looked (s.program p).connection (s.program p).kind (s.program p).sql).asked E.logged
          (s.connection (s.program p).connection).engine (.compile (s.program p).sql))
  | unbound {e h u} {t : Store (Logged σ)} {b : Binding}
      (acquired : acquireFor E.logged p s = (.ok h, u)) (waiting : b ∈ (s.program p).pending)
      (failures : t.failures = s.failures ++ [⟨(u.statement h).engine,
        .bind (u.statement h).statement b.position b.value, .error e⟩])
      (bare : t.bare = s.bare) (spared : Spared (s.program p).connection h t) :
      Attempt E p s (.error e) t
  | obtained {h u} {t : Store (Logged σ)} (acquired : acquireFor E.logged p s = (.ok h, u))
      (failures : t.failures = s.failures) (bare : t.bare = s.bare) :
      Attempt E p s (.ok h) (t.withProgram p fun x => { x with held := some h, pending := [] })

/-- Obtaining a statement makes no failure, unless it fails. -/
theorem acquire_failures {s t : Store (Logged σ)} {c : ConnectionId} {kind : Kind} {sql : String}
    {h : CompiledId} (acquired : (acquire E.logged c kind sql).run s = (.ok h, t)) :
    t.failures = s.failures := by
  have calm := failures_calm (E := E) s.failures
  cases acquire_cases acquired with
  | attached idle es => exact calm.attached es rfl
  | compiled none answer settled => exact settled _ calm (failures_asked_ok answer)

theorem ensureCompiled_attempt {p : ProgramId} {s : Store (Logged σ)}
    (free : (s.program p).held = none) :
    Attempt E p s ((ensureCompiled E.logged p).run s).1 ((ensureCompiled E.logged p).run s).2 := by
  have kept : (acquireFor E.logged p s).2.bare = s.bare := keeps_acquire s
  rcases acquired : acquireFor E.logged p s with ⟨e | h, u⟩
  · rw [ensureCompiled_refused free acquired]
    -- an idle statement is always obtained, so a text was compiled
    cases acquire_cases acquired with
    | refused busy answer => exact .refused busy answer
  · rw [acquired] at kept
    have fresh : u.failures = s.failures := acquire_failures acquired
    have failures := replay_failures (E := E) h _ (s.program p).pending s.failures u ⟨fresh, rfl⟩
    have bare : ((replay E.logged h (s.program p).pending).run u).2.bare = u.bare := replay_keeps u
    rcases replayed : (replay E.logged h (s.program p).pending).run u with ⟨e | _, v⟩ <;>
      rw [replayed] at failures bare
    · rw [ensureCompiled_unbound free acquired replayed]
      obtain ⟨b, waiting, failures⟩ := failures
      refine .unbound acquired waiting ?_ ?_ (abandon_spares _ h v trivial)
      · exact (failures_calm _).abandon h v failures
      · exact (abandon_keeps v).trans (bare.trans kept)
    · rw [ensureCompiled_obtained free acquired replayed]
      exact .obtained acquired failures (bare.trans kept)

/-! Atomicity. -/

/-- Connections tell the same, their caches apart. -/
def SameConnections (s t : Store σ) : Prop :=
  ∀ c, (t.connection c).references = (s.connection c).references ∧
    (t.connection c).programs = (s.connection c).programs ∧
    (t.connection c).isOpen = (s.connection c).isOpen

theorem SameConnections.of_bare {s t : Store σ} (h : t.bare = s.bare) : SameConnections s t :=
  fun c => ⟨congrArg (fun b => (b.2 c).references) h, congrArg (fun b => (b.2 c).programs) h,
    congrArg (fun b => (b.2 c).isOpen) h⟩

/-- Every program is as it was, and nobody has the statement that was obtained for one. -/
structure Restored (E : Engine σ) (p : ProgramId) (s t : Store σ) : Prop where
  programs : t.programs = s.programs
  connections : SameConnections s t
  acquired : ∀ h u, acquireFor E p s = (.ok h, u) → Spared (s.program p).connection h t

/-- Statements and caches are as they were, except that an entry that is in use may have become
the most recent one. -/
structure Unmoved (p : ProgramId) (s t : Store σ) : Prop where
  compiled : t.compiled = s.compiled
  counters : ∀ c, (t.connection c).cache.counters = (s.connection c).cache.counters
  entries : ∀ c, (t.connection c).cache.entries.Perm (s.connection c).cache.entries
  order : ∀ c, (t.connection c).cache = (s.connection c).cache ∨
    c = (s.program p).connection ∧ ∃ h,
      (s.connection c).cache.peek? (s.program p).sql = some h ∧ (s.statement h).inUse = true ∧
        (t.connection c).cache = (s.connection c).cache.touch (s.program p).sql

/-- A program has the statement that was obtained for it, and nothing waits any more. -/
structure Equipped (E : Engine σ) (p : ProgramId) (s t : Store σ) : Prop where
  equipped : ∃ h u, acquireFor E p s = (.ok h, u) ∧
    t.program p = { s.program p with held := some h, pending := [] }
  others : ∀ q, q ≠ p → t.program q = s.program q
  connections : SameConnections s t

/-- A store once the request to execute a statement was sent. -/
def sentTo (E : Engine σ) (h : CompiledId) (s : Store (Logged σ)) : Store (Logged σ) :=
  s.asked E.logged (s.statement h).engine (.execute (s.statement h).statement)

/-- How an attempt to compile a program without a statement ends, or to execute it. -/
inductive Ends {α : Type} (E : Engine σ) (executes : Bool) (p : ProgramId)
    (s : Store (Logged σ)) : Except ProgramError α → Store (Logged σ) → Prop
  /-- The program is closed or its connection is. -/
  | unusable (m : Misuse) : Ends E executes p s (.error (.usage m)) s
  /-- Its text is refused by the engine of its connection. -/
  | refused {e} {t : Store (Logged σ)}
      (failures : t.failures = s.failures ++
        [⟨(s.connection (s.program p).connection).engine, .compile (s.program p).sql, .error e⟩])
      (restored : Restored E.logged p s t) (unmoved : Unmoved p s t) :
      Ends E executes p s (.error (.engine e)) t
  /-- One of its waiting bindings is refused to the statement that was obtained for it. -/
  | unbound {e h u} {t : Store (Logged σ)} {b : Binding}
      (acquired : acquireFor E.logged p s = (.ok h, u)) (waiting : b ∈ (s.program p).pending)
      (failures : t.failures = s.failures ++ [⟨(u.statement h).engine,
        .bind (u.statement h).statement b.position b.value, .error e⟩])
      (restored : Restored E.logged p s t) : Ends E executes p s (.error (.engine e)) t
  /-- The request to execute its statement fails. -/
  | failed {e h u} (executed : executes = true) (equipped : Equipped E.logged p s u)
      (held : (u.program p).held = some h)
      (failures : (u.sentTo E h).failures = s.failures ++
        [⟨(u.statement h).engine, .execute (u.statement h).statement, .error e⟩]) :
      Ends E executes p s (.error (.engine e)) (u.sentTo E h)
  /-- Nothing fails, and if it is to be executed the request for that was sent. -/
  | done {a h u} (equipped : Equipped E.logged p s u) (held : (u.program p).held = some h)
      (failures : (if executes then u.sentTo E h else u).failures = s.failures) :
      Ends E executes p s (.ok a) (if executes then u.sentTo E h else u)

/-- A refused text leaves statements and caches as they were. -/
theorem Unmoved.of_refused {p : ProgramId} {s : Store σ} (keyed : Keyed s) {i : EngineId}
    {r : Primitive}
    (busy : s.idle? (s.program p).connection (s.program p).kind (s.program p).sql = none) :
    Unmoved p s
      ((s.looked (s.program p).connection (s.program p).kind (s.program p).sql).asked E i r) := by
  unfold looked
  by_cases shared : (s.program p).kind.isShared = true
  · rw [if_pos shared]
    let c := (s.program p).connection
    let sql := (s.program p).sql
    have counters (x : Cache CompiledId) : (x.touch sql).counters = x.counters := by
      unfold Cache.touch
      split <;> rfl
    constructor
    case compiled => rfl
    case counters =>
      exact fun d => connection_part s c d (fun x => x.cache.counters) fun x => counters x.cache
    case entries =>
      intro d
      rw [connection_asked, cache_withCache]
      split
      · exact Cache.touch_perm _ (keyed d)
      · exact .refl _
    case order =>
      intro d
      rw [connection_asked, cache_withCache]
      by_cases hd : d = c ∧ c < s.connections.next
      · rw [if_pos hd, hd.1]
        cases stored : (s.connection c).cache.peek? sql with
        | none =>
          left
          unfold Cache.touch
          rw [stored]
        | some h =>
          have used : (s.statement h).inUse = true := by
            simpa [idle?, shared, stored, c, sql] using busy
          exact .inr ⟨rfl, h, rfl, used, rfl⟩
      · rw [if_neg hd]
        exact .inl rfl
  · rw [if_neg shared]
    exact ⟨rfl, fun _ => rfl, fun _ => .refl _, fun _ => .inl rfl⟩

namespace Attempt

variable {p : ProgramId} {s t : Store (Logged σ)} {α : Type} {executes : Bool}

/-- A program that does not get its statement is restored. -/
theorem ends {e : EngineError} (h : Attempt E p s (.error e) t) (keyed : Keyed s) :
    Ends (α := α) E executes p s (.error (.engine e)) t := by
  cases h with
  | refused busy answer =>
    let u := s.looked (s.program p).connection (s.program p).kind (s.program p).sql
    let i := (s.connection (s.program p).connection).engine
    have engine : u.engine = s.engine := by
      simp only [u, looked]
      split <;> rfl
    have fresh : u.failures = s.failures := by
      unfold failures
      rw [engine]
    have bare : (u.asked E.logged i (.compile (s.program p).sql)).bare = s.bare := by
      show u.bare = s.bare
      simp only [u, looked]
      split
      · exact bare_withCache ..
      · rfl
    have refused :
        acquireFor E.logged p s = (.error e, u.asked E.logged i (.compile (s.program p).sql)) :=
      acquire_refused (E := E.logged) busy answer
    refine .refused ?_ ⟨congrArg Prod.fst bare, .of_bare bare, fun h v acquired => ?_⟩
      (.of_refused keyed busy)
    · rw [← fresh]
      apply failures_asked_error (by simp [Primitive.name])
      rw [engine]
      exact answer
    · rw [refused] at acquired
      cases (Prod.mk.inj acquired).1
  | unbound acquired waiting failures bare spared =>
    refine .unbound acquired waiting failures
      ⟨congrArg Prod.fst bare, .of_bare bare, fun h v other => ?_⟩
    rw [acquired] at other
    cases other
    exact spared

/-- A program that gets a statement is equipped with it. -/
theorem equips {h : CompiledId} (ha : Attempt E p s (.ok h) t)
    (live : (s.program p).isClosed = false) :
    t.failures = s.failures ∧ Equipped E.logged p s t ∧ (t.program p).held = some h := by
  cases ha with
  | @obtained _ u t acquired failures bare =>
    have programs : t.programs = s.programs := congrArg Prod.fst bare
    have same : t.program p = s.program p := congrArg (fun ps => ps.get p) programs
    have own := program_withProgram_self (s := t) (p := p)
      (lt_of_not_closed ((congrArg Program.isClosed same).trans live))
      fun x => { x with held := some h, pending := [] }
    rw [same] at own
    have connections : SameConnections s t := .of_bare bare
    refine ⟨failures, ⟨⟨h, u, acquired, own⟩, fun q hq => ?_, connections⟩, ?_⟩
    · exact (program_withProgram_of_ne hq _).trans (congrArg (fun ps => ps.get q) programs)
    · rw [own]

end Attempt

theorem compileProgram_ends {p : ProgramId} {s : Store (Logged σ)} (keyed : Keyed s)
    (free : (s.program p).held = none) :
    Ends E false p s ((compileProgram E.logged p).run s).1
      ((compileProgram E.logged p).run s).2 := by
  rcases verifyUsable_cases p s with ⟨live, -, usable⟩ | ⟨m, unusable⟩
  · have attempted := ensureCompiled_attempt (E := E) free
    rcases hr : (ensureCompiled E.logged p).run s with ⟨e | h, t⟩ <;> rw [hr] at attempted
    · rw [compileProgram_usable usable hr]
      exact attempted.ends keyed
    · obtain ⟨failures, equipped, held⟩ := attempted.equips live
      rw [compileProgram_usable usable hr]
      exact show Ends E false p s (.ok ()) t from .done equipped held failures
  · rw [compileProgram_unusable unusable]
    exact .unusable m

theorem execute_ends {p : ProgramId} {s : Store (Logged σ)} (keyed : Keyed s)
    (free : (s.program p).held = none) :
    Ends E true p s ((execute E.logged p).run s).1 ((execute E.logged p).run s).2 := by
  rcases verifyUsable_cases p s with ⟨live, -, usable⟩ | ⟨m, unusable⟩
  · have attempted := ensureCompiled_attempt (E := E) free
    rcases hr : (ensureCompiled E.logged p).run s with ⟨e | h, t⟩ <;> rw [hr] at attempted
    · rw [execute_refused usable hr]
      exact attempted.ends keyed
    · obtain ⟨failures, equipped, held⟩ := attempted.equips live
      let x := t.statement h
      have requested := request_failures (E := E) (i := x.engine) (r := .execute x.statement)
        (by simp [Primitive.name]) s.failures t failures
      have after : ((request E.logged x.engine (.execute x.statement)).run t).2 = t.sentTo E h := rfl
      rw [execute_obtained usable hr]
      simp only [mapError]
      rw [after] at requested ⊢
      cases answer : ((request E.logged x.engine (.execute x.statement)).run t).1 with
      | ok a =>
        rw [answer] at requested
        exact show Ends E true p s (.ok a) (t.sentTo E h) from .done equipped held requested
      | error e =>
        rw [answer] at requested
        exact .failed rfl equipped held requested
  · rw [execute_unusable unusable]
    exact .unusable m

/-- The execution of a program that has a statement. -/
theorem execute_held {p : ProgramId} {h : CompiledId} {s : Store (Logged σ)} {e : EngineError}
    (held : (s.program p).held = some h)
    (failed : ((execute E.logged p).run s).1 = .error (.engine e)) :
    ((execute E.logged p).run s).2 = s.asked E.logged (s.statement h).engine
        (.execute (s.statement h).statement) ∧
      ((execute E.logged p).run s).2.failures = s.failures ++
        [⟨(s.statement h).engine, .execute (s.statement h).statement, .error e⟩] := by
  let r : Primitive := .execute (s.statement h).statement
  rcases verifyUsable_cases p s with ⟨-, -, usable⟩ | ⟨m, unusable⟩
  · rw [execute_obtained usable (ensureCompiled_held held)] at failed ⊢
    refine ⟨rfl, ?_⟩
    have requested := request_failures (E := E) (i := (s.statement h).engine) (r := r)
      (by simp [r, Primitive.name]) s.failures s rfl
    simp only [mapError] at failed
    cases answer : ((request E.logged (s.statement h).engine r).run s).1 with
    | ok a =>
      rw [answer] at failed
      cases failed
    | error e' =>
      rw [answer] at failed requested
      cases failed
      exact requested
  · rw [execute_unusable unusable] at failed
    cases failed

/-- From every reachable state, an attempt to compile a program that has no statement, or to
execute it, is answered with an engine's error exactly if its text, a waiting binding or the
execution failed, and with that error. Before it has its statement a failure leaves it as it
was, and the statement idle or destroyed; after that it keeps the statement. A failed execution
of a program that has a statement changes nothing but the engine. -/
theorem engine_failures_atomic {e : σ} {past : List (Step (Logged σ))} {s : Store (Logged σ)}
    (run : Run E.logged ⟨e, []⟩ past s) (p : ProgramId) :
    ((s.program p).held = none →
      Ends E false p s ((compileProgram E.logged p).run s).1
          ((compileProgram E.logged p).run s).2 ∧
        Ends E true p s ((execute E.logged p).run s).1 ((execute E.logged p).run s).2) ∧
    (∀ h, (s.program p).held = some h → ∀ e', ((execute E.logged p).run s).1 = .error (.engine e') →
      ((execute E.logged p).run s).2 = s.asked E.logged (s.statement h).engine
          (.execute (s.statement h).statement) ∧
        ((execute E.logged p).run s).2.failures = s.failures ++
          [⟨(s.statement h).engine, .execute (s.statement h).statement, .error e'⟩]) := by
  have keyed := (run.sound (g := { connection := 0 }) ⟨rfl, rfl, rfl, rfl⟩).keyed
  exact ⟨fun free => ⟨compileProgram_ends keyed free, execute_ends keyed free⟩,
    fun h held e' failed => execute_held held failed⟩

/-- A binding that waits is refused, and the request to destroy the new statement fails too:
the program is told of the binding. -/
theorem engine_failures_atomic_replay :
    ∃ past s, Run Recording.engine.withFaults.logged
        ⟨⟨{}, [⟨.bind, 0, .native "busy"⟩, ⟨.destroy, 0, .native "locked"⟩]⟩, []⟩ past s ∧
      (s.program 0).held = none ∧ (s.program 0).pending.length = 1 ∧
      ((compileProgram Recording.engine.withFaults.logged 0).run s).1 =
        .error (.engine (.native "busy")) ∧
      Ends Recording.engine.withFaults false 0 s
        ((compileProgram Recording.engine.withFaults.logged 0).run s).1
        ((compileProgram Recording.engine.withFaults.logged 0).run s).2 := by
  have run := Run.ofActions (E := Recording.engine.withFaults.logged)
    (e := ⟨⟨{}, [⟨.bind, 0, .native "busy"⟩, ⟨.destroy, 0, .native "locked"⟩]⟩, []⟩)
    [.openDefault 0, .createDeferred 0 "CREATE TABLE t (a)", .bindValue 0 1 .null]
    (by decide +kernel)
  refine ⟨_, _, run, by decide +kernel, by decide +kernel, by decide +kernel, ?_⟩
  exact ((engine_failures_atomic run 0).1 (by decide +kernel)).1

end Store

end Prepared
