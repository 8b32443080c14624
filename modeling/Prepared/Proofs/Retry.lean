import Prepared.Proofs.Apart
import Prepared.Proofs.Faulty
import Prepared.Proofs.Sole

/-! Retries.

A program whose waiting bindings are not all accepted gives its statement up and can be compiled
again. What it gave up is either back in the cache, with some of the bindings made in its slot, and
is the statement that it obtains the next time; or it was compiled for that program alone, and is
destroyed, and the next time another one is compiled. All bindings are replayed over whatever is
found, so neither shows in the end. -/
namespace Prepared.Store

open Operation Sql

variable {δ : Type} {L : Library δ} {count : String → Nat} {e : Faulty (Engines δ)}
  {s t u v w : Store (Faulty (Engines δ))} {past past' : List (Step (Faulty (Engines δ)))}
  {p : ProgramId} {h k : CompiledId} {bs : List Binding}

/-- Stores between attempts to compile a program that fail, one after the other, because a binding
that is replayed is refused. -/
inductive Retried (L : Library δ) (p : ProgramId) (s : Store (Faulty (Engines δ))) :
    Store (Faulty (Engines δ)) → Prop
  | start : Retried L p s s
  | again {t u v w : Store (Faulty (Engines δ))} {h : CompiledId} {e : EngineError}
      (tried : Retried L p s t)
      (acquired : acquireFor L.engine.withFaults p t = (.ok h, u))
      (refused : (replay L.engine.withFaults h (t.program p).pending).run u = (.error e, v))
      (failed : (compileProgram L.engine.withFaults p).run t = (.error (.engine e), w)) :
      Retried L p s w

/-- An attempt more, as it is carried out. -/
theorem Retried.further {e : EngineError} (tried : Retried L p s t)
    (acquired : (acquireFor L.engine.withFaults p t).1 = .ok h)
    (refused : ((replay L.engine.withFaults h (t.program p).pending).run
      (acquireFor L.engine.withFaults p t).2).1 = .error e)
    (failed : ((compileProgram L.engine.withFaults p).run t).1 = .error (.engine e)) :
    Retried L p s ((compileProgram L.engine.withFaults p).run t).2 :=
  tried.again (Prod.ext acquired rfl) (Prod.ext refused rfl) (Prod.ext failed rfl)

/-- Two statements that come to the same once bindings are made in both: the other statements that
are not destroyed are the same ones. -/
structure Agrees (bs : List Binding) (h : CompiledId) (s : Store (Faulty (Engines δ)))
    (k : CompiledId) (t : Store (Faulty (Engines δ))) : Prop where
  slot : (s.inner.slot? h).map (·.putAll bs) = (t.inner.slot? k).map (·.putAll bs)
  others : ∀ x, (x ≠ h ∧ (s.statement x).destroyed = false) ↔
    (x ≠ k ∧ (t.statement x).destroyed = false)

namespace Agrees

theorem refl (bs : List Binding) (h : CompiledId) (s : Store (Faulty (Engines δ))) :
    Agrees bs h s h s :=
  ⟨rfl, fun _ => .rfl⟩

theorem trans {l : CompiledId} (a : Agrees bs h s k t) (b : Agrees bs k t l u) :
    Agrees bs h s l u :=
  ⟨a.slot.trans b.slot, fun x => (a.others x).trans (b.others x)⟩

end Agrees

section Attempts

variable {σ : Type} {E : Engine σ} {s t u : Store σ}

/-- A program that is compiled has obtained a statement in which all waiting bindings were made. -/
theorem compileProgram_obtained (free : (s.program p).held = none)
    (compiled : (compileProgram E p).run s = (.ok (), t)) :
    Active p s ∧ ∃ h u v, acquireFor E p s = (.ok h, u) ∧
      (replay E h (s.program p).pending).run u = (.ok (), v) ∧
      t = v.withProgram p fun x => { x with held := some h, pending := [] } := by
  rcases verifyUsable_cases p s with ⟨live, isOpen, usable⟩ | ⟨m, unusable⟩
  · refine ⟨⟨live, isOpen⟩, ?_⟩
    rcases acquired : acquireFor E p s with ⟨e | h, u⟩
    · have refused := compileProgram_usable usable (ensureCompiled_refused free acquired)
      nomatch (Prod.mk.inj (refused.symm.trans compiled)).1
    rcases replayed : (replay E h (s.program p).pending).run u with ⟨e | _, v⟩
    · have refused := compileProgram_usable usable (ensureCompiled_unbound free acquired replayed)
      nomatch (Prod.mk.inj (refused.symm.trans compiled)).1
    · have obtained := compileProgram_usable usable (ensureCompiled_obtained free acquired replayed)
      exact ⟨h, u, v, rfl, replayed, (Prod.mk.inj (obtained.symm.trans compiled)).2.symm⟩
  · nomatch (Prod.mk.inj ((compileProgram_unusable (E := E) unusable).symm.trans compiled)).1

/-- A program that is not compiled because a binding is refused gives its statement up. -/
theorem compileProgram_abandoned {u v : Store σ} {e : EngineError}
    (free : (s.program p).held = none) (acquired : acquireFor E p s = (.ok h, u))
    (refused : (replay E h (s.program p).pending).run u = (.error e, v))
    (failed : (compileProgram E p).run s = (.error (.engine e), t)) :
    Active p s ∧
      t = ((abandon E (s.program p).connection h : Op σ EngineError Unit).run v).2 := by
  rcases verifyUsable_cases p s with ⟨live, isOpen, usable⟩ | ⟨m, unusable⟩
  · have unbound := compileProgram_usable usable (ensureCompiled_unbound free acquired refused)
    exact ⟨⟨live, isOpen⟩, (Prod.mk.inj (unbound.symm.trans failed)).2.symm⟩
  · cases (Prod.mk.inj ((compileProgram_unusable (E := E) unusable).symm.trans failed)).1

/-- A replay changes nothing but the engine. -/
theorem replay_engine {r : Except EngineError Unit} (replayed : (replay E h bs).run s = (r, t)) :
    ∃ engine, t = { s with engine } := by
  have kept : Keeps (fun s : Store σ => (s.connections, s.programs, s.compiled, s.events))
      (replay E h bs) := .untilError (fun _ => .bind (.read _) fun _ _ => rfl) bs
  have same := kept s
  rw [replayed] at same
  obtain ⟨engine, connections, programs, compiled, events⟩ := t
  simp only [Prod.mk.injEq] at same
  obtain ⟨rfl, rfl, rfl, rfl⟩ := same
  exact ⟨engine, rfl⟩

end Attempts

theorem Run.slot?_acquired (counts : L.Counts count) (run : Run L.engine.withFaults e past s)
    (active : Active p s) (acquired : acquireFor L.engine.withFaults p s = (.ok h, u)) :
    u.inner.slot? h =
      s.offered count (s.program p).connection (s.program p).kind (s.program p).sql := by
  have sound : Sound ⟨s, { connection := 0 }⟩ := run.sound ⟨rfl, rfl, rfl, rfl⟩
  exact Store.slot?_acquired counts run.slotted_inner (sound.homes.given _) acquired
    (run.acquired_live active acquired)

/-- What a failed attempt leaves. -/
inductive GivenUp (x : Program) (h : CompiledId) (s u t : Store (Faulty (Engines δ))) : Prop
  /-- The statement is idle in the cache, and some of the bindings are made. -/
  | stored (idle : t.idle? x.connection x.kind x.sql = some h)
      (destroyed : ∀ k, (t.statement k).destroyed = (u.statement k).destroyed)
      (slot : ∃ done, (∀ b ∈ done, b ∈ x.pending) ∧
        t.inner.slot? h = (u.inner.slot? h).map (·.putAll done))
  /-- The statement is destroyed, and another one is going to be compiled in the same way. -/
  | own (before : s.Private x.connection x.kind x.sql) (after : t.Private x.connection x.kind x.sql)
      (destroyed : ∀ k, (t.statement k).destroyed = (s.statement k).destroyed)

theorem Run.gives_up (run : Run L.engine.withFaults e past s) (active : Active p s)
    {err : EngineError} (acquired : acquireFor L.engine.withFaults p s = (.ok h, u))
    (refused : (replay L.engine.withFaults h (s.program p).pending).run u = (.error err, v))
    (abandoned : t = ((abandon L.engine.withFaults (s.program p).connection h :
      Op (Faulty (Engines δ)) EngineError Unit).run v).2) : GivenUp (s.program p) h s u t := by
  obtain ⟨engine, rfl⟩ := replay_engine refused
  have puts := replay_puts (L := L) (h := h) (o := u.inner.slot? h) (s.program p).pending u rfl
  rw [refused] at puts
  by_cases own : s.Private (s.program p).connection (s.program p).kind (s.program p).sql
  · have sound : Sound ⟨s, { connection := 0 }⟩ := run.sound ⟨rfl, rfl, rfl, rfl⟩
    obtain ⟨after, destroyed⟩ := own.abandon ((own.acquire acquired).withEngine engine)
      (sound.homes.given _) abandoned
    exact .own own after destroyed
  · have sound : Sound ⟨u, _⟩ := At.invariant (fun _ _ hm hs => hs.step hm)
      (run.acquired_moves active acquired) (run.sound ⟨rfl, rfl, rfl, rfl⟩)
    obtain ⟨shared, stored⟩ := acquire_stored (lt_of_isOpen active.isOpen) own acquired
    have text : (u.statement h).sql = (s.program p).sql :=
      (sound.homes.entry _ _ (Cache.mem_of_peek? stored)).2
    have live := run.acquired_live active acquired
    obtain ⟨done, some, slot⟩ := puts
    obtain ⟨idle, destroyed, same, native⟩ := abandon_idle (E := L.engine.withFaults)
      (ε := EngineError) (s := { u with engine }) shared stored text live
      abandoned
    refine .stored idle destroyed ⟨done, some, Eq.trans ?_ slot⟩
    show t.engine.inner.slot? (t.native h) = engine.inner.slot? (u.native h)
    rw [same, native]
    rfl

/-- One failed attempt more makes no difference to what is obtained next. -/
theorem Run.again_agrees (counts : L.Counts count) (run : Run L.engine.withFaults e past s)
    (run' : Run L.engine.withFaults e past' t) (active : Active p s) (bare : t.bare = s.bare)
    (acquired : acquireFor L.engine.withFaults p s = (.ok h, u))
    (givenUp : GivenUp (s.program p) h s u t)
    (acquired' : acquireFor L.engine.withFaults p t = (.ok k, w)) :
    Agrees (s.program p).pending h u k w := by
  have active' := active.of_bare bare
  have slot := run.slot?_acquired counts active acquired
  have slot' := run'.slot?_acquired counts active' acquired'
  have program : t.program p = s.program p := program_of_bare bare p
  rw [program] at slot'
  unfold acquireFor at acquired acquired'
  rw [program] at acquired'
  cases givenUp with
  | stored idle destroyed slots =>
    obtain ⟨es, attaches⟩ := acquire_attached (E := L.engine.withFaults) idle
    obtain ⟨same, rfl⟩ := Prod.mk.inj (attaches.symm.trans acquired')
    obtain rfl := Except.ok.inj same
    obtain ⟨done, some, left⟩ := slots
    constructor
    · simp only [offered, idle] at slot'
      rw [slot', left, Option.map_map]
      -- the bindings that were made before the refusal are all made again
      exact congrArg (u.inner.slot? h).map (funext fun x => (Slot.putAll_putAll some x).symm)
    · intro x
      rw [destroyed_attached, destroyed]
  | own before after destroyed =>
    constructor
    · simp only [offered, before.idle?] at slot
      simp only [offered, after.idle?] at slot'
      rw [slot, slot']
    · intro x
      rw [(before.acquire acquired).others, (after.acquire acquired').others, destroyed]

/-- Failed attempts are steps of a run, and leave what does not belong to engines, statements and
caches as it was. -/
theorem Retried.reached (tried : Retried L p s t) (run : Run L.engine.withFaults e past s)
    (free : (s.program p).held = none) :
    (∃ past', Run L.engine.withFaults e past' t) ∧ t.bare = s.bare := by
  induction tried with
  | start => exact ⟨⟨past, run⟩, rfl⟩
  | @again t u v w h err tried acquired refused failed ih =>
    obtain ⟨⟨past', run'⟩, bare⟩ := ih
    have program : t.program p = s.program p := program_of_bare bare p
    obtain ⟨active, abandoned⟩ :=
      compileProgram_abandoned (program ▸ free) acquired refused failed
    refine ⟨⟨_, run'.compiled active failed⟩, Eq.trans ?_ bare⟩
    calc w.bare = v.bare := by
          rw [abandoned]
          exact abandon_keeps v
      _ = u.bare := by
          have kept : ((replay L.engine.withFaults h (t.program p).pending).run u).2.bare =
            u.bare := replay_keeps u
          rw [refused] at kept
          exact kept
      _ = t.bare := bare_acquired acquired

/-- However many attempts have failed, what is obtained then comes to the same as what would have
been obtained at first. -/
theorem Retried.agrees (counts : L.Counts count) (tried : Retried L p s t)
    (run : Run L.engine.withFaults e past s) (free : (s.program p).held = none)
    (acquired : acquireFor L.engine.withFaults p t = (.ok h, u)) :
    ∃ k v, acquireFor L.engine.withFaults p s = (.ok k, v) ∧
      Agrees (s.program p).pending k v h u := by
  induction tried generalizing h u with
  | start => exact ⟨h, u, acquired, .refl ..⟩
  | @again t u' v w h' err tried acquired' refused failed ih =>
    -- what the last failed attempt obtained stands between the first one and what is obtained now
    obtain ⟨k, x, first, agrees⟩ := ih acquired'
    obtain ⟨⟨past', run'⟩, bare⟩ := tried.reached run free
    obtain ⟨⟨past'', run''⟩, bare'⟩ := (tried.again acquired' refused failed).reached run free
    have program : t.program p = s.program p := program_of_bare bare p
    obtain ⟨active, abandoned⟩ :=
      compileProgram_abandoned (program ▸ free) acquired' refused failed
    have givenUp := run'.gives_up active acquired' refused abandoned
    have next :=
      run'.again_agrees counts run'' active (bare'.trans bare.symm) acquired' givenUp acquired
    rw [program] at next
    exact ⟨k, x, first, agrees.trans next⟩

/-- Other faults to come make no difference to what is obtained. -/
theorem Run.faulting_agrees (counts : L.Counts count) (run : Run L.engine.withFaults e past s)
    (active : Active p s) (bs : List Binding) {faults : List Fault}
    (acquired : acquireFor L.engine.withFaults p s = (.ok h, u))
    (acquired' : acquireFor L.engine.withFaults p (s.faulting faults) = (.ok k, v)) :
    (v.statement k).destroyed = false ∧ Agrees bs h u k v := by
  have sound : Sound ⟨s, { connection := 0 }⟩ := run.sound ⟨rfl, rfl, rfl, rfl⟩
  have numbers (n m : StatementId)
      (answer : (L.engine.withFaults.run (s.connection (s.program p).connection).engine
        (.compile (s.program p).sql) s.engine).1 = .ok n)
      (answer' : (L.engine.withFaults.run
        ((s.faulting faults).connection (s.program p).connection).engine
        (.compile (s.program p).sql) (s.faulting faults).engine).1 = .ok m) : m = n :=
    Except.ok.inj ((Engine.withFaults_ok answer').1.symm.trans (Engine.withFaults_ok answer).1)
  obtain ⟨same, destroyed⟩ :=
    acquire_congr (s := s) (t := s.faulting faults) rfl rfl numbers acquired acquired'
  subst same
  have live := run.acquired_live active acquired
  have live' := (destroyed k).trans live
  have slot' := Store.slot?_acquired counts (s := s.faulting faults) run.slotted_inner
    (sound.homes.given _) acquired' live'
  refine ⟨live', ?_, fun x => by rw [destroyed]⟩
  rw [run.slot?_acquired counts active acquired, slot']
  rfl

/-- A program that is compiled holds what was obtained for it, with all its bindings made. -/
structure Compiles (L : Library δ) (p : ProgramId) (s t : Store (Faulty (Engines δ))) (h : CompiledId)
    (u : Store (Faulty (Engines δ))) : Prop where
  active : Active p s
  acquired : acquireFor L.engine.withFaults p s = (.ok h, u)
  held : (t.program p).held = some h
  pending : (t.program p).pending = []
  destroyed : ∀ k, (t.statement k).destroyed = (u.statement k).destroyed
  takes : Takes (u.inner.slot? h) (s.program p).pending
  slot : t.inner.slot? h = (u.inner.slot? h).map (·.putAll (s.program p).pending)

theorem compiles (free : (s.program p).held = none)
    (compiled : (compileProgram L.engine.withFaults p).run s = (.ok (), t)) :
    ∃ h u, Compiles L p s t h u := by
  obtain ⟨active, h, u, v, acquired, replayed, rfl⟩ := compileProgram_obtained free compiled
  have puts := replay_puts (L := L) (h := h) (o := u.inner.slot? h) (s.program p).pending u rfl
  rw [replayed] at puts
  obtain ⟨engine, rfl⟩ := replay_engine replayed
  have program : u.program p = s.program p := program_of_bare (bare_acquired acquired) p
  have found := program_withProgram_self (s := { u with engine })
    (lt_of_not_closed (program ▸ active.live)) fun x => { x with held := some h, pending := [] }
  exact ⟨h, u, active, acquired, congrArg Program.held found, congrArg Program.pending found,
    fun _ => rfl, puts.2, puts.1⟩

/-- The attempts to compile a program fail any number of times, each because a binding that is
replayed is refused, and then one succeeds. Without faults the first attempt would have succeeded;
and in whatever way it might have succeeded, the statement that the program ends up with has the
same text and the same parameters as the one that it would have had then, no binding waits any
more, and the other statements that are not destroyed are the same ones. Of the library it is assumed
that a text has one number of parameters, whenever it is prepared. -/
theorem retries_harmless (counts : L.Counts count) (run : Run L.engine.withFaults e past s)
    (free : (s.program p).held = none) (tried : Retried L p s t)
    (compiled : (compileProgram L.engine.withFaults p).run t = (.ok (), u)) :
    (∃ v, (compileProgram L.engine.withFaults p).run (s.faulting []) = (.ok (), v)) ∧
    ∃ h, (u.program p).held = some h ∧ (u.program p).pending = [] ∧
      (u.statement h).destroyed = false ∧
      (u.inner.slot? h).isSome ∧
      ∀ faults v,
        (compileProgram L.engine.withFaults p).run (s.faulting faults) = (.ok (), v) →
        ∃ k, (v.program p).held = some k ∧ (v.statement k).destroyed = false ∧
          u.inner.slot? h = v.inner.slot? k ∧
          ∀ x, (x ≠ h ∧ (u.statement x).destroyed = false) ↔
            (x ≠ k ∧ (v.statement x).destroyed = false) := by
  obtain ⟨⟨past', run'⟩, bare⟩ := tried.reached run free
  have program : t.program p = s.program p := program_of_bare bare p
  obtain ⟨h, w, last⟩ := compiles (program ▸ free) compiled
  obtain ⟨k, v, first, agrees⟩ := tried.agrees counts run free last.acquired
  have active : Active p s := last.active.of_bare bare.symm
  have slot := last.slot
  have takes := last.takes
  rw [program] at slot takes
  constructor
  · -- without faults only the positions count, and there are as many in the last slot
    obtain ⟨l, x, direct, none⟩ := acquire_faultless first
    have direct' : acquireFor L.engine.withFaults p (s.faulting []) = (.ok l, x) := direct
    have same := (run.faulting_agrees counts active (s.program p).pending first direct').2
    have taken : Takes (x.inner.slot? l) (s.program p).pending := by
      rw [← takes_putAll (s.program p).pending, ← same.slot, agrees.slot, takes_putAll]
      exact takes
    rcases replayed : (replay L.engine.withFaults l (s.program p).pending).run x with ⟨r, y⟩
    have accepted := replay_takes (L := L) none taken
    rw [replayed] at accepted
    obtain rfl : r = .ok () := accepted
    have active' : Active p (s.faulting []) := ⟨active.live, active.isOpen⟩
    have obtained := ensureCompiled_obtained (s := s.faulting []) free direct' replayed
    exact ⟨_, compileProgram_usable active'.verified obtained⟩
  · have live : (u.statement h).destroyed = false :=
      (last.destroyed h).trans (run'.acquired_live last.active last.acquired)
    have slotted := (run'.compiled last.active compiled).slotted_inner
    refine ⟨h, last.held, last.pending, live, slotted.slot h live, fun faults d direct => ?_⟩
    obtain ⟨l, x, once⟩ := compiles (s := s.faulting faults) free direct
    obtain ⟨live, same⟩ :=
      run.faulting_agrees counts active (s.program p).pending first once.acquired
    refine ⟨l, once.held, (once.destroyed l).trans live, ?_, fun x => ?_⟩
    · rw [slot, once.slot, ← agrees.slot]
      exact same.slot
    · rw [last.destroyed, once.destroyed, ← agrees.others]
      exact same.others x

/-- A binding is refused before anything is bound, then the next one after the first was made, and
then all three are accepted; the first parameter is bound twice. -/
theorem retries_harmless_refused : ∃ past s t u v h k,
    Dialect.library.Counts Dialect.count ∧
    Run Dialect.library.engine.withFaults
      ⟨(Server.openMemory {}).2, [⟨.bind, 0, .native "busy"⟩, ⟨.bind, 1, .native "busy"⟩]⟩ past s ∧
    (s.program 0).held = none ∧ Retried Dialect.library 0 s t ∧
    t.inner.slot? 0 = some ⟨";SELECT ?, ?", [.integer 1, .null]⟩ ∧
    (compileProgram Dialect.library.engine.withFaults 0).run t = (.ok (), u) ∧
    (compileProgram Dialect.library.engine.withFaults 0).run (s.faulting []) = (.ok (), v) ∧
    (u.program 0).held = some h ∧ (v.program 0).held = some k ∧
    u.inner.slot? h = v.inner.slot? k ∧
    u.inner.slot? 0 = some ⟨";SELECT ?, ?", [.integer 3, .integer 2]⟩ := by
  have run := Run.ofActions (E := Dialect.library.engine.withFaults)
    (e := ⟨(Server.openMemory {}).2, [⟨.bind, 0, .native "busy"⟩, ⟨.bind, 1, .native "busy"⟩]⟩)
    [.openDefault 0, .createDeferred 0 ";SELECT ?, ?", .bindValue 0 1 (.integer 1),
      .bindValue 0 2 (.integer 2), .bindValue 0 1 (.integer 3)] (by decide +kernel)
  have begun :=
    (fun {s} (_ : Run Dialect.library.engine.withFaults _ _ s) => @Retried.start _ Dialect.library 0 s)
      run
  have tried := begun
    |>.further (h := 0) (e := .native "busy") (by decide +kernel) (by decide +kernel)
      (by decide +kernel)
    |>.further (h := 0) (e := .native "busy") (by decide +kernel) (by decide +kernel)
      (by decide +kernel)
  obtain ⟨⟨v, direct⟩, h, held, -, -, -, same⟩ :=
    retries_harmless Dialect.counts run (by decide +kernel) tried (Prod.ext (by decide +kernel) rfl)
  obtain ⟨k, held', -, slot, -⟩ := same [] v direct
  exact ⟨_, _, _, _, v, h, k, Dialect.counts, run, by decide +kernel, tried, by decide +kernel,
    Prod.ext (by decide +kernel) rfl, direct, held, held', slot, by decide +kernel⟩

end Prepared.Store
