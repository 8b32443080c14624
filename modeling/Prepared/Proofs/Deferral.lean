import Prepared.Proofs.Stock
import Prepared.Proofs.Ways

/-! Deferred compilation.

Over the recording engine a program of an open connection always obtains a statement, unless
its text is refused, and the statement takes all values. So deferring the compilation makes no
difference, and the log says which values were bound and in which order. -/
namespace Prepared

/-- The call by which a value is bound in a statement. -/
def Binding.call (n : StatementId) (b : Binding) : Call :=
  .bind n b.position b.value

namespace Store

open Operation

variable {e : Recording} {s t u v : Store Recording} {past : List (Step Recording)}
  {p : ProgramId} {h : CompiledId} {b : Binding} {bs : List Binding}

/-- The store once calls were recorded. -/
def recorded (s : Store Recording) (calls : List Call) : Store Recording :=
  { s with engine := { s.engine with log := s.engine.log ++ calls } }

/-- The calls by which a statement is obtained for a text: none if there is an idle one,
otherwise its compilation and the destruction of others that it displaces. -/
def ObtainedBy (n : StatementId) (sql : String) : Option CompiledId → List Call → Prop
  | some _, calls => calls = []
  | none, calls => ∃ ks : List StatementId, n ∉ ks ∧ calls = .compile n sql :: ks.map .destroy

/-- A live statement takes all values, and each is recorded once, in the order of the list. -/
theorem replay_recorded (live : s.engine.isLive (s.statement h).statement = true)
    (positions : ∀ b ∈ bs, b.position ≠ 0) :
    (replay Recording.engine h bs).run s =
      (.ok (), s.recorded (bs.map (·.call (s.statement h).statement))) := by
  induction bs generalizing s with
  | nil => simp [replay, untilError, recorded]
  | cons b bs ih =>
    let n := (s.statement h).statement
    let t := s.recorded [b.call n]
    have first : (applyBinding Recording.engine h b).run s = (.ok (), t) := by
      have answer := Recording.bind_live live (positions b (List.mem_cons_self ..))
      show ((s.engine.bind n b.position b.value).1,
        { s with engine := (s.engine.bind n b.position b.value).2 }) = _
      rw [answer]
      rfl
    have rest := ih (s := t) live fun b hb => positions b (List.mem_cons_of_mem _ hb)
    unfold replay at rest ⊢
    rw [untilError, run_bind, first]
    refine rest.trans ?_
    simp [t, n, recorded, statement]

/-- Requests to destroy other statements than a live one. -/
theorem destroyed_calm (n : StatementId) (log : List Call) :
    Calm Recording.engine fun s => ∃ ks : List StatementId, s.engine.log = log ++ ks.map .destroy ∧
      (s.engine.isLive n = true → n ∉ ks) where
  events _ _ h := h
  cache _ _ _ h := h
  token _ _ _ h := h
  struck s k _ h := by
    obtain ⟨ks, recorded, others⟩ := h
    let m := (s.statement k).statement
    show ∃ ks : List StatementId, (s.engine.destroy m).2.log = log ++ ks.map .destroy ∧
      ((s.engine.destroy m).2.isLive n = true → n ∉ ks)
    by_cases live : s.engine.isLive m = true
    · refine ⟨ks ++ [m], ?_, fun left => ?_⟩
      · simp [Recording.destroy, live, Recording.record, recorded]
      · by_cases same : m = n
        · rw [same, Recording.isLive_destroy_self] at left
          cases left
        · rw [Recording.isLive_destroy_of_ne (Ne.symm same)] at left
          simpa [Ne.symm same] using others left
    · have nothing : (s.engine.destroy m).2 = s.engine := by simp [Recording.destroy, live]
      rw [nothing]
      exact ⟨ks, recorded, others⟩

/-- A statement is obtained for every text that is not refused. -/
theorem acquire_recorded (c : ConnectionId) (kind : Kind) {sql : String}
    (accepted : s.engine.refused.contains sql = false) :
    ∃ h t calls, (acquire Recording.engine c kind sql).run s = (.ok h, t) ∧
      t.engine.log = s.engine.log ++ calls ∧
      (t.engine.isLive (t.statement h).statement = true →
        ObtainedBy (t.statement h).statement sql (s.idle? c kind sql) calls) := by
  cases idle : s.idle? c kind sql with
  | some h =>
    obtain ⟨es, run⟩ := acquire_attached (E := Recording.engine) idle
    exact ⟨h, _, [], run, (List.append_nil _).symm, fun _ => rfl⟩
  | none =>
    let n := StatementId.after s.engine.lastNumber
    have answer :
        (Recording.engine.run (s.connection c).engine (.compile sql) s.engine).1 = .ok n :=
      congrArg Prod.fst (Recording.compile_accepted accepted)
    obtain ⟨t, run, settled⟩ := acquire_compiled idle answer
    let g := s.grown Recording.engine c sql n
    have compiled : g.engine.log = s.engine.log ++ [.compile n sql] := by
      show (s.engine.compile sql).2.log = _
      rw [Recording.compile_accepted accepted]
    have number : (t.statement s.compiled.next).statement = n := by
      refine settled _ (.statement _ _ (fun x => x.statement) (fun _ _ _ => rfl) n) ?_
      rw [statement_grown, if_pos rfl]
    obtain ⟨ks, destroyed, others⟩ := settled _ (destroyed_calm n g.engine.log)
      ⟨[], (List.append_nil _).symm, fun _ => List.not_mem_nil⟩
    refine ⟨_, t, .compile n sql :: ks.map .destroy, run, ?_, fun live => ?_⟩
    · rw [destroyed, compiled, List.append_assoc]
      rfl
    · rw [number] at live ⊢
      exact ⟨ks, others live, rfl⟩

/-- A program in use is given a live statement for a text that is not refused. -/
theorem Run.obtains (run : Run Recording.engine e past s) (active : Active p s)
    (accepted : s.engine.refused.contains (s.program p).sql = false) :
    ∃ h t calls, acquireFor Recording.engine p s = (.ok h, t) ∧
      t.engine.isLive (t.statement h).statement = true ∧
      ObtainedBy (t.statement h).statement (s.program p).sql
        (s.idle? (s.program p).connection (s.program p).kind (s.program p).sql) calls ∧
      t.engine.log = s.engine.log ++ calls := by
  obtain ⟨h, t, calls, acquired, log, obtained⟩ :=
    acquire_recorded (s.program p).connection (s.program p).kind accepted
  have live := run.acquired_live active acquired
  have stocked : Stocked t := (At.invariant (I := fun m => Sound m ∧ Stocked m.store)
    (fun _ _ => Stocked.move) (run.acquired_moves active acquired)
    ⟨run.sound ⟨rfl, rfl, rfl, rfl⟩, run.stocked⟩).2
  have isLive := stocked.live h live
  exact ⟨h, t, calls, acquired, isLive, obtained isLive, log⟩

/-- A program has obtained a statement with values bound in it: the engine was asked for the
statement, unless there was an idle one, and then to bind each value, in the order of the
list. -/
structure BoundIn (s t : Store Recording) (x : Program) (bs : List Binding) (p : ProgramId)
    (h : CompiledId) : Prop where
  program : t.program p = x.obtain h
  live : t.engine.isLive (t.statement h).statement = true
  log : ∃ calls,
    ObtainedBy (t.statement h).statement x.sql (s.idle? x.connection x.kind x.sql) calls ∧
      t.engine.log = s.engine.log ++ calls ++ bs.map (·.call (t.statement h).statement)

/-- What is obtained depends on the engine and on the idle statement alone. -/
theorem BoundIn.rebase {x : Program} (bound : BoundIn u t x bs p h) (engine : u.engine = s.engine)
    (idle : u.idle? x.connection x.kind x.sql = s.idle? x.connection x.kind x.sql) :
    BoundIn s t x bs p h := by
  obtain ⟨program, live, calls, obtained, log⟩ := bound
  rw [idle] at obtained
  rw [engine] at log
  exact ⟨program, live, calls, obtained, log⟩

/-- What was obtained takes the values that are then replayed. -/
theorem BoundIn.of_obtained (active : Active p s)
    (acquired : acquireFor Recording.engine p s = (.ok h, t))
    (live : t.engine.isLive (t.statement h).statement = true) {calls : List Call}
    (obtained : ObtainedBy (t.statement h).statement (s.program p).sql
      (s.idle? (s.program p).connection (s.program p).kind (s.program p).sql) calls)
    (log : t.engine.log = s.engine.log ++ calls) (bs : List Binding) :
    BoundIn s ((t.recorded (bs.map (·.call (t.statement h).statement))).withProgram p (·.obtain h))
      (s.program p) bs p h := by
  have program : t.program p = s.program p := program_of_bare (bare_acquired acquired) p
  constructor
  case program =>
    rw [program_withProgram_self (lt_of_not_closed (program ▸ active.live))]
    exact congrArg (·.obtain h) program
  case live => exact live
  case log => exact ⟨calls, obtained, by rw [← log]; rfl⟩

/-- A statement that a program holds is executed, and that is recorded. -/
theorem execute_recorded (active : Active p s) (held : (s.program p).held = some h)
    (live : s.engine.isLive (s.statement h).statement = true) :
    ∃ output, (execute Recording.engine p).run s =
      (.ok output, s.recorded [.execute (s.statement h).statement]) := by
  obtain ⟨output, answer⟩ := Recording.execute_live live
  refine ⟨output, ?_⟩
  rw [execute_obtained active.verified (ensureCompiled_held held)]
  show ((s.engine.execute (s.statement h).statement).1.mapError ProgramError.engine,
    { s with engine := (s.engine.execute (s.statement h).statement).2 }) = _
  rw [answer]
  rfl

/-- A program is compiled with exactly the values that it has bound. -/
theorem Run.replays (run : Run Recording.engine e past s) (active : Active p s)
    (free : (s.program p).held = none)
    (accepted : s.engine.refused.contains (s.program p).sql = false) :
    ∃ h t, (compileProgram Recording.engine p).run s = (.ok (), t) ∧
      BoundIn s t (s.program p) (bound p past) p h := by
  obtain ⟨h, t, calls, acquired, live, obtained, log⟩ := run.obtains active accepted
  have positions : ∀ b ∈ (s.program p).pending, b.position ≠ 0 := by
    rw [(run.waits p).waiting active.live free]
    exact run.positions
  have replayed := replay_recorded live positions
  have compiled := compileProgram_usable active.verified
    (ensureCompiled_obtained free acquired replayed)
  refine ⟨h, _, compiled, ?_⟩
  rw [(run.waits p).waiting active.live free]
  exact .of_obtained active acquired live obtained log _

/-- A program of an open connection that gives it a reference comes to the same both ways. -/
theorem Run.agree (run : Run Recording.engine e past s) {c : ConnectionId} {sql : String}
    (allowed : 0 < (s.connection c).clones) (isOpen : (s.connection c).isOpen = true)
    (room : (s.connection c).references < maxReferences)
    (accepted : s.engine.refused.contains (Text.trim sql) = false)
    (positions : ∀ b ∈ bs, b.position ≠ 0) :
    ∃ h t u, (bindCompiled Recording.engine c sql bs).run s = (.ok s.programs.next, u) ∧
      (bindDeferred Recording.engine c sql bs).run s = (.ok s.programs.next, t) ∧
      Active s.programs.next t ∧ Active s.programs.next u ∧
      (ensureCompiled Recording.engine s.programs.next).run t = (.ok h, u) ∧
      BoundIn s u { connection := c, sql := Text.trim sql, kind := Kind.classify (Text.trim sql) }
        bs s.programs.next h := by
  obtain ⟨u, created, own, active, engine, idle⟩ :=
    createDeferred_active sql isOpen ⟨run.funded c isOpen, room⟩
  -- the creation is one more step of the run
  have next := run.created allowed created
  obtain ⟨h, v, calls, acquired, live, obtained, log⟩ := next.obtains active (by
    rw [own, engine]
    exact accepted)
  have replayed := replay_recorded live positions
  have free : (u.program s.programs.next).held = none := by rw [own]
  have empty : (u.program s.programs.next).pending = [] := by rw [own]
  have compiled := bindCompiled_obtained created active free empty acquired replayed positions
  obtain ⟨t, deferred, active', ensured⟩ :=
    bindDeferred_obtained created active free empty acquired replayed positions
  have bound := BoundIn.of_obtained active acquired live obtained log bs
  refine ⟨h, t, _, compiled, deferred, active', ?_, ensured, ?_⟩
  · have kept := ensureCompiled_keeps (E := Recording.engine) (p := s.programs.next) t
    rw [ensured] at kept
    exact active'.of_steady kept
  · rw [own] at bound
    exact bound.rebase engine (idle _ _)

/-- It makes no difference whether a program is compiled when it is created or once its values
are bound, or even once it is executed: the results and the stores are the same, so the engine
is asked for a statement, unless there is an idle one, then to bind each value, in the order in
which they were bound, and then to execute it. In general the values that wait in an open
program are those that it has bound since it last cleared them, these are replayed when it is
compiled, and none wait once it has a statement or is closed. -/
theorem deferral_transparent (run : Run Recording.engine e past s) :
    (∀ c sql bs, 0 < (s.connection c).clones →
      s.engine.refused.contains (Text.trim sql) = false → (∀ b ∈ bs, b.position ≠ 0) →
      (bindDeferred Recording.engine c sql bs >>= fun p =>
          compileProgram Recording.engine p >>= fun _ => pure p).run s =
        (bindCompiled Recording.engine c sql bs).run s ∧
      (bindDeferred Recording.engine c sql bs >>= execute Recording.engine).run s =
        (bindCompiled Recording.engine c sql bs >>= execute Recording.engine).run s ∧
      ((s.connection c).isOpen = true → (s.connection c).references < maxReferences →
        ∃ h t output,
        (bindCompiled Recording.engine c sql bs).run s = (.ok s.programs.next, t) ∧
        BoundIn s t { connection := c, sql := Text.trim sql, kind := Kind.classify (Text.trim sql) }
          bs s.programs.next h ∧
        (execute Recording.engine s.programs.next).run t =
          (.ok output, t.recorded [.execute (t.statement h).statement]))) ∧
    ∀ p,
      ((s.program p).isClosed = false → (s.program p).held = none →
        (s.program p).pending = bound p past ∧
        ((s.connection (s.program p).connection).isOpen = true →
          s.engine.refused.contains (s.program p).sql = false →
          ∃ h t, (compileProgram Recording.engine p).run s = (.ok (), t) ∧
            BoundIn s t (s.program p) (bound p past) p h)) ∧
      ((s.program p).isClosed = true ∨ (s.program p).held ≠ none → (s.program p).pending = []) := by
  constructor
  · intro c sql bs allowed accepted positions
    by_cases refused : (s.connection c).isOpen = false ∨ ¬ (s.connection c).Grants
    · obtain ⟨m, failed⟩ := createDeferred_error (σ := Recording) sql refused
      have deferred : (bindDeferred Recording.engine c sql bs).run s = (.error (.usage m), s) := by
        simp only [bindDeferred, run_bind, failed]
      have compiled : (bindCompiled Recording.engine c sql bs).run s = (.error (.usage m), s) := by
        simp only [bindCompiled, createCompiled, run_bind, failed]
      simp only [run_bind, deferred, compiled]
      refine ⟨trivial, trivial, fun isOpen room => ?_⟩
      have grants : (s.connection c).Grants := ⟨run.funded c isOpen, room⟩
      exact absurd refused (by simp [isOpen, grants])
    · rw [not_or, Bool.not_eq_false, not_not] at refused
      obtain ⟨isOpen, grants⟩ := refused
      obtain ⟨h, t, u, compiled, deferred, active, active', ensured, bound⟩ :=
        run.agree allowed isOpen grants.2 accepted positions
      have held : (u.program s.programs.next).held = some h := by
        rw [bound.program]
        rfl
      obtain ⟨output, recorded⟩ := execute_recorded active' held bound.live
      refine ⟨?_, ?_, fun _ _ => ⟨h, u, output, compiled, bound, recorded⟩⟩
      · simp only [run_bind, deferred, compiled, compileProgram_usable active.verified ensured]
        rfl
      · rw [run_bind, run_bind, deferred, compiled]
        exact (execute_obtained active.verified ensured).trans
          (execute_obtained active'.verified (ensureCompiled_held held)).symm
  · intro p
    refine ⟨fun live free => ⟨(run.waits p).waiting live free, fun isOpen accepted => ?_⟩, ?_⟩
    · exact run.replays ⟨live, isOpen⟩ free accepted
    · intro settled
      rcases settled with closed | held
      · exact (run.tidy p).closed closed
      · exact (run.tidy p).held held

/-- A new text displaces the only cached statement before its two values are bound; meanwhile
another program waits with a value. -/
theorem deferral_transparent_displacing :
    ∃ past s, Run Recording.engine {} past s ∧
      0 < (s.connection 0).clones ∧
      s.engine.refused.contains (Text.trim "REPLACE INTO t VALUES (?)") = false ∧
      (bindDeferred Recording.engine 0 "REPLACE INTO t VALUES (?)" [⟨1, .null⟩, ⟨1, .text "x"⟩] >>=
          execute Recording.engine).run s =
        (bindCompiled Recording.engine 0 "REPLACE INTO t VALUES (?)"
          [⟨1, .null⟩, ⟨1, .text "x"⟩] >>= execute Recording.engine).run s ∧
      ((bindCompiled Recording.engine 0 "REPLACE INTO t VALUES (?)"
          [⟨1, .null⟩, ⟨1, .text "x"⟩] >>= execute Recording.engine).run s).2.engine.log =
        [.compile ⟨1, by decide⟩ "DELETE FROM t WHERE a = ?",
          .compile ⟨2, by decide⟩ "REPLACE INTO t VALUES (?)", .destroy ⟨1, by decide⟩,
          .bind ⟨2, by decide⟩ 1 .null, .bind ⟨2, by decide⟩ 1 (.text "x"),
          .execute ⟨2, by decide⟩] ∧
      (s.program 1).pending = [⟨1, .null⟩] ∧ (s.program 1).pending = bound 1 past := by
  have run := Run.ofActions (E := Recording.engine) (e := {})
    [.openConnection 0 { capacity := 1 }, .createCompiled 0 "DELETE FROM t WHERE a = ?",
      .closeProgram 0, .createDeferred 0 "DELETE FROM t WHERE a = ?", .bindValue 1 1 .null]
    (by decide +kernel)
  obtain ⟨ways, waits⟩ := deferral_transparent run
  refine ⟨_, _, run, by decide +kernel, by decide +kernel, ?_, by decide +kernel,
    by decide +kernel, ?_⟩
  · exact (ways 0 "REPLACE INTO t VALUES (?)" [⟨1, .null⟩, ⟨1, .text "x"⟩] (by decide +kernel)
      (by decide +kernel) (by decide)).2.1
  · exact ((waits 1).1 (by decide +kernel) (by decide +kernel)).1

end Store

end Prepared
