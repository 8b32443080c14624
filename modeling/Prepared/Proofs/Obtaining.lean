import Prepared.Proofs.Closing
import Prepared.Proofs.Ways

/-! Obtaining a statement, as it shows.

A program may attach to a cached statement or have its text compiled. Either way the library
counts as the same afterwards, and the waiting bindings are accepted or refused by the number of
parameters of the text. So it does not show which way was taken. -/
namespace Prepared

namespace Sql

/-- Whether there is a parameter at the position of a binding, among so many. -/
def admission (count : Nat) (b : Binding) : Except EngineError Unit :=
  if 1 ≤ b.position.toNat ∧ b.position.toNat ≤ count then .ok ()
  else .error (Slots.outOfRange b.position count)

/-- Whether there are parameters for all bindings, the first refusal otherwise. -/
def admissions (count : Nat) (bs : List Binding) : Except EngineError Unit :=
  forM bs (admission count)

theorem admissions_cons (count : Nat) (b : Binding) (bs : List Binding) :
    admissions count (b :: bs) = (admission count b >>= fun _ => admissions count bs) :=
  List.forM_cons

end Sql

namespace Store

open Operation Sql

variable {δ : Type} {L : Library δ} {T : Terms L} {s t : Store (Engines δ)} {o : Store δ}
  {h : CompiledId} {c : ConnectionId} {p : ProgramId} {sql : String} {e : Engines δ}
  {past : List (Step (Engines δ))}

/-- A live statement with a text. -/
structure Stands {σ : Type} (h : CompiledId) (sql : String) (s : Store σ) : Prop where
  live : (s.statement h).destroyed = false
  text : (s.statement h).sql = sql

theorem applyBinding_looks (b : Binding) :
    Ensures (fun s => Looks T o s ∧ Stands h sql s) (applyBinding L.engine h b) fun r s =>
      r = admission (T.count sql) b ∧ Looks T o s ∧ Stands h sql s := by
  intro s hs
  obtain ⟨looks, live, rfl⟩ := hs
  obtain ⟨slot, found, -, length⟩ := looks.tuned.engaged.slot live
  have bound := Slots.bind_of_find? (t := s.engine.slots (s.native h).1) found b.position b.value
  have run : (applyBinding L.engine h b).run s =
      (((s.engine.slots (s.native h).1).bind (s.native h).2 b.position b.value).1,
        s.asked L.engine (s.native h).1 (.bind (s.native h).2 b.position b.value)) := rfl
  have name : (Primitive.bind (s.native h).2 b.position b.value).name ≠ .destroy ∧
      (Primitive.bind (s.native h).2 b.position b.value).name ≠ .execute := by
    simp [Primitive.name]
  rw [run]
  refine ⟨?_, looks.asked live rfl name.1 name.2, live, rfl⟩
  unfold admission
  rw [bound, length]
  split <;> rfl

/-- Bindings are replayed up to the first one that the text has no parameter for. -/
theorem replay_looks (bs : List Binding) :
    Ensures (fun s => Looks T o s ∧ Stands h sql s) (replay L.engine h bs) fun r s =>
      r = admissions (T.count sql) bs ∧ Looks T o s ∧ Stands h sql s := by
  induction bs with
  | nil => exact .pure fun s hs => ⟨rfl, hs⟩
  | cons b bs ih =>
    rw [admissions_cons]
    refine (applyBinding_looks b).bind (fun _ => ?_) fun e s hs => ?_
    · refine .pre (P := fun s => (Looks T o s ∧ Stands h sql s) ∧ admission (T.count sql) b = .ok ())
        (.of_fact fun ok => ?_) fun s hs => ⟨hs.2, hs.1.symm⟩
      rw [ok]
      exact ih
    · rw [← hs.1]
      exact ⟨rfl, hs.2⟩

namespace Looks

theorem grown (laws : T.Laws) (hs : Looks T o s) (own : (s.connection c).engine = T.engine)
    {n : StatementId}
    (answer : (L.engine.run (s.connection c).engine (.compile sql) s.engine).1 = .ok n) :
    Looks T o (s.grown L.engine c sql n) := by
  refine hs.restated (.grown ..) (hs.tuned.engaged.grown laws own answer) rfl ?_
  obtain ⟨count, -, -, run⟩ := Engines.run_compile_ok answer
  show T.Same _ (L.engine.run _ (.compile sql) s.engine).2.library
  rw [run, own]
  exact laws.prepare sql hs.same

end Looks

/-- A program in use is given a live statement with its text, unless that is refused. -/
theorem Run.acquireFor_looks (laws : T.Laws) (run : Run L.engine e past s) (active : Active p s)
    (hs : Looks T o s) :
    (∃ reason t, acquireFor L.engine p s = (.error (.compile reason), t)) ∨
    ∃ h t, acquireFor L.engine p s = (.ok h, t) ∧
      Looks T o t ∧ Stands h (s.program p).sql t := by
  have text (h : CompiledId) :
      Calm L.engine fun t => (t.statement h).sql = (s.program p).sql :=
    .statement L.engine h (fun x => x.sql) (fun _ _ _ => rfl) _
  rcases acquired : acquireFor L.engine p s with ⟨r, t⟩
  cases acquire_cases acquired with
  | @attached h idle es =>
    obtain ⟨-, stored, -⟩ := peek?_of_idle idle
    have sound : Sound ⟨s, { connection := 0 }⟩ := run.sound ⟨rfl, rfl, rfl, rfl⟩
    obtain ⟨belongs, same⟩ := sound.homes.entry _ _ (Cache.mem_of_peek? stored)
    have live := run.acquired_live active acquired
    refine .inr ⟨h, _, rfl, ?_, live, (text h).attached es same⟩
    exact (looks_quiet T o).attached es hs
  | refused none answer =>
    obtain ⟨reason, rfl, -⟩ := Engines.run_compile_error answer
    exact .inl ⟨reason, _, rfl⟩
  | compiled none answer settled =>
    have own := hs.tuned.connections _ (lt_of_isOpen active.isOpen)
    have live := run.acquired_live active acquired
    refine .inr ⟨_, t, rfl, ?_, live, ?_⟩
    · exact settled _ (looks_quiet T _).toCalm (hs.grown laws own answer)
    · refine settled _ (text _) ?_
      rw [statement_grown, if_pos rfl]

/-- What an open program of an open connection holds is a live statement with its text. -/
theorem Run.stands (run : Run L.engine e past s) (active : Active p s) (hs : Looks T o s)
    (held : (s.program p).held = some h) : Stands h (s.program p).sql s := by
  have sound : Sound ⟨s, { connection := 0 }⟩ := run.sound ⟨rfl, rfl, rfl, rfl⟩
  have home : (s.statement h).connection = (s.program p).connection :=
    (sound.homes.held p h held).home
  refine ⟨sound.live h (.inr ⟨p, held⟩) ?_, (hs.tuned.held p h held).2⟩
  show (s.connection (s.statement h).connection).isOpen = true
  rw [home]
  exact active.isOpen

/-- What it comes to when a program is to have a statement, unless its text is refused. -/
def ensured (count : String → Nat) (p : ProgramId) (o : Store δ) :
    Except EngineError Unit × Store δ :=
  let x := o.program p
  if x.held.isSome then (.ok (), o)
  else
    match admissions (count x.sql) x.pending with
    | .ok () => (.ok (), o.withProgram p fun x => { x with held := some 0, pending := [] })
    | .error e => (.error e, o)

/-- A program in use obtains a statement and binds what waits, unless its text is refused. -/
theorem Run.ensureCompiled_looks (laws : T.Laws) (run : Run L.engine e past s) (active : Active p s)
    (hs : Looks T o s) :
    (∃ reason t, (ensureCompiled L.engine p).run s = (.error (.compile reason), t)) ∨
    ∃ r t, (ensureCompiled L.engine p).run s = (r, t) ∧
      r.map (fun _ => ()) = (o.ensured T.count p).1 ∧ Looks T (o.ensured T.count p).2 t ∧
      ∀ h, r = .ok h → (t.program p).held = some h ∧ Stands h (s.program p).sql t := by
  have shown := hs.program p
  cases held : (s.program p).held with
  | some h =>
    have same : o.ensured T.count p = (.ok (), o) := by
      unfold ensured
      rw [shown]
      simp [Program.outline, held]
    rw [same]
    refine .inr ⟨.ok h, s, ensureCompiled_held held, rfl, hs, fun k hk => ?_⟩
    cases hk
    exact ⟨held, run.stands active hs held⟩
  | none =>
    let x := s.program p
    have same : o.ensured T.count p = (match admissions (T.count x.sql) x.pending with
        | .ok () => (.ok (), o.withProgram p fun x => { x with held := some 0, pending := [] })
        | .error e => (.error e, o)) := by
      unfold ensured
      rw [shown]
      simp [Program.outline, held, x]
    rcases run.acquireFor_looks laws active hs with ⟨reason, t, acquired⟩ | ⟨h, t, acquired, looks, stands⟩
    · exact .inl ⟨reason, t, ensureCompiled_refused held acquired⟩
    · have program : t.program p = x := program_of_bare (bare_acquired acquired) p
      obtain ⟨admitted, after, stands⟩ := replay_looks x.pending t ⟨looks, stands⟩
      have kept : ((replay L.engine h x.pending).run t).2.bare = t.bare := replay_keeps t
      rcases replayed : (replay L.engine h x.pending).run t with ⟨r, u⟩
      rw [replayed] at admitted after kept stands
      rw [same, ← admitted]
      cases r with
      | error e =>
        refine .inr ⟨_, _, ensureCompiled_unbound held acquired replayed, rfl, ?_, nofun⟩
        exact (looks_quiet T _).toCalm.abandon (ε := EngineError) h u after
      | ok _ =>
        have own : u.program p = x := (program_of_bare kept p).trans program
        have live : (u.program p).isClosed = false := by
          rw [own]
          exact active.live
        have found := program_withProgram_self (lt_of_not_closed live)
          fun x => { x with held := some h, pending := [] }
        refine .inr ⟨_, _, ensureCompiled_obtained held acquired replayed, rfl, ?_, fun k hk => ?_⟩
        · refine after.hold (lt_of_not_destroyed stands.live) ?_
          rw [stands.text, own]
        · cases hk
          exact ⟨congrArg Program.held found, stands.live, stands.text⟩

end Store

end Prepared
