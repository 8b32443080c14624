import Prepared.Proofs.Obtaining

/-! Operations, as they show.

From all reachable stores that show one outline an operation has one result, and shows one
outline after it: the statements, the slots and the caches below make no difference. Compiling
may do so only by refusing a text. -/
namespace Prepared

/-- The answer that a text was refused. -/
def Refused {α : Type} (r : Except ProgramError α) : Prop :=
  ∃ reason, r = .error (.engine (.compile reason))

instance decidableRefused {α : Type} : (r : Except ProgramError α) → Decidable (Refused r)
  | .error (.engine (.compile reason)) => .isTrue ⟨reason, rfl⟩
  | .error (.engine (.bind _)) | .error (.engine (.execute _))
  | .error (.engine (.unknownStatement _)) | .error (.engine (.native _)) | .error (.usage _)
  | .ok _ => .isFalse nofun

namespace Store

open Operation Sql

variable {δ ε α β : Type} {L : Library δ} {T : Terms L} {s t : Store (Engines δ)} {o : Store δ}
  {e : Engines δ} {h : CompiledId} {c : ConnectionId} {p : ProgramId}
  {past past' : List (Step (Engines δ))}

/-- From all reachable stores that show an outline an operation has one result and shows one
outline after it, unless its result is excepted. -/
def Uniform (T : Terms L) (e : Engines δ) (o : Store δ) (excepted : Except ε α → Prop)
    (x : Op (Engines δ) ε α) : Prop :=
  ∃ r o', ∀ past s, Run L.engine e past s → Looks T o s →
    excepted (x.run s).1 ∨ (x.run s).1 = r ∧ Looks T o' (x.run s).2

/-- Two results with stores that show the same. -/
structure Agree (T : Terms L) (x y : Except ε α × Store (Engines δ)) : Prop where
  result : x.1 = y.1
  shown : ∃ o, Looks T o x.2 ∧ Looks T o y.2

theorem Uniform.agree {excepted : Except ε α → Prop} {x : Op (Engines δ) ε α}
    (hx : Uniform T e o excepted x) (left : Run L.engine e past s)
    (right : Run L.engine e past' t) (hs : Looks T o s) (ht : Looks T o t)
    (accepted : ¬ excepted (x.run s).1) (accepted' : ¬ excepted (x.run t).1) :
    Agree T (x.run s) (x.run t) := by
  obtain ⟨r, o', one⟩ := hx
  obtain ⟨result, shown⟩ := (one _ s left hs).resolve_left accepted
  obtain ⟨result', shown'⟩ := (one _ t right ht).resolve_left accepted'
  exact ⟨result.trans result'.symm, o', shown, shown'⟩

/-- An operation that always succeeds. -/
theorem Uniform.of_succeeds {excepted : Except ε Unit → Prop} {x : Op (Engines δ) ε Unit}
    {o' : Store δ} (hx : Succeeds (Looks T o) x fun _ => Looks T o') :
    Uniform T e o excepted x := by
  refine ⟨.ok (), o', fun past s run hs => .inr ?_⟩
  obtain ⟨_, t, ran, ht⟩ := hx.run_eq hs
  rw [ran]
  exact ⟨rfl, ht⟩

/-- The check of a program reads off what shows. -/
theorem Looks.verified (hs : Looks T o s) {r : Except ProgramError Unit}
    (shown : ((verifyUsable p).run o).1 = r) : (verifyUsable p).run s = (r, s) := by
  subst shown
  have home := hs.program_part p (fun x => x.connection) fun _ => rfl
  have isClosed := hs.program_part p (fun x => x.isClosed) fun _ => rfl
  have isOpen := hs.connection_part (s.program p).connection (fun x => x.isOpen) fun _ => rfl
  cases ho : (s.connection (s.program p).connection).isOpen <;>
    cases hc : (s.program p).isClosed <;>
    simp [verifyUsable, verifyOpen, verifyLive, home, isClosed, isOpen, ho, hc]

/-- Only an open program of an open connection passes the check. -/
theorem Looks.active (hs : Looks T o s)
    (ok : ((verifyUsable p : Op δ ProgramError Unit).run o).1 = .ok ()) : Active p s :=
  ⟨(usable_of_verified (hs.verified ok)).1, (usable_of_verified (hs.verified ok)).2⟩

theorem grants_congr {x y : Connection} (same : x.references = y.references) :
    x.Grants ↔ y.Grants := by
  unfold Connection.Grants
  rw [same]

theorem refusal_congr {x y : Connection} (same : x.references = y.references) :
    refusal x = refusal y := by
  unfold refusal
  rw [same]

theorem acquireReference_uniform {excepted : Except ProgramError Unit → Prop} (c : ConnectionId) :
    Uniform T e o excepted (acquireReference c) := by
  have references {s : Store (Engines δ)} (hs : Looks T o s) :
      (s.connection c).references = (o.connection c).references :=
    (hs.connection_part c (fun x => x.references) fun _ => rfl).symm
  by_cases grants : (o.connection c).Grants
  · let take (x : Connection) : Connection := { x with references := x.references + 1 }
    refine ⟨.ok (), o.withConnection c take, fun past s _ hs => .inr ?_⟩
    rw [acquireReference_ok ((grants_congr (references hs)).2 grants)]
    exact ⟨rfl, hs.withConnection c (fun _ => rfl) fun _ => rfl⟩
  · refine ⟨.error (.usage (refusal (o.connection c))), o, fun past s _ hs => .inr ?_⟩
    rw [acquireReference_error (mt (grants_congr (references hs)).1 grants),
      refusal_congr (references hs)]
    exact ⟨rfl, hs⟩

theorem createDeferred_uniform {excepted : Except ProgramError ProgramId → Prop}
    (c : ConnectionId) (sql : String) : Uniform T e o excepted (createDeferred c sql) := by
  have isOpen {s : Store (Engines δ)} (hs : Looks T o s) :
      (s.connection c).isOpen = (o.connection c).isOpen :=
    (hs.connection_part c (fun x => x.isOpen) fun _ => rfl).symm
  have references {s : Store (Engines δ)} (hs : Looks T o s) :
      (s.connection c).references = (o.connection c).references :=
    (hs.connection_part c (fun x => x.references) fun _ => rfl).symm
  cases ho : (o.connection c).isOpen with
  | false =>
    refine ⟨.error (.usage .connectionClosed), o, fun past s _ hs => .inr ?_⟩
    have run : (createDeferred c sql).run s = (.error (.usage .connectionClosed), s) := by
      simp [createDeferred, verifyOpen, isOpen hs, ho]
    rw [run]
    exact ⟨rfl, hs⟩
  | true =>
    by_cases grants : (o.connection c).Grants
    · let o' := o.withConnection c fun x => { x with references := x.references + 1 }
      refine ⟨.ok o.programs.next, o'.created c sql, fun past s _ hs => .inr ?_⟩
      rw [createDeferred_ok sql ((isOpen hs).trans ho) ((grants_congr (references hs)).2 grants),
        hs.next.2]
      refine ⟨rfl, Looks.created ?_ c sql⟩
      exact hs.withConnection c (fun _ => rfl) fun _ => rfl
    · refine ⟨.error (.usage (refusal (o.connection c))), o, fun past s _ hs => .inr ?_⟩
      have refused := acquireReference_error (mt (grants_congr (references hs)).1 grants)
      have run : (createDeferred c sql).run s =
          (.error (.usage (refusal (s.connection c))), s) := by
        simp [createDeferred, verifyOpen, isOpen hs, ho, refused]
      rw [run, refusal_congr (references hs)]
      exact ⟨rfl, hs⟩

theorem cloneConnection_uniform {excepted : Except ε Unit → Prop} (c : ConnectionId) :
    Uniform T e o excepted (cloneConnection c) := by
  let clone (x : Connection) : Connection := { x with clones := x.clones + 1 }
  have made : Succeeds (Looks T o) (cloneConnection c : Op (Engines δ) ε Unit)
      fun _ => Looks T (o.withConnection c clone) :=
    .change fun s hs => hs.withConnection c (fun _ => rfl) fun _ => rfl
  exact .of_succeeds made

theorem dropConnection_uniform {excepted : Except ε Unit → Prop} (c : ConnectionId) :
    Uniform T e o excepted (dropConnection L.engine c) := by
  let drop (x : Connection) : Connection := { x with clones := x.clones - 1 }
  have dropped : Succeeds (Looks T o) (dropConnection L.engine c : Op (Engines δ) ε Unit)
      fun _ => Looks T (o.withConnection c drop) := by
    refine .change_bind (M := Looks T (o.withConnection c drop)) (fun s hs => ?_)
      (looks_quiet T _).dropConnectionIfUnreferenced
    exact hs.withConnection c (fun _ => rfl) fun _ => rfl
  exact .of_succeeds dropped

/-- What shows once a connection was opened. -/
def opened (i : EngineId) (o : Store δ) : Store δ :=
  { o with
    connections := o.connections.push
      { engine := i, logsLifecycle := false, cache := { capacity := 0 } } }

/-- The settings of a connection do not show. -/
theorem addConnection_looks (hs : Looks T o s) (x : Settings) :
    ∃ t, (addConnection T.engine x : Op (Engines δ) ε ConnectionId).run s = (.ok o.connections.next, t) ∧
      Looks T (opened T.engine o) t := by
  let new : Connection :=
    { engine := T.engine, logsLifecycle := x.logsLifecycle, cache := { capacity := x.capacity.toNat } }
  have shown : Looks T (opened T.engine o) { s with connections := s.connections.push new } :=
    hs.connected (x := new) rfl
  rw [hs.next.1]
  exact ⟨_, rfl, shown⟩

theorem bindValue_uniform {excepted : Except ProgramError Unit → Prop} (p : ProgramId)
    (position : UInt32) (value : Value) :
    Uniform T e o excepted (bindValue L.engine p position value) := by
  by_cases hz : position = 0
  · refine ⟨.error (.usage .positionZero), o, fun past s _ hs => .inr ?_⟩
    rw [hz, bindValue_zero]
    exact ⟨rfl, hs⟩
  cases verified : ((verifyUsable p : Op δ ProgramError Unit).run o).1 with
  | error m =>
    refine ⟨.error m, o, fun past s _ hs => .inr ?_⟩
    rw [bindValue_unusable hz (hs.verified verified)]
    exact ⟨rfl, hs⟩
  | ok _ =>
    cases held : (o.program p).held with
    | none =>
      refine ⟨.ok (), o.withProgram p fun x => { x with pending := x.pending ++ [⟨position, value⟩] },
        fun past s _ hs => .inr ?_⟩
      have free : (s.program p).held = none :=
        Option.map_eq_none_iff.1 ((hs.held p).symm.trans held)
      rw [bindValue_free (hs.verified verified) free hz]
      exact ⟨rfl, hs.withProgram p (fun _ => rfl) (fun _ => rfl) fun _ => .inl rfl⟩
    | some _ =>
      refine ⟨(admission (T.count (o.program p).sql) ⟨position, value⟩).mapError .engine, o,
        fun past s run hs => .inr ?_⟩
      obtain ⟨h, has, -⟩ := Option.map_eq_some_iff.1 ((hs.held p).symm.trans held)
      have active := hs.active verified
      have text := hs.program_part p (fun x => x.sql) fun _ => rfl
      rw [bindValue_held active.verified has hz, text]
      obtain ⟨answer, after, -⟩ := applyBinding_looks (T := T) (o := o) ⟨position, value⟩ s
        ⟨hs, run.stands active hs has⟩
      exact ⟨congrArg (fun r => r.mapError ProgramError.engine) answer, after⟩

/-- The bindings of a live statement are cleared without failure. -/
theorem clear_looks (hs : Looks T o s) (live : (s.statement h).destroyed = false) :
    ∃ t, (request L.engine (s.statement h).engine
        (.clearBindings (s.statement h).statement)).run s = (.ok (), t) ∧ Looks T o t := by
  obtain ⟨slot, found, -, -⟩ := hs.tuned.engaged.slot live
  have answer : (L.engine.run (s.native h).1 (.clearBindings (s.native h).2) s.engine).1 =
      .ok () := (Engines.slot?_cleared found).1
  refine ⟨s.asked L.engine (s.native h).1 (.clearBindings (s.native h).2),
    Prod.ext answer rfl, hs.asked live rfl ?_ ?_⟩
  · simp [Primitive.name]
  · simp [Primitive.name]

theorem clearBindings_uniform {excepted : Except ProgramError Unit → Prop} (p : ProgramId) :
    Uniform T e o excepted (clearBindings L.engine p) := by
  cases verified : ((verifyUsable p : Op δ ProgramError Unit).run o).1 with
  | error m =>
    refine ⟨.error m, o, fun past s _ hs => .inr ?_⟩
    rw [clearBindings_unusable (hs.verified verified)]
    exact ⟨rfl, hs⟩
  | ok _ =>
    refine ⟨.ok (), o.withProgram p fun x => { x with pending := [] },
      fun past s run hs => .inr ?_⟩
    have forgotten : Looks T (o.withProgram p fun x => { x with pending := [] })
        (s.withProgram p fun x => { x with pending := [] }) :=
      hs.withProgram p (fun _ => rfl) (fun _ => rfl) fun _ => .inl rfl
    have usable := hs.verified verified
    cases held : (s.program p).held with
    | none =>
      rw [clearBindings_free usable held]
      exact ⟨rfl, forgotten⟩
    | some h =>
      have stands := run.stands (hs.active verified) hs held
      obtain ⟨u, cleared, after⟩ := clear_looks (h := h) forgotten stands.live
      rw [statement_withProgram] at cleared
      rw [clearBindings_held usable held]
      simp only [mapError, cleared]
      exact ⟨rfl, after⟩

/-- Compiling a program shows whether it can be used, and whether its text has a parameter for
each binding that waits. -/
theorem compileProgram_uniform (laws : T.Laws) (p : ProgramId) :
    Uniform T e o Refused (compileProgram L.engine p) := by
  cases verified : ((verifyUsable p : Op δ ProgramError Unit).run o).1 with
  | error m =>
    refine ⟨.error m, o, fun past s _ hs => .inr ?_⟩
    rw [compileProgram_unusable (hs.verified verified)]
    exact ⟨rfl, hs⟩
  | ok _ =>
    refine ⟨(o.ensured T.count p).1.mapError .engine, (o.ensured T.count p).2, fun past s run hs => ?_⟩
    have active := hs.active verified
    rcases run.ensureCompiled_looks laws active hs with ⟨reason, t, refused⟩ | ⟨r, t, ran, result, after, -⟩
    · rw [compileProgram_usable active.verified refused]
      exact .inl ⟨reason, rfl⟩
    · rw [compileProgram_usable active.verified ran]
      exact .inr ⟨congrArg (fun r => r.mapError ProgramError.engine) result, after⟩

theorem createCompiled_uniform (laws : T.Laws) {c : ConnectionId} (sql : String)
    (allowed : 0 < (o.connection c).clones) :
    Uniform T e o Refused (createCompiled L.engine c sql) := by
  have deferred : Uniform T e o (fun _ => False) (createDeferred c sql) :=
    createDeferred_uniform c sql
  obtain ⟨r, o₁, created⟩ := deferred
  have created past s run hs := (created past s run hs).resolve_left id
  cases r with
  | error m =>
    refine ⟨.error m, o₁, fun past s run hs => .inr ?_⟩
    obtain ⟨result, after⟩ := created past s run hs
    have failed : (createDeferred c sql).run s = (.error m, _) := Prod.ext result rfl
    have run : (createCompiled L.engine c sql).run s =
        (.error m, ((createDeferred c sql).run s).2) := by
      simp only [createCompiled, run_bind]
      rw [failed]
    rw [run]
    exact ⟨rfl, after⟩
  | ok p =>
    obtain ⟨r, o₂, compiled⟩ := compileProgram_uniform (e := e) (o := o₁) laws p
    refine ⟨r.map fun _ => p,
      if r.isOk then o₂
      else (o₂.tornDown true p).withProgram p fun x => { x with isDropped := true },
      fun past s run hs => ?_⟩
    obtain ⟨result, after⟩ := created past s run hs
    let u := ((createDeferred c sql).run s).2
    have made : (createDeferred c sql).run s = (.ok p, u) := Prod.ext result rfl
    -- the creation is one more step of the run
    have clones := hs.connection_part c (fun x => x.clones) fun _ => rfl
    have next := run.created (Nat.lt_of_lt_of_eq allowed clones) made
    have settled := compiled _ u next after
    rcases ran : (compileProgram L.engine p).run u with ⟨e' | _, t⟩ <;> rw [ran] at settled
    · rw [createCompiled_error made ran]
      rcases settled with refused | ⟨same, shown⟩
      · obtain ⟨reason, error⟩ := refused
        cases error
        exact .inl ⟨reason, rfl⟩
      · subst same
        obtain ⟨_, v, dropped, final⟩ := (dropProgram_looks (ε := ProgramError) p).run_eq shown
        rw [dropped]
        exact .inr ⟨rfl, final⟩
    · rw [createCompiled_ok made ran]
      rcases settled with refused | ⟨same, shown⟩
      · obtain ⟨reason, error⟩ := refused
        nomatch error
      · subst same
        exact .inr ⟨rfl, shown⟩

end Store

end Prepared
