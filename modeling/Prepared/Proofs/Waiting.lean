import Prepared.Proofs.Acquisition
import Prepared.Proofs.Entries
import Prepared.Proofs.Isolation

/-! Bindings that wait.

While a program has no statement its bindings wait in the order in which they were made. They
wait no longer once it has a statement or is closed. -/
namespace Prepared

/-- Nothing waits in a program that is closed or has a statement. -/
structure Program.Tidy (x : Program) : Prop where
  closed : x.isClosed = true → x.pending = []
  held : x.held ≠ none → x.pending = []

namespace Store

open Operation

variable {σ ε : Type} {E : Engine σ} {s t : Store σ} {g g' : Grip} {p : ProgramId}

/-- Nothing waits in any program that is closed or has a statement. -/
def Tidy (s : Store σ) : Prop :=
  ∀ p, (s.program p).Tidy

namespace Tidy

theorem withProgram (h : Tidy s) {f : Program → Program} (hf : (f (s.program p)).Tidy) :
    Tidy (s.withProgram p f) := by
  intro q
  rw [program_withProgram]
  by_cases hq : q = p ∧ p < s.programs.next
  · rw [if_pos hq, hq.1]
    exact hf
  · rw [if_neg hq]
    exact h q

theorem created (h : Tidy s) (c : ConnectionId) (sql : String) : Tidy (s.created c sql) := by
  intro p
  rw [program_created]
  split
  · exact ⟨nofun, fun held => absurd rfl held⟩
  · exact h p

theorem programs {α : Type} {x : Op σ ε α} (hx : Keeps Store.programs x) :
    Ensures Tidy x fun _ => Tidy := by
  intro s h p
  have same : ((x.run s).2.program p) = s.program p := congrArg (fun ps => ps.get p) (hx s)
  rw [same]
  exact h p

theorem ensureCompiled : Ensures Tidy (Store.ensureCompiled E p) fun _ => Tidy := by
  refine .read_bind fun x => ?_
  cases x.held with
  | some h => exact .pure fun _ => And.left
  | none =>
    refine .pre (P := Tidy) (.bind (programs keeps_acquire) (fun h => ?_) fun _ _ => id)
      fun _ => And.left
    refine .attempt_bind (programs replay_keeps) fun r => ?_
    cases r with
    | ok _ =>
      refine .change_bind (M := Tidy) (fun s hs => ?_) (.pure fun _ => id)
      exact hs.withProgram ⟨fun _ => rfl, fun _ => rfl⟩
    | error e => exact .bind (programs abandon_keeps) (fun _ => .throw fun _ => id) fun _ _ => id

theorem bindValue (position : UInt32) (value : Value) :
    Ensures Tidy (Store.bindValue E p position value) fun _ => Tidy := by
  refine .ite (fun _ => .throw fun _ => id) fun _ =>
    Ensures.verifyUsable_bind (fun _ _ => id) (.read_bind fun x => ?_)
  cases hx : x.held with
  | some h =>
    have applied :
        Keeps Store.programs (mapError ProgramError.engine (applyBinding E h ⟨position, value⟩)) :=
      .mapError (.bind (.read _) fun _ => keeps_request)
    exact (programs applied).pre fun _ hs => hs.1.1
  | none =>
    refine .change fun s hs => ?_
    obtain ⟨⟨tidy, live, -⟩, rfl⟩ := hs
    exact tidy.withProgram ⟨fun closed => absurd (live.symm.trans closed) (by decide),
      fun held => absurd hx held⟩

theorem clearBindings : Ensures Tidy (Store.clearBindings E p) fun _ => Tidy := by
  refine Ensures.verifyUsable_bind (fun _ _ => id) (.change_bind (M := Tidy)
    (fun s hs => hs.1.withProgram ⟨fun _ => rfl, fun _ => rfl⟩) (.read_bind fun x => ?_))
  cases x.held with
  | none => exact .pure fun _ => And.left
  | some h =>
    have cleared : Keeps Store.programs (do
        let x ← read (·.statement h)
        mapError ProgramError.engine (request E x.engine (.clearBindings x.statement)) :
          Op σ ProgramError Unit) :=
      .bind (.read _) fun _ => .mapError keeps_request
    exact (programs cleared).pre fun _ => And.left

theorem obtained : Ensures Tidy (mapError ProgramError.engine (Store.ensureCompiled E p))
    fun _ => Tidy :=
  .mapError ensureCompiled

theorem compileProgram : Ensures Tidy (Store.compileProgram E p) fun _ => Tidy := by
  refine Ensures.verifyUsable_bind (fun _ _ => id) ?_
  exact .bind (obtained.pre fun _ => And.left) (fun _ => .pure fun _ => id) fun _ _ => id

theorem execute : Ensures Tidy (Store.execute E p) fun _ => Tidy := by
  refine Ensures.verifyUsable_bind (fun _ _ => id)
    (.bind (obtained.pre fun _ => And.left) (fun _ => ?_) fun _ _ => id)
  exact programs (executeHeld_keeps fun _ _ => keeps_request)

theorem tearDown (unlist : Bool) : Ensures Tidy (Store.tearDown E unlist p) fun _ => Tidy := by
  have left (c : ConnectionId) : Keeps Store.programs (do
      if unlist then deregister p
      releaseReference E c : Op σ EngineError Unit) :=
    leave_keeps (fun _ _ => rfl) releaseReference_keeps_programs unlist
  have relinquished : Ensures Tidy (relinquishHeld E p) fun _ => Tidy := by
    refine .read_bind fun x => ?_
    cases x.held with
    | none => exact .pure fun _ => And.left
    | some h =>
      refine .change_bind (M := Tidy) (fun s hs => ?_) (programs keeps_relinquish)
      exact hs.1.withProgram ⟨(hs.1 p).closed, fun held => absurd rfl held⟩
  let P (s : Store σ) : Prop := Tidy s ∧ (s.program p).pending = []
  refine .change_bind (M := P) (fun s hs => ⟨hs.withProgram ⟨fun _ => rfl, fun _ => rfl⟩, ?_⟩) ?_
  · rw [program_withProgram]
    by_cases hp : p < s.programs.next
    · rw [if_pos ⟨rfl, hp⟩]
    · rw [if_neg fun hn => hp hn.2]
      exact congrArg Program.pending (Table.get_of_le _ (Nat.le_of_not_lt hp))
  refine .read_bind fun x => .ite (fun _ => .pure fun _ hs => hs.1.1) fun _ => ?_
  refine .change_bind (M := Tidy) (fun s hs => ?_) (.both relinquished (programs (left _)))
  exact hs.1.1.withProgram ⟨fun _ => hs.1.2, fun _ => hs.1.2⟩

theorem dropProgram : Ensures Tidy (Store.dropProgram E p : Op σ ε Unit) fun _ => Tidy := by
  have gone (c : ConnectionId) : Ensures Tidy (do
      change (·.withProgram p fun x => { x with isDropped := true })
      dropConnectionIfUnreferenced E c : Op σ ε Unit) fun _ => Tidy :=
    .change_bind (fun s hs => hs.withProgram ⟨(hs p).closed, (hs p).held⟩)
      (programs keeps_dropConnectionIfUnreferenced)
  refine .read_bind fun x => .attempt_bind ((tearDown true).pre fun _ => And.left) fun r => ?_
  cases r with
  | ok _ => exact gone _
  | error e => exact .change_bind (M := Tidy) (fun _ hs => hs) (gone _)

theorem createDeferred (c : ConnectionId) (sql : String) :
    Ensures Tidy (Store.createDeferred c sql : Op σ ProgramError ProgramId) fun _ => Tidy := by
  intro s hs
  by_cases h : (s.connection c).isOpen = false ∨ ¬ (s.connection c).Grants
  · obtain ⟨e, run⟩ := createDeferred_error sql h
    rw [run]
    exact hs
  · rw [not_or, Bool.not_eq_false, not_not] at h
    rw [createDeferred_ok sql h.1 h.2]
    exact created (s := s.withConnection c _) hs c sql

theorem createCompiled (c : ConnectionId) (sql : String) :
    Ensures Tidy (Store.createCompiled E c sql) fun _ => Tidy := by
  refine (createDeferred c sql).bind (fun p => .attempt_bind compileProgram fun r => ?_)
    fun _ _ => id
  cases r with
  | ok _ => exact .pure fun _ => id
  | error e => exact dropProgram.bind (fun _ => .throw fun _ => id) fun _ _ => id

theorem closeInOrder (c : ConnectionId) (order : List ProgramId) :
    Ensures Tidy (Store.closeInOrder E c order) fun _ => Tidy := by
  refine .read_bind fun x => .ite (fun _ => ?_) fun _ => .pure fun _ => And.left
  refine .change_bind (M := Tidy) (fun s hs => hs.1) (Ensures.trace_bind (fun _ _ => id) ?_)
  exact .both (.forAll (I := fun _ => Tidy) (fun p _ => tearDown false) order)
    (programs releaseReference_keeps_programs)

/-- Every action leaves the programs tidy. -/
theorem step (h : Tidy s) (a : Action) : Tidy (a.perform E s).2 := by
  cases a with
  | openConnection i settings =>
    show Tidy ((Store.openConnection i settings).run s).2
    unfold Store.openConnection
    cases settings.validate with
    | ok settings => exact h
    | error e => exact h
  | openDefault i => exact h
  | cloneConnection c => exact h
  | dropConnection c =>
    have dropped : Keeps Store.programs (Store.dropConnection E c : Op σ Empty Unit) :=
      .bind (.change fun _ => rfl) fun _ => keeps_dropConnectionIfUnreferenced
    exact programs dropped s h
  | closeConnection c order => exact closeInOrder c order s h
  | acquireReference c =>
    have taken : Keeps Store.programs (Store.acquireReference c : Op σ ProgramError Unit) :=
      .bind (.read _) fun _ => .ite (.throw _) (.ite (.throw _) (.change fun _ => rfl))
    exact programs taken s h
  | releaseReference c => exact programs releaseReference_keeps_programs s h
  | lookup c sql => exact programs (ε := Empty) (lookup_keeps sql) s h
  | giveBack k => exact programs (ε := Empty) (giveBack_keeps k) s h
  | evict c sql => exact programs (evict_keeps sql) s h
  | setCapacity c size => exact programs (setCapacity_keeps size) s h
  | createDeferred c sql => exact createDeferred c sql s h
  | createCompiled c sql => exact createCompiled c sql s h
  | bindValue p position value => exact bindValue position value s h
  | bindPresent p position value =>
    cases value with
    | none => exact h
    | some v => exact bindValue position v s h
  | clearBindings p => exact clearBindings s h
  | compile p => exact compileProgram s h
  | execute p => exact execute s h
  | closeProgram p => exact tearDown true s h
  | dropProgram p => exact dropProgram (ε := Empty) s h

end Tidy

theorem Run.tidy {e : σ} {past : List (Step σ)} (run : Run E e past s) : Tidy s :=
  run.invariant (fun _ => ⟨fun _ => rfl, fun held => absurd rfl held⟩) fun _ a hs _ => hs.step a

/-! What a program does with a binding. -/

/-- A binding of a program without a statement waits; one of a program with a statement is a
request. Else nothing happens. -/
theorem bindValue_cases (E : Engine σ) (p : ProgramId) (position : UInt32) (value : Value)
    (s : Store σ) :
    (∃ m, (bindValue E p position value).run s = (.error (.usage m), s)) ∨
    ((s.program p).isClosed = false ∧ (s.program p).held = none ∧
      (bindValue E p position value).run s = (.ok (), s.withProgram p fun x =>
        { x with pending := x.pending ++ [⟨position, value⟩] })) ∨
    ∃ h, (s.program p).held = some h ∧ (bindValue E p position value).run s =
      (mapError .engine (applyBinding E h ⟨position, value⟩)).run s := by
  by_cases hz : position = 0
  · subst hz
    exact .inl ⟨.positionZero, bindValue_zero⟩
  · rcases verifyUsable_cases p s with ⟨live, -, usable⟩ | ⟨m, unusable⟩
    · cases held : (s.program p).held with
      | none => exact .inr (.inl ⟨live, rfl, bindValue_free usable held hz⟩)
      | some h => exact .inr (.inr ⟨h, rfl, bindValue_held usable held hz⟩)
    · exact .inl ⟨m, bindValue_unusable hz unusable⟩

/-- Clearing forgets what waits; that of a program with a statement is a request besides. -/
theorem clearBindings_cases (E : Engine σ) (p : ProgramId) (s : Store σ) :
    (∃ m, (clearBindings E p).run s = (.error (.usage m), s)) ∨
    ((s.program p).isClosed = false ∧ (s.program p).held = none ∧
      (clearBindings E p).run s =
        (.ok (), s.withProgram p fun x => { x with pending := [] })) ∨
    ∃ h, (s.program p).held = some h ∧ (clearBindings E p).run s =
      (mapError .engine (request E (s.statement h).engine
        (.clearBindings (s.statement h).statement))).run
          (s.withProgram p fun x => { x with pending := [] }) := by
  rcases verifyUsable_cases p s with ⟨live, -, usable⟩ | ⟨m, unusable⟩
  · cases held : (s.program p).held with
    | none => exact .inr (.inl ⟨live, rfl, clearBindings_free usable held⟩)
    | some h => exact .inr (.inr ⟨h, rfl, clearBindings_held usable held⟩)
  · exact .inl ⟨m, clearBindings_unusable unusable⟩

/-! What waits is what was bound. -/

/-- What waits in an open program without a statement is what its history says, and a program
that does not exist has bound nothing. -/
structure Waits (p : ProgramId) (past : List (Step σ)) (s : Store σ) : Prop where
  fresh : s.programs.next ≤ p → bound p past = []
  waiting : (s.program p).isClosed = false → (s.program p).held = none →
    (s.program p).pending = bound p past

/-- Operations for others leave an open program as it is. -/
theorem At.program_of_live (ha : At E ⟨s, g⟩ g' t) (other : g.actor ≠ some p)
    (live : (t.program p).isClosed = false) :
    (p < s.programs.next → (s.program p).isClosed = false) ∧
      (t.program p).held = (s.program p).held ∧ (t.program p).pending = (s.program p).pending := by
  let I (m : Moment σ) : Prop := m.grip.actor ≠ some p ∧ s.programs.next ≤ m.store.programs.next ∧
    ((m.store.program p).isClosed = false → (p < s.programs.next → (s.program p).isClosed = false) ∧
      (m.store.program p).held = (s.program p).held ∧
      (m.store.program p).pending = (s.program p).pending)
  have all : I ⟨t, g'⟩ := by
    refine ha.invariant (I := I) (fun a b hm hs => ?_)
      ⟨other, Nat.le_refl _, fun hp => ⟨fun _ => hp, rfl, rfl⟩⟩
    obtain ⟨other, next, before⟩ := hs
    have actor : b.grip.actor ≠ some p := by
      rw [hm.actor]
      exact other
    refine ⟨actor, Nat.le_trans next hm.extends.programs, fun hb => ?_⟩
    obtain ⟨stays, held, pending⟩ := hm.program_of_live other hb
    rcases Nat.lt_or_ge p a.store.programs.next with old | new
    · obtain ⟨live, held', pending'⟩ := before (stays old)
      exact ⟨live, held.trans held', pending.trans pending'⟩
    · have missing : a.store.program p = default := Table.get_of_le _ new
      have absent : s.program p = default := Table.get_of_le _ (Nat.le_trans next new)
      rw [missing] at held pending
      rw [absent]
      exact ⟨fun hlt => absurd hlt (Nat.not_lt.2 (Nat.le_trans next new)), held, pending⟩
  exact all.2.2 live

namespace Waits

variable {past : List (Step σ)} {a : Action}

theorem binds (hw : Waits p past s) (position : UInt32) (value : Value)
    (adds : a.bindings p (bound p past) = bound p past ++ [⟨position, value⟩])
    {r : Except ProgramError Unit × Store σ} (run : (bindValue E p position value).run s = r)
    (live : (r.2.program p).isClosed = false) (free : (r.2.program p).held = none) :
    (r.2.program p).pending = bound p (⟨s, a, r.1.isOk, r.2⟩ :: past) := by
  subst run
  rcases bindValue_cases E p position value s with ⟨m, run⟩ | ⟨alive, unheld, run⟩ | ⟨h, held, run⟩
  · rw [run] at live free ⊢
    exact hw.waiting live free
  · have own := program_withProgram_self (lt_of_not_closed alive)
      fun x => { x with pending := x.pending ++ [⟨position, value⟩] }
    rw [run]
    show _ = a.bindings p (bound p past)
    rw [own, adds, ← hw.waiting alive unheld]
  · have kept : ((bindValue E p position value).run s).2.program p = s.program p := by
      rw [run]
      rfl
    rw [kept, held] at free
    nomatch free

theorem clears (hw : Waits p past s) {r : Except ProgramError Unit × Store σ}
    (run : (clearBindings E p).run s = r) (live : (r.2.program p).isClosed = false)
    (free : (r.2.program p).held = none) :
    (r.2.program p).pending = bound p (⟨s, .clearBindings p, r.1.isOk, r.2⟩ :: past) := by
  subst run
  rcases clearBindings_cases E p s with ⟨m, run⟩ | ⟨alive, unheld, run⟩ | ⟨h, held, run⟩
  · rw [run] at live free ⊢
    exact hw.waiting live free
  · have own := program_withProgram_self (lt_of_not_closed alive)
      fun x => { x with pending := [] }
    have cleared : Action.bindings p (bound p past) (.clearBindings p) = [] := if_pos rfl
    rw [run]
    show _ = Action.bindings p (bound p past) (.clearBindings p)
    rw [own, cleared]
  · have kept : (((clearBindings E p).run s).2.program p).held = (s.program p).held := by
      rw [run]
      exact program_part s p p (fun x => x.held) fun _ => rfl
    rw [kept, held] at free
    nomatch free

end Waits

/-- After an attempt to obtain a statement a program has one, or is as it was. -/
theorem ensureCompiled_program (p : ProgramId) (s : Store σ)
    (free : (((ensureCompiled E p).run s).2.program p).held = none) :
    ((ensureCompiled E p).run s).2.program p = s.program p := by
  have of_bare {t u : Store σ} (h : u.bare = t.bare) : u.program p = t.program p :=
    congrArg (fun b => b.1.get p) h
  cases held : (s.program p).held with
  | some h => rw [ensureCompiled_held held]
  | none =>
    have kept : (acquireFor E p s).2.program p = s.program p := of_bare (keeps_acquire s)
    rcases acquired : acquireFor E p s with ⟨e | h, u⟩ <;> rw [acquired] at kept
    · rw [ensureCompiled_refused held acquired]
      exact kept
    · have same : ((replay E h (s.program p).pending).run u).2.program p = u.program p :=
        of_bare (replay_keeps u)
      rcases replayed : (replay E h (s.program p).pending).run u with ⟨e | _, v⟩ <;>
        rw [replayed] at same
      · rw [ensureCompiled_unbound held acquired replayed]
        exact (of_bare (abandon_keeps v)).trans (same.trans kept)
      · rw [ensureCompiled_obtained held acquired replayed] at free ⊢
        rw [program_withProgram] at free ⊢
        split at free
        · nomatch free
        · next hn =>
          rw [if_neg hn]
          exact same.trans kept

theorem compileProgram_program (p : ProgramId) (s : Store σ)
    (free : (((compileProgram E p).run s).2.program p).held = none) :
    ((compileProgram E p).run s).2.program p = s.program p := by
  have after : ((compileProgram E p).run s).2 = s ∨
      ((compileProgram E p).run s).2 = ((ensureCompiled E p).run s).2 := by
    rcases verifyUsable_cases p s with ⟨-, -, usable⟩ | ⟨m, unusable⟩
    · exact .inr (congrArg Prod.snd (compileProgram_usable usable rfl))
    · exact .inl (congrArg Prod.snd (compileProgram_unusable unusable))
  rcases after with same | same <;> rw [same] at free ⊢
  exact ensureCompiled_program p s free

theorem execute_program (p : ProgramId) (s : Store σ)
    (free : (((execute E p).run s).2.program p).held = none) :
    ((execute E p).run s).2.program p = s.program p := by
  have after : ((execute E p).run s).2.program p = ((compileProgram E p).run s).2.program p := by
    rcases execute_cases E p s with ⟨e, t, compiled, executed⟩ | ⟨h, t, -, -, compiled, executed⟩
    · rw [compiled, executed]
    · rw [compiled, executed]
      rfl
  rw [after] at free ⊢
  exact compileProgram_program p s free

/-- Nothing waits in a program that was created and compiled. -/
theorem createCompiled_pending (c : ConnectionId) (sql : String) (s : Store σ)
    (live : (((createCompiled E c sql).run s).2.program s.programs.next).isClosed = false)
    (free : (((createCompiled E c sql).run s).2.program s.programs.next).held = none) :
    (((createCompiled E c sql).run s).2.program s.programs.next).pending = [] := by
  by_cases h : (s.connection c).isOpen = false ∨ ¬ (s.connection c).Grants
  · obtain ⟨e, failed⟩ := createDeferred_error sql h
    simp only [createCompiled, run_bind, failed] at live
    have missing : s.program s.programs.next = default := Table.get_of_le _ (Nat.le_refl _)
    rw [missing] at live
    cases live
  rw [not_or, Bool.not_eq_false, not_not] at h
  let p := s.programs.next
  let u := (s.withConnection c fun x => { x with references := x.references + 1 }).created c sql
  have created : (createDeferred c sql).run s = (.ok p, u) := createDeferred_ok sql h.1 h.2
  have new : (u.program p).pending = [] := by
    have own : u.program p = _ := (program_created _ c sql p).trans (if_pos rfl)
    rw [own]
  have compiled := compileProgram_program (E := E) p u
  rcases hv : (compileProgram E p).run u with ⟨e | _, v⟩ <;> rw [hv] at compiled
  · have dropped : (((createCompiled E c sql).run s).2.program p).isClosed = true := by
      rw [createCompiled_error created hv]
      exact dropProgram_closes p v
    exact absurd (live.symm.trans dropped) (by decide)
  · rw [createCompiled_ok created hv] at free ⊢
    rw [compiled free]
    exact new

namespace Waits

variable {past : List (Step σ)} {a : Action}

/-- What a program does itself changes what waits as its history says. -/
theorem own (hw : Waits p past s) (own : a.actor s = some p)
    (live : ((a.perform E s).2.program p).isClosed = false)
    (free : ((a.perform E s).2.program p).held = none) :
    ((a.perform E s).2.program p).pending =
      bound p (⟨s, a, (a.perform E s).1, (a.perform E s).2⟩ :: past) := by
  have unchanged (hb : a.bindings p (bound p past) = bound p past)
      (hp : (a.perform E s).2.program p = s.program p) :
      ((a.perform E s).2.program p).pending =
        bound p (⟨s, a, (a.perform E s).1, (a.perform E s).2⟩ :: past) := by
    rw [hp] at live free
    rw [bound_unchanged hb, hp]
    exact hw.waiting live free
  cases a with
  | bindValue q position value =>
    obtain rfl := Option.some.inj own
    exact hw.binds position value (a := .bindValue q position value) (if_pos rfl) rfl live free
  | bindPresent q position value =>
    obtain rfl := Option.some.inj own
    cases value with
    | none => exact unchanged rfl rfl
    | some v =>
      exact hw.binds position v (a := .bindPresent q position v) (if_pos rfl) rfl live free
  | clearBindings q =>
    obtain rfl := Option.some.inj own
    exact hw.clears rfl live free
  | compile q =>
    obtain rfl := Option.some.inj own
    exact unchanged rfl (compileProgram_program q s free)
  | execute q =>
    obtain rfl := Option.some.inj own
    exact unchanged rfl (execute_program q s free)
  | closeProgram q =>
    obtain rfl := Option.some.inj own
    exact absurd (live.symm.trans (tearDown_closes true q s)) (by decide)
  | dropProgram q =>
    obtain rfl := Option.some.inj own
    exact absurd (live.symm.trans (dropProgram_closes (ε := Empty) q s)) (by decide)
  | createCompiled c sql =>
    obtain rfl := Option.some.inj own
    rw [bound_unchanged rfl, hw.fresh (Nat.le_refl _)]
    exact createCompiled_pending c sql s live free
  | openConnection | openDefault | cloneConnection | dropConnection | closeConnection
  | acquireReference | releaseReference | lookup | giveBack | evict | setCapacity | createDeferred =>
    nomatch own

theorem step (hw : Waits p past s) (a : Action) (hs : Registered s) (allowed : a.Allowed s) :
    Waits p (⟨s, a, (a.perform E s).1, (a.perform E s).2⟩ :: past) (a.perform E s).2 := by
  have moves := a.moves (E := E) hs allowed
  have grows : s.programs.next ≤ (a.perform E s).2.programs.next :=
    moves.invariant (I := fun m => s.programs.next ≤ m.store.programs.next)
      (fun _ _ hm h => Nat.le_trans h hm.extends.programs) (Nat.le_refl _)
  constructor
  case fresh =>
    intro new
    have old := Nat.le_trans grows new
    rw [bound_unchanged (a.bindings_of_new allowed old _)]
    exact hw.fresh old
  case waiting =>
    intro live free
    by_cases own : a.actor s = some p
    · exact hw.own own live free
    · obtain ⟨alive, held, pending⟩ := moves.program_of_live own live
      rw [bound_unchanged (Action.bindings_of_other own _), pending]
      rcases Nat.lt_or_ge p s.programs.next with old | new
      · exact hw.waiting (alive old) (held.symm.trans free)
      · have missing : s.program p = default := Table.get_of_le _ new
        rw [missing, hw.fresh new]
        rfl

end Waits

/-- After every run there waits what the history of a program says. -/
theorem Run.waits {e : σ} {past : List (Step σ)} (run : Run E e past s) (p : ProgramId) :
    Waits p past s := by
  induction run with
  | start => exact ⟨fun _ => rfl, nofun⟩
  | @step past s a run allowed ih =>
    have sound := run.sound (g := { connection := 0 }) ⟨rfl, rfl, rfl, rfl⟩
    exact ih.step a sound.registered allowed

end Store

end Prepared
