import Prepared.Engine.Recording
import Prepared.Proofs.Bookkeeping
import Prepared.Proofs.Ways

/-! Misuse.

A caller who breaks a rule is told so, and nothing has happened. Every operation looks at its
rules before it does anything, and past them only an engine can fail. Creating a program asks for
a reference once it has found the connection open; an open connection always has one, so that is
refused only if its counter is full, which takes a run of as many steps as the counter can count.
An execution finds a statement in its program whenever the compilation before it succeeds. -/
namespace Prepared.Store

open Operation

variable {σ : Type} {E : Engine σ} {s : Store σ} {α β : Type}

/-- The rule that an operation complains of, if it ends with such a complaint. -/
def complaint (x : Op σ ProgramError α) (s : Store σ) : Option Misuse :=
  match (x.run s).1 with
  | .error (.usage m) => some m
  | _ => none

namespace Action

/-- The rule that an action complains of. Settings that are refused are not a misuse of a
connection. -/
def complaint (E : Engine σ) : Action → Store σ → Option Misuse
  | openConnection .. => fun _ => none
  | openDefault i => Store.complaint (Store.openDefault i)
  | cloneConnection c => Store.complaint (Store.cloneConnection c)
  | dropConnection c => Store.complaint (Store.dropConnection E c)
  | closeConnection c order => Store.complaint (mapError .engine (Store.closeInOrder E c order))
  | acquireReference c => Store.complaint (Store.acquireReference c)
  | releaseReference c => Store.complaint (mapError .engine (Store.releaseReference E c))
  | lookup c sql => Store.complaint (Store.lookup c sql)
  | giveBack h => Store.complaint (Store.giveBack E h)
  | evict c sql => Store.complaint (mapError .engine (Store.evict E c sql))
  | setCapacity c size => Store.complaint (Store.setCapacity E c size)
  | createDeferred c sql => Store.complaint (Store.createDeferred c sql)
  | createCompiled c sql => Store.complaint (Store.createCompiled E c sql)
  | bindValue p position value => Store.complaint (Store.bindValue E p position value)
  | bindPresent p position value => Store.complaint (Store.bindPresent E p position value)
  | clearBindings p => Store.complaint (Store.clearBindings E p)
  | compile p => Store.complaint (Store.compileProgram E p)
  | execute p => Store.complaint (Store.execute E p)
  | closeProgram p => Store.complaint (mapError .engine (Store.closeProgram E p))
  | dropProgram p => Store.complaint (Store.dropProgram E p)

end Action

/-- Whether a program cannot be used: its connection is closed, or it is closed itself. -/
def Ended (s : Store σ) (p : ProgramId) : Prop :=
  (s.connection (s.program p).connection).isOpen = false ∨ (s.program p).isClosed = true

/-- Whether an action breaks a rule. -/
def Action.Misused (s : Store σ) : Action → Prop
  | createDeferred c _ | createCompiled c _ => (s.connection c).isOpen = false
  | bindValue p position _ => position = 0 ∨ s.Ended p
  | bindPresent p position value => value = none ∨ position = 0 ∨ s.Ended p
  | clearBindings p | compile p | execute p => s.Ended p
  | setCapacity c size => maxCapacity < size ∨ size < (s.connection c).cache.capacity
  | acquireReference c => (s.connection c).references = 0
  | openConnection .. | openDefault _ | cloneConnection _ | dropConnection _ | closeConnection ..
  | releaseReference _ | lookup .. | giveBack _ | evict .. | closeProgram _ | dropProgram _ => False

/-- Whether an action is refused for a counter that is full: it asks for one more reference to a
connection that has as many as can be counted. -/
def Action.Overflows (s : Store σ) : Action → Prop
  | createDeferred c _ | createCompiled c _ | acquireReference c =>
    (s.connection c).references = maxReferences
  | _ => False

/-- An operation that looks at a rule first: if the rule is broken it complains and has done
nothing, otherwise it does not complain. -/
structure Guarded (broken : Prop) (x : Op σ ProgramError α) (s : Store σ) : Prop where
  refuses : broken → ∃ m, x.run s = (.error (.usage m), s)
  accepts : ¬ broken → complaint x s = none

theorem complaint_of_run {x : Op σ ProgramError α} {r : Except ProgramError α × Store σ}
    (run : x.run s = r) (fine : ∀ m, r.1 ≠ .error (.usage m)) : complaint x s = none := by
  unfold complaint
  rw [run]
  split
  · next m failed => exact absurd failed (fine m)
  · rfl

/-- What an engine fails with is no complaint. -/
theorem complaint_mapError (x : Op σ EngineError α) (s : Store σ) :
    complaint (mapError .engine x) s = none := by
  refine complaint_of_run rfl fun m => ?_
  simp only [mapError]
  rcases (x.run s).1 with _ | _ <;> simp [Except.mapError]

theorem complaint_of_succeeds {x : Op σ ProgramError α} {P : Store σ → Prop}
    {Q : α → Store σ → Prop} (h : Succeeds P x Q) (hs : P s) : complaint x s = none := by
  obtain ⟨a, t, run, -⟩ := h.run_eq hs
  exact complaint_of_run run fun _ => nofun

namespace Guarded

variable {broken : Prop} {x : Op σ ProgramError α}

theorem complaint_iff (h : Guarded broken x s) : (complaint x s).isSome ↔ broken := by
  constructor
  · intro complains
    by_contra fine
    rw [h.accepts fine] at complains
    nomatch complains
  · intro bad
    obtain ⟨m, run⟩ := h.refuses bad
    simp [complaint, run]

/-- Who complains has done nothing. -/
theorem unchanged (h : Guarded broken x s) (complains : (complaint x s).isSome) :
    (x.run s).2 = s := by
  obtain ⟨m, run⟩ := h.refuses (h.complaint_iff.1 complains)
  rw [run]

end Guarded

variable {p : ProgramId} {c : ConnectionId}

theorem Ended.refused (ended : s.Ended p) :
    ∃ m, (verifyUsable p).run s = (.error (.usage m), s) := by
  rcases verifyUsable_cases p s with ⟨live, isOpen, -⟩ | refused
  · rcases ended with closed | closed
    · exact absurd (isOpen.symm.trans closed) (by decide)
    · exact absurd (live.symm.trans closed) (by decide)
  · exact refused

theorem Active.of_not_ended (fine : ¬ s.Ended p) : Active p s := by
  unfold Ended at fine
  rw [not_or, Bool.not_eq_false, Bool.not_eq_true] at fine
  exact ⟨fine.2, fine.1⟩

/-- What the counters of references show: an open connection has one, and none counts too far. -/
def Counts (s : Store σ) : Prop :=
  ∀ c, ((s.connection c).isOpen = true → (s.connection c).references ≠ 0) ∧
    (s.connection c).references ≤ maxReferences

/-! What each operation looks at. -/

/-- Of an open connection a reference is refused only if its counter is full. -/
theorem grants_of_open (counts : Counts s)
    (fine : ¬ ((s.connection c).isOpen = false ∨ (s.connection c).references = maxReferences)) :
    (s.connection c).isOpen = true ∧ (s.connection c).Grants := by
  rw [not_or, Bool.not_eq_false] at fine
  obtain ⟨isOpen, room⟩ := fine
  exact ⟨isOpen, (counts c).1 isOpen, Nat.lt_of_le_of_ne (counts c).2 room⟩

theorem createDeferred_guarded (counts : Counts s) (sql : String) :
    Guarded ((s.connection c).isOpen = false ∨ (s.connection c).references = maxReferences)
      (createDeferred c sql) s where
  refuses broken :=
    createDeferred_error sql (broken.imp_right fun full grants => Nat.ne_of_lt grants.2 full)
  accepts fine := by
    obtain ⟨isOpen, grants⟩ := grants_of_open counts fine
    exact complaint_of_run (createDeferred_ok sql isOpen grants) fun _ => by simp

theorem compileProgram_guarded : Guarded (s.Ended p) (compileProgram E p) s where
  refuses ended := by
    obtain ⟨m, refused⟩ := ended.refused
    exact ⟨m, compileProgram_unusable refused⟩
  accepts fine := by
    refine complaint_of_run (compileProgram_usable (Active.of_not_ended fine).verified rfl)
      fun m => ?_
    rcases ((ensureCompiled E p).run s).1 with _ | _ <;> exact nofun

/-- The program that was created can be used, so only an engine can refuse to compile it. -/
theorem createCompiled_guarded (counts : Counts s) (sql : String) :
    Guarded ((s.connection c).isOpen = false ∨ (s.connection c).references = maxReferences)
      (createCompiled E c sql) s where
  refuses broken := by
    obtain ⟨m, failed⟩ := (createDeferred_guarded counts sql).refuses broken
    exact ⟨m, by simp only [createCompiled, run_bind, failed]⟩
  accepts fine := by
    obtain ⟨isOpen, grants⟩ := grants_of_open counts fine
    obtain ⟨u, created, -, active, -⟩ := createDeferred_active sql isOpen grants
    rcases ensured : (ensureCompiled E s.programs.next).run u with ⟨e | h, t⟩
    · have failed := compileProgram_usable active.verified ensured
      exact complaint_of_run (createCompiled_error created failed) fun _ => by simp
    · have compiled := compileProgram_usable active.verified ensured
      exact complaint_of_run (createCompiled_ok created compiled) fun _ => by simp

theorem bindValue_guarded (position : UInt32) (value : Value) :
    Guarded (position = 0 ∨ s.Ended p) (bindValue E p position value) s where
  refuses broken := by
    by_cases zero : position = 0
    · subst zero
      exact ⟨_, bindValue_zero⟩
    · obtain ⟨m, refused⟩ := (broken.resolve_left zero).refused
      exact ⟨m, bindValue_unusable zero refused⟩
  accepts fine := by
    rw [not_or] at fine
    have usable := (Active.of_not_ended fine.2).verified
    cases held : (s.program p).held with
    | none => exact complaint_of_run (bindValue_free usable held fine.1) fun _ => nofun
    | some h =>
      refine Eq.trans ?_ (complaint_mapError (applyBinding E h ⟨position, value⟩) s)
      unfold complaint
      rw [bindValue_held usable held fine.1]

theorem bindPresent_guarded (position : UInt32) (value : Option Value) :
    Guarded (value = none ∨ position = 0 ∨ s.Ended p) (bindPresent E p position value) s := by
  cases value with
  | none => exact ⟨fun _ => ⟨_, rfl⟩, fun fine => absurd (.inl rfl) fine⟩
  | some v =>
    have guarded := bindValue_guarded (E := E) (s := s) (p := p) position v
    exact ⟨fun broken => guarded.refuses (broken.resolve_left nofun),
      fun fine => guarded.accepts fun broken => fine (.inr broken)⟩

theorem clearBindings_guarded : Guarded (s.Ended p) (clearBindings E p) s where
  refuses ended := by
    obtain ⟨m, refused⟩ := ended.refused
    exact ⟨m, clearBindings_unusable refused⟩
  accepts fine := by
    have usable := (Active.of_not_ended fine).verified
    cases held : (s.program p).held with
    | none => exact complaint_of_run (clearBindings_free usable held) fun _ => nofun
    | some h =>
      refine Eq.trans ?_ (complaint_mapError (request E (s.statement h).engine
        (.clearBindings (s.statement h).statement))
          (s.withProgram p fun x => { x with pending := [] }))
      unfold complaint
      rw [clearBindings_held usable held]

theorem execute_guarded : Guarded (s.Ended p) (execute E p) s where
  refuses ended := by
    obtain ⟨m, refused⟩ := ended.refused
    exact ⟨m, execute_unusable refused⟩
  accepts fine := by
    have usable := (Active.of_not_ended fine).verified
    rcases obtained : (ensureCompiled E p).run s with ⟨e | h, t⟩
    · exact complaint_of_run (execute_refused usable obtained) fun _ => nofun
    · refine Eq.trans ?_ (complaint_mapError (request E (t.statement h).engine
        (.execute (t.statement h).statement)) t)
      unfold complaint
      rw [execute_obtained usable obtained]

theorem setCapacity_guarded (size : Nat) :
    Guarded (maxCapacity < size ∨ size < (s.connection c).cache.capacity)
      (setCapacity E c size) s where
  refuses broken := by
    by_cases large : maxCapacity < size
    · exact ⟨.capacityTooLarge size maxCapacity, by simp [setCapacity, large]⟩
    · have small := broken.resolve_left large
      exact ⟨.capacityShrinks (s.connection c).cache.capacity size, by
        simp [setCapacity, large, small]⟩
  accepts fine := by
    rw [not_or] at fine
    let resized := (onCache c fun cache => cache.resize size : Op σ ProgramError _) >>= fun out =>
      mapError .engine (forAll (discard E) out)
    have run : (setCapacity E c size).run s = resized.run s := by
      simp [setCapacity, resized, fine.1, fine.2]
    refine Eq.trans ?_ (complaint_mapError
      (forAll (discard E) ((s.connection c).cache.resize size).1)
        (s.withCache c fun x => (x.resize size).2))
    unfold complaint
    rw [run]
    simp only [resized, run_bind, onCache_run]

theorem acquireReference_guarded (counts : Counts s) :
    Guarded ((s.connection c).references = 0 ∨ (s.connection c).references = maxReferences)
      (acquireReference c) s where
  refuses broken := by
    refine ⟨_, acquireReference_error fun grants => ?_⟩
    rcases broken with none | full
    · exact grants.1 none
    · exact Nat.ne_of_lt grants.2 full
  accepts fine := by
    rw [not_or] at fine
    have grants : (s.connection c).Grants := ⟨fine.1, Nat.lt_of_le_of_ne (counts c).2 fine.2⟩
    exact complaint_of_run (acquireReference_ok grants) fun _ => nofun

/-! What never complains. -/

section Succeeds

variable {ε : Type}

theorem dropConnection_succeeds (c : ConnectionId) :
    Succeeds (fun _ => True) (dropConnection E c : Op σ ε Unit) fun _ _ => True :=
  .change_bind (fun _ _ => trivial) (dropConnectionIfUnreferenced_succeeds c)

theorem giveBack_succeeds (h : CompiledId) :
    Succeeds (fun _ => True) (giveBack E h : Op σ ε Unit) fun _ _ => True :=
  .change_bind (fun _ _ => trivial) (dropUnreferenced_succeeds h)

theorem lookup_succeeds (c : ConnectionId) (sql : String) :
    Succeeds (fun _ => True) (lookup c sql : Op σ ε (Option CompiledId)) fun _ _ => True := by
  refine .read_bind fun x => ?_
  cases x.cache.peek? (Text.trim sql) with
  | none => exact .pure fun _ _ => trivial
  | some h => exact .change_bind (M := fun _ => True) (fun _ _ => trivial) (.pure fun _ _ => trivial)

end Succeeds

/-- An action complains exactly if it breaks a rule or finds a counter full, and has done nothing
then. -/
theorem Action.guarded (counts : Counts s) (a : Action) :
    ((a.complaint E s).isSome ↔ a.Misused s ∨ a.Overflows s) ∧
      ((a.complaint E s).isSome → (a.perform E s).2 = s) := by
  have asks {α : Type} {broken : Prop} {x : Op σ ProgramError α} (g : Guarded broken x s) :
      ((Store.complaint x s).isSome ↔ broken) ∧ ((Store.complaint x s).isSome → (x.run s).2 = s) :=
    ⟨g.complaint_iff, g.unchanged⟩
  have rule {α : Type} {broken : Prop} {x : Op σ ProgramError α} (g : Guarded broken x s) :
      ((Store.complaint x s).isSome ↔ broken ∨ False) ∧
        ((Store.complaint x s).isSome → (x.run s).2 = s) := by
    rw [or_false]
    exact asks g
  have never {o : Option Misuse} {t : Store σ} (fine : o = none) :
      (o.isSome ↔ False ∨ False) ∧ (o.isSome → t = s) := by
    subst fine
    exact ⟨⟨nofun, fun broken => (broken.elim id id).elim⟩, nofun⟩
  have succeeds {α : Type} {x : Op σ ProgramError α} {t : Store σ} {Q : α → Store σ → Prop}
      (h : Succeeds (fun _ => True) x Q) :
      ((Store.complaint x s).isSome ↔ False ∨ False) ∧
        ((Store.complaint x s).isSome → t = s) :=
    never (complaint_of_succeeds h trivial)
  cases a with
  | createDeferred c sql => exact asks (createDeferred_guarded counts sql)
  | createCompiled c sql => exact asks (createCompiled_guarded counts sql)
  | bindValue p position value => exact rule (bindValue_guarded position value)
  | bindPresent p position value => exact rule (bindPresent_guarded position value)
  | clearBindings p => exact rule clearBindings_guarded
  | compile p => exact rule compileProgram_guarded
  | execute p => exact rule execute_guarded
  | setCapacity c size => exact rule (setCapacity_guarded size)
  | acquireReference c => exact asks (acquireReference_guarded counts)
  | openConnection | openDefault | cloneConnection => exact never rfl
  | closeConnection | releaseReference | evict | closeProgram => exact never (complaint_mapError _ s)
  | dropConnection c => exact succeeds (dropConnection_succeeds c)
  | lookup c sql => exact succeeds (lookup_succeeds c sql)
  | giveBack h => exact succeeds (giveBack_succeeds h)
  | dropProgram p => exact succeeds (dropProgram_succeeds p)

end Prepared.Store
