import Prepared.Proofs.Attaching
import Prepared.Proofs.Deferral
import Prepared.Proofs.Shape

/-! What actions make of the shape of a store.

Over an engine that refuses nothing the shape of a store after an action depends on its shape
before it alone. So whether an action is allowed, and of which connection and for which text it
obtains a statement, is the same in any two stores of one shape, whatever their caches contain. -/
namespace Prepared.Store

open Operation

variable {σ ε : Type} {E : Engine σ} {s : Store σ} {o : Store Unit} {c : ConnectionId}
  {p : ProgramId} {sql : String}

/-- Whether a program can be used. -/
def isUsable (p : ProgramId) (o : Store σ) : Bool :=
  (o.connection (o.program p).connection).isOpen && !(o.program p).isClosed

/-- Whether a program can be used, and holds no statement. -/
def isFree (p : ProgramId) (o : Store σ) : Bool :=
  o.isUsable p && (o.program p).held.isNone

/-- The shape once a connection was added. -/
def connected (i : EngineId) (o : Store Unit) : Store Unit :=
  { o with
    connections := o.connections.push
      { engine := i, logsLifecycle := false, cache := { capacity := 0 } } }

/-- The shape once a reference was taken, unless that is refused. -/
def referenced (c : ConnectionId) (o : Store Unit) : Store Unit :=
  if (o.connection c).Grants then
    o.withConnection c fun x => { x with references := x.references + 1 }
  else o

/-- The shape once a program was created, unless that is refused. -/
def begun (c : ConnectionId) (sql : String) (o : Store Unit) : Store Unit :=
  if (o.connection c).isOpen && decide (o.connection c).Grants then
    (o.withConnection c fun x => { x with references := x.references + 1 }).created c sql
  else o

/-- The shape once a value was bound: it waits if the program holds no statement. -/
def queued (p : ProgramId) (position : UInt32) (value : Value) (o : Store Unit) : Store Unit :=
  if position != 0 && o.isFree p then
    o.withProgram p fun x => { x with pending := x.pending ++ [⟨position, value⟩] }
  else o

/-- The shape once the bindings of a program were cleared. -/
def unbound (p : ProgramId) (o : Store Unit) : Store Unit :=
  if o.isUsable p then o.withProgram p fun x => { x with pending := [] } else o

/-- The shape once a program that can be used holds a statement. -/
def equipped (p : ProgramId) (o : Store Unit) : Store Unit :=
  if o.isFree p then o.withProgram p (·.obtain 0) else o

namespace Action

/-- What an action makes of the shape of a store whose engine refuses nothing. -/
def reshape (o : Store Unit) : Action → Store Unit
  | openConnection i settings =>
    match settings.validate with
    | .ok _ => o.connected i
    | .error _ => o
  | openDefault i => o.connected i
  | cloneConnection c => o.withConnection c fun x => { x with clones := x.clones + 1 }
  | dropConnection c => o.withConnection c fun x => { x with clones := x.clones - 1 }
  | closeConnection c order => o.shut c order
  | acquireReference c => o.referenced c
  | releaseReference c => o.released c
  | lookup .. | giveBack _ | evict .. | setCapacity .. => o
  | createDeferred c sql => o.begun c sql
  | createCompiled c sql => (o.begun c sql).equipped o.programs.next
  | bindValue p position value => o.queued p position value
  | bindPresent p position value =>
    match value with
    | some value => o.queued p position value
    | none => o
  | clearBindings p => o.unbound p
  | compile p | execute p => o.equipped p
  | closeProgram p => o.tornDown true p
  | dropProgram p => (o.tornDown true p).withProgram p fun x => { x with isDropped := true }

end Action

/-! What is read off the shape. -/

section Read

theorem isOpen_shape (s : Store σ) (c : ConnectionId) :
    (s.shape.connection c).isOpen = (s.connection c).isOpen :=
  connection_shape s c (fun x => x.isOpen) fun _ => rfl

theorem references_shape (s : Store σ) (c : ConnectionId) :
    (s.shape.connection c).references = (s.connection c).references :=
  connection_shape s c (fun x => x.references) fun _ => rfl

theorem grants_shape (s : Store σ) (c : ConnectionId) :
    (s.shape.connection c).Grants ↔ (s.connection c).Grants := by
  unfold Connection.Grants
  rw [references_shape]

theorem isClosed_shape (s : Store σ) (p : ProgramId) :
    (s.shape.program p).isClosed = (s.program p).isClosed :=
  program_shape s p (fun x => x.isClosed) fun _ => rfl

theorem home_shape (s : Store σ) (p : ProgramId) :
    (s.shape.program p).connection = (s.program p).connection :=
  program_shape s p (fun x => x.connection) fun _ => rfl

theorem sql_shape (s : Store σ) (p : ProgramId) : (s.shape.program p).sql = (s.program p).sql :=
  program_shape s p (fun x => x.sql) fun _ => rfl

theorem isUsable_shape (s : Store σ) (p : ProgramId) : s.shape.isUsable p = s.isUsable p := by
  unfold isUsable
  rw [home_shape, isOpen_shape, isClosed_shape]

theorem isFree_shape (s : Store σ) (p : ProgramId) : s.shape.isFree p = s.isFree p := by
  unfold isFree
  rw [isUsable_shape, held_shape, Option.isNone_map]

theorem isReferenced_shape (s : Store σ) (c : ConnectionId) :
    s.shape.isReferenced c = s.isReferenced c := by
  unfold isReferenced Table.positions
  have clones := connection_shape s c (fun x => x.clones) fun _ => rfl
  have dropped (p : ProgramId) := program_shape s p (fun x => x.isDropped) fun _ => rfl
  simp only [clones, (next_shape s).2, home_shape, dropped]

theorem gone_shape (s : Store σ) (c : ConnectionId) : Gone s.shape c ↔ Gone s c := by
  unfold Gone
  rw [references_shape, isReferenced_shape]

theorem Action.obtains_shape (s : Store σ) (a : Action) : a.obtains s.shape = a.obtains s := by
  have kind (p : ProgramId) := program_shape s p (fun x => x.kind) fun _ => rfl
  cases a <;> simp only [obtains, home_shape, sql_shape, isOpen_shape, isClosed_shape,
    grants_shape, held_shape, Option.isNone_map, kind]

theorem Action.allowed_shape (s : Store σ) {a : Action} (kept : ∀ h, a ≠ .giveBack h) :
    a.Allowed s.shape ↔ a.Allowed s := by
  have clones (c : ConnectionId) := connection_shape s c (fun x => x.clones) fun _ => rfl
  have programs (c : ConnectionId) := connection_shape s c (fun x => x.programs) fun _ => rfl
  have dropped (p : ProgramId) := program_shape s p (fun x => x.isDropped) fun _ => rfl
  cases a with
  | giveBack h => exact absurd rfl (kept h)
  | _ => simp only [Allowed, clones, programs, dropped]

end Read

/-! What becomes of the shape. -/

theorem isUsable_cases (p : ProgramId) (s : Store σ) :
    s.isUsable p = true ∧ (verifyUsable p).run s = (.ok (), s) ∨
      s.isUsable p = false ∧ ∃ m, (verifyUsable p).run s = (.error (.usage m), s) := by
  unfold isUsable
  cases isOpen : (s.connection (s.program p).connection).isOpen <;>
    cases isClosed : (s.program p).isClosed <;>
    simp [verifyUsable, verifyOpen, verifyLive, isOpen, isClosed]

namespace Shapes

theorem addConnection (i : EngineId) (settings : Settings) :
    Shapes (addConnection i settings : Op σ ε ConnectionId) (connected i) := by
  intro s
  show Store.shape { s with connections := s.connections.push _ } = _
  unfold shape view connected
  rw [Table.map_push]
  rfl

theorem openConnection (i : EngineId) (settings : Settings) :
    Shapes (openConnection i settings : Op σ SettingsError ConnectionId) fun o =>
      match settings.validate with
      | .ok _ => o.connected i
      | .error _ => o := by
  intro s
  unfold Store.openConnection
  cases settings.validate with
  | ok settings => exact addConnection i settings s
  | error e => rfl

theorem acquireReference (c : ConnectionId) :
    Shapes (acquireReference c : Op σ ProgramError Unit) (referenced c) := by
  intro s
  unfold referenced
  by_cases grants : (s.connection c).Grants
  · rw [acquireReference_ok grants, if_pos ((grants_shape s c).2 grants)]
    exact shape_withConnection s c fun _ => rfl
  · rw [acquireReference_error grants, if_neg (mt (grants_shape s c).1 grants)]

theorem createDeferred (c : ConnectionId) (sql : String) :
    Shapes (createDeferred c sql : Op σ ProgramError ProgramId) (begun c sql) := by
  intro s
  unfold begun
  rw [isOpen_shape]
  by_cases usable : (s.connection c).isOpen = true ∧ (s.connection c).Grants
  · rw [createDeferred_ok sql usable.1 usable.2,
      if_pos (by simpa [grants_shape] using usable)]
    refine (view_created _ _ c sql).trans (congrArg (Store.created c sql) ?_)
    exact shape_withConnection s c fun _ => rfl
  · rw [if_neg (by simpa [grants_shape] using usable)]
    rw [not_and_or, Bool.not_eq_true] at usable
    obtain ⟨e, refused⟩ := createDeferred_error sql usable
    rw [refused]

theorem bindValue (p : ProgramId) (position : UInt32) (value : Value) :
    Shapes (bindValue E p position value) (queued p position value) := by
  intro s
  unfold queued
  rw [isFree_shape, isFree]
  by_cases zero : position = 0
  · subst zero
    rw [bindValue_zero]
    rfl
  rcases isUsable_cases p s with ⟨usable, verified⟩ | ⟨unusable, m, refused⟩
  · cases held : (s.program p).held with
    | none =>
      rw [bindValue_free verified held zero, if_pos (by simp [zero, usable])]
      exact shape_withProgram s p fun _ => rfl
    | some h =>
      rw [bindValue_held verified held zero, if_neg (by simp)]
      rfl
  · rw [bindValue_unusable zero refused, if_neg (by simp [unusable])]

theorem clearBindings (p : ProgramId) : Shapes (clearBindings E p) (unbound p) := by
  intro s
  unfold unbound
  rw [isUsable_shape]
  rcases isUsable_cases p s with ⟨usable, verified⟩ | ⟨unusable, m, refused⟩
  · rw [if_pos usable,
      ← shape_withProgram s p (g := fun x => { x with pending := [] }) fun _ => rfl]
    cases held : (s.program p).held with
    | none => rw [clearBindings_free verified held]
    | some h =>
      rw [clearBindings_held verified held]
      rfl
  · rw [clearBindings_unusable refused, if_neg (by simp [unusable])]

end Shapes

section Recording

variable {e : Recording} {past : List (Step Recording)} {s : Store Recording}

theorem Active.of_isUsable {s : Store σ} (usable : s.isUsable p = true) : Active p s := by
  simp only [isUsable, Bool.and_eq_true, Bool.not_eq_true'] at usable
  exact ⟨usable.2, usable.1⟩

theorem not_isFree {s : Store σ} (unusable : s.isUsable p = false) : s.isFree p = false := by
  simp [isFree, unusable]

/-- A program that can be used obtains a statement, unless it holds one. -/
theorem Run.equips (run : Run Recording.engine e past s) (accepting : e.refused = [])
    (active : Active p s) : ∃ h t, (ensureCompiled Recording.engine p).run s = (.ok h, t) ∧
      t.shape = s.shape.equipped p := by
  unfold equipped
  rw [isFree_shape, isFree, isUsable, active.isOpen, active.live]
  cases held : (s.program p).held with
  | some h => exact ⟨h, s, ensureCompiled_held held, rfl⟩
  | none =>
    have accepted : s.engine.refused.contains (s.program p).sql = false := by
      rw [run.refused, accepting]
      rfl
    obtain ⟨h, t, calls, acquired, live, -, -⟩ := run.obtains active accepted
    have positions : ∀ b ∈ (s.program p).pending, b.position ≠ 0 := by
      rw [(run.waits p).waiting active.live held]
      exact run.positions
    refine ⟨h, _, ensureCompiled_obtained held acquired (replay_recorded live positions), ?_⟩
    have kept : (acquireFor Recording.engine p s).2.shape = s.shape := keeps_acquire s
    rw [acquired] at kept
    change t.shape = s.shape at kept
    rw [if_pos (by rfl), ← kept]
    exact shape_withProgram _ p fun _ => rfl

theorem Run.compile_shape (run : Run Recording.engine e past s) (accepting : e.refused = [])
    (p : ProgramId) :
    ((compileProgram Recording.engine p).run s).2.shape = s.shape.equipped p := by
  rcases isUsable_cases p s with ⟨usable, verified⟩ | ⟨unusable, m, refused⟩
  · obtain ⟨h, t, ensured, shape⟩ := run.equips accepting (.of_isUsable usable)
    rw [compileProgram_usable verified ensured, shape]
  · rw [compileProgram_unusable refused, equipped, isFree_shape, not_isFree unusable]
    rfl

theorem Run.execute_shape (run : Run Recording.engine e past s) (accepting : e.refused = [])
    (p : ProgramId) : ((execute Recording.engine p).run s).2.shape = s.shape.equipped p := by
  rcases isUsable_cases p s with ⟨usable, verified⟩ | ⟨unusable, m, refused⟩
  · obtain ⟨h, t, ensured, shape⟩ := run.equips accepting (.of_isUsable usable)
    rw [execute_obtained verified ensured, ← shape]
    rfl
  · rw [execute_unusable refused, equipped, isFree_shape, not_isFree unusable]
    rfl

/-- To create a program and compile it at once comes to creating it and then compiling it. -/
theorem Run.createCompiled_eq (run : Run Recording.engine e past s) (accepting : e.refused = [])
    {c : ConnectionId} (allowed : 0 < (s.connection c).clones) (sql : String) :
    ((createCompiled Recording.engine c sql).run s).2 =
      ((compileProgram Recording.engine s.programs.next).run
        ((createDeferred c sql : Op Recording ProgramError ProgramId).run s).2).2 := by
  by_cases usable : (s.connection c).isOpen = true ∧ (s.connection c).Grants
  · obtain ⟨u, created, -, active, -⟩ := createDeferred_active sql usable.1 usable.2
    have next := run.created allowed created
    obtain ⟨h, t, ensured, -⟩ := next.equips accepting active
    have compiled := compileProgram_usable active.verified ensured
    rw [createCompiled_ok created compiled, created, compiled]
  · rw [not_and_or, Bool.not_eq_true] at usable
    obtain ⟨e, refused⟩ := createDeferred_error sql usable
    have missing : s.isUsable s.programs.next = false := by
      simp [isUsable, program, Table.get_of_le, default]
    rcases isUsable_cases s.programs.next s with ⟨usable, -⟩ | ⟨-, m, unusable⟩
    · exact nomatch missing.symm.trans usable
    · rw [refused, compileProgram_unusable unusable, createCompiled, run_bind, refused]

/-- The shape of a store after an action depends on its shape before it alone. -/
theorem Run.reshape (run : Run Recording.engine e past s) (accepting : e.refused = []) {a : Action}
    (allowed : a.Allowed s) : (a.perform Recording.engine s).2.shape = a.reshape s.shape := by
  cases a with
  | openConnection i settings => exact Shapes.openConnection i settings s
  | openDefault i => exact Shapes.addConnection (ε := Empty) i {} s
  | cloneConnection c => exact shape_withConnection s c fun _ => rfl
  | dropConnection c =>
    let t := s.withConnection c fun x => { x with clones := x.clones - 1 }
    have left : t.shape = Action.reshape s.shape (.dropConnection c) :=
      shape_withConnection s c fun _ => rfl
    exact (keeps_dropConnectionIfUnreferenced (ε := Empty) (v := shape) t).trans left
  | closeConnection c order => exact Shapes.closeInOrder c order s
  | acquireReference c => exact Shapes.acquireReference c s
  | releaseReference c => exact Shapes.releaseReference c s
  | lookup c sql => exact lookup_keeps (ε := Empty) (v := shape) sql s
  | giveBack h => exact giveBack_keeps (ε := Empty) (v := shape) h s
  | evict c sql => exact evict_keeps (v := shape) sql s
  | setCapacity c n => exact setCapacity_keeps (v := shape) n s
  | createDeferred c sql => exact Shapes.createDeferred c sql s
  | createCompiled c sql =>
    have next := run.step (.createDeferred c sql) allowed
    refine (congrArg shape (run.createCompiled_eq accepting allowed sql)).trans ?_
    refine (next.compile_shape accepting _).trans ?_
    show ((Store.createDeferred c sql).run s).2.shape.equipped _ = _
    rw [Shapes.createDeferred, ← (next_shape s).2]
    rfl
  | bindValue p position value => exact Shapes.bindValue p position value s
  | bindPresent p position value =>
    cases value with
    | none => rfl
    | some value => exact Shapes.bindValue p position value s
  | clearBindings p => exact Shapes.clearBindings p s
  | compile p => exact run.compile_shape accepting p
  | execute p => exact run.execute_shape accepting p
  | closeProgram p => exact Shapes.tearDown true p s
  | dropProgram p => exact Shapes.dropProgram (ε := Empty) p s

end Recording

end Prepared.Store
