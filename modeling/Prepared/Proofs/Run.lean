import Prepared.Store.Connection

/-! Runs.

A run starts from a store with nothing in it and consists of actions: what the owners of
connections, programs and looked-up statements can do with them. An action is allowed when
what it uses is in somebody's hands: a clone of a connection that is not yet dropped, a
program that is not yet dropped, a compiled statement that is not yet given back. A
statement about every run is a statement about every reachable store. -/
namespace Prepared.Store

variable {σ : Type}

/-- What can be done with a store. -/
inductive Action where
  | openConnection (engine : EngineId) (settings : Settings)
  | openDefault (engine : EngineId)
  | cloneConnection (c : ConnectionId)
  | dropConnection (c : ConnectionId)
  /-- Closes a connection, whose programs are met in some order. -/
  | closeConnection (c : ConnectionId) (order : List ProgramId)
  | acquireReference (c : ConnectionId)
  | releaseReference (c : ConnectionId)
  | lookup (c : ConnectionId) (sql : String)
  | giveBack (h : CompiledId)
  | evict (c : ConnectionId) (sql : String)
  | setCapacity (c : ConnectionId) (size : Nat)
  | createDeferred (c : ConnectionId) (sql : String)
  | createCompiled (c : ConnectionId) (sql : String)
  | bindValue (p : ProgramId) (position : UInt32) (value : Value)
  | bindPresent (p : ProgramId) (position : UInt32) (value : Option Value)
  | clearBindings (p : ProgramId)
  | compile (p : ProgramId)
  | execute (p : ProgramId)
  | closeProgram (p : ProgramId)
  | dropProgram (p : ProgramId)
  deriving DecidableEq, Repr

/-- Whether an operation succeeds, and the store after it. -/
def outcome (x : Op σ ε α) (s : Store σ) : Bool × Store σ :=
  ((x.run s).1.isOk, (x.run s).2)

theorem outcome_of_run {x : Op σ ε α} {s t : Store σ} {r : Except ε α} (run : x.run s = (r, t)) :
    outcome x s = (r.isOk, t) := by
  unfold outcome
  rw [run]

namespace Action

/-- Performs an action: whether it succeeded, and the store after it. -/
def perform (E : Engine σ) : Action → Store σ → Bool × Store σ
  | openConnection i settings => outcome (Store.openConnection i settings)
  | openDefault i => outcome (Store.openDefault i : Op σ Empty _)
  | cloneConnection c => outcome (Store.cloneConnection c : Op σ Empty _)
  | dropConnection c => outcome (Store.dropConnection E c : Op σ Empty _)
  | closeConnection c order => outcome (Store.closeInOrder E c order)
  | acquireReference c => outcome (Store.acquireReference c)
  | releaseReference c => outcome (Store.releaseReference E c)
  | lookup c sql => outcome (Store.lookup c sql : Op σ Empty _)
  | giveBack h => outcome (Store.giveBack E h : Op σ Empty _)
  | evict c sql => outcome (Store.evict E c sql)
  | setCapacity c size => outcome (Store.setCapacity E c size)
  | createDeferred c sql => outcome (Store.createDeferred c sql)
  | createCompiled c sql => outcome (Store.createCompiled E c sql)
  | bindValue p position value => outcome (Store.bindValue E p position value)
  | bindPresent p position value => outcome (Store.bindPresent E p position value)
  | clearBindings p => outcome (Store.clearBindings E p)
  | compile p => outcome (Store.compileProgram E p)
  | execute p => outcome (Store.execute E p)
  | closeProgram p => outcome (Store.closeProgram E p)
  | dropProgram p => outcome (Store.dropProgram E p : Op σ Empty _)

/-- Whether what an action uses is in somebody's hands. -/
def Allowed (s : Store σ) : Action → Prop
  | openConnection .. | openDefault _ => True
  | closeConnection c order =>
    0 < (s.connection c).clones ∧ order.Perm (s.connection c).programs
  | cloneConnection c | dropConnection c | acquireReference c | releaseReference c
  | lookup c _ | evict c _ | setCapacity c _ | createDeferred c _ | createCompiled c _ =>
    0 < (s.connection c).clones
  | giveBack h => 0 < (s.statement h).borrowers
  | bindValue p .. | bindPresent p .. | clearBindings p | compile p | execute p | closeProgram p
  | dropProgram p => (s.program p).isDropped = false

instance decidableAllowed (s : Store σ) : (a : Action) → Decidable (a.Allowed s)
  | openConnection .. | openDefault _ => .isTrue trivial
  | closeConnection .. => inferInstanceAs (Decidable (_ ∧ _))
  | cloneConnection _ | dropConnection _ | acquireReference _ | releaseReference _
  | lookup .. | evict .. | setCapacity .. | createDeferred .. | createCompiled .. | giveBack _ =>
    Nat.decLt ..
  | bindValue .. | bindPresent .. | clearBindings _ | compile _ | execute _ | closeProgram _
  | dropProgram _ => instDecidableEqBool ..

end Action

/-- An action that was performed, between the stores before and after it. -/
structure Step (σ : Type) where
  before : Store σ
  action : Action
  succeeded : Bool
  after : Store σ

/-- Runs from a state of the engines: the steps so far, the latest first, and the store that
they lead to. -/
inductive Run (E : Engine σ) (e : σ) : List (Step σ) → Store σ → Prop
  | start : Run E e [] { engine := e }
  | step {past : List (Step σ)} {s : Store σ} (a : Action) (run : Run E e past s)
      (allowed : a.Allowed s) :
      Run E e (⟨s, a, (a.perform E s).1, (a.perform E s).2⟩ :: past) (a.perform E s).2

/-- An action with a known outcome is one more step of a run. -/
theorem Run.step_to {E : Engine σ} {e : σ} {past : List (Step σ)} {s t : Store σ} {a : Action}
    {b : Bool} (run : Run E e past s) (allowed : a.Allowed s) (performed : a.perform E s = (b, t)) :
    Run E e (⟨s, a, b, t⟩ :: past) t := by
  have next := run.step a allowed
  rw [performed] at next
  exact next

/-- What holds of the empty store and is kept by every allowed action holds after every
run. -/
theorem Run.invariant {E : Engine σ} {e : σ} {I : Store σ → Prop} (start : I { engine := e })
    (step : ∀ s (a : Action), I s → a.Allowed s → I (a.perform E s).2)
    {past : List (Step σ)} {s : Store σ} (run : Run E e past s) : I s := by
  induction run with
  | start => exact start
  | step a _ allowed ih => exact step _ a ih allowed

/-- The steps of a list of actions, put before the steps of the past. -/
def steps (E : Engine σ) : List Action → Store σ → List (Step σ) → List (Step σ)
  | [], _, past => past
  | a :: as, s, past =>
    steps E as (a.perform E s).2 (⟨s, a, (a.perform E s).1, (a.perform E s).2⟩ :: past)

/-- The store that a list of actions leads to. -/
def performAll (E : Engine σ) : List Action → Store σ → Store σ
  | [], s => s
  | a :: as, s => performAll E as (a.perform E s).2

/-- Whether all actions of a list are allowed in turn. -/
def AllAllowed (E : Engine σ) : List Action → Store σ → Prop
  | [], _ => True
  | a :: as, s => a.Allowed s ∧ AllAllowed E as (a.perform E s).2

instance decidableAllAllowed (E : Engine σ) :
    (as : List Action) → (s : Store σ) → Decidable (AllAllowed E as s)
  | [], _ => .isTrue trivial
  | a :: as, s =>
    have := decidableAllAllowed E as (a.perform E s).2
    inferInstanceAs (Decidable (_ ∧ _))

theorem performAll_append (E : Engine σ) (as bs : List Action) (s : Store σ) :
    performAll E (as ++ bs) s = performAll E bs (performAll E as s) := by
  induction as generalizing s with
  | nil => rfl
  | cons a as ih => exact ih _

theorem AllAllowed.append {E : Engine σ} {as bs : List Action} {s : Store σ}
    (h : AllAllowed E (as ++ bs) s) :
    AllAllowed E as s ∧ AllAllowed E bs (performAll E as s) := by
  induction as generalizing s with
  | nil => exact ⟨trivial, h⟩
  | cons a as ih => exact ⟨⟨h.1, (ih h.2).1⟩, (ih h.2).2⟩

/-- The steps of a list of actions are its actions, each from the store that those before it
lead to. -/
theorem exists_of_mem_steps {E : Engine σ} {s : Store σ} {past : List (Step σ)}
    {as : List Action} {x : Step σ} (hx : x ∈ steps E as s past) :
    x ∈ past ∨ ∃ bs a cs, as = bs ++ a :: cs ∧
      x = ⟨performAll E bs s, a, (a.perform E (performAll E bs s)).1,
        (a.perform E (performAll E bs s)).2⟩ := by
  induction as generalizing s past with
  | nil => exact .inl hx
  | cons a as ih =>
    rcases ih hx with old | ⟨bs, b, cs, rfl, rfl⟩
    · rcases List.mem_cons.1 old with rfl | old
      · exact .inr ⟨[], a, as, rfl, rfl⟩
      · exact .inl old
    · exact .inr ⟨a :: bs, b, cs, rfl, rfl⟩

/-- A list of actions, each allowed in its turn, is a run. -/
theorem Run.extend {E : Engine σ} {e : σ} {past : List (Step σ)} {s : Store σ}
    (run : Run E e past s) (as : List Action) (h : AllAllowed E as s) :
    Run E e (steps E as s past) (performAll E as s) := by
  induction as generalizing past s with
  | nil => exact run
  | cons a as ih => exact ih (run.step a h.1) h.2

theorem Run.ofActions {E : Engine σ} {e : σ} (as : List Action)
    (h : AllAllowed E as { engine := e }) :
    Run E e (steps E as { engine := e } []) (performAll E as { engine := e }) :=
  Run.start.extend as h

end Prepared.Store
