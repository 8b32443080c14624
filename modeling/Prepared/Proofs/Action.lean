import Prepared.Proofs.Connection
import Prepared.Proofs.Run

/-! The moves of actions.

An allowed action is a run of moves that begins and ends with nothing in its charge, except
that a reference from outside is in charge of the action that takes it once it is taken, and
of the one that gives it back from the beginning. So what is kept by every move is kept by
every run. -/
namespace Prepared.Store

variable {σ : Type} {E : Engine σ}

namespace Action

/-- The connection that an action works on. -/
def connection (s : Store σ) : Action → ConnectionId
  | openConnection .. | openDefault _ => s.connections.next
  | cloneConnection c | dropConnection c | closeConnection c _ | acquireReference c
  | releaseReference c | lookup c _ | evict c _ | setCapacity c _ | createDeferred c _
  | createCompiled c _ => c
  | giveBack h => (s.statement h).connection
  | bindValue p .. | bindPresent p .. | clearBindings p | compile p | execute p | closeProgram p
  | dropProgram p => (s.program p).connection

/-- The program that an action works for. -/
def actor (s : Store σ) : Action → Option ProgramId
  | createCompiled .. => some s.programs.next
  | bindValue p .. | bindPresent p .. | clearBindings p | compile p | execute p | closeProgram p
  | dropProgram p => some p
  | _ => none

/-- What an action is in charge of at its beginning. -/
def entry (s : Store σ) (a : Action) : Grip where
  connection := a.connection s
  actor := a.actor s
  owed := match a with
    | releaseReference _ => 1
    | _ => 0

/-- What an action is in charge of at its end. -/
def exit (s : Store σ) (a : Action) (succeeded : Bool) : Grip where
  connection := a.connection s
  actor := a.actor s
  owed := match a with
    | acquireReference _ => succeeded.toNat
    | _ => 0

end Action

/-- The programs on the list of a connection are programs of that connection. -/
def Registered (s : Store σ) : Prop :=
  ∀ c p, p ∈ (s.connection c).programs → (s.program p).connection = c

theorem owned_of_not_dropped {s : Store σ} {p : ProgramId}
    (h : (s.program p).isDropped = false) : Owned (s.program p).connection p s where
  home := rfl
  referenced := isReferenced_iff.2 (.inr ⟨p, rfl, h⟩)

/-- Every allowed action is a run of moves. -/
theorem Action.moves {s : Store σ} (registered : Registered s) (a : Action)
    (allowed : a.Allowed s) :
    At E ⟨s, a.entry s⟩ (a.exit s (a.perform E s).1) (a.perform E s).2 := by
  have start : At E ⟨s, a.entry s⟩ (a.entry s) s := .start
  cases a with
  | openConnection i settings => exact openConnection_moves i settings s start
  | openDefault i => exact addConnection_moves (ε := Empty) i {} s start
  | cloneConnection c => exact start.move (.clone (isReferenced_of_clones allowed))
  | dropConnection c =>
    exact dropConnection_moves (ε := Empty) (g := Action.entry s (.dropConnection c)) rfl rfl s start
  | closeConnection c order =>
    have hr := isReferenced_of_clones allowed.1
    exact closeInOrder_moves order rfl rfl rfl s
      ⟨start, allowed.2, fun p hp => ⟨registered c p (allowed.2.subset hp), hr⟩, hr⟩
  | acquireReference c =>
    exact acquireReference_moves (g := Action.entry s (.acquireReference c)) s
      ⟨start, isReferenced_of_clones allowed⟩
  | releaseReference c =>
    exact releaseReference_moves (g := Action.entry s (.releaseReference c)) rfl rfl s
      ⟨start, isReferenced_of_clones allowed⟩
  | lookup c sql => exact lookup_moves (ε := Empty) sql s start
  | giveBack h => exact giveBack_moves (ε := Empty) h rfl rfl s start
  | evict c sql => exact evict_moves sql rfl s start
  | setCapacity c size => exact setCapacity_moves size rfl s start
  | createDeferred c sql =>
    exact (createDeferred_moves sql _ s ⟨start, isReferenced_of_clones allowed, rfl⟩).1
  | createCompiled c sql =>
    exact createCompiled_moves sql _ rfl rfl rfl rfl rfl s
      ⟨start, isReferenced_of_clones allowed, rfl⟩
  | bindValue p position value =>
    exact bindValue_moves rfl position value s ⟨start, owned_of_not_dropped allowed⟩
  | bindPresent p position value =>
    cases value with
    | none => exact start
    | some v => exact bindValue_moves rfl position v s ⟨start, owned_of_not_dropped allowed⟩
  | clearBindings p => exact clearBindings_moves rfl s ⟨start, owned_of_not_dropped allowed⟩
  | compile p => exact compileProgram_moves rfl rfl rfl s ⟨start, owned_of_not_dropped allowed⟩
  | execute p => exact execute_moves rfl rfl rfl s ⟨start, owned_of_not_dropped allowed⟩
  | closeProgram p => exact tearDown_moves rfl rfl true s ⟨start, owned_of_not_dropped allowed⟩
  | dropProgram p =>
    exact dropProgram_moves (ε := Empty) rfl rfl s ⟨start, owned_of_not_dropped allowed⟩

end Prepared.Store
