import Prepared.Proofs.Bookkeeping
import Prepared.Proofs.Sweep
import Prepared.Proofs.Waiting

/-! Shutting down.

A connection that is closed closes its open programs in no certain order. What it comes to is the
same in every order, and the same again if the programs were closed one by one before. -/
namespace Prepared

/-- What is left of a connection when some of its programs were closed. -/
theorem Connection.foldl_without (unlist : Bool) (ps : List ProgramId) (x : Connection) :
    ps.foldl (fun x p => x.without unlist p) x =
      { x with
        references := x.references - ps.length
        programs :=
          if unlist then x.programs.filter fun q => decide (q ∉ ps) else x.programs } := by
  induction ps generalizing x with
  | nil => cases unlist <;> simp
  | cons p ps ih =>
    rw [List.foldl_cons, ih]
    cases unlist <;>
      simp [without, Nat.sub_sub, Nat.add_comm, List.filter_filter, Bool.and_comm,
        bne, beq_eq_decide, -bne_iff_ne]

namespace Store

open Operation

section Swept

variable {s t : Store Recording} {c : ConnectionId}

/-! The parts of a store once programs were closed. -/

theorem next_cleared (s t : Store Recording) (c : ConnectionId) (unlist : Bool) (p : ProgramId) :
    (s.cleared t c unlist p).connections.next = t.connections.next := by
  unfold cleared
  rw [next_withConnection]
  exact congrArg Table.next (vacated_parts s t c p).1

theorem connection_swept (s : Store Recording) (unlist : Bool) (ps : List ProgramId)
    (hc : c < t.connections.next) :
    (s.swept t c unlist ps).connection c =
      ps.foldl (fun x p => x.without unlist p) (t.connection c) := by
  induction ps generalizing t with
  | nil => rfl
  | cons p ps ih =>
    have next := next_cleared s t c unlist p
    refine (ih (next ▸ hc)).trans ?_
    rw [connection_cleared s t c unlist p hc, List.foldl_cons]

theorem program_swept (s t : Store Recording) (c : ConnectionId) (unlist : Bool)
    (ps : List ProgramId) (q : ProgramId) :
    (s.swept t c unlist ps).program q =
      if q ∈ ps then (t.program q).settle else t.program q := by
  induction ps generalizing t with
  | nil => rfl
  | cons p ps ih =>
    refine (ih _).trans ?_
    rw [program_cleared]
    by_cases hq : q = p
    · rw [if_pos hq, if_pos (List.mem_cons.2 (.inl hq))]
      exact ite_self _
    · simp only [hq, if_false, List.mem_cons, false_or]

/-- Programs may be swept in any order. -/
theorem swept_perm (s t : Store Recording) (c : ConnectionId) {ps qs : List ProgramId}
    (perm : ps.Perm qs) : s.swept t c false ps = s.swept t c false qs :=
  perm.foldl_eq' (fun p _ q _ t => cleared_comm s t c p q) t

/-- The store once a connection has begun to close. -/
def shutting (t : Store σ) (c : ConnectionId) : Store σ :=
  t.withConnection c fun x => { x with isOpen := false, programs := [] }

/-- A connection that is closed in the end forgets which programs it has listed until then. -/
theorem shutting_swept (s t : Store Recording) (c : ConnectionId) (ps : List ProgramId) :
    (s.swept t c true ps).shutting c = s.swept (t.shutting c) c false ps := by
  have step (t : Store Recording) (p : ProgramId) :
      (s.cleared t c true p).shutting c = s.cleared (t.shutting c) c false p := by
    unfold cleared shutting
    have swap (u : Store Recording) (f : Connection → Connection) :
        (u.withConnection c f).withProgram p Program.settle =
          (u.withProgram p Program.settle).withConnection c f := rfl
    rw [vacated_withConnection, swap, withConnection_withConnection,
      withConnection_withConnection]
    rfl
  induction ps generalizing t with
  | nil => rfl
  | cons p ps ih =>
    refine (ih _).trans ?_
    rw [step]
    rfl

theorem Clearing.shutting {ps : List ProgramId} (hs : Clearing s c ps t) (es : List Event) :
    Clearing s c ps ((t.shutting c).noted es []) := by
  have part {β : Type} (part : Connection → β)
      (hf : ∀ x : Connection, part { x with isOpen := false, programs := [] } = part x) :
      part ((t.shutting c).connection c) = part (t.connection c) :=
    connection_part t c c part hf
  constructor
  case home => exact hs.home
  case isOpen => exact hs.isOpen
  case nodup => exact hs.nodup
  case program => exact hs.program
  case held => exact hs.held
  case unique => exact hs.unique
  case cache => exact (part (fun x => x.cache) fun _ => rfl).trans hs.cache
  case funded => exact (part (fun x => x.references) fun _ => rfl) ▸ hs.funded
  case stocked => exact hs.stocked.congr rfl rfl rfl

/-- What was not closed yet may be closed from here. -/
theorem Clearing.self (hs : Clearing s c [] t) : Clearing t c [] t where
  home _ := nofun
  isOpen _ := nofun
  nodup := hs.nodup
  program _ := nofun
  held _ := nofun
  unique _ := nofun
  cache := rfl
  funded := hs.funded
  stocked := hs.stocked

end Swept

/-! The last thing that a closed connection does is to give back a reference. -/

section Release

variable {σ : Type} {E : Engine σ} {s : Store σ} {c : ConnectionId}

theorem retire_connection (hc : c < s.connections.next) :
    ((retire E c).run s).2.connection c =
      { s.connection c with isOpen := false, cache := (s.connection c).cache.drain.2 } := by
  have destroyed (h : CompiledId) : Keeps Store.connections (destroy E h) :=
    .bind (.read _) fun _ => .ite (.pure _) (.bind (.change fun _ => rfl) fun _ _ => rfl)
  have rest (out : List CompiledId) : Keeps Store.connections (do
      trace c (.connectionReleased out.length)
      forAll (destroy E) out : Op σ EngineError Unit) :=
    .bind (.bind (.read _) fun _ => .ite (.change fun _ => rfl) (.pure _)) fun _ =>
      .forAll destroyed out
  unfold retire
  rw [run_bind, run_change]
  dsimp only
  rw [run_bind, onCache_run]
  refine (congrArg (fun cs => cs.get c) (rest _ _)).trans ?_
  show (Store.connection _ c) = _
  unfold withCache
  rw [withConnection_withConnection, connection_withConnection, if_pos ⟨rfl, hc⟩]

theorem releaseReference_connection {n : Nat} (hn : (s.connection c).references = n + 1) :
    ((releaseReference E c).run s).2.connection c =
      { s.connection c with
        isOpen := (s.connection c).isOpen && n != 0
        references := n
        cache := if n = 0 then (s.connection c).cache.drain.2 else (s.connection c).cache } := by
  have hc : c < s.connections.next := lt_of_references (by simp [hn])
  cases n with
  | zero =>
    rw [releaseReference_last hn, retire_connection (by rwa [next_withConnection]),
      connection_withConnection, if_pos ⟨rfl, hc⟩]
    simp
  | succ n =>
    rw [releaseReference_more hn]
    show (s.withConnection c _).connection c = _
    rw [connection_withConnection, if_pos ⟨rfl, hc⟩]
    simp

end Release

section Shutdown

variable {e : Recording} {past : List (Step Recording)} {s t u v : Store Recording}
  {c : ConnectionId} {order order' : List ProgramId}

theorem releaseReference_stocked (c : ConnectionId) (hs : Stocked s) :
    ((releaseReference Recording.engine c).run s).1 = .ok () := by
  match hn : (s.connection c).references with
  | 0 => rw [releaseReference_none hn]
  | 1 =>
    rw [releaseReference_last hn]
    obtain ⟨_, ok, -⟩ := stocked_quiet.retire (c := c)
      (s.withConnection c fun x => { x with references := 0 }) (hs.congr rfl rfl rfl)
    exact ok
  | n + 2 => rw [releaseReference_more hn]

/-- Closes programs of a connection one by one, and then the connection. -/
def closeByHand (E : Engine σ) (c : ConnectionId) (order : List ProgramId) :
    Op σ EngineError Unit := do
  forAll (closeProgram E) order
  closeConnection E c

/-- A store in which the programs of a connection were closed, and the reference of its owner is
all that is left to give back. -/
structure Emptied (s : Store Recording) (c : ConnectionId) (order : List ProgramId)
    (u : Store Recording) : Prop where
  unlogged : u.unlogged = s.swept (s.unlogged.shutting c) c false order
  log : u.engine.log = s.engine.log ++ order.flatMap (s.farewell c)
  stocked : Stocked u

/-- Closing a connection sweeps its programs. -/
theorem closeInOrder_swept (hs : Clearing s c order s) (isOpen : (s.connection c).isOpen = true) :
    ∃ u, Emptied s c order u ∧ (closeInOrder Recording.engine c order).run s =
      (releaseReference Recording.engine c).run u := by
  obtain ⟨es, traced⟩ := trace_run (ε := EngineError) c (.connectionClosed order.length)
    (s.shutting c)
  have noted : { s.shutting c with events := (s.shutting c).events ++ es } =
      (s.shutting c).noted es [] := by
    simp [Store.noted]
  rw [noted] at traced
  obtain ⟨u, swept, unlogged, log, rest⟩ := (hs.shutting es).sweep false
  refine ⟨u, ⟨unlogged, ?_, rest.stocked⟩, ?_⟩
  · rw [log]
    exact congrArg (· ++ _) (List.append_nil _)
  · have begun : (change (·.withConnection c fun x => { x with isOpen := false, programs := [] }) :
        Op _ EngineError Unit).run s = (.ok (), s.shutting c) := rfl
    simp only [closeInOrder, run_bind, run_read, isOpen, if_true, begun, traced, both, swept]

/-- Closing the programs by hand leaves nothing to sweep. -/
theorem closeByHand_swept (hs : Clearing s c order s) (isOpen : (s.connection c).isOpen = true)
    (all : order.Perm (s.connection c).programs) :
    ∃ u, Emptied s c order u ∧ (closeByHand Recording.engine c order).run s =
      (releaseReference Recording.engine c).run u := by
  obtain ⟨t, swept, unlogged, log, rest⟩ := hs.sweep true
  have hc : c < s.unlogged.connections.next := lt_of_isOpen isOpen
  have connection : t.connection c = order.foldl (fun x p => x.without true p) (s.connection c) :=
    (congrArg (fun s => s.connection c) unlogged).trans (connection_swept s true order hc)
  rw [Connection.foldl_without] at connection
  have none : (t.connection c).programs = [] := by
    rw [connection]
    exact List.filter_eq_nil_iff.2 fun p hp => by simp [all.mem_iff.2 hp]
  have stillOpen : (t.connection c).isOpen = true := by
    rw [connection]
    exact isOpen
  obtain ⟨u, emptied, closed⟩ := closeInOrder_swept rest.self stillOpen
  refine ⟨u, ⟨?_, ?_, emptied.stocked⟩, ?_⟩
  · rw [emptied.unlogged, unlogged, shutting_swept]
    rfl
  · rw [emptied.log, log]
    exact List.append_nil _
  · have rest : (closeConnection Recording.engine c).run t =
        (closeInOrder Recording.engine c []).run t := by
      simp only [closeConnection, run_bind, run_read, none]
    have closes : (forAll (closeProgram Recording.engine) order).run s = (.ok (), t) := swept
    simp only [closeByHand, run_bind, closes, rest, closed]

/-- The open programs of a connection can be closed, in any order. -/
theorem Run.clearing (run : Run Recording.engine e past s) (balanced : Balanced past)
    (isOpen : (s.connection c).isOpen = true) (all : order.Perm (s.connection c).programs) :
    Clearing s c order s := by
  have idle : Grip.Idle { connection := 0 } := ⟨rfl, rfl, rfl, rfl⟩
  have sound := run.sound idle
  have member {p : ProgramId} (hp : p ∈ order) := run.listed.member c p (all.mem_iff.1 hp)
  constructor
  case home => exact fun p hp => (member hp).1
  case isOpen => exact fun p hp => (member hp).2
  case nodup => exact all.nodup_iff.2 (run.listed.nodup c)
  case program => exact fun _ _ => rfl
  case held =>
    intro p hp h held
    have home : (s.statement h).connection = c :=
      (sound.homes.held p h held).home.trans (member hp).1
    exact ⟨rfl, sound.live h (.inr ⟨p, held⟩) (home.symm ▸ isOpen)⟩
  case unique => exact fun p _ q _ h => sound.custody.unique p q h
  case cache => rfl
  case funded =>
    have references := run.references_open balanced isOpen
    rw [run.listed.card sound.registry] at references
    rw [all.length_eq]
    omega
  case stocked => exact run.stocked

/-- A connection that was closed, with as many references as are outside: its programs are
closed, and what it has cached stays as long as there is a reference left. -/
structure ClosedDown (s : Store σ) (c : ConnectionId) (outside : Nat) (t : Store σ) : Prop where
  isOpen : (t.connection c).isOpen = false
  programs : (t.connection c).programs = []
  references : (t.connection c).references = outside
  cache : (t.connection c).cache =
    if outside = 0 then (s.connection c).cache.drain.2 else (s.connection c).cache
  closed : ∀ p, (t.program p).connection = c →
    (t.program p).isClosed = true ∧ (t.program p).held = none ∧ (t.program p).pending = []

/-- When the programs were swept, giving back the reference of the owner closes a connection
down. -/
theorem Emptied.closesDown (run : Run Recording.engine e past s) (balanced : Balanced past)
    (isOpen : (s.connection c).isOpen = true) (all : order.Perm (s.connection c).programs)
    (hu : Emptied s c order u) :
    ClosedDown s c (outside past c) ((releaseReference Recording.engine c).run u).2 := by
  have idle : Grip.Idle { connection := 0 } := ⟨rfl, rfl, rfl, rfl⟩
  have sound := run.sound idle
  have hc : c < (s.unlogged.shutting c).connections.next := by
    unfold shutting
    rw [next_withConnection]
    exact lt_of_isOpen isOpen
  have connection : u.connection c =
      { s.connection c with
        isOpen := false
        programs := []
        references := outside past c + 1 } := by
    have began : (s.unlogged.shutting c).connection c =
        { s.connection c with isOpen := false, programs := [] } :=
      (connection_withConnection ..).trans (if_pos ⟨rfl, lt_of_isOpen isOpen⟩)
    have references : (s.connection c).references - order.length = outside past c + 1 := by
      rw [run.references_open balanced isOpen, run.listed.card sound.registry, all.length_eq]
      omega
    refine (congrArg (fun s => s.connection c) hu.unlogged).trans ?_
    rw [connection_swept s false order hc, Connection.foldl_without, began]
    simp only [references, Bool.false_eq_true, if_false]
  have program (p : ProgramId) : ((releaseReference Recording.engine c).run u).2.program p =
      if p ∈ order then (s.program p).settle else s.program p := by
    refine (congrArg (fun ps => ps.get p) (releaseReference_keeps_programs u)).trans ?_
    refine (congrArg (fun s => s.program p) hu.unlogged).trans ?_
    exact program_swept s _ c false order p
  have last := releaseReference_connection (E := Recording.engine)
    (congrArg Connection.references connection)
  rw [connection] at last
  constructor
  case isOpen => rw [last, Bool.false_and]
  case programs => rw [last]
  case references => rw [last]
  case cache => rw [last]
  case closed =>
    intro p home
    rw [program] at home ⊢
    by_cases hp : p ∈ order
    · rw [if_pos hp]
      exact ⟨rfl, rfl, rfl⟩
    -- a program that was not on the list had been closed before
    · rw [if_neg hp] at home ⊢
      have closed : (s.program p).isClosed = true := by
        cases live : (s.program p).isClosed with
        | true => rfl
        | false =>
          have listed := (run.listed.mem_iff sound.registry c p).2 (mem_openPrograms.2 ⟨home, live⟩)
          exact absurd (all.mem_iff.2 listed) hp
      exact ⟨closed, sound.custody.closed p closed, (run.tidy p).closed closed⟩

/-- Two ways to end that differ in the events and in the order of the calls only. -/
structure SameEnd (s t u : Store Recording) : Prop where
  unlogged : t.unlogged = u.unlogged
  calls : ∃ xs ys, t.engine.log = s.engine.log ++ xs ∧ u.engine.log = s.engine.log ++ ys ∧
    xs.Perm ys

theorem Emptied.sameEnd (hu : Emptied s c order u) (hv : Emptied s c order' v)
    (perm : order.Perm order') :
    SameEnd s ((releaseReference Recording.engine c).run u).2
      ((releaseReference Recording.engine c).run v).2 := by
  have same : u.unlogged = v.unlogged := by
    rw [hu.unlogged, hv.unlogged, swept_perm s _ c perm]
  obtain ⟨-, unlogged, calls, left, right⟩ := (Oblivious.releaseReference c).agree same
  refine ⟨unlogged, order.flatMap (s.farewell c) ++ calls, order'.flatMap (s.farewell c) ++ calls,
    ?_, ?_, ?_⟩
  · rw [left, hu.log, List.append_assoc]
  · rw [right, hv.log, List.append_assoc]
  · exact (perm.flatMap_right _).append_right calls

/-- Closing an open connection of a balanced run succeeds and comes to the same, in whichever
order its programs are met, and whether or not they were closed by hand before. -/
theorem close_order_irrelevant (run : Run Recording.engine e past s) (balanced : Balanced past)
    (isOpen : (s.connection c).isOpen = true) (all : order.Perm (s.connection c).programs)
    (all' : order'.Perm (s.connection c).programs) :
    ∃ t u v, (closeInOrder Recording.engine c order).run s = (.ok (), t) ∧
      (closeInOrder Recording.engine c order').run s = (.ok (), u) ∧
      (closeByHand Recording.engine c order').run s = (.ok (), v) ∧
      ClosedDown s c (outside past c) t ∧ SameEnd s t u ∧ SameEnd s t v := by
  have perm := all.trans all'.symm
  have clearing := run.clearing balanced isOpen all'
  obtain ⟨t, swept, closes⟩ := closeInOrder_swept (run.clearing balanced isOpen all) isOpen
  obtain ⟨u, swept', closes'⟩ := closeInOrder_swept clearing isOpen
  obtain ⟨v, byHand, closesByHand⟩ := closeByHand_swept clearing isOpen all'
  refine ⟨_, _, _, closes.trans (Prod.ext ?_ rfl), closes'.trans (Prod.ext ?_ rfl),
    closesByHand.trans (Prod.ext ?_ rfl), swept.closesDown run balanced isOpen all,
    swept.sameEnd swept' perm, swept.sameEnd byHand perm⟩
  · exact releaseReference_stocked c swept.stocked
  · exact releaseReference_stocked c swept'.stocked
  · exact releaseReference_stocked c byHand.stocked

/-- The first two programs share a text, so the second has a statement of its own; the statement
of the third has left the cache, the fourth has none, and that of the fifth is never cached. One
reference is outside. -/
theorem close_order_irrelevant_mixed :
    ∃ past s, Run Recording.engine {} past s ∧
      (s.programs.positions.map fun p => ((s.program p).held, (s.program p).held.any s.isCached)) =
        [(some 0, true), (some 1, false), (some 2, false), (none, false), (some 3, false)] ∧
      ∃ t u v, (closeInOrder Recording.engine 0 [0, 1, 2, 3, 4]).run s = (.ok (), t) ∧
        (closeInOrder Recording.engine 0 [4, 2, 0, 3, 1]).run s = (.ok (), u) ∧
        (closeByHand Recording.engine 0 [4, 2, 0, 3, 1]).run s = (.ok (), v) ∧
        ClosedDown s 0 1 t ∧ SameEnd s t u ∧ SameEnd s t v := by
  have run := Run.ofActions (E := Recording.engine) (e := {})
    [.openDefault 0, .createCompiled 0 "INSERT", .createCompiled 0 "INSERT",
      .createCompiled 0 "DELETE", .evict 0 "DELETE", .createDeferred 0 "INSERT",
      .createCompiled 0 "SELECT", .acquireReference 0]
    (by decide +kernel)
  exact ⟨_, _, run, by decide +kernel,
    close_order_irrelevant run (by decide +kernel) (by decide +kernel) (by decide +kernel)
      (by decide +kernel)⟩

end Shutdown

end Store

end Prepared
