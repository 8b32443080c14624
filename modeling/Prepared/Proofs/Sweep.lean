import Prepared.Proofs.Closing
import Prepared.Proofs.Stock
import Prepared.Proofs.Unlogged

/-! Sweeping.

What closing a program changes is settled by the program and by what the cache stores, and it is
a different thing for each program. So programs may be closed in any order. -/
namespace Prepared

theorem Recording.strike_comm (r : Recording) (m n : StatementId) :
    (r.strike m).strike n = (r.strike n).strike m := by
  simp only [strike, List.filter_filter, Bool.and_comm]

/-- A program once it was closed. -/
def Program.settle (x : Program) : Program :=
  { x with held := none, pending := [], isClosed := true }

/-- A connection with one reference less, and without a program if that is taken off its list. -/
def Connection.without (unlist : Bool) (p : ProgramId) (x : Connection) :
    Connection :=
  { x with
    references := x.references - 1
    programs := if unlist then x.programs.filter (· != p) else x.programs }

namespace Store

open Operation

section Effects

variable (s t : Store Recording) (c : ConnectionId)

theorem withStatement_comm {h k : CompiledId} {f g : Compiled → Compiled}
    (comm : ∀ x, f (g x) = g (f x)) :
    (t.withStatement h f).withStatement k g = (t.withStatement k g).withStatement h f := by
  unfold withStatement
  by_cases same : h = k
  · subst same
    simp only [Table.modify_modify, comm]
  · rw [Table.modify_comm _ same]

/-- What a statement comes to that is given up: the cached one becomes idle, any other is
destroyed. -/
def parting (h : CompiledId) (x : Compiled) : Compiled :=
  if s.isCachedBy c h then { x with inUse := false } else { x with destroyed := true }

/-- What becomes of the engine when a statement is given up. -/
def bereaved (h : CompiledId) (r : Recording) : Recording :=
  if s.isCachedBy c h then r else r.strike (s.statement h).statement

/-- What giving up a statement of `s` makes of a store. -/
def yielded (h : CompiledId) : Store Recording :=
  { t.withStatement h (s.parting c h) with engine := s.bereaved c h t.engine }

/-- What giving up what a program of `s` holds makes of a store. -/
def vacated (p : ProgramId) : Store Recording :=
  match (s.program p).held with
  | some h => s.yielded t c h
  | none => t

/-- What closing a program of `s` makes of a store. -/
def cleared (unlist : Bool) (p : ProgramId) : Store Recording :=
  ((s.vacated t c p).withProgram p Program.settle).withConnection c (Connection.without unlist p)

/-- What closing programs of `s` one after the other makes of a store. -/
def swept (unlist : Bool) (ps : List ProgramId) : Store Recording :=
  ps.foldl (fun t p => s.cleared t c unlist p) t

/-- The calls by which a program of `s` gives up its statement. -/
def farewell (p : ProgramId) : List Call :=
  ((s.program p).held.filter fun h => !s.isCachedBy c h).toList.map fun h =>
    .destroy (s.statement h).statement

theorem yielded_cached {h : CompiledId} (cached : s.isCachedBy c h = true) :
    s.yielded t c h = t.withStatement h fun x => { x with inUse := false } := by
  have idle : s.parting c h = fun x => { x with inUse := false } :=
    funext fun x => if_pos cached
  unfold yielded bereaved
  rw [idle, if_pos cached]
  rfl

theorem yielded_uncached {h : CompiledId} (uncached : s.isCachedBy c h = false) :
    s.yielded t c h = { t.withStatement h fun x => { x with destroyed := true } with
      engine := t.engine.strike (s.statement h).statement } := by
  have other : ¬ s.isCachedBy c h = true := ne_true_of_eq_false uncached
  have gone : s.parting c h = fun x => { x with destroyed := true } :=
    funext fun x => if_neg other
  unfold yielded bereaved
  rw [gone, if_neg other]

variable {s t} in
/-- What giving up a statement comes to is settled by the statement and by what the cache
stores. -/
theorem yielded_congr (u : Store Recording) {c : ConnectionId} {h : CompiledId}
    (statement : t.statement h = s.statement h) (cached : t.isCachedBy c h = s.isCachedBy c h) :
    t.yielded u c h = s.yielded u c h := by
  have parting : t.parting c h = s.parting c h := by
    funext x
    unfold Store.parting
    rw [cached]
  have bereaved (r : Recording) : t.bereaved c h r = s.bereaved c h r := by
    unfold Store.bereaved
    rw [cached, statement]
  unfold yielded
  rw [parting, bereaved]

theorem parting_comm (h k : CompiledId) (x : Compiled) :
    s.parting c h (s.parting c k x) = s.parting c k (s.parting c h x) := by
  unfold parting
  cases s.isCachedBy c h <;> cases s.isCachedBy c k <;> rfl

theorem bereaved_comm (h k : CompiledId) (r : Recording) :
    s.bereaved c h (s.bereaved c k r) = s.bereaved c k (s.bereaved c h r) := by
  unfold bereaved
  cases s.isCachedBy c h <;> cases s.isCachedBy c k
  · exact r.strike_comm ..
  all_goals rfl

theorem yielded_comm (h k : CompiledId) :
    s.yielded (s.yielded t c h) c k = s.yielded (s.yielded t c k) c h := by
  show ({ (t.withStatement h (s.parting c h)).withStatement k (s.parting c k) with
      engine := s.bereaved c k (s.bereaved c h t.engine) } : Store Recording) =
    { (t.withStatement k (s.parting c k)).withStatement h (s.parting c h) with
      engine := s.bereaved c h (s.bereaved c k t.engine) }
  rw [withStatement_comm t (s.parting_comm c h k), bereaved_comm]

theorem vacated_comm (p q : ProgramId) :
    s.vacated (s.vacated t c p) c q = s.vacated (s.vacated t c q) c p := by
  unfold vacated
  cases (s.program p).held <;> cases (s.program q).held
  case some.some h k => exact s.yielded_comm t c h k
  all_goals rfl

theorem vacated_withProgram (p q : ProgramId) (f : Program → Program) :
    s.vacated (t.withProgram q f) c p = (s.vacated t c p).withProgram q f := by
  unfold vacated
  cases (s.program p).held <;> rfl

theorem vacated_withConnection (p : ProgramId) (d : ConnectionId) (f : Connection → Connection) :
    s.vacated (t.withConnection d f) c p = (s.vacated t c p).withConnection d f := by
  unfold vacated
  cases (s.program p).held <;> rfl

/-- Programs may be closed in any order. -/
theorem cleared_comm (p q : ProgramId) :
    s.cleared (s.cleared t c false p) c false q = s.cleared (s.cleared t c false q) c false p := by
  by_cases same : p = q
  · rw [same]
  -- the parts of the store that change do not depend on each other
  have parts (u : Store Recording) (p q : ProgramId) :
      s.cleared (s.cleared u c false p) c false q =
        (((s.vacated (s.vacated u c p) c q).withProgram p Program.settle).withProgram q
          Program.settle).withConnection c fun x =>
            (Connection.without false q (Connection.without false p x)) := by
    unfold cleared
    have swap (v : Store Recording) (f : Connection → Connection) :
        (v.withConnection c f).withProgram q Program.settle =
          (v.withProgram q Program.settle).withConnection c f := rfl
    rw [vacated_withConnection, vacated_withProgram, swap, withConnection_withConnection]
  rw [parts, parts, vacated_comm, withProgram_comm _ same]
  rfl

end Effects

/-! What closing a program does. -/

variable {s t : Store Recording} {c : ConnectionId} {h : CompiledId} {p : ProgramId}

/-- Destroying statements fails for none that is in stock. -/
theorem stocked_quiet : Quiet Recording.engine Stocked where
  events _ _ hs := hs.congr rfl rfl rfl
  cache _ _ _ hs := hs.congr rfl rfl rfl
  token s h b hs := by
    have later : Extends s (s.withStatement h fun x => { x with inUse := b }) :=
      .withStatement s h fun _ => rfl
    refine hs.of_old later (next_withStatement ..) rfl fun k live => hs.live k ?_
    rw [← live]
    exact (statement_part s h k (f := fun x => { x with inUse := b }) (fun x => x.destroyed)
      fun _ => rfl).symm
  struck s h live hs := by
    refine hs.step (.struck ..) (.destroyed h rfl live (next_withStatement ..) fun k => ?_)
    rw [statement_struck]
    split
    · next marked => simp [marked.1]
    · next unmarked =>
      have apart : k ≠ h := fun same => unmarked ⟨same, lt_of_not_destroyed live⟩
      simp [apart]
  destroys s h live hs := by
    show (s.engine.destroy (s.statement h).statement).1 = .ok ()
    rw [Recording.destroy_live (hs.live h live)]

/-- Giving up a statement that is not destroyed leaves the others in stock. -/
theorem Stocked.yielded (hs : Stocked t) (statement : t.statement h = s.statement h)
    (live : (s.statement h).destroyed = false) : Stocked (s.yielded t c h) := by
  cases cached : s.isCachedBy c h with
  | true =>
    rw [yielded_cached s t c cached]
    exact stocked_quiet.token t h false hs
  | false =>
    have struck := stocked_quiet.struck t h (statement ▸ live) hs
    have asked : (t.struck Recording.engine h).engine =
        (t.engine.strike (s.statement h).statement).record
          (.destroy (s.statement h).statement) := by
      show (t.engine.destroy (t.statement h).statement).2 = _
      rw [Recording.destroy_live (hs.live h (statement ▸ live)), statement]
    rw [yielded_uncached s t c cached]
    refine struck.congr rfl ?_ ?_
    all_goals
      rw [asked]
      rfl

/-- The cached statement becomes idle, any other is destroyed. -/
theorem relinquish_stocked (hs : Stocked t) (live : (t.statement h).destroyed = false) :
    ∃ es, (relinquish Recording.engine c h).run t =
      (.ok (), (t.yielded t c h).noted es
        (if t.isCachedBy c h then [] else [.destroy (t.statement h).statement])) := by
  cases cached : t.isCachedBy c h with
  | true =>
    obtain ⟨es, traced⟩ := trace_run (ε := EngineError) c (.released (t.statement h).statement)
      (t.withStatement h fun x => { x with inUse := false })
    refine ⟨es, ?_⟩
    simp only [relinquish, run_bind, run_read, cached, if_true, unclaim, run_change]
    rw [traced, yielded_cached t t c cached]
    simp [noted]
  | false =>
    obtain ⟨es, traced⟩ := trace_run (ε := EngineError) c (.destroyed (t.statement h).statement) t
    refine ⟨es, ?_⟩
    have destroyed := Recording.destroy_live (hs.live h live)
    let u : Store Recording := { t with events := t.events ++ es }
    have run : (destroy Recording.engine h).run u =
        ((t.engine.destroy (t.statement h).statement).1,
          { u.withStatement h fun x => { x with destroyed := true } with
            engine := (t.engine.destroy (t.statement h).statement).2 }) := by
      have unmarked : (u.statement h).destroyed = false := live
      simp only [destroy, run_bind, run_read, run_ite, unmarked, run_change]
      rfl
    simp only [relinquish, run_bind, run_read, cached, Bool.false_eq_true, if_false, traced]
    refine run.trans ?_
    rw [destroyed, yielded_uncached t t c cached]
    rfl

/-! The parts of a store once a program was closed. -/

theorem vacated_parts (s t : Store Recording) (c : ConnectionId) (p : ProgramId) :
    (s.vacated t c p).connections = t.connections ∧ (s.vacated t c p).programs = t.programs ∧
      (s.vacated t c p).events = t.events ∧ (s.vacated t c p).engine.log = t.engine.log := by
  unfold vacated yielded bereaved
  cases (s.program p).held with
  | none => exact ⟨rfl, rfl, rfl, rfl⟩
  | some h =>
    refine ⟨rfl, rfl, rfl, ?_⟩
    dsimp only
    split <;> rfl

theorem connection_cleared (s t : Store Recording) (c : ConnectionId) (unlist : Bool)
    (p : ProgramId) (hc : c < t.connections.next) :
    (s.cleared t c unlist p).connection c = (t.connection c).without unlist p := by
  have same : (s.vacated t c p).connections = t.connections := (vacated_parts s t c p).1
  have read : ((s.vacated t c p).withProgram p Program.settle).connection c = t.connection c :=
    congrArg (fun cs => cs.get c) same
  unfold cleared
  rw [connection_withConnection, read]
  exact if_pos ⟨rfl, by
    show c < (s.vacated t c p).connections.next
    rw [same]
    exact hc⟩

theorem program_cleared (s t : Store Recording) (c : ConnectionId) (unlist : Bool)
    (p q : ProgramId) :
    (s.cleared t c unlist p).program q =
      if q = p then (t.program q).settle else t.program q := by
  have same : (s.vacated t c p).programs = t.programs := (vacated_parts s t c p).2.1
  have read : (s.vacated t c p).program q = t.program q := congrArg (fun ps => ps.get q) same
  show ((s.vacated t c p).withProgram p Program.settle).program q = _
  rw [program_withProgram, read, same]
  by_cases hq : q = p
  · subst hq
    by_cases exists_ : q < t.programs.next
    · rw [if_pos ⟨rfl, exists_⟩, if_pos rfl]
    -- a program that was never created reads as closed already
    · have absent : t.program q = default := Table.get_of_le _ (Nat.le_of_not_lt exists_)
      rw [if_neg fun h => exists_ h.2, if_pos rfl, absent]
      rfl
  · rw [if_neg fun h => hq h.1, if_neg hq]

theorem statement_cleared_of_ne (s t : Store Recording) (c : ConnectionId) (unlist : Bool)
    {p : ProgramId} {k : CompiledId} (other : (s.program p).held ≠ some k) :
    (s.cleared t c unlist p).statement k = t.statement k := by
  show (s.vacated t c p).statement k = _
  unfold vacated
  cases held : (s.program p).held with
  | none => rfl
  | some h =>
    have apart : k ≠ h := by
      intro same
      subst same
      exact other held
    show (t.withStatement h _).statement k = _
    exact statement_withStatement_of_ne apart _

/-- What closing a program changes does not depend on what is on record. -/
theorem unlogged_cleared (s t : Store Recording) (c : ConnectionId) (unlist : Bool)
    (p : ProgramId) : (s.cleared t c unlist p).unlogged = s.cleared t.unlogged c unlist p := by
  unfold cleared vacated yielded bereaved
  cases (s.program p).held with
  | none => rfl
  | some h =>
    dsimp only
    cases s.isCachedBy c h <;> rfl

/-- Programs of `s` that are yet to be closed, in a store in which others were closed. -/
structure Clearing (s : Store Recording) (c : ConnectionId) (ps : List ProgramId)
    (t : Store Recording) : Prop where
  home : ∀ p ∈ ps, (s.program p).connection = c
  isOpen : ∀ p ∈ ps, (s.program p).isClosed = false
  nodup : ps.Nodup
  program : ∀ p ∈ ps, t.program p = s.program p
  held : ∀ p ∈ ps, ∀ h, (s.program p).held = some h →
    t.statement h = s.statement h ∧ (s.statement h).destroyed = false
  unique : ∀ p ∈ ps, ∀ q ∈ ps, ∀ h,
    (s.program p).held = some h → (s.program q).held = some h → p = q
  cache : (t.connection c).cache = (s.connection c).cache
  funded : ps.length < (t.connection c).references
  stocked : Stocked t

namespace Clearing

variable {ps : List ProgramId}

theorem vacates (hs : Clearing s c (p :: ps) t) :
    ∃ es, (relinquishHeld Recording.engine p).run
        (t.withProgram p fun x => { x with pending := [], isClosed := true }) =
      (.ok (), ((s.vacated t c p).withProgram p Program.settle).noted es (s.farewell c p)) := by
  have mem : p ∈ p :: ps := List.mem_cons_self ..
  let u := t.withProgram p fun x => { x with pending := [], isClosed := true }
  have own : (u.program p).held = (s.program p).held :=
    (program_part t p p (f := fun x => { x with pending := [], isClosed := true })
      (fun x => x.held) fun _ => rfl).trans (by rw [hs.program p mem])
  have home : (u.program p).connection = c :=
    (program_part t p p (f := fun x => { x with pending := [], isClosed := true })
      (fun x => x.connection) fun _ => rfl).trans (by rw [hs.program p mem, hs.home p mem])
  cases held : (s.program p).held with
  | none =>
    have settled : u = t.withProgram p Program.settle := withProgram_congr (by
      rw [Program.settle, hs.program p mem, held])
    refine ⟨[], ?_⟩
    rw [relinquishHeld_none (own.trans held)]
    simp only [vacated, farewell, held, Option.filter_none, Option.toList_none, List.map_nil,
      noted_nil]
    exact congrArg _ settled
  | some h =>
    obtain ⟨statement, live⟩ := hs.held p mem h held
    let v := t.withProgram p Program.settle
    have settled : u.withProgram p (fun x => { x with held := none }) = v :=
      withProgram_withProgram ..
    have cached : v.isCachedBy c h = s.isCachedBy c h := by
      show (t.connection c).cache.holds (t.statement h).sql h = _
      rw [hs.cache, statement]
      rfl
    have parted : v.yielded v c h = (s.yielded t c h).withProgram p Program.settle :=
      yielded_congr v statement cached
    have stocked : Stocked v := hs.stocked.congr rfl rfl rfl
    have undestroyed : (v.statement h).destroyed = false :=
      (congrArg Compiled.destroyed statement).trans live
    obtain ⟨es, run⟩ := relinquish_stocked (c := c) stocked undestroyed
    refine ⟨es, ?_⟩
    have number : (v.statement h).statement = (s.statement h).statement :=
      congrArg Compiled.statement statement
    rw [relinquishHeld_some (own.trans held), home, settled, run, parted, cached, number]
    simp only [vacated, farewell, held, Option.filter_some]
    cases s.isCachedBy c h <;> rfl

/-- A program leaves a connection that keeps other references. -/
theorem leave_run {u : Store Recording} {n : Nat} (home : (u.program p).connection = c)
    (more : (u.connection c).references = n + 2) (unlist : Bool) :
    (do
      if unlist then deregister p
      releaseReference Recording.engine c : Op Recording EngineError Unit).run u =
        (.ok (), u.withConnection c (Connection.without unlist p)) := by
  have released {f : Connection → Connection} (hf : ∀ x, (f x).references = x.references) :
      (releaseReference Recording.engine c).run (u.withConnection c f) =
        (.ok (), u.withConnection c fun x => { f x with references := x.references - 1 }) := by
    have same : ((u.withConnection c f).connection c).references = n + 2 := by
      rw [connection_part u c c (fun x => x.references) hf, more]
    rw [releaseReference_more same, withConnection_withConnection]
    refine congrArg _ (withConnection_congr ?_)
    rw [more]
    rfl
  cases unlist with
  | true =>
    have unlisted : (deregister p : Op Recording EngineError Unit).run u =
        (.ok (), u.withConnection c fun x =>
          { x with programs := x.programs.filter (· != p) }) := by
      rw [← home]
      rfl
    simp only [if_true, run_bind, unlisted]
    exact released fun _ => rfl
  | false =>
    have same : u.withConnection c (fun x => x) = u := withConnection_self rfl
    have gives := released (f := fun x => x) fun _ => rfl
    rw [same] at gives
    exact gives

/-- A program that is closed changes what it is to change. -/
theorem tearsDown (hs : Clearing s c (p :: ps) t) (unlist : Bool) :
    ∃ es, (tearDown Recording.engine unlist p).run t =
      (.ok (), (s.cleared t c unlist p).noted es (s.farewell c p)) := by
  have mem : p ∈ p :: ps := List.mem_cons_self ..
  have live : (t.program p).isClosed = false := by rw [hs.program p mem, hs.isOpen p mem]
  have home : (t.program p).connection = c := by rw [hs.program p mem, hs.home p mem]
  obtain ⟨es, vacated⟩ := hs.vacates
  let u := ((s.vacated t c p).withProgram p Program.settle).noted es (s.farewell c p)
  have connection : u.connection c = t.connection c :=
    congrArg (fun cs => cs.get c) (vacated_parts s t c p).1
  have own : (u.program p).connection = c := by
    refine Eq.trans ?_ home
    show (((s.vacated t c p).withProgram p Program.settle).program p).connection = _
    rw [program_part _ p p (f := Program.settle) (fun x => x.connection) fun _ => rfl]
    exact congrArg (fun ps => (ps.get p).connection) (vacated_parts s t c p).2.1
  -- the last reference is not among those that programs give back
  obtain ⟨n, more⟩ : ∃ n, (t.connection c).references = n + 2 :=
    ⟨(t.connection c).references - 2, by
      have funded := hs.funded
      rw [List.length_cons] at funded
      omega⟩
  refine ⟨es, ?_⟩
  rw [tearDown_open live, home]
  simp only [both, vacated]
  exact leave_run own (connection.symm ▸ more) unlist

/-- The programs that are left are as they were. -/
theorem tail (hs : Clearing s c (p :: ps) t) (unlist : Bool) (es : List Event) :
    Clearing s c ps ((s.cleared t c unlist p).noted es (s.farewell c p)) := by
  obtain ⟨notMem, nodup⟩ := List.nodup_cons.1 hs.nodup
  have mem {q : ProgramId} (hq : q ∈ ps) : q ∈ p :: ps := List.mem_cons_of_mem _ hq
  have apart {q : ProgramId} (hq : q ∈ ps) : q ≠ p := fun same => notMem (same ▸ hq)
  have funded := hs.funded
  rw [List.length_cons] at funded
  have exists_ : c < t.connections.next := lt_of_references (by omega)
  have connection := connection_cleared s t c unlist p exists_
  constructor
  case home => exact fun q hq => hs.home q (mem hq)
  case isOpen => exact fun q hq => hs.isOpen q (mem hq)
  case nodup => exact nodup
  case program =>
    intro q hq
    show (s.cleared t c unlist p).program q = _
    rw [program_cleared, if_neg (apart hq)]
    exact hs.program q (mem hq)
  case held =>
    intro q hq h held
    refine ⟨?_, (hs.held q (mem hq) h held).2⟩
    show (s.cleared t c unlist p).statement h = _
    rw [statement_cleared_of_ne s t c unlist fun same =>
      apart hq (hs.unique q (mem hq) p (List.mem_cons_self ..) h held same)]
    exact (hs.held q (mem hq) h held).1
  case unique => exact fun q hq r hr => hs.unique q (mem hq) r (mem hr)
  case cache =>
    show ((s.cleared t c unlist p).connection c).cache = _
    rw [connection]
    exact hs.cache
  case funded =>
    show ps.length < ((s.cleared t c unlist p).connection c).references
    rw [connection]
    show ps.length < (t.connection c).references - 1
    omega
  case stocked =>
    have vacated : Stocked (s.vacated t c p) := by
      unfold Store.vacated
      cases held : (s.program p).held with
      | none => exact hs.stocked
      | some h =>
        obtain ⟨statement, live⟩ := hs.held p (List.mem_cons_self ..) h held
        exact hs.stocked.yielded statement live
    exact vacated.congr rfl rfl rfl

/-- Programs are closed one after the other, whether or not they are taken off their list. -/
theorem sweep (hs : Clearing s c ps t) (unlist : Bool) :
    ∃ u, (forAll (tearDown Recording.engine unlist) ps).run t = (.ok (), u) ∧
      u.unlogged = s.swept t.unlogged c unlist ps ∧
      u.engine.log = t.engine.log ++ ps.flatMap (s.farewell c) ∧ Clearing s c [] u := by
  induction ps generalizing t with
  | nil => exact ⟨t, rfl, rfl, (List.append_nil _).symm, hs⟩
  | cons p ps ih =>
    obtain ⟨es, run⟩ := hs.tearsDown unlist
    obtain ⟨u, rest, unlogged, log, cleared⟩ := ih (hs.tail unlist es)
    refine ⟨u, ?_, ?_, ?_, cleared⟩
    · simp only [forAll, both, run]
      exact rest
    · rw [unlogged, unlogged_noted, unlogged_cleared]
      rfl
    · have recorded : ((s.cleared t c unlist p).noted es (s.farewell c p)).engine.log =
          t.engine.log ++ s.farewell c p :=
        congrArg (· ++ s.farewell c p) (vacated_parts s t c p).2.2.2
      rw [log, recorded, List.append_assoc, List.flatMap_cons]

end Clearing

end Store

end Prepared
