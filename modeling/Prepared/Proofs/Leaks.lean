import Prepared.Engine.Faults
import Prepared.Engine.Recording
import Prepared.Proofs.Accounts
import Prepared.Proofs.Requests
import Prepared.Proofs.Whereabouts

/-! No statement leaks.

A connection that was closed is closed for good, so at the end of a balanced run the only
references that it can have left are those outside. When these are given back as well, its
cache is empty, nobody has any of its statements, and all of them were destroyed. -/
namespace Prepared.Store

variable {σ : Type} {E : Engine σ} {s t : Store σ} {g : Grip} {c : ConnectionId}

/-- A connection is closed after every run in which it was to be closed. -/
theorem Run.closed {e : σ} {past : List (Step σ)} (run : Run E e past s) {x : Step σ}
    (hx : x ∈ past) {order : List ProgramId} (closes : x.action = .closeConnection c order) :
    c < s.connections.next ∧ (s.connection c).isOpen = false := by
  induction run with
  | start => nomatch hx
  | @step past s a run allowed ih =>
    have idle : Grip.Idle { connection := 0 } := ⟨rfl, rfl, rfl, rfl⟩
    let I (m : Moment σ) : Prop := c < m.store.connections.next ∧ (m.store.connection c).isOpen = false
    have moves := a.moves (E := E) (run.sound idle).registered allowed
    rcases List.mem_cons.1 hx with rfl | old
    · change a = .closeConnection c order at closes
      subst closes
      have exists_ : c < s.connections.next := lt_of_clones allowed.1
      refine ⟨?_, closeInOrder_closes c order s⟩
      exact moves.invariant (I := fun m => c < m.store.connections.next)
        (fun _ _ hm hc => Nat.lt_of_lt_of_le hc hm.extends.connections) exists_
    · exact moves.invariant (I := I)
        (fun _ _ hm hs => ⟨Nat.lt_of_lt_of_le hs.1 hm.extends.connections, hm.closed hs.1 hs.2⟩)
        (ih old)

/-- A statement that is not destroyed is cached by its connection or held by an open program,
unless only those who looked it up keep it. -/
theorem Conserved.found_idle (hs : Conserved ⟨s, g⟩) (idle : g.Idle) {h : CompiledId}
    (hd : (s.statement h).destroyed = false) :
    ((s.statement h).sql, h) ∈ (s.connection (s.statement h).connection).cache.entries ∨
      (∃ p, (s.program p).isClosed = false ∧ (s.program p).held = some h) ∨ Lent s h := by
  rcases hs.found h hd with (⟨d, e, hm, rfl⟩ | loose) | (hand | ⟨p, hp⟩) | lent
  · obtain ⟨hb, sql⟩ := hs.sound.homes.entry d e hm
    left
    change (s.statement e.2).sql = e.1 at sql
    rw [hb.home, sql]
    exact hm
  · rw [show (⟨s, g⟩ : Moment σ).grip.loose = [] from idle.loose] at loose
    nomatch loose
  · exact absurd (idle.hand.symm.trans hand) nofun
  · exact .inr (.inl ⟨p, hs.sound.custody.live_of_held hp, hp⟩)
  · exact .inr (.inr lent)

/-- All statements of a connection that has no references and no open programs were
destroyed. -/
theorem Conserved.all_destroyed (hs : Conserved ⟨s, g⟩) (idle : g.Idle)
    (released : (s.connection c).references = 0)
    (closed : ∀ p, (s.program p).connection = c → (s.program p).isClosed = true)
    {h : CompiledId} (home : (s.statement h).connection = c) :
    (s.statement h).destroyed = true := by
  rw [← Bool.not_eq_false]
  intro hd
  rcases hs.found_idle idle hd with cached | ⟨p, live, held⟩ | lent
  · have empty : (s.connection c).cache.entries = [] := (hs.drained c released).2
    rw [home, empty] at cached
    nomatch cached
  · have hb : Belongs s h (s.program p).connection := hs.sound.homes.held p h held
    exact absurd (live.symm.trans (closed p (hb.home.symm.trans home))) (by decide)
  · exact lent.references (home ▸ released)

/-- All statements of a connection that nothing refers to were destroyed, except what somebody
has looked up. -/
theorem Conserved.destroyed_of_unreferenced (hs : Conserved ⟨s, g⟩) (idle : g.Idle)
    (gone : s.isReferenced c = false) {h : CompiledId} (home : (s.statement h).connection = c)
    (unborrowed : (s.statement h).borrowers = 0) : (s.statement h).destroyed = true := by
  rw [← Bool.not_eq_false]
  intro hd
  rcases hs.found_idle idle hd with cached | ⟨p, live, held⟩ | lent
  · rcases hs.vacant c gone with empty | ⟨leaving, -⟩
    · change (s.connection c).cache.entries = [] at empty
      rw [home, empty] at cached
      nomatch cached
    · exact absurd (idle.leaving.symm.trans leaving) (by decide)
  · have hb : Belongs s h (s.program p).connection := hs.sound.homes.held p h held
    have used : (s.program p).isDropped = false := by
      cases hx : (s.program p).isDropped with
      | false => rfl
      | true => exact absurd (live.symm.trans (hs.sound.custody.dropped p hx)) (by decide)
    have referenced := isReferenced_iff.2 (.inr ⟨p, hb.home.symm.trans home, used⟩)
    exact absurd (gone.symm.trans referenced) (by decide)
  · exact absurd lent.borrowed (by rw [unborrowed]; decide)

/-- At the end of a balanced run, a connection that was closed has no references left but those
outside, and no open programs. -/
theorem Settled.closed {outside : ConnectionId → Nat} (hs : Settled outside ⟨s, g⟩)
    (idle : g.Idle) (none : g.owed = 0) (ho : (s.connection c).isOpen = false) :
    (s.connection c).references = outside c ∧
      ∀ p, (s.program p).connection = c → (s.program p).isClosed = true := by
  have closed (p : ProgramId) (home : (s.program p).connection = c) :
      (s.program p).isClosed = true := by
    rw [← Bool.not_eq_false]
    intro live
    rcases hs.swept p live with open_ | sweep
    · change (s.connection (s.program p).connection).isOpen = true at open_
      rw [home, ho] at open_
      nomatch open_
    · rw [show (⟨s, g⟩ : Moment σ).grip.sweep = [] from idle.sweep] at sweep
      nomatch sweep
  refine ⟨?_, closed⟩
  have empty : s.openPrograms c = ∅ := by
    apply Finset.eq_empty_of_forall_notMem
    intro p hp
    obtain ⟨home, live⟩ := mem_openPrograms.1 hp
    exact absurd (live.symm.trans (closed p home)) (by decide)
  have owes : g.owes c = 0 := by
    unfold Grip.owes
    rw [none, ite_self]
  have account := hs.balances c
  dsimp only at account
  rw [ho, empty, owes] at account
  rw [account]
  simp

/-- If no statement was given out twice, the requests to destroy one statement are counted by
its entry. -/
theorem Issued.count_destroyed {s : Store (Logged σ)} (hs : Issued s)
    (once : IssuesOnce s.engine.log) {ds : List CompiledId} (nodup : ds.Nodup)
    (given : ∀ h ∈ ds, h < s.compiled.next) {h : CompiledId} (hh : h < s.compiled.next) :
    (ds.map s.native).count (s.native h) = ds.count h := by
  have distinct : (ds.map s.native).Nodup :=
    nodup.map_on fun k hk l hl same => hs.distinct once (given k hk) (given l hl) same
  rw [distinct.count, nodup.count]
  refine if_congr ?_ rfl rfl
  rw [List.mem_map]
  constructor
  · intro found
    obtain ⟨k, hk, same⟩ := found
    rw [← hs.distinct once (given k hk) hh same]
    exact hk
  · intro hm
    exact ⟨h, hm, rfl⟩

/-- After every run, a statement of a connection in use that is not marked as destroyed is
cached by that connection or held by a program that is not closed. Every request to destroy a
statement is about a compiled one, which if the engines give out no statement twice can be
told from the request; there was exactly one such request for each statement of a connection
that was closed, if the run is balanced and no reference is left outside, and for each
statement of a connection that nothing refers to, except those that are looked up. -/
theorem no_leaked_statement {e : σ} {past : List (Step (Logged σ))} {s : Store (Logged σ)}
    (run : Run E.logged ⟨e, []⟩ past s) :
    (∀ h, (s.statement h).destroyed = false →
      s.isReferenced (s.statement h).connection = true →
      ((s.statement h).sql, h) ∈ (s.connection (s.statement h).connection).cache.entries ∨
        ∃ p, (s.program p).isClosed = false ∧ (s.program p).held = some h) ∧
    ∃ ds : List CompiledId,
      s.engine.log.filterMap Sent.destroyed? = ds.map s.native ∧
      (IssuesOnce s.engine.log → ∀ h < s.compiled.next,
        (s.engine.log.filterMap Sent.destroyed?).count (s.native h) = ds.count h) ∧
      (Balanced past → ∀ c order, (∃ x ∈ past, x.action = .closeConnection c order) →
        outside past c = 0 →
        ∀ h < s.compiled.next, (s.statement h).connection = c → ds.count h = 1) ∧
      (∀ h < s.compiled.next, s.isReferenced (s.statement h).connection = false →
        (s.statement h).borrowers = 0 → ds.count h = 1) := by
  let g : Grip := { connection := 0 }
  have idle : g.Idle := ⟨rfl, rfl, rfl, rfl⟩
  have conserved := run.conserved idle
  have hr := run.recorded idle
  obtain ⟨ds, nodup, mem, log⟩ := hr.destroyed
  have once {h : CompiledId} (hh : h < s.compiled.next) (hd : (s.statement h).destroyed = true) :
      ds.count h = 1 :=
    List.count_eq_one_of_mem nodup ((mem h).2 ⟨hh, hd⟩)
  refine ⟨fun h hd referenced => ?_, ds, log, fun fresh h hh => ?_,
    fun balanced c order ⟨x, hx, closes⟩ none h hh home => once hh ?_,
    fun h hh gone unborrowed => once hh ?_⟩
  · rcases conserved.found_idle idle hd with cached | held | lent
    · exact .inl cached
    · exact .inr held
    · exact absurd (lent.unreferenced.symm.trans referenced) (by decide)
  · rw [log]
    exact hr.issued.count_destroyed fresh nodup (fun k hk => ((mem k).1 hk).1) hh
  · obtain ⟨released, closed⟩ :=
      (run.settled balanced g idle rfl).closed idle rfl (run.closed hx closes).2
    exact conserved.all_destroyed idle (released.trans none) closed home
  · exact conserved.destroyed_of_unreferenced idle gone rfl unborrowed

/-- A connection is closed while its program is in use and its statement is looked up, with a
reference outside that is given back later, by when the request to destroy the statement
fails; another connection goes out of use without having been closed. -/
theorem no_leaked_statement_released :
    ∃ past s, Run Recording.engine.withFaults.logged
        ⟨⟨{}, [⟨.destroy, 0, .native "busy"⟩]⟩, []⟩ past s ∧
      (s.program 0).isDropped = false ∧ 0 < (s.statement 0).borrowers ∧
      ∃ ds : List CompiledId, s.engine.log.filterMap Sent.destroyed? = ds.map s.native ∧
        ds.count 0 = 1 ∧ ds.count 1 = 1 := by
  have run := Run.ofActions (E := Recording.engine.withFaults.logged)
    (e := ⟨⟨{}, [⟨.destroy, 0, .native "busy"⟩]⟩, []⟩)
    [.openDefault 0, .acquireReference 0, .createCompiled 0 "INSERT", .lookup 0 "INSERT",
      .closeConnection 0 [0], .releaseReference 0,
      .openDefault 0, .createCompiled 1 "INSERT", .dropProgram 1, .dropConnection 1]
    (by decide +kernel)
  obtain ⟨-, ds, log, -, closed, dropped⟩ := no_leaked_statement run
  refine ⟨_, _, run, by decide +kernel, by decide +kernel, ds, log, ?_, ?_⟩
  · exact closed (by decide +kernel) 0 [0] (by decide +kernel) (by decide +kernel) 0
      (by decide +kernel) (by decide +kernel)
  · exact dropped 1 (by decide +kernel) (by decide +kernel) (by decide +kernel)

end Prepared.Store
