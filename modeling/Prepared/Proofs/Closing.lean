import Prepared.Proofs.Outline

/-! Closing, as it shows.

Giving up a statement does not show. So programs and connections are closed without failure, and
what that comes to can be read off the outline of the store. -/
namespace Prepared

namespace Store

open Operation Sql

section Quiet

variable {σ ε : Type} {E : Engine σ} {I : Store σ → Prop} {c : ConnectionId} {h : CompiledId}

/-- A calm assertion under which statements are destroyed without failure. -/
structure Quiet (E : Engine σ) (I : Store σ → Prop) : Prop extends Calm E I where
  destroys : ∀ s h, (s.statement h).destroyed = false → I s →
    (E.run (s.statement h).engine (.destroy (s.statement h).statement) s.engine).1 = .ok ()

namespace Quiet

theorem destroyed (hI : Quiet E I) (h : CompiledId) :
    Succeeds I (destroy E h) fun _ => I := by
  intro s hs
  cases hd : (s.statement h).destroyed with
  | true =>
    rw [destroy_gone hd]
    exact ⟨(), rfl, hs⟩
  | false =>
    have run : (destroy E h).run s =
        ((E.run (s.statement h).engine (.destroy (s.statement h).statement) s.engine).1,
          s.struck E h) := by
      simp only [destroy, run_bind, run_read, run_ite, hd, run_change]
      rfl
    rw [run]
    exact ⟨(), hI.destroys s h hd hs, hI.struck s h hd hs⟩

theorem trace_bind {α : Type} {e : Event} {k : Unit → Op σ ε α} {Q : α → Store σ → Prop}
    (hI : Quiet E I) (hk : Succeeds I (k ()) Q) : Succeeds I (trace c e >>= k) Q :=
  Ensures.trace_bind hI.events hk

theorem discard (hI : Quiet E I) (h : CompiledId) :
    Succeeds I (discard E h) fun _ => I := by
  refine .read_bind fun x => .ite (fun _ => .change fun s hs => ?_) fun _ => ?_
  · exact hI.events s _ hs.1
  · exact .change_bind (M := I) (fun s hs => hI.events s _ hs.1) (hI.destroyed h)

theorem relinquish (hI : Quiet E I) (h : CompiledId) :
    Succeeds I (relinquish E c h) fun _ => I := by
  refine .read_bind fun x => .read_bind fun cached => .ite (fun _ => ?_) fun _ => ?_
  · refine .change_bind (M := I) (fun s hs => hI.token s h false hs.1.1) ?_
    intro s hs
    obtain ⟨es, traced⟩ := trace_run (ε := EngineError) c (.released x.statement) s
    rw [traced]
    exact ⟨(), rfl, hI.events s es hs⟩
  · exact .pre (hI.trace_bind (hI.destroyed h)) fun _ hs => hs.1.1

/-- What leaves the cache for good is destroyed or left alone. -/
theorem dropUnreferenced (hI : Quiet E I) (h : CompiledId) :
    Succeeds I (dropUnreferenced E h : Op σ ε Unit) fun _ => I := by
  refine .read_bind fun x => .read_bind fun referenced => .ite (fun _ => ?_) fun _ => ?_
  · exact .pure fun _ hs => hs.1.1
  · intro s hs
    obtain ⟨_, t, run, ht⟩ := (hI.destroyed h).run_eq hs.1.1
    simp only [run_bind, attempt, run]
    exact ⟨(), rfl, ht⟩

theorem dropConnectionIfUnreferenced (hI : Quiet E I) :
    Succeeds I (dropConnectionIfUnreferenced E c : Op σ ε Unit) fun _ => I := by
  refine .read_bind fun referenced => .ite (fun _ => .pure fun _ => And.left) fun _ => ?_
  refine Ensures.onCache_bind (Q := fun _ => I) (fun s hs => hI.cache s c _ hs.1) fun out => ?_
  exact Succeeds.forAll (I := fun _ => I) (fun h _ => hI.dropUnreferenced h) out

/-- A connection that is closed for good gives up what it has cached. -/
theorem retire (hI : Quiet E I) :
    Succeeds (fun s => I (s.withConnection c fun x => { x with isOpen := false })) (retire E c)
      fun _ => I := by
  refine .change_bind (M := I) (fun _ => id) ?_
  refine Ensures.onCache_bind (Q := fun _ => I) (fun s hs => hI.cache s c _ hs) fun out =>
    hI.trace_bind ?_
  exact Succeeds.forAll (I := fun _ => I) (fun h _ => hI.destroyed h) out

end Quiet

end Quiet

variable {δ : Type} {L : Library δ} {T : Terms L} {s t : Store (Engines δ)} {o : Store δ}
  {h : CompiledId} {c : ConnectionId} {p : ProgramId}

theorem looks_quiet (T : Terms L) (o : Store δ) : Quiet L.engine (Looks T o) where
  events _ es hs := hs.events es
  cache _ c f hs := hs.withCache c f
  token _ h b hs := hs.token h b
  struck _ _ live hs := hs.struck live
  destroys _ _ live hs := (hs.tuned.engaged.struck live).2

theorem Looks.released (hs : Looks T o s) (c : ConnectionId) :
    Looks T (o.released c) (s.released c) :=
  hs.withConnection c (fun _ => rfl) fun _ => rfl

theorem releaseReference_looks (c : ConnectionId) :
    Succeeds (Looks T o) (releaseReference L.engine c) fun _ => Looks T (o.released c) := by
  intro s hs
  match hn : (s.connection c).references with
  | 0 =>
    rw [releaseReference_none hn]
    have same : s.released c = s := withConnection_self (by
      rcases hx : s.connection c with ⟨engine, logs, isOpen, references, cache, programs, clones⟩
      rw [hx] at hn
      simp [Connection.give, show references = 0 from hn])
    have shown := hs.released c
    rw [same] at shown
    exact ⟨(), rfl, shown⟩
  | 1 =>
    rw [releaseReference_last hn]
    -- the connection is closed before its statements go
    have same : (s.withConnection c fun x => { x with references := 0 }).withConnection c
        (fun x => { x with isOpen := false }) = s.released c := by
      rw [withConnection_withConnection]
      exact withConnection_congr (by simp [Connection.give, hn])
    have closing : Looks T (o.released c)
        ((s.withConnection c fun x => { x with references := 0 }).withConnection c
          fun x => { x with isOpen := false }) := by
      rw [same]
      exact hs.released c
    exact (looks_quiet T (o.released c)).retire _ closing
  | n + 2 =>
    rw [releaseReference_more hn]
    have same : s.withConnection c (fun x => { x with references := n + 1 }) = s.released c :=
      withConnection_congr (by simp [Connection.give, hn])
    rw [same]
    exact ⟨(), rfl, hs.released c⟩

theorem relinquishHeld_looks (p : ProgramId) :
    Succeeds (Looks T o) (relinquishHeld L.engine p)
      fun _ => Looks T (o.withProgram p fun x => { x with held := none }) := by
  intro s hs
  have given : Looks T (o.withProgram p fun x => { x with held := none })
      (s.withProgram p fun x => { x with held := none }) :=
    hs.withProgram p (fun _ => rfl) (fun _ => rfl) fun _ => .inr rfl
  cases hh : (s.program p).held with
  | none =>
    rw [relinquishHeld_none hh]
    have same : s.withProgram p (fun x => { x with held := none }) = s := withProgram_self (by
      rcases hx : s.program p with ⟨connection, sql, kind, held, pending, isClosed, isDropped⟩
      rw [hx] at hh
      simp [show held = none from hh])
    rw [same] at given
    exact ⟨(), rfl, given⟩
  | some h =>
    rw [relinquishHeld_some hh]
    exact (looks_quiet T _).relinquish h _ given

theorem deregister_looks (home : (o.program p).connection = c) :
    Succeeds (Looks T o) (deregister p : Op (Engines δ) EngineError Unit) fun _ =>
      Looks T (o.withConnection c fun x => { x with programs := x.programs.filter (· != p) }) := by
  refine .read_bind fun x => .change fun s hs => ?_
  obtain ⟨hs, rfl⟩ := hs
  have same : (s.program p).connection = c := by
    rw [← home, hs.program]
    rfl
  rw [same]
  exact hs.withConnection c (fun _ => rfl) fun _ => rfl

theorem tearDown_looks (unlist : Bool) (p : ProgramId) :
    Succeeds (Looks T o) (tearDown L.engine unlist p)
      fun _ => Looks T (o.tornDown unlist p) := by
  intro s hs
  have closed := hs.program_part p (fun x => x.isClosed) fun _ => rfl
  have home := hs.program_part p (fun x => x.connection) fun _ => rfl
  unfold tornDown
  rw [closed, home]
  cases hc : (s.program p).isClosed with
  | true =>
    rw [tearDown_closed hc]
    exact ⟨(), rfl, hs.withProgram p (fun _ => rfl) (fun _ => rfl) fun _ => .inl rfl⟩
  | false =>
    let o' := o.withProgram p fun x => { x with held := none, pending := [], isClosed := true }
    have struck : Looks T (o.withProgram p fun x => { x with pending := [], isClosed := true })
        (s.withProgram p fun x => { x with pending := [], isClosed := true }) :=
      hs.withProgram p (fun _ => rfl) (fun _ => rfl) fun _ => .inl rfl
    have left : Succeeds
        (Looks T (o.withProgram p fun x => { x with pending := [], isClosed := true }))
        (relinquishHeld L.engine p) fun _ => Looks T o' := by
      have given := relinquishHeld_looks (T := T) (p := p)
        (o := o.withProgram p fun x => { x with pending := [], isClosed := true })
      rw [withProgram_withProgram] at given
      exact given
    have home' : (o'.program p).connection = (s.program p).connection := by
      rw [← home]
      exact program_part o p p (fun x => x.connection) fun _ => rfl
    rw [tearDown_open hc, if_neg Bool.false_ne_true]
    refine left.both ?_ _ struck
    cases unlist with
    | false =>
      have same : (o'.withConnection (s.program p).connection fun x =>
          if false = true then { x with programs := x.programs.filter (· != p) } else x) = o' :=
        withConnection_self rfl
      rw [same]
      exact releaseReference_looks _
    | true => exact (deregister_looks home').bind fun _ => releaseReference_looks _

theorem dropProgram_looks {ε : Type} (p : ProgramId) :
    Succeeds (Looks T o) (dropProgram L.engine p : Op (Engines δ) ε Unit) fun _ =>
      Looks T ((o.tornDown true p).withProgram p fun x => { x with isDropped := true }) := by
  refine .read_bind fun x s hs => ?_
  obtain ⟨_, t, run, ht⟩ := (tearDown_looks true p).run_eq hs.1
  simp only [run_bind, attempt, run]
  refine (looks_quiet T _).dropConnectionIfUnreferenced _ ?_
  exact ht.withProgram p (fun _ => rfl) (fun _ => rfl) fun _ => .inl rfl

/-- Programs are closed one after the other. -/
theorem forAll_tearDown_looks (order : List ProgramId) :
    Succeeds (Looks T o) (forAll (tearDown L.engine false) order) fun _ =>
      Looks T (order.foldl (fun s p => s.tornDown false p) o) := by
  induction order generalizing o with
  | nil => exact .pure fun _ => id
  | cons p order ih => exact (tearDown_looks false p).both ih

theorem closeInOrder_looks (c : ConnectionId) (order : List ProgramId) :
    Succeeds (Looks T o) (closeInOrder L.engine c order) fun _ =>
      Looks T (o.shut c order) := by
  unfold shut
  refine .read_bind fun x => .pre (P := fun s => Looks T o s ∧ (o.connection c).isOpen = x.isOpen)
    (.of_fact fun known => ?_) fun s hs => ⟨hs.1, ?_⟩
  · rw [known]
    refine .ite (fun isOpen => ?_) fun isClosed => .pure fun s hs => ?_
    · rw [if_pos isOpen]
      refine .change_bind (M := Looks T
        (o.withConnection c fun x => { x with isOpen := false, programs := [] })) (fun s hs => ?_) ?_
      · exact hs.withConnection c (fun _ => rfl) fun _ => rfl
      · refine (looks_quiet T _).trace_bind ?_
        exact (forAll_tearDown_looks order).both (releaseReference_looks c)
    · rw [if_neg isClosed]
      exact hs
  · rw [← hs.2]
    exact hs.1.connection_part c (fun x => x.isOpen) fun _ => rfl

/-- Evicting a statement does not show. -/
theorem evict_looks (c : ConnectionId) (sql : String) :
    Succeeds (Looks T o) (evict L.engine c sql) fun _ => Looks T o := by
  have quiet := looks_quiet T o
  refine Ensures.onCache_bind (Q := fun _ => Looks T o) (fun s hs => quiet.cache s c _ hs)
    fun found => ?_
  cases found with
  | none => exact Succeeds.pure fun _ => id
  | some h => exact (quiet.discard h).bind fun _ => .pure fun _ => id

end Store

end Prepared
