import Prepared.Proofs.Acquire

/-! The moves of taking and giving back references.

Giving back the last reference of a connection destroys what its cache stores, whoever holds
it. When a connection is gone without that, its cache is emptied in another way, and what
somebody else refers to is spared. -/
namespace Prepared.Store

open Operation

variable {σ ε : Type} {E : Engine σ} {m : Moment σ} {g : Grip}

/-- What decides whether anything refers to a connection: the programs of each connection and
whether they are out of use, and the clones in use. -/
def standing (s : Store σ) : (ProgramId → ConnectionId × Bool) × (ConnectionId → Nat) :=
  (fun p => ((s.program p).connection, (s.program p).isDropped),
    fun c => (s.connection c).clones)

theorem isReferenced_of_standing {s t : Store σ} (h : t.standing = s.standing)
    (c : ConnectionId) : t.isReferenced c = s.isReferenced c :=
  isReferenced_congr (congrArg (fun v => v.2 c) h) fun p =>
    ⟨congrArg (fun v => (v.1 p).1) h, congrArg (fun v => (v.1 p).2) h⟩

theorem standing_of_bare {s t : Store σ} (h : t.bare = s.bare) : t.standing = s.standing :=
  congrArg (fun b => ((fun p => ((b.1.get p).connection, (b.1.get p).isDropped)),
    fun c => (b.2 c).clones)) h

instance : Aloof (standing (σ := σ)) where
  rest _ _ _ _ := rfl
  cache s c f := standing_of_bare (bare_withCache s c f)

theorem standing_withConnection (s : Store σ) (c : ConnectionId) {f : Connection → Connection}
    (hf : ∀ x, (f x).clones = x.clones) : (s.withConnection c f).standing = s.standing :=
  Prod.ext rfl (funext fun d => connection_part s c d (fun x => x.clones) hf)

theorem standing_withProgram (s : Store σ) (p : ProgramId) {f : Program → Program}
    (hf : ∀ x, ((f x).connection, (f x).isDropped) = (x.connection, x.isDropped)) :
    (s.withProgram p f).standing = s.standing :=
  Prod.ext (funext fun q => program_part s p q (fun x => (x.connection, x.isDropped)) hf) rfl

/-- What is drained and destroyed when a connection is closed for good is not shown. -/
theorem retire_shown {β : Type} {v : Store σ → β} [Aloof v] (c : ConnectionId) (s : Store σ) :
    v ((retire E c).run s).2 = v (s.withConnection c fun x => { x with isOpen := false }) := by
  have kept : Keeps v (do
      let drained ← onCache c Cache.drain
      trace c (.connectionReleased drained.length)
      forAll (destroy E) drained : Op σ EngineError Unit) :=
    .bind keeps_onCache fun out => .bind keeps_trace fun _ => .forAll (fun _ => keeps_destroy) out
  unfold retire
  rw [run_bind, run_change]
  exact kept _

theorem releaseReference_keeps_standing {c : ConnectionId} :
    Keeps standing (releaseReference E c) :=
  .bind (.read _) fun _ => .ite (.pure _)
    (.bind (.change fun s => standing_withConnection s c fun _ => rfl) fun _ =>
      .ite (fun s => (retire_shown c s).trans (standing_withConnection s c fun _ => rfl)) (.pure _))

instance : Aloof (Store.programs (σ := σ)) where
  rest _ _ _ _ := rfl
  cache _ _ _ := rfl

theorem releaseReference_keeps_programs {c : ConnectionId} :
    Keeps Store.programs (releaseReference E c) :=
  .bind (.read _) fun _ => .ite (.pure _) (.bind (.change fun _ => rfl) fun _ =>
    .ite (fun s => retire_shown c s) (.pure _))

/-- What a retired connection had cached is destroyed, whoever holds it. -/
theorem destroyAll_moves (empty : g.loose = []) (out : List CompiledId) :
    Ensures (fun s => At E m { g with loose := out } s ∧ (s.connection g.connection).isOpen = false)
      (forAll (destroy E) out) fun _ => At E m g := by
  have body (h : CompiledId) (hs : List CompiledId) : Ensures
      (fun s => At E m { g with loose := h :: hs } s ∧ (s.connection g.connection).isOpen = false)
      (destroy E h)
      fun _ s => At E m { g with loose := hs } s ∧ (s.connection g.connection).isOpen = false :=
    ((destroy_moves (g := { g with loose := h :: hs }) rfl).pre
        fun s hs => ⟨hs.1, .inr (.inl hs.2)⟩).frame
      fun s hc => (isOpen_of_bare (keeps_destroy s) _).trans hc
  have loop := Ensures.forAll
    (I := fun l s => At E m { g with loose := l } s ∧ (s.connection g.connection).isOpen = false)
    body out
  rw [Grip.loose_eta empty] at loop
  exact loop.post fun _ _ => And.left

theorem entries_drained (s : Store σ) (c : ConnectionId) :
    ((s.withCache c (·.drain.2)).connection c).cache.entries = [] := by
  rw [cache_withCache]
  split
  · rfl
  · next hn =>
    cases he : (s.connection c).cache.entries with
    | nil => rfl
    | cons e es =>
      have hlt : c < s.connections.next := lt_of_entry (he ▸ List.mem_cons_self ..)
      exact absurd ⟨rfl, hlt⟩ hn

/-- The last reference is given back. -/
theorem retire_moves {k : Nat} (owed : g.owed = k + 1) (empty : g.loose = []) {s : Store σ}
    (ha : At E m g s) (hr : s.isReferenced g.connection = true)
    (h1 : (s.connection g.connection).references = 1) :
    At E m { g with owed := k } ((retire E g.connection).run
      (s.withConnection g.connection fun x => { x with references := 0 })).2 := by
  -- the cache is drained first; the fields that change are others
  have h₁ := ha.move (.clear (f := (·.drain.2)) empty fun _ => Cache.drain_parts _)
  generalize ht : s.withCache g.connection (·.drain.2) = t at h₁
  have hb : t.bare = s.bare := ht ▸ bare_withCache ..
  have hr' : (t.connection g.connection).references = 1 :=
    (congrArg (fun b => (b.2 g.connection).references) hb).trans h1
  have he : (t.connection g.connection).cache.entries = [] := ht ▸ entries_drained s g.connection
  have h₂ := h₁.move (.retire owed hr' he ((isReferenced_of_bare hb _).trans hr))
  have hs : ((s.withConnection g.connection fun x => { x with references := 0 }).withConnection
        g.connection fun x => { x with isOpen := false }).withCache g.connection (·.drain.2) =
      t.withConnection g.connection fun x => { x with references := 0, isOpen := false } := by
    rw [← ht]
    simp only [withCache, withConnection_withConnection]
  have hd : (((s.withConnection g.connection fun x => { x with references := 0 }).withConnection
        g.connection fun x => { x with isOpen := false }).connection g.connection).cache =
      (s.connection g.connection).cache := by
    rw [withConnection_withConnection]
    exact connection_part s _ _ (fun x => x.cache) fun _ => rfl
  have ho : ((t.withConnection g.connection fun x =>
      { x with references := 0, isOpen := false }).connection g.connection).isOpen = false := by
    rw [connection_withConnection, if_pos ⟨rfl, lt_of_references (by rw [hr']; decide)⟩]
  unfold retire
  rw [run_bind, run_change]
  dsimp only
  rw [run_bind, onCache_run, hs, hd]
  have loop := destroyAll_moves (E := E) (m := m) (g := { g with owed := k }) empty
    (s.connection g.connection).cache.drain.1
  exact Ensures.trace_bind (k := fun _ => forAll (destroy E) _)
    (fun s es hs => ⟨At.move hs.1 (.report es), hs.2⟩) loop _ ⟨h₂, ho⟩

theorem releaseReference_none {c : ConnectionId} {s : Store σ}
    (h : (s.connection c).references = 0) : (releaseReference E c).run s = (.ok (), s) := by
  simp [releaseReference, h]

theorem releaseReference_last {c : ConnectionId} {s : Store σ}
    (h : (s.connection c).references = 1) :
    (releaseReference E c).run s =
      (retire E c).run (s.withConnection c fun x => { x with references := 0 }) := by
  simp [releaseReference, h]

theorem releaseReference_more {c : ConnectionId} {s : Store σ} {n : Nat}
    (h : (s.connection c).references = n + 2) :
    (releaseReference E c).run s =
      (.ok (), s.withConnection c fun x => { x with references := n + 1 }) := by
  simp [releaseReference, h]

/-- A reference is given back, if there is one; with the last one the connection retires. -/
theorem releaseReference_moves {k : Nat} (owed : g.owed = k + 1) (empty : g.loose = []) :
    Ensures (fun s => At E m g s ∧ s.isReferenced g.connection = true)
      (releaseReference E g.connection) fun _ => At E m { g with owed := k } := by
  intro s hs
  obtain ⟨ha, hr⟩ := hs
  match hn : (s.connection g.connection).references with
  | 0 =>
    rw [releaseReference_none hn]
    exact ha.move (.releaseNone owed hn)
  | 1 =>
    rw [releaseReference_last hn]
    exact retire_moves owed empty ha hr hn
  | n + 2 =>
    rw [releaseReference_more hn]
    exact ha.move (.release owed hn)

theorem acquireReference_ok {c : ConnectionId} {s : Store σ} (h : (s.connection c).Grants) :
    (acquireReference c).run s =
      (.ok (), s.withConnection c fun x => { x with references := x.references + 1 }) := by
  simp only [acquireReference, run_bind, run_read, h.1, Nat.not_le.2 h.2, if_false, run_change]

/-- The rule that keeps a connection from giving a reference. -/
def refusal (x : Connection) : Misuse :=
  if x.references = 0 then .connectionReleased else .tooManyReferences

theorem acquireReference_error {c : ConnectionId} {s : Store σ} (h : ¬ (s.connection c).Grants) :
    (acquireReference c).run s = (.error (.usage (refusal (s.connection c))), s) := by
  unfold refusal
  by_cases none : (s.connection c).references = 0
  · simp [acquireReference, none]
  · have full := Nat.le_of_not_lt fun room => h ⟨none, room⟩
    simp [acquireReference, none, full]

/-- A reference is taken, if there are others. -/
theorem acquireReference_moves :
    Ensures (fun s => At E m g s ∧ s.isReferenced g.connection = true)
      (acquireReference g.connection)
      fun r => At E m { g with owed := r.isOk.toNat + g.owed } := by
  intro s hs
  obtain ⟨ha, hr⟩ := hs
  by_cases grants : (s.connection g.connection).Grants
  · rw [acquireReference_ok grants]
    have hm := ha.move (.take grants.1 hr)
    rw [Nat.add_comm] at hm
    exact hm
  · rw [acquireReference_error grants]
    show At E _ { g with owed := 0 + g.owed } s
    rw [Nat.zero_add]
    exact ha

/-- A connection that nothing refers to any more loses what it has cached. -/
theorem dropConnectionIfUnreferenced_moves (free : g.hand = none) (empty : g.loose = []) :
    Ensures (At E m g) (dropConnectionIfUnreferenced E g.connection : Op σ ε Unit)
      fun _ => At E m { g with leaving := false } := by
  refine .read_bind fun referenced => .ite (fun hr => ?_) fun hr => ?_
  · intro s hs
    obtain ⟨ha, rfl⟩ := hs
    exact ha.move (.settle (.inl hr))
  · refine Ensures.onCache_bind
      (Q := fun out s => At E m { g with leaving := false, loose := out } s ∧
        s.isReferenced g.connection = false) ?_ fun out => ?_
    · intro s hs
      obtain ⟨ha, rfl⟩ := hs
      have h₁ := ha.move (.clear (f := (·.drain.2)) empty fun _ => Cache.drain_parts _)
      -- with an empty cache nothing is left to do but to deal with what has left it
      refine ⟨h₁.move (.settle (.inr ?_)),
        (isReferenced_of_bare (bare_withCache ..) _).trans (eq_false_of_ne_true hr)⟩
      exact entries_drained s g.connection
    · have body (h : CompiledId) (hs : List CompiledId) : Ensures
          (fun s => At E m { g with leaving := false, loose := h :: hs } s ∧
            s.isReferenced g.connection = false)
          (dropUnreferenced E h : Op σ ε Unit)
          fun _ s => At E m { g with leaving := false, loose := hs } s ∧
            s.isReferenced g.connection = false :=
        (dropUnreferenced_moves (g := { g with leaving := false, loose := h :: hs }) rfl free).frame
          fun s hu => (isReferenced_of_bare (keeps_dropUnreferenced s) _).trans hu
      have loop := Ensures.forAll
        (I := fun l s => At E m { g with leaving := false, loose := l } s ∧
          s.isReferenced g.connection = false) body out
      rw [← empty] at loop
      exact loop.post fun _ _ => And.left

end Prepared.Store
