import Prepared.Proofs.Program
import Prepared.Store.Connection

/-! The moves of connections.

Closing a connection puts its programs on a list of what is yet to be closed, and takes them
off one by one, whatever fails. -/
namespace Prepared.Store

open Operation

variable {σ ε : Type} {E : Engine σ} {m : Moment σ} {g : Grip}

theorem addConnection_moves (i : EngineId) (settings : Settings) :
    Ensures (At E m g) (addConnection i settings : Op σ ε ConnectionId) fun _ => At E m g :=
  fun _ ha => ha.move (.connect i settings)

theorem openConnection_moves (i : EngineId) (settings : Settings) :
    Ensures (At E m g) (openConnection i settings) fun _ => At E m g := by
  unfold openConnection
  cases settings.validate with
  | ok valid => exact addConnection_moves i valid
  | error e => exact .throw fun _ => id

theorem dropConnection_moves (free : g.hand = none) (empty : g.loose = []) :
    Ensures (At E m g) (dropConnection E g.connection : Op σ ε Unit)
      fun _ => At E m { g with leaving := false } :=
  .change_bind (fun _ ha => ha.move (.dropClone empty))
    (dropConnectionIfUnreferenced_moves (g := { g with leaving := true }) free empty)

theorem lookup_moves (sql : String) :
    Ensures (At E m g) (lookup g.connection sql : Op σ ε (Option CompiledId))
      fun _ => At E m g := by
  apply Ensures.read_bind
  intro x
  cases x.cache.peek? (Text.trim sql) with
  | none => exact .pure fun _ => And.left
  | some h => exact fun s hs => hs.1.move (.borrow h)

/-- What was looked up is given back, and destroyed if nothing else refers to it. -/
theorem giveBack_moves (h : CompiledId) (free : g.hand = none) (empty : g.loose = []) :
    Ensures (At E m g) (giveBack E h : Op σ ε Unit) fun _ => At E m g := by
  intro s ha
  let t := s.withStatement h fun x => { x with borrowers := x.borrowers - 1 }
  have hc : t.isCached h = s.isCached h :=
    statement_part s h h (fun x => (s.connection x.connection).cache.holds x.sql h) fun _ => rfl
  have hd : (t.statement h).destroyed = (s.statement h).destroyed :=
    statement_part s h h (fun x => x.destroyed) fun _ => rfl
  have hb : 0 < (t.statement h).borrowers → 1 < (s.statement h).borrowers := by
    show 0 < ((s.withStatement h _).statement h).borrowers → _
    rw [statement_withStatement]
    split
    · exact fun hb => by simpa [Nat.lt_sub_iff_add_lt] using hb
    · next hn =>
      intro hb
      have hlt := Table.lt_next_of_part_ne (t := s.compiled) (fun x => x.borrowers)
        (Nat.ne_of_gt hb)
      exact absurd ⟨rfl, hlt⟩ hn
  suffices tail : Ensures (· = t) (dropUnreferenced E h : Op σ ε Unit) fun _ => At E m g from
    tail t rfl
  refine .read_bind fun x => .read_bind fun referenced => .ite (fun hr => ?_) fun hr => ?_
  · intro u hs
    obtain ⟨⟨rfl, rfl⟩, rfl⟩ := hs
    simp only [Bool.or_eq_true, decide_eq_true_eq, hc] at hr
    refine ha.move (.giveBack ?_)
    rcases hr with (hr | hr) | hr
    · exact .inr (.inl hr)
    · exact .inr (.inr (.inl hr))
    · exact .inr (.inr (.inr (hb hr)))
  · refine .attempt_bind (Q := fun _ => At E m g) ?_ fun r => ?_
    · intro u hs
      obtain ⟨⟨rfl, rfl⟩, rfl⟩ := hs
      simp only [Bool.or_eq_true, not_or, Bool.not_eq_true, hc] at hr
      cases hl : (s.statement h).destroyed with
      | true =>
        rw [destroy_gone (hd.trans hl)]
        exact ha.move (.giveBack (.inl hl))
      | false =>
        rw [destroy_live (hd.trans hl)]
        exact ha.move (.destroyReturned free empty hl hr.1.1 hr.1.2)
    · cases r with
      | ok _ => exact .pure fun _ => id
      | error e => exact fun u hu => hu.move (.report _)

/-- A cache that is not changed. -/
theorem withCache_self {s : Store σ} {c : ConnectionId}
    {f : Cache CompiledId → Cache CompiledId}
    (hf : f (s.connection c).cache = (s.connection c).cache) : s.withCache c f = s := by
  have hc : s.withCache c f = s.withConnection c fun x => x :=
    withConnection_congr (by rw [hf])
  rw [hc, withConnection, Table.modify_id]

theorem evict_moves (sql : String) (empty : g.loose = []) :
    Ensures (At E m g) (evict E g.connection sql) fun _ => At E m g := by
  let A (o : Option CompiledId) : Store σ → Prop :=
    match o with
    | none => At E m g
    | some h => At E m { g with loose := [h] }
  refine Ensures.onCache_bind (Q := A) ?_ ?_
  · intro s ha
    cases hp : (s.connection g.connection).cache.peek? (Text.trim sql) with
    | none =>
      have he : (s.connection g.connection).cache.erase (Text.trim sql) =
          (none, (s.connection g.connection).cache) := by simp [Cache.erase, hp]
      rw [he, withCache_self (congrArg Prod.snd he)]
      exact ha
    | some h =>
      have he : ((s.connection g.connection).cache.erase (Text.trim sql)).1 = some h := by
        simp [Cache.erase, hp]
      rw [he]
      exact ha.move (.clear (f := fun x => (x.erase (Text.trim sql)).2) empty fun hn =>
        Cache.erase_parts hn hp)
  · intro o
    cases o with
    | none => exact .pure fun _ => id
    | some h =>
      have discarded : Ensures (At E m { g with loose := [h] }) (discard E h)
          fun _ => At E m { g with loose := [] } := discard_moves rfl
      rw [Grip.loose_eta empty] at discarded
      exact discarded.bind (fun _ => .pure fun _ => id) fun _ _ => id

theorem setCapacity_moves (size : Nat) (empty : g.loose = []) :
    Ensures (At E m g) (setCapacity E g.connection size) fun _ => At E m g := by
  refine .ite (fun _ => .throw fun _ => id) fun _ => .read_bind fun x =>
    .ite (fun _ => .throw fun _ => And.left) fun _ => ?_
  refine Ensures.onCache_bind (Q := fun out => At E m { g with loose := out })
    (fun s hs => hs.1.move (.clear empty fun _ => Cache.resize_parts _ size)) fun out => ?_
  exact .mapError (discardAll_moves empty out)

/-- The programs of a closed connection are closed one by one. -/
theorem sweep_moves (free : g.hand = none) (empty : g.loose = []) (order : List ProgramId) :
    Ensures
      (fun s => At E m { g with sweep := order } s ∧ ∀ p ∈ order, Owned g.connection p s)
      (forAll (tearDown E false) order) fun _ => At E m { g with sweep := [] } := by
  have body (p : ProgramId) (ps : List ProgramId) : Ensures
      (fun s => At E m { g with sweep := p :: ps } s ∧ ∀ q ∈ p :: ps, Owned g.connection q s)
      (tearDown E false p)
      fun _ s => At E m { g with sweep := ps } s ∧ ∀ q ∈ ps, Owned g.connection q s := by
    intro s hs
    obtain ⟨ha, ho⟩ := hs
    have ht := tearDown_moves (g := { g with sweep := p :: ps }) free empty false s
      ⟨ha, ho p (List.mem_cons_self ..)⟩
    rw [List.erase_cons_head, ← free] at ht
    exact ⟨ht, fun q hq => (ho q (List.mem_cons_of_mem _ hq)).of_standing (tearDown_keeps s)⟩
  exact (Ensures.forAll (I := fun l s => At E m { g with sweep := l } s ∧
    ∀ q ∈ l, Owned g.connection q s) body order).post fun _ _ => And.left

/-- A connection is closed with all its programs, whatever fails. -/
theorem closeInOrder_moves (order : List ProgramId) (free : g.hand = none)
    (empty : g.loose = []) (swept : g.sweep = []) :
    Ensures
      (fun s => At E m g s ∧ order.Perm (s.connection g.connection).programs ∧
        (∀ p ∈ order, Owned g.connection p s) ∧ s.isReferenced g.connection = true)
      (closeInOrder E g.connection order) fun _ => At E m g := by
  refine .read_bind fun x => .ite (fun ho => ?_) fun _ => .pure fun _ hs => hs.1.1
  let g' : Grip := { g with owed := g.owed + 1 }
  let A (s : Store σ) : Prop :=
    At E m { g' with sweep := order } s ∧ (∀ p ∈ order, Owned g.connection p s) ∧
      s.isReferenced g.connection = true
  refine .change_bind (M := A) ?_ (Ensures.trace_bind (fun s es hs => ⟨hs.1.move (.report es),
    fun p hp => (hs.2.1 p hp).of_standing rfl, hs.2.2⟩) ?_)
  · intro s hs
    obtain ⟨⟨ha, hp, hw, hr⟩, rfl⟩ := hs
    have hs :
        (s.withConnection g.connection fun x => { x with isOpen := false, programs := [] }).standing =
        s.standing := standing_withConnection s _ fun _ => rfl
    exact ⟨ha.move (.shut swept ho hp), fun p hp => (hw p hp).of_standing hs,
      (isReferenced_of_standing hs _).trans hr⟩
  · have swept' : Ensures A (forAll (tearDown E false) order)
        fun _ s => At E m { g' with sweep := [] } s ∧ s.isReferenced g.connection = true :=
      fun s hs => ⟨sweep_moves (g := g') free empty order s ⟨hs.1, hs.2.1⟩,
        (isReferenced_of_standing (Keeps.forAll (fun _ => tearDown_keeps) order s) _).trans hs.2.2⟩
    have released : Ensures
        (fun s => At E m { g' with sweep := [] } s ∧ s.isReferenced g.connection = true)
        (releaseReference E g.connection) fun _ => At E m { g with sweep := [] } :=
      releaseReference_moves (g := { g' with sweep := [] }) rfl empty
    rw [Grip.sweep_eta swept] at released
    exact .both swept' released

/-! A connection that was closed stays closed. -/

theorem isOpen_of_steady {s t : Store σ} (h : t.steady = s.steady) (c : ConnectionId) :
    (t.connection c).isOpen = (s.connection c).isOpen :=
  congrArg (fun v => (v.1 c).isOpen) h

/-- Giving back references opens no connection. -/
theorem releaseReference_closed (c d : ConnectionId) :
    Ensures (fun s => (s.connection c).isOpen = false) (releaseReference E d)
      fun _ s => (s.connection c).isOpen = false := by
  refine .read_bind fun x => .ite (fun _ => .pure fun _ => And.left) fun _ =>
    .change_bind (M := fun s => (s.connection c).isOpen = false) (fun s hs => ?_)
      (.ite (fun _ => ?_) fun _ => .pure fun _ => id)
  · rw [connection_withConnection]
    split <;> exact hs.1
  refine .change_bind (M := fun s => (s.connection c).isOpen = false) (fun s hs => ?_) ?_
  · rw [connection_withConnection]
    split
    · rfl
    · exact hs
  refine Ensures.onCache_bind (Q := fun _ s => (s.connection c).isOpen = false) (fun s hs => ?_)
    fun drained => ?_
  · exact (isOpen_of_bare (bare_withCache ..) c).trans hs
  refine Ensures.trace_bind (fun _ _ => id) ?_
  exact fun s hs => (isOpen_of_bare (Keeps.forAll (fun _ => keeps_destroy) drained s) c).trans hs

theorem tearDown_closed_connection (c : ConnectionId) (unlist : Bool) (p : ProgramId) :
    Ensures (fun s => (s.connection c).isOpen = false) (tearDown E unlist p)
      fun _ s => (s.connection c).isOpen = false := by
  have relinquished : Ensures (fun s => (s.connection c).isOpen = false) (relinquishHeld E p)
      fun _ s => (s.connection c).isOpen = false :=
    fun s hs => (isOpen_of_steady (relinquishHeld_keeps s) c).trans hs
  refine .change_bind (M := fun s => (s.connection c).isOpen = false) (fun _ => id)
    (.read_bind fun x => .ite (fun _ => .pure fun _ => And.left) fun _ =>
      .change_bind (M := fun s => (s.connection c).isOpen = false) (fun _ hs => hs.1)
        (.both relinquished ?_))
  have left : Ensures (fun s => (s.connection c).isOpen = false)
      (deregister p : Op σ EngineError Unit) fun _ s => (s.connection c).isOpen = false :=
    .read_bind fun x => .change fun s hs => by
      rw [connection_withConnection]
      split <;> exact hs.1
  cases unlist with
  | true => exact left.bind (fun _ => releaseReference_closed c _) fun _ _ => id
  | false => exact releaseReference_closed c _

/-- A connection is closed after it was to be closed, whatever failed. -/
theorem closeInOrder_closes (c : ConnectionId) (order : List ProgramId) (s : Store σ) :
    (((closeInOrder E c order).run s).2.connection c).isOpen = false := by
  suffices closes : Ensures (fun _ => True) (closeInOrder E c order)
      fun _ s => (s.connection c).isOpen = false from closes s trivial
  refine .read_bind fun x => .ite (fun _ => ?_) fun hc => .pure fun s hs => ?_
  · refine .change_bind (M := fun s => (s.connection c).isOpen = false) (fun s _ => ?_)
      (Ensures.trace_bind (fun _ _ => id) ?_)
    · rw [connection_withConnection]
      split
      · rfl
      · next hn =>
        have hd : s.connection c = default :=
          Table.get_of_le _ (Nat.le_of_not_lt fun hlt => hn ⟨rfl, hlt⟩)
        rw [hd]
        rfl
    · exact .both (.forAll (I := fun _ (s : Store σ) => (s.connection c).isOpen = false)
        (fun p _ => tearDown_closed_connection c false p) order) (releaseReference_closed c c)
  · rw [hs.2]
    exact eq_false_of_ne_true hc

end Prepared.Store
