import Mathlib.Data.Finset.Card
import Mathlib.Data.Finset.Range
import Prepared.Proofs.Sound

/-! Accounts of references.

A connection has a reference of its owner until it is closed, one for each open program, and
those that were taken from outside. A run is balanced if whoever gives back a reference from
outside has taken one before; then the accounts are right after every step. -/
namespace Prepared.Store

variable {σ : Type} {E : Engine σ} {s t : Store σ} {g g' : Grip} {c : ConnectionId}

/-- The open programs of a connection. -/
def openPrograms (s : Store σ) (c : ConnectionId) : Finset ProgramId :=
  (Finset.range s.programs.next).filter fun p =>
    (s.program p).connection = c ∧ (s.program p).isClosed = false

theorem mem_openPrograms {p : ProgramId} :
    p ∈ s.openPrograms c ↔ (s.program p).connection = c ∧ (s.program p).isClosed = false := by
  unfold openPrograms
  rw [Finset.mem_filter, Finset.mem_range]
  constructor
  · exact And.right
  · intro hp
    exact ⟨lt_of_not_closed hp.2, hp⟩

theorem next_not_mem_openPrograms : s.programs.next ∉ s.openPrograms c := fun hm =>
  absurd (lt_of_not_closed (mem_openPrograms.1 hm).2) (Nat.lt_irrefl _)

theorem openPrograms_withConnection (s : Store σ) (c d : ConnectionId)
    (f : Connection → Connection) :
    (s.withConnection c f).openPrograms d = s.openPrograms d := rfl

/-- A program that is closed is open no longer, and the others are as they were. -/
theorem openPrograms_closed {p : ProgramId} (isOpen : (s.program p).isClosed = false) :
    (s.withProgram p fun x => { x with held := none, pending := [], isClosed := true }).openPrograms
      c = (s.openPrograms c).erase p := by
  have hp := program_withProgram_self (lt_of_not_closed isOpen)
    fun x => { x with held := none, pending := [], isClosed := true }
  ext q
  rw [Finset.mem_erase, mem_openPrograms, mem_openPrograms]
  by_cases hq : q = p
  · subst hq
    rw [hp]
    exact iff_of_false (fun h => nomatch h.2) fun h => h.1 rfl
  · rw [program_withProgram_of_ne hq]
    exact (and_iff_right hq).symm

/-- A new program is an open one of its connection. -/
theorem openPrograms_created (d : ConnectionId) (sql : String) :
    (s.created d sql).openPrograms c =
      if c = d then insert s.programs.next (s.openPrograms c) else s.openPrograms c := by
  ext q
  rw [mem_openPrograms, program_created]
  split
  · next hq =>
    subst hq
    split
    · next hc => exact iff_of_true ⟨hc.symm, rfl⟩ (Finset.mem_insert_self ..)
    · next hc => exact iff_of_false (fun h => hc h.1.symm) next_not_mem_openPrograms
  · next hq =>
    split
    · rw [Finset.mem_insert, mem_openPrograms]
      exact (or_iff_right hq).symm
    · rw [mem_openPrograms]

/-- References that an operation owes to a connection or is owed by it. -/
def Grip.owes (g : Grip) (c : ConnectionId) : Nat :=
  if g.connection = c then g.owed else 0

theorem Grip.owes_self (g : Grip) : g.owes g.connection = g.owed :=
  if_pos rfl

/-- The references of every connection are accounted for. -/
def Balances (outside : ConnectionId → Nat) (m : Moment σ) : Prop :=
  ∀ c, (m.store.connection c).references =
    (m.store.connection c).isOpen.toNat + (m.store.openPrograms c).card + outside c + m.grip.owes c

namespace Balances

variable {outside : ConnectionId → Nat}

/-- Neither references nor what they stand for have changed. -/
theorem of_same (hb : Balances outside ⟨s, g⟩)
    (connections : ∀ c, (t.connection c).references = (s.connection c).references ∧
      (t.connection c).isOpen = (s.connection c).isOpen)
    (programs : ∀ p, (t.program p).connection = (s.program p).connection ∧
      (t.program p).isClosed = (s.program p).isClosed)
    (owes : ∀ c, g'.owes c = g.owes c) : Balances outside ⟨t, g'⟩ := by
  intro c
  have hp : t.openPrograms c = s.openPrograms c := by
    ext p
    rw [mem_openPrograms, mem_openPrograms, (programs p).1, (programs p).2]
  show (t.connection c).references = (t.connection c).isOpen.toNat + (t.openPrograms c).card +
    outside c + g'.owes c
  rw [(connections c).1, (connections c).2, hp, owes]
  exact hb c

/-- Only one connection has changed, and its account is right. -/
theorem of_connection (hb : Balances outside ⟨s, g⟩) (hg : g'.connection = g.connection)
    (others : ∀ c, c ≠ g.connection → (t.connection c).references = (s.connection c).references ∧
      (t.connection c).isOpen = (s.connection c).isOpen ∧ t.openPrograms c = s.openPrograms c)
    (account : (t.connection g.connection).references =
      (t.connection g.connection).isOpen.toNat + (t.openPrograms g.connection).card +
        outside g.connection + g'.owed) : Balances outside ⟨t, g'⟩ := by
  intro c
  by_cases hc : c = g.connection
  · subst hc
    show _ = _ + g'.owes g.connection
    rw [← hg, Grip.owes_self, hg]
    exact account
  · obtain ⟨hr, ho, hp⟩ := others c hc
    have owes : g'.owes c = g.owes c := by
      unfold Grip.owes
      rw [hg]
      rw [if_neg (Ne.symm hc), if_neg (Ne.symm hc)]
    show (t.connection c).references = (t.connection c).isOpen.toNat + (t.openPrograms c).card +
      outside c + g'.owes c
    rw [hr, ho, hp, owes]
    exact hb c

/-- A connection without references has nothing that they could stand for. -/
theorem of_none (hb : Balances outside ⟨s, g⟩) (hr : (s.connection c).references = 0) :
    (s.connection c).isOpen = false ∧ s.openPrograms c = ∅ ∧ outside c = 0 ∧ g.owes c = 0 := by
  have account := hb c
  change (s.connection c).references = (s.connection c).isOpen.toNat + (s.openPrograms c).card +
    outside c + g.owes c at account
  rw [hr] at account
  refine ⟨?_, ?_, by omega, by omega⟩
  · cases ho : (s.connection c).isOpen with
    | false => rfl
    | true =>
      rw [ho, Bool.toNat_true] at account
      omega
  · exact Finset.card_eq_zero.1 (by omega)

/-- A change of one connection that leaves its program table alone. -/
theorem withConnection (hb : Balances outside ⟨s, g⟩) (hg : g'.connection = g.connection)
    {f : Connection → Connection} (hc : g.connection < s.connections.next)
    (account : (s.connection g.connection).references =
        (s.connection g.connection).isOpen.toNat + (s.openPrograms g.connection).card +
          outside g.connection + g.owed →
      (f (s.connection g.connection)).references =
        (f (s.connection g.connection)).isOpen.toNat + (s.openPrograms g.connection).card +
          outside g.connection + g'.owed) :
    Balances outside ⟨s.withConnection g.connection f, g'⟩ := by
  refine hb.of_connection hg ?_ ?_
  · intro c hne
    rw [connection_withConnection, if_neg fun hn => hne hn.1]
    exact ⟨rfl, rfl, rfl⟩
  · rw [connection_withConnection, if_pos ⟨rfl, hc⟩, openPrograms_withConnection]
    apply account
    have old := hb g.connection
    rw [Grip.owes_self] at old
    exact old

theorem step {a b : Moment σ} (ha : Balances outside a) (hm : Move E a b) :
    Balances outside b := by
  cases hm with
  | reorder | store | clear | deregister | dropClone | clone =>
    refine ha.of_same (fun d => ?_) (fun _ => ⟨rfl, rfl⟩) fun _ => rfl
    exact ⟨connection_part _ _ d (fun x => x.references) fun _ => rfl,
      connection_part _ _ d (fun x => x.isOpen) fun _ => rfl⟩
  | hold | queue | dropProgram =>
    refine ha.of_same (fun _ => ⟨rfl, rfl⟩) (fun q => ?_) fun _ => rfl
    exact ⟨program_part _ _ q (fun x => x.connection) fun _ => rfl,
      program_part _ _ q (fun x => x.isClosed) fun _ => rfl⟩
  | take some =>
    apply ha.withConnection (by rfl) (lt_of_references some)
    intro account
    dsimp only
    omega
  | release owed held =>
    apply ha.withConnection (by rfl) (lt_of_references (by rw [held]; omega))
    intro account
    dsimp only at account ⊢
    omega
  | @releaseNone s g k owed held =>
    -- a connection without references owes none, so there is none to give back
    have none := (ha.of_none held).2.2.2
    rw [Grip.owes_self, owed] at none
    nomatch none
  | @retire s g k owed held =>
    -- the one reference left is the one owed, so the connection counts for none itself
    apply ha.withConnection (by rfl) (lt_of_references (by rw [held]; omega))
    intro account
    show 0 = 0 + _ + _ + k
    omega
  | @shut s g order swept isOpen =>
    apply ha.withConnection (by rfl) (lt_of_isOpen isOpen)
    intro account
    rw [isOpen, Bool.toNat_true] at account
    dsimp only
    rw [Bool.toNat_false]
    omega
  | @close s g p free isOpen home =>
    refine ha.of_connection rfl (fun d hd => ⟨rfl, rfl, ?_⟩) ?_
    · rw [openPrograms_closed isOpen]
      refine Finset.erase_eq_of_notMem fun hm => hd ?_
      exact (mem_openPrograms.1 hm).1.symm.trans home
    -- the reference of the program is owed from now on
    · have account := ha g.connection
      rw [Grip.owes_self] at account
      have mem : p ∈ s.openPrograms g.connection := mem_openPrograms.2 ⟨home, isOpen⟩
      have card := Finset.card_erase_add_one mem
      rw [openPrograms_closed isOpen]
      change (s.connection g.connection).references = _ at account
      show (s.connection g.connection).references = (s.connection g.connection).isOpen.toNat +
        ((s.openPrograms g.connection).erase p).card + outside g.connection + (g.owed + 1)
      dsimp only at account
      omega
  | @create s g k sql owed isOpen =>
    have connections (d : ConnectionId) :
        ((s.created g.connection sql).connection d).references = (s.connection d).references ∧
        ((s.created g.connection sql).connection d).isOpen = (s.connection d).isOpen :=
      ⟨connection_part _ g.connection d (fun x => x.references) fun _ => rfl,
        connection_part _ g.connection d (fun x => x.isOpen) fun _ => rfl⟩
    refine ha.of_connection rfl (fun d hd => ⟨(connections d).1, (connections d).2, ?_⟩) ?_
    · rw [openPrograms_created, if_neg hd]
    · have account := ha g.connection
      rw [Grip.owes_self] at account
      rw [(connections _).1, (connections _).2, openPrograms_created, if_pos rfl,
        Finset.card_insert_of_notMem next_not_mem_openPrograms]
      dsimp only at account ⊢
      omega
  | @connect s g i settings =>
    intro d
    by_cases hd : d = s.connections.next
    · have old : s.connection d = default := Table.get_of_le _ (Nat.le_of_eq hd.symm)
      obtain ⟨-, programs, out, owes⟩ := ha.of_none (c := d) (by
        show (s.connection d).references = 0
        rw [old]
        rfl)
      show (Store.connection { s with connections := _ } d).references =
        (Store.connection { s with connections := _ } d).isOpen.toNat + (s.openPrograms d).card +
          outside d + g.owes d
      rw [connection_pushed, if_pos hd, programs, out, owes]
      rfl
    -- the account of every other connection reads as before
    · show (Store.connection { s with connections := _ } d).references =
        (Store.connection { s with connections := _ } d).isOpen.toNat + (s.openPrograms d).card +
          outside d + g.owes d
      rw [connection_pushed, if_neg hd]
      exact ha d
  | _ => exact ha.of_same (fun _ => ⟨rfl, rfl⟩) (fun _ => ⟨rfl, rfl⟩) fun _ => rfl

/-- It does not matter whose a reference is. -/
theorem regrip (hb : Balances outside ⟨s, g⟩) {outside' : ConnectionId → Nat}
    (h : ∀ c, outside' c + g'.owes c = outside c + g.owes c) : Balances outside' ⟨s, g'⟩ := by
  intro c
  have account := hb c
  have sum := h c
  dsimp only at account ⊢
  omega

end Balances

/-- Every open program is one of an open connection, or about to be swept. -/
def Swept (m : Moment σ) : Prop :=
  ∀ p, (m.store.program p).isClosed = false →
    (m.store.connection (m.store.program p).connection).isOpen = true ∨ p ∈ m.grip.sweep

theorem Swept.of_frame (hs : Swept ⟨s, g⟩) (he : Extends s t)
    (closed : ∀ p, (t.program p).isClosed = false → (s.program p).isClosed = false)
    (stays : ∀ p, (t.program p).isClosed = false →
      (s.connection (s.program p).connection).isOpen = true →
      (t.connection (s.program p).connection).isOpen = true ∨ p ∈ g'.sweep)
    (sweep : ∀ p, (t.program p).isClosed = false → p ∈ g.sweep → p ∈ g'.sweep) :
    Swept ⟨t, g'⟩ := by
  intro p hp
  have hc := closed p hp
  show (t.connection (t.program p).connection).isOpen = true ∨ p ∈ g'.sweep
  rw [he.home p (lt_of_not_closed hc)]
  rcases hs p hc with ho | hw
  · exact stays p hp ho
  · exact .inr (sweep p hp hw)

theorem Swept.step {a b : Moment σ} (ha : Swept a) {outside : ConnectionId → Nat}
    (hb : Balances outside a) (hr : Registry a) (ht : Rooted a.store) (hm : Move E a b) :
    Swept b := by
  have he := hm.extends
  cases hm with
  | reorder | store | clear | deregister | take | release | dropClone | clone =>
    refine ha.of_frame he (fun _ => id) (fun p _ ho => .inl (Eq.trans ?_ ho)) fun _ _ => id
    exact connection_part _ _ _ (fun x => x.isOpen) fun _ => rfl
  | hold | queue | dropProgram =>
    refine ha.of_frame he (fun p hp => Eq.trans (Eq.symm ?_) hp) (fun _ _ => .inl) fun _ _ => id
    exact program_part _ _ p (fun x => x.isClosed) fun _ => rfl
  | @close s g p free isOpen =>
    have hc {q : ProgramId} (hq : ((s.withProgram p fun x =>
        { x with held := none, pending := [], isClosed := true }).program q).isClosed = false) :
        q ≠ p ∧ (s.program q).isClosed = false := by
      rw [program_withProgram] at hq
      split at hq
      · nomatch hq
      · next hn =>
        refine ⟨?_, hq⟩
        intro same
        subst same
        exact hn ⟨rfl, lt_of_not_closed isOpen⟩
    exact ha.of_frame he (fun q hq => (hc hq).2) (fun _ _ => .inl)
      fun q hq hw => (List.mem_erase_of_ne (hc hq).1).2 hw
  | @skip s g p closed =>
    apply ha.of_frame he (fun _ => id) (fun _ _ => .inl)
    intro q hq hw
    exact (List.mem_erase_of_ne (ne_of_closed hq closed)).2 hw
  | @retire s g k owed held =>
    refine ha.of_frame he (fun _ => id) (fun p hp ho => .inl ?_) fun _ _ => id
    -- the reference that is given back is the last, so there is no open program
    have hne : (s.program p).connection ≠ g.connection := by
      intro home
      have account := hb g.connection
      have some : 0 < (s.openPrograms g.connection).card :=
        Finset.card_pos.2 ⟨p, mem_openPrograms.2 ⟨home, hp⟩⟩
      rw [Grip.owes_self] at account
      dsimp only at account
      omega
    rw [connection_withConnection, if_neg fun hn => hne hn.1]
    exact ho
  | @shut s g order swept isOpen all =>
    -- every open program of the connection was listed, so it is in the sweep that begins
    refine ha.of_frame he (fun _ => id) (fun p hp ho => ?_) fun p _ hw => ?_
    · by_cases home : (s.program p).connection = g.connection
      · rcases hr.listed p hp with hl | hw
        · exact .inr (all.mem_iff.2 (home ▸ hl))
        · rw [show (⟨s, g⟩ : Moment σ).grip.sweep = [] from swept] at hw
          nomatch hw
      · rw [connection_withConnection, if_neg fun hn => home hn.1]
        exact .inl ho
    · rw [swept] at hw
      nomatch hw
  | @create s g k sql owed isOpen =>
    have connections (d : ConnectionId) :
        ((s.created g.connection sql).connection d).isOpen = (s.connection d).isOpen :=
      connection_part _ g.connection d (fun x => x.isOpen) fun _ => rfl
    intro p hp
    dsimp only at hp ⊢
    rw [program_created] at hp ⊢
    rw [connections]
    split at hp
    · next hn =>
      rw [if_pos hn]
      exact .inl isOpen
    · next hn =>
      rw [if_neg hn]
      exact ha p hp
  | connect =>
    refine ha.of_frame he (fun _ => id) (fun p hp ho => .inl ?_) fun _ _ => id
    have hlt := ht.program p (lt_of_not_closed hp)
    rw [connection_pushed, if_neg (Nat.ne_of_lt hlt)]
    exact ho
  | _ => exact ha.of_frame he (fun _ => id) (fun _ _ => .inl) fun _ _ => id

/-! Balanced runs. -/

/-- The references from outside that were taken and are yet to be given back. -/
def outside : List (Step σ) → ConnectionId → Nat
  | [], _ => 0
  | x :: past, c =>
    match x.action with
    | .acquireReference d => outside past c + if d = c then x.succeeded.toNat else 0
    | .releaseReference d => outside past c - if d = c then 1 else 0
    | _ => outside past c

/-- Whether a reference that is given back was taken before. -/
def Action.Covered (outside : ConnectionId → Nat) : Action → Prop
  | releaseReference c => 0 < outside c
  | _ => True

instance (outside : ConnectionId → Nat) : (a : Action) → Decidable (a.Covered outside)
  | .releaseReference _ => Nat.decLt ..
  | .openConnection .. | .openDefault _ | .cloneConnection _ | .dropConnection _
  | .closeConnection .. | .acquireReference _ | .lookup .. | .giveBack _ | .evict ..
  | .setCapacity .. | .createDeferred .. | .createCompiled .. | .bindValue .. | .bindPresent ..
  | .clearBindings _ | .compile _ | .execute _ | .closeProgram _ | .dropProgram _ => .isTrue trivial

/-- Whether no reference was given back from outside that was not taken before. -/
def Balanced : List (Step σ) → Prop
  | [] => True
  | x :: past => x.action.Covered (outside past) ∧ Balanced past

instance decidableBalanced : (past : List (Step σ)) → Decidable (Balanced past)
  | [] => .isTrue trivial
  | _ :: past =>
    have := decidableBalanced past
    inferInstanceAs (Decidable (_ ∧ _))

/-- A sound store whose references are accounted for. -/
structure Settled (outside : ConnectionId → Nat) (m : Moment σ) : Prop where
  sound : Sound m
  balances : Balances outside m
  swept : Swept m

theorem Settled.step {outside : ConnectionId → Nat} {a b : Moment σ} (ha : Settled outside a)
    (hm : Move E a b) : Settled outside b where
  sound := ha.sound.step hm
  balances := ha.balances.step hm
  swept := ha.swept.step ha.balances ha.sound.registry ha.sound.rooted hm

theorem Settled.regrip {outside outside' : ConnectionId → Nat} (hs : Settled outside ⟨s, g⟩)
    (idle : g.Idle) (idle' : g'.Idle)
    (h : ∀ c, outside' c + g'.owes c = outside c + g.owes c) : Settled outside' ⟨s, g'⟩ where
  sound := hs.sound.regrip idle idle'
  balances := hs.balances.regrip h
  swept p hp := by
    rcases hs.swept p hp with ho | hw
    · exact .inl ho
    · rw [show (⟨s, g⟩ : Moment σ).grip.sweep = [] from idle.sweep] at hw
      nomatch hw

/-- What is outside while an action is at work: a reference that it gives back is its own. -/
def Action.during (outside : ConnectionId → Nat) (a : Action) (c : ConnectionId) : Nat :=
  match a with
  | releaseReference d => outside c - if d = c then 1 else 0
  | _ => outside c

theorem Action.during_entry {outside : ConnectionId → Nat} {a : Action}
    (covered : a.Covered outside) (s : Store σ) (c : ConnectionId) :
    a.during outside c + (a.entry s).owes c = outside c := by
  cases a with
  | releaseReference d =>
    change 0 < outside d at covered
    show (outside c - if d = c then 1 else 0) + (if d = c then 1 else 0) = outside c
    split
    · next hd =>
      subst hd
      omega
    · rfl
  | _ =>
    show outside c + (if _ then 0 else 0) = outside c
    rw [ite_self]
    rfl

theorem Action.during_exit {past : List (Step σ)} (a : Action) (s t : Store σ) (succeeded : Bool)
    (c : ConnectionId) : outside (⟨s, a, succeeded, t⟩ :: past) c =
      a.during (outside past) c + (a.exit s succeeded).owes c := by
  cases a with
  | acquireReference d => rfl
  | releaseReference d =>
    show _ = _ + (if d = c then 0 else 0)
    rw [ite_self]
    rfl
  | _ =>
    show outside past c = outside past c + (if _ then 0 else 0)
    rw [ite_self]
    rfl

/-- After every balanced run the references are accounted for. -/
theorem Run.settled {e : σ} {past : List (Step σ)} (run : Run E e past s)
    (balanced : Balanced past) : ∀ g : Grip, g.Idle → g.owed = 0 → Settled (outside past) ⟨s, g⟩ := by
  have owes {g : Grip} (hg : g.owed = 0) (c : ConnectionId) : g.owes c = 0 := by
    unfold Grip.owes
    rw [hg, ite_self]
  induction run with
  | start =>
    intro g idle hg
    refine ⟨Sound.empty e idle, fun c => ?_, fun _ => nofun⟩
    show 0 = 0 + 0 + 0 + g.owes c
    rw [owes hg]
  | @step past s a run allowed ih =>
    intro g idle hg
    -- what the operation owes at its entry is taken from what is outside, and what it
    -- owes at its exit is added to that
    have before := ih balanced.2 { a.entry s with owed := 0 } ⟨rfl, rfl, rfl, rfl⟩ rfl
    have begun : Settled (a.during (outside past)) ⟨s, a.entry s⟩ := by
      apply before.regrip ⟨rfl, rfl, rfl, rfl⟩ (a.entry_idle s)
      intro c
      rw [owes (g := { a.entry s with owed := 0 }) rfl, Nat.add_zero]
      exact a.during_entry balanced.1 s c
    have ended := (a.moves (E := E) begun.sound.registered allowed).invariant
      (fun _ _ hm hs => Settled.step hs hm) begun
    apply ended.regrip (a.exit_idle s _) idle
    intro c
    rw [owes hg, Nat.add_zero]
    exact a.during_exit s _ _ c

end Prepared.Store
