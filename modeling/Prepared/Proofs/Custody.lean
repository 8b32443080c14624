import Prepared.Proofs.Shelf

/-! Custody of statements.

A statement is in the hands of one program at most, or of the operation that is bringing it
to a program or taking it from one. The token of a kept statement is taken exactly as long as
somebody has it. -/
namespace Prepared.Store

variable {σ : Type} {E : Engine σ} {s t : Store σ} {g g' : Grip} {h : CompiledId}

/-- Whether the operation or a program has a statement. -/
def Has (m : Moment σ) (h : CompiledId) : Prop :=
  m.grip.hand = some h ∨ ∃ p, (m.store.program p).held = some h

/-- With nothing at hand a statement that somebody has is a program's. -/
theorem Has.of_empty (free : g.hand = none) (hm : Has ⟨s, g⟩ h) :
    ∃ p, (s.program p).held = some h :=
  hm.resolve_left fun atHand => nomatch free.symm.trans atHand

/-- Nobody shares a statement, and who has gone out of use has none. -/
structure Custody (m : Moment σ) : Prop where
  unique : ∀ p q h, (m.store.program p).held = some h → (m.store.program q).held = some h → p = q
  apart : ∀ p h, m.grip.hand = some h → (m.store.program p).held ≠ some h
  closed : ∀ p, (m.store.program p).isClosed = true → (m.store.program p).held = none
  dropped : ∀ p, (m.store.program p).isDropped = true → (m.store.program p).isClosed = true

/-- The token of a kept statement is taken exactly if somebody has the statement. -/
def Tokened (m : Moment σ) : Prop :=
  ∀ h, Kept m h → ((m.store.statement h).inUse = true ↔ Has m h)

theorem Custody.of_same (hc : Custody ⟨s, g⟩) (hp : t.programs = s.programs)
    (hh : ∀ h, g'.hand = some h → g.hand = some h) : Custody ⟨t, g'⟩ := by
  have he (p : ProgramId) : t.program p = s.program p := congrArg (fun ps => ps.get p) hp
  refine ⟨?_, ?_, ?_, ?_⟩
  · intro p q h
    simp only [he]
    exact hc.unique p q h
  · intro p h hm
    simp only [he]
    exact hc.apart p h (hh h hm)
  · intro p
    simp only [he]
    exact hc.closed p
  · intro p
    simp only [he]
    exact hc.dropped p

theorem Custody.live_of_held {m : Moment σ} (hc : Custody m) {p : ProgramId} {h : CompiledId}
    (hh : (m.store.program p).held = some h) : (m.store.program p).isClosed = false := by
  cases hd : (m.store.program p).isClosed with
  | false => rfl
  | true => exact absurd (hh.symm.trans (hc.closed p hd)) (by simp)

/-- Only one program has changed: what it has now nobody else has. -/
theorem Custody.of_program (hc : Custody ⟨s, g⟩) {p : ProgramId}
    (others : ∀ q, q ≠ p → t.program q = s.program q)
    (held : ∀ h, (t.program p).held = some h → (t.program p).isClosed = false ∧
      g'.hand ≠ some h ∧ ∀ q, q ≠ p → (s.program q).held ≠ some h)
    (hand : ∀ q h, q ≠ p → g'.hand = some h → (s.program q).held ≠ some h)
    (dropped : (t.program p).isDropped = true → (t.program p).isClosed = true) :
    Custody ⟨t, g'⟩ := by
  refine ⟨?_, ?_, ?_, ?_⟩
  · intro q r h hq hr
    change (t.program q).held = some h at hq
    change (t.program r).held = some h at hr
    by_cases hqp : q = p
    · subst hqp
      by_cases hrq : r = q
      · exact hrq.symm
      · exact absurd (others r hrq ▸ hr) ((held h hq).2.2 r hrq)
    · rw [others q hqp] at hq
      by_cases hrp : r = p
      · subst hrp
        exact absurd hq ((held h hr).2.2 q hqp)
      · rw [others r hrp] at hr
        exact hc.unique q r h hq hr
  · intro q h hm hq
    change (t.program q).held = some h at hq
    by_cases hqp : q = p
    · subst hqp
      exact (held h hq).2.1 hm
    · exact hand q h hqp hm (others q hqp ▸ hq)
  · intro q hq
    change (t.program q).isClosed = true at hq
    show (t.program q).held = none
    by_cases hqp : q = p
    · subst hqp
      cases hh : (t.program q).held with
      | none => rfl
      | some h => exact absurd (hq.symm.trans (held h hh).1) (by decide)
    · rw [others q hqp] at hq ⊢
      exact hc.closed q hq
  · intro q
    show (t.program q).isDropped = true → (t.program q).isClosed = true
    by_cases hqp : q = p
    · subst hqp
      exact dropped
    · rw [others q hqp]
      exact hc.dropped q

theorem Custody.step {a b : Moment σ} (ha : Custody a) (hh : Homes a) (ht : Tokened a)
    (hm : Move E a b) : Custody b := by
  cases hm with
  | @compile s g =>
    refine ⟨ha.unique, fun p h hm hp => ?_, ha.closed, ha.dropped⟩
    cases hm
    exact absurd (hh.held p _ hp).exists_ (Nat.lt_irrefl _)
  | @attach s g sql h free stored idle =>
    refine ⟨ha.unique, fun p k hm hp => ?_, ha.closed, ha.dropped⟩
    cases hm
    have hu : (s.statement h).inUse = true :=
      (ht h (.inl ⟨_, _, stored, rfl⟩)).2 (.inr ⟨p, hp⟩)
    exact absurd (idle.symm.trans hu) (by decide)
  | @hold s g p h actor atHand home free isOpen =>
    have hp := program_withProgram_self (lt_of_not_closed isOpen)
      fun x => { x with held := some h, pending := [] }
    refine ha.of_program (fun q hq => program_withProgram_of_ne hq _) (fun k hk => ?_)
      (fun _ _ _ => nofun) fun hd => ?_
    · rw [hp] at hk ⊢
      cases hk
      exact ⟨isOpen, nofun, fun q _ => ha.apart q h atHand⟩
    · rw [hp] at hd ⊢
      exact ha.dropped p hd
  | @queue s g p own f =>
    refine ha.of_program (fun q hq => program_withProgram_of_ne hq _) (fun k hk => ?_)
      (fun q k _ hm => ha.apart q k hm) fun hd => ?_
    · have hk' : (s.program p).held = some k := by
        rw [program_withProgram] at hk
        split at hk <;> exact hk
      refine ⟨?_, fun hm => ha.apart p k hm hk', fun q hq hqk => hq (ha.unique q p k hqk hk')⟩
      rw [program_withProgram]
      split <;> exact ha.live_of_held hk'
    · rw [program_withProgram] at hd ⊢
      split at hd
      · next hn =>
        rw [if_pos hn]
        exact ha.dropped p hd
      · next hn =>
        rw [if_neg hn]
        exact ha.dropped p hd
  | @close s g p free isOpen home =>
    have hp := program_withProgram_self (lt_of_not_closed isOpen)
      fun x => { x with held := none, pending := [], isClosed := true }
    refine ha.of_program (fun q hq => program_withProgram_of_ne hq _) (fun k hk => ?_)
      (fun q k hq hm hqk => hq (ha.unique q p k hqk hm)) fun _ => ?_
    · rw [hp] at hk
      nomatch hk
    · rw [hp]
  | @create s g k sql =>
    have hp := program_created s g.connection sql s.programs.next
    rw [if_pos rfl] at hp
    refine ha.of_program (p := s.programs.next) (fun q hq => ?_) (fun k hk => ?_)
      (fun q k _ hm => ha.apart q k hm) fun hd => ?_
    · rw [program_created, if_neg hq]
    · rw [hp] at hk
      nomatch hk
    · rw [hp] at hd
      nomatch hd
  | @dropProgram s g p empty home closed =>
    have hc : ∀ x, x = (s.withProgram p fun x => { x with isDropped := true }).program p →
        x.held = none ∧ x.isClosed = true := by
      intro x same
      subst same
      rw [program_withProgram]
      split <;> exact ⟨ha.closed p closed, closed⟩
    refine ha.of_program (fun q hq => program_withProgram_of_ne hq _) (fun k hk => ?_)
      (fun q k _ hm => ha.apart q k hm) fun _ => (hc _ rfl).2
    exact absurd (hk.symm.trans (hc _ rfl).1) (by simp)
  | park | destroyHand | forget => exact ha.of_same rfl fun _ => nofun
  | _ => exact ha.of_same rfl fun _ => id

theorem Tokened.of_kept (ht : Tokened ⟨s, g⟩) (hk : ∀ k, Kept ⟨t, g'⟩ k → Kept ⟨s, g⟩ k)
    (hu : ∀ k, Kept ⟨t, g'⟩ k → (t.statement k).inUse = (s.statement k).inUse)
    (hh : ∀ k, Kept ⟨t, g'⟩ k → (Has ⟨t, g'⟩ k ↔ Has ⟨s, g⟩ k)) : Tokened ⟨t, g'⟩ := by
  intro k hm
  show (t.statement k).inUse = true ↔ _
  rw [hu k hm, hh k hm]
  exact ht k (hk k hm)

theorem Tokened.of_same (ht : Tokened ⟨s, g⟩) (hs : SameEntries s t) (hl : g'.loose = g.loose)
    (hu : ∀ k, (t.statement k).inUse = (s.statement k).inUse)
    (hh : ∀ k, Has ⟨t, g'⟩ k ↔ Has ⟨s, g⟩ k) : Tokened ⟨t, g'⟩ :=
  ht.of_kept (fun _ => (hs.kept hl).1) (fun k _ => hu k) fun k _ => hh k

theorem inUse_withStatement (s : Store σ) (h k : CompiledId) {f : Compiled → Compiled}
    (hf : ∀ x, (f x).inUse = x.inUse) :
    ((s.withStatement h f).statement k).inUse = (s.statement k).inUse := by
  rw [statement_withStatement]
  split
  · exact hf _
  · rfl

theorem inUse_struck (s : Store σ) (h k : CompiledId) :
    ((s.struck E h).statement k).inUse = (s.statement k).inUse :=
  inUse_withStatement s h k fun _ => rfl

/-- Who has what is the same if the programs hold what they held. -/
theorem has_iff (hp : ∀ p, (t.program p).held = (s.program p).held) (hh : g'.hand = g.hand)
    {k : CompiledId} : Has ⟨t, g'⟩ k ↔ Has ⟨s, g⟩ k := by
  simp only [Has, hp, hh]

/-- Other statements than the one at hand are held by programs. -/
theorem has_iff_held {h k : CompiledId} (hh : g.hand = none ∨ g.hand = some h) (hk : k ≠ h) :
    Has ⟨s, g⟩ k ↔ ∃ p, (s.program p).held = some k := by
  constructor
  · intro either
    rcases either with hm | hp
    · have hm : g.hand = some k := hm
      rcases hh with hh | hh
      · exact absurd (hm.symm.trans hh) nofun
      · exact absurd (Option.some.inj (hm.symm.trans hh)) hk
    · exact hp
  · exact .inr

/-- A program that takes the statement at hand has it instead of the operation. -/
theorem has_hold {p : ProgramId} {h : CompiledId} (atHand : g.hand = some h)
    (free : (s.program p).held = none) (isOpen : (s.program p).isClosed = false)
    {k : CompiledId} :
    Has ⟨s.withProgram p fun x => { x with held := some h, pending := [] },
      { g with hand := none }⟩ k ↔ Has ⟨s, g⟩ k := by
  have hp := program_withProgram_self (lt_of_not_closed isOpen)
    fun x => { x with held := some h, pending := [] }
  constructor
  · intro either
    rcases either with hm | ⟨q, hq⟩
    · nomatch hm
    · by_cases hqp : q = p
      · subst hqp
        refine .inl (atHand.trans ?_)
        exact (congrArg Program.held hp).symm.trans hq
      · exact .inr ⟨q, (congrArg Program.held (program_withProgram_of_ne hqp _)).symm.trans hq⟩
  · intro either
    rcases either with hm | ⟨q, hq⟩
    · exact .inr ⟨p, (congrArg Program.held hp).trans (atHand.symm.trans hm)⟩
    · have hqp : q ≠ p := by
        intro same
        subst same
        exact absurd (free.symm.trans hq) nofun
      exact .inr ⟨q, (congrArg Program.held (program_withProgram_of_ne hqp _)).trans hq⟩

/-- When a program is closed, the operation has what the program held. -/
theorem has_close {p : ProgramId} {sweep : List ProgramId} {owed : Nat} (free : g.hand = none)
    (isOpen : (s.program p).isClosed = false) {k : CompiledId} :
    Has ⟨s.withProgram p fun x => { x with held := none, pending := [], isClosed := true },
      { g with hand := (s.program p).held, sweep, owed }⟩ k ↔ Has ⟨s, g⟩ k := by
  have hp := program_withProgram_self (lt_of_not_closed isOpen)
    fun x => { x with held := none, pending := [], isClosed := true }
  constructor
  · intro either
    rcases either with hm | ⟨q, hq⟩
    · exact .inr ⟨p, hm⟩
    · have hqp : q ≠ p := by
        intro same
        subst same
        exact absurd ((congrArg Program.held hp).symm.trans hq) nofun
      exact .inr ⟨q, (congrArg Program.held (program_withProgram_of_ne hqp _)).symm.trans hq⟩
  · intro either
    rcases either with hm | ⟨q, hq⟩
    · exact absurd (free.symm.trans hm) nofun
    · by_cases hqp : q = p
      · subst hqp
        exact .inl hq
      · exact .inr ⟨q, (congrArg Program.held (program_withProgram_of_ne hqp _)).trans hq⟩

/-- A new program holds nothing. -/
theorem has_created {c : ConnectionId} {sql : String} (hh : g'.hand = g.hand) {k : CompiledId} :
    Has ⟨s.created c sql, g'⟩ k ↔ Has ⟨s, g⟩ k := by
  refine has_iff (fun p => ?_) hh
  rw [program_created]
  split
  · next hp =>
    subst hp
    have hn : s.program s.programs.next = default := Table.get_of_le _ (Nat.le_refl _)
    rw [hn]
    rfl
  · rfl

theorem Tokened.step {a b : Moment σ} (ha : Tokened a) (hk : Keyed a.store) (hh : Homes a)
    (hl : Loose a) (hi : Intact a) (hc : Custody a) (hm : Move E a b) : Tokened b := by
  cases hm with
  | @compile s g sql n isOpen free =>
    have hs : SameEntries s (s.grown E g.connection sql n) := fun _ _ => .rfl
    have hne {k : CompiledId} (hm : Kept ⟨s.grown E g.connection sql n,
        { g with hand := some s.compiled.next }⟩ k) : k ≠ s.compiled.next :=
      Nat.ne_of_lt (hh.lt_of_kept ((hs.kept rfl).1 hm))
    refine ha.of_kept (fun k => (hs.kept rfl).1) (fun k hm => ?_) fun k hm => ?_
    · rw [statement_grown, if_neg (hne hm)]
    -- what is kept is older than the statement at hand, so only programs can have it
    · exact (has_iff_held (.inr rfl) (hne hm)).trans (has_iff_held (.inl free) (hne hm)).symm
  | @claim s g h atHand =>
    intro k hm
    by_cases hkh : k = h
    · subst hkh
      have hb : Belongs s k g.connection := hh.hand k atHand
      have hu := statement_withStatement_self hb.exists_ fun x => { x with inUse := true }
      exact iff_of_true (congrArg Compiled.inUse hu) (.inl atHand)
    · show ((s.withStatement h fun x => { x with inUse := true }).statement k).inUse = true ↔ _
      rw [statement_withStatement_of_ne hkh]
      exact ha k hm
  | @attach s g sql h free stored idle =>
    intro k hm
    by_cases hkh : k = h
    · subst hkh
      have hb : Belongs s k g.connection := (hh.entry _ _ stored).1
      have hu := statement_withStatement_self hb.exists_ fun x => { x with inUse := true }
      exact iff_of_true (congrArg Compiled.inUse hu) (.inl rfl)
    · show ((s.withStatement h fun x => { x with inUse := true }).statement k).inUse = true ↔ _
      rw [statement_withStatement_of_ne hkh]
      apply (ha k hm).trans
      exact (has_iff_held (.inl free) hkh).trans (has_iff_held (.inr rfl) hkh).symm
  | reorder same =>
    exact ha.of_same (.reorder (same (hk _))) rfl (fun _ => rfl) fun _ => .rfl
  | store isOpen referenced atHand empty claimed =>
    intro k hm
    rcases (kept_store (lt_of_isOpen isOpen)).1 hm with ho | rfl
    · exact ha k ho
    · exact iff_of_true claimed (.inl atHand)
  | clear empty parts =>
    exact ha.of_kept (fun k => (kept_clear hk empty (parts (hk _))).1) (fun _ _ => rfl)
      fun _ _ => .rfl
  | leave next =>
    exact ha.of_kept (fun k hm => ((hl.kept_tail next (.refl _)).1 hm).1) (fun _ _ => rfl)
      fun _ _ => .rfl
  | destroyLoose next =>
    exact ha.of_kept (fun k hm => ((hl.kept_tail next (.refl _)).1 hm).1)
      (fun k _ => inUse_struck ..) fun _ _ => .rfl
  | hold actor atHand home free isOpen =>
    exact ha.of_same (.refl _) rfl (fun _ => rfl) fun _ => has_hold atHand free isOpen
  | queue | dropProgram =>
    refine ha.of_same (.refl _) rfl (fun _ => rfl) fun k => has_iff (fun q => ?_) rfl
    rw [program_withProgram]
    split <;> rfl
  | close free isOpen =>
    exact ha.of_same (.refl _) rfl (fun _ => rfl) fun _ => has_close free isOpen
  | @park s g h atHand =>
    intro k hm
    by_cases hkh : k = h
    · subst hkh
      have hb : Belongs s k g.connection := hh.hand k atHand
      have hu := statement_withStatement_self hb.exists_ fun x => { x with inUse := false }
      refine iff_of_false ?_ ?_
      -- an idle statement is nobody's: what is at hand is held by no program
      · intro ht
        nomatch (congrArg Compiled.inUse hu).symm.trans ht
      · intro hm
        obtain ⟨p, hp⟩ := hm.of_empty rfl
        exact hc.apart p k atHand hp
    · show ((s.withStatement h fun x => { x with inUse := false }).statement k).inUse = true ↔ _
      rw [statement_withStatement_of_ne hkh]
      apply (ha k hm).trans
      exact (has_iff_held (.inr atHand) hkh).trans (has_iff_held (.inl rfl) hkh).symm
  | @destroyHand s g h atHand empty absent =>
    -- the token of a statement that is kept nowhere is of no interest
    have hn : ¬ Kept ⟨s, g⟩ h := not_kept empty fun hs =>
      absurd (absent.symm.trans ((isCachedBy_iff hk hh (hh.hand h atHand).home).2 hs)) (by decide)
    refine ha.of_kept (fun _ => id) (fun k _ => inUse_struck ..) fun k hm => ?_
    have hkh : k ≠ h := by
      intro same
      subst same
      exact hn hm
    exact (has_iff_held (.inl rfl) hkh).trans (has_iff_held (.inr atHand) hkh).symm
  | @forget s g h atHand empty gone =>
    refine ha.of_kept (fun _ => id) (fun _ _ => rfl) fun k hm => ?_
    have hkh : k ≠ h := by
      intro same
      subst same
      exact absurd (gone.symm.trans (hi k hm)) (by decide)
    exact (has_iff_held (.inl rfl) hkh).trans (has_iff_held (.inr atHand) hkh).symm
  | create => exact ha.of_same (.created _ _ _) rfl (fun _ => rfl) fun _ => has_created rfl
  | connect => exact ha.of_same (.connected _ rfl) rfl (fun _ => rfl) fun _ => .rfl
  | deregister | take | release | retire | shut | dropClone | clone =>
    exact ha.of_same (.withConnection _ _ fun _ => rfl) rfl (fun _ => rfl) fun _ => .rfl
  | borrow | giveBack =>
    exact ha.of_same (.refl _) rfl (fun k => inUse_withStatement _ _ k fun _ => rfl) fun _ => .rfl
  | @destroyReturned s g h =>
    refine ha.of_same (.refl _) rfl (fun k => (inUse_struck _ h k).trans ?_) fun _ => .rfl
    exact inUse_withStatement s h k fun _ => rfl
  | _ => exact ha.of_same (.refl _) rfl (fun _ => rfl) fun _ => .rfl

end Prepared.Store
