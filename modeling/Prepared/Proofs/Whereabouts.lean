import Prepared.Proofs.Referents
import Prepared.Proofs.Sound

/-! Where a statement is.

A statement that is not destroyed is kept or in somebody's hands, unless its connection has
gone out of use with references left: then whoever looked the statement up keeps it. -/
namespace Prepared.Store

variable {σ : Type} {E : Engine σ} {s t : Store σ} {g g' : Grip} {h k : CompiledId}

/-- Whether only those who looked a statement up keep it, since nothing refers to its
connection. -/
structure Lent (s : Store σ) (h : CompiledId) : Prop where
  borrowed : 0 < (s.statement h).borrowers
  unreferenced : s.isReferenced (s.statement h).connection = false
  references : (s.connection (s.statement h).connection).references ≠ 0

/-- Whether it is known where a statement is. -/
def Accounted (m : Moment σ) (h : CompiledId) : Prop :=
  Kept m h ∨ Has m h ∨ Lent m.store h

/-- No statement that is not destroyed was lost. -/
def Found (m : Moment σ) : Prop :=
  ∀ h, (m.store.statement h).destroyed = false → Accounted m h

theorem borrowers_withStatement (s : Store σ) (h k : CompiledId) {f : Compiled → Compiled}
    (hf : ∀ x, (f x).borrowers = x.borrowers) :
    ((s.withStatement h f).statement k).borrowers = (s.statement k).borrowers :=
  statement_part s h k (fun x => x.borrowers) hf

theorem destroyed_struck_self (hd : (s.statement h).destroyed = false) :
    ((s.struck E h).statement h).destroyed = true := by
  rw [statement_struck, if_pos ⟨rfl, lt_of_not_destroyed hd⟩]

/-- What is left when a statement is destroyed is another one. -/
theorem ne_of_struck (live : (s.statement h).destroyed = false)
    (hd : ((s.struck E h).statement k).destroyed = false) : k ≠ h := by
  rintro rfl
  exact absurd (hd.symm.trans (destroyed_struck_self live)) (by decide)

/-- What is not destroyed after a move was not destroyed before. -/
theorem Move.destroyed_before {a b : Moment σ} (hm : Move E a b)
    (hk : k < a.store.compiled.next) (hd : (b.store.statement k).destroyed = false) :
    (a.store.statement k).destroyed = false := by
  have struck {s : Store σ} {h : CompiledId} (hd : ((s.struck E h).statement k).destroyed = false) :
      (s.statement k).destroyed = false := by
    rw [statement_struck] at hd
    split at hd
    · nomatch hd
    · exact hd
  have same {s : Store σ} {h : CompiledId} {f : Compiled → Compiled}
      (hd : ((s.withStatement h f).statement k).destroyed = false)
      (hf : ∀ x, (f x).destroyed = x.destroyed) : (s.statement k).destroyed = false :=
    (destroyed_withStatement s h k hf).symm.trans hd
  cases hm with
  | compile =>
    rw [statement_grown, if_neg (Nat.ne_of_lt hk)] at hd
    exact hd
  | claim | attach | park | borrow | giveBack => exact same hd fun _ => rfl
  | destroyLoose | destroyHand => exact struck hd
  | destroyReturned => exact same (struck hd) fun _ => rfl
  | _ => exact hd

/-- A connection that nothing refers to keeps its references. -/
theorem Move.references_left {a b : Moment σ} (hm : Move E a b) {c : ConnectionId}
    (hs : a.store.isReferenced c = false) (hr : (a.store.connection c).references ≠ 0) :
    (b.store.connection c).references ≠ 0 := by
  cases hm with
  | reorder | store | clear | deregister | shut | dropClone | clone =>
    refine ne_of_eq_of_ne ?_ hr
    exact references_withConnection _ _ c fun _ => rfl
  | take | release =>
    rw [connection_withConnection]
    split
    · exact Nat.succ_ne_zero _
    · exact hr
  | @retire s g k owed held drained referenced =>
    have hc : c ≠ g.connection := by
      intro same
      subst same
      exact absurd (hs.symm.trans referenced) (by decide)
    rw [connection_withConnection, if_neg fun hn => hc hn.1]
    exact hr
  | @create s g k sql =>
    refine ne_of_eq_of_ne ?_ hr
    exact connection_part _ g.connection c (fun x => x.references) fun _ => rfl
  | connect =>
    rw [connection_pushed]
    split
    · exact Nat.one_ne_zero
    · exact hr
  | _ => exact hr

/-- A statement that only its borrowers keep is kept by those that remain. -/
theorem Lent.after {a b : Moment σ} (hl : Lent a.store k) (ht : Rooted a.store)
    (hk : k < a.store.compiled.next) (hm : Move E a b)
    (borrowed : 0 < (b.store.statement k).borrowers) : Lent b.store k := by
  have hc := hm.extends.statement_connection hk
  refine ⟨borrowed, ?_, ?_⟩
  · rw [hc]
    exact hm.unreferenced (ht.statement k hk) hl.unreferenced
  · rw [hc]
    exact hm.references_left hl.unreferenced hl.references

/-- A statement that leaves the hands of the operation is another one's, if it is another. -/
theorem has_other (atHand : g.hand = some h)
    (hp : ∀ p, (t.program p).held = (s.program p).held) (hk : k ≠ h) (hm : Has ⟨s, g⟩ k) :
    Has ⟨t, g'⟩ k := by
  obtain ⟨p, hh⟩ := (has_iff_held (.inr atHand) hk).1 hm
  exact .inr ⟨p, (hp p).trans hh⟩

/-- What need not be destroyed once it is loose is accounted for in another way. -/
theorem accounted_of_settled (hs : Sound ⟨s, g⟩) (hp : Pending ⟨s, g⟩) {rest : List CompiledId}
    (next : g.loose = h :: rest) (live : (s.statement h).destroyed = false)
    (settled : (s.statement h).inUse = true ∨ (s.statement h).destroyed = true ∨
      s.isCached h = true ∨ s.isHeld h = true ∨
      (0 < (s.statement h).borrowers ∧ s.isReferenced g.connection = false)) :
    Accounted ⟨s, { g with loose := rest }⟩ h := by
  have hm : Kept ⟨s, g⟩ h := .inr (next ▸ List.mem_cons_self ..)
  have loose : g.loose ≠ [] := next ▸ List.cons_ne_nil _ _
  have home : (s.statement h).connection = g.connection :=
    (hs.homes.loose h (next ▸ List.mem_cons_self ..)).home
  rcases settled with used | gone | cached | held | ⟨borrowed, unreferenced⟩
  · exact .inr (.inl ((hs.tokened h hm).1 used))
  · exact absurd (live.symm.trans gone) (by decide)
  · exact .inl (.inl (stored_of_cached cached))
  · exact .inr (.inl (.inr (isHeld_iff.1 held)))
  · exact .inr (.inr ⟨borrowed, home ▸ unreferenced, home ▸ hp loose unreferenced⟩)

theorem Found.step {a b : Moment σ} (ha : Found a) (hs : Sound a) (hp : Pending a)
    (hm : Move E a b) : Found b := by
  intro k hd
  rcases Nat.lt_or_ge k a.store.compiled.next with old | new
  case inr =>
    obtain ⟨sql, n, -, -, hb, -⟩ := hm.new_statement new (lt_of_not_destroyed hd)
    rw [hb]
    exact .inr (.inl (.inl rfl))
  have hda := hm.destroyed_before old hd
  have lent (hl : Lent a.store k) (hb : 0 < (b.store.statement k).borrowers) : Accounted b k :=
    .inr (.inr (hl.after hs.rooted old hm hb))
  -- most moves leave the statement where it is
  have stays (kept : Kept a k → Kept b k) (has : Has a k → Has b k)
      (hb : 0 < (a.store.statement k).borrowers → 0 < (b.store.statement k).borrowers) :
      Accounted b k := by
    rcases ha k hda with hk | hh | hl
    · exact .inl (kept hk)
    · exact .inr (.inl (has hh))
    · exact lent hl (hb hl.borrowed)
  cases hm with
  | @compile s g sql n isOpen free =>
    have same : SameEntries s (s.grown E g.connection sql n) := fun _ _ => .rfl
    refine stays (same.kept rfl).2 ?_ ?_
    · intro hh
      have hk : k ≠ s.compiled.next := Nat.ne_of_lt old
      exact (has_iff_held (.inr rfl) hk).2 ((has_iff_held (.inl free) hk).1 hh)
    · intro hb
      rw [statement_grown, if_neg (Nat.ne_of_lt old)]
      exact hb
  | claim =>
    refine stays id id fun hb => Nat.lt_of_lt_of_eq hb (Eq.symm ?_)
    exact borrowers_withStatement _ _ k fun _ => rfl
  | @attach s g sql h free =>
    refine stays id (fun hh => ?_) fun hb => Nat.lt_of_lt_of_eq hb (Eq.symm ?_)
    · by_cases hk : k = h
      · exact .inl (congrArg some hk.symm)
      · exact (has_iff_held (.inr rfl) hk).2 ((has_iff_held (.inl free) hk).1 hh)
    · exact borrowers_withStatement _ _ k fun _ => rfl
  | reorder same =>
    exact stays ((SameEntries.reorder (same (hs.keyed _))).kept rfl).2 id id
  | store isOpen =>
    exact stays (fun hk => (kept_store (lt_of_isOpen isOpen)).2 (.inl hk)) id id
  | clear empty parts =>
    exact stays (kept_clear hs.keyed empty (parts (hs.keyed _))).2 id id
  | @leave s g h hs' next settled =>
    by_cases hk : k = h
    · subst hk
      exact accounted_of_settled hs hp next hda settled
    · exact stays (fun hm => (hs.loose.kept_tail next (.refl _)).2 ⟨hm, hk⟩) id id
  | @destroyLoose s g h hs' next live =>
    have hk : k ≠ h := ne_of_struck live hd
    apply stays (fun hm => (hs.loose.kept_tail next (.refl _)).2 ⟨hm, hk⟩) id
    intro hb
    rw [statement_struck_of_ne hk]
    exact hb
  | hold actor atHand home free isOpen => exact stays id (has_hold atHand free isOpen).2 id
  | close free isOpen => exact stays id (has_close free isOpen).2 id
  | queue | dropProgram =>
    refine stays id (has_iff (fun q => ?_) rfl).2 id
    rw [program_withProgram]
    split <;> rfl
  | @park s g h atHand stored =>
    by_cases hk : k = h
    · subst hk
      have home := (hs.homes.hand k atHand).home
      exact .inl (.inl ((isCachedBy_iff hs.keyed hs.homes home).1 stored))
    · refine stays id (has_other atHand (fun _ => rfl) hk) fun hb => Nat.lt_of_lt_of_eq hb (Eq.symm ?_)
      exact borrowers_withStatement _ _ k fun _ => rfl
  | @destroyHand s g h atHand empty absent live =>
    have hk : k ≠ h := ne_of_struck live hd
    apply stays id (has_other atHand (fun _ => rfl) hk)
    intro hb
    rw [statement_struck_of_ne hk]
    exact hb
  | @forget s g h atHand empty gone =>
    have hk : k ≠ h := by
      intro same
      subst same
      exact absurd (hda.symm.trans gone) (by decide)
    exact stays id (has_other atHand (fun _ => rfl) hk) id
  | create => exact stays ((SameEntries.created _ _ _).kept rfl).2 (has_created rfl).2 id
  | connect => exact stays ((SameEntries.connected _ rfl).kept rfl).2 id id
  | deregister | take | release | retire | shut | dropClone | clone =>
    refine stays (SameEntries.kept ?_ rfl).2 id id
    exact .withConnection _ _ fun _ => rfl
  | borrow h =>
    apply stays id id
    intro hb
    rw [statement_withStatement]
    split
    · exact Nat.succ_pos _
    · exact hb
  | @giveBack s g h settled =>
    by_cases hk : k = h
    · subst hk
      -- the last borrower goes only if something else keeps the statement
      rcases settled with gone | cached | held | more
      · exact absurd (hda.symm.trans gone) (by decide)
      · have hc : Stored s k := stored_of_cached cached
        exact .inl (.inl hc)
      · have hh : ∃ p, (s.program p).held = some k := isHeld_iff.1 held
        exact .inr (.inl (.inr hh))
      · apply stays id id
        intro _
        rw [statement_withStatement_self old]
        exact Nat.sub_pos_of_lt more
    · apply stays id id
      intro hb
      rw [statement_withStatement_of_ne hk]
      exact hb
  | @destroyReturned s g h free empty live =>
    have same : ((s.withStatement h fun x => { x with borrowers := x.borrowers - 1 }).statement
        h).destroyed = (s.statement h).destroyed := destroyed_withStatement s h h fun _ => rfl
    have hk : k ≠ h := ne_of_struck (same.trans live) hd
    apply stays id id
    intro hb
    rw [statement_struck_of_ne hk, statement_withStatement_of_ne hk]
    exact hb
  | _ => exact stays id id id

/-- A sound store that has lost no statement. -/
structure Conserved (m : Moment σ) : Prop where
  sound : Sound m
  drained : Drained m.store
  pending : Pending m
  vacant : Vacant m
  found : Found m

theorem Conserved.step {a b : Moment σ} (ha : Conserved a) (hm : Move E a b) : Conserved b where
  sound := ha.sound.step hm
  drained := ha.drained.step ha.sound.keyed hm
  pending := ha.pending.step ha.sound.keyed ha.drained hm
  vacant := ha.vacant.step ha.sound.keyed hm
  found := ha.found.step ha.sound ha.pending hm

theorem Conserved.regrip (hs : Conserved ⟨s, g⟩) (idle : g.Idle) (idle' : g'.Idle) :
    Conserved ⟨s, g'⟩ where
  sound := hs.sound.regrip idle idle'
  drained := hs.drained
  pending loose := absurd idle'.loose loose
  vacant c hc := by
    rcases hs.vacant c hc with hn | ⟨leaving, -⟩
    · exact .inl hn
    · exact absurd (idle.leaving.symm.trans leaving) (by decide)
  found h hd := by
    rcases hs.found h hd with hk | hh | hl
    · exact .inl (((SameEntries.refl s).kept (idle'.loose.trans idle.loose.symm)).2 hk)
    · exact .inr (.inl ((has_iff (fun _ => rfl) (idle'.hand.trans idle.hand.symm)).2 hh))
    · exact .inr (.inr hl)

/-- No reachable store has lost a statement. -/
theorem Run.conserved {e : σ} {past : List (Step σ)} (run : Run E e past s) (idle : g.Idle) :
    Conserved ⟨s, g⟩ := by
  refine run.keeps (fun _ hs => hs.sound.registered) (fun g hg => ?_)
    (fun _ _ _ hg hg' hs => hs.regrip hg hg') (fun _ _ hm hs => hs.step hm) g idle
  exact ⟨Sound.empty e hg, fun _ _ => ⟨rfl, rfl⟩, fun loose => absurd hg.loose loose,
    fun _ _ => .inl rfl, fun _ => nofun⟩

end Prepared.Store
