import Prepared.Proofs.Action
import Prepared.Proofs.Custody
import Prepared.Proofs.Registry

/-! Sound stores.

The invariants of the moves hold together, so they hold at the end of every run. What holds
then besides is that a statement in use is not destroyed as long as its connection is open. -/
namespace Prepared.Store

variable {σ : Type} {E : Engine σ} {s t : Store σ} {g g' : Grip}

/-- Nobody has a destroyed statement of an open connection. -/
def Live (m : Moment σ) : Prop :=
  ∀ h, Has m h → (m.store.connection (m.store.statement h).connection).isOpen = true →
    (m.store.statement h).destroyed = false

/-- Only a statement of which somebody has a record can be had. -/
theorem Homes.lt_of_has {m : Moment σ} {h : CompiledId} (hh : Homes m) (hm : Has m h) :
    h < m.store.compiled.next := by
  rcases hm with hm | ⟨p, hp⟩
  · exact (hh.hand h hm).exists_
  · exact (hh.held p h hp).exists_

namespace Live

/-- A later store in which nobody else has a statement, no connection was opened again, and
what somebody has was not destroyed. -/
theorem of_frame (hl : Live ⟨s, g⟩) (hh : Homes ⟨s, g⟩) (he : Extends s t)
    (has : ∀ h, Has ⟨t, g'⟩ h → Has ⟨s, g⟩ h)
    (opened : ∀ h, Has ⟨s, g⟩ h → (t.connection (s.statement h).connection).isOpen = true →
      (s.connection (s.statement h).connection).isOpen = true)
    (destroyed : ∀ h, Has ⟨t, g'⟩ h →
      (t.connection (s.statement h).connection).isOpen = true →
      (t.statement h).destroyed = (s.statement h).destroyed) : Live ⟨t, g'⟩ := by
  intro h hm ho
  have hs := has h hm
  have hc : (t.statement h).connection = (s.statement h).connection :=
    he.statement_connection (hh.lt_of_has hs)
  change (t.connection (t.statement h).connection).isOpen = true at ho
  rw [hc] at ho
  exact (destroyed h hm ho).trans (hl h hs (opened h hs ho))

theorem of_same (hl : Live ⟨s, g⟩) (hh : Homes ⟨s, g⟩) (he : Extends s t)
    (has : ∀ h, Has ⟨t, g'⟩ h → Has ⟨s, g⟩ h)
    (opened : ∀ c, (t.connection c).isOpen = true → (s.connection c).isOpen = true)
    (destroyed : ∀ h, (t.statement h).destroyed = (s.statement h).destroyed) : Live ⟨t, g'⟩ :=
  hl.of_frame hh he has (fun _ _ => opened _) fun h _ _ => destroyed h

theorem isOpen_withConnection (s : Store σ) (c d : ConnectionId) {f : Connection → Connection}
    (hf : ∀ x, (f x).isOpen = true → x.isOpen = true)
    (h : ((s.withConnection c f).connection d).isOpen = true) :
    (s.connection d).isOpen = true := by
  rw [connection_withConnection] at h
  split at h
  · exact hf _ h
  · exact h

theorem step {a b : Moment σ} (ha : Live a) (ht : Rooted a.store) (hh : Homes a)
    (hi : Intact a) (hc : Custody a) (hu : Tokened a) (hm : Move E a b) : Live b := by
  have he := hm.extends
  cases hm with
  | @compile s g sql n isOpen free =>
    intro h hm ho
    change ((s.grown E g.connection sql n).statement h).destroyed = false
    rw [statement_grown]
    split
    · rfl
    · next hn =>
      have hs : Has ⟨s, g⟩ h := (has_iff_held (.inl free) hn).2 ((has_iff_held (.inr rfl) hn).1 hm)
      apply ha h hs
      change ((s.grown E g.connection sql n).connection
        ((s.grown E g.connection sql n).statement h).connection).isOpen = true at ho
      rw [statement_grown, if_neg hn] at ho
      exact ho
  | @attach s g sql h free stored idle =>
    intro k hm ho
    have hd : ((s.withStatement h fun x => { x with inUse := true }).statement k).destroyed =
        (s.statement k).destroyed := destroyed_withStatement s h k fun _ => rfl
    by_cases hkh : k = h
    · subst hkh
      exact hd.trans (hi k (.inl ⟨_, _, stored, rfl⟩))
    · have hs : Has ⟨s, g⟩ k := (has_iff_held (.inl free) hkh).2 ((has_iff_held (.inr rfl) hkh).1 hm)
      refine hd.trans (ha k hs ?_)
      rw [← he.statement_connection (hh.lt_of_has hs)]
      exact ho
  | reorder | store | clear | deregister | take | release | dropClone | clone =>
    exact ha.of_same hh he (fun _ => id) (fun d => isOpen_withConnection _ _ d fun _ => id)
      fun _ => rfl
  | retire | shut =>
    exact ha.of_same hh he (fun _ => id) (fun d => isOpen_withConnection _ _ d nofun)
      fun _ => rfl
  | claim | borrow | giveBack =>
    exact ha.of_same hh he (fun _ => id) (fun _ => id)
      fun k => destroyed_withStatement _ _ k fun _ => rfl
  | @park s g h atHand =>
    refine ha.of_same hh he (fun k hm => ?_) (fun _ => id)
      fun k => destroyed_withStatement _ _ k fun _ => rfl
    exact .inr (hm.of_empty rfl)
  | @destroyLoose s g h hs next live spare =>
    have hk : Kept ⟨s, g⟩ h := .inr (by
      show h ∈ g.loose
      rw [next]
      exact List.mem_cons_self ..)
    refine ha.of_frame hh he (fun _ => id) (fun _ _ => id) fun k hm ho => destroyed_struck ?_
    intro same
    subst same
    have hs : Has ⟨s, g⟩ k := hm
    -- nobody has a spare statement, unless its connection is closed
    rcases spare with idle | closed | ⟨free, unheld⟩
    · exact absurd (idle.symm.trans ((hu k hk).2 hs)) (by decide)
    · have hb : Belongs s k g.connection :=
        hh.loose k (next ▸ List.mem_cons_self ..)
      rw [hb.home] at ho
      exact absurd (closed.symm.trans ho) (by decide)
    · exact absurd (unheld.symm.trans (isHeld_iff.2 (hs.of_empty free))) (by decide)
  | @destroyHand s g h atHand empty absent =>
    refine ha.of_frame hh he (fun k hm => ?_) (fun _ _ => id) fun k hm _ => destroyed_struck ?_
    · exact .inr (hm.of_empty rfl)
    · intro same
      subst same
      obtain ⟨p, hp⟩ := hm.of_empty rfl
      exact hc.apart p k atHand hp
  | @forget s g h atHand =>
    refine ha.of_same hh he (fun k hm => ?_) (fun _ => id) fun _ => rfl
    exact .inr (hm.of_empty rfl)
  | @destroyReturned s g h free empty live absent unheld =>
    apply ha.of_frame hh he (fun _ => id) (fun _ _ => id)
    intro k hm _
    have hkh : k ≠ h := by
      intro same
      subst same
      exact absurd (unheld.symm.trans (isHeld_iff.2 (hm.of_empty free))) (by decide)
    exact (destroyed_struck hkh).trans (destroyed_withStatement s h k fun _ => rfl)
  | hold actor atHand home free isOpen =>
    exact ha.of_same hh he (fun _ => (has_hold atHand free isOpen).1) (fun _ => id) fun _ => rfl
  | close free isOpen =>
    exact ha.of_same hh he (fun _ => (has_close free isOpen).1) (fun _ => id) fun _ => rfl
  | queue | dropProgram =>
    refine ha.of_same hh he (fun k => (has_iff (fun q => ?_) rfl).1) (fun _ => id) fun _ => rfl
    rw [program_withProgram]
    split <;> rfl
  | create =>
    refine ha.of_same hh he (fun _ => (has_created rfl).1) (fun d => ?_) fun _ => rfl
    exact isOpen_withConnection _ _ d fun _ => id
  | @connect s g i settings =>
    refine ha.of_frame hh he (fun _ => id) (fun h hm ho => ?_) fun _ _ _ => rfl
    have hlt := ht.statement h (hh.lt_of_has hm)
    rw [connection_pushed, if_neg (Nat.ne_of_lt hlt)] at ho
    exact ho
  | _ => exact ha.of_same hh he (fun _ => id) (fun _ => id) fun _ => rfl

end Live

/-- The invariants of moves. -/
structure Sound (m : Moment σ) : Prop where
  keyed : Keyed m.store
  rooted : Rooted m.store
  homes : Homes m
  loose : Loose m
  intact : Intact m
  custody : Custody m
  tokened : Tokened m
  live : Live m
  registry : Registry m

theorem Sound.step {a b : Moment σ} (ha : Sound a) (hm : Move E a b) : Sound b where
  keyed := ha.keyed.step hm
  rooted := ha.rooted.step hm
  homes := ha.homes.step ha.keyed hm
  loose := ha.loose.step ha.keyed ha.homes hm
  intact := ha.intact.step ha.keyed ha.homes ha.loose hm
  custody := ha.custody.step ha.homes ha.tokened hm
  tokened := ha.tokened.step ha.keyed ha.homes ha.loose ha.intact ha.custody hm
  live := ha.live.step ha.rooted ha.homes ha.intact ha.custody ha.tokened hm
  registry := ha.registry.step ha.rooted hm

theorem Sound.registered {m : Moment σ} (hs : Sound m) : Registered m.store :=
  fun c p hm => (hs.registry.member c p hm).2

/-- Nothing is in charge of an operation, references apart. -/
structure Grip.Idle (g : Grip) : Prop where
  hand : g.hand = none
  loose : g.loose = []
  sweep : g.sweep = []
  leaving : g.leaving = false

theorem Action.entry_idle (s : Store σ) (a : Action) : (a.entry s).Idle :=
  ⟨rfl, rfl, rfl, rfl⟩

theorem Action.exit_idle (s : Store σ) (a : Action) (succeeded : Bool) :
    (a.exit s succeeded).Idle :=
  ⟨rfl, rfl, rfl, rfl⟩

/-- Between operations it does not matter which one is next. -/
theorem Sound.regrip (hs : Sound ⟨s, g⟩) (idle : g.Idle) (idle' : g'.Idle) : Sound ⟨s, g'⟩ := by
  have kept {h : CompiledId} : Kept ⟨s, g'⟩ h ↔ Kept ⟨s, g⟩ h :=
    (SameEntries.refl s).kept (idle'.loose.trans idle.loose.symm)
  have has {h : CompiledId} : Has ⟨s, g'⟩ h ↔ Has ⟨s, g⟩ h :=
    has_iff (fun _ => rfl) (idle'.hand.trans idle.hand.symm)
  have unhanded {h : CompiledId} : g'.hand ≠ some h := by
    rw [idle'.hand]
    exact nofun
  have unloosed {h : CompiledId} : h ∉ g'.loose := by
    rw [idle'.loose]
    exact List.not_mem_nil
  exact {
    keyed := hs.keyed
    rooted := hs.rooted
    homes := ⟨hs.homes.entry, fun _ hm => absurd hm unloosed, fun _ hm => absurd hm unhanded,
      hs.homes.held⟩
    loose := hs.loose.of_same (.refl s) (idle'.loose.trans idle.loose.symm)
    intact := fun h hm => hs.intact h (kept.1 hm)
    custody := ⟨hs.custody.unique, fun _ _ hm => absurd hm unhanded, hs.custody.closed,
      hs.custody.dropped⟩
    tokened := fun h hm => (hs.tokened h (kept.1 hm)).trans has.symm
    live := fun h hm => hs.live h (has.1 hm)
    registry := ⟨hs.registry.member, fun p hp => by
      rcases hs.registry.listed p hp with hl | hw
      · exact .inl hl
      · rw [show (⟨s, g⟩ : Moment σ).grip.sweep = [] from idle.sweep] at hw
        nomatch hw⟩ }

theorem Sound.empty (e : σ) (idle : g.Idle) : Sound ⟨{ engine := e }, g⟩ := by
  have entries (c : ConnectionId) :
      (({ engine := e } : Store σ).connection c).cache.entries = [] := rfl
  have unkept {h : CompiledId} : ¬ Kept ⟨{ engine := e }, g⟩ h :=
    not_kept idle.loose fun ⟨_, _, hm, _⟩ => List.not_mem_nil hm
  have unhanded {h : CompiledId} : g.hand ≠ some h := by
    rw [idle.hand]
    exact nofun
  have unhad {h : CompiledId} : ¬ Has ⟨{ engine := e }, g⟩ h := by
    intro either
    rcases either with hm | ⟨p, hp⟩
    · exact unhanded hm
    · nomatch hp
  have unloosed {h : CompiledId} : h ∉ g.loose := by
    rw [idle.loose]
    exact List.not_mem_nil
  exact {
    keyed := fun _ => List.nodup_nil
    rooted := ⟨fun _ => nofun, fun _ => nofun, fun _ => nofun⟩
    homes := ⟨fun _ _ => nofun, fun _ hm => absurd hm unloosed, fun _ hm => absurd hm unhanded,
      fun _ _ => nofun⟩
    loose := ⟨by rw [show (⟨_, g⟩ : Moment σ).grip.loose = [] from idle.loose]; exact List.nodup_nil,
      fun _ hm => absurd hm unloosed⟩
    intact := fun h hm => absurd hm unkept
    custody := ⟨fun _ _ _ => nofun, fun _ _ hm => absurd hm unhanded, fun _ _ => rfl, fun _ _ => rfl⟩
    tokened := fun h hm => absurd hm unkept
    live := fun h hm => absurd hm unhad
    registry := ⟨fun _ _ => nofun, fun _ => nofun⟩ }

/-- What the moves keep, whichever operation comes next, holds after every run. -/
theorem Run.keeps {e : σ} {I : Moment σ → Prop}
    (registered : ∀ m, I m → Registered m.store)
    (start : ∀ g : Grip, g.Idle → I ⟨{ engine := e }, g⟩)
    (regrip : ∀ s (g g' : Grip), g.Idle → g'.Idle → I ⟨s, g⟩ → I ⟨s, g'⟩)
    (step : ∀ a b, Move E a b → I a → I b) {past : List (Step σ)} (run : Run E e past s) :
    ∀ g : Grip, g.Idle → I ⟨s, g⟩ := by
  refine Run.invariant (I := fun s => ∀ g : Grip, g.Idle → I ⟨s, g⟩) start ?_ run
  intro s a hs allowed g idle
  have begun := hs (a.entry s) (a.entry_idle s)
  have ended := (a.moves (registered _ begun) allowed).invariant step begun
  exact regrip _ _ g (a.exit_idle s _) idle ended

/-- Every reachable store is sound. -/
theorem Run.sound {e : σ} {past : List (Step σ)} (run : Run E e past s) (idle : g.Idle) :
    Sound ⟨s, g⟩ :=
  run.keeps (fun _ hs => hs.registered) (fun _ => Sound.empty e) (fun _ _ _ hg hg' hs => hs.regrip hg hg')
    (fun _ _ hm hs => hs.step hm) g idle

/-! What is done after a run. -/

section Later

variable {e : σ} {past : List (Step σ)}

/-- What every move of a sound store keeps is kept by everything that is done after a run. -/
theorem Run.later {I : Moment σ → Prop} (run : Run E e past s) {as : List Action}
    (allowed : AllAllowed E as s)
    (regrip : ∀ s g g', I ⟨s, g⟩ → I ⟨s, g'⟩)
    (step : ∀ a b, Sound a → Move E a b → I a → I b) {g : Grip} (start : I ⟨s, g⟩) :
    I ⟨performAll E as s, g⟩ := by
  induction as generalizing past s with
  | nil => exact start
  | cons a as ih =>
    have sound : Sound ⟨s, a.entry s⟩ := run.sound (a.entry_idle s)
    have moved := (a.moves (E := E) sound.registered allowed.1).invariant
      (I := fun m => Sound m ∧ I m)
      (fun _ _ hm h => ⟨h.1.step hm, step _ _ h.1 hm h.2⟩) ⟨sound, regrip _ _ _ start⟩
    exact ih (run.step a allowed.1) allowed.2 (regrip _ _ _ moved.2)

theorem Run.later_extends (run : Run E e past s) {as : List Action}
    (allowed : AllAllowed E as s) : Extends s (performAll E as s) :=
  run.later (I := fun m => Extends s m.store) allowed (fun _ _ _ => id)
    (fun _ _ _ hm he => he.trans hm.extends) (g := { connection := 0 }) (.refl s)

theorem Run.step_extends (run : Run E e past s) {a : Action} (allowed : a.Allowed s) :
    Extends s (a.perform E s).2 :=
  run.later_extends (by exact ⟨allowed, trivial⟩ : AllAllowed E [a] s)

/-- A step of what is done after a run has a run before it, and the rest is done after it. -/
theorem Run.split (run : Run E e past s) {as : List Action} (allowed : AllAllowed E as s)
    {x : Step σ} (hx : x ∈ steps E as s []) :
    ∃ earlier rest, Run E e earlier x.before ∧ x.action.Allowed x.before ∧
      x.after = (x.action.perform E x.before).2 ∧ Extends s x.after ∧
      AllAllowed E rest x.after ∧ performAll E as s = performAll E rest x.after := by
  rcases exists_of_mem_steps hx with hn | ⟨bs, a, cs, rfl, rfl⟩
  · nomatch hn
  obtain ⟨first, here, rest⟩ := allowed.append
  have reached := run.extend bs first
  exact ⟨_, cs, reached, here, rfl, (run.later_extends first).trans (reached.step_extends here),
    rest, performAll_append ..⟩

end Later

end Prepared.Store
