import Prepared.Proofs.Slotted

/-! What is done for others.

An operation that works for other programs leaves a program as it is, unless it closes it, and
leaves the slot of what the program holds as it is as long as the connection is open. So of
all operations only its own change what a program has bound. -/
namespace Prepared.Store

open Sql

variable {δ : Type} {L : Library δ} {s t u : Store (Engines δ)} {g : Grip} {p : ProgramId} {h : CompiledId}

/-- A program that is not closed is as it was before a move for others, new programs being as
those that were never created. -/
theorem Move.program_of_live {σ : Type} {E : Engine σ} {a b : Moment σ} (hm : Move E a b)
    (other : a.grip.actor ≠ some p) (live : (b.store.program p).isClosed = false) :
    (p < a.store.programs.next → (a.store.program p).isClosed = false) ∧
    (b.store.program p).held = (a.store.program p).held ∧
    (b.store.program p).pending = (a.store.program p).pending := by
  cases hm with
  | @hold s g q h actor =>
    have hq : p ≠ q := by
      intro same
      subst same
      exact other actor
    rw [program_withProgram_of_ne hq] at live ⊢
    exact ⟨fun _ => live, rfl, rfl⟩
  | @queue s g q own f =>
    have closed := program_part s q p (f := fun x => { x with pending := f x.pending })
      (fun x => x.isClosed) fun _ => rfl
    rw [closed] at live
    have hq : p ≠ q := by
      intro same
      subst same
      rcases own with actor | gone
      · exact other actor
      · exact absurd (gone.symm.trans live) (by decide)
    rw [program_withProgram_of_ne hq]
    exact ⟨fun _ => live, rfl, rfl⟩
  | @close s g q free isOpen home =>
    have hq : p ≠ q := by
      intro same
      subst same
      rw [program_withProgram_self (lt_of_not_closed isOpen)] at live
      nomatch live
    rw [program_withProgram_of_ne hq] at live ⊢
    exact ⟨fun _ => live, rfl, rfl⟩
  | @create s g k sql owed =>
    rw [program_created] at live ⊢
    by_cases hp : p = s.programs.next
    · rw [if_pos hp]
      have missing : s.program p = default := Table.get_of_le _ (Nat.le_of_eq hp.symm)
      rw [missing]
      exact ⟨fun hlt => absurd hlt (Nat.not_lt.2 (Nat.le_of_eq hp.symm)), rfl, rfl⟩
    · rw [if_neg hp] at live ⊢
      exact ⟨fun _ => live, rfl, rfl⟩
  | @dropProgram s g q empty home closed =>
    have kept := program_part s q p (f := fun x => { x with isDropped := true })
      (fun x => (x.isClosed, x.held, x.pending)) fun _ => rfl
    obtain ⟨hc, hk⟩ := Prod.mk.inj kept
    exact ⟨fun _ => hc.symm.trans live, Prod.mk.inj hk⟩
  | _ => exact ⟨fun _ => live, rfl, rfl⟩

/-- A move for others leaves the slot of what a program holds as it is. -/
theorem Move.slot?_of_held {a b : Moment (Engines δ)} (hm : Move L.engine a b) (ha : Sound a)
    (hs : Slotted a.store) (other : a.grip.actor ≠ some p)
    (held : (a.store.program p).held = some h) (live : (b.store.statement h).destroyed = false) :
    b.store.slot? h = a.store.slot? h := by
  have he := hm.extends
  have hh : h < a.store.compiled.next := Belongs.exists_ (ha.homes.held p h held)
  cases hm with
  | refuse isOpen answer => exact Engines.slot?_refused answer _
  | compile isOpen free answer => exact hs.slot?_grown answer hh
  | @use s g k r isOpen about used owner =>
    have hk : h ≠ k ∧ k < s.compiled.next := by
      rcases owner with hand | ⟨q, actor, hq, -⟩
      · exact ⟨fun same => ha.custody.apart p k hand (same ▸ held), (ha.homes.hand k hand).exists_⟩
      · refine ⟨?_, (ha.homes.held q k hq).exists_⟩
        intro same
        subst same
        exact other (ha.custody.unique p q h held hq ▸ actor)
    exact hs.slot?_asked about hh hk.2 hk.1
  | @destroyLoose s g k ks next alive | @destroyHand s g k atHand empty absent alive =>
    have hk : k < s.compiled.next := lt_of_not_destroyed alive
    refine hs.slot?_struck hh hk ?_
    intro same
    subst same
    rw [statement_struck, if_pos ⟨rfl, hk⟩] at live
    nomatch live
  | @destroyReturned s g k free empty alive =>
    have hk : k < s.compiled.next := lt_of_not_destroyed alive
    have same : ∀ x, (s.withStatement k fun x => { x with borrowers := x.borrowers - 1 }).native x =
        s.native x := fun x => statement_part s k x (fun x => (x.engine, x.statement)) fun _ => rfl
    have hd : h ≠ k := by
      intro same
      subst same
      have hn :
          h < (s.withStatement h fun x => { x with borrowers := x.borrowers - 1 }).compiled.next :=
        Nat.lt_of_lt_of_eq hk (next_withStatement ..).symm
      rw [statement_struck, if_pos ⟨rfl, hn⟩] at live
      nomatch live
    have asked := hs.slot?_asked (L := L) (r := .destroy (s.native k).2) rfl hh hk hd
    unfold slot? at asked ⊢
    rw [he.native hh]
    refine Eq.trans ?_ asked
    show (L.engine.run (Store.native _ k).1 (.destroy (Store.native _ k).2) s.engine).2.slot? _ = _
    rw [same]
    rfl
  | _ => exact slot?_of_engine he hh rfl

/-- What is left of a program by what was done for others since. -/
structure Untouched (p : ProgramId) (s t : Store (Engines δ)) : Prop where
  opened : ∀ c < s.connections.next, (t.connection c).isOpen = true →
    (s.connection c).isOpen = true
  live : p < s.programs.next → (t.program p).isClosed = false → (s.program p).isClosed = false
  held : (t.program p).isClosed = false → (t.program p).held = (s.program p).held
  pending : (t.program p).isClosed = false → (t.program p).pending = (s.program p).pending
  slot : ∀ h, (t.program p).held = some h →
    (t.connection (t.program p).connection).isOpen = true → t.slot? h = s.slot? h

namespace Untouched

theorem refl (p : ProgramId) (s : Store (Engines δ)) : Untouched p s s :=
  ⟨fun _ _ => id, fun _ => id, fun _ => rfl, fun _ => rfl, fun _ _ _ => rfl⟩

/-- One more move for others. -/
theorem step {a b : Moment (Engines δ)} (hu : Untouched p s a.store) (he : Extends s a.store)
    (ha : Sound a) (hs : Slotted a.store) (hm : Move L.engine a b)
    (other : a.grip.actor ≠ some p) : Untouched p s b.store := by
  have hb := ha.step hm
  have opened (c : ConnectionId) (hc : c < a.store.connections.next)
      (ho : (b.store.connection c).isOpen = true) : (a.store.connection c).isOpen = true := by
    rw [← Bool.not_eq_false]
    intro closed
    exact absurd (ho.symm.trans (hm.closed hc closed)) (by decide)
  -- a program that was not there yet is as it was at the beginning
  have before (hn : a.store.programs.next ≤ p) : a.store.program p = s.program p := by
    have missing : a.store.program p = default := Table.get_of_le _ hn
    have absent : s.program p = default := Table.get_of_le _ (Nat.le_trans he.programs hn)
    rw [missing, absent]
  refine ⟨?_, ?_, ?_, ?_, ?_⟩
  · intro c hc ho
    exact hu.opened c hc (opened c (Nat.lt_of_lt_of_le hc he.connections) ho)
  · intro hp live
    have old := Nat.lt_of_lt_of_le hp he.programs
    exact hu.live hp ((hm.program_of_live other live).1 old)
  · intro live
    obtain ⟨was, held, -⟩ := hm.program_of_live other live
    rcases Nat.lt_or_ge p a.store.programs.next with old | new
    · exact held.trans (hu.held (was old))
    · exact held.trans (congrArg Program.held (before new))
  · intro live
    obtain ⟨was, -, pending⟩ := hm.program_of_live other live
    rcases Nat.lt_or_ge p a.store.programs.next with old | new
    · exact pending.trans (hu.pending (was old))
    · exact pending.trans (congrArg Program.pending (before new))
  · intro h hh ho
    have live := hb.custody.live_of_held hh
    obtain ⟨was, held, -⟩ := hm.program_of_live other live
    have hold : (a.store.program p).held = some h := held.symm.trans hh
    have old : p < a.store.programs.next := lt_of_not_closed (ha.custody.live_of_held hold)
    have home := hm.extends.home p old
    have hopen : (a.store.connection (a.store.program p).connection).isOpen = true := by
      apply opened _ (ha.rooted.program p old)
      rw [← home]
      exact ho
    have alive : (b.store.statement h).destroyed = false := by
      apply hb.live h (.inr ⟨p, hh⟩)
      have hb' : Belongs b.store h (b.store.program p).connection := hb.homes.held p h hh
      rw [hb'.home]
      exact ho
    exact (hm.slot?_of_held ha hs other hold alive).trans (hu.slot h hold hopen)

end Untouched

/-- The program that an operation works for is the same all along. -/
theorem Move.actor {σ : Type} {E : Engine σ} {a b : Moment σ} (hm : Move E a b) :
    b.grip.actor = a.grip.actor := by
  cases hm <;> rfl

/-- What holds of a run of moves for others, all in all. -/
theorem At.untouched (ha : At L.engine ⟨s, g⟩ g' t) (hs : Sound ⟨s, g⟩) (slotted : Slotted s)
    (other : g.actor ≠ some p) : Untouched p s t := by
  let I (m : Moment (Engines δ)) : Prop :=
    Sound m ∧ Slotted m.store ∧ Extends s m.store ∧ m.grip.actor ≠ some p ∧ Untouched p s m.store
  have all : I ⟨t, g'⟩ := by
    refine ha.invariant (I := I) ?_ ⟨hs, slotted, .refl s, other, .refl p s⟩
    intro a b hm hs
    obtain ⟨sound, slotted, extends_, other, untouched⟩ := hs
    have he := hm.extends
    refine ⟨sound.step hm, slotted.step he (hm.sends sound), extends_.trans he, ?_, ?_⟩
    · rw [hm.actor]
      exact other
    · exact untouched.step extends_ sound slotted hm other
  exact all.2.2.2.2

end Prepared.Store
