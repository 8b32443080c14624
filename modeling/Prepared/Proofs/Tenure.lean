import Prepared.Proofs.Frame
import Prepared.Proofs.Whereabouts

/-! How long a token is taken.

As long as a statement is not destroyed its token is taken only while somebody has the statement, be
it cached or not. But what is given up outside the cache is destroyed with its token: the token of
a statement that was evicted in use is never given back. -/
namespace Prepared.Store

open Operation

variable {σ : Type} {E : Engine σ} {s t : Store σ} {g g' : Grip} {h k : CompiledId} {p : ProgramId}

/-- Whether every token that is taken is that of a statement which somebody has, or of a destroyed
one. -/
def Answered (m : Moment σ) : Prop :=
  ∀ h, (m.store.statement h).inUse = true → (m.store.statement h).destroyed = true ∨ Has m h

namespace Answered

theorem of_same (ha : Answered ⟨s, g⟩)
    (inUse : ∀ k, (t.statement k).inUse = (s.statement k).inUse)
    (destroyed : ∀ k, (s.statement k).destroyed = true → (t.statement k).destroyed = true)
    (has : ∀ k, Has ⟨s, g⟩ k → Has ⟨t, g'⟩ k) : Answered ⟨t, g'⟩ :=
  fun k taken => (ha k ((inUse k).symm.trans taken)).imp (destroyed k) (has k)

/-- Only one statement has changed: it is enough to look at this one. -/
theorem of_statement (ha : Answered ⟨s, g⟩) (h : CompiledId)
    (own : (t.statement h).inUse = true → (t.statement h).destroyed = true ∨ Has ⟨t, g'⟩ h)
    (others : ∀ k, k ≠ h → t.statement k = s.statement k)
    (has : ∀ k, k ≠ h → Has ⟨s, g⟩ k → Has ⟨t, g'⟩ k) : Answered ⟨t, g'⟩ := by
  intro k taken
  by_cases hk : k = h
  · exact hk ▸ own (hk ▸ taken)
  · change (t.statement k).inUse = true at taken
    show (t.statement k).destroyed = true ∨ _
    rw [others k hk] at taken ⊢
    exact (ha k taken).imp_right (has k hk)

theorem struck (ha : Answered ⟨s, g⟩) (hand : g'.hand = g.hand) (h : CompiledId) :
    Answered ⟨s.struck E h, g'⟩ := by
  refine ha.of_same (fun k => inUse_struck s h k) (fun k marked => ?_)
    fun _ => (has_iff (fun _ => rfl) hand).2
  rw [statement_struck]
  split
  · rfl
  · exact marked

theorem withStatement (ha : Answered ⟨s, g⟩) (h : CompiledId) {f : Compiled → Compiled}
    (inUse : ∀ x, (f x).inUse = x.inUse) (destroyed : ∀ x, (f x).destroyed = x.destroyed) :
    Answered ⟨s.withStatement h f, g⟩ :=
  ha.of_same (fun k => inUse_withStatement s h k inUse)
    (fun k marked => (destroyed_withStatement s h k destroyed).trans marked) fun _ => id

theorem step {a b : Moment σ} (ha : Answered a) (sound : Sound a) (hm : Move E a b) :
    Answered b := by
  have other {s : Store σ} {h : CompiledId} {f : Compiled → Compiled} (k : CompiledId)
      (hk : k ≠ h) : (s.withStatement h f).statement k = s.statement k :=
    statement_withStatement_of_ne hk f
  cases hm with
  | @compile s g sql n isOpen free =>
    refine ha.of_statement s.compiled.next (fun _ => .inr (.inl rfl)) (fun k hk => ?_)
      fun k hk hm => .inr ((has_iff_held (.inl free) hk).1 hm)
    rw [statement_grown, if_neg hk]
  | @claim s g h atHand =>
    exact ha.of_statement h (fun _ => .inr (.inl atHand)) other fun k _ => id
  | @attach s g sql h free =>
    exact ha.of_statement h (fun _ => .inr (.inl rfl)) other
      fun k hk hm => .inr ((has_iff_held (.inl free) hk).1 hm)
  | @park s g h atHand =>
    refine ha.of_statement h (fun taken => ?_) other
      fun k hk hm => .inr ((has_iff_held (.inr atHand) hk).1 hm)
    have own := statement_withStatement_self (sound.homes.hand h atHand).exists_
      fun x => { x with inUse := false }
    nomatch (congrArg Compiled.inUse own).symm.trans taken
  | @destroyHand s g h atHand =>
    refine ha.of_statement h (fun _ => .inl ?_) (fun k hk => ?_)
      fun k hk hm => .inr ((has_iff_held (.inr atHand) hk).1 hm)
    · rw [statement_struck, if_pos ⟨rfl, (sound.homes.hand h atHand).exists_⟩]
    · exact statement_struck_of_ne hk
  | @forget s g h atHand empty gone =>
    exact ha.of_statement h (fun _ => .inl gone) (fun _ _ => rfl)
      fun k hk hm => .inr ((has_iff_held (.inr atHand) hk).1 hm)
  | destroyLoose => exact ha.struck rfl _
  | @destroyReturned s g h =>
    have returned : Answered ⟨s.withStatement h fun x => { x with borrowers := x.borrowers - 1 }, g⟩ :=
      ha.withStatement h (fun _ => rfl) fun _ => rfl
    exact returned.struck rfl h
  | borrow | giveBack => exact ha.withStatement _ (fun _ => rfl) fun _ => rfl
  | hold actor atHand home free isOpen =>
    exact ha.of_same (fun _ => rfl) (fun _ => id) fun _ => (has_hold atHand free isOpen).2
  | close free isOpen =>
    exact ha.of_same (fun _ => rfl) (fun _ => id) fun _ => (has_close free isOpen).2
  | queue | dropProgram =>
    refine ha.of_same (fun _ => rfl) (fun _ => id) fun k => (has_iff (fun q => ?_) rfl).2
    rw [program_withProgram]
    split <;> rfl
  | create => exact ha.of_same (fun _ => rfl) (fun _ => id) fun _ => (has_created rfl).2
  | _ => exact ha.of_same (fun _ => rfl) (fun _ => id) fun _ => id

end Answered

variable {e : σ} {past : List (Step σ)} {a : Action}

/-- After every run the tokens that are taken are those of held and of destroyed statements. -/
theorem Run.answered (run : Run E e past s) (idle : g.Idle) : Answered ⟨s, g⟩ := by
  refine (run.keeps (I := fun m => Sound m ∧ Answered m) (fun _ hs => hs.1.registered)
    (fun g hg => ⟨Sound.empty e hg, fun _ => nofun⟩) (fun s g g' hg hg' hs => ?_)
    (fun _ _ hm hs => ⟨hs.1.step hm, hs.2.step hs.1 hm⟩) g idle).2
  refine ⟨hs.1.regrip hg hg', hs.2.of_same (fun _ => rfl) (fun _ => id) fun k => ?_⟩
  exact (has_iff (fun _ => rfl) (hg'.hand.trans hg.hand.symm)).2

/-- A statement that a program has given up is not another one's at once. -/
theorem Run.given_up (run : Run E e past s) (allowed : a.Allowed s)
    (held : (s.program p).held = some h)
    (given : ((a.perform E s).2.program p).held ≠ some h) (q : ProgramId) :
    ((a.perform E s).2.program q).held ≠ some h := by
  have sound : Sound ⟨s, { connection := 0 }⟩ := run.sound ⟨rfl, rfl, rfl, rfl⟩
  intro taken
  by_cases before : (s.program q).held = some h
  · exact given (sound.custody.unique p q h held before ▸ taken)
  · obtain ⟨c, kind, sql, -, idle⟩ :=
      run.attached allowed taken (sound.homes.held p h held).exists_ before
    -- what was idle then was held by nobody
    obtain ⟨-, stored, free⟩ := peek?_of_idle idle
    have inUse := (sound.tokened h (.inl ⟨c, _, Cache.mem_of_peek? stored, rfl⟩)).2 (.inr ⟨p, held⟩)
    exact absurd (inUse.symm.trans free) (by decide)

/-- How long a token is taken. The token of a statement that is not destroyed, cached or not, is taken
only while exactly one program, which is not closed, holds the statement. So once its holder has
given a statement up, in whatever way, the token is free or the statement is destroyed. When the
holder is closed or dropped, it is the cache that makes the difference: the token of a statement in
the cache is given back, and that of any other statement stays as it was. -/
theorem token_has_holder (run : Run E e past s) :
    (∀ h, (s.statement h).inUse = true → (s.statement h).destroyed = true ∨
      ∃! p, (s.program p).isClosed = false ∧ (s.program p).held = some h) ∧
    ∀ (a : Action), a.Allowed s → ∀ p h, (s.program p).held = some h →
      (((a.perform E s).2.program p).held ≠ some h →
        ((a.perform E s).2.statement h).inUse = false ∨
          ((a.perform E s).2.statement h).destroyed = true) ∧
      (a = .closeProgram p ∨ a = .dropProgram p →
        ((a.perform E s).2.statement h).inUse =
          ((s.statement h).inUse && !s.isCachedBy (s.program p).connection h)) := by
  have idle : Grip.Idle { connection := 0 } := ⟨rfl, rfl, rfl, rfl⟩
  have sound := run.sound idle
  refine ⟨fun h taken => ?_, fun a allowed p h held => ⟨fun given => ?_, fun closes => ?_⟩⟩
  · refine (run.answered idle h taken).imp_right fun somebody => ?_
    obtain hand | ⟨p, held⟩ := somebody
    · nomatch hand
    · exact ⟨p, ⟨sound.custody.live_of_held held, held⟩, fun q hq => sound.custody.unique q p h hq.2 held⟩
  · cases taken : ((a.perform E s).2.statement h).inUse with
    | false => exact .inl rfl
    | true =>
      refine .inr (((run.step a allowed).answered idle h taken).resolve_right fun somebody => ?_)
      obtain hand | ⟨q, held'⟩ := somebody
      · nomatch hand
      · exact run.given_up allowed held given q held'
  · have tokens := Action.tokens_of_closed (E := E) closes (sound.custody.live_of_held held) held
    refine (congrFun tokens h).trans ?_
    cases s.isCachedBy (s.program p).connection h with
    | true =>
      have own := statement_withStatement s h h fun x => { x with inUse := false }
      rw [if_pos ⟨rfl, (sound.homes.held p h held).exists_⟩] at own
      exact (congrArg Compiled.inUse own).trans (Bool.and_false _).symm
    | false => exact (Bool.and_true _).symm

/-- Two programs are given statements, one of them cached, and the other one evicted while it is in
use. When the programs are closed the token of the first statement is given back. -/
theorem token_has_holder_cached :
    ∃ past s, Run Recording.engine {} past s ∧
      (∃! p, (s.program p).isClosed = false ∧ (s.program p).held = some 0) ∧
      Action.Allowed s (.closeProgram 0) ∧ s.isCachedBy 0 0 = true ∧ s.isCachedBy 0 1 = false ∧
      ((Action.perform Recording.engine (.closeProgram 0) s).2.statement 0).inUse = false ∧
      ((Action.perform Recording.engine (.closeProgram 1) s).2.statement 1).inUse = true := by
  have run := Run.ofActions (E := Recording.engine) (e := {})
    [.openDefault 0, .createCompiled 0 "INSERT", .createCompiled 0 "DELETE", .evict 0 "DELETE"]
    (by decide +kernel)
  obtain ⟨holders, tokens⟩ := token_has_holder run
  have cached := tokens (.closeProgram 0) (by decide +kernel) 0 0 (by decide +kernel)
  have evicted := tokens (.closeProgram 1) (by decide +kernel) 1 1 (by decide +kernel)
  refine ⟨_, _, run, (holders 0 ?_).resolve_left ?_, ?_, ?_, ?_, (cached.2 (.inl rfl)).trans ?_,
    (evicted.2 (.inl rfl)).trans ?_⟩ <;>
    decide +kernel

/-- A statement is looked up, evicted while it is in use, and given up by its holder. Whoever looked
it up still sees its token taken, but nobody holds it. -/
theorem token_outlives_holder :
    ∃ past s, Run Recording.engine {} past s ∧ (s.statement 0).borrowers = 1 ∧
      (s.statement 0).inUse = true ∧ (s.statement 0).destroyed = true ∧
      (s.program 0).isClosed = true ∧ ∀ p, (s.program p).held ≠ some 0 := by
  have run := Run.ofActions (E := Recording.engine) (e := {})
    [.openDefault 0, .createCompiled 0 "INSERT", .lookup 0 "INSERT", .evict 0 "INSERT",
      .closeProgram 0] (by decide +kernel)
  refine ⟨_, _, run, ?_, ?_, ?_, ?_, fun p held => ?_⟩
  case refine_5 => exact absurd (isHeld_iff.2 ⟨p, held⟩) (by decide +kernel)
  all_goals decide +kernel

end Prepared.Store
