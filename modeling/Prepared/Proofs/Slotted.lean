import Prepared.Proofs.Parameters
import Prepared.Proofs.Sends

/-! Statements in slots.

A statement that is not destroyed has a slot of its own. What a program holds is used for that
program alone, so operations for others leave its slot as it is. -/
namespace Prepared.Store

open Sql

variable {δ : Type} {L : Library δ} {s t : Store (Engines δ)} {g : Grip} {h k : CompiledId}
  {p : ProgramId}

/-- The slot of a compiled statement. -/
def slot? (s : Store (Engines δ)) (h : CompiledId) : Option Slot :=
  s.engine.slot? (s.native h)

/-- What no engine was asked about is as it was. -/
theorem slot?_of_engine (he : Extends s t) (hh : h < s.compiled.next)
    (engine : t.engine = s.engine) : t.slot? h = s.slot? h := by
  unfold slot?
  rw [he.native hh, engine]

/-- Statements have numbers that were given out, one each, and slots until they are destroyed. -/
structure Slotted (s : Store (Engines δ)) : Prop where
  number : ∀ h < s.compiled.next,
    (s.statement h).statement.number ≤ (s.engine.slots (s.statement h).engine).lastNumber
  distinct : ∀ h k, h < s.compiled.next → k < s.compiled.next → s.native h = s.native k → h = k
  slot : ∀ h, (s.statement h).destroyed = false → (s.slot? h).isSome

namespace Slotted

/-- No statement was compiled: the numbers are as they were, and of the slots it is enough to
look at those of statements that are not destroyed. -/
theorem of_old (hs : Slotted s) (he : Extends s t) (next : t.compiled.next = s.compiled.next)
    (grows : ∀ i, (s.engine.slots i).lastNumber ≤ (t.engine.slots i).lastNumber)
    (slot : ∀ h, (t.statement h).destroyed = false → (t.engine.slot? (s.native h)).isSome) :
    Slotted t := by
  refine ⟨?_, ?_, ?_⟩
  · intro h hh
    rw [next] at hh
    rw [he.statement_id hh, he.statement_engine hh]
    exact Nat.le_trans (hs.number h hh) (grows _)
  · intro h k hh hk same
    rw [next] at hh hk
    rw [he.native hh, he.native hk] at same
    exact hs.distinct h k hh hk same
  · intro h hd
    have hh : h < s.compiled.next := Nat.lt_of_lt_of_eq (lt_of_not_destroyed hd) next
    unfold slot?
    rw [he.native hh]
    exact slot h hd

/-- A new statement has a larger number than any earlier one of its engine. -/
theorem native_ne_new (hs : Slotted s) {i : EngineId} {sql : String} {n : StatementId}
    (answer : (L.engine.run i (.compile sql) s.engine).1 = .ok n) (hh : h < s.compiled.next) :
    s.native h ≠ (i, n) := by
  intro same
  obtain ⟨hi, hn⟩ := Prod.mk.inj same
  have le := hs.number h hh
  rw [hi, hn] at le
  exact absurd (Engines.slot?_compiled answer).1 (Nat.not_lt.2 le)

/-- A statement was compiled: it has a number and a slot that no other one has. -/
theorem of_new (hs : Slotted s) (he : Extends s t) {i : EngineId} {sql : String} {n : StatementId}
    (answer : (L.engine.run i (.compile sql) s.engine).1 = .ok n)
    (engine : t.engine = (L.engine.run i (.compile sql) s.engine).2)
    (native : t.native s.compiled.next = (i, n)) (next : t.compiled.next = s.compiled.next + 1)
    (others : ∀ h < s.compiled.next, (t.statement h).destroyed = (s.statement h).destroyed) :
    Slotted t := by
  have new : (t.statement s.compiled.next).engine = i ∧
      (t.statement s.compiled.next).statement = n := Prod.mk.inj native
  have old_or_new {h : CompiledId} (hh : h < t.compiled.next) :
      h < s.compiled.next ∨ h = s.compiled.next := by
    rw [next] at hh
    exact Nat.lt_succ_iff_lt_or_eq.1 hh
  refine ⟨?_, ?_, ?_⟩
  · intro h hh
    rcases old_or_new hh with old | same
    · rw [he.statement_id old, he.statement_engine old, engine]
      exact Nat.le_trans (hs.number h old) (Engines.lastNumber_run ..)
    · subst same
      have last := (Engines.slot?_compiled answer).2.1
      exact Nat.le_of_eq (by rw [new.2, new.1, engine, last])
  · intro h k hh hk same
    rcases old_or_new hh with oldh | newh <;> rcases old_or_new hk with oldk | newk
    · rw [he.native oldh, he.native oldk] at same
      exact hs.distinct h k oldh oldk same
    · subst newk
      rw [he.native oldh, native] at same
      exact absurd same (hs.native_ne_new answer oldh)
    · subst newh
      rw [native, he.native oldk] at same
      exact absurd same.symm (hs.native_ne_new answer oldk)
    · rw [newh, newk]
  · intro h hd
    rcases old_or_new (lt_of_not_destroyed hd) with old | same
    · unfold slot?
      rw [he.native old, engine, Engines.slot?_compiled_of_ne answer (hs.native_ne_new answer old)]
      exact hs.slot h (others h old ▸ hd)
    · subst same
      obtain ⟨-, -, count, -, slot⟩ := Engines.slot?_compiled answer
      unfold slot?
      rw [native, engine, slot]
      rfl

/-- Whatever is sent keeps the statements in slots of their own. -/
theorem step (hs : Slotted s) (he : Extends s t) (hn : Sends L.engine s t) : Slotted t := by
  cases hn with
  | nothing engine same =>
    refine hs.of_old he same.next ?_ ?_
    · intro i
      exact Nat.le_of_eq (by rw [engine])
    · intro h hd
      rw [engine]
      exact hs.slot h (same.destroyed h ▸ hd)
  | refused i sql e answer engine same =>
    refine hs.of_old he same.next ?_ ?_
    · intro j
      rw [engine]
      exact Engines.lastNumber_run ..
    · intro h hd
      rw [engine, Engines.slot?_refused answer]
      exact hs.slot h (same.destroyed h ▸ hd)
  | used h r engine about use live same =>
    refine hs.of_old he same.next ?_ ?_
    · intro j
      rw [engine]
      exact Engines.lastNumber_run ..
    · intro k hd
      rw [engine, Engines.isSome_slot?_run about use]
      exact hs.slot k (same.destroyed k ▸ hd)
  | destroyed h engine live next marked =>
    refine hs.of_old he next ?_ ?_
    · intro j
      rw [engine]
      exact Engines.lastNumber_run ..
    · intro k hd
      have hk : k ≠ h ∧ (s.statement k).destroyed = false := by
        rw [← Bool.not_eq_true, marked, not_or, Bool.not_eq_true] at hd
        exact hd
      have other : s.native k ≠ s.native h := by
        intro same
        exact hk.1 (hs.distinct k h (lt_of_not_destroyed hk.2) (lt_of_not_destroyed live) same)
      have same := Engines.slot?_run_of_ne (L := L) (r := .destroy (s.native h).2)
        (n := (s.native h).2) (i := (s.native h).1) rfl other s.engine
      rw [engine, same]
      exact hs.slot k hk.2
  | compiled i sql n answer engine native next live others =>
    exact hs.of_new he answer engine native next others

/-- Other statements than the new one keep their slots when a text is compiled. -/
theorem slot?_grown (hs : Slotted s) {c : ConnectionId} {sql : String} {n : StatementId}
    (answer : (L.engine.run (s.connection c).engine (.compile sql) s.engine).1 = .ok n)
    (hh : h < s.compiled.next) : (s.grown L.engine c sql n).slot? h = s.slot? h := by
  have he : Extends s (s.grown L.engine c sql n) := .grown L.engine c sql n s
  unfold slot?
  rw [he.native hh]
  exact Engines.slot?_compiled_of_ne answer (hs.native_ne_new answer hh)

/-- A request about another statement leaves a slot as it is. -/
theorem slot?_asked (hs : Slotted s) {r : Primitive} (about : r.target? = some (s.native k).2)
    (hh : h < s.compiled.next) (hk : k < s.compiled.next) (other : h ≠ k) :
    (s.asked L.engine (s.native k).1 r).slot? h = s.slot? h :=
  Engines.slot?_run_of_ne about (fun same => other (hs.distinct h k hh hk same)) s.engine

theorem slot?_struck (hs : Slotted s) (hh : h < s.compiled.next) (hk : k < s.compiled.next)
    (other : h ≠ k) : (s.struck L.engine k).slot? h = s.slot? h := by
  have he : Extends s (s.struck L.engine k) := .struck L.engine k s
  have asked := hs.slot?_asked (L := L) (r := .destroy (s.native k).2) rfl hh hk other
  unfold slot? at asked ⊢
  rw [he.native hh]
  exact asked

end Slotted

end Prepared.Store
