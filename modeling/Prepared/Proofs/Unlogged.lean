import Prepared.Engine.Recording
import Prepared.Store.Connection

/-! Logs are only written.

What an operation comes to does not depend on the events and the calls that are on record before
it. So from two stores that differ in these alone it does the same, and records the same. -/
namespace Prepared.Store

open Operation

variable {ε α β : Type} {s t : Store Recording}

/-- A store apart from its events and from the calls that were recorded. -/
def unlogged (s : Store Recording) : Store Recording :=
  { s with engine := s.engine.forget, events := [] }

/-- The store with more events and calls on record, which came before all others. -/
def behind (s : Store Recording) (es : List Event) (calls : List Call) : Store Recording :=
  { s with
    engine := { s.engine with log := calls ++ s.engine.log }
    events := es ++ s.events }

theorem unlogged_behind (s : Store Recording) : s.unlogged.behind s.events s.engine.log = s := by
  simp [unlogged, behind, Recording.forget]

/-- The store with more events and calls on record, which came after all others. -/
def noted (s : Store Recording) (es : List Event) (calls : List Call) : Store Recording :=
  { s with
    engine := { s.engine with log := s.engine.log ++ calls }
    events := s.events ++ es }

theorem noted_nil (s : Store Recording) : s.noted [] [] = s := by
  simp [noted]

theorem unlogged_noted (s : Store Recording) (es : List Event) (calls : List Call) :
    (s.noted es calls).unlogged = s.unlogged := rfl

/-- An operation that does the same whatever is on record. -/
def Oblivious (x : Op Recording ε α) : Prop :=
  ∀ s es calls, x.run (s.behind es calls) = ((x.run s).1, (x.run s).2.behind es calls)

namespace Oblivious

theorem pure (a : α) : Oblivious (Pure.pure a : Op Recording ε α) :=
  fun _ _ _ => rfl

theorem bind {x : Op Recording ε α} {k : α → Op Recording ε β} (hx : Oblivious x)
    (hk : ∀ a, Oblivious (k a)) : Oblivious (x >>= k) := by
  intro s es calls
  rw [run_bind, run_bind, hx s es calls]
  rcases x.run s with ⟨e | a, t⟩
  · rfl
  · exact hk a t es calls

theorem read_bind {f : Store Recording → α} {k : α → Op Recording ε β}
    (hf : ∀ s es calls, f (s.behind es calls) = f s) (hk : ∀ a, Oblivious (k a)) :
    Oblivious (read f >>= k) :=
  bind (fun s es calls => by rw [run_read, run_read, hf]) hk

theorem change {f : Store Recording → Store Recording}
    (hf : ∀ s es calls, f (s.behind es calls) = (f s).behind es calls) :
    Oblivious (change f : Op Recording ε Unit) :=
  fun s es calls => by rw [run_change, run_change, hf]

theorem ite {c : Prop} [Decidable c] {x y : Op Recording ε α} (hx : Oblivious x)
    (hy : Oblivious y) : Oblivious (if c then x else y) := by
  split
  · exact hx
  · exact hy

theorem both {x y : Op Recording ε Unit} (hx : Oblivious x) (hy : Oblivious y) :
    Oblivious (both x y) := by
  intro s es calls
  simp only [Operation.both, hx s es calls]
  rcases x.run s with ⟨e | a, t⟩
  · simp only [hy t es calls]
  · exact hy t es calls

theorem forAll {f : β → Op Recording ε Unit} (hf : ∀ b, Oblivious (f b)) (l : List β) :
    Oblivious (forAll f l) := by
  induction l with
  | nil => exact pure ()
  | cons b bs ih => exact both (hf b) ih

/-! Operations that give up what a connection has cached. -/

section Release

variable {c : ConnectionId} {h : CompiledId}

theorem request_destroy (i : EngineId) (n : StatementId) :
    Oblivious (request Recording.engine i (.destroy n)) := by
  intro s es calls
  have live : (s.behind es calls).engine.isLive n = s.engine.isLive n := rfl
  have run (t : Store Recording) : (request Recording.engine i (.destroy n)).run t =
      ((t.engine.destroy n).1, { t with engine := (t.engine.destroy n).2 }) := rfl
  rw [run, run]
  unfold Recording.destroy
  rw [live]
  split
  · simp [behind, Recording.record]
  · rfl

theorem destroy (h : CompiledId) : Oblivious (destroy Recording.engine h) :=
  read_bind (fun _ _ _ => rfl) fun _ => ite (pure _)
    ((change fun _ _ _ => rfl).bind fun _ => request_destroy _ _)

theorem trace (e : Event) : Oblivious (trace c e : Op Recording ε Unit) :=
  read_bind (fun _ _ _ => rfl) fun _ =>
    ite (change fun s es calls => by simp [behind]) (pure ())

theorem retire (c : ConnectionId) : Oblivious (retire Recording.engine c) :=
  (change fun _ _ _ => rfl).bind fun _ => bind (fun _ _ _ => rfl) fun _ =>
    (trace _).bind fun _ => forAll destroy _

theorem releaseReference (c : ConnectionId) : Oblivious (releaseReference Recording.engine c) :=
  read_bind (fun _ _ _ => rfl) fun _ => ite (pure _)
    ((change fun _ _ _ => rfl).bind fun _ => ite (retire c) (pure _))

end Release

/-- From stores that differ in what is on record alone an operation comes to the same. -/
theorem agree {x : Op Recording ε α} (hx : Oblivious x) (same : s.unlogged = t.unlogged) :
    (x.run s).1 = (x.run t).1 ∧ (x.run s).2.unlogged = (x.run t).2.unlogged ∧
      ∃ calls, (x.run s).2.engine.log = s.engine.log ++ calls ∧
        (x.run t).2.engine.log = t.engine.log ++ calls := by
  have left := hx s.unlogged s.events s.engine.log
  have right := hx t.unlogged t.events t.engine.log
  rw [unlogged_behind] at left right
  rw [left, right, same]
  exact ⟨rfl, rfl, (x.run t.unlogged).2.engine.log, rfl, rfl⟩

end Oblivious

end Prepared.Store
