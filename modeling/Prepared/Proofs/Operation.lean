import Mathlib.Order.Defs.Unbundled
import Prepared.Operation

/-! What operations ensure.

A judgement about an operation names what holds of the state before it and what holds of
the result and the state after it. There is one rule for each way in which operations are
put together, so that a judgement about a large operation is read off those about its
parts. An operation keeps what it never changes, whatever becomes of it. -/
namespace Prepared.Operation

variable {S ε δ α β : Type}

/-- The second of two operations is run where the first has ended, well or not. -/
theorem run_both_snd (x y : Operation S ε Unit) (s : S) :
    ((both x y).run s).2 = (y.run (x.run s).2).2 := by
  simp only [both]
  rcases x.run s with ⟨_ | _, t⟩ <;> rfl

theorem run_mapError (f : ε → δ) (x : Operation S ε α) (s : S) :
    (mapError f x).run s = ((x.run s).1.mapError f, (x.run s).2) :=
  rfl

/-- From every state in `P` the operation ends with a result and a state in `Q`. -/
def Ensures (P : S → Prop) (x : Operation S ε α) (Q : Except ε α → S → Prop) : Prop :=
  ∀ s, P s → Q (x.run s).1 (x.run s).2

namespace Ensures

variable {P M : S → Prop} {Q N : Except ε α → S → Prop} {R : Except ε β → S → Prop}

theorem imp {x : Operation S ε α} (h : Ensures P x Q) (hP : ∀ s, M s → P s)
    (hQ : ∀ r s, Q r s → N r s) : Ensures M x N :=
  fun s hs => hQ _ _ (h s (hP s hs))

theorem pre {x : Operation S ε α} (h : Ensures P x Q) (hP : ∀ s, M s → P s) :
    Ensures M x Q :=
  h.imp hP fun _ _ => id

theorem post {x : Operation S ε α} (h : Ensures P x Q) (hQ : ∀ r s, Q r s → N r s) :
    Ensures P x N :=
  h.imp (fun _ => id) hQ

/-- A fact that does not speak of the state may be used for the judgement. -/
theorem of_fact {p : Prop} {x : Operation S ε α} (h : p → Ensures P x Q) :
    Ensures (fun s => P s ∧ p) x Q :=
  fun s hs => h hs.2 s hs.1

theorem pure {a : α} (h : ∀ s, P s → Q (.ok a) s) :
    Ensures P (Pure.pure a : Operation S ε α) Q :=
  fun s hs => h s hs

theorem throw {e : ε} (h : ∀ s, P s → Q (.error e) s) :
    Ensures P (MonadExcept.throw e : Operation S ε α) Q :=
  fun s hs => h s hs

theorem change {f : S → S} {Q : Except ε Unit → S → Prop} (h : ∀ s, P s → Q (.ok ()) (f s)) :
    Ensures P (Operation.change f) Q :=
  fun s hs => h s hs

/-- A sequence: the second operation starts where the first has ended well. -/
theorem bind {x : Operation S ε α} {f : α → Operation S ε β} (hx : Ensures P x Q)
    (hf : ∀ a, Ensures (Q (.ok a)) (f a) R) (he : ∀ e s, Q (.error e) s → R (.error e) s) :
    Ensures P (x >>= f) R := by
  intro s hs
  have hq := hx s hs
  rw [run_bind]
  rcases hr : x.run s with ⟨r, t⟩
  rw [hr] at hq
  cases r with
  | ok a => exact hf a t hq
  | error e => exact he e t hq

/-- After reading, what was read is known. -/
theorem read_bind {f : S → α} {k : α → Operation S ε β}
    (h : ∀ a, Ensures (fun s => P s ∧ f s = a) (k a) R) :
    Ensures P (read f >>= k) R :=
  fun s hs => h (f s) s ⟨hs, rfl⟩

theorem change_bind {f : S → S} {k : Unit → Operation S ε β} (hf : ∀ s, P s → M (f s))
    (hk : Ensures M (k ()) R) : Ensures P (Operation.change f >>= k) R :=
  fun s hs => hk (f s) (hf s hs)

/-- After an attempt its outcome is known. -/
theorem attempt_bind {x : Operation S δ α} {k : Except δ α → Operation S ε β}
    {Q : Except δ α → S → Prop} (hx : Ensures P x Q) (hk : ∀ r, Ensures (Q r) (k r) R) :
    Ensures P (Operation.attempt x >>= k) R :=
  fun s hs => hk _ _ (hx s hs)

theorem mapError {f : ε → δ} {x : Operation S ε α} {Q : Except δ α → S → Prop}
    (h : Ensures P x fun r => Q (r.mapError f)) : Ensures P (mapError f x) Q :=
  fun s hs => h s hs

theorem both {x y : Operation S ε Unit} {M N : S → Prop} (hx : Ensures P x fun _ => M)
    (hy : Ensures M y fun _ => N) : Ensures P (both x y) fun _ => N := by
  intro s hs
  rw [run_both_snd]
  exact hy _ (hx s hs)

/-- The members of the list are taken off one by one; the assertion speaks of those that
are left. -/
theorem forAll {f : α → Operation S ε Unit} {I : List α → S → Prop}
    (h : ∀ a as, Ensures (I (a :: as)) (f a) fun _ => I as) (l : List α) :
    Ensures (I l) (forAll f l) fun _ => I [] := by
  induction l with
  | nil => exact pure fun _ => id
  | cons a as ih => exact both (h a as) ih

theorem untilError {f : α → Operation S ε Unit} {I : S → Prop}
    (h : ∀ a, Ensures I (f a) fun _ => I) (l : List α) :
    Ensures I (untilError f l) fun _ => I := by
  induction l with
  | nil => exact pure fun _ => id
  | cons a as ih => exact bind (h a) (fun _ => ih) fun _ _ => id

theorem ite {c : Prop} [Decidable c] {x y : Operation S ε α} (hx : c → Ensures P x Q)
    (hy : ¬ c → Ensures P y Q) : Ensures P (if c then x else y) Q := by
  split
  · exact hx ‹_›
  · exact hy ‹_›

/-- What the operation keeps is known after it as well. -/
theorem frame {F : S → Prop} {x : Operation S ε α} (h : Ensures (fun s => P s ∧ F s) x Q)
    (hF : ∀ s, F s → F (x.run s).2) :
    Ensures (fun s => P s ∧ F s) x fun r s => Q r s ∧ F s :=
  fun s hs => ⟨h s hs, hF s hs.2⟩

end Ensures

/-- From every state in `P` the operation succeeds, with a result and a state in `Q`. -/
def Succeeds (P : S → Prop) (x : Operation S ε α) (Q : α → S → Prop) : Prop :=
  Ensures P x fun r s => ∃ a, r = .ok a ∧ Q a s

namespace Succeeds

variable {P M : S → Prop} {Q N : α → S → Prop} {R : β → S → Prop}

theorem imp {x : Operation S ε α} (h : Succeeds P x Q) (hP : ∀ s, M s → P s)
    (hQ : ∀ a s, Q a s → N a s) : Succeeds M x N :=
  Ensures.imp h hP fun _ s hr => hr.imp fun a ha => ⟨ha.1, hQ a s ha.2⟩

theorem pre {x : Operation S ε α} (h : Succeeds P x Q) (hP : ∀ s, M s → P s) :
    Succeeds M x Q :=
  h.imp hP fun _ _ => id

theorem of_fact {p : Prop} {x : Operation S ε α} (h : p → Succeeds P x Q) :
    Succeeds (fun s => P s ∧ p) x Q :=
  Ensures.of_fact h

theorem pure {a : α} (h : ∀ s, P s → Q a s) :
    Succeeds P (Pure.pure a : Operation S ε α) Q :=
  fun s hs => ⟨a, rfl, h s hs⟩

theorem change {f : S → S} {Q : Unit → S → Prop} (h : ∀ s, P s → Q () (f s)) :
    Succeeds P (Operation.change f : Operation S ε Unit) Q :=
  fun s hs => ⟨(), rfl, h s hs⟩

theorem bind {x : Operation S ε α} {f : α → Operation S ε β} (hx : Succeeds P x Q)
    (hf : ∀ a, Succeeds (Q a) (f a) R) : Succeeds P (x >>= f) R := by
  intro s hs
  obtain ⟨a, ok, hq⟩ := hx s hs
  rw [run_bind]
  rcases hr : x.run s with ⟨r, t⟩
  rw [hr] at ok hq
  cases ok
  exact hf a t hq

theorem read_bind {f : S → α} {k : α → Operation S ε β}
    (h : ∀ a, Succeeds (fun s => P s ∧ f s = a) (k a) R) :
    Succeeds P (read f >>= k) R :=
  fun s hs => h (f s) s ⟨hs, rfl⟩

theorem change_bind {f : S → S} {k : Unit → Operation S ε β} (hf : ∀ s, P s → M (f s))
    (hk : Succeeds M (k ()) R) : Succeeds P (Operation.change f >>= k) R :=
  fun s hs => hk (f s) (hf s hs)

theorem ite {c : Prop} [Decidable c] {x y : Operation S ε α} (hx : c → Succeeds P x Q)
    (hy : ¬ c → Succeeds P y Q) : Succeeds P (if c then x else y) Q :=
  Ensures.ite hx hy

theorem both {x y : Operation S ε Unit} {M N : S → Prop} (hx : Succeeds P x fun _ => M)
    (hy : Succeeds M y fun _ => N) : Succeeds P (both x y) fun _ => N := by
  intro s hs
  obtain ⟨_, ok, hm⟩ := hx s hs
  simp only [Operation.both]
  rcases hr : x.run s with ⟨r, t⟩
  rw [hr] at ok hm
  cases ok
  exact hy t hm

/-- The members of the list are taken off one by one. -/
theorem forAll {f : α → Operation S ε Unit} {I : List α → S → Prop}
    (h : ∀ a as, Succeeds (I (a :: as)) (f a) fun _ => I as) (l : List α) :
    Succeeds (I l) (forAll f l) fun _ => I [] := by
  induction l with
  | nil => exact pure fun _ => id
  | cons a as ih => exact both (h a as) ih

/-- The run from a state. -/
theorem run_eq {x : Operation S ε α} (h : Succeeds P x Q) {s : S} (hs : P s) :
    ∃ a t, x.run s = (.ok a, t) ∧ Q a t := by
  obtain ⟨a, ok, hq⟩ := h s hs
  exact ⟨a, (x.run s).2, Prod.ext ok rfl, hq⟩

end Succeeds

/-- An operation that never changes what `f` tells of the state. -/
def Keeps (f : S → β) (x : Operation S ε α) : Prop :=
  ∀ s, f (x.run s).2 = f s

namespace Keeps

variable {γ : Type} {f : S → γ}

theorem pure (a : α) : Keeps f (Pure.pure a : Operation S ε α) :=
  fun _ => rfl

theorem throw (e : ε) : Keeps f (MonadExcept.throw e : Operation S ε α) :=
  fun _ => rfl

theorem read (g : S → α) : Keeps f (read g : Operation S ε α) :=
  fun _ => rfl

theorem change {g : S → S} (h : ∀ s, f (g s) = f s) :
    Keeps f (Operation.change g : Operation S ε Unit) :=
  h

theorem bind {x : Operation S ε α} {k : α → Operation S ε β} (hx : Keeps f x)
    (hk : ∀ a, Keeps f (k a)) : Keeps f (x >>= k) := by
  intro s
  have ht := hx s
  rw [run_bind]
  rcases hr : x.run s with ⟨_ | a, t⟩ <;> rw [hr] at ht
  · exact ht
  · exact (hk a t).trans ht

theorem attempt {x : Operation S ε α} (h : Keeps f x) :
    Keeps f (attempt x : Operation S δ _) :=
  h

theorem mapError {g : ε → δ} {x : Operation S ε α} (h : Keeps f x) : Keeps f (mapError g x) :=
  h

theorem both {x y : Operation S ε Unit} (hx : Keeps f x) (hy : Keeps f y) :
    Keeps f (both x y) := by
  intro s
  rw [run_both_snd]
  exact (hy _).trans (hx s)

theorem forAll {g : α → Operation S ε Unit} (h : ∀ a, Keeps f (g a)) (l : List α) :
    Keeps f (forAll g l) := by
  induction l with
  | nil => exact pure ()
  | cons a as ih => exact both (h a) ih

theorem untilError {g : α → Operation S ε Unit} (h : ∀ a, Keeps f (g a)) (l : List α) :
    Keeps f (untilError g l) := by
  induction l with
  | nil => exact pure ()
  | cons a as ih => exact bind (h a) fun _ => ih

theorem ite {c : Prop} [Decidable c] {x y : Operation S ε α} (hx : Keeps f x)
    (hy : Keeps f y) : Keeps f (if c then x else y) := by
  split
  · exact hx
  · exact hy

end Keeps

/-- An operation that leads from every state to one that is related to it, whatever becomes of
it. -/
def Leads (R : S → S → Prop) (x : Operation S ε α) : Prop :=
  ∀ s, R s (x.run s).2

namespace Leads

variable {R : S → S → Prop}

theorem attempt {x : Operation S ε α} (h : Leads R x) :
    Leads R (attempt x : Operation S δ _) :=
  h

theorem mapError {g : ε → δ} {x : Operation S ε α} (h : Leads R x) : Leads R (mapError g x) :=
  h

theorem ite {c : Prop} [Decidable c] {x y : Operation S ε α} (hx : Leads R x)
    (hy : Leads R y) : Leads R (if c then x else y) := by
  split
  · exact hx
  · exact hy

variable [IsPreorder S R]

theorem pure (a : α) : Leads R (Pure.pure a : Operation S ε α) :=
  fun s => refl_of R s

theorem throw (e : ε) : Leads R (MonadExcept.throw e : Operation S ε α) :=
  fun s => refl_of R s

theorem read (f : S → α) : Leads R (read f : Operation S ε α) :=
  fun s => refl_of R s

theorem bind {x : Operation S ε α} {k : α → Operation S ε β} (hx : Leads R x)
    (hk : ∀ a, Leads R (k a)) : Leads R (x >>= k) := by
  intro s
  have ht := hx s
  rw [run_bind]
  rcases hr : x.run s with ⟨_ | a, t⟩ <;> rw [hr] at ht
  · exact ht
  · exact trans_of R ht (hk a t)

theorem both {x y : Operation S ε Unit} (hx : Leads R x) (hy : Leads R y) :
    Leads R (both x y) := by
  intro s
  rw [run_both_snd]
  exact trans_of R (hx s) (hy _)

theorem forAll {g : α → Operation S ε Unit} (h : ∀ a, Leads R (g a)) (l : List α) :
    Leads R (forAll g l) := by
  induction l with
  | nil => exact pure ()
  | cons a as ih => exact both (h a) ih

theorem untilError {g : α → Operation S ε Unit} (h : ∀ a, Leads R (g a)) (l : List α) :
    Leads R (untilError g l) := by
  induction l with
  | nil => exact pure ()
  | cons a as ih => exact bind (h a) fun _ => ih

end Leads

end Prepared.Operation
