import Prepared.Proofs.Acquisition

/-! Operations that do not look at programs.

Obtaining a statement and replaying bindings go the same way whatever programs there are, so
they can be carried over from one table of programs to another. -/
namespace Prepared.Store

open Operation

variable {σ ε δ α β : Type} {E : Engine σ}

/-- The store with other programs. -/
def withPrograms (s : Store σ) (ps : Table Program) : Store σ :=
  { s with programs := ps }

/-- An operation that does the same whatever programs there are. -/
def Blind (x : Op σ ε α) : Prop :=
  ∀ s ps, x.run (s.withPrograms ps) = ((x.run s).1, (x.run s).2.withPrograms ps)

namespace Blind

theorem pure (a : α) : Blind (Pure.pure a : Op σ ε α) :=
  fun _ _ => rfl

theorem read {f : Store σ → α} (hf : ∀ s ps, f (s.withPrograms ps) = f s) :
    Blind (Operation.read f : Op σ ε α) := by
  intro s ps
  simp only [run_read, hf]

theorem change {f : Store σ → Store σ}
    (hf : ∀ s ps, f (s.withPrograms ps) = (f s).withPrograms ps) :
    Blind (Operation.change f : Op σ ε Unit) := by
  intro s ps
  simp only [run_change, hf]

theorem bind {x : Op σ ε α} {k : α → Op σ ε β} (hx : Blind x) (hk : ∀ a, Blind (k a)) :
    Blind (x >>= k) := by
  intro s ps
  rw [run_bind, run_bind, hx s ps]
  rcases x.run s with ⟨e | a, t⟩
  · rfl
  · exact hk a t ps

/-- What changes no program can be run before or after a change of one. -/
theorem withProgram {x : Op σ ε α} (hx : Blind x) (kept : Keeps Store.programs x) (s : Store σ)
    (p : ProgramId) (f : Program → Program) :
    x.run (s.withProgram p f) = ((x.run s).1, (x.run s).2.withProgram p f) := by
  have same : (x.run s).2.withProgram p f = (x.run s).2.withPrograms (s.programs.modify p f) := by
    rw [← kept s]
    rfl
  rw [same]
  exact hx s (s.programs.modify p f)

/-- What is read first may be used by the rest. -/
theorem read_bind {f : Store σ → α} {k : α → Op σ ε β}
    (hf : ∀ s ps, f (s.withPrograms ps) = f s) (hk : ∀ a, Blind (k a)) :
    Blind (Operation.read f >>= k) :=
  (read hf).bind hk

theorem ite {c : Prop} [Decidable c] {x y : Op σ ε α} (hx : Blind x) (hy : Blind y) :
    Blind (if c then x else y) := by
  split
  · exact hx
  · exact hy

theorem attempt {x : Op σ ε α} (hx : Blind x) : Blind (attempt x : Op σ δ _) := by
  intro s ps
  simp only [Operation.attempt, hx s ps]

theorem both {x y : Op σ ε Unit} (hx : Blind x) (hy : Blind y) : Blind (both x y) := by
  intro s ps
  simp only [Operation.both, hx s ps]
  rcases x.run s with ⟨e | a, t⟩
  · simp only [hy t ps]
  · exact hy t ps

theorem forAll {f : α → Op σ ε Unit} (hf : ∀ a, Blind (f a)) (l : List α) :
    Blind (forAll f l) := by
  induction l with
  | nil => exact pure ()
  | cons a as ih => exact both (hf a) ih

theorem untilError {f : α → Op σ ε Unit} (hf : ∀ a, Blind (f a)) (l : List α) :
    Blind (untilError f l) := by
  induction l with
  | nil => exact pure ()
  | cons a as ih => exact bind (hf a) fun _ => ih

section Acquire

variable {c : ConnectionId} {h : CompiledId} {sql : String}

theorem report (e : Event) : Blind (Store.report e : Op σ ε Unit) :=
  change fun _ _ => rfl

theorem trace (e : Event) : Blind (Store.trace c e : Op σ ε Unit) :=
  read_bind (fun _ _ => rfl) fun _ => ite (report e) (pure ())

theorem request (i : EngineId) (p : Primitive) : Blind (Store.request E i p) :=
  fun _ _ => rfl

theorem onCache (f : Cache CompiledId → α × Cache CompiledId) :
    Blind (Store.onCache c f : Op σ ε α) :=
  fun _ _ => rfl

theorem compile : Blind (Store.compile E c sql) :=
  read_bind (fun _ _ => rfl) fun _ => (request _ _).bind fun _ =>
    read_bind (fun _ _ => rfl) fun _ => (change fun _ _ => rfl).bind fun _ => pure _

theorem claim : Blind (Store.claim h : Op σ ε Bool) :=
  read_bind (fun _ _ => rfl) fun _ => ite (pure _) ((change fun _ _ => rfl).bind fun _ => pure _)

theorem destroy : Blind (Store.destroy E h) :=
  read_bind (fun _ _ => rfl) fun _ => ite (pure _)
    ((change fun _ _ => rfl).bind fun _ => request _ _)

theorem discard : Blind (Store.discard E h) :=
  read_bind (fun _ _ => rfl) fun _ => ite (report _) ((report _).bind fun _ => destroy)

theorem acquireMiss : Blind (Store.acquireMiss E c sql) := by
  refine compile.bind fun h => claim.bind fun _ => (onCache _).bind fun _ =>
    (onCache _).bind fun out => read_bind (fun _ _ => rfl) fun _ => (trace _).bind fun _ =>
      (attempt (forAll (fun _ => discard) out)).bind fun r => ?_
  cases r with
  | ok _ => exact pure h
  | error e => exact (report _).bind fun _ => pure h

theorem acquireContended {cached : CompiledId} : Blind (Store.acquireContended E c sql cached) :=
  compile.bind fun _ => (onCache _).bind fun _ => read_bind (fun _ _ => rfl) fun _ =>
    read_bind (fun _ _ => rfl) fun _ => (report _).bind fun _ => pure _

theorem acquireUncached {kind : Kind} : Blind (Store.acquireUncached E c kind sql) :=
  compile.bind fun _ => (onCache _).bind fun _ => read_bind (fun _ _ => rfl) fun _ =>
    (trace _).bind fun _ => pure _

theorem acquire {kind : Kind} : Blind (Store.acquire E c kind sql) := by
  refine ite ((onCache _).bind fun cached => ?_) acquireUncached
  cases cached with
  | none => exact acquireMiss
  | some h =>
    exact claim.bind fun _ => ite ((onCache _).bind fun _ => read_bind (fun _ _ => rfl) fun _ =>
      (trace _).bind fun _ => pure _) acquireContended

theorem applyBinding (b : Binding) : Blind (Store.applyBinding E h b) :=
  read_bind (fun _ _ => rfl) fun _ => request _ _

theorem replay (bs : List Binding) : Blind (Store.replay E h bs) :=
  untilError applyBinding bs

end Acquire

end Blind

end Prepared.Store
