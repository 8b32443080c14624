import Prepared.Engine.Faults
import Prepared.Engine.Recording
import Prepared.Proofs.Acquire
import Prepared.Proofs.Log
import Prepared.Proofs.Run

/-! Tearing down whatever fails.

A program, a connection, a reference and a cached statement are given up in many steps, some of
which ask an engine to destroy a statement. None of the steps waits for such a request to
succeed. So the same store is left behind, and the same has been asked of the engine, as if all
of them had; only what the caller is told differs, and that is the first failure. -/
namespace Prepared

/-- The request as if it had been a success that gives out nothing. -/
def Sent.granted (x : Sent) : Sent :=
  { x with answer := .ok none }

/-- What a request failed with, if it failed. -/
def Sent.error? (x : Sent) : Option EngineError :=
  match x.answer with
  | .error e => some e
  | .ok _ => none

/-- The error of the first request that failed; without one, the result `a`. -/
def verdict (xs : List Sent) (a : α) : Except EngineError α :=
  match xs.findSome? Sent.error? with
  | some e => .error e
  | none => .ok a

theorem verdict_append (xs ys : List Sent) (a : α) :
    verdict (xs ++ ys) a =
      match verdict xs () with
      | .ok _ => verdict ys a
      | .error e => .error e := by
  unfold verdict
  rw [List.findSome?_append]
  cases xs.findSome? Sent.error? <;> rfl

/-- The engine as it would be if it destroyed every statement it is asked to. -/
def Engine.compliant (E : Engine σ) : Engine σ where
  run i
    | .destroy n, s => (.ok (), (E.run i (.destroy n) s).2)
    | p, s => E.run i p s

namespace Store

open Operation

variable {σ α β : Type}

/-- A store apart from its engines. -/
def frame (s : Store σ) : Store Unit :=
  { engine := (), connections := s.connections, programs := s.programs, compiled := s.compiled,
    events := s.events }

/-- What an operation `x` comes to from a store `s` is what the operation `y`, which never fails,
comes to from a store `t`: they leave the same behind, and the requests `xs` have been made, all
of them to destroy a statement. The first of these that failed is the result of `x`. -/
structure Completes (s t : Store (Logged σ)) (x y : Op (Logged σ) EngineError α) (xs : List Sent)
    (a : α) : Prop where
  frame : (x.run s).2.frame = (y.run t).2.frame
  log : (x.run s).2.engine.log = s.engine.log ++ xs
  granted : (y.run t).2.engine.log = t.engine.log ++ xs.map Sent.granted
  destroys : ∀ q ∈ xs, q.request.name = .destroy
  result : (x.run s).1 = verdict xs a
  succeeds : (y.run t).1 = .ok a

/-- One operation comes to what another does that never fails, from stores that differ in their
engines only. -/
def Matches (x y : Op (Logged σ) EngineError α) : Prop :=
  ∀ s t, s.frame = t.frame → ∃ xs a, Completes s t x y xs a

/-- An operation that asks no engine, and cannot fail. -/
def Silent (x : Op (Logged σ) EngineError α) : Prop :=
  ∃ f : Store Unit → α × Store Unit, ∀ s, (x.run s).1 = .ok (f s.frame).1 ∧
    (x.run s).2.frame = (f s.frame).2 ∧ (x.run s).2.engine = s.engine

namespace Silent

theorem read {f : Store (Logged σ) → α} (g : Store Unit → α) (hf : ∀ s, f s = g s.frame) :
    Silent (read f) :=
  ⟨fun w => (g w, w), fun s => ⟨congrArg _ (hf s), rfl, rfl⟩⟩

theorem change {f : Store (Logged σ) → Store (Logged σ)} (g : Store Unit → Store Unit)
    (hf : ∀ s, (f s).frame = g s.frame) (kept : ∀ s, (f s).engine = s.engine) :
    Silent (change f) :=
  ⟨fun w => ((), g w), fun s => ⟨rfl, hf s, kept s⟩⟩

theorem report (e : Event) : Silent (σ := σ) (report e) :=
  .change (fun w => { w with events := w.events ++ [e] }) (fun _ => rfl) fun _ => rfl

theorem trace (c : ConnectionId) (e : Event) : Silent (σ := σ) (trace c e) := by
  refine ⟨fun w => ((), if (w.connection c).logsLifecycle then
    { w with events := w.events ++ [e] } else w), fun s => ?_⟩
  dsimp only
  by_cases logs : (s.connection c).logsLifecycle = true
  · rw [if_pos (show (s.frame.connection c).logsLifecycle = true from logs)]
    simp [Store.trace, Store.report, logs, Store.frame]
  · rw [if_neg (show ¬ (s.frame.connection c).logsLifecycle = true from logs)]
    simp [Store.trace, logs]

theorem onCache (c : ConnectionId) (f : Cache CompiledId → α × Cache CompiledId) :
    Silent (σ := σ) (onCache c f) := by
  refine ⟨fun w => ((f (w.connection c).cache).1, w.withCache c fun x => (f x).2), fun s => ?_⟩
  rw [onCache_run]
  exact ⟨rfl, rfl, rfl⟩

theorem deregister (p : ProgramId) : Silent (σ := σ) (deregister p) :=
  ⟨fun w => ((), w.withConnection (w.program p).connection fun x =>
    { x with programs := x.programs.filter (· != p) }), fun _ => ⟨rfl, rfl, rfl⟩⟩

end Silent

namespace Completes

variable {s t s' t' : Store (Logged σ)} {xs : List Sent}

/-- Steps that ask nothing may come first. -/
theorem after {x y x' y' : Op (Logged σ) EngineError α} {a : α}
    (h : Completes s' t' x' y' xs a) (hx : x.run s = x'.run s') (hy : y.run t = y'.run t')
    (hs : s'.engine = s.engine) (ht : t'.engine = t.engine) : Completes s t x y xs a := by
  constructor
  · rw [hx, hy]
    exact h.frame
  · rw [hx, ← hs]
    exact h.log
  · rw [hy, ← ht]
    exact h.granted
  · exact h.destroys
  · rw [hx]
    exact h.result
  · rw [hy]
    exact h.succeeds

/-- The second operation follows whatever has become of the first. -/
theorem both {x y x' y' : Op (Logged σ) EngineError Unit} {ys : List Sent}
    (hx : Completes s t x x' xs ()) (hy : Completes (x.run s).2 (x'.run t).2 y y' ys ()) :
    Completes s t (both x y) (both x' y') (xs ++ ys) () := by
  have run : (Operation.both x y).run s =
      (match (x.run s).1 with
        | .ok _ => (y.run (x.run s).2).1
        | .error e => .error e, (y.run (x.run s).2).2) := by
    simp only [Operation.both]
    rcases x.run s with ⟨_ | _, t⟩ <;> rfl
  have run' : (Operation.both x' y').run t = y'.run (x'.run t).2 := by
    have ok := hx.succeeds
    simp only [Operation.both]
    rcases hr : x'.run t with ⟨r, u⟩
    rw [hr] at ok
    dsimp only at ok
    subst ok
    rfl
  constructor
  · rw [run, run']
    exact hy.frame
  · rw [run, hy.log, hx.log, List.append_assoc]
  · rw [run', hy.granted, hx.granted, List.map_append, List.append_assoc]
  · exact fun q hq => (List.mem_append.1 hq).elim (hx.destroys q) (hy.destroys q)
  · rw [run, verdict_append, hx.result, hy.result]
  · rw [run']
    exact hy.succeeds

/-- In the end the result may be replaced. -/
theorem answer {x y : Op (Logged σ) EngineError α} {a : α} (h : Completes s t x y xs a) (b : β) :
    Completes s t (x >>= fun _ => Pure.pure b) (y >>= fun _ => Pure.pure b) xs b := by
  have run (x : Op (Logged σ) EngineError α) (s : Store (Logged σ)) :
      (x >>= fun _ => Pure.pure b : Op (Logged σ) EngineError β).run s =
        ((x.run s).1.map fun _ => b, (x.run s).2) := by
    rw [run_bind]
    rcases x.run s with ⟨_ | _, t⟩ <;> rfl
  constructor
  · rw [run, run]
    exact h.frame
  · rw [run]
    exact h.log
  · rw [run]
    exact h.granted
  · exact h.destroys
  · rw [run, h.result]
    unfold verdict
    cases xs.findSome? Sent.error? <;> rfl
  · rw [run, h.succeeds]
    rfl

end Completes

namespace Matches

/-- What asks no engine does the same with any. -/
theorem silent_bind {x : Op (Logged σ) EngineError β} {k l : β → Op (Logged σ) EngineError α}
    (silent : Silent x) (h : ∀ b, Matches (k b) (l b)) : Matches (x >>= k) (x >>= l) := by
  obtain ⟨f, hf⟩ := silent
  intro s t same
  have runs (k : β → Op (Logged σ) EngineError α) (u : Store (Logged σ)) :
      (x >>= k).run u = (k (f u.frame).1).run (x.run u).2 := by
    have ok := (hf u).1
    rw [run_bind]
    rcases hr : x.run u with ⟨r, v⟩
    rw [hr] at ok
    dsimp only at ok
    subst ok
    rfl
  obtain ⟨xs, a, completes⟩ := h (f s.frame).1 (x.run s).2 (x.run t).2 (by
    rw [(hf s).2.1, (hf t).2.1, same])
  exact ⟨xs, a, completes.after (runs k s) (same ▸ runs l t) (hf s).2.2 (hf t).2.2⟩

theorem pure (a : α) : Matches (σ := σ) (Pure.pure a) (Pure.pure a) :=
  fun _ _ same => ⟨[], a, same, (List.append_nil _).symm, (List.append_nil _).symm,
    fun _ => nofun, rfl, rfl⟩

theorem silent {x : Op (Logged σ) EngineError α} (hx : Silent x) : Matches x x := by
  have ended := silent_bind hx (k := Pure.pure) (l := Pure.pure) pure
  rwa [bind_pure] at ended

theorem ite {c : Prop} [Decidable c] {x x' y y' : Op (Logged σ) EngineError α}
    (hx : Matches x x') (hy : Matches y y') :
    Matches (if c then x else y) (if c then x' else y') := by
  split
  · exact hx
  · exact hy

theorem both {x x' y y' : Op (Logged σ) EngineError Unit} (hx : Matches x x')
    (hy : Matches y y') : Matches (both x y) (both x' y') := by
  intro s t same
  obtain ⟨xs, _, first⟩ := hx s t same
  obtain ⟨ys, _, second⟩ := hy _ _ first.frame
  exact ⟨xs ++ ys, (), first.both second⟩

theorem forAll {f g : β → Op (Logged σ) EngineError Unit} (h : ∀ b, Matches (f b) (g b))
    (l : List β) : Matches (forAll f l) (forAll g l) := by
  induction l with
  | nil => exact pure ()
  | cons b bs ih => exact both (h b) ih

theorem answer {x y : Op (Logged σ) EngineError α} (h : Matches x y) (b : β) :
    Matches (x >>= fun _ => Pure.pure b) (y >>= fun _ => Pure.pure b) := by
  intro s t same
  obtain ⟨xs, a, completes⟩ := h s t same
  exact ⟨xs, b, completes.answer b⟩

/-! One rule for each operation that gives something up. -/

section Steps

variable {E : Engine σ} {c : ConnectionId} {h : CompiledId} {p : ProgramId}

/-- A request to destroy a statement is the one thing that may be answered differently. -/
theorem request (i : EngineId) (n : StatementId) :
    Matches (request E.logged i (.destroy n)) (request E.compliant.logged i (.destroy n)) := by
  intro s t same
  let answer := (E.run i (.destroy n) s.engine.inner).1
  refine ⟨[⟨i, .destroy n, answer.map fun _ => none⟩], (), same, rfl, rfl, fun q hq => ?_, ?_, rfl⟩
  · rw [List.mem_singleton.1 hq]
    rfl
  · show answer = _
    cases answer <;> rfl

theorem statement_bind {k l : Compiled → Op (Logged σ) EngineError α}
    (hk : ∀ x, Matches (k x) (l x)) :
    Matches (read (·.statement h) >>= k) (read (·.statement h) >>= l) :=
  silent_bind (.read (·.statement h) fun _ => rfl) hk

theorem connection_bind {k l : Connection → Op (Logged σ) EngineError α}
    (hk : ∀ x, Matches (k x) (l x)) :
    Matches (read (·.connection c) >>= k) (read (·.connection c) >>= l) :=
  silent_bind (.read (·.connection c) fun _ => rfl) hk

theorem program_bind {k l : Program → Op (Logged σ) EngineError α}
    (hk : ∀ x, Matches (k x) (l x)) :
    Matches (read (·.program p) >>= k) (read (·.program p) >>= l) :=
  silent_bind (.read (·.program p) fun _ => rfl) hk

theorem withStatement_bind {f : Compiled → Compiled} {k l : Unit → Op (Logged σ) EngineError α}
    (hk : Matches (k ()) (l ())) :
    Matches (change (·.withStatement h f) >>= k) (change (·.withStatement h f) >>= l) :=
  silent_bind (.change (·.withStatement h f) (fun _ => rfl) fun _ => rfl) fun _ => hk

theorem withConnection_bind {f : Connection → Connection}
    {k l : Unit → Op (Logged σ) EngineError α} (hk : Matches (k ()) (l ())) :
    Matches (change (·.withConnection c f) >>= k) (change (·.withConnection c f) >>= l) :=
  silent_bind (.change (·.withConnection c f) (fun _ => rfl) fun _ => rfl) fun _ => hk

theorem withProgram_bind {f : Program → Program} {k l : Unit → Op (Logged σ) EngineError α}
    (hk : Matches (k ()) (l ())) :
    Matches (change (·.withProgram p f) >>= k) (change (·.withProgram p f) >>= l) :=
  silent_bind (.change (·.withProgram p f) (fun _ => rfl) fun _ => rfl) fun _ => hk

theorem destroy (h : CompiledId) : Matches (destroy E.logged h) (destroy E.compliant.logged h) :=
  statement_bind fun _ => .ite (.pure _) (withStatement_bind (request _ _))

theorem discard (h : CompiledId) : Matches (discard E.logged h) (discard E.compliant.logged h) :=
  statement_bind fun _ => .ite (.silent (.report _))
    (silent_bind (.report _) fun _ => destroy h)

theorem relinquish (c : ConnectionId) (h : CompiledId) :
    Matches (relinquish E.logged c h) (relinquish E.compliant.logged c h) :=
  statement_bind fun _ => silent_bind (.read (·.isCachedBy c h) fun _ => rfl) fun _ =>
    .ite (withStatement_bind (.silent (.trace _ _)))
      (silent_bind (.trace _ _) fun _ => destroy h)

theorem retire (c : ConnectionId) : Matches (retire E.logged c) (retire E.compliant.logged c) :=
  withConnection_bind (silent_bind (.onCache _ _) fun _ => silent_bind (.trace _ _) fun _ =>
    .forAll destroy _)

theorem releaseReference (c : ConnectionId) :
    Matches (releaseReference E.logged c) (releaseReference E.compliant.logged c) :=
  connection_bind fun _ => .ite (.pure _) (withConnection_bind (.ite (retire c) (.pure _)))

theorem relinquishHeld (p : ProgramId) :
    Matches (relinquishHeld E.logged p) (relinquishHeld E.compliant.logged p) := by
  refine program_bind fun x => ?_
  cases x.held with
  | none => exact .pure _
  | some h => exact withProgram_bind (relinquish _ h)

theorem tearDown (unlist : Bool) (p : ProgramId) :
    Matches (tearDown E.logged unlist p) (tearDown E.compliant.logged unlist p) := by
  refine withProgram_bind (program_bind fun x => .ite (.pure _)
    (withProgram_bind (.both (relinquishHeld p) ?_)))
  cases unlist with
  | true => exact silent_bind (.deregister p) fun _ => releaseReference _
  | false => exact releaseReference _

theorem closeInOrder (c : ConnectionId) (order : List ProgramId) :
    Matches (closeInOrder E.logged c order) (closeInOrder E.compliant.logged c order) :=
  connection_bind fun _ => .ite (withConnection_bind (silent_bind (.trace _ _) fun _ =>
    .both (.forAll (tearDown false) order) (releaseReference c))) (.pure _)

theorem evict (c : ConnectionId) (sql : String) :
    Matches (evict E.logged c sql) (evict E.compliant.logged c sql) := by
  refine silent_bind (.onCache _ _) fun out => ?_
  cases out with
  | none => exact .pure _
  | some h => exact (discard h).answer _

end Steps

end Matches

/-- Whatever an engine fails to destroy, closing a program, closing a connection with its programs
met in any order, giving back a reference and evicting a text leave the store as if it had
destroyed everything, and ask it to destroy the same statements in the same order. They succeed
if it has, and otherwise end with the error of the first request that failed. -/
theorem teardown_completes (E : Engine σ) (s : Store (Logged σ)) :
    (∀ p, ∃ xs, Completes s s (closeProgram E.logged p) (closeProgram E.compliant.logged p) xs ()) ∧
      (∀ c order, ∃ xs, Completes s s (closeInOrder E.logged c order)
        (closeInOrder E.compliant.logged c order) xs ()) ∧
      (∀ c, ∃ xs, Completes s s (releaseReference E.logged c)
        (releaseReference E.compliant.logged c) xs ()) ∧
      ∀ c sql, ∃ xs found, Completes s s (evict E.logged c sql)
        (evict E.compliant.logged c sql) xs found := by
  refine ⟨fun p => ?_, fun c order => ?_, fun c => ?_, fun c sql => Matches.evict c sql s s rfl⟩
  · obtain ⟨xs, _, completes⟩ := Matches.tearDown (E := E) true p s s rfl
    exact ⟨xs, completes⟩
  · obtain ⟨xs, _, completes⟩ := Matches.closeInOrder (E := E) c order s s rfl
    exact ⟨xs, completes⟩
  · obtain ⟨xs, _, completes⟩ := Matches.releaseReference (E := E) c s s rfl
    exact ⟨xs, completes⟩

/-- Two programs have statements of their own, and neither can be destroyed: both programs are
closed, and the first failure counts. -/
example :
    let E := Recording.engine.withFaults
    let faults := ["first", "second"].map fun reason =>
      { name := .destroy, error := EngineError.native reason }
    let s := performAll E [.openDefault 0, .createCompiled 0 "SELECT 1", .createCompiled 0 "SELECT 2"]
      { engine := { inner := {}, faults } }
    let closed := (closeInOrder E 0 [0, 1]).run s
    closed.1 = .error (.native "first") ∧ (closed.2.program 1).isClosed = true ∧
      closed.2.engine.faults = [] := by decide +kernel

end Store

end Prepared
