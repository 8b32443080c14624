import Prepared.Engine.Recording
import Prepared.Proofs.Sends
import Prepared.Proofs.Slots

/-! Statements of the recording engine.

The recording engine numbers statements without end, so a statement that is not destroyed is
live in it, and its log grows by what it was asked. -/
namespace Prepared

namespace Recording

variable {r : Recording} {m n : StatementId} {sql : String}

theorem compile_refused (refused : r.refused.contains sql = true) :
    r.compile sql = (.error (.compile ("injected failure for: " ++ sql)), r) :=
  if_pos refused

theorem compile_accepted (accepted : r.refused.contains sql = false) :
    r.compile sql = (.ok (.after r.lastNumber),
      { r with
        lastNumber := r.lastNumber + 1
        live := (.after r.lastNumber, sql) :: r.live
        log := r.log ++ [.compile (.after r.lastNumber) sql] }) :=
  if_neg (by simp only [accepted, Bool.false_eq_true, not_false_eq_true])

/-- The engine once a statement was destroyed, apart from its log. -/
def strike (r : Recording) (n : StatementId) : Recording :=
  { r with live := r.live.filter fun e => e.1 != n }

theorem destroy_live (live : r.isLive n = true) :
    r.destroy n = (.ok (), (r.strike n).record (.destroy n)) :=
  if_pos live

theorem isLive_compile_self (accepted : r.refused.contains sql = false) :
    (r.compile sql).2.isLive (.after r.lastNumber) = true := by
  simp [compile_accepted accepted, isLive, sql?]

theorem isLive_compile (live : r.isLive m = true) : (r.compile sql).2.isLive m = true := by
  cases h : r.refused.contains sql with
  | true =>
    rw [compile_refused h]
    exact live
  | false =>
    rw [compile_accepted h]
    unfold isLive sql? at live ⊢
    rw [List.lookup_cons]
    split
    · rfl
    · exact live

theorem isLive_destroy_of_ne (h : m ≠ n) : (r.destroy n).2.isLive m = r.isLive m := by
  unfold destroy
  split
  · unfold isLive sql?
    exact congrArg Option.isSome (Lookup.lookup_filter_of_ne r.live h)
  · rfl

/-- A statement that is to be destroyed is not live after that. -/
theorem isLive_destroy_self : (r.destroy n).2.isLive n = false := by
  cases h : r.isLive n with
  | false => simp [destroy, h]
  | true =>
    unfold destroy
    rw [if_pos h]
    exact congrArg Option.isSome (Lookup.lookup_filter_self r.live n)

theorem bind_live (live : r.isLive n = true) {b : Binding} (hb : b.position ≠ 0) :
    r.bind n b.position b.value = (.ok (), r.record (.bind n b.position b.value)) := by
  simp [bind, hb, live]

theorem execute_live (live : r.isLive n = true) :
    ∃ output, r.execute n = (.ok output, r.record (.execute n)) := by
  obtain ⟨sql, found⟩ := Option.isSome_iff_exists.1 live
  exact ⟨_, by rw [execute, found]⟩

/-- Using a statement makes no statement live and destroys none. -/
theorem live_of_used {i : EngineId} {p : Primitive} (about : p.target? = some n)
    (used : p.name ≠ .destroy) :
    (engine.run i p r).2.live = r.live ∧ (engine.run i p r).2.lastNumber = r.lastNumber := by
  cases p with
  | compile sql => nomatch about
  | destroy m => exact absurd rfl used
  | bind m position value =>
    show (r.bind m position value).2.live = r.live ∧ (r.bind m position value).2.lastNumber = _
    unfold bind
    split
    · exact ⟨rfl, rfl⟩
    · split <;> exact ⟨rfl, rfl⟩
  | clearBindings m =>
    show (r.clearBindings m).2.live = r.live ∧ (r.clearBindings m).2.lastNumber = _
    unfold clearBindings
    split <;> exact ⟨rfl, rfl⟩
  | execute m =>
    show (r.execute m).2.live = r.live ∧ (r.execute m).2.lastNumber = _
    unfold execute
    split <;> exact ⟨rfl, rfl⟩

theorem lastNumber_destroy : (r.destroy n).2.lastNumber = r.lastNumber := by
  unfold destroy
  split <;> rfl

/-- No request changes which texts are refused. -/
theorem refused_run (i : EngineId) (p : Primitive) (r : Recording) :
    (engine.run i p r).2.refused = r.refused := by
  cases p with
  | compile sql =>
    show (r.compile sql).2.refused = _
    unfold compile
    split <;> rfl
  | destroy m =>
    show (r.destroy m).2.refused = _
    unfold destroy
    split <;> rfl
  | bind m position value =>
    show (r.bind m position value).2.refused = _
    unfold bind
    split
    · rfl
    · split <;> rfl
  | clearBindings m =>
    show (r.clearBindings m).2.refused = _
    unfold clearBindings
    split <;> rfl
  | execute m =>
    show (r.execute m).2.refused = _
    unfold execute
    split <;> rfl

end Recording

namespace Store

variable {s t : Store Recording} {h k : CompiledId}

/-- The statements have numbers of their own and are live until they are destroyed. -/
structure Stocked (s : Store Recording) : Prop where
  number : ∀ h < s.compiled.next, (s.statement h).statement.number ≤ s.engine.lastNumber
  distinct : ∀ h k, h < s.compiled.next → k < s.compiled.next →
    (s.statement h).statement = (s.statement k).statement → h = k
  live : ∀ h, (s.statement h).destroyed = false →
    s.engine.isLive (s.statement h).statement = true

namespace Stocked

theorem congr (hs : Stocked s) (compiled : t.compiled = s.compiled)
    (last : t.engine.lastNumber = s.engine.lastNumber) (live : t.engine.live = s.engine.live) :
    Stocked t := by
  have statement (h : CompiledId) : t.statement h = s.statement h :=
    congrArg (fun hs => hs.get h) compiled
  constructor
  case number =>
    rw [compiled, last]
    simpa only [statement] using hs.number
  case distinct =>
    rw [compiled]
    simpa only [statement] using hs.distinct
  case live =>
    simpa only [statement, Recording.isLive, Recording.sql?, live] using hs.live

/-- Nothing was compiled: the numbers are as they were, and it is enough to look at what is not
destroyed. -/
theorem of_old (hs : Stocked s) (he : Extends s t) (next : t.compiled.next = s.compiled.next)
    (last : t.engine.lastNumber = s.engine.lastNumber)
    (live : ∀ h, (t.statement h).destroyed = false →
      t.engine.isLive (s.statement h).statement = true) : Stocked t := by
  constructor
  case number =>
    intro h hh
    rw [next] at hh
    rw [he.statement_id hh, last]
    exact hs.number h hh
  case distinct =>
    intro h k hh hk same
    rw [next] at hh hk
    rw [he.statement_id hh, he.statement_id hk] at same
    exact hs.distinct h k hh hk same
  case live =>
    intro h hd
    have hh : h < s.compiled.next := Nat.lt_of_lt_of_eq (lt_of_not_destroyed hd) next
    rw [he.statement_id hh]
    exact live h hd

/-- A request keeps the statements in stock. -/
theorem step (hs : Stocked s) (he : Extends s t) (sends : Sends Recording.engine s t) :
    Stocked t := by
  cases sends with
  | nothing engine same =>
    refine hs.of_old he same.next (by rw [engine]) fun h hd => ?_
    rw [engine]
    exact hs.live h ((same.destroyed h).symm.trans hd)
  | refused i sql e answer engine same =>
    change (s.engine.compile sql).1 = .error e at answer
    have kept : t.engine = s.engine := by
      rw [engine]
      show (s.engine.compile sql).2 = s.engine
      cases hr : s.engine.refused.contains sql with
      | true => rw [Recording.compile_refused hr]
      | false =>
        rw [Recording.compile_accepted hr] at answer
        nomatch answer
    refine hs.of_old he same.next (by rw [kept]) fun h hd => ?_
    rw [kept]
    exact hs.live h ((same.destroyed h).symm.trans hd)
  | compiled i sql n answer engine native next live others =>
    change (s.engine.compile sql).1 = .ok n at answer
    change t.engine = (s.engine.compile sql).2 at engine
    have accepted : s.engine.refused.contains sql = false := by
      cases hr : s.engine.refused.contains sql with
      | false => rfl
      | true =>
        rw [Recording.compile_refused hr] at answer
        nomatch answer
    rw [Recording.compile_accepted accepted] at answer
    have hn : n = .after s.engine.lastNumber := (Except.ok.inj answer).symm
    have new : (t.statement s.compiled.next).statement = .after s.engine.lastNumber :=
      (Prod.mk.inj native).2.trans hn
    have last : t.engine.lastNumber = s.engine.lastNumber + 1 := by
      rw [engine, Recording.compile_accepted accepted]
    have larger {h : CompiledId} (hh : h < s.compiled.next) :
        (t.statement h).statement.number ≤ s.engine.lastNumber := by
      rw [he.statement_id hh]
      exact hs.number h hh
    have apart {h : CompiledId} (hh : h < s.compiled.next) :
        (t.statement h).statement ≠ (t.statement s.compiled.next).statement := by
      intro same
      have le := larger hh
      rw [same, new] at le
      exact absurd le (Nat.not_succ_le_self _)
    constructor
    case number =>
      intro h hh
      rcases Nat.lt_or_eq_of_le (Nat.lt_succ_iff.1 (next ▸ hh)) with old | rfl
      · rw [last]
        exact Nat.le_succ_of_le (larger old)
      · rw [new, last]
        exact Nat.le_refl _
    case distinct =>
      intro h k hh hk same
      rcases Nat.lt_or_eq_of_le (Nat.lt_succ_iff.1 (next ▸ hh)) with oldh | rfl <;>
        rcases Nat.lt_or_eq_of_le (Nat.lt_succ_iff.1 (next ▸ hk)) with oldk | rfl
      · rw [he.statement_id oldh, he.statement_id oldk] at same
        exact hs.distinct h k oldh oldk same
      · exact absurd same (apart oldh)
      · exact absurd same.symm (apart oldk)
      · rfl
    case live =>
      intro h hd
      rw [engine]
      rcases Nat.lt_or_eq_of_le (Nat.lt_succ_iff.1 (next ▸ lt_of_not_destroyed hd)) with old | rfl
      · rw [he.statement_id old]
        exact Recording.isLive_compile (hs.live h ((others h old).symm.trans hd))
      · rw [new]
        exact Recording.isLive_compile_self accepted
  | used k r engine about use alive same =>
    have kept := Recording.live_of_used (r := s.engine) (i := (s.native k).1) about use
    rw [← engine] at kept
    refine hs.of_old he same.next kept.2 fun h hd => ?_
    unfold Recording.isLive Recording.sql?
    rw [kept.1]
    exact hs.live h ((same.destroyed h).symm.trans hd)
  | destroyed k engine alive next marked =>
    change t.engine = (s.engine.destroy (s.statement k).statement).2 at engine
    refine hs.of_old he next (by rw [engine, Recording.lastNumber_destroy]) fun h hd => ?_
    have unmarked : ¬ (h = k ∨ (s.statement h).destroyed = true) := by
      rw [← marked h, hd]
      exact nofun
    rw [not_or, Bool.not_eq_true] at unmarked
    have hh := lt_of_not_destroyed unmarked.2
    have apart : (s.statement h).statement ≠ (s.statement k).statement := fun same =>
      unmarked.1 (hs.distinct h k hh (lt_of_not_destroyed alive) same)
    rw [engine, Recording.isLive_destroy_of_ne apart]
    exact hs.live h unmarked.2

theorem empty (e : Recording) : Stocked { engine := e } :=
  ⟨fun _ => nofun, fun _ _ => nofun, fun _ => nofun⟩

theorem move {a b : Moment Recording} (hm : Move Recording.engine a b)
    (h : Sound a ∧ Stocked a.store) : Sound b ∧ Stocked b.store :=
  ⟨h.1.step hm, h.2.step hm.extends (hm.sends h.1)⟩

end Stocked

/-- The statements are in stock after every run. -/
theorem Run.stocked {e : Recording} {past : List (Step Recording)}
    (run : Run Recording.engine e past s) : Stocked s :=
  (run.keeps (I := fun m => Sound m ∧ Stocked m.store) (fun _ h => h.1.registered)
    (fun _ idle => ⟨.empty e idle, .empty e⟩)
    (fun _ _ _ idle idle' h => ⟨h.1.regrip idle idle', h.2⟩)
    (fun _ _ => Stocked.move)
    { connection := 0 } ⟨rfl, rfl, rfl, rfl⟩).2

/-- A move makes one request at most. -/
theorem Move.request {σ : Type} {E : Engine σ} {a b : Moment σ} (hm : Move E a b) :
    b.store.engine = a.store.engine ∨ ∃ i p, b.store.engine = (E.run i p a.store.engine).2 := by
  cases hm with
  | refuse | compile | use | destroyLoose | destroyHand | destroyReturned => exact .inr ⟨_, _, rfl⟩
  | _ => exact .inl rfl

/-- The texts that are refused after a run are those that were refused before it. -/
theorem Run.refused {e : Recording} {past : List (Step Recording)}
    (run : Run Recording.engine e past s) : s.engine.refused = e.refused := by
  let I (m : Moment Recording) : Prop := Sound m ∧ m.store.engine.refused = e.refused
  refine (run.keeps (I := I) (fun _ h => h.1.registered) (fun _ idle => ⟨.empty e idle, rfl⟩)
    (fun _ _ _ idle idle' h => ⟨h.1.regrip idle idle', h.2⟩)
    (fun a b hm h => ⟨h.1.step hm, ?_⟩) { connection := 0 } ⟨rfl, rfl, rfl, rfl⟩).2
  rcases hm.request with same | ⟨i, p, same⟩ <;> rw [same]
  · exact h.2
  · rw [Recording.refused_run, h.2]

end Store

end Prepared
