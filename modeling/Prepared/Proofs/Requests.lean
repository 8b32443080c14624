import Prepared.Proofs.Log
import Prepared.Proofs.Sends

/-! Logged requests.

What the moves of a store ask an engine with a log stands in that log. So the table of
compiled statements says what the log must look like. -/
namespace Prepared.Store

variable {σ : Type} {E : Engine σ}

/-- A request about a statement gives out none. -/
theorem issues_nothing {r : Primitive} {n : StatementId} (about : r.target? = some n)
    (x : Except EngineError r.Answer) : (x.map r.issued).toOption.join = none := by
  cases x with
  | error => rfl
  | ok a =>
    cases r with
    | compile => nomatch about
    | _ => rfl

/-- What stands in the log and in the table of compiled statements after a move. -/
inductive Records (s t : Store (Logged σ)) : Prop
  | silence (log : t.engine.log = s.engine.log) (same : Unmarked s t)
  /-- An engine refuses to compile a text. -/
  | refusal (i : EngineId) (sql : String) (e : EngineError)
      (log : t.engine.log = s.engine.log ++ [⟨i, .compile sql, .error e⟩]) (same : Unmarked s t)
  /-- An engine compiles a text. -/
  | compilation (sql : String)
      (log : t.engine.log = s.engine.log ++
        [⟨(t.native s.compiled.next).1, .compile sql, .ok (some (t.native s.compiled.next).2)⟩])
      (next : t.compiled.next = s.compiled.next + 1)
      (live : (t.statement s.compiled.next).destroyed = false)
      (others : ∀ h < s.compiled.next, (t.statement h).destroyed = (s.statement h).destroyed)
  /-- A statement that is not destroyed is used. -/
  | use (h : CompiledId) (r : Primitive) (answer : Except EngineError (Option StatementId))
      (log : t.engine.log = s.engine.log ++ [⟨(s.native h).1, r, answer⟩])
      (about : r.target? = some (s.native h).2) (used : r.name ≠ .destroy)
      (gives : answer.toOption.join = none) (given : h < s.compiled.next)
      (live : (s.statement h).destroyed = false) (same : Unmarked s t)
  /-- A statement that is not destroyed is marked and destroyed. -/
  | destruction (h : CompiledId) (answer : Except EngineError (Option StatementId))
      (log : t.engine.log = s.engine.log ++ [⟨(s.native h).1, .destroy (s.native h).2, answer⟩])
      (gives : answer.toOption.join = none) (given : h < s.compiled.next)
      (live : (s.statement h).destroyed = false) (next : t.compiled.next = s.compiled.next)
      (marked : ∀ k, (t.statement k).destroyed = true ↔
        k = h ∨ (s.statement k).destroyed = true)

/-- What an engine with a log was asked stands at the end of its log. -/
theorem Sends.records {s t : Store (Logged σ)} (hs : Sends E.logged s t) : Records s t := by
  have logged (i : EngineId) (r : Primitive) (engine : t.engine = (E.logged.run i r s.engine).2) :
      t.engine.log =
        s.engine.log ++ [⟨i, r, (E.run i r s.engine.inner).1.map r.issued⟩] := by
    rw [engine]
    rfl
  cases hs with
  | nothing engine same => exact .silence (by rw [engine]) same
  | refused i sql e answer engine same =>
    have log := logged i (.compile sql) engine
    change (E.run i (.compile sql) s.engine.inner).1 = .error e at answer
    rw [answer] at log
    exact .refusal i sql e log same
  | compiled i sql n answer engine native next live others =>
    have log := logged i (.compile sql) engine
    change (E.run i (.compile sql) s.engine.inner).1 = .ok n at answer
    rw [answer] at log
    refine .compilation sql ?_ next live others
    rw [native]
    exact log
  | used h r engine about use live same =>
    exact .use h r _ (logged _ r engine) about use (issues_nothing about _)
      (lt_of_not_destroyed live) live same
  | destroyed h engine live next marked =>
    exact .destruction h _ (logged _ _ engine) (issues_nothing rfl _) (lt_of_not_destroyed live)
      live next marked

theorem Move.records {a b : Moment (Logged σ)} (ha : Sound a) (hm : Move E.logged a b) :
    Records a.store b.store :=
  (hm.sends ha).records

/-! What was issued is what stands in the table. -/

/-- The statements that were given out are the compiled ones, in order. -/
def Issued (s : Store (Logged σ)) : Prop :=
  s.engine.log.filterMap Sent.issued? = s.compiled.positions.map s.native

theorem natives_of_next {s t : Store σ} (he : Extends s t)
    (next : t.compiled.next = s.compiled.next) :
    t.compiled.positions.map t.native = s.compiled.positions.map s.native := by
  unfold Table.positions
  rw [next]
  exact List.map_congr_left fun h hh => he.native (List.mem_range.1 hh)

theorem issued?_of_join {x : Sent} (h : x.answer.toOption.join = none) : x.issued? = none := by
  unfold Sent.issued?
  rw [h]
  rfl

theorem Issued.step {s t : Store (Logged σ)} (hs : Issued s) (he : Extends s t)
    (hr : Records s t) : Issued t := by
  -- a request that gives out nothing leaves no trace here
  have skip {x : Sent} (log : t.engine.log = s.engine.log ++ [x]) (hx : x.issued? = none)
      (next : t.compiled.next = s.compiled.next) : Issued t := by
    unfold Issued
    rw [log, List.filterMap_append, List.filterMap_cons, hx, natives_of_next he next]
    exact (List.append_nil _).trans hs
  cases hr with
  | silence log same =>
    unfold Issued
    rw [log, natives_of_next he same.next]
    exact hs
  | refusal i sql e log same => exact skip log rfl same.next
  | compilation sql log next =>
    have hp : t.compiled.positions = s.compiled.positions ++ [s.compiled.next] := by
      unfold Table.positions
      rw [next, List.range_succ]
    unfold Issued
    rw [log, List.filterMap_append, hp, List.map_append]
    refine congrArg₂ _ (hs.trans ?_) rfl
    exact List.map_congr_left fun h hh => (he.native (List.mem_range.1 hh)).symm
  | use h r answer log about used gives given live same =>
    exact skip log (issued?_of_join gives) same.next
  | destruction h answer log gives given live next =>
    exact skip log (issued?_of_join gives) next

/-- If no statement was given out twice, compiled statements can be told apart. -/
theorem Issued.distinct {s : Store (Logged σ)} (hs : Issued s) (once : IssuesOnce s.engine.log)
    {h k : CompiledId} (hh : h < s.compiled.next) (hk : k < s.compiled.next)
    (same : s.native h = s.native k) : h = k := by
  unfold IssuesOnce at once
  rw [hs] at once
  exact List.inj_on_of_nodup_map once (List.mem_range.2 hh) (List.mem_range.2 hk) same

/-! What was destroyed is what is marked. -/

/-- The requests to destroy statements are about those that are marked, one for each. -/
def Destroyed (s : Store (Logged σ)) : Prop :=
  ∃ ds : List CompiledId, ds.Nodup ∧
    (∀ h, h ∈ ds ↔ h < s.compiled.next ∧ (s.statement h).destroyed = true) ∧
    s.engine.log.filterMap Sent.destroyed? = ds.map s.native

theorem Destroyed.step {s t : Store (Logged σ)} (hs : Destroyed s) (he : Extends s t)
    (hr : Records s t) : Destroyed t := by
  obtain ⟨ds, nodup, mem, log⟩ := hs
  have natives : ds.map t.native = ds.map s.native :=
    List.map_congr_left fun h hh => he.native ((mem h).1 hh).1
  have keep {xs : List Sent} (hl : t.engine.log = s.engine.log ++ xs)
      (hx : xs.filterMap Sent.destroyed? = [])
      (hm : ∀ h, h < t.compiled.next ∧ (t.statement h).destroyed = true ↔
        h < s.compiled.next ∧ (s.statement h).destroyed = true) : Destroyed t := by
    refine ⟨ds, nodup, fun h => (mem h).trans (hm h).symm, ?_⟩
    rw [hl, List.filterMap_append, hx, List.append_nil, natives]
    exact log
  have same (hu : Unmarked s t) (h : CompiledId) :
      h < t.compiled.next ∧ (t.statement h).destroyed = true ↔
        h < s.compiled.next ∧ (s.statement h).destroyed = true := by
    rw [hu.next, hu.destroyed]
  cases hr with
  | silence hl hu => exact keep (hl.trans (List.append_nil _).symm) rfl (same hu)
  | refusal i sql e hl hu => exact keep hl rfl (same hu)
  | compilation sql hl next live others =>
    apply keep hl rfl
    intro h
    rw [next]
    constructor
    · intro found
      obtain ⟨hlt, hd⟩ := found
      rcases Nat.lt_or_eq_of_le (Nat.le_of_lt_succ hlt) with ho | rfl
      · exact ⟨ho, others h ho ▸ hd⟩
      · exact absurd (live.symm.trans hd) (by decide)
    · intro found
      obtain ⟨hlt, hd⟩ := found
      exact ⟨Nat.lt_succ_of_lt hlt, (others h hlt).trans hd⟩
  | use h r answer hl about used gives given live hu =>
    refine keep hl ?_ (same hu)
    cases r with
    | destroy => exact absurd rfl used
    | _ => rfl
  | destruction h answer hl gives given live next marked =>
    have hn : h ∉ ds := fun hm => absurd (live.symm.trans ((mem h).1 hm).2) (by decide)
    refine ⟨ds ++ [h], ?_, ?_, ?_⟩
    · exact (List.nodup_append_comm.1 (List.nodup_cons.2 ⟨hn, nodup⟩))
    · intro k
      rw [List.mem_append, List.mem_singleton, mem, next, marked]
      constructor
      · intro either
        rcases either with ⟨hlt, hd⟩ | rfl
        · exact ⟨hlt, .inr hd⟩
        · exact ⟨given, .inl rfl⟩
      · intro found
        obtain ⟨hlt, rfl | hd⟩ := found
        · exact .inr rfl
        · exact .inl ⟨hlt, hd⟩
    · rw [hl, List.filterMap_append, log, List.map_append, natives]
      apply congrArg₂ _ rfl
      show [s.native h] = [t.native h]
      rw [he.native given]

/-- A sound store whose tables agree with the log of its engine. -/
structure Recorded (m : Moment (Logged σ)) : Prop where
  sound : Sound m
  issued : Issued m.store
  destroyed : Destroyed m.store

theorem Recorded.step {a b : Moment (Logged σ)} (ha : Recorded a) (hm : Move E.logged a b) :
    Recorded b where
  sound := ha.sound.step hm
  issued := ha.issued.step hm.extends (hm.records ha.sound)
  destroyed := ha.destroyed.step hm.extends (hm.records ha.sound)

/-- Every reachable store agrees with the log of its engine. -/
theorem Run.recorded {e : σ} {past : List (Step (Logged σ))} {s : Store (Logged σ)}
    (run : Run E.logged ⟨e, []⟩ past s) {g : Grip} (idle : g.Idle) : Recorded ⟨s, g⟩ := by
  refine run.keeps (fun _ hs => hs.sound.registered) (fun g hg => ?_) (fun t g g' hg hg' hs => ?_)
    (fun _ _ hm hs => hs.step hm) g idle
  · exact ⟨Sound.empty _ hg, rfl, [], List.nodup_nil, fun _ => ⟨nofun, nofun⟩, rfl⟩
  · exact ⟨hs.sound.regrip hg hg', hs.issued, hs.destroyed⟩

end Prepared.Store
