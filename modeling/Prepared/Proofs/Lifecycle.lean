import Prepared.Engine.Faults
import Prepared.Engine.Recording
import Prepared.Proofs.Requests

/-! The life of a statement.

If the engines give out no statement twice, the requests about one statement are those about
one entry of the table of compiled statements. Its mark tells how far its life has gone. -/
namespace Prepared

namespace Sent

/-- The statement that a request is about, with its engine. -/
def subject? (x : Sent) : Option (EngineId × StatementId) :=
  x.statement?.map fun n => (x.engine, n)

theorem isAbout_iff {x : Sent} {i : EngineId} {n : StatementId} :
    x.isAbout i n = true ↔ x.subject? = some (i, n) := by
  unfold isAbout subject?
  rw [Bool.and_eq_true, beq_iff_eq, beq_iff_eq, Option.map_eq_some_iff]
  constructor
  · intro found
    obtain ⟨hi, hn⟩ := found
    exact ⟨n, hn, by rw [hi]⟩
  · intro found
    obtain ⟨m, hm, he⟩ := found
    obtain ⟨hi, rfl⟩ := Prod.mk.inj he
    exact ⟨hi, hm⟩

theorem subject?_of_target {x : Sent} {n : StatementId} (h : x.request.target? = some n) :
    x.subject? = some (x.engine, n) := by
  unfold subject? statement?
  rw [h]
  rfl

end Sent

/-- The requests of a log about a statement. -/
def about (log : List Sent) (key : EngineId × StatementId) : List Sent :=
  log.filter (Sent.isAbout key.1 key.2)

theorem about_append_self {log : List Sent} {x : Sent} {key : EngineId × StatementId}
    (h : x.subject? = some key) : about (log ++ [x]) key = about log key ++ [x] := by
  unfold about
  rw [List.filter_append, List.filter_cons, if_pos (Sent.isAbout_iff.2 h)]
  rfl

theorem about_append_of_ne {log : List Sent} {x : Sent} {key : EngineId × StatementId}
    (h : x.subject? ≠ some key) : about (log ++ [x]) key = about log key := by
  unfold about
  rw [List.filter_append, List.filter_cons, if_neg fun ha => h (Sent.isAbout_iff.1 ha)]
  exact List.append_nil _

namespace Store

variable {σ : Type} {E : Engine σ}

/-- A life that has come as far as the mark says. -/
structure Lived (key : EngineId × StatementId) (destroyed : Bool) (xs : List Sent) : Prop where
  life : IsLife key.1 key.2 xs
  /-- While there is no mark, it was given out and only used since. -/
  alive : destroyed = false → ∃ sql uses, (∀ x ∈ uses, x.Uses key.1 key.2) ∧
    xs = ⟨key.1, .compile sql, .ok (some key.2)⟩ :: uses

theorem Lived.alive_of {key : EngineId × StatementId} (sql : String) (uses : List Sent)
    (used : ∀ x ∈ uses, x.Uses key.1 key.2) (destroyed : Bool) :
    Lived key destroyed (⟨key.1, .compile sql, .ok (some key.2)⟩ :: uses) where
  life := .alive sql uses used
  alive _ := ⟨sql, uses, used, rfl⟩

theorem Lived.use {key : EngineId × StatementId} {xs : List Sent} (h : Lived key false xs)
    {x : Sent} (used : x.Uses key.1 key.2) : Lived key false (xs ++ [x]) := by
  obtain ⟨sql, uses, all, rfl⟩ := h.alive rfl
  refine .alive_of sql (uses ++ [x]) (fun y hy => ?_) false
  rcases List.mem_append.1 hy with ho | hn
  · exact all y ho
  · exact List.mem_singleton.1 hn ▸ used

theorem Lived.destroy {key : EngineId × StatementId} {xs : List Sent} (h : Lived key false xs)
    (answer : Except EngineError (Option StatementId)) :
    Lived key true (xs ++ [⟨key.1, .destroy key.2, answer⟩]) := by
  obtain ⟨sql, uses, all, rfl⟩ := h.alive rfl
  exact ⟨.over sql uses all answer, nofun⟩

/-- If no statement was given out twice, nothing was asked about what is not in the table,
and every entry has the life that its mark tells of. -/
def Lives (s : Store (Logged σ)) : Prop :=
  IssuesOnce s.engine.log →
    (∀ key, (∀ h < s.compiled.next, s.native h ≠ key) → about s.engine.log key = []) ∧
    ∀ h < s.compiled.next,
      Lived (s.native h) (s.statement h).destroyed (about s.engine.log (s.native h))

/-- The lives of a later store, if a request about a compiled statement is a step of its
life. -/
theorem Lives.of_request {s t : Store (Logged σ)} (hl : Lives s) (hi : Issued s) (he : Extends s t)
    {x : Sent} {h : CompiledId} (log : t.engine.log = s.engine.log ++ [x])
    (given : h < s.compiled.next) (subject : x.subject? = some (s.native h))
    (next : t.compiled.next = s.compiled.next)
    (others : ∀ k, k ≠ h → (t.statement k).destroyed = (s.statement k).destroyed)
    (life : Lived (s.native h) (s.statement h).destroyed (about s.engine.log (s.native h)) →
      Lived (s.native h) (t.statement h).destroyed (about s.engine.log (s.native h) ++ [x])) :
    Lives t := by
  intro once
  rw [log] at once ⊢
  obtain ⟨unknown, known⟩ := hl once.of_append
  constructor
  · intro key hk
    have old : ∀ k < s.compiled.next, s.native k ≠ key := fun k hk' =>
      he.native hk' ▸ hk k (next ▸ hk')
    rw [about_append_of_ne fun hs => old h given (Option.some.inj (subject.symm.trans hs))]
    exact unknown key old
  · intro k hk
    rw [next] at hk
    rw [he.native hk]
    by_cases hkh : k = h
    · subst hkh
      rw [about_append_self subject]
      exact life (known k hk)
    · rw [about_append_of_ne fun hs =>
        hkh (hi.distinct once.of_append hk given (Option.some.inj (hs.symm.trans subject))),
        others k hkh]
      exact known k hk

theorem Lives.of_same {s t : Store (Logged σ)} (hl : Lives s) (he : Extends s t)
    (hu : Unmarked s t) (once : IssuesOnce t.engine.log → IssuesOnce s.engine.log)
    (same : ∀ key, about t.engine.log key = about s.engine.log key) : Lives t := by
  intro ht
  obtain ⟨unknown, known⟩ := hl (once ht)
  constructor
  · intro key hk
    rw [same]
    exact unknown key fun h hh => he.native hh ▸ hk h (hu.next ▸ hh)
  · intro h hh
    rw [hu.next] at hh
    rw [same, he.native hh, hu.destroyed]
    exact known h hh

theorem Lives.step {s t : Store (Logged σ)} (hl : Lives s) (hi : Issued s) (he : Extends s t)
    (ht : Issued t) (hr : Records s t) : Lives t := by
  cases hr with
  | silence log same =>
    exact hl.of_same he same (by rw [log]; exact id) fun key => by rw [log]
  | refusal i sql e log same =>
    refine hl.of_same he same ?_ ?_
    · intro once
      rw [log] at once
      exact once.of_append
    · intro key
      rw [log]
      exact about_append_of_ne nofun
  | compilation sql log next live others =>
    intro once
    have new : s.compiled.next < t.compiled.next := next ▸ Nat.lt_succ_self _
    have distinct {h : CompiledId} (hh : h < s.compiled.next) :
        s.native h ≠ t.native s.compiled.next := by
      intro same
      have heq := ht.distinct once (Nat.lt_trans hh new) new ((he.native hh).trans same)
      exact absurd heq (Nat.ne_of_lt hh)
    have subject : (⟨(t.native s.compiled.next).1, .compile sql,
        .ok (some (t.native s.compiled.next).2)⟩ : Sent).subject? =
          some (t.native s.compiled.next) := rfl
    rw [log] at once
    obtain ⟨unknown, known⟩ := hl once.of_append
    rw [log]
    constructor
    · intro key hk
      rw [about_append_of_ne fun hs => hk _ new (Option.some.inj (subject.symm.trans hs))]
      exact unknown key fun h hh => he.native hh ▸ hk h (Nat.lt_trans hh new)
    · intro h hh
      rw [next] at hh
      rcases Nat.lt_or_eq_of_le (Nat.le_of_lt_succ hh) with old | rfl
      · rw [he.native old, others h old,
          about_append_of_ne fun hs => distinct old (Option.some.inj (subject.symm.trans hs)).symm]
        exact known h old
      · -- nothing was asked about it before it was given out
        rw [about_append_self subject, unknown _ fun h hh => distinct hh]
        exact .alive_of sql [] (fun _ => nofun) _
  | use h r answer log about used gives given live same =>
    refine hl.of_request hi he log given (Sent.subject?_of_target about) same.next
      (fun k _ => same.destroyed k) fun life => ?_
    rw [same.destroyed]
    rw [live] at life ⊢
    exact life.use ⟨rfl, about, used⟩
  | destruction h answer log gives given live next marked =>
    have others (k : CompiledId) (hk : k ≠ h) :
        (t.statement k).destroyed = (s.statement k).destroyed := by
      rw [Bool.eq_iff_iff, marked, or_iff_right hk]
    refine hl.of_request hi he log given (Sent.subject?_of_target rfl) next others fun life => ?_
    rw [live] at life
    rw [(marked h).2 (.inl rfl)]
    exact life.destroy answer

/-- If the engines give out no statement twice, the requests about any statement are those of
one life: it is compiled once, then used, and at last destroyed, once at most and whatever the
answer, after which nothing is asked about it. -/
theorem native_lifecycle {e : σ} {past : List (Step (Logged σ))} {s : Store (Logged σ)}
    (run : Run E.logged ⟨e, []⟩ past s) (once : IssuesOnce s.engine.log)
    (i : EngineId) (n : StatementId) :
    IsLife i n (s.engine.log.filter (Sent.isAbout i n)) := by
  have idle : Grip.Idle { connection := 0 } := ⟨rfl, rfl, rfl, rfl⟩
  have lives : Recorded ⟨s, { connection := 0 }⟩ ∧ Lives s := by
    refine run.keeps (I := fun m => Recorded m ∧ Lives m.store) (fun _ hs => hs.1.sound.registered)
      (fun g hg => ⟨Run.recorded (E := E) .start hg, fun _ => ⟨fun _ _ => rfl, fun _ => nofun⟩⟩)
      (fun t g g' hg hg' hs => ?_) (fun a b hm hs => ?_) { connection := 0 } idle
    · exact ⟨⟨hs.1.sound.regrip hg hg', hs.1.issued, hs.1.destroyed⟩, hs.2⟩
    · have hb := hs.1.step hm
      exact ⟨hb, hs.2.step hs.1.issued hm.extends hb.issued (hm.records hs.1.sound)⟩
  obtain ⟨unknown, known⟩ := lives.2 once
  by_cases given : ∃ h < s.compiled.next, s.native h = (i, n)
  · obtain ⟨h, hh, key⟩ := given
    have life := (known h hh).life
    rw [key] at life
    exact life
  · have unborn := unknown (i, n) fun h hh key => given ⟨h, hh, key⟩
    show IsLife i n (about s.engine.log (i, n))
    rw [unborn]
    exact .unborn

/-- A statement is compiled, bound and executed; when its program is closed after the last
reference was given back, it was destroyed already, by a request that failed, and nothing more
is asked about it. -/
theorem native_lifecycle_released :
    ∃ past s, Run Recording.engine.withFaults.logged ⟨⟨{}, [⟨.destroy, 0, .native "busy"⟩]⟩, []⟩ past s ∧
      s.engine.log.length = 4 ∧
      IsLife 0 (StatementId.after 0) (s.engine.log.filter (Sent.isAbout 0 (StatementId.after 0))) := by
  have run := Run.ofActions (E := Recording.engine.withFaults.logged)
    (e := ⟨⟨{}, [⟨.destroy, 0, .native "busy"⟩]⟩, []⟩)
    [.openDefault 0, .createCompiled 0 "INSERT", .bindValue 0 1 .null, .execute 0,
      .releaseReference 0, .releaseReference 0, .closeProgram 0] (by decide +kernel)
  exact ⟨_, _, run, by decide +kernel, native_lifecycle run (by decide +kernel) 0 _⟩

end Store

end Prepared
