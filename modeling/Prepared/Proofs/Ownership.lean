import Prepared.Proofs.Requests
import Prepared.Store.Describe

/-! Exclusive ownership.

Between operations nobody has a statement but programs. So the token of a cached statement
tells whether a program holds it, and that program is the only one. -/
namespace Prepared.Store

variable {σ : Type} {E : Engine σ}

/-- Between operations, what somebody has some program holds. -/
theorem has_idle {s : Store σ} {g : Grip} (idle : g.Idle) {h : CompiledId} :
    Has ⟨s, g⟩ h ↔ ∃ p, (s.program p).held = some h := by
  constructor
  · intro either
    rcases either with hm | hp
    · exact absurd (idle.hand.symm.trans hm) nofun
    · exact hp
  · exact .inr

/-- A held statement is one of the engine of the connection whose program holds it. -/
theorem Sound.engine_of_held {m : Moment σ} (hs : Sound m) {p : ProgramId} {h : CompiledId}
    (hp : (m.store.program p).held = some h) :
    (m.store.statement h).engine =
      (m.store.connection (m.store.program p).connection).engine := by
  have hb := hs.homes.held p h hp
  rw [hs.rooted.engine h hb.exists_, hb.home]

/-- After every run no two programs hold one compiled statement; if the engines give out no
number twice, programs that are compiled on one engine report different numbers; and the
token of a cached statement is taken exactly if one program that is not closed holds it. -/
theorem exclusive_ownership {e : σ} {past : List (Step (Logged σ))} {s : Store (Logged σ)}
    (run : Run E.logged ⟨e, []⟩ past s) :
    (∀ p q h, (s.program p).held = some h → (s.program q).held = some h → p = q) ∧
    (IssuesOnce s.engine.log → ∀ p q, p ≠ q →
      (s.program p).held ≠ none → (s.program q).held ≠ none →
      (s.connection (s.program p).connection).engine =
        (s.connection (s.program q).connection).engine →
      s.statementNumber p ≠ s.statementNumber q) ∧
    (∀ c sql h, (sql, h) ∈ (s.connection c).cache.entries →
      ((s.statement h).inUse = true ↔
        ∃! p, (s.program p).isClosed = false ∧ (s.program p).held = some h)) := by
  have idle : Grip.Idle { connection := 0 } := ⟨rfl, rfl, rfl, rfl⟩
  have hr := run.recorded idle
  have unique := hr.sound.custody.unique
  refine ⟨unique, ?_, ?_⟩
  · intro once p q hpq hp hq engine number
    obtain ⟨h, hh⟩ := Option.ne_none_iff_exists'.1 hp
    obtain ⟨k, hk⟩ := Option.ne_none_iff_exists'.1 hq
    have hhk : h ≠ k := by
      intro same
      subst same
      exact hpq (unique p q h hh hk)
    refine hhk (hr.issued.distinct once (hr.sound.homes.held p h hh).exists_
      (hr.sound.homes.held q k hk).exists_ (Prod.ext ?_ ?_))
    · show (s.statement h).engine = (s.statement k).engine
      exact (hr.sound.engine_of_held hh).trans (engine.trans (hr.sound.engine_of_held hk).symm)
    · show (s.statement h).statement = (s.statement k).statement
      unfold statementNumber at number
      rw [hh, hk] at number
      exact StatementId.ext_number number
  · intro c sql h hm
    refine (hr.sound.tokened h (.inl ⟨c, _, hm, rfl⟩)).trans ((has_idle idle).trans ?_)
    constructor
    · intro found
      obtain ⟨p, hp⟩ := found
      exact ⟨p, ⟨hr.sound.custody.live_of_held hp, hp⟩, fun q hq => unique q p h hq.2 hp⟩
    · intro found
      obtain ⟨p, ⟨-, hp⟩, -⟩ := found
      exact ⟨p, hp⟩

/-- A program holds a statement that was evicted, another one was compiled for the cache, and
a third program had to compile one of its own. -/
theorem exclusive_ownership_contended :
    ∃ past s, Run Recording.engine.logged ⟨{}, []⟩ past s ∧
      (s.program 0).held = some 0 ∧ (s.program 1).held = some 1 ∧ (s.program 2).held = some 2 ∧
      s.statementNumber 0 ≠ s.statementNumber 2 ∧
      ("INSERT", 1) ∈ (s.connection 0).cache.entries ∧
      ∃! p, (s.program p).isClosed = false ∧ (s.program p).held = some 1 := by
  have run := Run.ofActions (E := Recording.engine.logged) (e := ⟨{}, []⟩)
    [.openDefault 0, .createCompiled 0 "INSERT", .evict 0 "INSERT", .createCompiled 0 "INSERT",
      .createCompiled 0 "INSERT"] (by decide +kernel)
  obtain ⟨-, numbers, tokens⟩ := exclusive_ownership run
  refine ⟨_, _, run, by decide +kernel, by decide +kernel, by decide +kernel,
    numbers (by decide +kernel) 0 2 (by decide) (by decide +kernel) (by decide +kernel)
      (by decide +kernel), by decide +kernel, ?_⟩
  exact (tokens 0 "INSERT" 1 (by decide +kernel)).1 (by decide +kernel)

end Prepared.Store
