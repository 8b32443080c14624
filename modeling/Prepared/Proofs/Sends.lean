import Prepared.Proofs.Sound

/-! The requests of moves.

A move sends one request at most: it has a text compiled, it uses a statement that is not
destroyed, or it destroys one and marks it. What else a move does its engine cannot see. -/
namespace Prepared.Store

variable {σ : Type} {E : Engine σ}

/-- What a compiled statement is for its engine. -/
def native (s : Store σ) (h : CompiledId) : EngineId × StatementId :=
  ((s.statement h).engine, (s.statement h).statement)

theorem Extends.native {s t : Store σ} (he : Extends s t) {h : CompiledId}
    (hh : h < s.compiled.next) : t.native h = s.native h :=
  Prod.ext (he.statement_engine hh) (he.statement_id hh)

/-- No statement was compiled, and none was marked as destroyed. -/
structure Unmarked (s t : Store σ) : Prop where
  next : t.compiled.next = s.compiled.next
  destroyed : ∀ h, (t.statement h).destroyed = (s.statement h).destroyed

theorem Unmarked.trans {s t u : Store σ} (h : Unmarked s t) (k : Unmarked t u) :
    Unmarked s u where
  next := k.next.trans h.next
  destroyed x := (k.destroyed x).trans (h.destroyed x)

theorem Unmarked.withStatement (s : Store σ) (h : CompiledId) {f : Compiled → Compiled}
    (hf : ∀ x, (f x).destroyed = x.destroyed) : Unmarked s (s.withStatement h f) where
  next := next_withStatement ..
  destroyed k := destroyed_withStatement s h k hf

/-- What an engine was asked between two stores, and what became of its statements. -/
inductive Sends (E : Engine σ) (s t : Store σ) : Prop
  | nothing (engine : t.engine = s.engine) (same : Unmarked s t)
  /-- An engine refuses to compile a text. -/
  | refused (i : EngineId) (sql : String) (e : EngineError)
      (answer : (E.run i (.compile sql) s.engine).1 = .error e)
      (engine : t.engine = (E.run i (.compile sql) s.engine).2) (same : Unmarked s t)
  /-- An engine compiles a text. -/
  | compiled (i : EngineId) (sql : String) (n : StatementId)
      (answer : (E.run i (.compile sql) s.engine).1 = .ok n)
      (engine : t.engine = (E.run i (.compile sql) s.engine).2)
      (native : t.native s.compiled.next = (i, n))
      (next : t.compiled.next = s.compiled.next + 1)
      (live : (t.statement s.compiled.next).destroyed = false)
      (others : ∀ h < s.compiled.next, (t.statement h).destroyed = (s.statement h).destroyed)
  /-- A statement that is not destroyed is used. -/
  | used (h : CompiledId) (r : Primitive)
      (engine : t.engine = (E.run (s.native h).1 r s.engine).2)
      (about : r.target? = some (s.native h).2) (use : r.name ≠ .destroy)
      (live : (s.statement h).destroyed = false) (same : Unmarked s t)
  /-- A statement that is not destroyed is marked and destroyed. -/
  | destroyed (h : CompiledId)
      (engine : t.engine = (E.run (s.native h).1 (.destroy (s.native h).2) s.engine).2)
      (live : (s.statement h).destroyed = false) (next : t.compiled.next = s.compiled.next)
      (marked : ∀ k, (t.statement k).destroyed = true ↔ k = h ∨ (s.statement k).destroyed = true)

theorem sends_grown {s : Store σ} {c : ConnectionId} {sql : String} {n : StatementId}
    (answer : (E.run (s.connection c).engine (.compile sql) s.engine).1 = .ok n) :
    Sends E s (s.grown E c sql n) := by
  have hn := statement_grown E c sql n s s.compiled.next
  rw [if_pos rfl] at hn
  refine .compiled _ sql n answer rfl ?_ (Table.next_push ..) ?_ ?_
  · show (((s.grown E c sql n).statement s.compiled.next).engine,
      ((s.grown E c sql n).statement s.compiled.next).statement) = _
    rw [hn]
  · rw [hn]
  · intro h hh
    rw [statement_grown, if_neg (Nat.ne_of_lt hh)]

theorem sends_struck {s : Store σ} {h : CompiledId} (live : (s.statement h).destroyed = false) :
    Sends E s (s.struck E h) := by
  refine .destroyed h rfl live (next_withStatement ..) fun k => ?_
  rw [statement_struck]
  by_cases hk : k = h
  · rw [if_pos ⟨hk, lt_of_not_destroyed live⟩]
    exact iff_of_true rfl (.inl hk)
  · rw [if_neg fun hn => hk hn.1]
    exact (or_iff_right hk).symm

/-- What comes before a request and changes no mark changes nothing about the request. -/
theorem Sends.after {s t u : Store σ} (hr : Sends E t u) (engine : t.engine = s.engine)
    (same : Unmarked s t) (natives : ∀ h, t.native h = s.native h) : Sends E s u := by
  cases hr with
  | nothing he hs => exact .nothing (he.trans engine) (same.trans hs)
  | refused i sql e answer he hs =>
    rw [engine] at answer he
    exact .refused i sql e answer he (same.trans hs)
  | compiled i sql n answer he native next live others =>
    rw [engine] at answer he
    rw [same.next] at native next live others
    exact .compiled i sql n answer he native next live fun h hh =>
      (others h hh).trans (same.destroyed h)
  | used h r he about use live hs =>
    rw [engine, natives] at he
    rw [natives] at about
    rw [same.destroyed] at live
    exact .used h r he about use live (same.trans hs)
  | destroyed h he live next marked =>
    rw [engine, natives] at he
    rw [same.destroyed] at live
    refine .destroyed h he live (next.trans same.next) fun k => ?_
    rw [marked k, same.destroyed]

/-- Every move of a sound store sends one request at most, and none about a statement that is
marked as destroyed. -/
theorem Move.sends {a b : Moment σ} (ha : Sound a) (hm : Move E a b) :
    Sends E a.store b.store := by
  cases hm with
  | refuse isOpen answer => exact .refused _ _ _ answer rfl ⟨rfl, fun _ => rfl⟩
  | compile isOpen free answer => exact sends_grown answer
  | @use s g h r isOpen about used held =>
    have hb : Has ⟨s, g⟩ h ∧ Belongs s h g.connection := by
      rcases held with hh | ⟨p, -, hp, hc⟩
      · exact ⟨.inl hh, ha.homes.hand h hh⟩
      · exact ⟨.inr ⟨p, hp⟩, hc ▸ ha.homes.held p h hp⟩
    refine .used h r rfl about used (ha.live h hb.1 ?_) ⟨rfl, fun _ => rfl⟩
    show (s.connection (s.statement h).connection).isOpen = true
    rw [hb.2.home]
    exact isOpen
  | destroyLoose next live | destroyHand atHand empty absent live => exact sends_struck live
  | @destroyReturned s g h free empty live =>
    have same : Unmarked s (s.withStatement h fun x => { x with borrowers := x.borrowers - 1 }) :=
      .withStatement s h fun _ => rfl
    refine (sends_struck ((same.destroyed h).trans live)).after rfl same fun k => ?_
    exact statement_part s h k (fun x => (x.engine, x.statement)) fun _ => rfl
  | claim | attach | park | borrow | giveBack =>
    exact .nothing rfl (.withStatement _ _ fun _ => rfl)
  | _ => exact .nothing rfl ⟨rfl, fun _ => rfl⟩

end Prepared.Store
