import Prepared.Proofs.Bindings
import Prepared.Proofs.Steady

/-! Stores over one engine.

When all statements of a store are those of one engine, each statement that is not destroyed has a
slot with its text and all its parameters. Requests are answered accordingly: statements are
destroyed without failure, and a binding is refused when the text has no parameter at its
position. -/
namespace Prepared.Store

open Operation Sql

variable {δ : Type} {L : Library δ} {T : Terms L} {s t : Store (Engines δ)} {h k : CompiledId}
  {c : ConnectionId} {sql : String} {n : StatementId}

/-- The statements of a store are those of one engine, and have all parameters of their texts. -/
structure Engaged (T : Terms L) (s : Store (Engines δ)) : Prop where
  slotted : Slotted s
  statements : ∀ h < s.compiled.next, (s.statement h).engine = T.engine
  shape : ∀ h, (s.statement h).destroyed = false →
    (s.slot? h).map Slot.shape = some ((s.statement h).sql, T.count (s.statement h).sql)

namespace Engaged

theorem congr (hs : Engaged T s) (engine : t.engine = s.engine)
    (compiled : t.compiled = s.compiled) : Engaged T t := by
  obtain ⟨_, _, _, _, _⟩ := s
  obtain ⟨_, _, _, _, _⟩ := t
  dsimp only at engine compiled
  subst engine compiled
  exact ⟨hs.slotted.congr rfl rfl, hs.statements, hs.shape⟩

/-- No statement was compiled, and those that are left have slots of the same shape. -/
theorem of_old (hs : Engaged T s) (he : Extends s t) (hn : Sends L.engine s t)
    (next : t.compiled.next = s.compiled.next)
    (left : ∀ h, (t.statement h).destroyed = false → (s.statement h).destroyed = false ∧
      (t.slot? h).map Slot.shape = (s.slot? h).map Slot.shape) :
    Engaged T t where
  slotted := hs.slotted.step he hn
  statements h hh := by
    rw [next] at hh
    rw [he.statement_engine hh]
    exact hs.statements h hh
  shape h hd := by
    obtain ⟨live, same⟩ := left h hd
    rw [same, he.statement_sql (lt_of_not_destroyed live)]
    exact hs.shape h live

theorem token (hs : Engaged T s) (h : CompiledId) (b : Bool) :
    Engaged T (s.withStatement h fun x => { x with inUse := b }) := by
  have he : Extends s (s.withStatement h fun x => { x with inUse := b }) :=
    .withStatement s h fun _ => rfl
  have same : Unmarked s (s.withStatement h fun x => { x with inUse := b }) :=
    .withStatement s h fun _ => rfl
  refine hs.of_old he (.nothing rfl same) same.next fun k hd => ?_
  have live := (same.destroyed k).symm.trans hd
  exact ⟨live, congrArg _ (slot?_of_engine he (lt_of_not_destroyed live) rfl)⟩

/-- The slot of a live statement. -/
theorem slot (hs : Engaged T s) (live : (s.statement h).destroyed = false) :
    ∃ slot, s.slot? h = some slot ∧ slot.sql = (s.statement h).sql ∧
      slot.parameters.length = T.count (s.statement h).sql := by
  obtain ⟨slot, found, same⟩ := Option.map_eq_some_iff.1 (hs.shape h live)
  exact ⟨slot, found, congrArg Prod.fst same, congrArg Prod.snd same⟩

/-- A request about a statement other than to destroy it. -/
theorem asked (hs : Engaged T s) (live : (s.statement h).destroyed = false) {r : Primitive}
    (about : r.target? = some (s.native h).2) (use : r.name ≠ .destroy) :
    Engaged T (s.asked L.engine (s.native h).1 r) :=
  hs.of_old (.asked ..) (.used h r rfl about use live ⟨rfl, fun _ => rfl⟩) rfl
    fun _ hd => ⟨hd, Engines.shape_run about use _ _⟩

/-- A statement is destroyed without failure. -/
theorem struck (hs : Engaged T s) (live : (s.statement h).destroyed = false) :
    Engaged T (s.struck L.engine h) ∧
      (L.engine.run (s.statement h).engine (.destroy (s.statement h).statement)
        s.engine).1 = .ok () := by
  have hh := lt_of_not_destroyed live
  refine ⟨hs.of_old (.struck ..) (sends_struck live) (next_withStatement ..) fun k hd => ?_, ?_⟩
  · rw [statement_struck] at hd
    split at hd
    · cases hd
    · next other =>
      have apart : k ≠ h := fun same => other ⟨same, hh⟩
      exact ⟨hd, congrArg _ (hs.slotted.slot?_struck (lt_of_not_destroyed hd) hh apart)⟩
  · obtain ⟨slot, found, -⟩ := hs.slot live
    exact congrArg Prod.fst (Slots.destroy_of_find? found)

/-- A text is compiled. -/
theorem grown (laws : T.Laws) (hs : Engaged T s) (own : (s.connection c).engine = T.engine)
    (answer : (L.engine.run (s.connection c).engine (.compile sql) s.engine).1 = .ok n) :
    Engaged T (s.grown L.engine c sql n) := by
  have slotted := hs.slotted.step (.grown ..) (sends_grown answer)
  have old {k : CompiledId} (hk : k < s.compiled.next) :
      (s.grown L.engine c sql n).slot? k = s.slot? k := hs.slotted.slot?_grown answer hk
  obtain ⟨-, -, count, prepared, new⟩ := Engines.slot?_compiled answer
  have statement := statement_grown L.engine c sql n s
  have given {k : CompiledId} (hk : k < (s.grown L.engine c sql n).compiled.next) :
      k = s.compiled.next ∨ k < s.compiled.next := by
    have next : (s.grown L.engine c sql n).compiled.next = s.compiled.next + 1 :=
      Table.next_push ..
    rw [next] at hk
    exact (Nat.lt_succ_iff_lt_or_eq.1 hk).symm
  refine ⟨slotted, fun k hk => ?_, fun k hd => ?_⟩
  · rw [statement]
    rcases given hk with rfl | hk
    · rw [if_pos rfl]
      exact own
    · rw [if_neg (Nat.ne_of_lt hk)]
      exact hs.statements k hk
  · rcases given (lt_of_not_destroyed hd) with rfl | hk
    · have slot : (s.grown L.engine c sql n).slot? s.compiled.next = some
          { sql, parameters := List.replicate count .null } := by
        unfold slot? native
        rw [statement, if_pos rfl]
        exact new
      rw [slot, statement, if_pos rfl, laws.counts _ _ _ _ prepared]
      simp [Slot.shape]
    · rw [statement, if_neg (Nat.ne_of_lt hk)] at hd
      rw [old hk, statement, if_neg (Nat.ne_of_lt hk)]
      exact hs.shape k hd

end Engaged

end Prepared.Store
