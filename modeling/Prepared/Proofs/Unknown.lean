import Prepared.Proofs.Simulation

/-! Statements that are not live.

A statement is not live if its number was never given out, or if it has been destroyed. An engine over
a library looks for the slot first, so it answers every request about such a statement in the same
way, whatever the library. A recording engine looks at the position of a binding before that. Either
of them is as it was. -/
namespace Prepared

namespace Recording

variable {past : List Turn} {r : Recording} {n : StatementId} {p : Primitive}

/-- Whether a statement was never compiled, or has been destroyed. -/
def Dead (past : List Turn) (n : StatementId) : Prop :=
  n ∉ (succeeded past).filterMap Call.issued? ∨ .destroy n ∈ succeeded past

instance (past : List Turn) (n : StatementId) : Decidable (Dead past n) :=
  inferInstanceAs (Decidable (_ ∨ _))

theorem Dead.isLive (dead : Dead past n) (recorded : Recorded past r) : r.isLive n = false := by
  by_contra live
  rw [Bool.not_eq_false, recorded.tells.2.isLive_iff] at live
  rcases dead with unissued | destroyed
  · exact unissued live.1
  · exact live.2 destroyed

theorem Dead.run (dead : Dead past n) (recorded : Recorded past r) (about : p.target? = some n)
    (first : ∀ m value, p ≠ .bind m 0 value) :
    engine.run 0 p r = (.error (.unknownStatement n.number), r) := by
  have answer := Sql.run_of_dead about (dead.isLive recorded) first
  exact Prod.ext answer (run_of_error answer)

/-- A position that does not count from one is refused, whatever there is of the statement. -/
theorem bind_zero (r : Recording) (n : StatementId) (value : Value) :
    engine.run 0 (.bind n 0 value) r = (.error (.bind "bind position must be 1-based"), r) :=
  rfl

end Recording

namespace Sql

section Calls

variable {δ : Type}

/-- Whether the number of a statement was never given out by an engine, or the statement has been
destroyed there. -/
def Dead (L : Library δ) (i : EngineId) (past : List (Exchange δ)) (n : StatementId) : Prop :=
  n ∉ SlotChange.issued (changes L i past) ∨ .destroyed n ∈ changes L i past

instance (L : Library δ) (i : EngineId) (past : List (Exchange δ)) (n : StatementId) :
    Decidable (Dead L i past n) :=
  inferInstanceAs (Decidable (_ ∨ _))

/-- A request about a statement without a slot leaves everything as it is. -/
theorem Engines.run_unchanged {L : Library δ} {s : Engines δ} {i : EngineId} {n : StatementId}
    {r : Primitive} (about : r.target? = some n) (absent : s.slot? (i, n) = none) :
    (L.engine.run i r s).2 = s := by
  have missing := Slots.get_of_find?_none absent
  cases r with
  | compile => nomatch about
  | destroy m =>
    cases about
    show s.withSlots i ((s.slots i).destroy n).2 = s
    rw [Slots.destroy, missing]
    exact withSlots_self s i
  | bind m position value =>
    cases about
    show s.withSlots i ((s.slots i).bind n position value).2 = s
    rw [Slots.bind, missing]
    exact withSlots_self s i
  | clearBindings m =>
    cases about
    show s.withSlots i ((s.slots i).clear n).2 = s
    rw [Slots.clear, missing]
    exact withSlots_self s i
  | execute m =>
    cases about
    rw [run_execute_none absent]

/-- What is asked about a statement whose number was never given out, or that has been destroyed, is
refused with the number of the statement, and changes nothing. That holds of engines over any library
whatever the request. It holds of a recording engine unless a value is to be bound at position zero:
the position is then refused before the statement is looked for. -/
theorem dead_statements_refused {turns : List Recording.Turn} {r : Recording} {L : Library δ}
    {e s : Engines δ} {past : List (Exchange δ)} (recorded : Recording.Recorded turns r)
    (served : Served L e past s) (fresh : ∀ i, e.slots i = {}) :
    (∀ n, Recording.Dead turns n →
      (∀ p : Primitive, p.target? = some n → (∀ m value, p ≠ .bind m 0 value) →
        Recording.engine.run 0 p r = (.error (.unknownStatement n.number), r)) ∧
      ∀ value, Recording.engine.run 0 (.bind n 0 value) r =
        (.error (.bind "bind position must be 1-based"), r)) ∧
    ∀ i n, Dead L i past n → ∀ p : Primitive, p.target? = some n →
      L.engine.run i p s = (.error (.unknownStatement n.number), s) := by
  constructor
  · intro n dead
    exact ⟨fun p about first => dead.run recorded about first, Recording.bind_zero r n⟩
  · intro i n dead p about
    have absent : s.slot? (i, n) = none := by
      rw [← Option.not_isSome_iff_eq_none]
      intro found
      obtain ⟨issued, undestroyed⟩ := (served.mirrors (fresh i)).isSome_find?_iff.1 found
      exact dead.elim (fun unissued => unissued issued) undestroyed
    exact Prod.ext (Engines.run_of_no_slot about absent) (Engines.run_unchanged about absent)

/-- A statement is compiled and destroyed in a recording engine and over a database in memory, and the
log is taken. It is asked for again, and so is one that was never compiled, also of an engine that was
not opened. -/
theorem dead_statements_refused_again : ∃ turns r past s, Recording.Recorded turns r ∧
    Served Dialect.library {} past s ∧
    Recording.engine.run 0 (.bind (.after 0) 4294967295 .null) r = (.error (.unknownStatement 1), r) ∧
    Recording.engine.run 0 (.destroy (.after 7)) r = (.error (.unknownStatement 8), r) ∧
    Recording.engine.run 0 (.bind (.after 0) 0 .null) r =
      (.error (.bind "bind position must be 1-based"), r) ∧
    Dialect.library.engine.run 0 (.bind (.after 0) 0 .null) s =
      (.error (.unknownStatement 1), s) ∧
    Dialect.library.engine.run 0 (.execute (.after 1)) s = (.error (.unknownStatement 2), s) ∧
    Dialect.library.engine.run 3 (.clearBindings (.after 0)) s =
      (.error (.unknownStatement 1), s) := by
  have recorded := Recording.Recorded.start |>.ask (.primitive (.compile "a"))
    |>.ask (.primitive (.destroy (.after 0))) |>.ask .takeCalls
  have served := (Served.start (L := Dialect.library) (e := {}))
    |>.meanwhile {} (Server.openMemory {}).2.library
    |>.call 0 (.compile "SELECT ?") |>.call 0 (.bind (.after 0) 1 .null)
    |>.call 0 (.destroy (.after 0))
  obtain ⟨recording, library⟩ := dead_statements_refused recorded served fun _ => rfl
  obtain ⟨destroyed, zero⟩ := recording (.after 0) (by decide +kernel)
  obtain ⟨unissued, -⟩ := recording (.after 7) (by decide +kernel)
  refine ⟨_, _, _, _, recorded, served, ?_, ?_, zero .null, ?_, ?_, ?_⟩
  · exact destroyed (.bind (.after 0) 4294967295 .null) rfl nofun
  · exact unissued (.destroy (.after 7)) rfl nofun
  · exact library 0 (.after 0) (by decide +kernel) (.bind (.after 0) 0 .null) rfl
  · exact library 0 (.after 1) (by decide +kernel) (.execute (.after 1)) rfl
  · exact library 3 (.after 0) (by decide +kernel) (.clearBindings (.after 0)) rfl

/-- A recording engine that has compiled nothing is to bind a value at position zero. It does not
answer that the statement is unknown. -/
theorem dead_statement_misreported : ∃ turns r, Recording.Recorded turns r ∧
    Recording.Dead turns (.after 0) ∧
    (Recording.engine.run 0 (.bind (.after 0) 0 .null) r).1 ≠ .error (.unknownStatement 1) :=
  ⟨[], {}, .start, by decide, by decide⟩

end Calls

end Sql

end Prepared
