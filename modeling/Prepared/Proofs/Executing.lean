import Prepared.Proofs.Uniform

/-! Executing, as it shows.

When a program has bound all parameters of its text, the slot of its statement is filled with
what it has bound, whatever stood there before. So the statements of programs in two stores that
show the same are executed to the same effect. -/
namespace Prepared

namespace Sql

/-- There is a binding for each of so many parameters. -/
def Covers (bs : List Binding) (count : Nat) : Prop :=
  ∀ k < count, ∃ b ∈ bs, b.position.toNat = k + 1

instance decidableCovers (bs : List Binding) (count : Nat) : Decidable (Covers bs count) :=
  inferInstanceAs (Decidable (∀ k < count, ∃ b ∈ bs, b.position.toNat = k + 1))

/-- The slot of a text with so many parameters that is filled with bindings alone. -/
def Slot.filled (sql : String) (count : Nat) (bs : List Binding) : Slot where
  sql
  parameters := (List.range count).map (expected [] bs)

theorem isSome_lastBound? {bs : List Binding} {b : Binding} (hb : b ∈ bs) :
    (lastBound? bs b.position.toNat).isSome := by
  unfold lastBound?
  rw [List.findSome?_isSome_iff]
  exact ⟨b, List.mem_reverse.2 hb, by simp⟩

/-- Where something is bound it does not matter what was there before. -/
theorem expected_of_bound {bs : List Binding} {b : Binding} (hb : b ∈ bs) {k : Nat}
    (position : b.position.toNat = k + 1) (base : List Value) :
    expected base bs k = expected [] bs k := by
  have bound := isSome_lastBound? hb
  rw [position] at bound
  obtain ⟨v, hv⟩ := Option.isSome_iff_exists.1 bound
  unfold expected
  rw [hv]
  rfl

/-- A slot that shows bindings for all of its parameters is filled with them. -/
theorem Slot.eq_filled {slot : Slot} {sql : String} {count : Nat} {base : List Value}
    {bs : List Binding} (text : slot.sql = sql) (length : slot.parameters.length = count)
    (shows : Shows base bs slot.parameters) (covers : Covers bs count) :
    slot = .filled sql count bs := by
  have parameters : slot.parameters = (Slot.filled sql count bs).parameters := by
    apply List.ext_getElem
    · simp [filled, length]
    · intro k hk hk'
      obtain ⟨b, hb, position⟩ := covers k (length ▸ hk)
      rw [shows k hk, expected_of_bound hb position]
      simp [filled]
  obtain ⟨own, values⟩ := slot
  subst text
  exact congrArg (Slot.mk own) parameters

end Sql

namespace Store

open Operation Sql

variable {δ : Type} {L : Library δ} {T : Terms L} {s t : Store (Engines δ)} {o : Store δ}
  {e : Engines δ} {h : CompiledId} {p : ProgramId} {past past' : List (Step (Engines δ))}

/-- The statement that a program has obtained is filled with all that it has bound. -/
theorem Run.filled (run : Run L.engine e past s) (active : Active p s)
    (obtained : (ensureCompiled L.engine p).run s = (.ok h, t)) (looks : Looks T o t)
    (held : (t.program p).held = some h) (stands : Stands h (s.program p).sql t)
    (covers : Covers (bound p past) (T.count (s.program p).sql)) :
    t.slot? h = some (.filled (s.program p).sql (T.count (s.program p).sql) (bound p past)) := by
  -- the compilation is one more step of the run
  have next : Run L.engine e (⟨s, .compile p, true, t⟩ :: past) t :=
    run.compiled active (compileProgram_usable active.verified obtained)
  have kept := ensureCompiled_keeps (E := L.engine) (p := p) s
  rw [obtained] at kept
  have active' := active.of_steady kept
  have showing :=
    ((next.faithful p).carries active'.live active'.isOpen).showing h held
  obtain ⟨slot, found, text, length⟩ := looks.tuned.engaged.slot stands.live
  rw [stands.text] at text length
  have filled := Slot.eq_filled text length (showing slot found) covers
  rw [found, filled]
  rfl

/-- A statement is executed, which shows in the library alone. -/
theorem Looks.executed (laws : T.Laws) (hs : Looks T o s)
    (live : (s.statement h).destroyed = false) {slot : Slot} (found : s.slot? h = some slot) :
    ((request L.engine (s.native h).1 (.execute (s.native h).2)).run s).1 =
        (L.run T.engine slot o.engine).1 ∧
      Looks T { o with engine := (L.run T.engine slot o.engine).2 }
        (s.asked L.engine (s.native h).1 (.execute (s.native h).2)) := by
  have own : (s.native h).1 = T.engine :=
    hs.tuned.engaged.statements h (lt_of_not_destroyed live)
  have run : L.engine.run (s.native h).1 (.execute (s.native h).2) s.engine =
      ((L.run T.engine slot s.engine.library).1,
        { s.engine with library := (L.run T.engine slot s.engine.library).2 }) := by
    rw [← own]
    exact Engines.run_execute found
  obtain ⟨result, same⟩ := laws.run slot hs.same
  refine ⟨(congrArg Prod.fst run).trans result.symm, ?_⟩
  have shown := congrArg (fun o' : Store δ =>
    { o' with engine := (L.run T.engine slot o.engine).2 }) hs.outline
  refine hs.step (.asked ..) (hs.tuned.engaged.asked live rfl (by simp [Primitive.name])) rfl
    (fun _ => ⟨rfl, fun _ => id⟩) shown ?_
  show T.Same _ (L.engine.run (s.native h).1 (.execute (s.native h).2) s.engine).2.library
  rw [run]
  exact same

/-- Statements whose slots are filled alike, in stores that show the same, are executed to the
same effect. -/
theorem executed_agree (laws : T.Laws) {k : CompiledId} (hs : Looks T o s) (ht : Looks T o t)
    (left : (s.statement h).destroyed = false) (right : (t.statement k).destroyed = false)
    {slot : Slot} (found : s.slot? h = some slot) (found' : t.slot? k = some slot) :
    Agree T
      ((request L.engine (s.native h).1 (.execute (s.native h).2)).run s)
      ((request L.engine (t.native k).1 (.execute (t.native k).2)).run t) := by
  obtain ⟨result, shown⟩ := hs.executed laws left found
  obtain ⟨result', shown'⟩ := ht.executed laws right found'
  exact ⟨result.trans result'.symm, _, shown, shown'⟩

/-- A program that has bound all parameters is executed to the same effect by stores that show
the same, unless its text is refused. -/
theorem execute_agree (laws : T.Laws) (left : Run L.engine e past s) (right : Run L.engine e past' t)
    (hs : Looks T o s) (ht : Looks T o t) (same : bound p past = bound p past')
    (covers : Covers (bound p past) (T.count (s.program p).sql))
    (accepted : ¬ Refused ((execute L.engine p).run s).1)
    (accepted' : ¬ Refused ((execute L.engine p).run t).1) :
    Agree T ((execute L.engine p).run s) ((execute L.engine p).run t) := by
  have text : (s.program p).sql = (t.program p).sql :=
    (hs.program_part p (fun x => x.sql) fun _ => rfl).symm.trans
      (ht.program_part p (fun x => x.sql) fun _ => rfl)
  cases verified : ((verifyUsable p : Op δ ProgramError Unit).run o).1 with
  | error m =>
    rw [execute_unusable (hs.verified verified), execute_unusable (ht.verified verified)]
    exact ⟨rfl, o, hs, ht⟩
  | ok _ =>
    have usable := hs.verified verified
    have usable' := ht.verified verified
    have active := hs.active verified
    have active' := ht.active verified
    rcases left.ensureCompiled_looks laws active hs with ⟨_, _, failed⟩ | ⟨r, u, ran, result, shown, known⟩
    · exact absurd ⟨_, congrArg Prod.fst (execute_refused usable failed)⟩ accepted
    rcases right.ensureCompiled_looks laws active' ht with
      ⟨_, _, failed⟩ | ⟨r', v, ran', result', shown', known'⟩
    · exact absurd ⟨_, congrArg Prod.fst (execute_refused usable' failed)⟩ accepted'
    rw [← result] at result'
    cases r with
    | error m =>
      cases r' with
      | ok => cases result'
      | error m' =>
        cases result'
        rw [execute_refused usable ran, execute_refused usable' ran']
        exact ⟨rfl, _, shown, shown'⟩
    | ok h =>
      cases r' with
      | error m' => cases result'
      | ok k =>
        obtain ⟨held, stands⟩ := known h rfl
        obtain ⟨held', stands'⟩ := known' k rfl
        have filled := left.filled active ran shown held stands covers
        have filled' := right.filled active' ran' shown' held' stands'
          (same ▸ text ▸ covers)
        rw [← same, ← text] at filled'
        obtain ⟨answer, after⟩ :=
          executed_agree laws shown shown' stands.live stands'.live filled filled'
        rw [execute_obtained usable ran, execute_obtained usable' ran']
        exact ⟨congrArg (fun r => r.mapError ProgramError.engine) answer, after⟩

end Store

end Prepared
