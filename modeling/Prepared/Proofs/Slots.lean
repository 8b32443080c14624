import Prepared.Proofs.Lookup
import Prepared.Proofs.Store
import Prepared.Sql.Library

/-! Slots of engines.

Each request is about one slot and leaves the others as they are. Running a statement leaves
all slots as they are, whatever the library does for it. -/
namespace Prepared.Sql

/-- What a slot keeps as long as it is there: its text and the number of its parameters. -/
def Slot.shape (x : Slot) : String × Nat :=
  (x.sql, x.parameters.length)

namespace Slots

variable {t : Slots} {n m : StatementId}

theorem find?_modify_self (f : Slot → Slot) : (t.modify n f).find? n = (t.find? n).map f :=
  Lookup.lookup_map_self f t.live

theorem find?_modify_of_ne (f : Slot → Slot) (h : m ≠ n) : (t.modify n f).find? m = t.find? m :=
  Lookup.lookup_map_of_ne f t.live h

/-- A new slot has its number and nothing bound. -/
theorem find?_add_self (sql : String) (count : Nat) :
    (t.add sql count).2.find? (t.add sql count).1 =
      some { sql, parameters := List.replicate count .null } := by
  simp [add, find?]

theorem find?_add_of_ne (sql : String) (count : Nat) (h : m ≠ (t.add sql count).1) :
    (t.add sql count).2.find? m = t.find? m := by
  have hm : (m == StatementId.after t.lastNumber) = false := beq_false_of_ne h
  unfold add find?
  rw [List.lookup_cons, hm]

theorem find?_destroy_of_ne (h : m ≠ n) : (t.destroy n).2.find? m = t.find? m := by
  unfold destroy
  split
  · exact Lookup.lookup_filter_of_ne t.live h
  · rfl

theorem get_of_find? {slot : Slot} (h : t.find? n = some slot) : t.get n = .ok slot := by
  unfold get
  rw [h]

theorem get_of_find?_none (h : t.find? n = none) : t.get n = .error (.unknownStatement n.number) := by
  unfold get
  rw [h]

theorem destroy_of_find? {slot : Slot} (found : t.find? n = some slot) :
    t.destroy n = (.ok (), { t with live := t.live.filter fun e => e.1 != n }) := by
  unfold destroy
  rw [get_of_find? found]

/-- Binding answers whether the slot has the position, and then changes what is there. -/
theorem bind_of_find? {slot : Slot} (h : t.find? n = some slot) (position : UInt32)
    (value : Value) :
    t.bind n position value =
      if 1 ≤ position.toNat ∧ position.toNat ≤ slot.parameters.length then
        (.ok (), t.modify n fun slot =>
          { slot with parameters := slot.parameters.set (position.toNat - 1) value })
      else (.error (outOfRange position slot.parameters.length), t) := by
  unfold bind
  rw [get_of_find? h]

theorem clear_of_find? {slot : Slot} (h : t.find? n = some slot) :
    t.clear n = (.ok (), t.modify n fun slot =>
      { slot with parameters := List.replicate slot.parameters.length .null }) := by
  unfold clear
  rw [get_of_find? h]

/-! What fails changes nothing. -/

theorem destroy_error {e : EngineError} (failed : (t.destroy n).1 = .error e) :
    (t.destroy n).2 = t := by
  revert failed
  unfold destroy
  split
  · exact nofun
  · exact fun _ => rfl

theorem bind_error {position : UInt32} {value : Value} {e : EngineError}
    (failed : (t.bind n position value).1 = .error e) : (t.bind n position value).2 = t := by
  revert failed
  unfold bind
  split
  · exact fun _ => rfl
  · dsimp only
    split
    · exact nofun
    · exact fun _ => rfl

theorem clear_error {e : EngineError} (failed : (t.clear n).1 = .error e) : (t.clear n).2 = t := by
  revert failed
  unfold clear
  split
  · exact fun _ => rfl
  · exact nofun

theorem find?_bind_of_ne (position : UInt32) (value : Value) (h : m ≠ n) :
    (t.bind n position value).2.find? m = t.find? m := by
  unfold bind
  split
  · rfl
  · dsimp only
    split
    · exact find?_modify_of_ne _ h
    · rfl

theorem find?_clear_of_ne (h : m ≠ n) : (t.clear n).2.find? m = t.find? m := by
  unfold clear
  split
  · rfl
  · exact find?_modify_of_ne _ h

theorem lastNumber_bind (position : UInt32) (value : Value) :
    (t.bind n position value).2.lastNumber = t.lastNumber := by
  unfold bind
  split
  · rfl
  · dsimp only
    split <;> rfl

theorem lastNumber_clear : (t.clear n).2.lastNumber = t.lastNumber := by
  unfold clear
  split <;> rfl

theorem lastNumber_destroy : (t.destroy n).2.lastNumber = t.lastNumber := by
  unfold destroy
  split <;> rfl

theorem shape_modify {f : Slot → Slot} (hf : ∀ x, (f x).shape = x.shape) :
    ((t.modify n f).find? m).map Slot.shape = (t.find? m).map Slot.shape := by
  by_cases hm : m = n
  · rw [hm, find?_modify_self, Option.map_map]
    exact congrArg (fun g => (t.find? n).map g) (funext hf)
  · rw [find?_modify_of_ne f hm]

theorem shape_bind (position : UInt32) (value : Value) :
    ((t.bind n position value).2.find? m).map Slot.shape = (t.find? m).map Slot.shape := by
  unfold bind
  split
  · rfl
  · dsimp only
    split
    · exact shape_modify fun x => by simp [Slot.shape]
    · rfl

theorem shape_clear : ((t.clear n).2.find? m).map Slot.shape = (t.find? m).map Slot.shape := by
  unfold clear
  split
  · rfl
  · exact shape_modify fun x => by simp [Slot.shape]

end Slots

namespace Engines

variable {δ : Type} {L : Library δ} {s : Engines δ} {i j : EngineId} {sql : String}
  {n : StatementId}

/-- The slot of a statement of an engine. -/
def slot? (s : Engines δ) (key : EngineId × StatementId) : Option Slot :=
  (s.slots key.1).find? key.2

theorem slots_withSlots (s : Engines δ) (i j : EngineId) (t : Slots) :
    (s.withSlots i t).slots j = if j = i then t else s.slots j :=
  rfl

theorem slots_withSlots_self (s : Engines δ) (i : EngineId) (t : Slots) :
    (s.withSlots i t).slots i = t :=
  if_pos rfl

/-- Slots that are as they were may be put back. -/
theorem withSlots_self (s : Engines δ) (i : EngineId) : s.withSlots i (s.slots i) = s := by
  unfold withSlots
  congr 1
  funext j
  split
  · next same => rw [same]
  · rfl

/-- What holds of the slot of a statement before and after its engine's slots are replaced holds
of every slot. -/
theorem slot?_withSlots {P : Option Slot → Option Slot → Prop} {t : Slots}
    {key : EngineId × StatementId} (refl : ∀ x, P x x)
    (own : key.1 = i → P (t.find? key.2) ((s.slots i).find? key.2)) :
    P ((s.withSlots i t).slot? key) (s.slot? key) := by
  unfold slot?
  rw [slots_withSlots]
  split
  · next same =>
    rw [same]
    exact own same
  · exact refl _

/-! What a request comes to. -/

/-- A text is prepared; then it gets a slot, or it is refused for the reason that the library
gives. -/
theorem run_compile (L : Library δ) (i : EngineId) (sql : String) (s : Engines δ) :
    (∃ reason, (L.prepare i sql s.library).1 = .error reason ∧
      L.engine.run i (.compile sql) s =
        (.error (.compile reason), { s with library := (L.prepare i sql s.library).2 })) ∨
    ∃ count, (L.prepare i sql s.library).1 = .ok count ∧
      L.engine.run i (.compile sql) s =
        (.ok ((s.slots i).add sql count).1,
          { s with library := (L.prepare i sql s.library).2 }.withSlots i
            ((s.slots i).add sql count).2) := by
  rcases prepared : L.prepare i sql s.library with ⟨reason | count, d⟩
  · exact .inl ⟨reason, rfl, by simp only [Library.engine, prepared]⟩
  · exact .inr ⟨count, rfl, by simp only [Library.engine, prepared]⟩

theorem run_compile_ok (answer : (L.engine.run i (.compile sql) s).1 = .ok n) :
    ∃ count, (L.prepare i sql s.library).1 = .ok count ∧ n = ((s.slots i).add sql count).1 ∧
      (L.engine.run i (.compile sql) s).2 =
        { s with library := (L.prepare i sql s.library).2 }.withSlots i
          ((s.slots i).add sql count).2 := by
  rcases run_compile L i sql s with ⟨reason, -, run⟩ | ⟨count, prepared, run⟩
  · rw [run] at answer
    nomatch answer
  · rw [run] at answer ⊢
    exact ⟨count, prepared, (Except.ok.inj answer).symm, rfl⟩

theorem run_compile_error {e : EngineError}
    (answer : (L.engine.run i (.compile sql) s).1 = .error e) :
    ∃ reason, e = .compile reason ∧
      (L.engine.run i (.compile sql) s).2 =
        { s with library := (L.prepare i sql s.library).2 } := by
  rcases run_compile L i sql s with ⟨reason, -, run⟩ | ⟨count, -, run⟩
  · rw [run] at answer ⊢
    cases answer
    exact ⟨reason, rfl, rfl⟩
  · rw [run] at answer
    nomatch answer

/-- A statement with a slot is run by the library, with what is in the slot. -/
theorem run_execute {slot : Slot} (found : s.slot? (i, n) = some slot) :
    L.engine.run i (.execute n) s =
      ((L.run i slot s.library).1, { s with library := (L.run i slot s.library).2 }) := by
  simp only [Library.engine, Slots.get_of_find? found]

/-- A statement without a slot is not executed. -/
theorem run_execute_none (missing : s.slot? (i, n) = none) :
    L.engine.run i (.execute n) s = (.error (.unknownStatement n.number), s) := by
  simp only [Library.engine, Slots.get_of_find?_none missing]

/-- Executing a statement leaves all slots as they are. -/
theorem slots_execute (L : Library δ) (i : EngineId) (n : StatementId) (s : Engines δ) :
    (L.engine.run i (.execute n) s).2.slots = s.slots := by
  cases found : s.slot? (i, n) with
  | none => rw [run_execute_none found]
  | some slot => rw [run_execute found]

/-- Only preparing and running concern the library. -/
theorem library_run {r : Primitive} (compile : r.name ≠ .compile) (execute : r.name ≠ .execute)
    (i : EngineId) (s : Engines δ) : (L.engine.run i r s).2.library = s.library := by
  cases r with
  | compile => exact absurd rfl compile
  | execute => exact absurd rfl execute
  | _ => rfl

/-- A request about a statement leaves the slots of other statements as they are. -/
theorem slot?_run_of_ne {r : Primitive} (about : r.target? = some n)
    {key : EngineId × StatementId} (h : key ≠ (i, n)) (s : Engines δ) :
    (L.engine.run i r s).2.slot? key = s.slot? key := by
  have other (same : key.1 = i) : key.2 ≠ n := fun hn => h (Prod.ext same hn)
  cases r with
  | compile => nomatch about
  | destroy =>
    cases about
    exact slot?_withSlots (fun _ => rfl) fun same => Slots.find?_destroy_of_ne (other same)
  | bind _ position value =>
    cases about
    exact slot?_withSlots (fun _ => rfl)
      fun same => Slots.find?_bind_of_ne position value (other same)
  | clearBindings =>
    cases about
    exact slot?_withSlots (fun _ => rfl) fun same => Slots.find?_clear_of_ne (other same)
  | execute k =>
    unfold slot?
    rw [slots_execute]

/-- Using a statement changes no more of its slot than the values of its parameters. -/
theorem shape_run {r : Primitive} (about : r.target? = some n) (use : r.name ≠ .destroy)
    (key : EngineId × StatementId) (s : Engines δ) :
    ((L.engine.run i r s).2.slot? key).map Slot.shape = (s.slot? key).map Slot.shape := by
  cases r with
  | compile => nomatch about
  | destroy => exact absurd rfl use
  | bind _ position value =>
    exact slot?_withSlots (P := fun x y => x.map Slot.shape = y.map Slot.shape) (fun _ => rfl)
      fun _ => Slots.shape_bind position value
  | clearBindings =>
    exact slot?_withSlots (P := fun x y => x.map Slot.shape = y.map Slot.shape) (fun _ => rfl)
      fun _ => Slots.shape_clear
  | execute k =>
    unfold slot?
    rw [slots_execute]

/-- Using a statement neither makes nor removes a slot. -/
theorem isSome_slot?_run {r : Primitive} (about : r.target? = some n)
    (use : r.name ≠ .destroy) (key : EngineId × StatementId) (s : Engines δ) :
    ((L.engine.run i r s).2.slot? key).isSome = (s.slot? key).isSome := by
  have same := congrArg Option.isSome (shape_run (L := L) (i := i) about use key s)
  rw [Option.isSome_map, Option.isSome_map] at same
  exact same

/-- A text that is refused changes no slot. -/
theorem slot?_refused {e : EngineError} (answer : (L.engine.run i (.compile sql) s).1 = .error e)
    (key : EngineId × StatementId) :
    (L.engine.run i (.compile sql) s).2.slot? key = s.slot? key := by
  obtain ⟨reason, -, run⟩ := run_compile_error answer
  rw [run]
  rfl

/-- A text that is compiled gets a number and a slot of its own, in which nothing is bound. -/
theorem slot?_compiled (answer : (L.engine.run i (.compile sql) s).1 = .ok n) :
    (s.slots i).lastNumber < n.number ∧
    ((L.engine.run i (.compile sql) s).2.slots i).lastNumber = n.number ∧
    ∃ count, (L.prepare i sql s.library).1 = .ok count ∧
      (L.engine.run i (.compile sql) s).2.slot? (i, n) =
        some { sql, parameters := List.replicate count .null } := by
  obtain ⟨count, prepared, rfl, run⟩ := run_compile_ok answer
  rw [run]
  refine ⟨Nat.lt_succ_self _, ?_, count, prepared, ?_⟩
  · rw [slots_withSlots_self]
    rfl
  · unfold slot?
    rw [slots_withSlots_self]
    exact Slots.find?_add_self sql count

theorem slot?_compiled_of_ne (answer : (L.engine.run i (.compile sql) s).1 = .ok n)
    {key : EngineId × StatementId} (h : key ≠ (i, n)) :
    (L.engine.run i (.compile sql) s).2.slot? key = s.slot? key := by
  obtain ⟨count, -, rfl, run⟩ := run_compile_ok answer
  rw [run]
  exact slot?_withSlots (s := { s with library := _ }) (fun _ => rfl)
    fun same => Slots.find?_add_of_ne sql count fun hn => h (Prod.ext same hn)

/-- Numbers only grow. -/
theorem lastNumber_run (i j : EngineId) (r : Primitive) (s : Engines δ) :
    (s.slots j).lastNumber ≤ ((L.engine.run i r s).2.slots j).lastNumber := by
  have own {t : Slots} (le : (s.slots i).lastNumber ≤ t.lastNumber) :
      (s.slots j).lastNumber ≤ ((s.withSlots i t).slots j).lastNumber := by
    rw [slots_withSlots]
    split
    · next same =>
      rw [same]
      exact le
    · exact Nat.le_refl _
  cases r with
  | compile sql =>
    rcases run_compile L i sql s with ⟨reason, -, run⟩ | ⟨count, -, run⟩
    · exact Nat.le_of_eq (by rw [run])
    · rw [run]
      exact own (Nat.le_succ _)
  | destroy => exact own (Nat.le_of_eq Slots.lastNumber_destroy.symm)
  | bind _ position value => exact own (Nat.le_of_eq (Slots.lastNumber_bind position value).symm)
  | clearBindings => exact own (Nat.le_of_eq Slots.lastNumber_clear.symm)
  | execute n => exact Nat.le_of_eq (congrArg (fun t => (t j).lastNumber) (slots_execute L i n s)).symm

end Engines

end Prepared.Sql
