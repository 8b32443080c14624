import Prepared.Proofs.Log
import Prepared.Proofs.Parameters
import Prepared.Sql.Open

/-! The table of slots.

What the slots of an engine hold can be told from the calls that were made, whatever the library
below it. A call that succeeds changes one slot in its way, unless it is to execute a statement; a
call that fails changes none. So the numbers that were given out are `1`, `2`, `3` and so on, the
slots are those of the statements that were compiled and not destroyed since, and each parameter is
what was bound last at its position. -/
namespace Prepared.Sql

/-- A change of the slots of an engine. -/
inductive SlotChange where
  /-- A text is compiled, in which so many parameters are found. -/
  | compiled (n : StatementId) (sql : String) (count : Nat)
  | destroyed (n : StatementId)
  | bound (n : StatementId) (b : Binding)
  | cleared (n : StatementId)
  deriving DecidableEq

namespace SlotChange

/-- The numbers that were given out, the latest first. -/
def issued (past : List SlotChange) : List StatementId :=
  past.filterMap fun
    | compiled n .. => some n
    | _ => none

/-- What was bound in a slot since it was made or cleared, the latest binding last. -/
def bindings (n : StatementId) : List SlotChange → List Binding
  | [] => []
  | compiled m _ _ :: past | cleared m :: past => if m = n then [] else bindings n past
  | bound m b :: past => if m = n then bindings n past ++ [b] else bindings n past
  | destroyed _ :: past => bindings n past

end SlotChange

/-- A request to an engine, and what engines kept when it was made. -/
structure Exchange (δ : Type) where
  before : Engines δ
  engine : EngineId
  request : Primitive

section Calls

variable {δ : Type} (L : Library δ)

/-- The number of parameters that the library finds in a text when it prepares it. -/
def Engines.parameterCount? (s : Engines δ) (i : EngineId) (sql : String) : Option Nat :=
  (L.prepare i sql s.library).1.toOption

/-- The change of the slots that a request makes when it succeeds. -/
def Engines.change? (s : Engines δ) (i : EngineId) : (r : Primitive) → r.Answer → Option SlotChange
  | .compile sql, n => (s.parameterCount? L i sql).map (.compiled n sql)
  | .destroy n, _ => some (.destroyed n)
  | .bind n position value, _ => some (.bound n ⟨position, value⟩)
  | .clearBindings n, _ => some (.cleared n)
  | .execute _, _ => none

namespace Exchange

def answer (x : Exchange δ) : Except EngineError x.request.Answer :=
  (L.engine.run x.engine x.request x.before).1

def after (x : Exchange δ) : Engines δ :=
  (L.engine.run x.engine x.request x.before).2

/-- The change of the slots of an engine, if the request was made to it and succeeded. -/
def change? (i : EngineId) (x : Exchange δ) : Option SlotChange :=
  if x.engine = i then (x.answer L).toOption.bind (x.before.change? L i x.request) else none

end Exchange

/-- Calls that were made from a state on, the latest first, and the state that they lead to. Between
calls anything may happen to the files and in the library, as when other engines are opened. -/
inductive Served (e : Engines δ) : List (Exchange δ) → Engines δ → Prop
  | start : Served e [] e
  | call {past : List (Exchange δ)} {s : Engines δ} (i : EngineId) (r : Primitive)
      (served : Served e past s) : Served e (⟨s, i, r⟩ :: past) (Exchange.after L ⟨s, i, r⟩)
  | meanwhile {past : List (Exchange δ)} {s : Engines δ} (tree : Tree) (library : δ)
      (served : Served e past s) : Served e past { s with tree, library }

/-- The calls of a list as they are made in turn, put before those of the past. -/
def exchanges : List (EngineId × Primitive) → Engines δ → List (Exchange δ) → List (Exchange δ)
  | [], _, past => past
  | (i, r) :: calls, s, past => exchanges calls (Exchange.after L ⟨s, i, r⟩) (⟨s, i, r⟩ :: past)

/-- The state that the calls of a list lead to. -/
def callAll : List (EngineId × Primitive) → Engines δ → Engines δ
  | [], s => s
  | (i, r) :: calls, s => callAll calls (Exchange.after L ⟨s, i, r⟩)

theorem Served.extend {L : Library δ} {e s : Engines δ} {past : List (Exchange δ)}
    (served : Served L e past s) (calls : List (EngineId × Primitive)) :
    Served L e (exchanges L calls s past) (callAll L calls s) := by
  induction calls generalizing past s with
  | nil => exact served
  | cons call calls ih => exact ih (served.call call.1 call.2)

/-- The changes of the slots of an engine, the latest first. -/
def changes (i : EngineId) (past : List (Exchange δ)) : List SlotChange :=
  past.filterMap (Exchange.change? L i)

end Calls

/-- Whether slots are what the changes so far have made of them. -/
structure Mirrors (past : List SlotChange) (t : Slots) : Prop where
  /-- Numbers were given out in turn. -/
  numbers : SlotChange.issued past = ((List.range t.lastNumber).map StatementId.after).reverse
  /-- Only statements that were compiled were destroyed. -/
  given : ∀ n, .destroyed n ∈ past → n ∈ SlotChange.issued past
  /-- The others have slots, the newest first. -/
  live : t.live.map Prod.fst = (SlotChange.issued past).filter fun n => .destroyed n ∉ past
  /-- A slot has its text, and as many parameters as were found there. -/
  origin : ∀ n slot, t.find? n = some slot →
    .compiled n slot.sql slot.parameters.length ∈ past
  /-- What is at a position was bound there last, if it was bound. -/
  parameters : ∀ n slot, t.find? n = some slot →
    ∀ k (hk : k < slot.parameters.length),
      slot.parameters[k] = (lastBound? (SlotChange.bindings n past) (k + 1)).getD .null

namespace Slots

variable {t : Slots} {n m : StatementId} {slot : Slot}

theorem keys_modify (f : Slot → Slot) :
    (t.modify n f).live.map Prod.fst = t.live.map Prod.fst := by
  unfold modify
  rw [List.map_map]
  refine List.map_congr_left fun e _ => ?_
  show (if e.1 = n then (e.1, f e.2) else e).1 = e.1
  split <;> rfl

theorem find?_destroy_self (found : t.find? n = some slot) : (t.destroy n).2.find? n = none := by
  rw [destroy_of_find? found]
  exact Lookup.lookup_filter_self t.live n

end Slots

namespace Mirrors

variable {past : List SlotChange} {t : Slots} {n : StatementId} {slot : Slot}

theorem empty : Mirrors [] {} :=
  ⟨rfl, nofun, rfl, nofun, nofun⟩

/-- A statement has a slot if it was compiled and not destroyed since. -/
theorem isSome_find?_iff (hm : Mirrors past t) :
    (t.find? n).isSome ↔ n ∈ SlotChange.issued past ∧ .destroyed n ∉ past := by
  unfold Slots.find?
  rw [Lookup.isSome_lookup_iff, hm.live, List.mem_filter, decide_eq_true_iff]

/-- The next number was not given out before. -/
theorem new_not_issued (hm : Mirrors past t) :
    StatementId.after t.lastNumber ∉ SlotChange.issued past := by
  rw [hm.numbers, List.mem_reverse, List.mem_map]
  rintro ⟨k, hk, same⟩
  have number : k + 1 = t.lastNumber + 1 := congrArg StatementId.number same
  have := List.mem_range.1 hk
  omega

theorem compiled (hm : Mirrors past t) (sql : String) (count : Nat) :
    Mirrors (.compiled (t.add sql count).1 sql count :: past) (t.add sql count).2 := by
  have new := hm.new_not_issued
  have undestroyed : .destroyed (StatementId.after t.lastNumber) ∉ past := fun h =>
    new (hm.given _ h)
  have issued : SlotChange.issued (.compiled (t.add sql count).1 sql count :: past) =
      StatementId.after t.lastNumber :: SlotChange.issued past := rfl
  have slot? {n : StatementId} {slot : Slot} (found : (t.add sql count).2.find? n = some slot) :
      (n = (t.add sql count).1 ∧ slot = { sql, parameters := List.replicate count .null }) ∨
        (t.add sql count).1 ≠ n ∧ t.find? n = some slot := by
    by_cases hn : n = (t.add sql count).1
    · rw [hn, Slots.find?_add_self] at found
      exact .inl ⟨hn, (Option.some.inj found).symm⟩
    · rw [Slots.find?_add_of_ne sql count hn] at found
      exact .inr ⟨Ne.symm hn, found⟩
  refine ⟨?_, fun n destroyed => ?_, ?_, fun n slot found => ?_, fun n slot found => ?_⟩
  · rw [issued, hm.numbers]
    show _ = ((List.range (t.lastNumber + 1)).map _).reverse
    rw [List.range_succ, List.map_append, List.reverse_append]
    rfl
  · rw [issued]
    exact .tail _ (hm.given n ((List.mem_cons.1 destroyed).resolve_left nofun))
  · rw [issued, List.filter_cons_of_pos (by simpa using undestroyed)]
    show _ :: t.live.map Prod.fst = _
    rw [hm.live]
    simp
  · rcases slot? found with ⟨rfl, rfl⟩ | ⟨-, old⟩
    · rw [List.length_replicate]
      exact .head _
    · exact .tail _ (hm.origin n slot old)
  · rcases slot? found with ⟨rfl, rfl⟩ | ⟨other, old⟩
    · intro k hk
      simp [SlotChange.bindings, lastBound?]
    · have kept : SlotChange.bindings n (.compiled (t.add sql count).1 sql count :: past) =
          SlotChange.bindings n past := if_neg other
      rw [kept]
      exact hm.parameters n slot old

theorem destroyed (hm : Mirrors past t) (found : t.find? n = some slot) :
    Mirrors (.destroyed n :: past) (t.destroy n).2 := by
  have old {m : StatementId} {slot' : Slot} (found' : (t.destroy n).2.find? m = some slot') :
      t.find? m = some slot' := by
    by_cases hm : m = n
    · rw [hm, Slots.find?_destroy_self found] at found'
      nomatch found'
    · rwa [Slots.find?_destroy_of_ne hm] at found'
  refine ⟨?_, fun m destroyed => ?_, ?_, fun m slot' found' => ?_, fun m slot' found' => ?_⟩
  · rw [Slots.lastNumber_destroy]
    exact hm.numbers
  · rcases List.mem_cons.1 destroyed with same | before
    · cases same
      exact (hm.isSome_find?_iff.1 (Option.isSome_of_eq_some found)).1
    · exact hm.given m before
  · have keys : (t.live.filter fun e => e.1 != n).map Prod.fst =
        (t.live.map Prod.fst).filter (· != n) := by
      rw [List.filter_map]
      rfl
    rw [Slots.destroy_of_find? found]
    dsimp only
    rw [keys, hm.live, List.filter_filter]
    refine List.filter_congr fun m _ => ?_
    rw [Bool.eq_iff_iff]
    simp [not_or]
  · exact .tail _ (hm.origin m slot' (old found'))
  · exact hm.parameters m slot' (old found')

/-- The slot of a statement is changed otherwise, and its text and number of parameters stay. -/
theorem modified (hm : Mirrors past t) (found : t.find? n = some slot) {f : Slot → Slot}
    {x : SlotChange} (same : (f slot).sql = slot.sql)
    (length : (f slot).parameters.length = slot.parameters.length)
    (issued : SlotChange.issued (x :: past) = SlotChange.issued past)
    (kept : ∀ m, x ≠ .destroyed m)
    (others : ∀ m, m ≠ n → SlotChange.bindings m (x :: past) = SlotChange.bindings m past)
    (parameters : ∀ k (hk : k < (f slot).parameters.length),
      (f slot).parameters[k] = (lastBound? (SlotChange.bindings n (x :: past)) (k + 1)).getD .null) :
    Mirrors (x :: past) (t.modify n f) := by
  have destroyed (m : StatementId) : .destroyed m ∈ x :: past ↔ .destroyed m ∈ past := by
    rw [List.mem_cons, or_iff_right fun h => kept m h.symm]
  refine ⟨issued.trans hm.numbers, fun m hd => ?_, ?_, fun m slot' found' => ?_,
    fun m slot' found' => ?_⟩
  · rw [issued]
    exact hm.given m ((destroyed m).1 hd)
  · rw [Slots.keys_modify, issued, hm.live]
    refine List.filter_congr fun m _ => ?_
    rw [decide_eq_decide, destroyed]
  · by_cases hmn : m = n
    · subst hmn
      rw [Slots.find?_modify_self, found] at found'
      obtain rfl := Option.some.inj found'
      rw [same, length]
      exact .tail _ (hm.origin m slot found)
    · rw [Slots.find?_modify_of_ne f hmn] at found'
      exact .tail _ (hm.origin m slot' found')
  · by_cases hmn : m = n
    · subst hmn
      rw [Slots.find?_modify_self, found] at found'
      obtain rfl := Option.some.inj found'
      exact parameters
    · rw [Slots.find?_modify_of_ne f hmn] at found'
      rw [others m hmn]
      exact hm.parameters m slot' found'

theorem bound (hm : Mirrors past t) (found : t.find? n = some slot) {position : UInt32}
    (first : 1 ≤ position.toNat) (value : Value) :
    Mirrors (.bound n ⟨position, value⟩ :: past) (t.modify n fun slot =>
      { slot with parameters := slot.parameters.set (position.toNat - 1) value }) := by
  refine hm.modified found rfl (List.length_set ..) rfl (fun _ => nofun)
    (fun m hmn => if_neg (Ne.symm hmn)) ?_
  have shows : Shows [] (SlotChange.bindings n past) slot.parameters := hm.parameters n slot found
  rw [show SlotChange.bindings n (.bound n ⟨position, value⟩ :: past) =
    SlotChange.bindings n past ++ [⟨position, value⟩] from if_pos rfl]
  exact shows.bind (b := ⟨position, value⟩) first

theorem cleared (hm : Mirrors past t) (found : t.find? n = some slot) :
    Mirrors (.cleared n :: past) (t.modify n fun slot =>
      { slot with parameters := List.replicate slot.parameters.length .null }) := by
  refine hm.modified found rfl List.length_replicate rfl (fun _ => nofun)
    (fun m hmn => if_neg (Ne.symm hmn)) ?_
  rw [show SlotChange.bindings n (.cleared n :: past) = [] from if_pos rfl]
  exact Shows.replicate slot.parameters.length

end Mirrors

section Calls

variable {δ : Type} {L : Library δ} {e s : Engines δ} {past : List (Exchange δ)} {i j : EngineId}
  {n : StatementId} {r : Primitive}

namespace Engines

/-- A request to one engine leaves the slots of the others as they are. -/
theorem slots_run_of_ne (other : j ≠ i) (r : Primitive) (s : Engines δ) :
    (L.engine.run i r s).2.slots j = s.slots j := by
  cases r with
  | compile sql =>
    rcases run_compile L i sql s with ⟨reason, -, run⟩ | ⟨count, -, run⟩ <;> rw [run]
    exact if_neg other
  | execute n => rw [slots_execute]
  | destroy | bind | clearBindings => exact if_neg other

/-- A request that fails leaves all slots as they are. -/
theorem slots_run_of_error {e : EngineError} (failed : (L.engine.run i r s).1 = .error e)
    (j : EngineId) : (L.engine.run i r s).2.slots j = s.slots j := by
  have own {t : Slots} (same : t = s.slots i) : (s.withSlots i t).slots j = s.slots j := by
    rw [same, withSlots_self]
  cases r with
  | compile sql =>
    obtain ⟨reason, -, run⟩ := run_compile_error failed
    rw [run]
  | destroy n => exact own (Slots.destroy_error failed)
  | bind n position value => exact own (Slots.bind_error failed)
  | clearBindings n => exact own (Slots.clear_error failed)
  | execute n => rw [slots_execute]

/-- A request about a statement without a slot fails. -/
theorem run_of_no_slot (about : r.target? = some n) (absent : s.slot? (i, n) = none) :
    (L.engine.run i r s).1 = .error (.unknownStatement n.number) := by
  have missing := Slots.get_of_find?_none absent
  cases r with
  | compile => nomatch about
  | destroy m =>
    cases about
    show ((s.slots i).destroy n).1 = _
    unfold Slots.destroy
    rw [missing]
  | bind m position value =>
    cases about
    show ((s.slots i).bind n position value).1 = _
    unfold Slots.bind
    rw [missing]
  | clearBindings m =>
    cases about
    show ((s.slots i).clear n).1 = _
    unfold Slots.clear
    rw [missing]
  | execute m =>
    cases about
    rw [run_execute_none absent]

theorem slot_of_ok {a : r.Answer} (about : r.target? = some n)
    (answer : (L.engine.run i r s).1 = .ok a) : ∃ slot, (s.slots i).find? n = some slot := by
  cases found : (s.slots i).find? n with
  | some slot => exact ⟨slot, rfl⟩
  | none => nomatch (run_of_no_slot about found).symm.trans answer

/-- A value is bound exactly at a position that the slot has. -/
theorem run_bind {slot : Slot} (found : s.slot? (i, n) = some slot) (position : UInt32)
    (value : Value) :
    (L.engine.run i (.bind n position value) s).1 =
      if position = 0 ∨ slot.parameters.length < position.toNat then
        .error (Slots.outOfRange position slot.parameters.length)
      else .ok () := by
  show ((s.slots i).bind n position value).1 = _
  rw [Slots.bind_of_find? found]
  have refused : (position = 0 ∨ slot.parameters.length < position.toNat) ↔
      ¬ (1 ≤ position.toNat ∧ position.toNat ≤ slot.parameters.length) := by
    rw [← UInt32.toNat_inj, UInt32.toNat_zero]
    omega
  by_cases range : 1 ≤ position.toNat ∧ position.toNat ≤ slot.parameters.length
  · rw [if_pos range, if_neg (mt refused.1 (not_not_intro range))]
  · rw [if_neg range, if_pos (refused.2 range)]

end Engines

namespace Exchange

theorem change?_of_ok {a : r.Answer} (answer : (L.engine.run i r s).1 = .ok a) :
    change? L i ⟨s, i, r⟩ = s.change? L i r a := by
  unfold change? Exchange.answer
  rw [if_pos rfl, answer]
  rfl

theorem change?_of_error {e : EngineError} (answer : (L.engine.run i r s).1 = .error e) :
    change? L i ⟨s, i, r⟩ = none := by
  unfold change? Exchange.answer
  rw [if_pos rfl, answer]
  rfl

/-- What any request does to slots, whatever was asked before. -/
structure Lawful (L : Library δ) (x : Exchange δ) : Prop where
  /-- A request about a statement without a slot fails. -/
  unknown : ∀ n, x.request.target? = some n → x.before.slot? (x.engine, n) = none →
    x.answer L = .error (.unknownStatement n.number)
  /-- A request that fails, or is to execute a statement, changes no slot and no number. -/
  unchanged : (∃ e, x.answer L = .error e) ∨ x.request.name = .execute →
    ∀ j, (x.after L).slots j = x.before.slots j
  /-- A request changes no slot but that of the statement which it names or is given. -/
  others : ∀ key : EngineId × StatementId,
    (∀ n, x.request.target? = some n → key ≠ (x.engine, n)) →
    (∀ n, (x.answer L).toOption.bind x.request.issued = some n → key ≠ (x.engine, n)) →
    (x.after L).slot? key = x.before.slot? key

theorem lawful (L : Library δ) (x : Exchange δ) : x.Lawful L := by
  obtain ⟨s, i, r⟩ := x
  refine ⟨fun n => Engines.run_of_no_slot, fun idle j => ?_, fun key unnamed new => ?_⟩
  · rcases idle with ⟨e, failed⟩ | executes
    · exact Engines.slots_run_of_error failed j
    · cases r with
      | execute n => exact congrFun (Engines.slots_execute L i n s) j
      | _ => nomatch executes
  · cases r with
    | compile sql =>
      cases answer : (L.engine.run i (.compile sql) s).1 with
      | error e => exact Engines.slot?_refused answer key
      | ok n =>
        refine Engines.slot?_compiled_of_ne answer (new n ?_)
        show (L.engine.run i (.compile sql) s).1.toOption.bind _ = _
        rw [answer]
        rfl
    | destroy n | bind n _ _ | clearBindings n | execute n =>
      exact Engines.slot?_run_of_ne rfl (unnamed n rfl) s

end Exchange

/-- One more request to the engine. -/
theorem Mirrors.own (hm : Mirrors (changes L i past) (s.slots i)) (r : Primitive) :
    Mirrors (changes L i (⟨s, i, r⟩ :: past)) ((L.engine.run i r s).2.slots i) := by
  unfold changes
  cases answer : (L.engine.run i r s).1 with
  | error e =>
    rw [List.filterMap_cons_none (Exchange.change?_of_error answer),
      Engines.slots_run_of_error answer]
    exact hm
  | ok a =>
    have change := Exchange.change?_of_ok answer
    -- the engine has the slots that the request has made
    have own (t : Slots) : (s.withSlots i t).slots i = t := Engines.slots_withSlots_self s i t
    cases r with
    | compile sql =>
      obtain ⟨count, prepared, new, run⟩ := Engines.run_compile_ok answer
      have reported : s.change? L i (.compile sql) a = some (.compiled a sql count) := by
        show ((L.prepare i sql s.library).1.toOption).map (SlotChange.compiled a sql) = _
        rw [prepared]
        rfl
      rw [List.filterMap_cons_some (change.trans reported), new, run, Engines.slots_withSlots_self]
      exact hm.compiled sql count
    | destroy n =>
      obtain ⟨slot, found⟩ := Engines.slot_of_ok (n := n) rfl answer
      rw [List.filterMap_cons_some change]
      exact own _ ▸ hm.destroyed found
    | bind n position value =>
      obtain ⟨slot, found⟩ := Engines.slot_of_ok (n := n) rfl answer
      have bound := Slots.bind_of_find? found position value
      change ((s.slots i).bind n position value).1 = .ok a at answer
      rw [bound] at answer
      split at answer
      · next range =>
        rw [if_pos range] at bound
        rw [List.filterMap_cons_some change]
        exact ((own _).trans (congrArg Prod.snd bound)) ▸ hm.bound found range.1 value
      · nomatch answer
    | clearBindings n =>
      obtain ⟨slot, found⟩ := Engines.slot_of_ok (n := n) rfl answer
      rw [List.filterMap_cons_some change]
      exact ((own _).trans (congrArg Prod.snd (Slots.clear_of_find? found))) ▸ hm.cleared found
    | execute n =>
      rw [List.filterMap_cons_none change, Engines.slots_execute]
      exact hm

/-- The slots of an engine that had none at first are what the calls have made of them. -/
theorem Served.mirrors (served : Served L e past s) (fresh : e.slots i = {}) :
    Mirrors (changes L i past) (s.slots i) := by
  induction served with
  | start => exact fresh ▸ Mirrors.empty
  | @call past s j r served ih =>
    by_cases here : j = i
    · exact here ▸ Mirrors.own (here ▸ ih) r
    · have silent : Exchange.change? L i ⟨s, j, r⟩ = none := if_neg here
      unfold changes
      rw [List.filterMap_cons_none silent]
      exact (Engines.slots_run_of_ne (Ne.symm here) r s) ▸ ih
  | meanwhile _ _ _ ih => exact ih

/-- The slots of an engine, after any calls of engines over a library since it was opened. The numbers
that the engine gave out are `1`, `2`, `3` and so on; it has slots for the statements that were
compiled and not destroyed since, each with the text of its statement and with as many parameters as
the library found in the text when it was compiled; and each parameter is what was bound last at its
position, counted from one, since the slot was made or cleared, or `null` if nothing was. As to the
next call: a value is bound exactly at the positions that the slot has; what is asked about a
statement without a slot fails; what fails, and any execution, leaves all slots and numbers as they
are; and no call changes any slot but that of its statement. Nothing is assumed of the library. -/
theorem slots_mirror_calls (served : Served L e past s) (fresh : e.slots i = {}) :
    Mirrors (changes L i past) (s.slots i) ∧
    (∀ n, (s.slot? (i, n)).isSome ↔
      n ∈ SlotChange.issued (changes L i past) ∧ .destroyed n ∉ changes L i past) ∧
    (∀ n slot, s.slot? (i, n) = some slot → ∀ position value,
      (L.engine.run i (.bind n position value) s).1 =
        if position = 0 ∨ slot.parameters.length < position.toNat then
          .error (Slots.outOfRange position slot.parameters.length)
        else .ok ()) ∧
    ∀ j r, Exchange.Lawful L ⟨s, j, r⟩ :=
  ⟨served.mirrors fresh, fun _ => (served.mirrors fresh).isSome_find?_iff,
    fun _ _ found => Engines.run_bind found, fun _ _ => Exchange.lawful L _⟩

/-- Two texts are compiled over a database in memory, and another one refused. Values are bound in the
first slot, at positions that it has and at others; the second one is destroyed. Then the first slot
is cleared, a value bound there, and the statement executed. -/
theorem slots_mirror_calls_memory :
    ∃ past s, Served Dialect.library (Server.openMemory {}).2 past s ∧
      (Server.openMemory {}).2.slots 0 = {} ∧
      changes Dialect.library 0 past =
        [.bound (.after 0) ⟨2, .integer 7⟩, .cleared (.after 0), .destroyed (.after 1),
          .bound (.after 0) ⟨1, .text "a"⟩, .compiled (.after 1) "SELECT 1" 0,
          .compiled (.after 0) "SELECT ?, ?" 2] ∧
      s.slot? (0, .after 0) = some ⟨"SELECT ?, ?", [.null, .integer 7]⟩ ∧
      (s.slots 0).live.map Prod.fst = [.after 0] ∧
      (Dialect.library.engine.run 0 (.bind (.after 0) 3 .null) s).1 =
        .error (Slots.outOfRange 3 2) ∧
      Exchange.answer Dialect.library ⟨s, 0, .clearBindings (.after 1)⟩ =
        .error (.unknownStatement 2) := by
  have fresh : (Server.openMemory {}).2.slots 0 = {} := rfl
  have served := (Served.start (L := Dialect.library) (e := (Server.openMemory {}).2)).extend
    [(0, .compile "SELECT ?, ?"), (0, .compile "SELECT 1"), (0, .compile "SELECT ("),
      (0, .bind (.after 0) 1 (.text "a")), (0, .bind (.after 0) 0 .null),
      (0, .bind (.after 0) 4294967295 .null), (0, .destroy (.after 1)), (0, .destroy (.after 1)),
      (0, .clearBindings (.after 0)), (0, .bind (.after 0) 2 (.integer 7)), (0, .execute (.after 0))]
  obtain ⟨mirrors, -, bind, lawful⟩ := slots_mirror_calls served fresh
  have refused := bind (.after 0) ⟨"SELECT ?, ?", [.null, .integer 7]⟩ (by decide +kernel) 3 .null
  have unknown := (lawful 0 (.clearBindings (.after 1))).unknown (.after 1) rfl (by decide +kernel)
  refine ⟨_, _, served, fresh, ?_, ?_, mirrors.live.trans ?_,
    refused.trans (if_pos (by decide)), unknown⟩ <;>
    decide +kernel

end Calls

end Prepared.Sql
