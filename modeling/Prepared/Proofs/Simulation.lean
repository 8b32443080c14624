import Prepared.Proofs.Recorded
import Prepared.Proofs.SlotTable

/-! The recording engine beside an engine over a library.

A recording engine looks at less: it knows neither what a text says nor how many parameters it has.
As long as both are asked for nothing that only one of them would refuse, they answer the same, and
the parameters in the slots can be read from the log. -/
namespace Prepared

/-- What a recorded call makes of the parameters of its statement. -/
def Call.rebind (ps : List Value) : Call → List Value
  | .bind _ position value => ps.set (position.toNat - 1) value
  | .clearBindings _ => List.replicate ps.length .null
  | .compile .. | .destroy _ | .execute _ => ps

/-- What recorded calls make of parameters, one after the other. -/
def replayed (calls : List Call) (ps : List Value) : List Value :=
  calls.foldl Call.rebind ps

@[simp] theorem Call.length_rebind (ps : List Value) (c : Call) :
    (c.rebind ps).length = ps.length := by
  cases c <;> simp [rebind]

theorem replayed_append (calls : List Call) (c : Call) (ps : List Value) :
    replayed (calls ++ [c]) ps = c.rebind (replayed calls ps) := by
  simp [replayed]

/-- A recording engine that has recorded nothing yet; texts may be refused, and outputs be set. -/
structure Recording.Fresh (r : Recording) : Prop where
  lastNumber : r.lastNumber = 0
  live : r.live = []
  log : r.log = []

namespace Sql

/-- Whether a request is one on which an engine over a library and a recording engine agree: a text
that both accept, or a binding at a position that counts from one and, if there is a slot, is in it.
Executions are not looked at. -/
def Engines.Admits {δ : Type} (L : Library δ) (s : Engines δ) (i : EngineId) (r : Recording) :
    Primitive → Prop
  | .compile sql => (L.engine.run i (.compile sql) s).1.isOk ∧ (r.compile sql).1.isOk
  | .bind n position _ => position ≠ 0 ∧
      ∀ slot, s.slot? (i, n) = some slot → position.toNat ≤ slot.parameters.length
  | .destroy _ | .clearBindings _ => True
  | .execute _ => False

instance {δ : Type} (L : Library δ) (s : Engines δ) (i : EngineId) (r : Recording) :
    (p : Primitive) → Decidable (s.Admits L i r p)
  | .compile _ => inferInstanceAs (Decidable (_ ∧ _))
  | .bind n position _ => inferInstanceAs (Decidable (position ≠ 0 ∧
      ∀ slot ∈ s.slot? (i, n), position.toNat ≤ slot.parameters.length))
  | .destroy _ | .clearBindings _ => .isTrue trivial
  | .execute _ => .isFalse id

/-- What the same requests lead to when they are made to an engine over a library and to a recording
engine. -/
inductive Alongside {δ : Type} (L : Library δ) (i : EngineId) (e : Engines δ) (new : Recording) :
    Engines δ → Recording → Prop
  | start : Alongside L i e new e new
  | request {s : Engines δ} {r : Recording} (both : Alongside L i e new s r) (p : Primitive)
      (admitted : s.Admits L i r p) :
      Alongside L i e new (L.engine.run i p s).2 (Recording.engine.run 0 p r).2

/-- Whether a recording engine has on record what slots hold. -/
structure Tracks (r : Recording) (t : Slots) : Prop where
  number : r.lastNumber = t.lastNumber
  live : r.live = t.live.map fun e => (e.1, e.2.sql)
  parameters : ∀ n slot, t.find? n = some slot →
    slot.parameters = replayed (r.callsFor n) (List.replicate slot.parameters.length .null)
  tells : r.Tells r.log

namespace Tracks

variable {r : Recording} {t : Slots} {n : StatementId} {slot : Slot}

theorem fresh (h : r.Fresh) : Tracks r {} := by
  refine ⟨h.lastNumber, h.live, fun _ _ => nofun, ?_⟩
  rw [h.log]
  exact Recording.Tells.empty.of_same h.live h.lastNumber

theorem sql?_eq (h : Tracks r t) (n : StatementId) : r.sql? n = (t.find? n).map Slot.sql := by
  unfold Recording.sql? Slots.find?
  rw [h.live]
  induction t.live with
  | nil => rfl
  | cons e es ih =>
    rw [List.map_cons, List.lookup_cons, List.lookup_cons]
    cases n == e.1 with
    | true => rfl
    | false => exact ih

theorem isLive_eq (h : Tracks r t) (n : StatementId) : r.isLive n = (t.find? n).isSome := by
  unfold Recording.isLive
  rw [h.sql?_eq, Option.isSome_map]

theorem isLive (h : Tracks r t) (found : t.find? n = some slot) : r.isLive n = true :=
  (h.isLive_eq n).trans (congrArg Option.isSome found)

theorem compiled (h : Tracks r t) {sql : String} (accepted : r.refused.contains sql = false)
    (count : Nat) : Tracks (r.compile sql).2 (t.add sql count).2 := by
  rw [Recording.compile_accepted accepted]
  refine ⟨congrArg (· + 1) h.number, ?_, fun n slot found => ?_, h.tells.compiled sql⟩
  · show (_, sql) :: r.live = (_, sql) :: _
    rw [h.live, h.number]
  · unfold Recording.callsFor
    dsimp only
    rw [Recording.Tells.filter_append]
    by_cases hn : n = (t.add sql count).1
    · have new : n = .after r.lastNumber := hn.trans (congrArg StatementId.after h.number.symm)
      have before : r.log.filter (fun c => c.statement == n) = [] :=
        List.filter_eq_nil_iff.2 fun c hc same =>
          h.tells.none_about_next hc ((beq_iff_eq.1 same).trans new)
      rw [hn, Slots.find?_add_self] at found
      cases found
      have own : Call.statement (.compile (.after r.lastNumber) sql) = n := new.symm
      rw [before, if_pos own, List.length_replicate]
      rfl
    · have other : Call.statement (.compile (.after r.lastNumber) sql) ≠ n := fun same =>
        hn (same.symm.trans (congrArg StatementId.after h.number))
      rw [Slots.find?_add_of_ne sql count hn] at found
      rw [if_neg other, List.append_nil]
      exact h.parameters n slot found

theorem destroyed (h : Tracks r t) (found : t.find? n = some slot) :
    Tracks (r.destroy n).2 (t.destroy n).2 := by
  have live := h.isLive found
  rw [Recording.destroy_live live]
  refine ⟨h.number.trans Slots.lastNumber_destroy.symm, ?_, fun m slot' found' => ?_,
    h.tells.destroyed live⟩
  · rw [Slots.destroy_of_find? found]
    show r.live.filter (fun e => e.1 != n) = _
    rw [h.live, List.filter_map]
    rfl
  · have other : m ≠ n := fun hm => by
      rw [hm, Slots.find?_destroy_self found] at found'
      nomatch found'
    rw [Slots.find?_destroy_of_ne other] at found'
    have about : Call.statement (.destroy n) ≠ m := other.symm
    show _ = replayed ((r.log ++ [Call.destroy n]).filter fun c => c.statement == m) _
    rw [Recording.Tells.filter_append, if_neg about, List.append_nil]
    exact h.parameters m slot' found'

/-- A statement is bound or cleared. -/
theorem used (h : Tracks r t) {c : Call} (use : c.isUse) (found : t.find? c.statement = some slot) :
    Tracks (r.record c)
      (t.modify c.statement fun slot => { slot with parameters := c.rebind slot.parameters }) := by
  have live := h.isLive found
  refine ⟨h.number, ?_, fun m slot' found' => ?_, h.tells.used live use⟩
  · show r.live = (t.live.map _).map _
    rw [h.live, List.map_map]
    refine List.map_congr_left fun e _ => ?_
    show _ = (fun e : StatementId × Slot => (e.1, e.2.sql)) (if e.1 = c.statement then _ else e)
    split <;> rfl
  · unfold Recording.callsFor Recording.record
    rw [Recording.Tells.filter_append]
    by_cases hm : m = c.statement
    · rw [hm, Slots.find?_modify_self, found] at found'
      cases found'
      rw [if_pos hm.symm, replayed_append]
      dsimp only
      rw [Call.length_rebind]
      exact congrArg c.rebind (h.parameters m slot (hm ▸ found))
    · rw [Slots.find?_modify_of_ne _ hm] at found'
      rw [if_neg (Ne.symm hm), List.append_nil]
      exact h.parameters m slot' found'

end Tracks

section Requests

variable {δ : Type} {L : Library δ} {e s : Engines δ} {r new : Recording} {i : EngineId}
  {p : Primitive} {n : StatementId}

/-- A request about a statement that is not live fails in the recording engine, unless it would be
refused for its position before that. -/
theorem run_of_dead (about : p.target? = some n) (dead : r.isLive n = false)
    (first : ∀ m value, p ≠ .bind m 0 value) :
    (Recording.engine.run 0 p r).1 = .error (.unknownStatement n.number) := by
  have dead : ¬ r.isLive n = true := by simp [dead]
  cases p with
  | compile => nomatch about
  | destroy m =>
    cases about
    exact congrArg Prod.fst (if_neg dead)
  | bind m position value =>
    cases about
    have positive : position ≠ 0 := fun zero => first n value (zero ▸ rfl)
    exact (congrArg Prod.fst (if_neg positive)).trans (congrArg Prod.fst (if_neg dead))
  | clearBindings m =>
    cases about
    exact congrArg Prod.fst (if_neg dead)
  | execute m =>
    cases about
    show (r.execute n).1 = _
    unfold Recording.execute
    rw [Option.not_isSome_iff_eq_none.1 dead]
    rfl

/-- Both engines refuse a request about a statement that is not live, and are as they were. -/
theorem Tracks.refused (h : Tracks r (s.slots i)) (admitted : s.Admits L i r p)
    (about : p.target? = some n) (absent : s.slot? (i, n) = none) :
    (L.engine.run i p s).1 = (Recording.engine.run 0 p r).1 ∧
    Tracks (Recording.engine.run 0 p r).2 ((L.engine.run i p s).2.slots i) := by
  have dead : r.isLive n = false :=
    (h.isLive_eq n).trans (congrArg Option.isSome absent)
  have first : ∀ m value, p ≠ .bind m 0 value := fun m value same => by
    subst same
    exact admitted.1 rfl
  have unknown := Engines.run_of_no_slot (L := L) about absent
  have recording := run_of_dead about dead first
  rw [Engines.slots_run_of_error unknown, Recording.run_of_error recording]
  exact ⟨unknown.trans recording.symm, h⟩

/-- Both engines answer a request alike, and the recording engine still has on record what the slots
hold. -/
theorem Tracks.request (h : Tracks r (s.slots i)) (admitted : s.Admits L i r p) :
    (L.engine.run i p s).1 = (Recording.engine.run 0 p r).1 ∧
    Tracks (Recording.engine.run 0 p r).2 ((L.engine.run i p s).2.slots i) := by
  have own (t : Slots) : (s.withSlots i t).slots i = t := Engines.slots_withSlots_self s i t
  cases p with
  | compile sql =>
    obtain ⟨hs, hr⟩ := admitted
    have accepted : r.refused.contains sql = false := by
      cases refused : r.refused.contains sql with
      | false => rfl
      | true =>
        rw [Recording.compile_refused refused] at hr
        nomatch hr
    cases answer : (L.engine.run i (.compile sql) s).1 with
    | error e =>
      rw [answer] at hs
      nomatch hs
    | ok n =>
      obtain ⟨count, -, given, run⟩ := Engines.run_compile_ok answer
      have numbered : (r.compile sql).1 = .ok (.after r.lastNumber) :=
        congrArg Prod.fst (Recording.compile_accepted accepted)
      rw [run, Engines.slots_withSlots_self]
      refine ⟨(congrArg Except.ok given).trans ?_, h.compiled accepted count⟩
      exact (congrArg (fun k => Except.ok (StatementId.after k)) h.number.symm).trans numbered.symm
  | destroy n =>
    cases found : s.slot? (i, n) with
    | none => exact h.refused admitted rfl found
    | some slot =>
      have live := h.isLive found
      refine ⟨?_, own _ ▸ h.destroyed found⟩
      exact (congrArg Prod.fst (Slots.destroy_of_find? found)).trans
        (congrArg Prod.fst (Recording.destroy_live live)).symm
  | bind n position value =>
    cases found : s.slot? (i, n) with
    | none => exact h.refused admitted rfl found
    | some slot =>
      have live := h.isLive found
      have range : 1 ≤ position.toNat ∧ position.toNat ≤ slot.parameters.length := by
        refine ⟨Nat.pos_of_ne_zero fun zero => admitted.1 ?_, admitted.2 slot found⟩
        exact UInt32.toNat_inj.1 zero
      have bound := (Slots.bind_of_find? found position value).trans (if_pos range)
      have recorded : r.bind n position value = (.ok (), r.record (.bind n position value)) :=
        Recording.bind_live live (b := ⟨position, value⟩) admitted.1
      refine ⟨(congrArg Prod.fst bound).trans (congrArg Prod.fst recorded).symm, ?_⟩
      show Tracks (r.bind n position value).2 _
      rw [recorded]
      exact ((own _).trans (congrArg Prod.snd bound)) ▸ h.used (c := .bind n position value) rfl found
  | clearBindings n =>
    cases found : s.slot? (i, n) with
    | none => exact h.refused admitted rfl found
    | some slot =>
      have live := h.isLive found
      have cleared := Slots.clear_of_find? found
      have recorded : r.clearBindings n = (.ok (), r.record (.clearBindings n)) := if_pos live
      refine ⟨(congrArg Prod.fst cleared).trans (congrArg Prod.fst recorded).symm, ?_⟩
      show Tracks (r.clearBindings n).2 _
      rw [recorded]
      exact ((own _).trans (congrArg Prod.snd cleared)) ▸ h.used (c := .clearBindings n) rfl found
  | execute n => exact admitted.elim

/-- The recording engine has on record what the slots hold, whatever was asked. -/
theorem Alongside.tracks (both : Alongside L i e new s r) (fresh : e.slots i = {})
    (blank : new.Fresh) : Tracks r (s.slots i) := by
  induction both with
  | start => exact fresh ▸ Tracks.fresh blank
  | request both p admitted ih => exact (ih.request admitted).2

/-- An engine over any library and a recording engine, of which nothing was asked yet, are asked for
the same, and for nothing that only one of them would refuse: texts that both accept, and bindings at
positions that count from one and are in the slot if there is one. Then they answer every such
request alike, with the same number or the same error; the same statements are live in both; and the
parameters of a slot are what the bindings and clearings that were recorded for its statement make
of so many `null`s. -/
theorem recording_simulates_engine (fresh : e.slots i = {}) (blank : new.Fresh)
    (both : Alongside L i e new s r) :
    (∀ p, s.Admits L i r p → (L.engine.run i p s).1 = (Recording.engine.run 0 p r).1) ∧
    s.liveCount i = r.liveCount ∧
    (∀ n, r.sql? n = (s.slot? (i, n)).map Slot.sql) ∧
    ∀ n slot, s.slot? (i, n) = some slot →
      slot.parameters = replayed (r.callsFor n) (List.replicate slot.parameters.length .null) := by
  have tracks := both.tracks fresh blank
  refine ⟨fun p admitted => (tracks.request admitted).1, ?_, tracks.sql?_eq, tracks.parameters⟩
  unfold Engines.liveCount Recording.liveCount
  rw [tracks.live, List.length_map]

/-- Two statements are compiled over a database in memory. The first is bound, cleared and bound again,
the second is destroyed and asked for after that, and something is bound to a statement that was never
given out. -/
theorem recording_simulates_engine_memory : ∃ s r,
    Alongside Dialect.library 0 (Server.openMemory {}).2 { refused := ["SELECT 2"] } s r ∧
    (Server.openMemory {}).2.slots 0 = {} ∧ Recording.Fresh { refused := ["SELECT 2"] } ∧
    s.slot? (0, .after 0) = some ⟨"SELECT ?, ?", [.null, .integer 7]⟩ ∧
    r.callsFor (.after 0) = [.compile (.after 0) "SELECT ?, ?", .bind (.after 0) 1 (.text "a"),
      .clearBindings (.after 0), .bind (.after 0) 2 (.integer 7)] ∧
    s.liveCount 0 = r.liveCount ∧ r.sql? (.after 1) = none ∧
    (Dialect.library.engine.run 0 (.clearBindings (.after 1)) s).1 =
      .error (.unknownStatement 2) ∧
    (Dialect.library.engine.run 0 (.clearBindings (.after 1)) s).1 =
      (Recording.engine.run 0 (.clearBindings (.after 1)) r).1 := by
  have fresh : (Server.openMemory {}).2.slots 0 = {} := rfl
  have blank : Recording.Fresh { refused := ["SELECT 2"] } := ⟨rfl, rfl, rfl⟩
  have begun : Alongside Dialect.library 0 (Server.openMemory {}).2 { refused := ["SELECT 2"] } _ _ :=
    .start
  have both := begun
    |>.request (.compile "SELECT ?, ?") (by decide +kernel)
    |>.request (.compile "SELECT 1") (by decide +kernel)
    |>.request (.bind (.after 0) 1 (.text "a")) (by decide +kernel)
    |>.request (.bind (.after 5) 9 .null) (by decide +kernel)
    |>.request (.destroy (.after 1)) (by decide +kernel)
    |>.request (.destroy (.after 1)) (by decide +kernel)
    |>.request (.clearBindings (.after 0)) (by decide +kernel)
    |>.request (.bind (.after 0) 2 (.integer 7)) (by decide +kernel)
  obtain ⟨answers, count, texts, -⟩ := recording_simulates_engine fresh blank both
  exact ⟨_, _, both, fresh, blank, by decide +kernel, by decide +kernel, count,
    (texts _).trans (by decide +kernel), by decide +kernel, answers _ trivial⟩

end Requests

end Sql

end Prepared
