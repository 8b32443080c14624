import Prepared.Proofs.Slots

/-! Parameters of slots.

The parameters of a slot are what they were at some time, with the bindings since then put on
top: at each position the last one counts. -/
namespace Prepared.Sql

/-- The value that was bound last at a position. -/
def lastBound? (bs : List Binding) (position : Nat) : Option Value :=
  bs.reverse.findSome? fun b => if b.position.toNat = position then some b.value else none

theorem lastBound?_append_self (bs : List Binding) (b : Binding) :
    lastBound? (bs ++ [b]) b.position.toNat = some b.value := by
  simp [lastBound?]

theorem lastBound?_append_of_ne (bs : List Binding) {b : Binding} {position : Nat}
    (h : position ≠ b.position.toNat) :
    lastBound? (bs ++ [b]) position = lastBound? bs position := by
  simp [lastBound?, Ne.symm h]

/-- What parameter `k` is when bindings were made over some earlier parameters: it was bound
last at its position, or is as it was, or was never anything but `null`. -/
def expected (base : List Value) (bs : List Binding) (k : Nat) : Value :=
  (lastBound? bs (k + 1)).getD (base.getD k .null)

/-- Parameters that are as expected. -/
def Shows (base : List Value) (bs : List Binding) (ps : List Value) : Prop :=
  ∀ k (hk : k < ps.length), ps[k] = expected base bs k

namespace Shows

variable {base ps : List Value} {bs : List Binding}

theorem self (ps : List Value) : Shows ps [] ps := by
  intro k hk
  simp [expected, lastBound?, hk]

theorem replicate (count : Nat) : Shows [] [] (List.replicate count .null) := by
  intro k hk
  simp [expected, lastBound?]

/-- A binding at a position of the slot changes the parameter there and no other. -/
theorem bind (hs : Shows base bs ps) {b : Binding} (first : 1 ≤ b.position.toNat) :
    Shows base (bs ++ [b]) (ps.set (b.position.toNat - 1) b.value) := by
  intro k hk
  rw [List.length_set] at hk
  unfold expected
  by_cases at_ : k = b.position.toNat - 1
  · have position : k + 1 = b.position.toNat := by omega
    rw [position, lastBound?_append_self]
    subst at_
    simp
  · have other : k + 1 ≠ b.position.toNat := by omega
    rw [lastBound?_append_of_ne bs other, List.getElem_set_ne (Ne.symm at_)]
    exact hs k hk

end Shows

namespace Engines

variable {δ : Type} {L : Library δ} {s : Engines δ} {i : EngineId} {n : StatementId}

/-- A binding that is accepted changes the parameter at its position. -/
theorem slot?_bound {position : UInt32} {value : Value}
    (answer : (L.engine.run i (.bind n position value) s).1 = .ok ()) :
    ∃ slot, s.slot? (i, n) = some slot ∧ 1 ≤ position.toNat ∧
      (L.engine.run i (.bind n position value) s).2.slot? (i, n) = some
        { slot with parameters := slot.parameters.set (position.toNat - 1) value } := by
  change ((s.slots i).bind n position value).1 = .ok () at answer
  cases found : s.slot? (i, n) with
  | none =>
    unfold Slots.bind at answer
    rw [Slots.get_of_find?_none found] at answer
    nomatch answer
  | some slot =>
    have hb := Slots.bind_of_find? (t := s.slots i) found position value
    rw [hb] at answer
    split at answer
    · next range =>
      refine ⟨slot, rfl, range.1, ?_⟩
      rw [if_pos range] at hb
      show ((s.withSlots i ((s.slots i).bind n position value).2).slots i).find? n = _
      rw [slots_withSlots_self, hb, Slots.find?_modify_self]
      exact congrArg (Option.map _) found
    · nomatch answer

/-- A binding that is refused changes nothing. -/
theorem run_unbound {position : UInt32} {value : Value} {e : EngineError}
    (answer : (L.engine.run i (.bind n position value) s).1 = .error e) :
    (L.engine.run i (.bind n position value) s).2 = s := by
  change s.withSlots i ((s.slots i).bind n position value).2 = s
  rw [Slots.bind_error answer, withSlots_self]

/-- Clearing makes all parameters `null`. -/
theorem slot?_cleared {slot : Slot} (found : s.slot? (i, n) = some slot) :
    (L.engine.run i (.clearBindings n) s).1 = .ok () ∧
    (L.engine.run i (.clearBindings n) s).2.slot? (i, n) = some
      { slot with parameters := List.replicate slot.parameters.length .null } := by
  have hc := Slots.clear_of_find? (t := s.slots i) found
  refine ⟨congrArg Prod.fst hc, ?_⟩
  show ((s.withSlots i ((s.slots i).clear n).2).slots i).find? n = _
  rw [slots_withSlots_self, hc, Slots.find?_modify_self]
  exact congrArg (Option.map _) found

theorem slot?_executed (key : EngineId × StatementId) :
    (L.engine.run i (.execute n) s).2.slot? key = s.slot? key := by
  unfold slot?
  rw [slots_execute]

end Engines

end Prepared.Sql
