/-! Tables with positions.

Positions are given out in order and never taken back, so a position names one entry
for good; a position that was never given out reads as the default. -/
namespace Prepared

/-- A table: positions are given out in order, and what was never given out reads
as the default. -/
structure Table (α : Type) where
  rows : Array α := #[]
  deriving Repr, Inhabited

namespace Table

variable {α : Type}

/-- The next position to be given out. -/
def next (t : Table α) : Nat :=
  t.rows.size

/-- The entry at a position. -/
def get [Inhabited α] (t : Table α) (i : Nat) : α :=
  t.rows.getD i default

/-- Adds an entry at the next position. -/
def push (t : Table α) (a : α) : Table α :=
  ⟨t.rows.push a⟩

/-- Changes the entry at a position, if it was given out. -/
def modify (t : Table α) (i : Nat) (f : α → α) : Table α :=
  ⟨t.rows.modify i f⟩

/-- The positions that were given out. -/
def positions (t : Table α) : List Nat :=
  List.range t.next

@[simp] theorem next_push (t : Table α) (a : α) : (t.push a).next = t.next + 1 := by
  simp [next, push]

@[simp] theorem next_modify (t : Table α) (i : Nat) (f : α → α) :
    (t.modify i f).next = t.next := by
  simp [next, modify]

theorem get_of_le [Inhabited α] (t : Table α) {i : Nat} (h : t.next ≤ i) :
    t.get i = default := by
  simp only [next] at h
  simp [get, Array.getD_eq_getD_getElem?, Array.getElem?_eq_none h]

@[simp] theorem get_push_self [Inhabited α] (t : Table α) (a : α) :
    (t.push a).get t.next = a := by
  simp [get, push, next, Array.getD_eq_getD_getElem?]

theorem get_push_of_ne [Inhabited α] (t : Table α) (a : α) {i : Nat} (h : i ≠ t.next) :
    (t.push a).get i = t.get i := by
  simp only [next] at h
  simp [get, push, Array.getD_eq_getD_getElem?, Array.getElem?_push, h]

theorem get_modify_self [Inhabited α] (t : Table α) {i : Nat} (f : α → α) (h : i < t.next) :
    (t.modify i f).get i = f (t.get i) := by
  simp only [next] at h
  simp [get, modify, Array.getD_eq_getD_getElem?, h, Array.getElem_modify]

theorem get_modify_of_ne [Inhabited α] (t : Table α) {i j : Nat} (f : α → α) (h : i ≠ j) :
    (t.modify i f).get j = t.get j := by
  simp [get, modify, Array.getD_eq_getD_getElem?, Array.getElem?_modify, h]

end Table

end Prepared
