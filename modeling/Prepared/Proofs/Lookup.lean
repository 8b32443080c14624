import Mathlib.Data.List.Nodup

/-! Looking up by a key.

Caches, statements and the members of a record are lists of pairs that are looked up by their
first half. What is found stands in the list, and where each key stands once, what stands in the
list is found. -/
namespace Prepared.Lookup

variable {κ α : Type}

section Lawful

variable [BEq κ] [LawfulBEq κ] {es : List (κ × α)} {k : κ} {a : α}

theorem mem_of_lookup (found : es.lookup k = some a) : (k, a) ∈ es := by
  obtain ⟨before, after, split, -⟩ := List.lookup_eq_some_iff.1 found
  rw [split]
  exact List.mem_append_right _ (List.mem_cons_self ..)

theorem lookup_eq_none_iff : es.lookup k = none ↔ k ∉ es.map Prod.fst := by
  rw [List.lookup_eq_none_iff, List.mem_map]
  constructor
  · rintro other ⟨e, listed, rfl⟩
    exact bne_iff_ne.1 (other e listed) rfl
  · exact fun absent e listed => bne_iff_ne.2 fun same => absent ⟨e, listed, same.symm⟩

theorem isSome_lookup_iff : (es.lookup k).isSome ↔ k ∈ es.map Prod.fst := by
  rw [Option.isSome_iff_ne_none, ne_eq, lookup_eq_none_iff, not_not]

/-- Where each key stands once, every pair is found. -/
theorem lookup_of_mem (distinct : (es.map Prod.fst).Nodup) (listed : (k, a) ∈ es) :
    es.lookup k = some a := by
  obtain ⟨b, found⟩ := Option.isSome_iff_exists.1
    (isSome_lookup_iff.2 (List.mem_map_of_mem (f := Prod.fst) listed))
  have same := List.inj_on_of_nodup_map distinct (mem_of_lookup found) listed rfl
  rw [found, (Prod.mk.inj same).2]

end Lawful

variable [DecidableEq κ] {m n : κ}

theorem lookup_map_of_ne (f : α → α) (es : List (κ × α)) (other : m ≠ n) :
    (es.map fun e => if e.1 = n then (e.1, f e.2) else e).lookup m = es.lookup m := by
  induction es with
  | nil => rfl
  | cons e es ih =>
    obtain ⟨k, a⟩ := e
    rw [List.map_cons]
    by_cases hk : k = n
    · have hm : (m == k) = false := beq_false_of_ne (hk ▸ other)
      rw [if_pos hk, List.lookup_cons, List.lookup_cons, hm]
      exact ih
    · rw [if_neg hk, List.lookup_cons, List.lookup_cons, ih]

theorem lookup_map_self (f : α → α) (es : List (κ × α)) :
    (es.map fun e => if e.1 = n then (e.1, f e.2) else e).lookup n = (es.lookup n).map f := by
  induction es with
  | nil => rfl
  | cons e es ih =>
    obtain ⟨k, a⟩ := e
    rw [List.map_cons]
    by_cases hk : k = n
    · subst hk
      simp
    · have hn : (n == k) = false := beq_false_of_ne (Ne.symm hk)
      rw [if_neg hk, List.lookup_cons, List.lookup_cons, hn]
      exact ih

theorem lookup_filter_of_ne (es : List (κ × α)) (other : m ≠ n) :
    (es.filter fun e => e.1 != n).lookup m = es.lookup m := by
  induction es with
  | nil => rfl
  | cons e es ih =>
    obtain ⟨k, a⟩ := e
    rw [List.filter_cons]
    by_cases hk : k = n
    · have hm : (m == k) = false := beq_false_of_ne (hk ▸ other)
      rw [if_neg (by simp [hk]), List.lookup_cons, hm]
      exact ih
    · rw [if_pos (by simp [hk]), List.lookup_cons, List.lookup_cons, ih]

theorem lookup_filter_self (es : List (κ × α)) (n : κ) :
    (es.filter fun e => e.1 != n).lookup n = none := by
  rw [lookup_eq_none_iff, List.mem_map]
  rintro ⟨e, kept, rfl⟩
  exact bne_iff_ne.1 (List.mem_filter.1 kept).2 rfl

end Prepared.Lookup
