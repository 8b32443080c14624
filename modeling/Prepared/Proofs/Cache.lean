import Prepared.Cache
import Prepared.Proofs.Lookup

/-! Laws of the recency cache.

No change of a cache loses anything: what was stored is stored still, or is given back.
`Parts` says so for every change at once. -/
namespace Prepared.Cache

variable {α : Type}

/-- Looking up finds an entry. -/
theorem mem_of_peek? {c : Cache α} {key : String} {a : α} (h : c.peek? key = some a) :
    (key, a) ∈ c.entries :=
  Lookup.mem_of_lookup h

/-- With one entry for a text, every entry is found. -/
theorem peek?_of_mem {c : Cache α} {key : String} {a : α} (hn : c.keys.Nodup)
    (h : (key, a) ∈ c.entries) : c.peek? key = some a :=
  Lookup.lookup_of_mem hn h

theorem peek?_eq_some_iff {c : Cache α} {key : String} {a : α} (hn : c.keys.Nodup) :
    c.peek? key = some a ↔ (key, a) ∈ c.entries :=
  ⟨mem_of_peek?, peek?_of_mem hn⟩

theorem peek?_eq_none_iff {c : Cache α} {key : String} : c.peek? key = none ↔ key ∉ c.keys :=
  Lookup.lookup_eq_none_iff

theorem holds_iff [DecidableEq α] {c : Cache α} {key : String} {a : α} (hn : c.keys.Nodup) :
    c.holds key a = true ↔ (key, a) ∈ c.entries := by
  rw [holds, beq_iff_eq, peek?_eq_some_iff hn]

/-- The entry of a text and the others make up the whole. -/
theorem cons_others_perm {c : Cache α} {key : String} {a : α} (hn : c.keys.Nodup)
    (h : (key, a) ∈ c.entries) : ((key, a) :: c.others key).Perm c.entries := by
  unfold others
  unfold keys at hn
  generalize c.entries = es at hn h ⊢
  induction es with
  | nil => simp at h
  | cons e es ih =>
    rw [List.map_cons, List.nodup_cons] at hn
    rcases List.mem_cons.1 h with he | he
    · subst he
      have hf : es.filter (fun e => e.1 != key) = es := by
        apply List.filter_eq_self.2
        intro e he
        simp only [bne_iff_ne, ne_eq]
        intro same
        subst same
        exact hn.1 (List.mem_map.2 ⟨e, he, rfl⟩)
      simp [hf]
    · have hk : e.1 ≠ key := by
        intro hk
        exact hn.1 (hk ▸ List.mem_map.2 ⟨_, he, rfl⟩)
      rw [List.filter_cons_of_pos (by simpa using hk)]
      exact (List.Perm.swap _ _ _).trans ((ih hn.2 he).cons _)

/-- Using an entry moves it, and changes nothing else. -/
theorem touch_perm {c : Cache α} (key : String) (hn : c.keys.Nodup) :
    (c.touch key).entries.Perm c.entries := by
  unfold touch
  split
  · exact cons_others_perm hn (mem_of_peek? ‹_›)
  · exact .refl _

theorem peek?_touch (c : Cache α) (key : String) : (c.touch key).peek? key = c.peek? key := by
  unfold touch
  cases h : c.peek? key with
  | none => exact h
  | some a => simp [peek?]

theorem capacity_touch (c : Cache α) (key : String) : (c.touch key).capacity = c.capacity := by
  unfold touch
  split <;> rfl

/-- The entries of `c` are those of `d` together with what was given back. -/
def Parts (c d : Cache α) (out : List α) : Prop :=
  ∃ es, es.map (·.2) = out ∧ (es ++ d.entries).Perm c.entries

theorem trim_parts (c : Cache α) : Parts c c.trim.2 c.trim.1 := by
  refine ⟨(c.entries.drop c.capacity).reverse, rfl, ?_⟩
  calc (c.entries.drop c.capacity).reverse ++ c.entries.take c.capacity
      |>.Perm (c.entries.drop c.capacity ++ c.entries.take c.capacity) :=
        (List.reverse_perm _).append_right _
    _ |>.Perm (c.entries.take c.capacity ++ c.entries.drop c.capacity) := List.perm_append_comm
    _ |>.Perm c.entries := by rw [List.take_append_drop]

theorem resize_parts (c : Cache α) (n : Nat) : Parts c (c.resize n).2 (c.resize n).1 :=
  trim_parts { c with capacity := n }

theorem drain_parts (c : Cache α) : Parts c c.drain.2 c.drain.1 :=
  ⟨c.entries.reverse, rfl, by simp [drain]⟩

theorem erase_parts {c : Cache α} {key : String} {a : α} (hn : c.keys.Nodup)
    (h : c.peek? key = some a) : Parts c (c.erase key).2 [a] := by
  refine ⟨[(key, a)], rfl, ?_⟩
  simpa [erase, h, countEvictions] using cons_others_perm hn (mem_of_peek? h)

/-- Storing for a text without an entry adds one, and gives back what has no room. -/
theorem insert_parts {c : Cache α} {key : String} (a : α) (hc : c.capacity ≠ 0)
    (h : c.peek? key = none) :
    Parts { c with entries := (key, a) :: c.entries } (c.insert key a).2 (c.insert key a).1 := by
  have ho : c.others key = c.entries := by
    apply List.filter_eq_self.2
    intro e he
    simp only [bne_iff_ne, ne_eq]
    intro same
    subst same
    exact peek?_eq_none_iff.1 h (List.mem_map.2 ⟨e, he, rfl⟩)
  simp only [insert, hc, if_false, ho, h, Option.toList_none, List.nil_append]
  exact trim_parts { c with entries := (key, a) :: c.entries }

theorem insert_of_zero {c : Cache α} (key : String) (a : α) (hc : c.capacity = 0) :
    c.insert key a = ([], c) := by
  simp [insert, hc]

namespace Parts

variable {c d : Cache α} {out : List α}

theorem keys_nodup (h : Parts c d out) (hn : c.keys.Nodup) : d.keys.Nodup := by
  obtain ⟨es, -, hp⟩ := h
  have hk := (hp.map Prod.fst).nodup_iff.2 hn
  rw [List.map_append] at hk
  exact hk.of_append_right

/-- What stays was there. -/
theorem mem_left (h : Parts c d out) {e : String × α} (he : e ∈ d.entries) : e ∈ c.entries := by
  obtain ⟨es, -, hp⟩ := h
  exact hp.subset (List.mem_append_right _ he)

/-- What is given back was there, and is there no more. -/
theorem mem_of_out (h : Parts c d out) (hn : c.keys.Nodup) {a : α} (ha : a ∈ out) :
    ∃ key, (key, a) ∈ c.entries ∧ (key, a) ∉ d.entries := by
  obtain ⟨es, rfl, hp⟩ := h
  obtain ⟨⟨key, b⟩, he, rfl⟩ := List.mem_map.1 ha
  refine ⟨key, hp.subset (List.mem_append_left _ he), fun hd => ?_⟩
  have hk := (hp.map Prod.fst).nodup_iff.2 hn
  rw [List.map_append, List.nodup_append] at hk
  exact hk.2.2 key (List.mem_map.2 ⟨_, he, rfl⟩) key (List.mem_map.2 ⟨_, hd, rfl⟩) rfl

/-- What was there stays or is given back. -/
theorem mem_or (h : Parts c d out) {key : String} {a : α} (he : (key, a) ∈ c.entries) :
    (key, a) ∈ d.entries ∨ a ∈ out := by
  obtain ⟨es, rfl, hp⟩ := h
  rcases List.mem_append.1 (hp.symm.subset he) with h | h
  · exact .inr (List.mem_map.2 ⟨_, h, rfl⟩)
  · exact .inl h

theorem out_nodup (h : Parts c d out) (hn : c.values.Nodup) : out.Nodup := by
  obtain ⟨es, rfl, hp⟩ := h
  have hv := (hp.map Prod.snd).nodup_iff.2 hn
  rw [List.map_append] at hv
  exact hv.of_append_left

end Parts

end Prepared.Cache
