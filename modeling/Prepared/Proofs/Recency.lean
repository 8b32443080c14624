import Mathlib.Data.List.TakeDrop
import Prepared.Proofs.Obtained

/-! The texts of a cache by recency.

What a cache lists depends on the texts that it is asked for and on its capacity, and on nothing
else: a text that is asked for goes to the front, whether or not it was there, and what exceeds the
capacity leaves from the back. -/
namespace Prepared

/-- The list with a text put to its front, and cut to a length. -/
def promote (capacity : Nat) (key : String) (keys : List String) : List String :=
  (key :: keys.filter (· != key)).take capacity

section Lists

variable {key : String} {keys xs : List String} {m n : Nat}

theorem filter_bne_of_not_mem (absent : key ∉ keys) : keys.filter (· != key) = keys := by
  rw [List.filter_eq_self]
  intro x hx
  rw [bne_iff_ne]
  rintro rfl
  exact absent hx

theorem mem_promote {x : String} (hx : x ∈ promote m key keys) : x = key ∨ x ∈ keys :=
  (List.mem_cons.1 (List.mem_of_mem_take hx)).imp_right List.mem_of_mem_filter

/-- Of lists one of which begins with the other the same is true once a text was put to the front
of both, if the shorter one is cut at least as much. -/
theorem promote_prefix (le : m ≤ n) (h : keys <+: xs) :
    promote m key keys <+: promote n key xs := by
  have fronts : key :: keys.filter (· != key) <+: key :: xs.filter (· != key) :=
    (List.prefix_cons_inj key).2 (h.filter _)
  exact (fronts.take m).trans (List.take_prefix_take_left le)

/-- What leaves from the back does not matter to what is left when a text is put to the front. -/
theorem promote_take (nodup : keys.Nodup) :
    promote m key (keys.take m) = (key :: keys.filter (· != key)).take m := by
  have filtered : ∀ k, ((keys.take (k + 1)).filter (· != key)).take k =
      (keys.filter (· != key)).take k := by
    induction keys with
    | nil => simp
    | cons x xs ih =>
      intro k
      obtain ⟨fresh, rest⟩ := List.nodup_cons.1 nodup
      rw [List.take_succ_cons]
      by_cases same : x = key
      · subst same
        have absent : x ∉ xs.take k := fun hx => fresh (List.mem_of_mem_take hx)
        simp [filter_bne_of_not_mem fresh, filter_bne_of_not_mem absent]
      · cases k with
        | zero => simp
        | succ k => simp [same, ih rest k]
  unfold promote
  cases m with
  | zero => rfl
  | succ k => rw [List.take_succ_cons, List.take_succ_cons, filtered]

/-- Leaving out repetitions commutes with leaving out what does not satisfy a test. -/
theorem eraseDups_filter (p : String → Bool) (xs : List String) :
    (xs.filter p).eraseDups = xs.eraseDups.filter p := by
  induction hn : xs.length using Nat.strong_induction_on generalizing xs with
  | _ n ih =>
    subst hn
    cases xs with
    | nil => rfl
    | cons x xs =>
      have shorter : (xs.filter fun y => !y == x).length < (x :: xs).length :=
        Nat.lt_succ_of_le (List.length_filter_le ..)
      have rest := ih _ shorter (xs.filter fun y => !y == x) rfl
      rw [List.eraseDups_cons, List.filter_cons, List.filter_cons]
      split
      · next hx =>
        rw [List.eraseDups_cons, ← rest, List.filter_filter, List.filter_filter]
        simp only [Bool.and_comm]
      · next hx =>
        rw [← rest, List.filter_filter]
        congr 1
        refine List.filter_congr fun y _ => ?_
        by_cases same : y = x
        · simp [same, hx]
        · simp [same]

theorem eraseDups_cons_filter (key : String) (xs : List String) :
    (key :: xs).eraseDups = key :: xs.eraseDups.filter (· != key) := by
  rw [List.eraseDups_cons, ← eraseDups_filter]
  rfl

theorem nodup_eraseDups (xs : List String) : xs.eraseDups.Nodup := by
  induction xs with
  | nil => exact List.nodup_nil
  | cons x xs ih =>
    rw [eraseDups_cons_filter, List.nodup_cons]
    exact ⟨by simp, ih.filter _⟩

/-- One more text is put to the front of the texts so far. -/
theorem take_eraseDups_cons (m : Nat) (key : String) (xs : List String) :
    (key :: xs).eraseDups.take m = promote m key (xs.eraseDups.take m) := by
  rw [promote_take (nodup_eraseDups xs), eraseDups_cons_filter]

/-- A text is among the first ones of a list without its repetitions exactly if fewer other ones
come before it. -/
theorem mem_take_eraseDups (m : Nat) (key : String) (xs : List String) :
    key ∈ xs.eraseDups.take m ↔
      key ∈ xs ∧ (xs.takeWhile (· != key)).eraseDups.length < m := by
  by_cases found : key ∈ xs
  · obtain ⟨front, rest, rfl, before⟩ := List.eq_append_cons_of_mem found
    have taken : (front ++ key :: rest).takeWhile (· != key) = front := by
      rw [List.takeWhile_append_of_pos, List.takeWhile_cons_of_neg, List.append_nil]
      · simp
      · intro x hx
        rw [bne_iff_ne]
        rintro rfl
        exact before hx
    obtain ⟨others, parts⟩ : ∃ others,
        (front ++ key :: rest).eraseDups = front.eraseDups ++ key :: others := by
      rw [List.eraseDups_append, List.removeAll, List.filter_cons_of_pos (by simpa using before)]
      exact ⟨_, by rw [List.eraseDups_cons]⟩
    rw [taken, parts, List.take_append]
    constructor
    · intro h
      refine ⟨found, Nat.lt_of_not_le fun le => ?_⟩
      rcases List.mem_append.1 h with h | h
      · exact before (List.mem_eraseDups.1 (List.mem_of_mem_take h))
      · rw [Nat.sub_eq_zero_of_le le] at h
        nomatch h
    · rintro ⟨-, lt⟩
      obtain ⟨k, hk⟩ := Nat.exists_eq_add_of_lt lt
      refine List.mem_append_right _ ?_
      rw [show m - front.eraseDups.length = k + 1 by omega, List.take_succ_cons]
      exact List.mem_cons_self ..
  · refine ⟨fun h => absurd (List.mem_eraseDups.1 (List.mem_of_mem_take h)) found, fun h => ?_⟩
    exact absurd h.1 found

end Lists

/-- How often a cache was asked for a text. -/
def Counters.asks (n : Counters) : Nat :=
  n.hits + n.misses + n.contentions

theorem Counters.asks_count {n : Counters} {a : Acquisition} (cached : a ≠ .uncached) :
    (n.count a).asks = n.asks + 1 := by
  cases a with
  | uncached => exact absurd rfl cached
  | hit | miss | contention =>
    simp only [count, asks]
    omega

namespace Cache

variable {α : Type} {c : Cache α} {key : String}

theorem keys_others (c : Cache α) (key : String) :
    (c.others key).map (·.1) = c.keys.filter (· != key) := by
  unfold others keys
  rw [List.filter_map]
  rfl

/-- A text with an entry goes to the front, and no entry leaves. -/
theorem keys_touch (fits : c.size ≤ c.capacity) (found : key ∈ c.keys) :
    (c.touch key).keys = promote c.capacity key c.keys := by
  have moved : (c.touch key).keys = key :: c.keys.filter (· != key) := by
    unfold touch
    cases stored : c.peek? key with
    | none => exact absurd found (peek?_eq_none_iff.1 stored)
    | some a => exact congrArg (key :: ·) (keys_others c key)
  have shorter : (c.keys.filter (· != key)).length < c.keys.length :=
    List.length_filter_lt_length_iff_exists.2 ⟨key, found, by simp⟩
  have size : c.keys.length = c.size := List.length_map _
  rw [moved, promote, List.take_of_length_le]
  rw [List.length_cons]
  omega

/-- A text without an entry goes to the front, and what has no room leaves from the back. -/
theorem keys_insert (fits : c.size ≤ c.capacity) (a : α) :
    (c.insert key a).2.keys = promote c.capacity key c.keys := by
  unfold insert
  split
  · next full =>
    have empty : c.entries = [] :=
      List.eq_nil_of_length_eq_zero (Nat.eq_zero_of_le_zero (full ▸ fits))
    rw [keys, empty, promote, full]
    rfl
  · show (((key, a) :: c.others key).take c.capacity).map (·.1) = _
    rw [List.map_take, List.map_cons, keys_others]
    rfl

theorem keys_erase (c : Cache α) (key : String) :
    (c.erase key).2.keys = c.keys.filter (· != key) := by
  unfold erase
  cases stored : c.peek? key with
  | none => exact (filter_bne_of_not_mem (peek?_eq_none_iff.1 stored)).symm
  | some a => exact keys_others c key

/-- A cache that gets more room loses nothing. -/
theorem keys_resize {n : Nat} (fits : c.size ≤ c.capacity) (grows : c.capacity ≤ n) :
    (c.resize n).2.keys = c.keys := by
  show (c.entries.take n).map (·.1) = c.keys
  rw [List.take_of_length_le (Nat.le_trans fits grows)]
  rfl

theorem counters_touch (c : Cache α) (key : String) : (c.touch key).counters = c.counters := by
  unfold touch
  split <;> rfl

theorem asks_insert (c : Cache α) (key : String) (a : α) :
    (c.insert key a).2.counters.asks = c.counters.asks := by
  unfold insert
  split <;> rfl

end Cache

namespace Store

variable {σ : Type} {E : Engine σ} {s : Store σ} {c : ConnectionId} {kind : Kind} {sql : String}

/-- A text for which a statement was obtained is in front, if it is of a kind to be cached. -/
theorem keys_obtained (fits : (s.connection c).cache.size ≤ (s.connection c).cache.capacity)
    (shared : kind.isShared = true) :
    (s.obtained c kind sql).keys =
      promote (s.connection c).cache.capacity sql (s.connection c).cache.keys := by
  simp only [obtained, shared, if_true]
  cases stored : (s.connection c).cache.peek? sql with
  | none => exact Cache.keys_insert (c := (s.connection c).cache.count .miss) fits _
  | some h =>
    refine Cache.keys_touch fits ?_
    rw [← not_not (a := sql ∈ _), ← Cache.peek?_eq_none_iff, stored]
    exact Option.some_ne_none h

theorem asks_obtained (shared : kind.isShared = true) :
    (s.obtained c kind sql).counters.asks = (s.connection c).cache.counters.asks + 1 := by
  simp only [obtained, shared, if_true]
  cases (s.connection c).cache.peek? sql with
  | none =>
    show (Cache.insert _ sql _).2.counters.asks = _
    rw [Cache.asks_insert]
    exact Counters.asks_count (by decide)
  | some h =>
    show ((Cache.touch _ sql).counters.count _).asks = _
    rw [Cache.counters_touch, Counters.asks_count]
    split <;> decide

/-- A text for which a statement was obtained changes nothing, if it is not of a kind to be
cached. -/
theorem obtained_unshared (unshared : ¬ kind.isShared = true) :
    (s.obtained c kind sql).keys = (s.connection c).cache.keys ∧
      (s.obtained c kind sql).counters.asks = (s.connection c).cache.counters.asks := by
  unfold obtained
  rw [if_neg unshared]
  exact ⟨rfl, rfl⟩

namespace Action

variable {a : Action}

/-- An action that obtains a statement for a text puts it in front. -/
theorem asked (fits : (s.connection c).cache.size ≤ (s.connection c).cache.capacity)
    (acquires : a.acquires s c = some sql)
    (accepted : ∀ kind, a.obtains s = some (c, kind, sql) → Accepts E s c kind sql) :
    ((a.perform E s).2.connection c).cache.keys =
        promote (s.connection c).cache.capacity sql (s.connection c).cache.keys ∧
      ((a.perform E s).2.connection c).cache.counters.asks =
        (s.connection c).cache.counters.asks + 1 ∨ Gone (a.perform E s).2 c := by
  obtain ⟨kind, obtains, shared⟩ := acquires_eq_some_iff.1 acquires
  obtain ⟨v, yields, cache⟩ := yields (E := E) obtains
  refine cache.same.imp_left fun cache => ?_
  rw [cache, yields.accepted (accepted kind obtains)]
  exact ⟨keys_obtained fits shared, asks_obtained shared⟩

/-- An action that asks for no text of the cache leaves the order of the texts as it is. -/
theorem unasked (fits : (s.connection c).cache.size ≤ (s.connection c).cache.capacity)
    (exists_ : c < s.connections.next) (registered : Registered s) (allowed : a.Allowed s)
    (none : a.acquires s c = none) (evict : ∀ text, a ≠ .evict c text) :
    ((a.perform E s).2.connection c).cache.keys = (s.connection c).cache.keys ∧
      ((a.perform E s).2.connection c).cache.counters.asks =
        (s.connection c).cache.counters.asks ∨ Gone (a.perform E s).2 c := by
  obtain ⟨v, turns, remains⟩ := a.turns (E := E) exists_ registered allowed
  refine remains.same.imp_left fun cache => ?_
  rw [cache]
  cases turns with
  | @obtained kind text v obtains yields =>
    have unshared : ¬ kind.isShared = true := fun shared => by
      rw [acquires_of_obtains obtains shared] at none
      nomatch none
    by_cases accepted : Accepts E s c kind text
    · rw [yields.accepted accepted]
      exact obtained_unshared unshared
    · rw [yields.refused accepted, lookedUp, if_neg unshared]
      exact ⟨rfl, rfl⟩
  | evicted text evicts => exact absurd evicts (evict text)
  | resized n _ grows => exact ⟨Cache.keys_resize fits grows, rfl⟩
  | kept => exact ⟨rfl, rfl⟩

/-- An evicted text is not listed any more, and the others are as before. -/
theorem evicted (exists_ : c < s.connections.next) (text : String) :
    (((evict c text).perform E s).2.connection c).cache.keys =
      (s.connection c).cache.keys.filter (· != Text.trim text) := by
  have cache := (evict_caches (E := E) text s ⟨exists_, rfl⟩).cache
  exact (congrArg Cache.keys cache).trans (Cache.keys_erase ..)

end Action

end Store

end Prepared
