import Prepared.Proofs.Homes

/-! Kept statements.

A statement is kept if a cache stores it, or if it has just left one and is yet to be dealt
with. What has left a cache is in no cache any more, and is dealt with once. -/
namespace Prepared.Store

variable {σ : Type} {E : Engine σ} {s t : Store σ} {g g' : Grip} {h : CompiledId}

/-- Whether some cache stores a statement. -/
def Stored (s : Store σ) (h : CompiledId) : Prop :=
  ∃ c e, e ∈ (s.connection c).cache.entries ∧ e.2 = h

/-- Whether a statement is stored or loose. -/
def Kept (m : Moment σ) (h : CompiledId) : Prop :=
  Stored m.store h ∨ h ∈ m.grip.loose

/-- The caches of two stores have the same entries. -/
def SameEntries (s t : Store σ) : Prop :=
  ∀ c e, e ∈ (t.connection c).cache.entries ↔ e ∈ (s.connection c).cache.entries

namespace SameEntries

theorem stored (hs : SameEntries s t) : Stored t h ↔ Stored s h := by
  constructor
  · intro found
    obtain ⟨c, e, hm, he⟩ := found
    exact ⟨c, e, (hs c e).1 hm, he⟩
  · intro found
    obtain ⟨c, e, hm, he⟩ := found
    exact ⟨c, e, (hs c e).2 hm, he⟩

theorem kept (hs : SameEntries s t) (hl : g'.loose = g.loose) :
    Kept ⟨t, g'⟩ h ↔ Kept ⟨s, g⟩ h := by
  unfold Kept
  rw [hs.stored, hl]

theorem refl (s : Store σ) : SameEntries s s :=
  fun _ _ => .rfl

theorem withConnection (s : Store σ) (c : ConnectionId) {f : Connection → Connection}
    (hf : ∀ x, (f x).cache = x.cache) : SameEntries s (s.withConnection c f) := by
  intro d e
  rw [connection_withConnection]
  split
  · rw [hf]
  · exact .rfl

theorem reorder {c : ConnectionId} {f : Cache CompiledId → Cache CompiledId}
    (hf : (f (s.connection c).cache).entries.Perm (s.connection c).cache.entries) :
    SameEntries s (s.withCache c f) := by
  intro d e
  rw [cache_withCache]
  split
  · next hc =>
    rw [hc.1]
    exact hf.mem_iff
  · exact .rfl

theorem created (s : Store σ) (c : ConnectionId) (sql : String) :
    SameEntries s (s.created c sql) := by
  intro d e
  rw [cache_created]

theorem connected (s : Store σ) {x : Connection} (hx : x.cache.entries = []) :
    SameEntries s { s with connections := s.connections.push x } := by
  intro d e
  rw [connection_pushed]
  split
  · next hd =>
    have hn : (s.connection d).cache.entries = [] := by
      have hg : s.connection d = default := Table.get_of_le _ (Nat.le_of_eq hd.symm)
      rw [hg]
      rfl
    rw [hx, hn]
  · exact .rfl

end SameEntries

theorem stored_of_cached (hc : s.isCached h = true) : Stored s h :=
  ⟨_, _, Cache.mem_of_peek? (beq_iff_eq.1 hc), rfl⟩

/-- A statement is stored exactly if the cache of its connection stores it for its text. -/
theorem isCachedBy_iff (hk : Keyed s) (hh : Homes ⟨s, g⟩) {c : ConnectionId}
    (home : (s.statement h).connection = c) : s.isCachedBy c h = true ↔ Stored s h := by
  unfold isCachedBy
  rw [Cache.holds_iff (hk c)]
  constructor
  · intro hm
    exact ⟨c, _, hm, rfl⟩
  · intro found
    obtain ⟨d, e, hm, rfl⟩ := found
    obtain ⟨hb, hq⟩ := hh.entry d e hm
    obtain rfl : d = c := hb.home.symm.trans home
    rw [hq]
    exact hm

theorem isCached_iff (hk : Keyed s) (hh : Homes ⟨s, g⟩) : s.isCached h = true ↔ Stored s h :=
  isCachedBy_iff hk hh rfl

/-- After a statement was stored, it is kept and nothing else has changed. -/
theorem kept_store {c : ConnectionId} {sql : String} (hc : c < s.connections.next)
    {k : CompiledId} :
    Kept ⟨s.withCache c fun x => { x with entries := (sql, h) :: x.entries }, g⟩ k ↔
      Kept ⟨s, g⟩ k ∨ k = h := by
  have entries (d : ConnectionId) (e : String × CompiledId) :
      e ∈ ((s.withCache c fun x => { x with entries := (sql, h) :: x.entries }).connection
        d).cache.entries ↔ e ∈ (s.connection d).cache.entries ∨ (d = c ∧ e = (sql, h)) := by
    rw [cache_withCache]
    by_cases hd : d = c
    · rw [if_pos ⟨hd, hc⟩, List.mem_cons, or_comm]
      simp [hd]
    · rw [if_neg fun hn => hd hn.1]
      simp [hd]
  constructor
  · intro either
    rcases either with ⟨d, e, hm, rfl⟩ | hl
    · rcases (entries d e).1 hm with ho | ⟨-, rfl⟩
      · exact .inl (.inl ⟨d, e, ho, rfl⟩)
      · exact .inr rfl
    · exact .inl (.inr hl)
  · intro either
    rcases either with (⟨d, e, hm, rfl⟩ | hl) | rfl
    · exact .inl ⟨d, e, (entries d e).2 (.inl hm), rfl⟩
    · exact .inr hl
    · exact .inl ⟨c, _, (entries c _).2 (.inr ⟨rfl, rfl⟩), rfl⟩

/-- What leaves a cache is loose, so it is kept still. -/
theorem kept_clear {c : ConnectionId} {f : Cache CompiledId → Cache CompiledId}
    {out : List CompiledId} (hk : Keyed s) (empty : g.loose = [])
    (parts : Cache.Parts (s.connection c).cache (f (s.connection c).cache) out) :
    Kept ⟨s.withCache c f, { g with loose := out }⟩ h ↔ Kept ⟨s, g⟩ h := by
  constructor
  · intro either
    rcases either with ⟨d, e, hm, rfl⟩ | hl
    · rcases mem_withCache hm with ⟨-, hm⟩ | hm
      · exact .inl ⟨c, e, parts.mem_left hm, rfl⟩
      · exact .inl ⟨d, e, hm, rfl⟩
    · obtain ⟨key, hm, -⟩ := parts.mem_of_out (hk c) hl
      exact .inl ⟨c, _, hm, rfl⟩
  · intro either
    rcases either with ⟨d, ⟨key, k⟩, hm, rfl⟩ | hl
    · by_cases hd : d = c
      · subst hd
        rcases parts.mem_or hm with hs | ho
        · refine .inl ⟨d, (key, k), ?_, rfl⟩
          rw [cache_withCache, if_pos ⟨rfl, lt_of_entry hm⟩]
          exact hs
        · exact .inr ho
      · refine .inl ⟨d, (key, k), ?_, rfl⟩
        rw [cache_withCache, if_neg fun hn => hd hn.1]
        exact hm
    · rw [show (⟨s, g⟩ : Moment σ).grip.loose = [] from empty] at hl
      nomatch hl

/-- No cache stores a statement twice. -/
theorem values_nodup (hk : Keyed s) (hh : Homes ⟨s, g⟩) (c : ConnectionId) :
    (s.connection c).cache.values.Nodup := by
  have hn : (s.connection c).cache.entries.Nodup := (hk c).of_map _
  apply hn.map_on
  intro x hx y hy hxy
  have hq := (hh.entry c x hx).2
  rw [hxy, (hh.entry c y hy).2] at hq
  exact Prod.ext hq.symm hxy

/-- What is loose is in no cache, and occurs once. -/
structure Loose (m : Moment σ) : Prop where
  nodup : m.grip.loose.Nodup
  apart : ∀ h ∈ m.grip.loose, ¬ Stored m.store h

theorem Loose.of_same (hl : Loose ⟨s, g⟩) (hs : SameEntries s t) (he : g'.loose = g.loose) :
    Loose ⟨t, g'⟩ where
  nodup := by
    show g'.loose.Nodup
    rw [he]
    exact hl.nodup
  apart h hm := by
    rw [hs.stored]
    exact hl.apart h (he ▸ hm)

theorem Loose.tail {hs : List CompiledId} (hl : Loose ⟨s, g⟩) (next : g.loose = h :: hs)
    (he : SameEntries s t) : Loose ⟨t, { g with loose := hs }⟩ where
  nodup := by
    have hn : g.loose.Nodup := hl.nodup
    rw [next] at hn
    exact hn.of_cons
  apart k hm := by
    rw [he.stored]
    exact hl.apart k (next ▸ List.mem_cons_of_mem _ hm)

theorem Loose.step {a b : Moment σ} (ha : Loose a) (hk : Keyed a.store) (hh : Homes a)
    (hm : Move E a b) : Loose b := by
  cases hm with
  | reorder same => exact ha.of_same (.reorder (same (hk _))) rfl
  | store isOpen referenced atHand empty =>
    refine ⟨ha.nodup, fun h hm => ?_⟩
    rw [show (_ : List CompiledId) = [] from empty] at hm
    nomatch hm
  | @clear s g f out empty parts =>
    refine ⟨(parts (hk _)).out_nodup (values_nodup hk hh _), fun h hm => ?_⟩
    intro found
    obtain ⟨d, e, he, rfl⟩ := found
    obtain ⟨key, ho, hn⟩ := (parts (hk _)).mem_of_out (hk _) hm
    -- the only entry that the statement can have is the one that has left
    have hs : Belongs s e.2 g.connection ∧ (s.statement e.2).sql = key := hh.entry _ _ ho
    have hd : e ∈ (s.connection d).cache.entries → d = g.connection ∧ e.1 = key := by
      intro hm
      have he : Belongs s e.2 d ∧ (s.statement e.2).sql = e.1 := hh.entry d e hm
      exact ⟨he.1.home.symm.trans hs.1.home, he.2.symm.trans hs.2⟩
    rw [cache_withCache] at he
    split at he
    · next hc =>
      obtain ⟨rfl, -⟩ := hc
      obtain ⟨-, rfl⟩ := hd ((parts (hk _)).mem_left he)
      exact hn he
    · next hc =>
      exact hc ⟨(hd he).1, lt_of_entry ho⟩
  | leave next | destroyLoose next => exact ha.tail next (.refl _)
  | deregister | take | release | retire | shut | dropClone | clone =>
    exact ha.of_same (.withConnection _ _ fun _ => rfl) rfl
  | create => exact ha.of_same (.created _ _ _) rfl
  | connect => exact ha.of_same (.connected _ rfl) rfl
  | _ => exact ha.of_same (.refl _) rfl

/-- A kept statement was given out. -/
theorem Homes.lt_of_kept {m : Moment σ} (hh : Homes m) (hk : Kept m h) :
    h < m.store.compiled.next := by
  rcases hk with ⟨c, e, hm, rfl⟩ | hl
  · exact (hh.entry c e hm).1.exists_
  · exact (hh.loose h hl).exists_

theorem not_kept (empty : g.loose = []) (hs : ¬ Stored s h) : ¬ Kept ⟨s, g⟩ h := by
  intro either
  rcases either with hk | hl
  · exact hs hk
  · rw [show (⟨s, g⟩ : Moment σ).grip.loose = [] from empty] at hl
    nomatch hl

/-- No kept statement was destroyed. -/
def Intact (m : Moment σ) : Prop :=
  ∀ h, Kept m h → (m.store.statement h).destroyed = false

theorem Intact.of_kept (hi : Intact ⟨s, g⟩) (hk : ∀ k, Kept ⟨t, g'⟩ k → Kept ⟨s, g⟩ k)
    (hd : ∀ k, Kept ⟨t, g'⟩ k → (t.statement k).destroyed = (s.statement k).destroyed) :
    Intact ⟨t, g'⟩ :=
  fun k hm => (hd k hm).trans (hi k (hk k hm))

theorem Intact.of_same (hi : Intact ⟨s, g⟩) (hs : SameEntries s t) (hl : g'.loose = g.loose)
    (hd : ∀ k, (t.statement k).destroyed = (s.statement k).destroyed) : Intact ⟨t, g'⟩ :=
  hi.of_kept (fun _ => (hs.kept hl).1) fun k _ => hd k

theorem destroyed_withStatement (s : Store σ) (h k : CompiledId) {f : Compiled → Compiled}
    (hf : ∀ x, (f x).destroyed = x.destroyed) :
    ((s.withStatement h f).statement k).destroyed = (s.statement k).destroyed := by
  rw [statement_withStatement]
  split
  · exact hf _
  · rfl

theorem destroyed_struck {k : CompiledId} (hn : k ≠ h) :
    ((s.struck E h).statement k).destroyed = (s.statement k).destroyed := by
  rw [statement_struck_of_ne hn]

/-- A statement that is dealt with is kept no longer. -/
theorem Loose.kept_tail {hs : List CompiledId} (hl : Loose ⟨s, g⟩) (next : g.loose = h :: hs)
    (he : SameEntries s t) {k : CompiledId} :
    Kept ⟨t, { g with loose := hs }⟩ k ↔ Kept ⟨s, g⟩ k ∧ k ≠ h := by
  have hn : g.loose.Nodup := hl.nodup
  rw [next, List.nodup_cons] at hn
  have hm (k : CompiledId) : k ∈ g.loose ↔ k = h ∨ k ∈ hs := by rw [next, List.mem_cons]
  constructor
  · intro either
    rcases either with hk | hk
    · rw [he.stored] at hk
      refine ⟨.inl hk, ?_⟩
      intro same
      subst same
      exact hl.apart k ((hm k).2 (.inl rfl)) hk
    · refine ⟨.inr ((hm k).2 (.inr hk)), ?_⟩
      intro same
      subst same
      exact hn.1 hk
  · intro found
    obtain ⟨hk | hk, hne⟩ := found
    · exact .inl (he.stored.2 hk)
    · exact .inr (((hm k).1 hk).resolve_left hne)

theorem Intact.step {a b : Moment σ} (ha : Intact a) (hk : Keyed a.store) (hh : Homes a)
    (hl : Loose a) (hm : Move E a b) : Intact b := by
  cases hm with
  | @compile s g sql n =>
    have hs : SameEntries s (s.grown E g.connection sql n) := fun _ _ => .rfl
    apply ha.of_kept (fun k => hs.kept rfl |>.1)
    intro k hm
    have hlt : k < s.compiled.next := hh.lt_of_kept ((hs.kept rfl).1 hm)
    rw [statement_grown, if_neg (Nat.ne_of_lt hlt)]
  | claim | attach | park | borrow | giveBack =>
    exact ha.of_same (.refl _) rfl fun k => destroyed_withStatement _ _ k fun _ => rfl
  | reorder same => exact ha.of_same (.reorder (same (hk _))) rfl fun _ => rfl
  | store isOpen referenced atHand empty claimed live =>
    intro k hm
    rcases (kept_store (lt_of_isOpen isOpen)).1 hm with ho | rfl
    · exact ha k ho
    · exact live
  | clear empty parts =>
    exact ha.of_kept (fun k => (kept_clear hk empty (parts (hk _))).1) fun _ _ => rfl
  | leave next =>
    exact ha.of_kept (fun k hm => ((hl.kept_tail next (.refl _)).1 hm).1) fun _ _ => rfl
  | destroyLoose next =>
    exact ha.of_kept (fun k hm => ((hl.kept_tail next (.refl _)).1 hm).1)
      fun k hm => destroyed_struck ((hl.kept_tail next (.refl _)).1 hm).2
  | @destroyHand s g h atHand empty absent =>
    refine ha.of_kept (fun k => id) fun k hm => destroyed_struck ?_
    intro same
    subst same
    refine not_kept empty (fun hs => ?_) hm
    have hc := (isCachedBy_iff hk hh (hh.hand k atHand).home).2 hs
    exact absurd (absent.symm.trans hc) (by decide)
  | @destroyReturned s g h free empty live absent =>
    have hn : ¬ Kept ⟨s, g⟩ h := not_kept empty fun hs =>
      absurd (absent.symm.trans ((isCached_iff hk hh).2 hs)) (by decide)
    refine ha.of_kept (fun k => id) fun k hm => (destroyed_struck ?_).trans ?_
    · intro same
      subst same
      exact hn hm
    · exact destroyed_withStatement s h k fun _ => rfl
  | deregister | take | release | retire | shut | dropClone | clone =>
    exact ha.of_same (.withConnection _ _ fun _ => rfl) rfl fun _ => rfl
  | create => exact ha.of_same (.created _ _ _) rfl fun _ => rfl
  | connect => exact ha.of_same (.connected _ rfl) rfl fun _ => rfl
  | _ => exact ha.of_same (.refl _) rfl fun _ => rfl

end Prepared.Store
