import Prepared.Proofs.Reference
import Prepared.Proofs.Shelf

/-! Connections that nothing refers to.

A connection goes out of use when its last clone or program does, and does not come back. By
the end of the operation that did it the cache is empty, as it is once no references are left. -/
namespace Prepared

/-- Without references, a connection is closed and has an empty cache. -/
def Connection.Drained (x : Connection) : Prop :=
  x.references = 0 → x.isOpen = false ∧ x.cache.entries = []

namespace Store

variable {σ : Type} {E : Engine σ} {s t : Store σ} {c : ConnectionId}

/-- What refers to a connection refers to it still. -/
theorem isReferenced_mono (hs : s.isReferenced c = true)
    (clones : 0 < (s.connection c).clones → 0 < (t.connection c).clones)
    (programs : ∀ p, (s.program p).connection = c → (s.program p).isDropped = false →
      (t.program p).connection = c ∧ (t.program p).isDropped = false) :
    t.isReferenced c = true := by
  rw [isReferenced_iff] at hs ⊢
  rcases hs with hc | ⟨p, hp, hd⟩
  · exact .inl (clones hc)
  · exact .inr ⟨p, programs p hp hd⟩

theorem isReferenced_withConnection (s : Store σ) (c d : ConnectionId)
    {f : Connection → Connection} (hf : ∀ x, (f x).clones = x.clones) :
    (s.withConnection c f).isReferenced d = s.isReferenced d :=
  isReferenced_of_standing (standing_withConnection s c hf) d

theorem isReferenced_withProgram (s : Store σ) (p : ProgramId) (d : ConnectionId)
    {f : Program → Program}
    (hf : ∀ x, ((f x).connection, (f x).isDropped) = (x.connection, x.isDropped)) :
    (s.withProgram p f).isReferenced d = s.isReferenced d :=
  isReferenced_of_standing (standing_withProgram s p hf) d

theorem clones_created (s : Store σ) (c d : ConnectionId) (sql : String) :
    ((s.created c sql).connection d).clones = (s.connection d).clones :=
  connection_part _ c d (fun x => x.clones) fun _ => rfl

/-- A move leaves a connection with what refers to it, or takes the last of that away and says
so. -/
theorem Move.isReferenced {a b : Moment σ} (hm : Move E a b)
    (hs : a.store.isReferenced c = true) : b.store.isReferenced c = true ∨
      b.grip.leaving = true ∧ b.grip.connection = c ∧ a.grip.loose = [] ∧ b.grip.loose = [] := by
  cases hm with
  | hold | queue | close =>
    refine .inl (Eq.trans ?_ hs)
    exact isReferenced_withProgram _ _ c fun _ => rfl
  | reorder | store | clear | deregister | take | release | retire | shut =>
    refine .inl (Eq.trans ?_ hs)
    exact isReferenced_withConnection _ _ c fun _ => rfl
  | @create s g k sql =>
    refine .inl (isReferenced_mono hs ?_ ?_)
    · intro hc
      rw [clones_created]
      exact hc
    · intro p hp hd
      rw [program_created, if_neg (Nat.ne_of_lt (lt_of_not_dropped hd))]
      exact ⟨hp, hd⟩
  | @dropProgram s g p empty home =>
    -- the last program may go: then the operation is leaving, and has nothing loose yet
    by_cases hc : g.connection = c
    · exact .inr ⟨rfl, hc, empty, empty⟩
    · refine .inl (isReferenced_mono hs id fun q hq hd => ?_)
      have hqp : q ≠ p := by
        intro same
        subst same
        exact hc (home.symm.trans hq)
      rw [program_withProgram_of_ne hqp]
      exact ⟨hq, hd⟩
  | @dropClone s g empty =>
    by_cases hc : g.connection = c
    · exact .inr ⟨rfl, hc, empty, empty⟩
    · refine .inl (isReferenced_mono hs (fun hn => ?_) fun _ hq hd => ⟨hq, hd⟩)
      rw [connection_withConnection, if_neg fun hn => hc hn.1.symm]
      exact hn
  | clone =>
    refine .inl (isReferenced_mono hs (fun hn => ?_) fun _ hq hd => ⟨hq, hd⟩)
    rw [connection_withConnection]
    split
    · exact Nat.succ_pos _
    · exact hn
  | @connect s g i settings =>
    refine .inl (isReferenced_mono hs (fun hn => ?_) fun _ hq hd => ⟨hq, hd⟩)
    have hlt := lt_of_clones hn
    rw [connection_pushed, if_neg (Nat.ne_of_lt hlt)]
    exact hn
  | _ => exact .inl hs

/-- Nothing comes to refer to a connection that nothing referred to. -/
theorem Move.unreferenced {a b : Moment σ} (hm : Move E a b) (hc : c < a.store.connections.next)
    (hs : a.store.isReferenced c = false) : b.store.isReferenced c = false := by
  rw [← Bool.not_eq_true] at hs ⊢
  intro ht
  cases hm with
  | hold | queue | close =>
    refine hs (Eq.trans (Eq.symm ?_) ht)
    exact isReferenced_withProgram _ _ c fun _ => rfl
  | reorder | store | clear | deregister | take | release | retire | shut =>
    refine hs (Eq.trans (Eq.symm ?_) ht)
    exact isReferenced_withConnection _ _ c fun _ => rfl
  | @create s g k sql owed isOpen referenced =>
    have hne : c ≠ g.connection := by
      intro same
      subst same
      exact hs referenced
    refine hs (isReferenced_mono ht ?_ ?_)
    · intro hn
      rw [clones_created] at hn
      exact hn
    · intro p hp hd
      rw [program_created] at hp hd
      split at hp
      · exact absurd hp.symm hne
      · next hn =>
        rw [if_neg hn] at hd
        exact ⟨hp, hd⟩
  | @dropProgram s g p =>
    refine hs (isReferenced_mono ht id fun q hq hd => ?_)
    rw [program_withProgram] at hq hd
    split at hq
    · next hn =>
      rw [if_pos hn] at hd
      nomatch hd
    · next hn =>
      rw [if_neg hn] at hd
      exact ⟨hq, hd⟩
  | @dropClone s g =>
    refine hs (isReferenced_mono ht (fun hn => ?_) fun _ hq hd => ⟨hq, hd⟩)
    rw [connection_withConnection] at hn
    split at hn
    · exact Nat.lt_of_lt_of_le hn (Nat.sub_le ..)
    · exact hn
  | @clone s g referenced =>
    refine hs (isReferenced_mono ht (fun hn => ?_) fun _ hq hd => ⟨hq, hd⟩)
    have hne : c ≠ g.connection := by
      intro same
      subst same
      exact hs referenced
    rw [connection_withConnection, if_neg fun he => hne he.1] at hn
    exact hn
  | connect =>
    refine hs (isReferenced_mono ht (fun hn => ?_) fun _ hq hd => ⟨hq, hd⟩)
    rw [connection_pushed, if_neg (Nat.ne_of_lt hc)] at hn
    exact hn
  | _ => exact hs ht

/-- Before a move that leaves a statement loose, nothing referred to the connection if nothing
does afterwards. -/
theorem Move.unreferenced_before {a b : Moment σ} (hm : Move E a b)
    (hs : b.store.isReferenced c = false)
    (hn : ¬ (b.grip.leaving = true ∧ b.grip.connection = c ∧ a.grip.loose = [] ∧ b.grip.loose = [])) :
    a.store.isReferenced c = false := by
  rw [← Bool.not_eq_true] at hs ⊢
  intro ha
  exact (hm.isReferenced ha).elim hs hn

/-- Every connection without references is drained. -/
def Drained (s : Store σ) : Prop :=
  ∀ c, (s.connection c).Drained

theorem Drained.withConnection (hs : Drained s) {f : Connection → Connection}
    (hf : (f (s.connection c)).Drained) : Drained (s.withConnection c f) := by
  intro d
  rw [connection_withConnection]
  split
  · next hd =>
    rw [hd.1]
    exact hf
  · exact hs d

theorem Drained.step {a b : Moment σ} (ha : Drained a.store) (hk : Keyed a.store)
    (hm : Move E a b) : Drained b.store := by
  cases hm with
  | @reorder s g f same =>
    refine ha.withConnection fun hn => ⟨(ha _ hn).1, ?_⟩
    have hp := same (hk _)
    rw [(ha g.connection hn).2] at hp
    exact hp.eq_nil
  | store isOpen =>
    -- statements are stored in open connections only, and those have references
    apply ha.withConnection
    intro hn
    exact absurd (isOpen.symm.trans (ha _ hn).1) (by decide)
  | @clear s g f out empty parts =>
    refine ha.withConnection fun hn => ⟨(ha _ hn).1, List.eq_nil_iff_forall_not_mem.2 fun e he => ?_⟩
    have hl : e ∈ (s.connection g.connection).cache.entries := (parts (hk _)).mem_left he
    rw [(ha g.connection hn).2] at hl
    nomatch hl
  | deregister | dropClone | clone => exact ha.withConnection (ha _)
  | take => exact ha.withConnection fun hn => absurd hn (Nat.succ_ne_zero _)
  | release => exact ha.withConnection fun hn => absurd hn (Nat.succ_ne_zero _)
  | retire owed held drained => exact ha.withConnection fun _ => ⟨rfl, drained⟩
  | create => exact Drained.withConnection ha (ha _)
  | shut => exact ha.withConnection fun hn => ⟨rfl, (ha _ hn).2⟩
  | connect =>
    intro d
    rw [connection_pushed]
    split
    · exact fun hn => absurd hn Nat.one_ne_zero
    · exact ha d
  | _ => exact ha

/-- A connection that nothing refers to has references left, as long as it has statements
that are yet to be dealt with. -/
def Pending (m : Moment σ) : Prop :=
  m.grip.loose ≠ [] → m.store.isReferenced m.grip.connection = false →
    (m.store.connection m.grip.connection).references ≠ 0

theorem references_withConnection (s : Store σ) (c d : ConnectionId)
    {f : Connection → Connection} (hf : ∀ x, (f x).references = x.references) :
    ((s.withConnection c f).connection d).references = (s.connection d).references :=
  connection_part s c d (fun x => x.references) hf

theorem Pending.step {a b : Moment σ} (ha : Pending a) (hk : Keyed a.store)
    (hd : Drained a.store) (hm : Move E a b) : Pending b := by
  intro hl hu
  have hs := hm.unreferenced_before hu fun hn => hl hn.2.2.2
  cases hm with
  | @clear s g f out empty parts =>
    intro hn
    -- a drained cache has nothing that could leave it
    have hr : (s.connection g.connection).references = 0 := by
      refine Eq.trans (Eq.symm ?_) hn
      exact references_withConnection s _ _ fun _ => rfl
    obtain ⟨h, hh⟩ := List.exists_mem_of_ne_nil _ hl
    obtain ⟨key, hm, -⟩ := (parts (hk _)).mem_of_out (hk _) hh
    rw [(hd g.connection hr).2] at hm
    nomatch hm
  | leave next | destroyLoose next =>
    refine ha ?_ hs
    rw [show (⟨_, _⟩ : Moment σ).grip.loose = _ from next]
    exact List.cons_ne_nil _ _
  | take some referenced => exact absurd (hs.symm.trans referenced) (by decide)
  | @release s g n =>
    rw [connection_withConnection]
    split
    · exact Nat.succ_ne_zero _
    · exact ha hl hs
  | retire owed held drained referenced => exact absurd (hs.symm.trans referenced) (by decide)
  | @reorder s g f | @store s g _ _ | @deregister s g | @shut s g | @dropClone s g | @clone s g =>
    refine ne_of_eq_of_ne ?_ (ha hl hs)
    exact references_withConnection s _ _ fun _ => rfl
  | @create s g k sql =>
    refine ne_of_eq_of_ne ?_ (ha hl hs)
    exact connection_part _ g.connection _ (fun x => x.references) fun _ => rfl
  | connect =>
    rw [connection_pushed]
    split
    · exact Nat.one_ne_zero
    · exact ha hl hs
  | _ => exact ha hl hs

/-- The cache of a connection that nothing refers to is empty, or the operation that is to
empty it is at work. -/
def Vacant (m : Moment σ) : Prop :=
  ∀ c, m.store.isReferenced c = false →
    (m.store.connection c).cache.entries = [] ∨ m.grip.leaving = true ∧ m.grip.connection = c

/-- An empty cache of a connection that nothing refers to stays empty. -/
theorem Move.entries_nil {a b : Moment σ} (hm : Move E a b) (hk : Keyed a.store)
    (hs : a.store.isReferenced c = false) (hn : (a.store.connection c).cache.entries = []) :
    (b.store.connection c).cache.entries = [] := by
  have of_same {t : Store σ} (he : SameEntries a.store t) :
      (t.connection c).cache.entries = [] := by
    apply List.eq_nil_iff_forall_not_mem.2
    intro e hm
    have hm' := (he c e).1 hm
    rw [hn] at hm'
    nomatch hm'
  cases hm with
  | reorder same => exact of_same (.reorder (same (hk _)))
  | @store s g h sql isOpen referenced =>
    have hne : c ≠ g.connection := by
      intro same
      subst same
      exact absurd (hs.symm.trans referenced) (by decide)
    rw [cache_withCache, if_neg fun hc => hne hc.1]
    exact hn
  | @clear s g f out empty parts =>
    apply List.eq_nil_iff_forall_not_mem.2
    intro e he
    have hl : e ∈ (s.connection c).cache.entries := by
      rcases mem_withCache he with ⟨rfl, changed⟩ | old
      · exact (parts (hk _)).mem_left changed
      · exact old
    rw [hn] at hl
    nomatch hl
  | deregister | take | release | retire | shut | dropClone | clone =>
    exact of_same (.withConnection _ _ fun _ => rfl)
  | create => exact of_same (.created _ _ _)
  | connect => exact of_same (.connected _ rfl)
  | _ => exact hn

theorem Move.leaving {a b : Moment σ} (hm : Move E a b) (ha : a.grip.leaving = true)
    (hc : a.grip.connection = c) (hk : Keyed a.store) (hs : a.store.isReferenced c = false) :
    (b.store.connection c).cache.entries = [] ∨ b.grip.leaving = true ∧ b.grip.connection = c := by
  cases hm with
  | settle settled =>
    rcases settled with hr | hn
    · exact absurd (hs.symm.trans (hc ▸ hr)) (by decide)
    · exact .inl (hc ▸ hn)
  | dropProgram | dropClone => exact .inr ⟨rfl, hc⟩
  | _ => exact .inr ⟨ha, hc⟩

theorem Vacant.step {a b : Moment σ} (ha : Vacant a) (hk : Keyed a.store) (hm : Move E a b) :
    Vacant b := by
  intro c hb
  cases hs : a.store.isReferenced c with
  | true =>
    rcases hm.isReferenced hs with hr | ⟨hl, hc, -⟩
    · exact absurd (hb.symm.trans hr) (by decide)
    · exact .inr ⟨hl, hc⟩
  | false =>
    rcases ha c hs with hn | ⟨hl, hc⟩
    · exact .inl (hm.entries_nil hk hs hn)
    · exact hm.leaving hl hc hk hs

end Store

end Prepared
