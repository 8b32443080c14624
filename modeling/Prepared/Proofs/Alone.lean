import Prepared.Proofs.Database
import Prepared.Proofs.Linked

/-! Links that are alone at their database.

What a link remembers of its tables is up to date as long as no other link changes the
database. Then preparing a text may read the tables, but that tells the link nothing new. -/
namespace Prepared.Sql

namespace Transaction

variable {t u : Transaction} {w : Surroundings} {hasRead : Bool}

/-- The tables that a transaction sees or would see now. -/
def content (t : Transaction) (w : Surroundings) : Database :=
  (t.view.getD w.committed).content

/-- A transaction that sees what is committed, with its own changes: it has the columns of the
committed tables unless it has made or removed tables, and then its link has read some. -/
structure Fits (t : Transaction) (committed : Snapshot) (hasRead : Bool) : Prop where
  version : ∀ v, t.view = some v → v.version = committed.version
  named : ∀ v, t.view = some v → v.content.Named
  calm : ∀ v, t.view = some v → t.altered = false → v.content.schema = committed.content.schema
  altered : t.altered = true → hasRead = true ∧ t.wrote = true

namespace Fits

theorem default (committed : Snapshot) (hasRead : Bool) : Fits {} committed hasRead :=
  ⟨nofun, nofun, nofun, nofun⟩

/-- A link may read more tables. -/
theorem read (h : t.Fits w.committed hasRead) (more : Bool) :
    t.Fits w.committed (hasRead || more) where
  version := h.version
  named := h.named
  calm := h.calm
  altered hu := by
    obtain ⟨read, wrote⟩ := h.altered hu
    exact ⟨by rw [read, Bool.true_or], wrote⟩

/-- What a transaction claims is no matter. -/
theorem congr (h : t.Fits w.committed hasRead) (view : u.view = t.view)
    (wrote : u.wrote = t.wrote) (altered : u.altered = t.altered) :
    u.Fits w.committed hasRead := by
  obtain ⟨version, named, calm, changes⟩ := h
  constructor
  · rw [view]
    exact version
  · rw [view]
    exact named
  · rw [view, altered]
    exact calm
  · rw [altered, wrote]
    exact changes

theorem look? (h : t.Fits w.committed hasRead) (named : w.committed.content.Named)
    (looked : t.look? w = some u) :
    u.Fits w.committed hasRead ∧ u.content w = t.content w ∧ u.view.isSome := by
  unfold Transaction.look? at looked
  split at looked
  · next v hv =>
    rw [← Option.some.inj looked]
    exact ⟨h, rfl, by rw [hv]; rfl⟩
  · next none =>
    split at looked
    · rw [← Option.some.inj looked]
      refine ⟨⟨?_, ?_, ?_, h.altered⟩, ?_, rfl⟩
      · intro v hv
        rw [← Option.some.inj hv]
      · intro v hv
        rw [← Option.some.inj hv]
        exact named
      · intro v hv _
        rw [← Option.some.inj hv]
      · simp [Transaction.content, none]
    · nomatch looked

theorem claim? (h : t.Fits w.committed hasRead) (named : w.committed.content.Named)
    (claimed : t.claim? w = some u) :
    u.Fits w.committed hasRead ∧ u.content w = t.content w ∧ u.view.isSome := by
  unfold Transaction.claim? at claimed
  simp only [Option.bind_eq_bind, Option.bind_eq_some_iff, Option.pure_def] at claimed
  obtain ⟨v, looked, claimed⟩ := claimed
  obtain ⟨fits, same, view⟩ := h.look? named looked
  split at claimed
  · rw [← Option.some.inj claimed]
    exact ⟨fits, same, view⟩
  · split at claimed
    · nomatch claimed
    · split at claimed
      · rw [← Option.some.inj claimed]
        exact ⟨fits.congr rfl rfl rfl, same, view⟩
      · nomatch claimed

/-- Getting ready for a command changes nothing that is seen. -/
theorem acquire? (h : t.Fits w.committed hasRead) (named : w.committed.content.Named)
    {a : Access} (acquired : t.acquire? w a = some u) :
    u.Fits w.committed hasRead ∧ u.content w = t.content w ∧ (a ≠ .none → u.view.isSome) := by
  cases a with
  | none =>
    rw [← Option.some.inj acquired]
    exact ⟨h, rfl, nofun⟩
  | reads =>
    obtain ⟨fits, same, view⟩ := h.look? named acquired
    exact ⟨fits, same, fun _ => view⟩
  | writes =>
    obtain ⟨fits, same, view⟩ := h.claim? named acquired
    exact ⟨fits, same, fun _ => view⟩

theorem content_named (h : t.Fits w.committed hasRead) (named : w.committed.content.Named) :
    (t.content w).Named := by
  unfold Transaction.content
  cases hv : t.view with
  | none => exact named
  | some v => exact h.named v hv

/-- What a command that begins a transaction asks for changes nothing that is seen. -/
theorem secure (h : t.Fits w.committed hasRead) (named : w.committed.content.Named)
    (claim : Claim) :
    (t.secure w claim).2.Fits w.committed hasRead ∧
      (t.secure w claim).2.content w = t.content w := by
  cases claim with
  | deferred => exact ⟨h, rfl⟩
  | immediate =>
    unfold Transaction.secure
    cases claimed : t.claim? w with
    | none => exact ⟨h, rfl⟩
    | some u =>
      obtain ⟨fits, same, -⟩ := h.claim? named claimed
      exact ⟨fits, same⟩
  | exclusive =>
    unfold Transaction.secure
    cases claimed : t.claim? w with
    | none => exact ⟨h, rfl⟩
    | some u =>
      obtain ⟨fits, same, -⟩ := h.claim? named claimed
      dsimp only
      split
      · exact ⟨h, rfl⟩
      · split
        · exact ⟨fits.congr rfl rfl rfl, same⟩
        · dsimp only
          split
          · exact ⟨h.congr rfl rfl rfl, rfl⟩
          · exact ⟨h, rfl⟩

/-- What a command does to the tables that a transaction sees it does to the transaction. -/
theorem record (h : t.Fits w.committed hasRead) (c : Command) (ps : List Value)
    (named : w.committed.content.Named)
    (read : t.content w ≠ [] → hasRead = true) :
    (t.record (c.runOn (t.content w) ps) c.alters).Fits w.committed
      (hasRead || !(c.runOn (t.content w) ps).content.isEmpty) := by
  have leaves := Command.leaves_runOn (h.content_named named) ps c
  have viewed {v : Snapshot} (hv : (t.record (c.runOn (t.content w) ps) c.alters).view = some v) :
      ∃ u, t.view = some u ∧ { u with content := (c.runOn (t.content w) ps).content } = v := by
    simpa [Transaction.record] using hv
  constructor
  · intro v hv
    obtain ⟨u, hu, rfl⟩ := viewed hv
    exact h.version u hu
  · intro v hv
    obtain ⟨u, hu, rfl⟩ := viewed hv
    exact leaves.named
  · intro v hv calm
    obtain ⟨u, hu, rfl⟩ := viewed hv
    obtain ⟨before, now⟩ := Bool.or_eq_false_iff.1 calm
    have content : t.content w = u.content := by simp [Transaction.content, hu]
    exact (leaves.schema now).trans (content ▸ h.calm u hu before)
  · intro altered
    rcases Bool.or_eq_true_iff.1 altered with before | now
    · obtain ⟨read, wrote⟩ := h.altered before
      exact ⟨by rw [read, Bool.true_or], by simp [Transaction.record, wrote]⟩
    · refine ⟨?_, ?_⟩
      · rcases leaves.tables now with some | some
        · rw [read some, Bool.true_or]
        · simp [some]
      · have wrote := (Bool.and_eq_true_iff.1 now).2
        simp [Transaction.record, wrote]

/-- A commitment leaves the tables that the transaction saw, as far as their columns go. -/
theorem commit? (h : t.Fits w.committed hasRead) (named : w.committed.content.Named)
    {d : Snapshot} (committed : t.commit? w = some d) :
    (w.commits d).committed.content.Named ∧
    (w.commits d).committed.content.schema = (t.content w).schema := by
  unfold Transaction.commit? at committed
  split at committed
  · nomatch committed
  · cases hv : t.view with
    | none =>
      rw [hv] at committed
      rw [← Option.some.inj committed, Surroundings.commits_self]
      exact ⟨named, by simp [Transaction.content, hv]⟩
    | some v =>
      have content : t.content w = v.content := by simp [Transaction.content, hv]
      rw [hv] at committed
      dsimp only at committed
      split at committed
      · have new : (w.commits d).committed.content = v.content := by
          rw [← Option.some.inj committed]
          simp [Surroundings.commits, h.version v hv]
        rw [new, content]
        exact ⟨h.named v hv, rfl⟩
      · next unwritten =>
        rw [← Option.some.inj committed, Surroundings.commits_self, content]
        refine ⟨named, (h.calm v hv ?_).symm⟩
        rw [← Bool.not_eq_true]
        exact fun altered => unwritten (h.altered altered).2

end Fits

/-- Nobody keeps a transaction from looking where there is no other. -/
theorem visible?_alone (alone : w.others = []) (t : Transaction) :
    t.visible? w = some (t.content w) := by
  unfold visible? content
  cases t.view with
  | none => simp [Surroundings.isOpen, alone]
  | some v => rfl

/-- Nobody keeps a transaction from committing where there is no other. -/
theorem commit?_alone (alone : w.others = []) (t : Transaction) : (t.commit? w).isSome := by
  have free : w.isFree = true := by simp [Surroundings.isFree, alone]
  unfold commit?
  rw [free]
  cases t.view with
  | none => simp
  | some v =>
    cases t.wrote <;> simp

end Transaction

namespace Link

variable {l m : Link} {w : Surroundings} {t : Transaction}

/-- The tables that a link sees or would see now. -/
def content (l : Link) (w : Surroundings) : Database :=
  (l.transaction.getD {}).content w

/-- A link that is alone at its database: what it remembers of the tables is up to date. -/
structure Alone (l : Link) (w : Surroundings) : Prop where
  others : w.others = []
  named : w.committed.content.Named
  fits : (l.transaction.getD {}).Fits w.committed l.hasRead
  seen : ∀ s, l.schema = some s → s = (l.content w).schema
  /-- It knows that there are tables if there are any. -/
  read : (l.content w).schema ≠ [] → l.hasRead = true

namespace Alone

/-- Plans and counts are no matter. -/
theorem congr (h : l.Alone w) (transaction : m.transaction = l.transaction)
    (schema : m.schema = l.schema) (hasRead : m.hasRead = l.hasRead) : m.Alone w := by
  obtain ⟨others, named, fits, seen, read⟩ := h
  unfold content at seen read
  refine ⟨others, named, ?_, ?_, ?_⟩
  · rw [transaction, hasRead]
    exact fits
  · unfold content
    rw [transaction, schema]
    exact seen
  · unfold content
    rw [transaction, hasRead]
    exact read

/-- Looking at the tables tells such a link nothing new. -/
theorem see_eq (h : l.Alone w) :
    l.see (l.content w).schema = { l with schema := some (l.content w).schema } := by
  have known : (l.schema.all fun s => decide (s = (l.content w).schema)) = true := by
    cases hs : l.schema with
    | none => rfl
    | some s => simpa using h.seen s hs
  have read : (l.hasRead || !(l.content w).schema.isEmpty) = l.hasRead := by
    cases hc : (l.content w).schema with
    | nil => simp
    | cons => simp [h.read (by simp [hc])]
  simp [Link.see, known, read]

theorem see (h : l.Alone w) : (l.see (l.content w).schema).Alone w := by
  rw [h.see_eq]
  exact ⟨h.others, h.named, h.fits, fun s hs => (Option.some.inj hs).symm, h.read⟩

theorem remember (h : l.Alone w) (text : String) (p : Plan) : (l.remember text p).Alone w := by
  unfold Link.remember
  split
  · exact h
  · exact h.congr rfl rfl rfl

/-- A transaction with the same columns may take the place of the present one. -/
theorem withTransaction (h : l.Alone w) (fits : t.Fits w.committed l.hasRead)
    (same : (t.content w).schema = (l.content w).schema) :
    Alone { l with transaction := some t } w := by
  refine ⟨h.others, h.named, fits, fun s hs => ?_, fun some => h.read ?_⟩
  · rw [h.seen s hs]
    exact same.symm
  · rw [← same]
    exact some

theorem keep (h : l.Alone w) (fits : t.Fits w.committed l.hasRead)
    (same : (t.content w).schema = (l.content w).schema) : (l.keep t).Alone w := by
  unfold Link.keep
  split
  · exact h.withTransaction fits same
  · exact h

/-- What the link has seen are the tables of its own transaction. -/
theorem of_transaction (h : l.Alone w) (own : l.transaction = some t) :
    t.Fits w.committed l.hasRead ∧ (∀ s, l.schema = some s → s = (t.content w).schema) ∧
      ((t.content w).schema ≠ [] → l.hasRead = true) := by
  have mine : l.transaction.getD {} = t := by rw [own]; rfl
  have seen := h.seen
  have read := h.read
  unfold content at seen read
  rw [mine] at seen read
  exact ⟨mine ▸ h.fits, seen, read⟩

/-- Without its transaction a link sees what is committed, unless that made or removed
tables. -/
theorem undo (h : l.Alone w) (own : l.transaction = some t) : (l.undo t).Alone w := by
  obtain ⟨fits, seen, read⟩ := h.of_transaction own
  unfold Link.undo
  dsimp only
  split
  · next altered =>
    exact ⟨h.others, h.named, .default .., nofun, fun _ => (fits.altered altered).1⟩
  · next unaltered =>
    have same : (t.content w).schema = w.committed.content.schema := by
      cases hv : t.view with
      | none => simp [Transaction.content, hv]
      | some v =>
        simpa [Transaction.content, hv] using fits.calm v hv (eq_false_of_ne_true unaltered)
    exact ⟨h.others, h.named, .default .., fun s hs => (seen s hs).trans same, same ▸ read⟩

/-- What is committed then is what the link has seen. -/
theorem commit (h : l.Alone w) (own : l.transaction = some t) {d : Snapshot}
    (committed : t.commit? w = some d) :
    Alone { l with transaction := none } (w.commits d) := by
  obtain ⟨fits, seen, read⟩ := h.of_transaction own
  obtain ⟨named, schema⟩ := fits.commit? h.named committed
  exact ⟨h.others, named, .default .., fun s hs => (seen s hs).trans schema.symm, schema ▸ read⟩

end Alone

/-- Preparing reads the tables as they are. -/
theorem prepare_alone (h : l.Alone w) (sql : String) :
    l.prepare w sql =
      match Command.ofString? sql with
      | none => (none, l)
      | some (c, count) =>
        let s := (l.content w).schema
        if c.needsSchema then
          (if (c.misfit? s).isNone then some (c.plan s, count) else none, l.see s)
        else (some (c.plan [], count), l) := by
  have read : l.readSchema? w = some (l.content w).schema := by
    unfold readSchema?
    rw [Transaction.visible?_alone h.others]
    rfl
  unfold prepare
  cases Command.ofString? sql with
  | none => rfl
  | some e =>
    obtain ⟨c, count⟩ := e
    cases hs : l.schema with
    | none => simp [read]
    | some s =>
      have up := h.seen s hs
      simp [read, up]

end Link

end Prepared.Sql
