import Prepared.Proofs.Opening
import Prepared.Proofs.Shape
import Prepared.Proofs.Steady
import Prepared.Proofs.Twin

/-! The only link to a database.

The dialect is read without the tables as its links last read them. Where a link is the only one
that uses its database, preparing a text changes nothing that is seen then, and a text is run with
the same values to the same effect. So the library of the dialect is one that goes by what is in
its databases. -/
namespace Prepared.Sql

/-- Links with the same core are at the same place. -/
theorem Link.Twin.fixed {l m : Link} {w : Surroundings} (h : l.Twin m w) : l.fixed = m.fixed := by
  have same : l.core.fixed = m.core.fixed := by rw [h.core]
  exact same

/-- A text has the number of parameters that is read off it. -/
theorem Link.count_prepare {l : Link} {w : Surroundings} {sql : String} {p : Plan} {n : Nat}
    (prepared : (l.prepare w sql).1 = some (p, n)) :
    ∃ c, Command.ofString? sql = some (c, n) := by
  unfold Link.prepare at prepared
  cases read : Command.ofString? sql with
  | none =>
    rw [read] at prepared
    nomatch prepared
  | some e =>
    obtain ⟨c, count⟩ := e
    rw [read] at prepared
    refine ⟨c, ?_⟩
    dsimp only at prepared
    split at prepared
    · split at prepared
      · split at prepared
        · cases prepared
          rfl
        · nomatch prepared
      · nomatch prepared
    · cases prepared
      rfl

namespace Dialect

variable {s t u : Dialect} {i : EngineId} {l m : Link} {d : Snapshot}

/-- The dialect with the cores of its links. -/
def core (s : Dialect) : Dialect :=
  { s with links := s.links.map Link.core }

@[simp] theorem next_core (s : Dialect) : s.core.links.next = s.links.next :=
  Table.next_map ..

theorem link_core (s : Dialect) (i : EngineId) : s.core.link i = (s.link i).core :=
  Table.get_map s.links rfl i

theorem core_withLink (s : Dialect) (i : EngineId) (l : Link) :
    (s.withLink i l).core = s.core.withLink i l.core := by
  unfold withLink core
  rw [Table.map_modify s.links i (k := fun _ => l.core) fun _ => rfl]

theorem core_commit (s : Dialect) (location : Location) (content : Snapshot) :
    (s.commit location content).core = s.core.commit location content := by
  unfold commit
  split
  · next same => exact (if_pos same).symm
  · next other => exact (if_neg other).symm

theorem surroundings_core (s : Dialect) (i : EngineId) :
    s.core.surroundings i = s.surroundings i := by
  refine surroundings_congr rfl (next_core s) ?_ fun j _ => ?_
  · rw [link_core]
    rfl
  · rw [link_core]
    exact ⟨rfl, rfl⟩

/-- The only link that uses its database. -/
structure Sole (s : Dialect) (i : EngineId) : Prop where
  link : i < s.links.next
  alone : (s.link i).Alone (s.surroundings i)

namespace Sole

theorem withLink (h : Sole s i) (own : l.fixed = (s.link i).fixed)
    (alone : l.Alone (s.surroundings i)) : Sole (s.withLink i l) i where
  link := by
    rw [next_withLink]
    exact h.link
  alone := by
    rw [surroundings_withLink own, link_withLink, if_pos ⟨rfl, h.link⟩]
    exact alone

theorem withLink_commit (h : Sole s i) (own : l.fixed = (s.link i).fixed)
    (alone : l.Alone ((s.surroundings i).commits d)) :
    Sole ((s.withLink i l).commit (s.link i).location d) i where
  link := by
    rw [links_commit, next_withLink]
    exact h.link
  alone := by
    rw [surroundings_withLink_commit h.link own, link_withLink_commit h.link]
    exact alone

end Sole

/-- Two states of the dialect in which a link is alone at its database, and which differ only in
what links remember of tables. -/
structure Same (i : EngineId) (s t : Dialect) : Prop where
  left : Sole s i
  right : Sole t i
  core : s.core = t.core

namespace Same

theorem symm (h : Same i s t) : Same i t s :=
  ⟨h.right, h.left, h.core.symm⟩

theorem trans (h : Same i s t) (k : Same i t u) : Same i s u :=
  ⟨h.left, k.right, h.core.trans k.core⟩

theorem surroundings (h : Same i s t) : t.surroundings i = s.surroundings i := by
  rw [← surroundings_core, ← h.core, surroundings_core]

theorem twin (h : Same i s t) : (s.link i).Twin (t.link i) (s.surroundings i) where
  left := h.left.alone
  right := h.surroundings ▸ h.right.alone
  core := by rw [← link_core, ← link_core, h.core]

/-- The link is replaced in both. -/
theorem withLink (h : Same i s t) (twin : l.Twin m (s.surroundings i))
    (own : l.fixed = (s.link i).fixed) : Same i (s.withLink i l) (t.withLink i m) where
  left := h.left.withLink own twin.left
  right := by
    refine h.right.withLink ?_ ?_
    · rw [← twin.fixed, own, h.twin.fixed]
    · rw [h.surroundings]
      exact twin.right
  core := by rw [core_withLink, core_withLink, h.core, twin.core]

/-- The link is replaced in both, and the same content committed at its database. -/
theorem withLink_commit (h : Same i s t) (twin : l.Twin m ((s.surroundings i).commits d))
    (own : l.fixed = (s.link i).fixed) :
    Same i ((s.withLink i l).commit (s.link i).location d)
      ((t.withLink i m).commit (t.link i).location d) where
  left := h.left.withLink_commit own twin.left
  right := by
    refine h.right.withLink_commit ?_ ?_
    · rw [← twin.fixed, own, h.twin.fixed]
    · rw [h.surroundings]
      exact twin.right
  core := by
    have location : (s.link i).location = (t.link i).location := (Prod.mk.inj h.twin.fixed).1
    rw [core_commit, core_commit, core_withLink, core_withLink, h.core, twin.core, location]

theorem prepare (h : Same i s t) (sql : String) : Same i s (t.prepare i sql).2 := by
  rw [prepare_snd, ← s.withLink_self i, h.surroundings]
  exact h.withLink (Link.twin_prepare h.twin sql) rfl

/-- Both give the same statement for a text, or refuse it in the same words. -/
theorem fetch (h : Same i s t) (sql : String) :
    (s.fetch i sql).1 = (t.fetch i sql).1 ∧ Same i (s.fetch i sql).2 (t.fetch i sql).2 := by
  obtain ⟨same, twin⟩ := h.twin.planFor (Text.trim sql)
  have own := Link.fixed_planFor (l := s.link i) (s.surroundings i) (Text.trim sql)
  unfold Dialect.fetch
  rw [h.surroundings]
  dsimp only
  rcases hl : (s.link i).planFor (s.surroundings i) (Text.trim sql) with ⟨x, l⟩
  rcases hm : (t.link i).planFor (s.surroundings i) (Text.trim sql) with ⟨y, m⟩
  rw [hl, hm] at same twin
  rw [hl] at own
  cases same
  cases x with
  | none => exact ⟨rfl, h.withLink twin own⟩
  | some found => exact ⟨rfl, h.withLink twin own⟩

/-- Both run a statement to the same effect. -/
theorem run (h : Same i s t) (p : Fetched) :
    (s.run i p).1 = (t.run i p).1 ∧ Same i (s.run i p).2 (t.run i p).2 := by
  obtain ⟨result, committed, twin⟩ := h.twin.run p.parameters p.text p.plan
  rw [run_eq, run_eq, h.surroundings, ← committed]
  exact ⟨result, h.withLink_commit twin (Link.fixed_run ..)⟩

/-- They count the same rows. -/
theorem changes (h : Same i s t) : (s.link i).changes = (t.link i).changes :=
  h.twin.changes

theorem execute (h : Same i s t) (p : Fetched) :
    (s.execute i p).1 = (t.execute i p).1 ∧ Same i (s.execute i p).2 (t.execute i p).2 := by
  obtain ⟨result, after⟩ := h.run p
  unfold Dialect.execute
  rcases hs : s.run i p with ⟨x, s'⟩
  rcases ht : t.run i p with ⟨y, t'⟩
  rw [hs, ht] at result after
  cases result
  cases x with
  | error reason => exact ⟨rfl, after⟩
  | ok rows => exact ⟨congrArg (fun n => Except.ok (UInt64.ofNat n)) after.changes, after⟩

/-- The same rows are read. -/
theorem cursor (h : Same i s t) (rows : List (List Value)) :
    Cursor.Alike (Same i) (Dialect.cursor rows s) (Dialect.cursor rows t) := by
  induction rows with
  | nil => exact .finished h
  | cons values rows ih => exact .row _ h ih

theorem query (h : Same i s t) (p : Fetched) :
    Cursor.Alike (Same i) (s.query i p) (t.query i p) := by
  obtain ⟨result, after⟩ := h.run p
  unfold Dialect.query
  rcases hs : s.run i p with ⟨x, s'⟩
  rcases ht : t.run i p with ⟨y, t'⟩
  rw [hs, ht] at result after
  cases result
  cases x with
  | error reason => exact .failed reason after
  | ok rows => exact after.cursor rows

end Same

/-- The number of parameters of a text, whether or not it can be run. -/
def count (sql : String) : Nat :=
  match Command.ofString? sql with
  | some (_, n) => n
  | none => 0

/-- A text has one number of parameters, whatever the tables are. -/
theorem counts : library.Counts count := by
  intro i sql s n prepared
  change (s.prepare i sql).1 = .ok n at prepared
  unfold Dialect.prepare at prepared
  split at prepared
  · nomatch prepared
  · next read =>
    cases prepared
    obtain ⟨c, known⟩ := Link.count_prepare (congrArg Prod.fst read)
    simp only [count, known]

/-- The dialect, for one link. -/
def terms (i : EngineId) : Terms library where
  engine := i
  count
  Same := Same i
  Alike p q := p = q

/-- Two results that are equal are alike. -/
theorem both_of_eq {ε α : Type} {x y : Except ε α} (same : x = y) : Both (fun a b => a = b) x y := by
  cases same
  cases x with
  | ok a => exact .ok rfl
  | error e => exact .error e

/-- The dialect goes by what is in its databases, where a link is alone. -/
theorem laws (i : EngineId) : (terms i).Laws where
  counts := counts
  symm := Same.symm
  trans := Same.trans
  prepare sql h := h.prepare sql
  fetch sql h := by
    obtain ⟨result, after⟩ := Same.fetch h sql
    exact ⟨both_of_eq result, after⟩
  bind position value alike := by
    cases alike
    exact both_of_eq rfl
  titles alike := congrArg Fetched.titles alike
  execute alike h := by
    cases alike
    exact Same.execute h _
  query alike h := by
    cases alike
    exact Same.query h _

/-! Links are alone at their databases when they are opened. -/

/-- A new link without a transaction is alone at its database if no other link has one there,
and what it knows of the tables is right. -/
theorem Sole.of_push {l : Link} (idle : l.transaction = none)
    (others : ∀ j < s.links.next, (s.link j).location = l.location → (s.link j).transaction = none)
    (named : (s.committed l.location).content.Named)
    (seen : ∀ x, l.schema = some x → x = (s.committed l.location).content.schema)
    (read : (s.committed l.location).content.schema ≠ [] → l.hasRead = true) :
    Sole { s with links := s.links.push l } s.links.next := by
  let t : Dialect := { s with links := s.links.push l }
  have link (j : EngineId) : t.link j = if j = s.links.next then l else s.link j :=
    Table.get_push ..
  have own : t.link s.links.next = l := (link _).trans (if_pos rfl)
  have committed : (t.surroundings s.links.next).committed = s.committed l.location := by
    unfold Dialect.surroundings around
    rw [own]
    rfl
  have content : (t.link s.links.next).content (t.surroundings s.links.next) =
      (s.committed l.location).content := by
    rw [own]
    unfold Link.content Transaction.content
    rw [idle, committed]
    rfl
  refine ⟨?_, ?_, ?_, ?_, ?_, ?_⟩
  · show s.links.next < (s.links.push l).next
    rw [Table.next_push]
    exact Nat.lt_succ_self _
  · refine List.filterMap_eq_nil_iff.2 fun j hj => ?_
    have other : j ≠ s.links.next := by simpa using (List.mem_filter.1 hj).2
    rw [own, link, if_neg other]
    split
    · next here =>
      rcases Nat.lt_or_ge j s.links.next with old | absent
      · exact others j old here
      · unfold Dialect.link
        rw [Table.get_of_le _ absent]
        rfl
    · rfl
  · rw [committed]
    exact named
  · rw [own, idle]
    exact .default ..
  · intro x hx
    rw [own] at hx
    rw [content]
    exact seen x hx
  · intro some
    rw [content] at some
    rw [own]
    exact read some

/-- A link to a database in memory, where nothing was committed. -/
theorem Sole.openMemory (s : Server)
    (others : ∀ j < s.library.links.next,
      (s.library.link j).location = .own s.library.links.next →
        (s.library.link j).transaction = none)
    (empty : (s.library.committed (.own s.library.links.next)).content = []) :
    Sole s.openMemory.2.library s.openMemory.1 := by
  refine .of_push rfl others ?_ nofun fun some => absurd ?_ some
  · show (s.library.committed (.own s.library.links.next)).content.Named
    rw [empty]
    exact .nil
  · show (s.library.committed (.own s.library.links.next)).content.schema = []
    rw [empty]
    rfl

/-- A link to a database in a file, whatever tables there are. -/
theorem Sole.openFile {s : Server} {f : FileSettings} (opened : (s.openFile f).1 = .ok i)
    (others : ∀ j < s.library.links.next, (s.library.link j).transaction = none)
    (named : ∀ location, (s.library.committed location).content.Named) :
    Sole (s.openFile f).2.library i := by
  obtain ⟨tree, ⟨e, failed⟩ | ⟨l, informed, run⟩⟩ := s.openFile_cases f
  · rw [failed] at opened
    cases opened
  · rw [run] at opened ⊢
    cases opened
    refine .of_push informed.idle (fun j hj _ => others j hj) (named _) (fun x known => ?_) ?_
    · exact (Option.some.inj (informed.schema.symm.trans known)).symm
    · intro some
      rw [informed.hasRead]
      simpa using fun none => some (List.map_eq_nil_iff.2 none)

end Dialect

end Prepared.Sql
