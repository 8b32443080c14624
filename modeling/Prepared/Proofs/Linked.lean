import Prepared.Proofs.Store
import Prepared.Sql.Dialect

/-! Links of the dialect.

Preparing and running replace one link, which stays where it was, and what is committed at its
database. What a link meets there does not depend on the link itself. -/
namespace Prepared.Sql

namespace Surroundings

/-- What is met once a content was committed. -/
def commits (w : Surroundings) (content : Snapshot) : Surroundings :=
  { w with
    committed := if content.version = w.committed.version then w.committed else content }

theorem commits_self (w : Surroundings) : w.commits w.committed = w := by
  simp [commits]

end Surroundings

namespace Link

variable {l : Link}

/-- What no command changes: where the database is, and how it keeps its journal. -/
def fixed (l : Link) : Location × JournalMode :=
  (l.location, l.journal)

theorem fixed_see (s : Schema) : (l.see s).fixed = l.fixed := by
  unfold see expire
  dsimp only
  split <;> rfl

theorem fixed_prepare (w : Surroundings) (sql : String) : (l.prepare w sql).2.fixed = l.fixed := by
  unfold prepare
  split
  · rfl
  · dsimp only
    split
    · split
      · exact fixed_see _
      · rfl
    · rfl

theorem fixed_remember (text : String) (p : Plan) : (l.remember text p).fixed = l.fixed := by
  unfold remember
  split <;> rfl

theorem fixed_undo (t : Transaction) : (l.undo t).fixed = l.fixed := by
  unfold undo expire
  dsimp only
  split <;> rfl

theorem fixed_keep (t : Transaction) : (l.keep t).fixed = l.fixed := by
  unfold keep
  split <;> rfl

/-- What was prepared for a text is remembered, and has the titles that are given for it. -/
def adopt (text : String) (titles : Plan → List String) :
    Option (Plan × Nat) × Link → Option (Plan × List String) × Link
  | (some (p, _), l) => (some (p, titles p), l.remember text p)
  | (none, l) => (none, l)

theorem planFor_eq (l : Link) (w : Surroundings) (text : String) :
    l.planFor w text =
      match l.plans.peek? text with
      | some p =>
        if p.isExpired then adopt text (fun _ => p.titles) ((l.remember text p).prepare w text)
        else (some (p, p.titles), l.remember text p)
      | none => adopt text Plan.titles (l.prepare w text) :=
  rfl

theorem fixed_adopt (text : String) (titles : Plan → List String)
    (x : Option (Plan × Nat) × Link) : (adopt text titles x).2.fixed = x.2.fixed := by
  rcases x with ⟨_ | ⟨p, _⟩, l⟩
  · rfl
  · exact fixed_remember text p

theorem fixed_planFor (w : Surroundings) (text : String) : (l.planFor w text).2.fixed = l.fixed := by
  rw [planFor_eq]
  split
  · split
    · rw [fixed_adopt, fixed_prepare, fixed_remember]
    · exact fixed_remember ..
  · rw [fixed_adopt, fixed_prepare]

theorem fixed_fail (w : Surroundings) (c : Command) (reason : String) :
    (l.fail w c reason).2.1.fixed = l.fixed := rfl

theorem fixed_finish (w : Surroundings) (c : Command) (t : Transaction) (r : Result) :
    (l.finish w c t r).2.1.fixed = l.fixed := by
  unfold finish
  dsimp only
  split
  · exact fixed_keep t
  · split
    · rfl
    · exact fixed_undo t

theorem fixed_runOnTables (w : Surroundings) (parameters : List Value) (text : String) (p : Plan) :
    (l.runOnTables w parameters text p).2.1.fixed = l.fixed := by
  unfold runOnTables
  dsimp only
  split
  · rfl
  · split
    · rw [fixed_remember, fixed_keep, fixed_see]
    · split
      · rw [fixed_fail, fixed_keep, fixed_see]
      · split
        · rw [fixed_fail, fixed_keep, fixed_remember, fixed_keep, fixed_see]
        · split
          · rw [fixed_finish]
            show (Link.keep _ _).fixed = _
            rw [fixed_keep, fixed_remember, fixed_keep, fixed_see]
          · rw [fixed_fail, fixed_keep]
            show (Link.keep _ _).fixed = _
            rw [fixed_keep, fixed_remember, fixed_keep, fixed_see]

theorem fixed_run (w : Surroundings) (parameters : List Value) (text : String) (p : Plan) :
    (l.run w parameters text p).2.1.fixed = l.fixed := by
  unfold run
  dsimp only
  split
  · rfl
  · split <;> rfl
  · rfl
  · split <;> rfl
  · rfl
  · split <;> rfl
  · rfl
  · exact fixed_undo _
  · rfl
  · exact fixed_runOnTables ..

end Link

namespace Dialect

variable {s t : Dialect} {i j : EngineId} {l : Link}

theorem link_withLink (s : Dialect) (i j : EngineId) (l : Link) :
    (s.withLink i l).link j = if j = i ∧ i < s.links.next then l else s.link j :=
  Table.get_modify ..

@[simp] theorem next_withLink (s : Dialect) (i : EngineId) (l : Link) :
    (s.withLink i l).links.next = s.links.next :=
  Table.next_modify ..

theorem links_commit (s : Dialect) (location : Location) (content : Snapshot) :
    (s.commit location content).links = s.links := by
  unfold commit
  split <;> rfl

theorem link_withLink_commit (link : i < s.links.next) (l : Link) (place : Location)
    (content : Snapshot) : ((s.withLink i l).commit place content).link i = l :=
  (congrArg (fun t => t.get i) (links_commit ..)).trans
    ((link_withLink ..).trans (if_pos ⟨rfl, link⟩))

theorem withLink_self (s : Dialect) (i : EngineId) : s.withLink i (s.link i) = s := by
  unfold withLink
  rw [Table.modify_congr (g := fun l => l) rfl, Table.modify_id]

theorem withLink_withLink (s : Dialect) (i : EngineId) (l m : Link) :
    (s.withLink i l).withLink i m = s.withLink i m := by
  unfold withLink
  rw [Table.modify_modify]

/-- What a link meets is what is committed, and the transactions of other links. -/
theorem surroundings_congr (databases : t.databases = s.databases)
    (next : t.links.next = s.links.next) (own : (t.link i).fixed = (s.link i).fixed)
    (others : ∀ j, j ≠ i → (t.link j).location = (s.link j).location ∧
      (t.link j).transaction = (s.link j).transaction) :
    t.surroundings i = s.surroundings i := by
  obtain ⟨location, journal⟩ := Prod.mk.inj own
  unfold surroundings around committed Table.positions
  rw [databases, next, location, journal, List.filterMap_filter, List.filterMap_filter]
  congr 2
  funext j
  by_cases other : j = i
  · simp [other]
  · rw [(others j other).1, (others j other).2]

/-- What a link meets does not depend on the link itself. -/
theorem surroundings_withLink (own : l.fixed = (s.link i).fixed) :
    (s.withLink i l).surroundings i = s.surroundings i := by
  refine surroundings_congr rfl (next_withLink ..) ?_ fun j other => ?_
  · rw [link_withLink]
    split
    · exact own
    · rfl
  · rw [link_withLink, if_neg fun h => other h.1]
    exact ⟨rfl, rfl⟩

theorem committed_commit (s : Dialect) (location : Location) (content : Snapshot) :
    (s.commit location content).committed location =
      if content.version = (s.committed location).version then s.committed location
      else content := by
  unfold commit
  split
  · rfl
  · simp [committed]

theorem surroundings_commit (s : Dialect) (i : EngineId) (content : Snapshot) :
    (s.commit (s.link i).location content).surroundings i =
      (s.surroundings i).commits content := by
  have link (j : EngineId) : (s.commit (s.link i).location content).link j = s.link j :=
    congrArg (fun t => t.get j) (links_commit ..)
  unfold surroundings around Surroundings.commits
  simp only [link, links_commit, committed_commit]

/-- What a link meets once it was replaced, and a content was committed at its database. -/
theorem surroundings_withLink_commit (link : i < s.links.next)
    (own : l.fixed = (s.link i).fixed) (content : Snapshot) :
    ((s.withLink i l).commit (s.link i).location content).surroundings i =
      (s.surroundings i).commits content := by
  have mine : (s.withLink i l).link i = l := (link_withLink ..).trans (if_pos ⟨rfl, link⟩)
  have after := surroundings_commit (s.withLink i l) i content
  rw [mine, (Prod.mk.inj own).1, surroundings_withLink own] at after
  exact after

/-- Preparing a text leaves another link. -/
theorem prepare_snd (s : Dialect) (i : EngineId) (sql : String) :
    (s.prepare i sql).2 = s.withLink i ((s.link i).prepare (s.surroundings i) sql).2 := by
  unfold prepare
  rcases (s.link i).prepare (s.surroundings i) sql with ⟨_ | _, _⟩ <;> rfl

/-- A run leaves another link, and what it commits in the place of the database. -/
theorem run_eq (s : Dialect) (i : EngineId) (p : Fetched) :
    s.run i p =
      (((s.link i).run (s.surroundings i) p.parameters p.text p.plan).1,
        (s.withLink i ((s.link i).run (s.surroundings i) p.parameters p.text p.plan).2.1).commit
          (s.link i).location
          ((s.link i).run (s.surroundings i) p.parameters p.text p.plan).2.2) := by
  have own := Link.fixed_run (l := s.link i) (s.surroundings i) p.parameters p.text p.plan
  rw [← (Prod.mk.inj own).1]
  rfl

end Dialect

end Prepared.Sql
