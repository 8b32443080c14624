import Prepared.Sql.Plan

/-! Databases under commands.

The tables of a database have different names, and commands keep it so. A command that neither
makes nor removes a table leaves the columns of all tables as they are. -/
namespace Prepared.Sql

theorem sameName_iff {s t : String} :
    sameName s t = true ↔ Command.upper s = Command.upper t :=
  beq_iff_eq

namespace Database

variable {db : Database} {table : String} {r r' : Relation}

/-- Different tables have different names, whatever the case of their letters. -/
def Named (db : Database) : Prop :=
  db.Pairwise fun a b => sameName a.1 b.1 = false

/-- Whether tables are named depends on their names alone. -/
theorem named_iff : db.Named ↔ (db.map (·.1)).Pairwise fun a b => sameName a b = false := by
  rw [List.pairwise_map]
  rfl

theorem Named.set (h : db.Named) (table : String) (r : Relation) : (db.set table r).Named := by
  have names : (db.set table r).map (·.1) = db.map (·.1) := by
    unfold Database.set
    rw [List.map_map]
    apply List.map_congr_left
    intro e _
    simp only [Function.comp_apply]
    split <;> rfl
  rw [named_iff, names, ← named_iff]
  exact h

theorem Named.erase (h : db.Named) (table : String) : (db.erase table).Named :=
  h.sublist List.filter_sublist

theorem find?_eq_none : db.find? table = none ↔ ∀ e ∈ db, sameName e.1 table = false := by
  simp [Database.find?, List.find?_eq_none]

theorem Named.create (h : db.Named) (absent : db.find? table = none) (r : Relation) :
    Named (db ++ [(table, r)]) := by
  refine List.pairwise_append.2 ⟨h, List.pairwise_singleton .., ?_⟩
  intro e he f hf
  rw [List.mem_singleton.1 hf]
  exact find?_eq_none.1 absent e he

/-- Removing a table that does not exist changes nothing. -/
theorem erase_of_absent (absent : db.find? table = none) : db.erase table = db := by
  refine List.filter_eq_self.2 fun e he => ?_
  rw [find?_eq_none.1 absent e he]
  rfl

theorem set_of_absent (absent : db.find? table = none) (r : Relation) : db.set table r = db := by
  unfold Database.set
  refine (List.map_congr_left fun e he => ?_).trans (List.map_id db)
  rw [find?_eq_none.1 absent e he]
  rfl

/-- No other table has the name of the first one. -/
theorem Named.find?_tail {e : String × Relation} (h : Named (e :: db))
    (he : sameName e.1 table = true) : db.find? table = none := by
  refine find?_eq_none.2 fun f hf => ?_
  have other := (List.pairwise_cons.1 h).1 f hf
  rw [← Bool.not_eq_true, sameName_iff] at other ⊢
  rw [sameName_iff] at he
  exact fun same => other (he.trans same.symm)

/-- Other rows in a table are no other columns. -/
theorem schema_set (h : db.Named) (found : db.find? table = some r)
    (columns : r'.columns = r.columns) : (db.set table r').schema = db.schema := by
  induction db with
  | nil => rfl
  | cons e db ih =>
    cases he : sameName e.1 table with
    | true =>
      have own : e.2 = r := by simpa [Database.find?, he] using found
      have rest := set_of_absent (h.find?_tail he) r'
      unfold Database.set at rest ⊢
      simp [Database.schema, he, rest, columns, own]
    | false =>
      have found' : Database.find? db table = some r := by
        simpa [Database.find?, he] using found
      have rest := ih (List.pairwise_cons.1 h).2 found'
      unfold Database.set Database.schema at rest ⊢
      simp only [List.map_cons, he]
      rw [rest]
      rfl

theorem ne_nil_of_find? (found : (db.find? table).isSome) : db ≠ [] := by
  rintro rfl
  nomatch found

end Database

namespace Relation

variable {r r' : Relation}

theorem columns_append? {row : List Value} {replaces : Bool}
    (h : r.append? row replaces = some r') : r'.columns = r.columns := by
  unfold append? at h
  split at h
  · rw [← Option.some.inj h]
  · split at h
    · nomatch h
    · rw [← Option.some.inj h]

end Relation

namespace Command

variable {db : Database} {ps : List Value} {c : Command} {r : Result}

/-- What a command leaves: named tables, whose columns are as they were unless it has made or
removed a table. -/
structure Leaves (db : Database) (c : Command) (r : Result) : Prop where
  named : r.content.Named
  schema : (c.alters && r.wrote) = false → r.content.schema = db.schema
  /-- There were tables before, or there are some after it. -/
  tables : (c.alters && r.wrote) = true → db ≠ [] ∨ r.content ≠ []
  /-- A command that fails makes and removes none. -/
  failed : r.succeeded = false → (c.alters && r.wrote) = false

theorem Leaves.same (h : db.Named) (content : r.content = db) (calm : (c.alters && r.wrote) = false) :
    Leaves db c r where
  named := content ▸ h
  schema _ := congrArg Database.schema content
  tables alters := absurd (calm.symm.trans alters) (by decide)
  failed _ := calm

/-- A command that puts other rows into a table. -/
theorem Leaves.set (h : db.Named) {table : String} {x y : Relation}
    (found : db.find? table = some x) (columns : y.columns = x.columns)
    (content : r.content = db.set table y) (calm : c.alters = false) : Leaves db c r where
  named := by
    rw [content]
    exact h.set table y
  schema _ := by
    rw [content]
    exact Database.schema_set h found columns
  tables alters := by
    rw [calm] at alters
    nomatch alters
  failed _ := by
    rw [calm]
    rfl

theorem leaves_of_runOn? (h : db.Named) (run : c.runOn? db ps = .some r) : Leaves db c r := by
  cases c with
  | createTable table columns unlessExists =>
    simp only [runOn?] at run
    split at run
    · rw [← Option.some.inj run]
      exact .same h rfl (Bool.and_false _)
    · next absent =>
      rw [← Option.some.inj run]
      refine ⟨h.create (by simpa using absent) _, nofun, fun _ => .inr ?_, nofun⟩
      simp
  | dropTable table ifExists =>
    simp only [runOn?] at run
    rw [← Option.some.inj run]
    refine ⟨h.erase table, fun calm => ?_, fun altered => ?_, nofun⟩
    · have absent : db.find? table = none := by simpa [alters] using calm
      exact congrArg Database.schema (Database.erase_of_absent absent)
    · exact .inl (Database.ne_nil_of_find? (by simpa [alters] using altered))
  | insert table columns values replaces =>
    simp only [runOn?, Option.bind_eq_bind, Option.bind_eq_some_iff, Option.pure_def,
      Option.some.injEq] at run
    obtain ⟨x, found, vs, -, y, appended, rfl⟩ := run
    exact .set h found (Relation.columns_append? appended) rfl rfl
  | delete table f =>
    simp only [runOn?, Option.bind_eq_bind, Option.bind_eq_some_iff, Option.pure_def,
      Option.some.injEq] at run
    obtain ⟨x, found, p, -, rfl⟩ := run
    exact .set h found (y := { x with rows := x.rows.filter fun row => !p row }) rfl rfl rfl
  | update table column e f =>
    simp only [runOn?, Option.bind_eq_bind, Option.bind_eq_some_iff, Option.pure_def] at run
    obtain ⟨x, found, p, -, i, -, run⟩ := run
    -- whatever value is put in, other rows of the table are all that there can be
    have put {n : Option Nat} {wrote : Bool} {rows : List (List Value)}
        {succeeded : Bool} {content : Database}
        (hc : content = if succeeded then db.set table { x with rows } else db) :
        Leaves db (.update table column e f)
          { changed := n, content, wrote, succeeded } := by
      cases succeeded with
      | true => exact .set h found (y := { x with rows }) rfl hc rfl
      | false => exact .same h hc rfl
    split at run
    · simp only [Option.bind_eq_some_iff, Option.some.injEq] at run
      obtain ⟨v, -, rfl⟩ := run
      exact put rfl
    · rw [← Option.some.inj run]
      exact put rfl
  | query s table f =>
    simp only [runOn?, Option.bind_eq_bind, Option.bind_eq_some_iff, Option.pure_def] at run
    obtain ⟨x, found, p, -, run⟩ := run
    split at run <;> rw [← Option.some.inj run] <;> exact .same h rfl rfl
  | empty | compute | begin | commit | rollback | pragma =>
    simp only [runOn?] at run
    rw [← Option.some.inj run]
    exact .same h rfl rfl

/-- Every command, run or not, leaves named tables. -/
theorem leaves_runOn (h : db.Named) (ps : List Value) (c : Command) :
    Leaves db c (c.runOn db ps) := by
  unfold runOn
  cases run : c.runOn? db ps with
  | none => exact .same h rfl (Bool.and_false _)
  | some r => exact leaves_of_runOn? h run

end Command

end Prepared.Sql
