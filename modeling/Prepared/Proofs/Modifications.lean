import Prepared.Proofs.Database

/-! What commands do to rows.

An insertion adds one row, in the place of those that it replaces; a deletion removes the rows that
are chosen, and an update changes them where they are. No other command is about rows of a table. -/
namespace Prepared.Sql

namespace Relation

variable {r : Relation} {chosen : List Value → Bool} {change : List Value → List Value}

/-- An update that succeeds has changed the rows that are chosen, and has counted them. -/
theorem updateRows_fits {front rows changed : List (List Value)} {n : Nat}
    (updated : r.updateRows chosen change front rows = (changed, n, true)) :
    changed = front ++ rows.map (fun row => if chosen row then change row else row) ∧
      n = rows.countP chosen := by
  induction rows generalizing front changed n with
  | nil =>
    cases updated
    exact ⟨(List.append_nil _).symm, rfl⟩
  | cons row rows ih =>
    unfold updateRows at updated
    split at updated
    · next isChosen =>
      dsimp only at updated
      split at updated
      · nomatch updated
      · rcases hr : r.updateRows chosen change (front ++ [change row]) rows with ⟨rest, m, fits⟩
        rw [hr] at updated
        cases updated
        obtain ⟨list, count⟩ := ih hr
        refine ⟨?_, ?_⟩
        · rw [list, List.map_cons, if_pos isChosen, List.append_assoc]
          rfl
        · rw [List.countP_cons_of_pos isChosen, count]
    · next isOther =>
      obtain ⟨list, count⟩ := ih updated
      refine ⟨?_, ?_⟩
      · rw [list, List.map_cons, if_neg isOther, List.append_assoc]
        rfl
      · rw [List.countP_cons_of_neg isOther, count]

end Relation

namespace Database

variable {db : Database} {table : String} {r : Relation}

/-- A table that is put in its own place changes nothing. -/
theorem set_self (h : db.Named) (found : db.find? table = some r) : db.set table r = db := by
  induction db with
  | nil => rfl
  | cons e db ih =>
    cases he : sameName e.1 table with
    | true =>
      have own : e.2 = r := by simpa [Database.find?, he] using found
      have rest := set_of_absent (h.find?_tail he) r
      unfold Database.set at rest ⊢
      rw [List.map_cons, if_pos he, rest, ← own]
    | false =>
      have found' : Database.find? db table = some r := by
        simpa [Database.find?, he] using found
      have rest := ih (List.pairwise_cons.1 h).2 found'
      unfold Database.set at rest ⊢
      rw [List.map_cons, rest, if_neg (by simp [he])]

end Database

namespace Command

/-- Whether a command leaves the tables as they are seen: it gives back what it finds, or begins a
transaction. -/
def keeps : Command → Bool
  | empty | compute _ | query .. | begin _ | pragma _ => true
  | _ => false

/-- Whether a command ends a transaction. -/
def ends : Command → Bool
  | commit | rollback => true
  | _ => false

/-- What a command leaves of a database, and the number of rows that it has inserted, deleted or
updated. A row that takes the place of others is one row inserted. -/
inductive Modifies (db : Database) (ps : List Value) : Command → Database → Nat → Prop
  | inserted {table : String} {columns : Option (List String)} {values : List Expr}
      {r : Relation} {vs : List Value} (found : db.find? table = some r)
      (computed : values.mapM (·.eval? ps) = some vs)
      (free : r.rows.any (r.clashes (rowOf r columns vs)) = false) :
      Modifies db ps (.insert table columns values false)
        (db.set table { r with rows := r.rows ++ [rowOf r columns vs] }) 1
  | replaced {table : String} {columns : Option (List String)} {values : List Expr}
      {r : Relation} {vs : List Value} (found : db.find? table = some r)
      (computed : values.mapM (·.eval? ps) = some vs) :
      Modifies db ps (.insert table columns values true)
        (db.set table { r with
          rows := r.rows.filter (!r.clashes (rowOf r columns vs) ·) ++ [rowOf r columns vs] }) 1
  | deleted {table : String} {f : Filter} {r : Relation} {p : List Value → Bool}
      (found : db.find? table = some r) (chosen : chosen? r ps f = some p) :
      Modifies db ps (.delete table f)
        (db.set table { r with rows := r.rows.filter (!p ·) }) (r.rows.countP p)
  | updated {table column : String} {e : Expr} {f : Filter} {r : Relation}
      {p : List Value → Bool} {i : Nat} {v : Value} (found : db.find? table = some r)
      (chosen : chosen? r ps f = some p) (place : indexOf? r.columns column = some i)
      (computed : r.rows.any p = true → e.eval? ps = some v) :
      Modifies db ps (.update table column e f)
        (db.set table { r with rows := r.rows.map fun row => if p row then row.set i v else row })
        (r.rows.countP p)
  | created {table : String} {columns : List Column} {unlessExists : Bool}
      (absent : db.find? table = none) :
      Modifies db ps (.createTable table columns unlessExists)
        (db ++ [(table, { columns := columns })]) 0
  | present {table : String} {columns : List Column} {unlessExists : Bool}
      (found : (db.find? table).isSome) :
      Modifies db ps (.createTable table columns unlessExists) db 0
  /-- The rows of a table that is removed as a whole are not counted. -/
  | dropped {table : String} {ifExists : Bool} :
      Modifies db ps (.dropTable table ifExists) (db.erase table) 0
  | kept {c : Command} (keeps : c.keeps = true) : Modifies db ps c db 0
  /-- After the end of a transaction what is committed is seen, whoever has committed it. -/
  | ended {c : Command} (ends : c.ends = true) (after : Database) : Modifies db ps c after 0

variable {db : Database} {ps : List Value} {c : Command} {r : Result}

theorem Modifies.zero {after : Database} {k : Nat} (h : Modifies db ps c after k)
    (counts : c.counts = false) : k = 0 := by
  cases h with
  | inserted | replaced | deleted | updated => nomatch counts
  | created | present | dropped | kept | ended => rfl

/-- What a command on tables does when it succeeds: the count that it gives is the number of the
rows, and it gives none if it is not one that counts rows. -/
structure Counts (db : Database) (ps : List Value) (c : Command) (r : Result) : Prop where
  rows : Modifies db ps c r.content (r.changed.getD 0)
  counted : r.changed.isSome = c.counts
  /-- What has written nothing has changed nothing. -/
  unwritten : r.wrote = false → r.content = db

/-- The rows that are not kept are those that are chosen. -/
theorem length_sub_kept (rows : List (List Value)) (p : List Value → Bool) :
    rows.length - (rows.filter (!p ·)).length = rows.countP p := by
  have parts := List.length_eq_countP_add_countP p (l := rows)
  have kept : (rows.filter (!p ·)).length = rows.countP fun row => decide ¬ p row = true := by
    rw [List.countP_eq_length_filter]
    simp
  omega

namespace Counts

variable {table column : String} {columns : Option (List String)} {values : List Expr}
  {replaces : Bool} {e : Expr} {f : Filter} {x y : Relation} {p : List Value → Bool}

theorem inserted {vs : List Value} (found : db.find? table = some x)
    (computed : values.mapM (·.eval? ps) = some vs)
    (appended : x.append? (rowOf x columns vs) replaces = some y) :
    Counts db ps (.insert table columns values replaces)
      { changed := some 1, content := db.set table y, wrote := true } := by
  refine ⟨?_, rfl, nofun⟩
  unfold Relation.append? at appended
  cases replaces with
  | true =>
    cases appended
    exact .replaced found computed
  | false =>
    rw [if_neg Bool.false_ne_true] at appended
    split at appended
    · nomatch appended
    · next free =>
      cases appended
      exact .inserted found computed (by simpa using free)

theorem deleted (h : db.Named) (found : db.find? table = some x)
    (chosen : chosen? x ps f = some p) :
    Counts db ps (.delete table f) {
      changed := some (x.rows.length - (x.rows.filter (!p ·)).length)
      content := db.set table { x with rows := x.rows.filter (!p ·) }
      wrote := f.isNone || x.rows.length - (x.rows.filter (!p ·)).length != 0 } := by
  refine ⟨?_, rfl, fun unwritten => ?_⟩
  · dsimp only
    rw [Option.getD_some, length_sub_kept]
    exact .deleted found chosen
  · have none : x.rows.countP p = 0 := by
      rw [← length_sub_kept]
      exact (by simpa using unwritten : _ ∧ _).2
    have kept : x.rows.filter (!p ·) = x.rows := by
      refine List.filter_eq_self.2 fun row hrow => ?_
      rw [List.countP_eq_zero] at none
      simp [none row hrow]
    dsimp only
    rw [kept]
    exact Database.set_self h found

/-- Whatever value is put in, if it is computed for rows that there are. -/
theorem updated {i n : Nat} {v : Value} {rows : List (List Value)} (h : db.Named)
    (found : db.find? table = some x) (chosen : chosen? x ps f = some p)
    (place : indexOf? x.columns column = some i)
    (computed : x.rows.any p = true → e.eval? ps = some v)
    (updated : x.updateRows p (·.set i v) [] x.rows = (rows, n, true)) :
    Counts db ps (.update table column e f) {
      changed := some n
      content := db.set table { x with rows }
      wrote := updateWrites x i rows n } := by
  obtain ⟨list, count⟩ := Relation.updateRows_fits updated
  rw [List.nil_append] at list
  refine ⟨?_, rfl, fun unwritten => ?_⟩
  · dsimp only
    rw [Option.getD_some, list, count]
    exact .updated found chosen place computed
  · have same : rows = x.rows := by
      have parts := Bool.or_eq_false_iff.1 unwritten
      simpa using parts.1
    dsimp only
    rw [same]
    exact Database.set_self h found

end Counts

theorem counts_of_runOn? (h : db.Named) (run : c.runOn? db ps = some r)
    (succeeded : r.succeeded = true) : Counts db ps c r := by
  cases c with
  | createTable table columns unlessExists =>
    simp only [runOn?] at run
    split at run
    · next found =>
      rw [← Option.some.inj run]
      exact ⟨.present found, rfl, fun _ => rfl⟩
    · next absent =>
      rw [← Option.some.inj run]
      exact ⟨.created (Option.not_isSome_iff_eq_none.1 absent), rfl, Bool.noConfusion⟩
  | dropTable table ifExists =>
    simp only [runOn?] at run
    rw [← Option.some.inj run]
    refine ⟨.dropped, rfl, fun absent => Database.erase_of_absent ?_⟩
    exact Option.not_isSome_iff_eq_none.1 (by simpa using absent)
  | insert table columns values replaces =>
    simp only [runOn?, Option.bind_eq_bind, Option.bind_eq_some_iff, Option.pure_def,
      Option.some.injEq] at run
    obtain ⟨x, found, vs, computed, y, appended, rfl⟩ := run
    exact .inserted found computed appended
  | delete table f =>
    simp only [runOn?, Option.bind_eq_bind, Option.bind_eq_some_iff, Option.pure_def,
      Option.some.injEq] at run
    obtain ⟨x, found, p, chosen, rfl⟩ := run
    exact .deleted h found chosen
  | update table column e f =>
    simp only [runOn?, Option.bind_eq_bind, Option.bind_eq_some_iff, Option.pure_def] at run
    obtain ⟨x, found, p, chosen, i, place, run⟩ := run
    -- whatever value is put in
    have put {v : Value} {rows : List (List Value)} {n : Nat} {fits : Bool}
        (computed : x.rows.any p = true → e.eval? ps = some v)
        (updated : x.updateRows p (·.set i v) [] x.rows = (rows, n, fits))
        (hr : r = {
          changed := some n
          content := if fits then db.set table { x with rows } else db
          wrote := updateWrites x i rows n
          succeeded := fits }) : Counts db ps (.update table column e f) r := by
      subst hr
      obtain rfl : fits = true := succeeded
      exact .updated h found chosen place computed updated
    split at run
    · simp only [Option.bind_eq_some_iff, Option.some.injEq] at run
      obtain ⟨v, computed, hr⟩ := run
      exact put (fun _ => computed) rfl hr.symm
    · next none => exact put (fun any => absurd any none) rfl (Option.some.inj run).symm
  | query s table f =>
    simp only [runOn?, Option.bind_eq_bind, Option.bind_eq_some_iff, Option.pure_def] at run
    obtain ⟨x, found, p, -, run⟩ := run
    split at run <;> rw [← Option.some.inj run] <;> exact ⟨.kept rfl, rfl, fun _ => rfl⟩
  | empty | compute | begin | pragma =>
    simp only [runOn?] at run
    rw [← Option.some.inj run]
    exact ⟨.kept rfl, rfl, fun _ => rfl⟩
  | commit | rollback =>
    simp only [runOn?] at run
    rw [← Option.some.inj run]
    exact ⟨.ended rfl _, rfl, fun _ => rfl⟩

theorem counts_runOn (h : db.Named) (succeeded : (c.runOn db ps).succeeded = true) :
    Counts db ps c (c.runOn db ps) := by
  unfold runOn at succeeded ⊢
  cases run : c.runOn? db ps with
  | none =>
    rw [run] at succeeded
    nomatch succeeded
  | some r =>
    rw [run] at succeeded
    exact counts_of_runOn? h run succeeded

end Command

end Prepared.Sql
