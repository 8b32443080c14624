import Prepared.Proofs.Outcome
import Prepared.Proofs.Slots
import Prepared.Proofs.Sole

/-! Counts of changed rows.

An execution over the dialect tells how many rows were changed last on its link. If its command is
one that counts rows, these are the rows that it has changed itself. Any other command without
columns repeats the count of an earlier execution, if there was one, though it has changed no row. -/
namespace Prepared.Sql

namespace Server

/-- What happens to a server. -/
inductive Event where
  | openMemory
  | openFile (f : FileSettings)
  | abandon (i : EngineId)
  | request (i : EngineId) (r : Primitive)

def Event.run : Event → Server → Server
  | openMemory, s => s.openMemory.2
  | openFile f, s => (s.openFile f).2
  | abandon i, s => { s with library := s.library.abandon i }
  | request i r, s => (Dialect.library.engine.run i r s).2

/-- Requests are made to engines that were opened. -/
def Event.Possible (s : Server) : Event → Prop
  | request i _ => i < s.library.links.next
  | openMemory | openFile _ | abandon _ => True

instance (s : Server) : (e : Event) → Decidable (e.Possible s)
  | .request i _ => inferInstanceAs (Decidable (i < s.library.links.next))
  | .openMemory | .openFile _ | .abandon _ => .isTrue trivial

/-- The command of a live statement. -/
def command? (s : Server) (key : EngineId × StatementId) : Option Command :=
  (s.slot? key).bind fun slot => (Command.ofString? (Text.trim slot.sql)).map Prod.fst

/-- The tables that a link sees or would see now. -/
def content (s : Server) (i : EngineId) : Database :=
  (s.library.link i).content (s.library.surroundings i)

end Server

/-- An event, and the server that it happened to. -/
structure Occurrence where
  before : Server
  event : Server.Event

/-- The count that an execution on a link has left. Only commands that count rows leave one, and one
that has begun and failed leaves zero. -/
def Occurrence.count? (i : EngineId) (x : Occurrence) : Option UInt64 :=
  match x.event with
  | .request j (.execute n) =>
    if j = i ∧ (Server.command? x.before (i, n)).any Command.counts = true then
      match (Dialect.library.engine.run i (.execute n) x.before).1 with
      | .ok o => some o.changes
      | .error (.execute reason) => if reason ∈ Link.unbegun then none else some 0
      | .error _ => none
    else none
  | _ => none

/-- The count that was left last on a link, and zero if there was none. -/
def lastCount (i : EngineId) : List Occurrence → UInt64
  | [] => 0
  | x :: past => (x.count? i).getD (lastCount i past)

/-- What has happened since there were neither links nor databases, the latest first, and the server
that has come of it. -/
inductive Reached : List Occurrence → Server → Prop
  | start (tree : Tree) : Reached [] { tree := tree }
  | next {past : List Occurrence} {s : Server} (reached : Reached past s) (e : Server.Event)
      (possible : e.Possible s) : Reached (⟨s, e⟩ :: past) (e.run s)

namespace Library

variable {δ : Type} {L : Library δ} {i : EngineId} {p : L.Statement} {d after : δ}

/-- Values that are all bound are bound one after the other. -/
theorem bindFrom_cons_ok {position : Nat} {q : L.Statement} {v : Value} {vs : List Value}
    (bound : L.bindFrom position p (v :: vs) = .ok q) :
    ∃ r, L.bind p position v = .ok r ∧ L.bindFrom (position + 1) r vs = .ok q := by
  unfold bindFrom at bound
  split at bound
  · next r hr => exact ⟨r, hr, bound⟩
  · nomatch bound

theorem bindFrom_error {position : Nat} {vs : List Value} {e : EngineError}
    (refused : L.bindFrom position p vs = .error e) : ∃ reason, e = .bind reason := by
  induction vs generalizing position p with
  | nil => nomatch refused
  | cons v vs ih =>
    unfold bindFrom at refused
    split at refused
    · exact ih refused
    · next reason _ =>
      cases refused
      exact ⟨reason, rfl⟩

/-- A statement without columns is executed for the number of rows that it changes. -/
theorem perform_of_no_titles (none : L.titles p = []) {r : Except String UInt64}
    (executed : L.execute i p d = (r, after)) :
    L.perform i p d = ((r.map fun changes => { changes }).mapError .execute, after) := by
  unfold perform
  rw [none, executed]
  cases r <;> rfl

/-- A statement with columns is executed for its rows. -/
theorem perform_of_titles (some : L.titles p ≠ []) {r : Except String (List (List Value))}
    (read : (L.query i p d).read (L.titles p).length = (r, after)) :
    L.perform i p d =
      ((r.map fun rows => { columns := L.titles p, rows }).mapError .execute, after) := by
  have columns : (L.titles p).isEmpty = false := by simpa using some
  unfold perform
  dsimp only
  rw [columns, read]
  cases r <;> rfl

/-- There is no statement for a text, or its values are not bound, or it is run. -/
theorem run_cases (i : EngineId) (slot : Slot) (d : δ) :
    (∃ e, (∀ reason, e = .execute reason → (L.fetch i slot.sql d).1 = .error reason) ∧
      L.run i slot d = (.error e, (L.fetch i slot.sql d).2)) ∨
    ∃ p q, (L.fetch i slot.sql d).1 = .ok p ∧ L.bindFrom 1 p slot.parameters = .ok q ∧
      L.run i slot d = L.perform i q (L.fetch i slot.sql d).2 := by
  unfold run
  rcases fetched : L.fetch i slot.sql d with ⟨reason | p, d'⟩
  · refine .inl ⟨.execute reason, fun _ same => ?_, rfl⟩
    cases same
    rfl
  · cases bound : L.bindFrom 1 p slot.parameters with
    | error e =>
      obtain ⟨reason, rfl⟩ := bindFrom_error bound
      exact .inl ⟨.bind reason, (fun _ same => nomatch same), by simp only [bound]⟩
    | ok q => exact .inr ⟨p, q, rfl, bound, by simp only [bound]⟩

end Library

/-- Values are bound to the parameters behind those of `done`; nothing is bound behind them. -/
theorem Fetched.bindFrom_ok {vs done : List Value} {k : Nat} {p q : Fetched}
    (unbound : p.parameters = done ++ List.replicate k .null)
    (bound : Dialect.library.bindFrom (done.length + 1) p vs = .ok q) :
    vs.length ≤ k ∧
      q = { p with parameters := done ++ (vs ++ List.replicate (k - vs.length) .null) } := by
  induction vs generalizing p done k with
  | nil =>
    cases bound
    exact ⟨Nat.zero_le k, by simp [← unbound]⟩
  | cons v vs ih =>
    obtain ⟨r, first, rest⟩ := Library.bindFrom_cons_ok (L := Dialect.library) bound
    change p.bind (done.length + 1) v = .ok r at first
    unfold Fetched.bind at first
    split at first
    · next fits =>
      cases first
      rw [unbound, List.length_append, List.length_replicate] at fits
      obtain ⟨j, rfl⟩ : ∃ j, k = j + 1 := ⟨k - 1, by omega⟩
      have set : p.parameters.set (done.length + 1 - 1) v =
          (done ++ [v]) ++ List.replicate j .null := by
        simp [unbound, List.replicate_succ]
      rw [set, show done.length + 1 + 1 = (done ++ [v]).length + 1 by simp] at rest
      have next := ih (by rfl) rest
      refine ⟨Nat.succ_le_succ next.1, next.2.trans ?_⟩
      simp
    · nomatch first

namespace Dialect

variable {d : Dialect} {i : EngineId}

/-- Reading rows that are all there changes nothing. -/
theorem read_cursor (rows : List (List Value)) (width : Nat) :
    ((cursor rows d).read width).2 = d := by
  induction rows with
  | nil => rfl
  | cons values rows ih =>
    change (Cursor.read width (.row (row values) d (cursor rows d))).2 = d
    unfold Cursor.read
    split
    · rfl
    · split <;> (next hr => rw [hr] at ih; exact ih)

/-- What an execution answers whose run has come to this. A statement without columns tells what its
link remembers; one with columns has changed nothing, and fails if a row lacks a column. -/
inductive Told (titles : List String) (x : Ran) : Except EngineError Output → Prop
  | counted {rows : List (List Value)} (done : x.1 = .ok rows) (none : titles = []) :
    Told titles x (.ok { changes := .ofNat x.2.1.changes })
  | shown {rows : List (List Value)} (done : x.1 = .ok rows) (some : titles ≠ [])
      (shown : List (List Value)) : Told titles x (.ok { columns := titles, rows := shown })
  | short {rows : List (List Value)} (done : x.1 = .ok rows) (some : titles ≠ [])
      (reason : String) : Told titles x (.error (.execute reason))
  | failed {reason : String} (failed : x.1 = .error reason) :
    Told titles x (.error (.execute reason))

/-- A statement is run, and nothing else is done for it. -/
theorem perform_spec (link : i < d.links.next) (p : Fetched) {x : Ran}
    (hx : (d.link i).run (d.surroundings i) p.parameters p.text p.plan = x) :
    Told p.titles x (library.perform i p d).1 ∧
      (library.perform i p d).2 = (d.withLink i x.2.1).commit (d.link i).location x.2.2 := by
  have ran := run_eq d i p
  rw [hx] at ran
  generalize hd : (d.withLink i x.2.1).commit (d.link i).location x.2.2 = after at ran
  have changes : (after.link i).changes = x.2.1.changes := by
    rw [← hd, link_withLink_commit link]
  by_cases none : p.titles = []
  · have executed : library.execute i p d =
        (x.1.map fun _ => .ofNat (after.link i).changes, after) := by
      show d.execute i p = _
      unfold Dialect.execute
      rw [ran]
      cases x.1 <;> rfl
    rw [Library.perform_of_no_titles (L := library) none executed, changes]
    refine ⟨?_, rfl⟩
    cases done : x.1 with
    | ok rows => exact .counted done none
    | error reason => exact .failed done
  · cases done : x.1 with
    | error reason =>
      have read : (library.query i p d).read p.titles.length = (.error reason, after) := by
        show (d.query i p).read _ = _
        unfold Dialect.query
        rw [ran, done]
        rfl
      rw [Library.perform_of_titles (L := library) none read]
      exact ⟨.failed done, rfl⟩
    | ok rows =>
      have read : (library.query i p d).read p.titles.length =
          (((cursor rows after).read p.titles.length).1, after) := by
        show (d.query i p).read _ = _
        unfold Dialect.query
        rw [ran, done]
        exact Prod.ext rfl (read_cursor rows _)
      rw [Library.perform_of_titles (L := library) none read]
      refine ⟨?_, rfl⟩
      cases ((cursor rows after).read p.titles.length).1 with
      | ok shown => exact .shown done none shown
      | error reason => exact .short done none reason

/-- There is no statement for a text, or one of its command. The link has changed no more than what
it remembers of texts. -/
theorem fetch_spec (tidy : (d.link i).Tidy) (sql : String) :
    ∃ m, Link.Still (d.link i) m ∧ m.fixed = (d.link i).fixed ∧
      (d.fetch i sql).2 = d.withLink i m ∧
      ((d.fetch i sql).1 = .error "the statement cannot be prepared" ∨
        ∃ plan titles, (d.fetch i sql).1 = .ok (.ofPlan (Text.trim sql) plan titles) ∧
          plan.Suits (Text.trim sql) ∧ ∃ s, titles = plan.command.titles s) := by
  obtain ⟨still, planned⟩ := Link.planFor_spec tidy (d.surroundings i) (Text.trim sql)
  have fixed := Link.fixed_planFor (l := d.link i) (d.surroundings i) (Text.trim sql)
  unfold fetch
  dsimp only
  generalize (d.link i).planFor (d.surroundings i) (Text.trim sql) = x at still planned fixed ⊢
  obtain ⟨_ | ⟨plan, titles⟩, m⟩ := x
  · exact ⟨m, still, fixed, rfl, .inl rfl⟩
  · exact ⟨m, still, fixed, rfl, .inr ⟨plan, titles, rfl, planned plan titles rfl⟩⟩

/-- An execution is refused before it has begun, or it is a run of the command of its text with the
values that are bound, and `null` for the parameters behind them. -/
theorem run_outcome (link : i < d.links.next) (tidy : (d.link i).Tidy)
    (named : (d.surroundings i).committed.content.Named) (slot : Slot) :
    (∃ e m, Link.Still (d.link i) m ∧ m.fixed = (d.link i).fixed ∧
      (∀ reason, e = .execute reason → reason ∈ Link.unbegun) ∧
      library.run i slot d = (.error e, d.withLink i m)) ∨
    ∃ c count titles x, Command.ofString? (Text.trim slot.sql) = some (c, count) ∧
      slot.parameters.length ≤ count ∧ (c.counts = true → titles = []) ∧
      Link.Outcome (d.surroundings i) ((d.link i).content (d.surroundings i)) (d.link i).changes
        (slot.parameters.rightpad count .null) c x ∧
      x.2.1.fixed = (d.link i).fixed ∧ Told titles x (library.run i slot d).1 ∧
      (library.run i slot d).2 = (d.withLink i x.2.1).commit (d.link i).location x.2.2 := by
  obtain ⟨m, still, fixed, after, fetched⟩ := fetch_spec tidy slot.sql
  change (library.fetch i slot.sql d).2 = _ at after
  rcases Library.run_cases (L := library) i slot d with ⟨e, refused, run⟩ | ⟨p, q, found, bound, run⟩
  · refine .inl ⟨e, m, still, fixed, fun reason same => ?_, after ▸ run⟩
    have cause : (d.fetch i slot.sql).1 = .error reason := refused reason same
    rcases fetched with missing | ⟨plan, titles, present, -⟩
    · cases missing.symm.trans cause
      decide
    · nomatch present.symm.trans cause
  · have found : (d.fetch i slot.sql).1 = .ok p := found
    rcases fetched with missing | ⟨plan, titles, present, suits, s, titled⟩
    · nomatch missing.symm.trans found
    · cases Except.ok.inj (present.symm.trans found)
      obtain ⟨count, command⟩ := suits.command
      have unbound : (Fetched.ofPlan (Text.trim slot.sql) plan titles).parameters =
          [] ++ List.replicate count .null := by
        simp only [Fetched.ofPlan, command, List.nil_append]
      obtain ⟨fits, filled⟩ := Fetched.bindFrom_ok unbound bound
      have filled : q = { Fetched.ofPlan (Text.trim slot.sql) plan titles with
          parameters := slot.parameters.rightpad count .null } := filled
      have untitled (counts : plan.command.counts = true) : titles = [] := by
        rw [titled]
        exact Command.titles_of_counts counts s
      -- the statement is run on the link that has fetched it
      have own : (d.withLink i m).link i = m := (link_withLink ..).trans (if_pos ⟨rfl, link⟩)
      have around : (d.withLink i m).surroundings i = d.surroundings i := surroundings_withLink fixed
      have outcome : Link.Outcome (d.surroundings i) (m.content (d.surroundings i)) m.changes
          (slot.parameters.rightpad count .null) plan.command _ :=
        .run (still.tidy tidy) named suits
      rw [still.content, still.changes] at outcome
      have ran := Link.fixed_run (l := m) (d.surroundings i) (slot.parameters.rightpad count .null)
        (Text.trim slot.sql) plan
      obtain ⟨told, left⟩ := perform_spec (d := d.withLink i m) (i := i)
        (Nat.lt_of_lt_of_eq link (next_withLink ..).symm) q rfl
      rw [own, around, withLink_withLink, filled] at left
      rw [own, around, filled] at told
      rw [after, filled] at run
      refine .inr ⟨plan.command, count, titles, _, command, fits, untitled, outcome,
        ran.trans fixed, ?_, ?_⟩
      · rw [run]
        exact told
      · rw [run, (Prod.mk.inj fixed).1.symm]
        exact left

end Dialect

namespace Server

open Dialect

variable {s t : Server} {i j : EngineId} {n : StatementId} {past : List Occurrence}

/-- Whether the tables of a server are named and the plans of its links are those of their texts,
each link remembers the count that was left last on it, and only engines that were opened have
slots. -/
structure Tidy (past : List Occurrence) (s : Server) : Prop where
  databases : ∀ e ∈ s.library.databases, e.2.content.Named
  links : ∀ i, (s.library.link i).Tidy
  counts : ∀ i, .ofNat (s.library.link i).changes = lastCount i past
  linked : ∀ i n, (s.slot? (i, n)).isSome → i < s.library.links.next

/-- An execution on a link leaves the count that the link remembers after it. -/
theorem lastCount_executed {slot : Slot} {c : Command} {count k : Nat} {w : Surroundings}
    {db : Database} {ps : List Value} {titles : List String} {x : Ran}
    (found : s.slot? (i, n) = some slot)
    (command : Command.ofString? (Text.trim slot.sql) = some (c, count))
    (untitled : c.counts = true → titles = []) (outcome : Link.Outcome w db k ps c x)
    (told : Told titles x (library.engine.run i (.execute n) s).1)
    (before : .ofNat k = lastCount i past) :
    .ofNat x.2.1.changes = lastCount i (⟨s, .request i (.execute n)⟩ :: past) := by
  have counted : (s.command? (i, n)).any Command.counts = c.counts := by
    simp [command?, found, command]
  unfold lastCount Occurrence.count?
  dsimp only
  rw [counted, ← before]
  by_cases counts : c.counts = true
  · rw [if_pos ⟨rfl, counts⟩]
    generalize (library.engine.run i (.execute n) s).1 = answer at told
    cases outcome with
    | done tidy named rows remembered =>
      cases told with
      | counted => rfl
      | shown _ some => exact absurd (untitled counts) some
      | short _ some => exact absurd (untitled counts) some
      | failed failed => nomatch failed
    | @failed reason l d tidy named remembered =>
      cases told with
      | counted done => nomatch done
      | shown done => nomatch done
      | short done => nomatch done
      | failed failed =>
        cases failed
        dsimp only
        rw [remembered]
        by_cases unbegun : reason ∈ Link.unbegun
        · rw [if_pos unbegun, if_neg fun h => h.2 unbegun]
          rfl
        · rw [if_neg unbegun, if_pos ⟨counts, unbegun⟩]
          rfl
  · rw [if_neg fun h => counts h.2]
    cases outcome with
    | done tidy named rows remembered =>
      rw [remembered, if_neg counts]
      rfl
    | failed tidy named remembered =>
      rw [remembered, if_neg fun h => counts h.1]
      rfl

namespace Tidy

theorem committed (h : Tidy past s) (location : Location) :
    (s.library.committed location).content.Named := by
  unfold Dialect.committed
  cases found : s.library.databases.lookup location with
  | none => exact .nil
  | some d => exact h.databases (location, d) (Lookup.mem_of_lookup found)

/-- What leaves no count, and changes no count that a link remembers. -/
theorem quiet (h : Tidy past s) {x : Occurrence} (silent : ∀ i, x.count? i = none)
    (databases : ∀ e ∈ t.library.databases, e.2.content.Named)
    (links : ∀ i, (t.library.link i).Tidy ∧
      (t.library.link i).changes = (s.library.link i).changes)
    (linked : ∀ i n, (t.slot? (i, n)).isSome → i < t.library.links.next) :
    Tidy (x :: past) t := by
  refine ⟨databases, fun i => (links i).1, fun i => ?_, linked⟩
  unfold lastCount
  rw [silent i, (links i).2]
  exact h.counts i

/-- A link is replaced by one that remembers the same count. -/
theorem withLink (h : Tidy past s) {x : Occurrence} (silent : ∀ i, x.count? i = none) {l : Link}
    (tidy : l.Tidy) (changes : l.changes = (s.library.link i).changes) :
    Tidy (x :: past) { s with library := s.library.withLink i l } := by
  refine h.quiet silent h.databases (fun j => ?_) fun j n slot => ?_
  · rw [link_withLink]
    split
    · next here => exact ⟨tidy, here.1 ▸ changes⟩
    · exact ⟨h.links j, rfl⟩
  · rw [next_withLink]
    exact h.linked j n slot

/-- A new link remembers no count. -/
theorem push (h : Tidy past s) {x : Occurrence} (silent : ∀ i, x.count? i = none) (tree : Tree)
    {l : Link} (unused : Unused l) :
    Tidy (x :: past) { s with tree, library.links := s.library.links.push l } := by
  refine h.quiet silent h.databases (fun j => ?_) fun j n slot => ?_
  · have link : ({ s.library with links := s.library.links.push l } : Dialect).link j =
        if j = s.library.links.next then l else s.library.link j := Table.get_push ..
    rw [link]
    split
    · next new =>
      have absent : s.library.link j = default := Table.get_of_le _ (Nat.le_of_eq new.symm)
      refine ⟨⟨?_, ?_⟩, ?_⟩
      · rw [unused.plans]
        exact nofun
      · rw [unused.idle]
        exact nofun
      · rw [absent, unused.changes]
        rfl
    · exact ⟨h.links j, rfl⟩
  · refine Nat.lt_of_lt_of_eq ?_ (Table.next_push ..).symm
    exact Nat.lt_succ_of_lt (h.linked j n slot)

theorem openFile (h : Tidy past s) (f : FileSettings) :
    Tidy (⟨s, .openFile f⟩ :: past) (s.openFile f).2 := by
  have silent (i : EngineId) : (Occurrence.mk s (.openFile f)).count? i = none := rfl
  obtain ⟨tree, ⟨e, failed⟩ | ⟨l, informed, opened⟩⟩ := s.openFile_cases f
  · rw [failed]
    exact h.quiet silent h.databases (fun i => ⟨h.links i, rfl⟩) h.linked
  · rw [opened]
    exact h.push silent tree informed.toUnused

theorem abandon (h : Tidy past s) (i : EngineId) :
    Tidy (⟨s, .abandon i⟩ :: past) { s with library := s.library.abandon i } := by
  refine h.quiet (fun _ => rfl) h.databases (fun j => ?_) fun j n slot => ?_
  · have link : (s.library.abandon i).link j =
        if j = i ∧ i < s.library.links.next then { s.library.link j with transaction := none }
        else s.library.link j := Table.get_modify ..
    rw [link]
    split
    · exact ⟨(h.links j).without, rfl⟩
    · exact ⟨h.links j, rfl⟩
  · exact Nat.lt_of_lt_of_eq (h.linked j n slot) (Table.next_modify ..).symm

/-- A run replaces its link, and commits named tables. -/
theorem ran (h : Tidy past s) (exists_ : i < s.library.links.next) {x : Ran} {c : Command}
    {w : Surroundings} {db : Database} {k : Nat} {ps : List Value}
    (outcome : Link.Outcome w db k ps c x)
    (own : .ofNat x.2.1.changes = lastCount i (⟨s, .request i (.execute n)⟩ :: past)) {d : Dialect}
    (after : d = (s.library.withLink i x.2.1).commit (s.library.link i).location x.2.2) :
    Tidy (⟨s, .request i (.execute n)⟩ :: past) { s with library := d } := by
  have link (j : EngineId) : d.link j = if j = i then x.2.1 else s.library.link j := by
    have replaced : d.link j = (s.library.withLink i x.2.1).link j := by
      rw [after]
      exact congrArg (fun t => t.get j) (links_commit ..)
    rw [replaced, link_withLink]
    simp only [exists_, and_true]
  obtain ⟨tidy, named⟩ : x.2.1.Tidy ∧ x.2.2.content.Named := by
    cases outcome with
    | done tidy named => exact ⟨tidy, named⟩
    | failed tidy named => exact ⟨tidy, named⟩
  refine ⟨fun e he => ?_, fun j => ?_, fun j => ?_, fun j n slot => ?_⟩
  · dsimp only at he
    rw [after] at he
    unfold Dialect.commit at he
    split at he
    · exact h.databases e he
    · rcases List.mem_cons.1 he with rfl | old
      · exact named
      · exact h.databases e (List.mem_filter.1 old).1
  · rw [link]
    split
    · exact tidy
    · exact h.links j
  · rw [link]
    split
    · next here => exact here ▸ own
    · next elsewhere =>
      have silent : (Occurrence.mk s (.request i (.execute n))).count? j = none :=
        if_neg fun counted => elsewhere counted.1.symm
      unfold lastCount
      rw [silent]
      exact h.counts j
  · dsimp only
    rw [after, links_commit, next_withLink]
    exact h.linked j n slot

/-- An execution that comes to a run, and one that does not. -/
theorem execute (h : Tidy past s) (exists_ : i < s.library.links.next) (n : StatementId) :
    Tidy (⟨s, .request i (.execute n)⟩ :: past) (library.engine.run i (.execute n) s).2 := by
  cases found : s.slot? (i, n) with
  | none =>
    have silent (j : EngineId) : (Occurrence.mk s (.request i (.execute n))).count? j = none := by
      refine if_neg fun counted => ?_
      have here := counted.1
      subst here
      simp [command?, found] at counted
    rw [Engines.run_execute_none found]
    exact h.quiet silent h.databases (fun j => ⟨h.links j, rfl⟩) h.linked
  | some slot =>
    have answer := Engines.run_execute (L := library) found
    rcases run_outcome exists_ (h.links i) (h.committed _) slot with
      ⟨e, m, still, -, unbegun, run⟩ |
      ⟨c, count, titles, x, command, -, untitled, outcome, -, told, after⟩
    · have silent (j : EngineId) :
          (Occurrence.mk s (.request i (.execute n))).count? j = none := by
        unfold Occurrence.count?
        dsimp only
        split
        · next here =>
          obtain rfl := here.1
          rw [answer, run]
          cases e with
          | execute reason => exact if_pos (unbegun reason rfl)
          | _ => rfl
        · rfl
      rw [answer, run]
      exact h.withLink silent (still.tidy (h.links i)) still.changes
    · have told' : Told titles x (library.engine.run i (.execute n) s).1 := by
        rw [answer]
        exact told
      have own := lastCount_executed found command untitled outcome told' (h.counts i)
      rw [answer]
      exact h.ran exists_ outcome own after

theorem request (h : Tidy past s) (exists_ : i < s.library.links.next) (r : Primitive) :
    Tidy (⟨s, .request i r⟩ :: past) (library.engine.run i r s).2 := by
  have linked {t : Slots} (j : EngineId) (n : StatementId)
      (slot : ((s.withSlots i t).slot? (j, n)).isSome) : j < s.library.links.next := by
    unfold Engines.slot? at slot
    rw [Engines.slots_withSlots] at slot
    split at slot
    · next here => exact (show j = i from here) ▸ exists_
    · exact h.linked j n slot
  cases r with
  | execute n => exact h.execute exists_ n
  | compile sql =>
    obtain ⟨still, -⟩ := Link.Still.prepare (s.library.link i) (s.library.surroundings i) sql
    have prepared : (library.prepare i sql s.library).2 = s.library.withLink i
        ((s.library.link i).prepare (s.library.surroundings i) sql).2 := prepare_snd ..
    have after : Tidy (⟨s, .request i (.compile sql)⟩ :: past)
        { s with library := (library.prepare i sql s.library).2 } := by
      rw [prepared]
      exact h.withLink (fun _ => rfl) (still.tidy (h.links i)) still.changes
    rcases Engines.run_compile library i sql s with ⟨reason, -, run⟩ | ⟨count, -, run⟩
    · rw [run]
      exact after
    · rw [run]
      refine ⟨after.databases, after.links, after.counts, fun j n slot => ?_⟩
      have old := linked j n slot
      rw [← next_withLink s.library i, ← prepared] at old
      exact old
  | destroy | bind | clearBindings =>
    exact h.quiet (fun _ => rfl) h.databases (fun j => ⟨h.links j, rfl⟩) linked

end Tidy

/-- What holds of a server whatever has happened. -/
theorem Tidy.of_reached (reached : Reached past s) : Tidy past s := by
  induction reached with
  | start tree =>
    have none (i : EngineId) : ({} : Dialect).link i = default :=
      Table.get_of_le _ (Nat.zero_le i)
    refine ⟨nofun, fun i => ?_, fun i => ?_, fun _ _ => nofun⟩
    · show (({} : Dialect).link i).Tidy
      rw [none]
      exact ⟨nofun, nofun⟩
    · show UInt64.ofNat (({} : Dialect).link i).changes = _
      rw [none]
      rfl
  | next reached e possible ih =>
    cases e with
    | openMemory => exact ih.push (fun _ => rfl) _ (unused_draft ..)
    | openFile f => exact ih.openFile f
    | abandon i => exact ih.abandon i
    | request i r => exact ih.request possible r

end Server

end Prepared.Sql
