import Prepared.Proofs.Operation
import Prepared.Sql.Open

/-! Outcomes of opening a database.

The waiting time is handed over when all else is done: when the path has been checked, the
directories made, and the library has opened the database and taken up its other settings. Only
then does it matter whether it fits. So an opening that is refused would be refused with any waiting
time, and one that ends the run would have given an engine with a shorter one. -/
namespace Prepared.Sql

namespace Opener

variable {δ : Type} {O : Opener δ} {s : Tree × δ} {f : FileSettings} {e : OpenError}

/-- A waiting time that fits in 31 bits is taken up. -/
def Waits (O : Opener δ) : Prop :=
  ∀ x (time : UInt64) s, time.toNat ≤ FileSettings.maxTimeout →
    ∃ y t, (O.wait x time).run s = (.ok y, t)

/-- Only once the database is found the waiting time is looked at. -/
theorem openFile_cases (waits : O.Waits) (f : FileSettings) (s : Tree × δ) :
    (∃ e t, (O.locate f).run s = (.error e, t) ∧
      (O.openFile f).run s = (.error (.refused e), t)) ∨
    ∃ x t, (O.locate f).run s = (.ok x, t) ∧
      (FileSettings.maxTimeout < f.busyTimeout.toNat ∧
          (O.openFile f).run s = (.error .crashed, t) ∨
        f.busyTimeout.toNat ≤ FileSettings.maxTimeout ∧
          ∃ y u, (O.wait x f.busyTimeout).run t = (.ok y, u) ∧
            (O.openFile f).run s = (O.enter (O.keep y f.statementCapacity)).run u) := by
  have sequence : (O.openFile f).run s =
      match (O.locate f).run s with
      | (.ok x, t) => (O.settle f x).run t
      | (.error e, t) => (.error (.refused e), t) := by
    unfold openFile
    rw [Operation.run_bind, Operation.run_mapError]
    rcases (O.locate f).run s with ⟨_ | _, _⟩ <;> rfl
  rw [sequence]
  rcases (O.locate f).run s with ⟨e | x, t⟩
  · exact .inl ⟨e, t, rfl, rfl⟩
  · refine .inr ⟨x, t, rfl, ?_⟩
    unfold settle
    dsimp only
    by_cases long : FileSettings.maxTimeout < f.busyTimeout.toNat
    · rw [if_pos long]
      exact .inl ⟨long, rfl⟩
    · rw [if_neg long]
      have fits := Nat.not_lt.1 long
      obtain ⟨y, u, taken⟩ := waits x f.busyTimeout t fits
      refine .inr ⟨fits, y, u, taken, ?_⟩
      have waited : (Operation.mapError (fun reason => OpenFailure.refused (.db reason))
          (O.wait x f.busyTimeout)).run t = (.ok y, u) := by
        rw [Operation.run_mapError, taken]
        rfl
      rw [Operation.run_bind, waited]

theorem refused_iff (waits : O.Waits) :
    ((O.openFile f).run s).1 = .error (.refused e) ↔ ((O.locate f).run s).1 = .error e := by
  rcases openFile_cases waits f s with ⟨e, t, located, run⟩ |
    ⟨x, t, located, ⟨long, run⟩ | ⟨fits, y, u, taken, run⟩⟩ <;> rw [located, run]
  · simp
  · simp
  · simp [enter]

theorem crashed_iff (waits : O.Waits) : ((O.openFile f).run s).1 = .error .crashed ↔
    FileSettings.maxTimeout < f.busyTimeout.toNat ∧ ∃ x, ((O.locate f).run s).1 = .ok x := by
  rcases openFile_cases waits f s with ⟨e, t, located, run⟩ |
    ⟨x, t, located, ⟨long, run⟩ | ⟨fits, y, u, taken, run⟩⟩ <;> rw [located, run]
  · simp
  · simp [long]
  · simp [enter, fits]

theorem opened_iff (waits : O.Waits) : (∃ i, ((O.openFile f).run s).1 = .ok i) ↔
    f.busyTimeout.toNat ≤ FileSettings.maxTimeout ∧ ∃ x, ((O.locate f).run s).1 = .ok x := by
  rcases openFile_cases waits f s with ⟨e, t, located, run⟩ |
    ⟨x, t, located, ⟨long, run⟩ | ⟨fits, y, u, taken, run⟩⟩ <;> rw [located, run]
  · simp
  · simp [long]
  · simp [enter, fits]

/-- With a waiting time that fits, opening gives an engine or an error, and a longer one ends the run
exactly when a shorter one would have given an engine. What is refused is refused with any waiting
time, in the same words. -/
theorem outcomes (waits : O.Waits) (f : FileSettings) (s : Tree × δ) :
    (f.busyTimeout.toNat ≤ FileSettings.maxTimeout →
      (∃ i, ((O.openFile f).run s).1 = .ok i) ∨
        ∃ e, ((O.openFile f).run s).1 = .error (.refused e)) ∧
    (((O.openFile f).run s).1 = .error .crashed ↔
      FileSettings.maxTimeout < f.busyTimeout.toNat ∧
        ∃ i, ((O.openFile { f with busyTimeout := 0 }).run s).1 = .ok i) ∧
    (∀ wait e, ((O.openFile { f with busyTimeout := wait }).run s).1 = .error (.refused e) ↔
      ((O.openFile f).run s).1 = .error (.refused e)) := by
  have same (wait : UInt64) : O.locate { f with busyTimeout := wait } = O.locate f := rfl
  refine ⟨fun fits => ?_, ?_, fun wait e => ?_⟩
  · cases found : ((O.locate f).run s).1 with
    | error e => exact .inr ⟨e, (refused_iff waits).2 found⟩
    | ok x => exact .inl ((opened_iff waits).2 ⟨fits, x, found⟩)
  · rw [crashed_iff waits, opened_iff waits, same 0]
    simp
  · rw [refused_iff waits, refused_iff waits, same]

end Opener

namespace Dialect

open Operation

variable {d : Dialect} {l : Link}

/-- Every waiting time is taken up. -/
theorem waits : opener.Waits :=
  fun _ _ _ _ => ⟨_, _, rfl⟩

/-- A link that has not been used. -/
structure Unused (l : Link) : Prop where
  idle : l.transaction = none
  plans : l.plans.entries = []
  changes : l.changes = 0

/-- An unused link that knows the tables of its database. -/
structure Informed (d : Dialect) (l : Link) : Prop extends Unused l where
  schema : l.schema = some (d.committed l.location).content.schema
  hasRead : l.hasRead = !(d.committed l.location).content.isEmpty

theorem unused_draft (d : Dialect) (target : Target) (word : String) :
    Unused (d.draft target word).link :=
  ⟨rfl, rfl, rfl⟩

theorem ofText?_journal (m : JournalMode) : JournalMode.ofText? m.text = some m := by
  cases m <;> decide +kernel

theorem journal_ne (m : JournalMode) : m.text ≠ foreignKeysText := by
  cases m <;> decide +kernel

theorem ofText?_sync (m : SyncMode) :
    JournalMode.ofText? m.text = none ∧ SyncMode.ofText? m.text = some m := by
  cases m <;> decide +kernel

theorem sync_ne (m : SyncMode) : m.text ≠ foreignKeysText := by
  cases m <;> decide +kernel

/-- What comes of a step of an opening: no link and no database has changed, and a link of which
something holds. -/
def Leaves (d : Dialect) (P : Link → Prop) (r : Except String Draft × Tree × Dialect) : Prop :=
  r.2.2 = d ∧ ∀ x, r.1 = .ok x → P x.link

theorem Leaves.bind {P Q : Link → Prop} {x : Operation (Tree × Dialect) String Draft}
    {k : Draft → Operation (Tree × Dialect) String Draft} {s : Tree × Dialect}
    (hx : Leaves d P (x.run s))
    (hk : ∀ y t, t.2 = d → P y.link → Leaves d Q ((k y).run t)) : Leaves d Q ((x >>= k).run s) := by
  rw [Operation.run_bind]
  rcases hr : x.run s with ⟨e | y, t⟩ <;> rw [hr] at hx
  · exact ⟨hx.1, fun _ opened => nomatch opened⟩
  · exact hk y t hx.1 (hx.2 y rfl)

theorem connect_leaves (path : String) (s : Tree × Dialect) :
    Leaves s.2 Unused (s.2.connect path, s) := by
  refine ⟨rfl, fun x opened => ?_⟩
  dsimp only at opened
  unfold connect at opened
  split at opened
  · nomatch opened
  · split at opened
    · nomatch opened
    · cases opened
      exact unused_draft ..

theorem find_leaves {x : Draft} (unused : Unused x.link) (m : JournalMode) (s : Tree × Dialect) :
    Leaves s.2 (Informed s.2) (find x m s) := by
  unfold find
  split
  · exact ⟨rfl, fun _ found => nomatch found⟩
  · split
    · refine ⟨rfl, fun y found => ?_⟩
      cases found
      exact ⟨⟨unused.idle, unused.plans, unused.changes⟩, rfl, rfl⟩
    · exact ⟨rfl, fun _ found => nomatch found⟩

theorem batch_foreignKeys (x : Draft) (s : Tree × Dialect) :
    batch x foreignKeysText s = (.ok x, s) :=
  if_pos rfl

theorem batch_journal (x : Draft) (m : JournalMode) (s : Tree × Dialect) :
    batch x m.text s = find x m s := by
  unfold batch
  rw [if_neg (journal_ne m), ofText?_journal]

theorem batch_sync (x : Draft) (m : SyncMode) (s : Tree × Dialect) :
    batch x m.text s = (.ok { x with link.pragmas.synchronous := m.number }, s) := by
  unfold batch
  rw [if_neg (sync_ne m), (ofText?_sync m).1, (ofText?_sync m).2]

/-- A link that takes up its settings comes to know the tables of the database that was found. -/
theorem configure_leaves (f : FileSettings) (s : Tree × Dialect) :
    Leaves s.2 (Informed s.2) ((opener.configure f).run s) := by
  unfold Opener.configure
  refine Leaves.bind (connect_leaves f.path s) fun x t kept unused => ?_
  refine Leaves.bind (P := Unused) ?_ fun x t kept unused => ?_
  · show Leaves _ _ (batch x foreignKeysText t)
    rw [batch_foreignKeys]
    exact ⟨kept, fun y taken => Except.ok.inj taken ▸ unused⟩
  refine Leaves.bind (P := Informed s.2) ?_ fun x t kept informed => ?_
  · show Leaves _ _ (batch x f.journalMode.text t)
    rw [batch_journal, ← kept]
    exact find_leaves unused ..
  · show Leaves _ _ (batch x f.syncMode.text t)
    rw [batch_sync]
    refine ⟨kept, fun y taken => ?_⟩
    cases taken
    exact ⟨⟨informed.idle, informed.plans, informed.changes⟩, informed.schema, informed.hasRead⟩

/-- Whatever becomes of a search for a database, it changes no link and no database. -/
theorem locate_spec (d : Dialect) (f : FileSettings) :
    Ensures (fun s => s.2 = d) (opener.locate f)
      fun r s => s.2 = d ∧ ∀ x : Draft, r = .ok x → Informed d x.link := by
  have room : Ensures (fun s => s.2 = d) (Opener.makeRoom f) fun _ s => s.2 = d := by
    refine .read_bind fun fault => ?_
    cases fault with
    | some fault => exact .throw fun _ h => h.1
    | none =>
      refine .read_bind fun parents => ?_
      cases parents with
      | error reason => exact .throw fun _ h => h.1.1
      | ok tree => exact .change fun _ h => h.1.1
  refine room.bind (fun _ => .mapError fun s hs => ?_) fun _ _ h => ⟨h, fun _ found => nomatch found⟩
  obtain ⟨kept, informed⟩ := hs ▸ configure_leaves f s
  refine ⟨kept, fun x found => informed x ?_⟩
  cases searched : ((opener.configure f).run s).1 with
  | error e =>
    rw [searched] at found
    nomatch found
  | ok y =>
    rw [searched] at found
    cases found
    rfl

end Dialect

namespace Server

variable {s : Server} {f : FileSettings}

/-- All that an opening can do: it fails and has changed no more than files, or there is one more
link, which knows its tables. -/
theorem openFile_cases (s : Server) (f : FileSettings) : ∃ tree,
    (∃ e, s.openFile f = (.error e, { s with tree })) ∨
    ∃ l, s.library.Informed l ∧ s.openFile f =
      (.ok s.library.links.next, { s with tree, library.links := s.library.links.push l }) := by
  have located := Dialect.locate_spec s.library f (s.tree, s.library) rfl
  unfold openFile Engines.within
  rcases Opener.openFile_cases Dialect.waits f (s.tree, s.library) with ⟨e, ⟨tree, d⟩, search, run⟩ |
    ⟨x, ⟨tree, d⟩, search, ⟨-, run⟩ | ⟨-, y, u, taken, run⟩⟩
  all_goals
    rw [search] at located
    obtain ⟨kept, informed⟩ := located
    cases kept
    rw [run]
    refine ⟨tree, ?_⟩
  · exact .inl ⟨_, rfl⟩
  · exact .inl ⟨_, rfl⟩
  · cases taken
    have known := informed x rfl
    have emptied : (x.link.plans.resize f.statementCapacity.toNat).2.entries = [] := by
      simp [Cache.resize, Cache.trim, Cache.countEvictions, known.plans]
    exact .inr ⟨{ x.link with
        pragmas.busyTimeout := Int64.ofNat f.busyTimeout.toNat
        plans := (x.link.plans.resize f.statementCapacity.toNat).2 },
      ⟨⟨known.idle, emptied, known.changes⟩, known.schema, known.hasRead⟩, rfl⟩

/-- An attempt that gives no engine changes no link, no database and no statement. -/
theorem unopened_kept (unopened : ∀ i, (s.openFile f).1 ≠ .ok i) :
    (s.openFile f).2.library = s.library ∧ (s.openFile f).2.slots = s.slots := by
  obtain ⟨tree, ⟨e, failed⟩ | ⟨l, -, opened⟩⟩ := s.openFile_cases f
  · rw [failed]
    exact ⟨rfl, rfl⟩
  · rw [opened] at unopened
    exact absurd rfl (unopened _)

end Server

-- One millisecond less gives an engine.
example : (Server.openFile {} { path := "x.db", busyTimeout := 2147483647 }).1 = .ok 0 :=
  rfl

end Prepared.Sql
