import Prepared.Proofs.Entries

/-! Caches that are kept.

A cache is emptied when its connection goes out of use, and not before. Whatever else is done
without obtaining a statement leaves the cache alone, unless it is there to change it: what is
looked up, bound, executed, closed or dropped makes no difference to what is cached, nor to the
order of that. -/
namespace Prepared

/-- The capacity and the counters of a cache. -/
def Cache.tally {α : Type} (v : Cache α) : Nat × Counters :=
  (v.capacity, v.counters)

namespace Store

open Operation

variable {σ ε : Type} {E : Engine σ} {s t u : Store σ} {c d : ConnectionId} {h : CompiledId}
  {p : ProgramId}

/-- The connections and the programs, with all that there is about them. -/
def tables (s : Store σ) : Table Connection × Table Program :=
  (s.connections, s.programs)

section Tables

theorem report_tables {e : Event} : Keeps tables (report e : Op σ ε Unit) :=
  fun _ => rfl

theorem trace_tables {e : Event} : Keeps tables (trace c e : Op σ ε Unit) :=
  .bind (.read _) fun _ => .ite report_tables (.pure ())

theorem request_tables {i : EngineId} {r : Primitive} : Keeps tables (request E i r) :=
  fun _ => rfl

theorem destroy_tables : Keeps tables (destroy E h) :=
  .bind (.read _) fun _ => .ite (.pure _) (.bind (.change fun _ => rfl) fun _ => request_tables)

theorem discard_tables : Keeps tables (discard E h) :=
  .bind (.read _) fun _ => .ite report_tables (.bind report_tables fun _ => destroy_tables)

theorem relinquish_tables : Keeps tables (relinquish E c h) :=
  .bind (.read _) fun _ => .bind (.read _) fun _ => .ite
    (.bind (.change fun _ => rfl) fun _ => trace_tables)
    (.bind trace_tables fun _ => destroy_tables)

theorem dropUnreferenced_tables : Keeps tables (dropUnreferenced E h : Op σ ε Unit) := by
  refine .bind (.read _) fun _ => .bind (.read _) fun _ => .ite (.pure _)
    (.bind (.attempt destroy_tables) fun r => ?_)
  cases r with
  | ok _ => exact .pure _
  | error e => exact report_tables

theorem replay_tables {bs : List Binding} : Keeps tables (replay E h bs) :=
  .untilError (fun _ => .bind (.read _) fun _ => request_tables) bs

theorem abandon_tables : Keeps tables (abandon E c h : Op σ ε Unit) := by
  refine .bind (.read _) fun _ => .bind (.attempt relinquish_tables) fun r => ?_
  cases r with
  | ok _ => exact .pure _
  | error e => exact report_tables

end Tables

/-- Whether a connection has gone out of use: it has no references left, or nothing refers to
it. -/
def Gone (s : Store σ) (c : ConnectionId) : Prop :=
  (s.connection c).references = 0 ∨ s.isReferenced c = false

instance (s : Store σ) (c : ConnectionId) : Decidable (Gone s c) :=
  inferInstanceAs (Decidable (_ ∨ _))

/-- A connection has a certain cache, unless it has gone out of use, and even then with the same
capacity and counters. -/
structure Remains (c : ConnectionId) (v : Cache CompiledId) (t : Store σ) : Prop where
  tally : (t.connection c).cache.tally = v.tally
  same : (t.connection c).cache = v ∨ Gone t c

namespace Remains

variable {v w : Cache CompiledId}

theorem of_eq (same : (t.connection c).cache = v) : Remains c v t :=
  ⟨congrArg Cache.tally same, .inl same⟩

theorem trans (h : Remains c v t) (k : Remains c (t.connection c).cache u)
    (gone : Gone t c → Gone u c) : Remains c v u where
  tally := k.tally.trans h.tally
  same := by
    rcases h.same with same | out
    · exact k.same.imp_left fun same' => same'.trans same
    · exact .inr (gone out)

end Remains

/-- A later store with the same cache of a connection, unless that has gone out of use. -/
structure Retains (c : ConnectionId) (s t : Store σ) : Prop where
  gone : Gone s c → Gone t c
  cache : Remains c (s.connection c).cache t

instance : IsPreorder (Store σ) (Retains c) where
  refl _ := ⟨id, .of_eq rfl⟩
  trans _ _ _ h k := ⟨fun hs => k.gone (h.gone hs), h.cache.trans k.cache k.gone⟩

namespace Retains

theorem of_standing (standing : t.standing = s.standing)
    (references : (s.connection c).references = 0 → (t.connection c).references = 0)
    (cache : (t.connection c).cache = (s.connection c).cache) : Retains c s t where
  gone := Or.imp references fun alone => (isReferenced_of_standing standing c).trans alone
  cache := .of_eq cache

theorem of_tables (same : t.tables = s.tables) : Retains c s t := by
  have connection (d : ConnectionId) : t.connection d = s.connection d :=
    congrArg (fun v => v.1.get d) same
  have program (q : ProgramId) : t.program q = s.program q := congrArg (fun v => v.2.get q) same
  refine of_standing (Prod.ext (funext fun q => ?_) (funext fun d => ?_)) (fun none => ?_) ?_
  · show ((t.program q).connection, (t.program q).isDropped) = _
    rw [program]
    rfl
  · show (t.connection d).clones = _
    rw [connection]
    rfl
  · rw [connection]
    exact none
  · rw [connection]

theorem withConnection (s : Store σ) (d : ConnectionId) {f : Connection → Connection}
    (clones : ∀ x, (f x).clones = x.clones)
    (references : ∀ x, x.references = 0 → (f x).references = 0)
    (cache : ∀ x, (f x).cache = x.cache) : Retains c s (s.withConnection d f) := by
  refine of_standing (standing_withConnection s d clones) (fun none => ?_)
    (connection_part s d c (fun x => x.cache) cache)
  rw [connection_withConnection]
  split
  · exact references _ none
  · exact none

theorem withProgram (s : Store σ) (p : ProgramId) {f : Program → Program}
    (hf : ∀ x, ((f x).connection, (f x).isDropped) = (x.connection, x.isDropped)) :
    Retains c s (s.withProgram p f) :=
  of_standing (standing_withProgram s p hf) id rfl

/-- What is dropped is not referred to any more. -/
theorem dropped (s : Store σ) (p : ProgramId) :
    Retains c s (s.withProgram p fun x => { x with isDropped := true }) where
  gone := Or.imp_right fun alone => by
    rw [← Bool.not_eq_true, isReferenced_iff] at alone ⊢
    rintro (clones | ⟨q, home, used⟩)
    · exact alone (.inl clones)
    · refine alone (.inr ⟨q, ?_, ?_⟩)
      · have same : ((s.withProgram p fun x => { x with isDropped := true }).program q).connection =
            (s.program q).connection := program_part s p q (fun x => x.connection) fun _ => rfl
        exact same.symm.trans home
      · rw [program_withProgram] at used
        split at used
        · nomatch used
        · exact used
  cache := .of_eq rfl

theorem of_gone (gone : Gone t c)
    (tally : (t.connection c).cache.tally = (s.connection c).cache.tally) : Retains c s t :=
  ⟨fun _ => gone, tally, .inr gone⟩

end Retains

section Tally

/-- The capacity and the counters of the cache of a connection. -/
def tally (c : ConnectionId) (s : Store σ) : Nat × Counters :=
  (s.connection c).cache.tally

theorem tally_of_tables {α : Type} {x : Op σ ε α} (hx : Keeps tables x) : Keeps (tally c) x :=
  fun s => congrArg (fun v => (v.1.get c).cache.tally) (hx s)

theorem drain_tally : Keeps (tally c) (onCache d Cache.drain : Op σ ε _) := by
  intro s
  rw [onCache_run]
  unfold tally
  rw [cache_withCache]
  split <;> rfl

theorem retire_tally : Keeps (tally c) (retire E d) :=
  .bind (.change fun s => connection_part s d c (fun x => x.cache.tally) fun _ => rfl) fun _ =>
    .bind drain_tally fun out => .bind (tally_of_tables trace_tables) fun _ =>
    .forAll (fun _ => tally_of_tables destroy_tables) out

theorem dropConnectionIfUnreferenced_tally :
    Keeps (tally c) (dropConnectionIfUnreferenced E d : Op σ ε Unit) :=
  .bind (.read _) fun _ => .ite (.pure _) (.bind drain_tally fun out =>
    .forAll (fun _ => tally_of_tables dropUnreferenced_tables) out)

end Tally

section Leads

theorem retains_of_tables {α : Type} {x : Op σ ε α} (hx : Keeps tables x) : Leads (Retains c) x :=
  fun s => .of_tables (hx s)

theorem retains_queue {f : Program → Program}
    (hf : ∀ x, ((f x).connection, (f x).isDropped) = (x.connection, x.isDropped)) :
    Leads (Retains c) (change (·.withProgram p f) : Op σ ε Unit) :=
  fun s => .withProgram s p hf

/-- The cache of another connection is not concerned. -/
theorem retains_onCache {α : Type} {f : Cache CompiledId → α × Cache CompiledId} (other : c ≠ d) :
    Leads (Retains c) (onCache d f : Op σ ε α) := by
  intro s
  rw [onCache_run]
  have same : (s.withCache d fun x => (f x).2).connection c = s.connection c := by
    rw [withCache, connection_withConnection, if_neg fun hn => other hn.1]
  exact .of_standing (standing_withConnection s d fun _ => rfl) (fun none => by rw [same, none])
    (by rw [same])

theorem retains_retire (other : c ≠ d) : Leads (Retains c) (retire E d) :=
  .bind (fun s => .withConnection s d (fun _ => rfl) (fun _ => id) fun _ => rfl) fun _ =>
    .bind (retains_onCache other) fun _ => .bind (retains_of_tables trace_tables) fun _ =>
    .forAll (fun _ => retains_of_tables destroy_tables) _

theorem retains_releaseReference : Leads (Retains c) (releaseReference E d) := by
  intro s
  match held : (s.connection d).references with
  | 0 =>
    rw [releaseReference_none held]
    exact refl_of (Retains c) s
  | 1 =>
    by_cases same : c = d
    · subst same
      have account := (releaseReference_books (E := E) c s).1 c
      rw [if_pos rfl] at account
      have references : (((releaseReference E c).run s).2.connection c).references =
          (s.connection c).references - 1 := congrArg Account.references account
      rw [held] at references
      refine .of_gone (.inl references) ?_
      rw [releaseReference_last held]
      exact (retire_tally _).trans (connection_part s c c (fun x => x.cache.tally) fun _ => rfl)
    · rw [releaseReference_last held]
      refine trans_of (Retains c) ?_ (retains_retire same _)
      exact .withConnection s d (fun _ => rfl) (fun _ _ => rfl) fun _ => rfl
  | n + 2 =>
    rw [releaseReference_more held]
    refine .of_standing (standing_withConnection s d fun _ => rfl) (fun none => ?_)
      (connection_part s d c (fun x => x.cache) fun _ => rfl)
    have other : c ≠ d := by
      rintro rfl
      exact absurd (none.symm.trans held) (Nat.succ_ne_zero _).symm
    rw [connection_withConnection, if_neg fun hn => other hn.1]
    exact none

theorem retains_relinquishHeld : Leads (Retains c) (relinquishHeld E p) := by
  refine .bind (.read _) fun x => ?_
  cases x.held with
  | none => exact .pure _
  | some h =>
    exact .bind (retains_queue fun _ => rfl) fun _ => retains_of_tables relinquish_tables

theorem retains_tearDown {unlist : Bool} : Leads (Retains c) (tearDown E unlist p) := by
  have deregistered : Leads (Retains c) (deregister p : Op σ EngineError Unit) :=
    .bind (.read _) fun _ s => .withConnection s _ (fun _ => rfl) (fun _ => id) fun _ => rfl
  refine .bind (retains_queue fun _ => rfl) fun _ => .bind (.read _) fun x => .ite (.pure _)
    (.bind (retains_queue fun _ => rfl) fun _ => .both retains_relinquishHeld ?_)
  cases unlist with
  | true => exact .bind deregistered fun _ => retains_releaseReference
  | false => exact retains_releaseReference

theorem retains_dropConnectionIfUnreferenced :
    Leads (Retains c) (dropConnectionIfUnreferenced E d : Op σ ε Unit) := by
  intro s
  cases referenced : s.isReferenced d with
  | true =>
    have run : (dropConnectionIfUnreferenced E d : Op σ ε Unit).run s = (.ok (), s) := by
      simp [dropConnectionIfUnreferenced, referenced]
    rw [run]
    exact refl_of (Retains c) s
  | false =>
    by_cases same : c = d
    · subst same
      have standing : (((dropConnectionIfUnreferenced E c : Op σ ε Unit)).run s).2.standing =
          s.standing := keeps_dropConnectionIfUnreferenced s
      exact .of_gone (.inr ((isReferenced_of_standing standing c).trans referenced))
        (dropConnectionIfUnreferenced_tally s)
    · exact Leads.bind (.read _) (fun _ => .ite (.pure _) (.bind (retains_onCache same) fun _ =>
        .forAll (fun _ => retains_of_tables dropUnreferenced_tables) _)) s

theorem retains_dropProgram : Leads (Retains c) (dropProgram E p : Op σ ε Unit) := by
  have dropped : Leads (Retains c) (change (·.withProgram p fun x => { x with isDropped := true }) :
      Op σ ε Unit) := fun s => .dropped s p
  refine .bind (.read _) fun x => .bind (.attempt retains_tearDown) fun r => ?_
  cases r with
  | ok _ => exact .bind dropped fun _ => retains_dropConnectionIfUnreferenced
  | error e =>
    exact .bind (retains_of_tables report_tables) fun _ => .bind dropped fun _ =>
      retains_dropConnectionIfUnreferenced

theorem retains_closeInOrder {order : List ProgramId} :
    Leads (Retains c) (closeInOrder E d order) :=
  .bind (.read _) fun _ => .ite (.bind (fun s => .withConnection s d (fun _ => rfl) (fun _ => id)
    fun _ => rfl) fun _ => .bind (retains_of_tables trace_tables) fun _ =>
    .both (.forAll (fun _ => retains_tearDown) _) retains_releaseReference) (.pure _)

theorem retains_lookup {sql : String} :
    Leads (Retains c) (lookup d sql : Op σ ε (Option CompiledId)) := by
  refine retains_of_tables (.bind (.read _) fun x => ?_)
  cases x.cache.peek? (Text.trim sql) with
  | none => exact .pure _
  | some h => exact .bind (.change fun _ => rfl) fun _ => .pure _

theorem retains_giveBack : Leads (Retains c) (giveBack E h : Op σ ε Unit) :=
  retains_of_tables (.bind (.change fun _ => rfl) fun _ => dropUnreferenced_tables)

theorem retains_evict {sql : String} (other : c ≠ d) : Leads (Retains c) (evict E d sql) := by
  refine .bind (retains_onCache other) fun out => ?_
  cases out with
  | none => exact .pure _
  | some h => exact .bind (retains_of_tables discard_tables) fun _ => .pure _

theorem retains_setCapacity {n : Nat} (other : c ≠ d) : Leads (Retains c) (setCapacity E d n) :=
  .ite (.throw _) (.bind (.read _) fun _ => .ite (.throw _)
    (.bind (retains_onCache other) fun out =>
      .mapError (.forAll (fun _ => retains_of_tables discard_tables) out)))

theorem retains_bindValue {position : UInt32} {value : Value} :
    Leads (Retains c) (bindValue E p position value) := by
  refine .ite (.throw _) (.bind (retains_of_tables verifyUsable_keeps) fun _ =>
    .bind (.read _) fun x => ?_)
  cases x.held with
  | none => exact retains_queue fun _ => rfl
  | some h => exact .mapError (.bind (.read _) fun _ => retains_of_tables request_tables)

theorem retains_clearBindings : Leads (Retains c) (clearBindings E p) := by
  refine .bind (retains_of_tables verifyUsable_keeps) fun _ =>
    .bind (retains_queue fun _ => rfl) fun _ => .bind (.read _) fun x => ?_
  cases x.held with
  | none => exact .pure _
  | some h => exact .bind (.read _) fun _ => .mapError (retains_of_tables request_tables)

end Leads

end Store

end Prepared
