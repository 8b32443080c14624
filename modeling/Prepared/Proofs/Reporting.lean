import Prepared.Proofs.Statistics

/-! What is reported.

A connection says at its opening whether it reports the life of its statements. What asks it first
reports nothing on a connection that does not. But a statement that leaves a cache is dealt with
where the connection is not at hand, and that is reported on every connection. So such a connection
is quiet exactly as long as its cache has evicted nothing. -/
namespace Prepared

namespace Event

/-- Whether an event says that a statement has left a cache. -/
def isEviction : Event → Bool
  | evicted _ | evictedInUse _ => true
  | _ => false

theorem level_of_isEviction {e : Event} (left : e.isEviction = true) : e.level = .debug := by
  cases e with
  | evicted | evictedInUse => rfl
  | _ => nomatch left

theorem not_isEviction_of_warn {e : Event} (warn : e.level = .warn) : e.isEviction = false := by
  by_contra left
  rw [Bool.not_eq_false] at left
  rw [level_of_isEviction left] at warn
  cases warn

end Event

namespace Cache

variable {α : Type} {v : Cache α} {key : String}

/-! Whatever a cache is made to give up is counted. -/

theorem evictions_insert (v : Cache α) (key : String) (a : α) :
    (v.insert key a).2.counters.evictions =
      v.counters.evictions + (v.insert key a).1.length := by
  unfold insert
  split <;> rfl

theorem evictions_erase (v : Cache α) (key : String) :
    (v.erase key).2.counters.evictions =
      v.counters.evictions + (v.erase key).1.toList.length := by
  unfold erase
  split <;> rfl

theorem evictions_touch (v : Cache α) (key : String) :
    (v.touch key).counters.evictions = v.counters.evictions := by
  unfold touch
  split <;> rfl

/-! An empty cache has nothing to give up. -/

theorem insert_of_empty (empty : v.entries = []) (key : String) (a : α) :
    (v.insert key a).1 = [] := by
  unfold insert
  split
  · rfl
  · next room =>
    obtain ⟨n, capacity⟩ := Nat.exists_eq_succ_of_ne_zero room
    simp [trim, others, peek?, empty, capacity]

theorem erase_of_empty (empty : v.entries = []) (key : String) : (v.erase key).1 = none := by
  simp [erase, peek?, empty]

theorem resize_of_empty (empty : v.entries = []) (n : Nat) : (v.resize n).1 = [] := by
  simp [resize, trim, empty]

end Cache

namespace Store

open Operation

variable {σ ε : Type} {E : Engine σ} {s t u : Store σ} {c d : ConnectionId} {h : CompiledId}
  {p : ProgramId} {sql : String} {owed : Nat}

/-- How many entries the cache of a connection was made to give up. -/
def evictions (s : Store σ) (c : ConnectionId) : Nat :=
  (s.connection c).cache.counters.evictions

/-- Whether a connection was opened to report the life of its statements. -/
def logs (s : Store σ) (c : ConnectionId) : Bool :=
  (s.connection c).logsLifecycle

/-- A later store: every eviction that was counted on a connection in the meantime has been
reported, but for some that are owed still. If the connection is not to report anything, that is
all that was reported, apart from warnings. -/
structure Reports (c : ConnectionId) (owed : Nat) (s t : Store σ) : Prop where
  exists_ : c < s.connections.next → c < t.connections.next
  logs : c < s.connections.next → t.logs c = s.logs c
  told : ∃ es, t.events = s.events ++ es ∧
    t.evictions c = s.evictions c + es.countP Event.isEviction + owed ∧
    (t.logs c = false → ∀ e ∈ es, e.level = .debug → e.isEviction = true)

/-- A connection that does not exist does not report anything. -/
theorem logs_of_le (new : s.connections.next ≤ c) : s.logs c = false := by
  have missing : s.connection c = default := Table.get_of_le _ new
  rw [logs, missing]
  rfl

theorem evictions_of_le (new : s.connections.next ≤ c) : s.evictions c = 0 := by
  have missing : s.connection c = default := Table.get_of_le _ new
  rw [evictions, missing]
  rfl

/-- All that reports depend on. -/
def reporting (c : ConnectionId) (s : Store σ) : Nat × Bool × Nat × List Event :=
  (s.connections.next, s.logs c, s.evictions c, s.events)

namespace Reports

theorem of_reporting (same : t.reporting c = s.reporting c) : Reports c 0 s t := by
  simp only [reporting, Prod.mk.injEq] at same
  obtain ⟨next, logs, evictions, events⟩ := same
  refine ⟨fun here => next ▸ here, fun _ => logs, [], ?_, ?_, ?_⟩
  · simp [events]
  · simp [evictions]
  · simp

theorem quiet (h : Reports c owed s t) (quiet : t.logs c = false) : s.logs c = false := by
  by_cases here : c < s.connections.next
  · exact (h.logs here).symm.trans quiet
  · exact logs_of_le (Nat.le_of_not_lt here)

theorem trans (h : Reports c owed s t) (k : Reports c 0 t u) : Reports c owed s u := by
  obtain ⟨es, events, count, only⟩ := h.told
  obtain ⟨fs, events', count', only'⟩ := k.told
  refine ⟨fun here => k.exists_ (h.exists_ here),
    fun here => (k.logs (h.exists_ here)).trans (h.logs here), es ++ fs, ?_, ?_, ?_⟩
  · rw [events', events, List.append_assoc]
  · rw [count', count, List.countP_append]
    omega
  · intro quiet e he
    rcases List.mem_append.1 he with he | he
    · exact only (k.quiet quiet) e he
    · exact only' quiet e he

/-- One more event is on record. -/
theorem noted {e : Event} (left : e.isEviction = false)
    (heard : s.logs c = true ∨ e.level = .warn) :
    Reports c 0 s { s with events := s.events ++ [e] } := by
  refine ⟨id, fun _ => rfl, [e], rfl, ?_, ?_⟩
  · simp only [List.countP_singleton, left]
    rfl
  · intro quiet f hf debug
    rw [List.mem_singleton.1 hf] at debug
    rcases heard with loud | warn
    · exact absurd (loud.symm.trans quiet) (by decide)
    · exact absurd (debug.symm.trans warn) (by decide)

/-- A statement that left the cache is reported. -/
theorem evicted {e : Event} (left : e.isEviction = true) (h : Reports c (owed + 1) s t) :
    Reports c owed s { t with events := t.events ++ [e] } := by
  obtain ⟨es, events, count, only⟩ := h.told
  refine ⟨h.exists_, h.logs, es ++ [e], ?_, ?_, ?_⟩
  · rw [events, List.append_assoc]
  · rw [List.countP_append, List.countP_singleton, if_pos left]
    show t.evictions c = _
    omega
  · intro quiet f hf debug
    rcases List.mem_append.1 hf with hf | hf
    · exact only quiet f hf debug
    · rw [List.mem_singleton.1 hf, left]

end Reports

instance : IsPreorder (Store σ) (Reports c 0) where
  refl _ := .of_reporting rfl
  trans _ _ _ h k := h.trans k

/-! What reports nothing. -/

section Keeps

theorem reporting_request {i : EngineId} {r : Primitive} : Keeps (reporting c) (request E i r) :=
  fun _ => rfl

theorem reporting_withStatement {f : Compiled → Compiled} :
    Keeps (reporting c) (change (·.withStatement h f) : Op σ ε Unit) :=
  fun _ => rfl

theorem reporting_withProgram {f : Program → Program} :
    Keeps (reporting c) (change (·.withProgram p f) : Op σ ε Unit) :=
  fun _ => rfl

theorem reporting_withConnection {f : Connection → Connection}
    (hf : ∀ x, ((f x).logsLifecycle, (f x).cache.counters.evictions) =
      (x.logsLifecycle, x.cache.counters.evictions)) :
    Keeps (reporting c) (change (·.withConnection d f) : Op σ ε Unit) := by
  intro s
  have same := connection_part s d c (fun x => (x.logsLifecycle, x.cache.counters.evictions)) hf
  simp only [Prod.mk.injEq] at same
  simp only [run_change, reporting, logs, evictions, next_withConnection, same]
  rfl

theorem reporting_onCache {α : Type} {f : Cache CompiledId → α × Cache CompiledId}
    (hf : ∀ v, (f v).2.counters.evictions = v.counters.evictions) :
    Keeps (reporting c) (onCache d f : Op σ ε α) := by
  intro s
  rw [onCache_run]
  exact reporting_withConnection (ε := ε) (fun x => by rw [hf]) s

theorem reporting_count (a : Acquisition) :
    Keeps (reporting c) (onCache d (fun cache => ((), cache.count a)) : Op σ ε Unit) :=
  reporting_onCache fun v => by cases a <;> rfl

theorem reporting_compile : Keeps (reporting c) (compile E d sql) :=
  .bind (.read _) fun _ => .bind reporting_request fun _ => .bind (.read _) fun _ =>
    .bind (.change fun _ => rfl) fun _ => .pure _

theorem reporting_claim : Keeps (reporting c) (claim h : Op σ ε Bool) :=
  .bind (.read _) fun _ => .ite (.pure _) (.bind reporting_withStatement fun _ => .pure _)

theorem reporting_destroy : Keeps (reporting c) (destroy E h) :=
  .bind (.read _) fun _ => .ite (.pure _) (.bind reporting_withStatement fun _ => reporting_request)

theorem reporting_drain : Keeps (reporting c) (onCache d Cache.drain : Op σ ε (List CompiledId)) :=
  reporting_onCache fun _ => rfl

theorem reporting_verifyUsable : Keeps (reporting c) (verifyUsable p : Op σ ProgramError Unit) := by
  intro s
  rcases verifyUsable_cases p s with ⟨-, -, usable⟩ | ⟨m, unusable⟩
  · rw [usable]
  · rw [unusable]

theorem reporting_acquireReference :
    Keeps (reporting c) (acquireReference d : Op σ ProgramError Unit) :=
  .bind (.read _) fun _ => .ite (.throw _) (.ite (.throw _) (reporting_withConnection fun _ => rfl))

theorem reporting_createDeferred :
    Keeps (reporting c) (createDeferred d sql : Op σ ProgramError ProgramId) :=
  .bind (.bind (.read _) fun _ => .ite (.pure _) (.throw _)) fun _ =>
    .bind reporting_acquireReference fun _ => .bind (.read _) fun _ =>
    .bind (.change fun _ => rfl) fun _ => .bind (reporting_withConnection fun _ => rfl) fun _ =>
    .pure _

theorem reporting_applyBinding {b : Binding} : Keeps (reporting c) (applyBinding E h b) :=
  .bind (.read _) fun _ => reporting_request

theorem reporting_bindValue {position : UInt32} {value : Value} :
    Keeps (reporting c) (bindValue E p position value) := by
  refine .ite (.throw _) (.bind reporting_verifyUsable fun _ => .bind (.read _) fun x => ?_)
  cases x.held with
  | none => exact reporting_withProgram
  | some h => exact .mapError reporting_applyBinding

theorem reporting_clearBindings : Keeps (reporting c) (clearBindings E p) := by
  refine .bind reporting_verifyUsable fun _ => .bind reporting_withProgram fun _ =>
    .bind (.read _) fun x => ?_
  cases x.held with
  | none => exact .pure _
  | some h => exact .bind (.read _) fun _ => .mapError reporting_request

theorem reporting_lookup : Keeps (reporting c) (lookup d sql : Op σ ε (Option CompiledId)) := by
  refine .bind (.read _) fun x => ?_
  cases x.cache.peek? (Text.trim sql) with
  | none => exact .pure _
  | some h => exact .bind reporting_withStatement fun _ => .pure _

end Keeps

/-! What reports warnings, or asks first. -/

section Leads

theorem reports_of_keeps {α : Type} {x : Op σ ε α} (hx : Keeps (reporting c) x) :
    Leads (Reports c 0) x :=
  fun s => .of_reporting (hx s)

theorem reports_warning {e : Event} (warn : e.level = .warn) :
    Leads (Reports c 0) (report e : Op σ ε Unit) :=
  fun _ => .noted (Event.not_isEviction_of_warn warn) (.inr warn)

theorem reports_trace {e : Event} (left : e.isEviction = false) :
    Leads (Reports c 0) (trace c e : Op σ ε Unit) := by
  intro s
  by_cases loud : s.logs c = true
  · have run : (trace c e : Op σ ε Unit).run s = (.ok (), { s with events := s.events ++ [e] }) := by
      rw [trace, run_bind, run_read]
      simp only [logs] at loud
      simp only [loud, if_true]
      rfl
    rw [run]
    exact .noted left (.inl loud)
  · have run : (trace c e : Op σ ε Unit).run s = (.ok (), s) := by
      rw [trace, run_bind, run_read]
      simp only [logs] at loud
      simp only [if_neg loud]
      rfl
    rw [run]
    exact refl_of (Reports c 0) s

theorem reports_acquireContended : Leads (Reports c 0) (acquireContended E c sql h) :=
  .bind (reports_of_keeps reporting_compile) fun _ =>
    .bind (reports_of_keeps (reporting_count _)) fun _ => .bind (.read _) fun _ =>
    .bind (.read _) fun _ => .bind (reports_warning rfl) fun _ => .pure _

theorem reports_acquireUncached {kind : Kind} :
    Leads (Reports c 0) (acquireUncached E c kind sql) :=
  .bind (reports_of_keeps reporting_compile) fun _ =>
    .bind (reports_of_keeps (reporting_count _)) fun _ => .bind (.read _) fun _ =>
    .bind (reports_trace rfl) fun _ => .pure _

theorem reports_relinquish : Leads (Reports c 0) (relinquish E c h) :=
  .bind (.read _) fun _ => .bind (.read _) fun _ => .ite
    (.bind (reports_of_keeps reporting_withStatement) fun _ => reports_trace rfl)
    (.bind (reports_trace rfl) fun _ => reports_of_keeps reporting_destroy)

theorem reports_dropUnreferenced : Leads (Reports c 0) (dropUnreferenced E h : Op σ ε Unit) := by
  refine .bind (.read _) fun _ => .bind (.read _) fun _ => .ite (.pure _)
    (.bind (.attempt (reports_of_keeps reporting_destroy)) fun r => ?_)
  cases r with
  | ok _ => exact .pure _
  | error e => exact reports_warning rfl

theorem reports_retire : Leads (Reports c 0) (retire E c) :=
  .bind (reports_of_keeps (reporting_withConnection fun _ => rfl)) fun _ =>
    .bind (reports_of_keeps reporting_drain) fun _ => .bind (reports_trace rfl) fun _ =>
    .forAll (fun _ => reports_of_keeps reporting_destroy) _

theorem reports_releaseReference : Leads (Reports c 0) (releaseReference E c) :=
  .bind (.read _) fun _ => .ite (.pure _)
    (.bind (reports_of_keeps (reporting_withConnection fun _ => rfl)) fun _ =>
      .ite reports_retire (.pure _))

theorem reports_dropConnectionIfUnreferenced :
    Leads (Reports c 0) (dropConnectionIfUnreferenced E d : Op σ ε Unit) :=
  .bind (.read _) fun _ => .ite (.pure _) (.bind (reports_of_keeps reporting_drain) fun _ =>
    .forAll (fun _ => reports_dropUnreferenced) _)

theorem reports_abandon : Leads (Reports c 0) (abandon E c h : Op σ ε Unit) := by
  refine .bind (.read _) fun _ => .bind (.attempt reports_relinquish) fun r => ?_
  cases r with
  | ok _ => exact .pure _
  | error e => exact reports_warning rfl

theorem Reports.connected (s : Store σ) (x : Connection) (unused : x.cache.counters = {}) :
    Reports c 0 s { s with connections := s.connections.push x } := by
  refine ⟨fun here => ?_, fun here => ?_, [], ?_, ?_, ?_⟩
  · rw [Table.next_push]
    exact Nat.lt_succ_of_lt here
  · rw [Store.logs, connection_pushed, if_neg (Nat.ne_of_lt here)]
    rfl
  · simp
  · rw [evictions, connection_pushed]
    split
    · next new =>
      rw [unused, evictions_of_le (Nat.le_of_eq new.symm)]
      rfl
    · rfl
  · simp

theorem reports_addConnection {i : EngineId} {settings : Settings} :
    Leads (Reports c 0) (addConnection i settings : Op σ ε ConnectionId) :=
  .bind (.read _) fun _ => .bind (fun s => .connected s _ rfl) fun _ => .pure _

theorem reports_openConnection {i : EngineId} {settings : Settings} :
    Leads (Reports c 0) (openConnection i settings : Op σ SettingsError ConnectionId) := by
  unfold openConnection
  cases settings.validate with
  | ok _ => exact reports_addConnection
  | error e => exact .throw _

end Leads

/-! What makes a cache give up entries. -/

section Displaces

/-- Every statement that left the cache is reported, with no regard to the connection. -/
theorem discard_reports :
    Ensures (Reports c (owed + 1) s) (discard E h) fun _ => Reports c owed s := by
  refine .read_bind fun x => .ite (fun _ => ?_) fun _ => ?_
  · intro t ht
    exact ht.1.evicted rfl
  · refine .change_bind (M := Reports c owed s) (fun t ht => ht.1.evicted rfl) fun t ht => ?_
    exact ht.trans (reports_of_keeps reporting_destroy t)

theorem discardAll_reports (out : List CompiledId) :
    Ensures (Reports c out.length s) (forAll (discard E) out) fun _ => Reports c 0 s :=
  Ensures.forAll (I := fun out => Reports c out.length s) (fun _ _ => discard_reports) out

/-- What a cache has given up and counted is yet to be reported. -/
theorem Reports.displaced {f : Cache CompiledId → Cache CompiledId} {n : Nat}
    (counts : (f (t.connection c).cache).counters.evictions = t.evictions c + n)
    (empty : (t.connection c).cache.entries = [] → n = 0) (h : Reports c 0 s t) :
    Reports c n s (t.withCache c f) := by
  obtain ⟨es, events, count, only⟩ := h.told
  have logs : (t.withCache c f).logs c = t.logs c :=
    connection_part t c c (fun x => x.logsLifecycle) fun _ => rfl
  refine ⟨fun here => ?_, fun here => logs.trans (h.logs here), es, events, ?_, ?_⟩
  · rw [withCache, next_withConnection]
    exact h.exists_ here
  · rw [evictions, cache_withCache]
    split
    · rw [counts, count, Nat.add_zero]
    · next missing =>
      have new : t.connections.next ≤ c := by simpa using missing
      have nothing : n = 0 := by
        apply empty
        rw [show t.connection c = default from Table.get_of_le _ new]
        rfl
      rw [nothing]
      exact count
  · rw [logs]
    exact only

theorem reports_after {α : Type} {x : Op σ ε α} (hx : Leads (Reports c 0) x) :
    Ensures (Reports c owed s) x fun _ => Reports c owed s :=
  fun t ht => ht.trans (hx t)

theorem reports_trace_bind {β : Type} {e : Event} {k : Unit → Op σ ε β} {F : Store σ → Prop}
    {R : Except ε β → Store σ → Prop} (left : e.isEviction = false)
    (hF : ∀ t es, F t → F { t with events := t.events ++ es })
    (hk : Ensures (fun t => Reports c owed s t ∧ F t) (k ()) R) :
    Ensures (fun t => Reports c owed s t ∧ F t) (Store.trace c e >>= k) R := by
  intro t ht
  have after := ht.1.trans (reports_trace (ε := ε) left t)
  obtain ⟨es, run⟩ := trace_run (ε := ε) c e t
  rw [run] at after
  rw [run_bind, run]
  exact hk _ ⟨after, hF t es ht.2⟩

theorem reports_of_ensures {α : Type} {x : Op σ ε α}
    (hx : ∀ s, Ensures (Reports c 0 s) x fun _ => Reports c 0 s) : Leads (Reports c 0) x :=
  fun s => hx s s (refl_of (Reports c 0) s)

theorem reports_acquireMiss : Leads (Reports c 0) (acquireMiss E c sql) := by
  refine .bind (reports_of_keeps reporting_compile) fun h =>
    .bind (reports_of_keeps reporting_claim) fun _ =>
    .bind (reports_of_keeps (reporting_count _)) fun _ => reports_of_ensures fun s => ?_
  refine Ensures.onCache_bind (Q := fun out => Reports c out.length s) (fun t ht => ?_) fun out => ?_
  · refine ht.displaced (Cache.evictions_insert ..) fun empty => ?_
    rw [Cache.insert_of_empty empty]
    rfl
  refine .read_bind fun x => reports_trace_bind rfl (fun _ _ => id) ?_
  refine .attempt_bind ((discardAll_reports out).pre fun _ => And.left) fun r => ?_
  cases r with
  | ok _ => exact reports_after (.pure _)
  | error e => exact reports_after (.bind (reports_warning rfl) fun _ => .pure _)

theorem reports_acquire {kind : Kind} : Leads (Reports c 0) (acquire E c kind sql) := by
  refine .ite (.bind (reports_of_keeps (reporting_onCache fun v => ?_)) fun cached => ?_)
    reports_acquireUncached
  · exact Cache.evictions_touch v sql
  · cases cached with
    | none => exact reports_acquireMiss
    | some h =>
      exact .bind (reports_of_keeps reporting_claim) fun _ => .ite
        (.bind (reports_of_keeps (reporting_count _)) fun _ => .bind (.read _) fun _ =>
          .bind (reports_trace rfl) fun _ => .pure _) reports_acquireContended

theorem reports_evict : Leads (Reports c 0) (evict E c sql) := by
  refine reports_of_ensures fun s => ?_
  refine Ensures.onCache_bind (Q := fun out => Reports c out.toList.length s) (fun t ht => ?_)
    fun out => ?_
  · refine ht.displaced (Cache.evictions_erase ..) fun empty => ?_
    rw [Cache.erase_of_empty empty]
    rfl
  · cases out with
    | none => exact reports_after (.pure _)
    | some h => exact discard_reports.bind (fun _ => reports_after (.pure _)) fun _ _ => id

theorem reports_setCapacity {n : Nat} : Leads (Reports c 0) (setCapacity E c n) := by
  refine .ite (.throw _) (.bind (.read _) fun x => .ite (.throw _)
    (reports_of_ensures fun s => ?_))
  refine Ensures.onCache_bind (Q := fun out => Reports c out.length s) (fun t ht => ?_) fun out => ?_
  · refine ht.displaced rfl fun empty => ?_
    rw [Cache.resize_of_empty empty]
    rfl
  · exact .mapError (discardAll_reports out)

end Displaces

/-! What is done for a program is reported on the connection of the program. -/

section Programs

theorem reports_bind {α β : Type} {x : Op σ ε α} {k : α → Op σ ε β}
    (hx : Reports c 0 s (x.run s).2) (hk : ∀ a, Leads (Reports c 0) (k a)) :
    Reports c 0 s ((x >>= k).run s).2 := by
  rw [run_bind]
  rcases hr : x.run s with ⟨_ | a, t⟩ <;> rw [hr] at hx
  · exact hx
  · exact hx.trans (hk a t)

theorem reports_home {α : Type} {k : Program → Op σ ε α} (home : (s.program p).connection = c)
    (hk : ∀ x : Program, x.connection = c → Leads (Reports c 0) (k x)) :
    Reports c 0 s ((read (·.program p) >>= k).run s).2 := by
  rw [run_bind, run_read]
  exact hk _ home s

theorem relinquishHeld_reports (home : (s.program p).connection = c) :
    Reports c 0 s ((relinquishHeld E p).run s).2 := by
  refine reports_home home fun x hx => ?_
  cases x.held with
  | none => exact .pure _
  | some h =>
    rw [hx]
    exact .bind (reports_of_keeps reporting_withProgram) fun _ => reports_relinquish

theorem ensureCompiled_reports (home : (s.program p).connection = c) :
    Reports c 0 s ((ensureCompiled E p).run s).2 := by
  refine reports_home home fun x hx => ?_
  cases x.held with
  | some h => exact .pure _
  | none =>
    rw [hx]
    refine .bind reports_acquire fun h => .bind (.attempt (.untilError (fun _ =>
      reports_of_keeps reporting_applyBinding) _)) fun r => ?_
    cases r with
    | ok _ => exact .bind (reports_of_keeps reporting_withProgram) fun _ => .pure _
    | error e => exact .bind reports_abandon fun _ => .throw _

theorem compileProgram_reports (home : (s.program p).connection = c) :
    Reports c 0 s ((compileProgram E p).run s).2 := by
  rcases verifyUsable_cases p s with ⟨-, -, usable⟩ | ⟨m, refused⟩
  · rw [compileProgram, run_bind, usable]
    exact reports_bind (x := mapError ProgramError.engine (ensureCompiled E p))
      (ensureCompiled_reports home) fun _ => .pure _
  · rw [compileProgram_unusable refused]
    exact refl_of (Reports c 0) s

theorem execute_reports (home : (s.program p).connection = c) :
    Reports c 0 s ((execute E p).run s).2 := by
  rcases verifyUsable_cases p s with ⟨-, -, usable⟩ | ⟨m, refused⟩
  · rw [execute, run_bind, usable]
    exact reports_bind (x := mapError ProgramError.engine (ensureCompiled E p))
      (ensureCompiled_reports home) fun _ =>
        executeHeld_leads fun _ _ => reports_of_keeps reporting_request
  · rw [execute_unusable refused]
    exact refl_of (Reports c 0) s

theorem tearDown_reports (unlist : Bool) :
    Ensures (fun t => Reports c 0 s t ∧ (t.program p).connection = c) (tearDown E unlist p)
      fun _ => Reports c 0 s := by
  have home {t : Store σ} {f : Program → Program} (here : (t.program p).connection = c)
      (hf : ∀ x, (f x).connection = x.connection) :
      ((t.withProgram p f).program p).connection = c :=
    (program_part t p p (fun x => x.connection) hf).trans here
  refine .change_bind (M := fun t => Reports c 0 s t ∧ (t.program p).connection = c)
    (fun t ht => ⟨ht.1.trans (.of_reporting rfl), home ht.2 fun _ => rfl⟩)
    (.read_bind fun x => .ite (fun _ => .pure fun t ht => ht.1.1) fun _ => ?_)
  refine .change_bind
    (M := fun t => (Reports c 0 s t ∧ (t.program p).connection = c) ∧ x.connection = c)
    (fun t ht => ⟨⟨ht.1.1.trans (.of_reporting rfl), home ht.1.2 fun _ => rfl⟩, ht.2 ▸ ht.1.2⟩)
    (.of_fact fun same => ?_)
  rw [same]
  refine .both (M := Reports c 0 s) (fun t ht => ht.1.trans (relinquishHeld_reports ht.2)) ?_
  have deregistered : Leads (Reports c 0) (deregister p : Op σ EngineError Unit) :=
    .bind (.read _) fun _ => reports_of_keeps (reporting_withConnection fun _ => rfl)
  cases unlist with
  | true => exact reports_after (.bind deregistered fun _ => reports_releaseReference)
  | false => exact reports_after reports_releaseReference

theorem dropProgram_reports :
    Ensures (fun t => Reports c 0 s t ∧ (t.program p).connection = c)
      (dropProgram E p : Op σ ε Unit) fun _ => Reports c 0 s := by
  refine .read_bind fun x => .attempt_bind ((tearDown_reports true).pre fun _ => And.left)
    fun r => ?_
  have gone : Leads (Reports c 0) (do
      change (·.withProgram p fun x => { x with isDropped := true })
      dropConnectionIfUnreferenced E x.connection : Op σ ε Unit) :=
    .bind (reports_of_keeps reporting_withProgram) fun _ => reports_dropConnectionIfUnreferenced
  cases r with
  | ok _ => exact reports_after gone
  | error e => exact reports_after (.bind (reports_warning rfl) fun _ => gone)

theorem createCompiled_reports (c : ConnectionId) (sql : String) (s : Store σ) :
    Reports c 0 s ((createCompiled E c sql).run s).2 := by
  have created : Reports c 0 s ((createDeferred (σ := σ) c sql).run s).2 :=
    reports_of_keeps reporting_createDeferred s
  by_cases closed : (s.connection c).isOpen = false ∨ ¬ (s.connection c).Grants
  · obtain ⟨e, refused⟩ := createDeferred_error sql closed
    rw [createCompiled, run_bind, refused]
    exact refl_of (Reports c 0) s
  · rw [not_or, Bool.not_eq_false, not_not] at closed
    have run := createDeferred_ok sql closed.1 closed.2
    rw [run] at created
    let t := s.withConnection c fun x => { x with references := x.references + 1 }
    have home : ((t.created c sql).program s.programs.next).connection = c := by
      rw [(program_created t c sql s.programs.next).trans (if_pos rfl)]
    have compiled := created.trans (compileProgram_reports (E := E) home)
    have stays : (((compileProgram E s.programs.next).run (t.created c sql)).2.program
        s.programs.next).connection = c := by
      have same := standing_of_steady (compileProgram_keeps (E := E) (p := s.programs.next)
        (t.created c sql))
      exact (congrArg (fun v => (v.1 s.programs.next).1) same).trans home
    rcases outcome : (compileProgram E s.programs.next).run (t.created c sql) with ⟨e | _, u⟩
    all_goals rw [outcome] at compiled stays
    · rw [createCompiled_error run outcome]
      exact dropProgram_reports _ ⟨compiled, stays⟩
    · rw [createCompiled_ok run outcome]
      exact compiled

theorem closeInOrder_reports (order : List ProgramId)
    (homes : ∀ p ∈ order, (s.program p).connection = c) :
    Reports c 0 s ((closeInOrder E c order).run s).2 := by
  let Homed (ps : List ProgramId) (t : Store σ) : Prop :=
    Reports c 0 s t ∧ ∀ p ∈ ps, (t.program p).connection = c
  have swept : Ensures (Homed order) (forAll (tearDown E false) order) fun _ => Homed [] := by
    refine Ensures.forAll (fun p ps t ht => ⟨?_, fun q hq => ?_⟩) order
    · exact tearDown_reports false t ⟨ht.1, ht.2 p (by simp)⟩
    · have stays : Keeps standing (tearDown E false p) := tearDown_keeps
      exact (congrArg (fun v => (v.1 q).1) (stays t)).trans (ht.2 q (by simp [hq]))
  have closes : Ensures (Homed order) (closeInOrder E c order) fun _ => Reports c 0 s := by
    refine .read_bind fun x => .ite (fun _ => ?_) fun _ => .pure fun t ht => ht.1.1
    have shut : Leads (Reports c 0) (change (·.withConnection c fun x =>
        { x with isOpen := false, programs := [] }) : Op σ EngineError Unit) :=
      reports_of_keeps (reporting_withConnection fun _ => rfl)
    refine .change_bind (M := Homed order) (fun t ht => ⟨ht.1.1.trans (shut t), ht.1.2⟩) ?_
    exact reports_trace_bind rfl (fun _ _ => id)
      (.both swept (.pre (reports_after reports_releaseReference) fun _ => And.left))
  exact closes s ⟨refl_of (Reports c 0) s, homes⟩

end Programs

theorem reports_cloneConnection : Leads (Reports c 0) (cloneConnection d : Op σ ε Unit) :=
  reports_of_keeps (reporting_withConnection fun _ => rfl)

theorem reports_dropConnection : Leads (Reports c 0) (dropConnection E d : Op σ ε Unit) :=
  .bind (reports_of_keeps (reporting_withConnection fun _ => rfl)) fun _ =>
    reports_dropConnectionIfUnreferenced

theorem reports_giveBack : Leads (Reports c 0) (giveBack E h : Op σ ε Unit) :=
  .bind (reports_of_keeps reporting_withStatement) fun _ => reports_dropUnreferenced

/-- Every action reports on the connection that it works on. -/
theorem Action.reports (registered : Registered s) {a : Action} (allowed : a.Allowed s) :
    Reports (a.connection s) 0 s (a.perform E s).2 := by
  have reports {c : ConnectionId} {ε α : Type} {x : Op σ ε α} (leads : Leads (Reports c 0) x) :
      Reports c 0 s (x.run s).2 := leads s
  cases a with
  | openConnection => exact reports reports_openConnection
  | openDefault => exact reports reports_addConnection
  | cloneConnection => exact reports reports_cloneConnection
  | dropConnection => exact reports reports_dropConnection
  | closeConnection c order =>
    exact closeInOrder_reports order fun p hp => registered c p (allowed.2.subset hp)
  | acquireReference => exact reports (reports_of_keeps reporting_acquireReference)
  | releaseReference => exact reports reports_releaseReference
  | lookup => exact reports (reports_of_keeps reporting_lookup)
  | giveBack => exact reports reports_giveBack
  | evict => exact reports reports_evict
  | setCapacity => exact reports reports_setCapacity
  | createDeferred => exact reports (reports_of_keeps reporting_createDeferred)
  | createCompiled c sql => exact createCompiled_reports c sql s
  | bindValue => exact reports (reports_of_keeps reporting_bindValue)
  | bindPresent p position value =>
    cases value with
    | none => exact refl_of (Reports _ 0) s
    | some v => exact reports (reports_of_keeps reporting_bindValue)
  | clearBindings => exact reports (reports_of_keeps reporting_clearBindings)
  | compile => exact compileProgram_reports rfl
  | execute => exact execute_reports rfl
  | closeProgram p => exact tearDown_reports true s ⟨refl_of (Reports _ 0) s, rfl⟩
  | dropProgram p => exact dropProgram_reports (ε := Empty) s ⟨refl_of (Reports _ 0) s, rfl⟩

/-- The events that were reported in a step. -/
def Step.reported (x : Step σ) : List Event :=
  x.after.events.drop x.before.events.length

/-- The events that were reported in the steps on a connection. -/
def eventsFor (c : ConnectionId) (past : List (Step σ)) : List Event :=
  (past.filter fun x => x.action.connection x.before = c).flatMap Step.reported

section Runs

variable {e : σ} {past : List (Step σ)} {a : Action}

/-- What an action reports is put after the events before it. -/
theorem reported_of_told {es : List Event} (told : (a.perform E s).2.events = s.events ++ es) :
    (Step.of E s a).reported = es := by
  show (a.perform E s).2.events.drop s.events.length = es
  rw [told, List.drop_left]

theorem eventsFor_cons (s : Store σ) (a : Action) (past : List (Step σ)) :
    eventsFor c (Step.of E s a :: past) =
      if a.connection s = c then (Step.of E s a).reported ++ eventsFor c past
      else eventsFor c past := by
  have acts : (Step.of E s a).action.connection (Step.of E s a).before = a.connection s := rfl
  rw [eventsFor, List.filter_cons, acts]
  by_cases own : a.connection s = c
  · simp [own, eventsFor]
  · simp [own, eventsFor]

/-- A step on one connection leaves the switch and the count of another as they are. -/
theorem Run.elsewhere (run : Run E e past s) (allowed : a.Allowed s) (other : c ≠ a.connection s) :
    (c < s.connections.next → (a.perform E s).2.logs c = s.logs c) ∧
      (a.perform E s).2.evictions c = s.evictions c := by
  have sound : Sound ⟨s, { connection := 0 }⟩ := run.sound ⟨rfl, rfl, rfl, rfl⟩
  by_cases here : c < s.connections.next
  · have same := Action.elsewhere (E := E) sound.registered allowed other here
    rw [logs, logs, evictions, evictions, same]
    exact ⟨fun _ => rfl, rfl⟩
  · have new := Nat.le_of_not_lt here
    have unused := Action.unused (E := E) sound allowed new
    refine ⟨fun h => absurd h here, ?_⟩
    rw [evictions, unused.counters, evictions_of_le new]

theorem Run.registered (run : Run E e past s) : Registered s :=
  (run.sound (g := { connection := 0 }) ⟨rfl, rfl, rfl, rfl⟩).registered

/-- A connection reports what it was opened to report, at all times. -/
theorem Run.logs_step (run : Run E e past s) (allowed : a.Allowed s)
    (here : c < s.connections.next) : (a.perform E s).2.logs c = s.logs c := by
  by_cases own : a.connection s = c
  · subst own
    exact (a.reports run.registered allowed).logs here
  · exact (run.elsewhere allowed (Ne.symm own)).1 here

theorem Run.logs_kept (run : Run E e past s) :
    ∀ x ∈ past, ∀ c < x.after.connections.next, c < s.connections.next ∧ s.logs c = x.after.logs c := by
  induction run with
  | start => exact fun _ => nofun
  | @step past s a run allowed ih =>
    intro x hx c here
    rcases List.mem_cons.1 hx with rfl | hx
    · exact ⟨here, rfl⟩
    · obtain ⟨old, same⟩ := ih x hx c here
      have later : c < (a.perform E s).2.connections.next :=
        Nat.lt_of_lt_of_le old (run.step_extends allowed).connections
      exact ⟨later, (run.logs_step allowed old).trans same⟩

/-- What is on record is what was reported in the steps so far, in their order. -/
theorem Run.events (run : Run E e past s) : s.events = past.reverse.flatMap Step.reported := by
  induction run with
  | start => rfl
  | @step past s a run allowed ih =>
    obtain ⟨es, told, -⟩ := (a.reports (E := E) run.registered allowed).told
    have reported := reported_of_told told
    rw [told, ih, List.reverse_cons, List.flatMap_append, List.flatMap_singleton]
    exact congrArg _ reported.symm

theorem Run.mem_events_iff (run : Run E e past s) {ev : Event} :
    ev ∈ s.events ↔ ∃ c, ev ∈ eventsFor c past := by
  rw [run.events]
  simp only [eventsFor, List.mem_flatMap, List.mem_reverse, List.mem_filter, decide_eq_true_eq]
  constructor
  · rintro ⟨x, hx, told⟩
    exact ⟨x.action.connection x.before, x, ⟨hx, rfl⟩, told⟩
  · rintro ⟨c, x, ⟨hx, -⟩, told⟩
    exact ⟨x, hx, told⟩

/-- Every eviction of a cache was reported, and if the connection is not to report anything,
nothing else was but warnings. -/
structure Told (c : ConnectionId) (past : List (Step σ)) (s : Store σ) : Prop where
  evictions : s.evictions c = (eventsFor c past).countP Event.isEviction
  quiet : s.logs c = false → ∀ ev ∈ eventsFor c past, ev.level = .debug → ev.isEviction = true

theorem Run.told (run : Run E e past s) (c : ConnectionId) : Told c past s := by
  induction run with
  | start => exact ⟨rfl, fun _ _ => nofun⟩
  | @step past s a run allowed ih =>
    show Told c (Step.of E s a :: past) (a.perform E s).2
    by_cases own : a.connection s = c
    · subst own
      have reports := a.reports (E := E) run.registered allowed
      obtain ⟨es, told, count, only⟩ := reports.told
      have all : eventsFor (a.connection s) (Step.of E s a :: past) =
          es ++ eventsFor (a.connection s) past := by
        rw [eventsFor_cons, if_pos rfl, reported_of_told told]
      constructor
      · rw [all, List.countP_append, count, ih.evictions]
        omega
      · intro quiet ev hev
        rw [all] at hev
        rcases List.mem_append.1 hev with new | old
        · exact only quiet ev new
        · exact ih.quiet (reports.quiet quiet) ev old
    · obtain ⟨logs, evictions⟩ := run.elsewhere (E := E) allowed (Ne.symm own)
      have all : eventsFor c (Step.of E s a :: past) = eventsFor c past := by
        rw [eventsFor_cons, if_neg own]
      constructor
      · rw [all, evictions, ih.evictions]
      · intro quiet
        rw [all]
        apply ih.quiet
        by_cases here : c < s.connections.next
        · exact (logs here).symm.trans quiet
        · exact logs_of_le (Nat.le_of_not_lt here)

namespace Told

theorem countP_debug (told : Told c past s) (quiet : s.logs c = false) :
    (eventsFor c past).countP (fun ev => ev.level = .debug) = s.evictions c := by
  rw [told.evictions]
  apply List.countP_congr
  intro ev hev
  rw [decide_eq_true_eq]
  exact ⟨told.quiet quiet ev hev, Event.level_of_isEviction⟩

theorem warns_iff (told : Told c past s) (quiet : s.logs c = false) :
    (∀ ev ∈ eventsFor c past, ev.level = .warn) ↔ s.evictions c = 0 := by
  rw [← told.countP_debug quiet, List.countP_eq_zero]
  refine forall₂_congr fun ev _ => ?_
  cases ev.level <;> decide

end Told

/-- On a connection that is opened not to report the life of its statements, all that is reported
are warnings and the evictions that its cache has counted, one event for each. So if all connections
are opened that way, there are only warnings exactly as long as no cache has evicted anything. The
switch of a connection never changes. -/
theorem quiet_reports (run : Run E e past s) :
    (∀ c, s.logs c = false →
      (∀ ev ∈ eventsFor c past, ev.level = .debug → ev.isEviction = true) ∧
      (eventsFor c past).countP (fun ev => ev.level = .debug) = s.evictions c ∧
      ((∀ ev ∈ eventsFor c past, ev.level = .warn) ↔ s.evictions c = 0)) ∧
    ((∀ c < s.connections.next, s.logs c = false) →
      (∀ ev ∈ s.events, ev.level = .debug → ev.isEviction = true) ∧
      ((∀ ev ∈ s.events, ev.level = .warn) ↔ ∀ c < s.connections.next, s.evictions c = 0)) ∧
    ∀ x ∈ past, ∀ c < x.after.connections.next, s.logs c = x.after.logs c := by
  refine ⟨fun c quiet => ?_, fun quiet => ?_, fun x hx c here => (run.logs_kept x hx c here).2⟩
  · exact ⟨(run.told c).quiet quiet, (run.told c).countP_debug quiet, (run.told c).warns_iff quiet⟩
  · have silent (c : ConnectionId) : s.logs c = false := by
      by_cases here : c < s.connections.next
      · exact quiet c here
      · exact logs_of_le (Nat.le_of_not_lt here)
    constructor
    · intro ev hev
      obtain ⟨c, told⟩ := run.mem_events_iff.1 hev
      exact (run.told c).quiet (silent c) ev told
    · constructor
      · intro warns c _
        rw [← (run.told c).warns_iff (silent c)]
        exact fun ev hev => warns ev (run.mem_events_iff.2 ⟨c, hev⟩)
      · intro none ev hev
        obtain ⟨c, told⟩ := run.mem_events_iff.1 hev
        refine ((run.told c).warns_iff (silent c)).2 ?_ ev told
        by_cases here : c < s.connections.next
        · exact none c here
        · exact evictions_of_le (Nat.le_of_not_lt here)

/-- Two quiet connections. On the first a text is compiled, attached to, compiled once more while it
is in use, and left in the cache when all is closed: there is a warning of the contention. On the
second one text takes the place of another, and one is evicted while it is in use. -/
theorem quiet_reports_contended :
    ∃ past s, Run Recording.engine {} past s ∧ s.events.length = 3 ∧
      (∀ ev ∈ eventsFor 0 past, ev.level = .warn) ∧ (eventsFor 0 past).length = 1 ∧
      (eventsFor 1 past).countP (fun ev => ev.level = .debug) = 2 ∧
      ∀ ev ∈ s.events, ev.level = .debug → ev.isEviction = true := by
  have run := Run.ofActions (E := Recording.engine) (e := {})
    [.openDefault 0, .openConnection 0 { capacity := 1 }, .createCompiled 0 "INSERT",
      .closeProgram 0, .createCompiled 0 "INSERT", .createCompiled 0 "INSERT",
      .createCompiled 1 "BEGIN", .closeProgram 3, .createCompiled 1 "COMMIT", .evict 1 "COMMIT",
      .closeConnection 0 [1, 2]]
    (by decide +kernel)
  obtain ⟨each, whole, -⟩ := quiet_reports run
  obtain ⟨-, -, warns⟩ := each 0 (by decide +kernel)
  obtain ⟨-, count, -⟩ := each 1 (by decide +kernel)
  refine ⟨_, _, run, by decide +kernel, warns.2 (by decide +kernel), by decide +kernel, ?_, ?_⟩
  · exact count.trans (by decide +kernel)
  · exact (whole (by decide +kernel)).1

/-- A connection is opened not to report anything. A text is compiled and evicted, and that is
reported, though it is no warning. -/
theorem quiet_reports_eviction :
    ∃ past s, Run Recording.engine {} past s ∧ (∀ c < s.connections.next, s.logs c = false) ∧
      ∃ ev ∈ s.events, ev.level = .debug := by
  have run := Run.ofActions (E := Recording.engine) (e := {})
    [.openConnection 0 { logsLifecycle := false }, .createCompiled 0 "INSERT", .closeProgram 0,
      .evict 0 "INSERT"] (by decide +kernel)
  exact ⟨_, _, run, by decide +kernel, by decide +kernel⟩

end Runs

end Store

end Prepared
