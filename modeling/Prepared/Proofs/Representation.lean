import Mathlib.Data.List.DropRight
import Prepared.Engine.Recording
import Prepared.Proofs.Receding
import Prepared.Proofs.Ways

/-! What caches store.

A cache stores for a text what was compiled for that text on its connection. Only a statement
that is compiled for a text of a shared kind without an entry is stored, in the action that
compiles it, so a statement that was compiled for one program alone is in no cache ever after. -/
namespace Prepared

namespace Text

/-- The beginning of a text without leading blanks has none. -/
theorem trimLeft_prefix {cs ds : List Char} (h : ds <+: trimLeft cs) : trimLeft ds = ds := by
  cases ds with
  | nil => rfl
  | cons d ds =>
    obtain ⟨rest, whole⟩ := h
    have blank : isBlank d = false := by
      have first := List.head?_dropWhile_not isBlank cs
      unfold trimLeft at whole
      rw [← whole] at first
      simpa using first
    exact List.dropWhile_cons_of_neg (by simp [blank])

theorem trim_trim (s : String) : trim (trim s) = trim s := by
  have start : trimRight (trimLeft s.toList) <+: trimLeft s.toList :=
    List.rdropWhile_prefix isBlank _
  have finish : trimRight (trimRight (trimLeft s.toList)) = trimRight (trimLeft s.toList) :=
    List.rdropWhile_idempotent isBlank _
  unfold trim
  rw [String.toList_ofList, trimLeft_prefix start, finish]

end Text

/-- A program whose text has no blanks at its ends, and whose kind is that of its text. -/
structure Program.Titled (x : Program) : Prop where
  trimmed : Text.trim x.sql = x.sql
  kind : x.kind = Kind.classify x.sql

theorem Program.Titled.created (c : ConnectionId) (sql : String) : Program.Titled
    { connection := c, sql := Text.trim sql, kind := Kind.classify (Text.trim sql) } where
  trimmed := by
    dsimp only
    exact Text.trim_trim sql
  kind := by dsimp only

theorem Program.Titled.default : Program.Titled default where
  trimmed := rfl
  kind := by decide

namespace Store

open Operation

variable {σ : Type} {E : Engine σ} {s t u : Store σ}

theorem Move.titled {a b : Moment σ} (hm : Move E a b) (ha : ∀ p, (a.store.program p).Titled)
    (p : ProgramId) : (b.store.program p).Titled := by
  cases hm with
  | @create s g k sql =>
    show ((s.created g.connection sql).program p).Titled
    rw [program_created]
    split
    · exact .created ..
    · exact ha p
  | hold | queue | close | dropProgram =>
    rw [program_withProgram]
    split
    · exact ⟨(ha p).trimmed, (ha p).kind⟩
    · exact ha p
  | _ => exact ha p

theorem Run.titled {e : σ} {past : List (Step σ)} (run : Run E e past s) (p : ProgramId) :
    (s.program p).Titled :=
  (run.keeps (I := fun m => Sound m ∧ ∀ p, (m.store.program p).Titled) (fun _ h => h.1.registered)
    (fun _ idle => ⟨.empty e idle, fun _ => .default⟩)
    (fun _ _ _ idle idle' h => ⟨h.1.regrip idle idle', h.2⟩)
    (fun _ _ hm h => ⟨h.1.step hm, hm.titled h.2⟩) { connection := 0 } ⟨rfl, rfl, rfl, rfl⟩).2 p

/-- A text that a cache may store a statement for. -/
structure Eligible (sql : String) : Prop where
  trimmed : Text.trim sql = sql
  shared : (Kind.classify sql).isShared = true

theorem Eligible.of_titled {x : Program} (titled : x.Titled) (shared : x.kind.isShared = true) :
    Eligible x.sql :=
  ⟨titled.trimmed, titled.kind ▸ shared⟩

/-- An entry that may be new in a cache: the text had none, and the statement is one that did
not exist. -/
structure Admitted (s : Store σ) (c : ConnectionId) (e : String × CompiledId) : Prop where
  new : s.compiled.next ≤ e.2
  absent : e.1 ∉ (s.connection c).cache.keys
  room : (s.connection c).cache.capacity ≠ 0
  eligible : Eligible e.1

/-- A store with more statements and larger caches. -/
structure Larger (s t : Store σ) : Prop where
  compiled : s.compiled.next ≤ t.compiled.next
  capacity : ∀ c, (s.connection c).cache.capacity ≤ (t.connection c).cache.capacity

instance : IsPreorder (Store σ) Larger where
  refl _ := ⟨Nat.le_refl _, fun _ => Nat.le_refl _⟩
  trans _ _ _ h k :=
    ⟨Nat.le_trans h.compiled k.compiled, fun c => Nat.le_trans (h.capacity c) (k.capacity c)⟩

/-- What an action may make of the caches. -/
structure Admits (s t : Store σ) : Prop extends Larger s t where
  orderly : ∀ c, (s.connection c).cache.Orderly → (t.connection c).cache.Orderly
  entry : ∀ c, ∀ e ∈ (t.connection c).cache.entries,
    e ∈ (s.connection c).cache.entries ∨ Admitted s c e

theorem Recedes.admits (h : Recedes s t) : Admits s t where
  compiled := h.compiled
  capacity c := (h.cache c).capacity
  orderly c := (h.cache c).orderly
  entry c _ he := .inl ((h.cache c).entries he)

theorem Admits.recedes (h : Admits s t) (k : Recedes t u) : Admits s u where
  toLarger := trans_of Larger h.toLarger k.admits.toLarger
  orderly c ho := (k.cache c).orderly (h.orderly c ho)
  entry c e he := h.entry c e ((k.cache c).entries he)

/-- A later store with the same caches, apart from what they count. -/
structure Level (s t : Store σ) : Prop where
  compiled : s.compiled.next ≤ t.compiled.next
  entries : ∀ c, (t.connection c).cache.entries = (s.connection c).cache.entries
  capacity : ∀ c, (t.connection c).cache.capacity = (s.connection c).cache.capacity

namespace Level

theorem of_caches (compiled : s.compiled.next ≤ t.compiled.next)
    (caches : ∀ c, (t.connection c).cache = (s.connection c).cache) : Level s t :=
  ⟨compiled, fun c => by rw [caches c], fun c => by rw [caches c]⟩

theorem trans (h : Level s t) (k : Level t u) : Level s u :=
  ⟨Nat.le_trans h.compiled k.compiled, fun c => (k.entries c).trans (h.entries c),
    fun c => (k.capacity c).trans (h.capacity c)⟩

theorem count (s : Store σ) (c : ConnectionId) (a : Acquisition) :
    Level s (s.withCache c (·.count a)) := by
  constructor
  · exact Nat.le_refl _
  all_goals
    intro d
    rw [cache_withCache]
    split <;> rfl

theorem grown (c : ConnectionId) (sql : String) (n : StatementId) (s : Store σ) :
    Level s (s.grown E c sql n) :=
  of_caches (Extends.grown E c sql n s).compiled fun _ => rfl

/-- What is admitted to the same caches may be admitted. -/
theorem admits (h : Level s t) (k : Admits t u) : Admits s u where
  compiled := Nat.le_trans h.compiled k.compiled
  capacity c := h.capacity c ▸ k.capacity c
  orderly c ho := k.orderly c ⟨by
    rw [Cache.size, h.entries, h.capacity]
    exact ho.fits, by
    rw [h.capacity]
    exact ho.bounded⟩
  entry c e he := by
    refine (k.entry c e he).imp (fun old => h.entries c ▸ old) fun admitted => ?_
    exact ⟨Nat.le_trans h.compiled admitted.new, by
      rw [Cache.keys, ← h.entries]
      exact admitted.absent, by
      rw [← h.capacity]
      exact admitted.room, admitted.eligible⟩

end Level

theorem admits_bind {ε α β : Type} {x : Op σ ε α} {k : α → Op σ ε β}
    (hx : Admits s (x.run s).2) (hk : ∀ a, Leads Recedes (k a)) : Admits s ((x >>= k).run s).2 := by
  rw [run_bind]
  rcases hr : x.run s with ⟨_ | a, t⟩ <;> rw [hr] at hx
  · exact hx
  · exact hx.recedes (hk a t)

section Acquire

variable {c : ConnectionId} {kind : Kind} {sql : String} {h : CompiledId}

/-- Storing a statement that was just compiled, for a text that has no entry. -/
theorem insert_admits (eligible : Eligible sql) (absent : (s.connection c).cache.peek? sql = none)
    (level : Level s t) (new : s.compiled.next ≤ h) :
    Admits s (t.withCache c fun x => (x.insert sql h).2) := by
  have room : (t.connection c).cache.capacity ≠ 0 → (s.connection c).cache.capacity ≠ 0 :=
    fun h => level.capacity c ▸ h
  refine ⟨⟨level.compiled, fun d => ?_⟩, fun d ho => ?_, fun d e he => ?_⟩
  · rw [cache_withCache, ← level.capacity d]
    split
    · exact Nat.le_of_eq (Cache.insert_capacity ..).symm
    · exact Nat.le_refl _
  · have orderly := (level.admits (refl_of Recedes t).admits).orderly d ho
    rw [cache_withCache]
    split
    · exact orderly.insert sql h
    · exact orderly
  · rcases mem_withCache he with ⟨rfl, changed⟩ | old
    · rcases Cache.mem_insert changed with old | ⟨rfl, stored⟩
      · exact .inl (level.entries d ▸ old)
      · exact .inr ⟨new, Cache.peek?_eq_none_iff.1 absent, room stored, eligible⟩
    · exact .inl (level.entries d ▸ old)

theorem acquireMiss_admits (eligible : Eligible sql)
    (absent : (s.connection c).cache.peek? sql = none) :
    Admits s ((acquireMiss E c sql).run s).2 := by
  have compiled : Ensures (fun t => t = s) (compile E c sql)
      fun r t => (∀ h, r = .ok h → s.compiled.next ≤ h) ∧ Level s t := by
    intro t same
    subst same
    cases answer : (E.run (t.connection c).engine (.compile sql) t.engine).1 with
    | error e =>
      rw [compile_error answer]
      exact ⟨fun _ => nofun, .of_caches (Nat.le_refl _) fun _ => rfl⟩
    | ok n =>
      rw [compile_ok answer]
      refine ⟨fun h same => ?_, .grown c sql n t⟩
      cases same
      exact Nat.le_refl _
  -- the caches stay the same until the new statement is stored
  have stored : Ensures (fun t => t = s) (acquireMiss E c sql) fun _ => Admits s := by
    refine compiled.bind (fun h => (Ensures.of_fact (P := Level s) fun new => ?_).pre
      fun t ht => ⟨ht.2, ht.1 h rfl⟩) fun e t ht => ht.2.admits (refl_of Recedes t).admits
    refine Ensures.claim_bind (Q := fun _ => Level s) (fun _ level _ => level)
      (fun t level _ => level.trans (.of_caches (Recedes.withStatement t h _).compiled fun _ => rfl))
      fun _ => ?_
    refine Ensures.onCache_bind (Q := fun _ => Level s)
      (fun t level => level.trans (.count t c .miss)) fun _ => ?_
    refine Ensures.onCache_bind (Q := fun _ => Admits s)
      (fun t level => insert_admits eligible absent level new) fun out => ?_
    intro t admits
    refine admits.recedes (Leads.bind (.read _) (fun _ => .bind recedes_trace fun _ =>
      .bind (.attempt (.forAll (fun _ => recedes_discard) out)) fun r => ?_) t)
    cases r with
    | ok _ => exact .pure _
    | error e => exact .bind recedes_report fun _ => .pure _
  exact stored s rfl

theorem acquire_admits (eligible : kind.isShared = true → Eligible sql) :
    Admits s ((acquire E c kind sql).run s).2 := by
  by_cases shared : kind.isShared = true
  · simp only [acquire, shared, if_true, run_bind, onCache_run]
    cases stored : (s.connection c).cache.peek? sql with
    | none =>
      have untouched : (s.connection c).cache.touch sql = (s.connection c).cache := by
        rw [Cache.touch, stored]
      have same (d : ConnectionId) : ((s.withCache c fun x => x.touch sql).connection d).cache =
          (s.connection d).cache := by
        rw [cache_withCache]
        split
        · next hd => rw [hd.1, untouched]
        · rfl
      have level : Level s (s.withCache c fun x => x.touch sql) := .of_caches (Nat.le_refl _) same
      exact level.admits (acquireMiss_admits (E := E) (eligible shared) ((same c).symm ▸ stored))
    | some k =>
      have touched : Recedes s (s.withCache c fun x => x.touch sql) :=
        .withConnection s c (.touch sql)
      have attached : Leads Recedes (do
          if ← claim k then do
            onCache c fun cache => ((), cache.count .hit)
            trace c (.reused (← read (·.statement k)).statement sql)
            return k
          else acquireContended E c sql k : Op σ EngineError CompiledId) :=
        .bind recedes_claim fun _ => .ite (.bind (recedes_onCache fun _ => .count _) fun _ =>
          .bind (.read _) fun _ => .bind recedes_trace fun _ => .pure _) recedes_acquireContended
      exact (trans_of Recedes touched (attached _)).admits
  · rw [acquire, if_neg shared]
    exact (recedes_acquireUncached s).admits

end Acquire

section Programs

variable {p : ProgramId}

theorem ensureCompiled_admits (titled : (s.program p).Titled) :
    Admits s ((ensureCompiled E p).run s).2 := by
  cases free : (s.program p).held with
  | some h =>
    rw [ensureCompiled_held free]
    exact (refl_of Recedes s).admits
  | none =>
    have acquired : Admits s (acquireFor E p s).2 :=
      acquire_admits fun shared => .of_titled titled shared
    unfold ensureCompiled
    rw [run_bind, run_read]
    simp only [free]
    refine admits_bind acquired fun h =>
      .bind (.attempt (.untilError (fun _ => recedes_applyBinding) _)) fun r => ?_
    cases r with
    | ok _ => exact .bind recedes_withProgram fun _ => .pure _
    | error e => exact .bind recedes_abandon fun _ => .throw _

theorem compileProgram_admits (titled : (s.program p).Titled) :
    Admits s ((compileProgram E p).run s).2 := by
  rcases verifyUsable_cases p s with ⟨-, -, usable⟩ | ⟨m, refused⟩
  · rw [compileProgram, run_bind, usable]
    exact admits_bind (x := mapError ProgramError.engine (ensureCompiled E p))
      (ensureCompiled_admits titled)
      fun _ => .pure _
  · rw [compileProgram_unusable refused]
    exact (refl_of Recedes s).admits

theorem execute_admits (titled : (s.program p).Titled) : Admits s ((execute E p).run s).2 := by
  rcases verifyUsable_cases p s with ⟨-, -, usable⟩ | ⟨m, refused⟩
  · rw [execute, run_bind, usable]
    exact admits_bind (x := mapError ProgramError.engine (ensureCompiled E p))
      (ensureCompiled_admits titled)
      fun _ => executeHeld_leads fun _ _ => recedes_request
  · rw [execute_unusable refused]
    exact (refl_of Recedes s).admits

theorem createCompiled_admits (c : ConnectionId) (sql : String) :
    Admits s ((createCompiled E c sql).run s).2 := by
  by_cases closed : (s.connection c).isOpen = false ∨ ¬ (s.connection c).Grants
  · obtain ⟨e, refused⟩ := createDeferred_error sql closed
    rw [createCompiled, run_bind, refused]
    exact (refl_of Recedes s).admits
  · rw [not_or, Bool.not_eq_false, not_not] at closed
    let t := s.withConnection c fun x => { x with references := x.references + 1 }
    let u := t.created c sql
    have level : Level s u := by
      refine .of_caches (Nat.le_refl _) fun d => (cache_created t c d sql).trans ?_
      exact connection_part s c d (fun x => x.cache) fun _ => rfl
    have titled : (u.program s.programs.next).Titled := by
      rw [(program_created t c sql s.programs.next).trans (if_pos rfl)]
      exact .created c sql
    rw [createCompiled, run_bind, createDeferred_ok sql closed.1 closed.2]
    refine level.admits (admits_bind (x := attempt (compileProgram E s.programs.next))
      (compileProgram_admits titled) fun r => ?_)
    cases r with
    | ok _ => exact .pure _
    | error e => exact .bind recedes_dropProgram fun _ => .throw _

end Programs

theorem Action.admits (titled : ∀ p, (s.program p).Titled) (a : Action) :
    Admits s (a.perform E s).2 := by
  have recedes {ε α : Type} {x : Op σ ε α} (leads : Leads Recedes x) : Admits s (x.run s).2 :=
    (leads s).admits
  cases a with
  | openConnection => exact recedes recedes_openConnection
  | openDefault => exact recedes (recedes_addConnection Settings.isValid_default)
  | cloneConnection => exact recedes (recedes_withConnection fun _ => rfl)
  | dropConnection =>
    exact recedes (.bind (recedes_withConnection fun _ => rfl) fun _ =>
      recedes_dropConnectionIfUnreferenced)
  | closeConnection => exact recedes recedes_closeInOrder
  | acquireReference => exact recedes recedes_acquireReference
  | releaseReference => exact recedes recedes_releaseReference
  | lookup => exact recedes recedes_lookup
  | giveBack => exact recedes (.bind recedes_withStatement fun _ => recedes_dropUnreferenced)
  | evict => exact recedes recedes_evict
  | setCapacity => exact recedes recedes_setCapacity
  | createDeferred => exact recedes recedes_createDeferred
  | createCompiled c sql => exact createCompiled_admits c sql
  | bindValue => exact recedes recedes_bindValue
  | bindPresent p position value =>
    cases value with
    | none => exact recedes (.throw _)
    | some v => exact recedes recedes_bindValue
  | clearBindings => exact recedes recedes_clearBindings
  | compile p => exact compileProgram_admits (titled p)
  | execute p => exact execute_admits (titled p)
  | closeProgram => exact recedes recedes_tearDown
  | dropProgram => exact recedes recedes_dropProgram

/-! What holds of caches after every run. -/

section Runs

variable {e : σ} {past : List (Step σ)}

theorem Run.orderly (run : Run E e past s) (c : ConnectionId) : (s.connection c).cache.Orderly := by
  induction run with
  | start => exact ⟨Nat.le_refl _, Nat.zero_le _⟩
  | step a run allowed ih => exact (a.admits run.titled).orderly c ih

/-- From step to step there are more statements and larger caches. -/
theorem Run.larger (run : Run E e past s) :
    ∀ st ∈ past, Larger st.before st.after ∧ Larger st.after s := by
  induction run with
  | start => exact fun _ => nofun
  | @step past s a run allowed ih =>
    have next := (a.admits (E := E) run.titled).toLarger
    intro st hst
    rcases List.mem_cons.1 hst with rfl | hst
    · exact ⟨next, refl_of Larger _⟩
    · exact ⟨(ih st hst).1, trans_of Larger (ih st hst).2 next⟩

/-- Whether a step compiled a statement for one program alone: its text is of a kind that is
not shared, the cache has no room at all, or there was an entry for the text. -/
def Step.MadePrivate (st : Step σ) (h : CompiledId) : Prop :=
  (st.before.compiled.next ≤ h ∧ h < st.after.compiled.next) ∧
    ((Kind.classify (st.after.statement h).sql).isShared = false ∨
      (st.before.connection (st.after.statement h).connection).cache.capacity = 0 ∨
      (st.after.statement h).sql ∈
        (st.before.connection (st.after.statement h).connection).cache.keys)

instance (st : Step σ) (h : CompiledId) : Decidable (st.MadePrivate h) :=
  inferInstanceAs (Decidable (_ ∧ _))

/-- What a step stores it has compiled, and not for one program alone. -/
theorem Admits.stored (h : Admits s t) (homes : Homes ⟨t, { connection := 0 }⟩) {k : CompiledId}
    (stored : Stored t k) :
    Stored s k ∨ s.compiled.next ≤ k ∧ (Kind.classify (t.statement k).sql).isShared = true ∧
      (s.connection (t.statement k).connection).cache.capacity ≠ 0 ∧
      (t.statement k).sql ∉ (s.connection (t.statement k).connection).cache.keys := by
  obtain ⟨c, e, he, rfl⟩ := stored
  obtain ⟨belongs, text⟩ := homes.entry c e he
  refine (h.entry c e he).imp (fun old => ⟨c, e, old, rfl⟩) fun admitted => ?_
  rw [text, belongs.home]
  exact ⟨admitted.new, admitted.eligible.shared, admitted.room, admitted.absent⟩

/-- A statement that was compiled for one program alone is stored in no cache. -/
theorem Run.not_stored (run : Run E e past s) {st : Step σ} (hst : st ∈ past) {h : CompiledId}
    (made : st.MadePrivate h) : ¬ Stored s h := by
  induction run with
  | start => nomatch hst
  | @step past s a run allowed ih =>
    have idle : Grip.Idle { connection := 0 } := ⟨rfl, rfl, rfl, rfl⟩
    have admits := a.admits (E := E) run.titled
    have next := run.step a allowed
    intro stored
    have cases := admits.stored (next.sound idle).homes stored
    rcases List.mem_cons.1 hst with rfl | hst
    · rcases cases with ⟨c, e, he, rfl⟩ | ⟨-, shared, room, absent⟩
      · exact absurd ((run.sound idle).homes.entry c e he).1.exists_ (Nat.not_lt.2 made.1.1)
      · rcases made.2 with unshared | full | present
        · exact absurd (shared.symm.trans unshared) (by decide)
        · exact room full
        · exact absent present
    · rcases cases with old | ⟨new, -⟩
      · exact ih hst old
      · have older := Nat.lt_of_lt_of_le made.1.2 (run.larger st hst).2.compiled
        exact absurd older (Nat.not_lt.2 new)

/-- What a cache stores, and how much. -/
structure Represents (s : Store σ) (c : ConnectionId) : Prop where
  unique : (s.connection c).cache.keys.Nodup
  text : ∀ sql ∈ (s.connection c).cache.keys,
    Text.trim sql = sql ∧ Kind.classify sql ≠ .select ∧ Kind.classify sql ≠ .update
  entry : ∀ sql h, (sql, h) ∈ (s.connection c).cache.entries →
    h < s.compiled.next ∧ (s.statement h).sql = sql ∧ (s.statement h).connection = c ∧
      (s.statement h).destroyed = false
  fits : (s.connection c).cache.size ≤ (s.connection c).cache.capacity
  bounded : (s.connection c).cache.capacity ≤ maxCapacity

theorem Run.eligible (run : Run E e past s) (c : ConnectionId) :
    ∀ sql ∈ (s.connection c).cache.keys, Eligible sql := by
  induction run with
  | start => exact fun _ => nofun
  | @step past s a run allowed ih =>
    intro sql key
    obtain ⟨entry, he, rfl⟩ := List.mem_map.1 key
    rcases (a.admits (E := E) run.titled).entry c entry he with old | admitted
    · exact ih _ (List.mem_map.2 ⟨entry, old, rfl⟩)
    · exact admitted.eligible

theorem Run.represents (run : Run E e past s) (c : ConnectionId) : Represents s c := by
  have sound : Sound ⟨s, { connection := 0 }⟩ := run.sound ⟨rfl, rfl, rfl, rfl⟩
  have orderly := run.orderly c
  refine ⟨sound.keyed c, fun sql key => ?_, fun sql h he => ?_, orderly.fits, orderly.bounded⟩
  · have eligible := run.eligible c sql key
    refine ⟨eligible.trimmed, fun kind => ?_, fun kind => ?_⟩
    all_goals
      have shared := eligible.shared
      rw [kind] at shared
      nomatch shared
  · obtain ⟨belongs, text⟩ := sound.homes.entry c (sql, h) he
    exact ⟨belongs.exists_, text, belongs.home, sound.intact h (.inl ⟨c, _, he, rfl⟩)⟩

/-- A statement is the one that a cache stores for its text exactly if it is stored there. -/
theorem Represents.isCachedBy_iff {c : ConnectionId} (hc : Represents s c) {h : CompiledId} :
    s.isCachedBy c h = true ↔ h ∈ (s.connection c).cache.values := by
  unfold isCachedBy
  rw [Cache.holds_iff hc.unique]
  constructor
  · exact fun he => List.mem_map.2 ⟨_, he, rfl⟩
  · intro stored
    obtain ⟨⟨sql, k⟩, he, rfl⟩ := List.mem_map.1 stored
    rw [(hc.entry sql k he).2.1]
    exact he

/-- After every run, with whatever engine, each cache has one entry for a text at most; the
texts are trimmed and of kinds that are shared; what is stored for a text was compiled for it on
that connection and is not destroyed; there are no more entries than the capacity allows, which
is within its bound and has never become less. A statement counts as stored exactly if it is
one of those in the cache, and one that was compiled for one program alone is in none. -/
theorem cache_represents (run : Run E e past s) :
    (∀ c, Represents s c) ∧
      (∀ c h, s.isCachedBy c h = true ↔ h ∈ (s.connection c).cache.values) ∧
      (∀ st ∈ past, ∀ c,
        (st.before.connection c).cache.capacity ≤ (st.after.connection c).cache.capacity ∧
        (st.after.connection c).cache.capacity ≤ (s.connection c).cache.capacity) ∧
      ∀ st ∈ past, ∀ h, st.MadePrivate h → ¬ Stored s h :=
  ⟨run.represents, fun c _ => (run.represents c).isCachedBy_iff,
    fun st hst c => ⟨(run.larger st hst).1.capacity c, (run.larger st hst).2.capacity c⟩,
    fun _ hst _ made => run.not_stored hst made⟩

/-- Two programs use one text, so the statement of the second is its own. It is not stored, not
even when the other one has left the cache. -/
theorem cache_represents_contended :
    ∃ past s, Run Recording.engine {} past s ∧ (∃ st ∈ past, st.MadePrivate 1) ∧
      ¬ Stored s 1 ∧ Represents s 0 := by
  have run := Run.ofActions (E := Recording.engine) (e := {})
    [.openDefault 0, .createCompiled 0 "INSERT", .createCompiled 0 "INSERT", .evict 0 "INSERT"]
    (by decide +kernel)
  obtain ⟨represents, -, -, unstored⟩ := cache_represents run
  exact ⟨_, _, run, ⟨_, .tail _ (.head _), by decide +kernel⟩,
    unstored _ (.tail _ (.head _)) 1 (by decide +kernel), represents 0⟩

end Runs

end Store

end Prepared
