import Prepared.Proofs.Attaching
import Prepared.Proofs.Recency
import Prepared.Proofs.Representation

/-! Which texts are cached, and when a statement is used again.

The texts in the cache of a connection are those that it was last asked for, as far as there is
room. So whether a statement that a program has given up is there for the next program with its
text depends only on how many other texts were asked for in the meantime. -/
namespace Prepared

/-- Whether an engine refused to compile a text. -/
def Sent.isRefusal (r : Sent) : Bool :=
  match r.request, r.answer with
  | .compile _, .error _ => true
  | _, _ => false

namespace Store

open Operation

variable {σ : Type} {E : Engine σ} {c : ConnectionId} {m : Nat} {h : CompiledId} {p : ProgramId}
  {a : Action} {sql : String}

/-- Whether an action evicts a text from the cache of a connection. -/
def Action.evicts (c : ConnectionId) : Action → Bool
  | evict d _ => d == c
  | _ => false

theorem Action.ne_evict (kept : a.evicts c = false) (text : String) : a ≠ .evict c text := by
  rintro rfl
  simp [evicts] at kept

/-- The texts for which a connection was asked for a cached statement, the latest first. -/
def acquired (c : ConnectionId) (past : List (Step σ)) : List String :=
  past.filterMap fun x => x.action.acquires x.before c

theorem acquired_cons_some {past : List (Step σ)} {x : Step σ}
    (acquires : x.action.acquires x.before c = some sql) :
    acquired c (x :: past) = sql :: acquired c past :=
  List.filterMap_cons_some acquires

theorem acquired_cons_none {past : List (Step σ)} {x : Step σ}
    (acquires : x.action.acquires x.before c = none) : acquired c (x :: past) = acquired c past :=
  List.filterMap_cons_none acquires

theorem mem_acquired {past : List (Step σ)} :
    sql ∈ acquired c past ↔ ∃ x ∈ past, x.action.acquires x.before c = some sql :=
  List.mem_filterMap

section Gone

variable {e : σ} {past : List (Step σ)} {s : Store σ}

/-- A connection that has gone out of use has an empty cache. -/
theorem Run.keys_of_gone (run : Run E e past s) (gone : Gone s c) :
    (s.connection c).cache.keys = [] := by
  have conserved := run.conserved (g := { connection := c }) ⟨rfl, rfl, rfl, rfl⟩
  have empty : (s.connection c).cache.entries = [] := by
    rcases gone with none | alone
    · exact (conserved.drained c none).2
    · exact (conserved.vacant c alone).resolve_right fun h => nomatch h.1
  rw [Cache.keys, empty]
  rfl

/-- A connection that has gone out of use does not come back. -/
theorem Run.gone_step (run : Run E e past s) (allowed : a.Allowed s)
    (exists_ : c < s.connections.next) (gone : Gone s c) : Gone (a.perform E s).2 c := by
  have moves := a.moves (E := E) (run.sound (a.entry_idle s)).registered allowed
  rcases gone with none | alone
  · exact .inl (moves.invariant (I := fun m => Released m.store c) (fun _ _ hm hs => hs.move hm)
      ⟨exists_, none⟩).references
  · have kept := moves.invariant
      (I := fun m => c < m.store.connections.next ∧ m.store.isReferenced c = false)
      (fun _ _ hm hs => ⟨Nat.lt_of_lt_of_le hs.1 hm.extends.connections, hm.unreferenced hs.1 hs.2⟩)
      ⟨exists_, alone⟩
    exact .inr kept.2

/-- A connection of which a statement is obtained is in use. -/
theorem Run.in_use_of_obtains {kind : Kind} (run : Run E e past s) (allowed : a.Allowed s)
    (obtains : a.obtains s = some (c, kind, sql)) : c < s.connections.next ∧ ¬ Gone s c := by
  have used (isOpen : (s.connection c).isOpen = true) (referenced : s.isReferenced c = true) :
      c < s.connections.next ∧ ¬ Gone s c := by
    refine ⟨lt_of_isOpen isOpen, ?_⟩
    rintro (none | alone)
    · exact run.funded c isOpen none
    · exact absurd (referenced.symm.trans alone) (by decide)
  cases a with
  | compile q | execute q =>
    obtain ⟨active, -, rfl, -⟩ := Action.obtains_program obtains
    exact used active.isOpen (owned_of_not_dropped (run.not_dropped active.live)).referenced
  | createCompiled d text =>
    obtain ⟨isOpen, -, rfl, -⟩ := Action.obtains_created obtains
    exact used isOpen (isReferenced_of_clones allowed)
  | _ => nomatch obtains

theorem Run.in_use (run : Run E e past s) (allowed : a.Allowed s)
    (acquires : a.acquires s c = some sql) : c < s.connections.next ∧ ¬ Gone s c := by
  obtain ⟨kind, obtains, -⟩ := Action.acquires_eq_some_iff.1 acquires
  exact run.in_use_of_obtains allowed obtains

/-- A connection that does not exist yet has not been asked for anything. -/
theorem Run.acquired_new (run : Run E e past s) (new : s.connections.next ≤ c) :
    acquired c past = [] := by
  induction run with
  | start => rfl
  | @step past s a run allowed ih =>
    have grows : s.connections.next ≤ (a.perform E s).2.connections.next :=
      (run.step_extends allowed).connections
    cases acquires : a.acquires s c with
    | none =>
      rw [acquired_cons_none acquires]
      exact ih (Nat.le_trans grows new)
    | some sql =>
      exact absurd (run.in_use allowed acquires).1 (Nat.not_lt.2 (Nat.le_trans grows new))

/-- What is asked for is trimmed and of a kind to be cached. -/
theorem Run.acquired_eligible (run : Run E e past s) : ∀ sql ∈ acquired c past, Eligible sql := by
  induction run with
  | start => exact fun _ => nofun
  | @step past s a run allowed ih =>
    intro sql asked
    obtain ⟨x, hx, acquires⟩ := mem_acquired.1 asked
    rcases List.mem_cons.1 hx with rfl | old
    · obtain ⟨kind, obtains, shared⟩ := Action.acquires_eq_some_iff.1 acquires
      change a.obtains s = some (c, kind, sql) at obtains
      cases a with
      | compile q | execute q =>
        obtain ⟨-, -, -, rfl, rfl⟩ := Action.obtains_program obtains
        exact .of_titled (run.titled q) shared
      | createCompiled d text =>
        obtain ⟨-, -, -, rfl, rfl⟩ := Action.obtains_created obtains
        exact ⟨Text.trim_trim text, shared⟩
      | _ => nomatch obtains
    · exact ih sql (mem_acquired.2 ⟨x, old, acquires⟩)

/-- A step of a run was performed after the steps before it. -/
theorem Run.reached {recent earlier : List (Step σ)} {x : Step σ}
    (run : Run E e (recent ++ x :: earlier) s) :
    Run E e earlier x.before ∧ x.action.Allowed x.before ∧
      x.after = (x.action.perform E x.before).2 := by
  induction recent generalizing s with
  | nil =>
    cases run with
    | step a run allowed => exact ⟨run, allowed, rfl⟩
  | cons y recent ih =>
    cases run with
    | step a run allowed => exact ih run

end Gone

section Runs

variable {e : σ} {past : List (Step (Logged σ))} {s : Store (Logged σ)}

/-- A connection has always had one capacity, no text was explicitly evicted from its cache, and
none was refused when it was compiled for the connection. -/
structure Steadfast (c : ConnectionId) (m : Nat) (past : List (Step (Logged σ))) : Prop where
  capacity : ∀ x ∈ past, c < x.after.connections.next → (x.after.connection c).cache.capacity = m
  unevicted : ∀ x ∈ past, x.action.evicts c = false
  accepted : ∀ x ∈ past, x.action.connection x.before = c →
    ∀ r ∈ x.requests, r.isRefusal = false

theorem Steadfast.mono {part : List (Step (Logged σ))} (h : Steadfast c m past)
    (sub : part ⊆ past) : Steadfast c m part where
  capacity x hx := h.capacity x (sub hx)
  unevicted x hx := h.unevicted x (sub hx)
  accepted x hx := h.accepted x (sub hx)

theorem Steadfast.tail {x : Step (Logged σ)} (h : Steadfast c m (x :: past)) :
    Steadfast c m past :=
  h.mono (List.subset_cons_self ..)

theorem Run.capacity (run : Run E.logged ⟨e, []⟩ past s) (steadfast : Steadfast c m past)
    (exists_ : c < s.connections.next) : (s.connection c).cache.capacity = m := by
  cases run with
  | start => nomatch exists_
  | step a run allowed => exact steadfast.capacity _ (.head _) exists_

/-- Without a refusal each text that is asked for has an idle statement or is compiled. -/
theorem Action.accepts {kind : Kind} (obtains : a.obtains s = some (c, kind, sql))
    (accepted : ∀ r ∈ (a.perform E.logged s).2.engine.log.drop s.engine.log.length,
      r.isRefusal = false) : Accepts E.logged s c kind sql := by
  intro none
  obtain ⟨rest, log, -⟩ := compiles (E := E) obtains none
  rw [log, List.drop_left] at accepted
  have first := accepted _ (.head _)
  cases answer : (E.logged.run (s.connection c).engine (.compile sql) s.engine).1 with
  | ok n => exact ⟨n, rfl⟩
  | error e =>
    rw [answer] at first
    nomatch first

/-- The texts in the cache are the first of those that the connection was last asked for, and all
of these times are counted. -/
theorem Run.recent (run : Run E.logged ⟨e, []⟩ past s) (steadfast : Steadfast c m past)
    (used : ¬ Gone s c) :
    (s.connection c).cache.keys = (acquired c past).eraseDups.take m ∧
      (s.connection c).cache.counters.asks = (acquired c past).length := by
  induction run with
  | start => exact absurd (.inl rfl) used
  | @step past s a run allowed ih =>
    have next := run.step a allowed
    rcases Nat.lt_or_ge c s.connections.next with exists_ | new
    · obtain ⟨keys, asks⟩ := ih steadfast.tail fun gone => used (run.gone_step allowed exists_ gone)
      have fits := (run.orderly c).fits
      have capacity := run.capacity steadfast.tail exists_
      cases acquires : a.acquires s c with
      | some sql =>
        have accepted (kind : Kind) (obtains : a.obtains s = some (c, kind, sql)) :
            Accepts E.logged s c kind sql :=
          Action.accepts obtains (steadfast.accepted _ (.head _) (a.connection_of_obtains obtains))
        obtain ⟨front, asked⟩ := (Action.asked fits acquires accepted).resolve_right used
        rw [acquired_cons_some acquires, take_eraseDups_cons, front, asked, capacity, keys, asks]
        exact ⟨rfl, rfl⟩
      | none =>
        obtain ⟨same, unasked⟩ := (Action.unasked (E := E.logged) fits exists_
          (run.sound (a.entry_idle s)).registered allowed acquires
          (Action.ne_evict (steadfast.unevicted _ (.head _)))).resolve_right used
        rw [acquired_cons_none acquires, same, unasked]
        exact ⟨keys, asks⟩
    · have unused := Action.unused (E := E.logged) (run.sound ⟨rfl, rfl, rfl, rfl⟩) allowed new
      have unasked : a.acquires s c = none := by
        by_contra asked
        obtain ⟨sql, acquires⟩ := Option.ne_none_iff_exists'.1 asked
        exact absurd (run.in_use allowed acquires).1 (Nat.not_lt.2 new)
      rw [acquired_cons_none unasked, run.acquired_new new, Cache.keys, unused.entries,
        unused.counters]
      exact ⟨List.take_nil.symm, rfl⟩

/-- A text that comes to be listed was asked for. -/
theorem Run.acquires_of_listed (run : Run E.logged ⟨e, []⟩ past s) (allowed : a.Allowed s)
    (accepted : ∀ kind sql, a.obtains s = some (c, kind, sql) → Accepts E.logged s c kind sql)
    (listed : sql ∈ ((a.perform E.logged s).2.connection c).cache.keys)
    (unlisted : sql ∉ (s.connection c).cache.keys) : a.acquires s c = some sql := by
  have used : ¬ Gone (a.perform E.logged s).2 c := fun gone => by
    rw [(run.step a allowed).keys_of_gone gone] at listed
    exact absurd listed List.not_mem_nil
  have sound : Sound ⟨s, { connection := 0 }⟩ := run.sound ⟨rfl, rfl, rfl, rfl⟩
  have fits := (run.orderly c).fits
  rcases Nat.lt_or_ge c s.connections.next with exists_ | new
  · cases acquires : a.acquires s c with
    | some text =>
      obtain ⟨front, -⟩ :=
        (Action.asked fits acquires fun kind => accepted kind text).resolve_right used
      rw [front] at listed
      exact congrArg some ((mem_promote listed).resolve_right unlisted).symm
    | none =>
      by_cases evicts : ∃ text, a = .evict c text
      · obtain ⟨text, rfl⟩ := evicts
        rw [Action.evicted exists_] at listed
        exact absurd (List.mem_of_mem_filter listed) unlisted
      · obtain ⟨same, -⟩ := (Action.unasked (E := E.logged) fits exists_ sound.registered allowed
          acquires fun text h => evicts ⟨text, h⟩).resolve_right used
        exact absurd (same ▸ listed) unlisted
  · have unused := Action.unused (E := E.logged) sound allowed new
    rw [Cache.keys, unused.entries] at listed
    exact absurd listed List.not_mem_nil

/-- A statement that nobody holds, and that is the one in the cache of its connection for its text
if any is. -/
structure Parked (s : Store σ) (c : ConnectionId) (sql : String) (h : CompiledId) : Prop where
  exists_ : h < s.compiled.next
  home : (s.statement h).connection = c
  text : (s.statement h).sql = sql
  entry : ∀ k, (sql, k) ∈ (s.connection c).cache.entries → k = h
  unheld : ∀ p, (s.program p).held ≠ some h

/-- A statement stays parked until its text is asked for. -/
theorem Parked.step (parked : Parked s c sql h) (run : Run E.logged ⟨e, []⟩ past s)
    (allowed : a.Allowed s)
    (accepted : ∀ kind sql, a.obtains s = some (c, kind, sql) → Accepts E.logged s c kind sql)
    (unasked : a.acquires s c ≠ some sql) : Parked (a.perform E.logged s).2 c sql h := by
  have extends_ : Extends s (a.perform E.logged s).2 := run.step_extends allowed
  refine ⟨Nat.lt_of_lt_of_le parked.exists_ extends_.compiled,
    (extends_.statement_connection parked.exists_).trans parked.home,
    (extends_.statement_sql parked.exists_).trans parked.text, fun k stored => ?_, fun p held => ?_⟩
  · rcases (a.admits (E := E.logged) run.titled).entry c _ stored with old | admitted
    · exact parked.entry k old
    · exact absurd (run.acquires_of_listed allowed accepted (List.mem_map.2 ⟨_, stored, rfl⟩)
        admitted.absent) unasked
  · obtain ⟨d, kind, text, obtains, idle⟩ :=
      run.attached allowed held parked.exists_ (parked.unheld p)
    obtain ⟨shared, stored, -⟩ := peek?_of_idle idle
    obtain ⟨belongs, key⟩ := (run.sound (g := { connection := 0 }) ⟨rfl, rfl, rfl, rfl⟩).homes.entry d _
      (Cache.mem_of_peek? stored)
    obtain rfl : d = c := belongs.home.symm.trans parked.home
    obtain rfl : text = sql := key.symm.trans parked.text
    exact unasked (Action.acquires_of_obtains obtains shared)

/-- When a program is closed whose statement is the cached one, that is parked. -/
theorem Run.parks (run : Run E.logged ⟨e, []⟩ past s) (allowed : a.Allowed s)
    (held : (s.program p).held = some h) (cached : s.isCachedBy c h = true)
    (closed : ((a.perform E.logged s).2.program p).isClosed = true) :
    Parked (a.perform E.logged s).2 c (s.statement h).sql h := by
  have idle : Grip.Idle { connection := 0 } := ⟨rfl, rfl, rfl, rfl⟩
  have sound := run.sound idle
  have custody := ((run.step a allowed).sound idle).custody
  have extends_ : Extends s (a.perform E.logged s).2 := run.step_extends allowed
  have stored : ((s.statement h).sql, h) ∈ (s.connection c).cache.entries :=
    (Cache.holds_iff (sound.keyed c)).1 cached
  obtain ⟨belongs, -⟩ := sound.homes.entry c _ stored
  have inUse : (s.statement h).inUse = true :=
    (sound.tokened h (.inl ⟨c, _, stored, rfl⟩)).2 (.inr ⟨p, held⟩)
  refine ⟨Nat.lt_of_lt_of_le belongs.exists_ extends_.compiled,
    (extends_.statement_connection belongs.exists_).trans belongs.home,
    extends_.statement_sql belongs.exists_, fun k stored' => ?_, fun q held' => ?_⟩
  · rcases (a.admits (E := E.logged) run.titled).entry c _ stored' with old | admitted
    · have unique := sound.keyed c
      exact Option.some.inj ((Cache.peek?_of_mem unique old).symm.trans
        (Cache.peek?_of_mem unique stored))
    · exact absurd (List.mem_map.2 ⟨_, stored, rfl⟩) admitted.absent
  · by_cases before : (s.program q).held = some h
    · obtain rfl := sound.custody.unique p q h held before
      have none := custody.closed p closed
      exact nomatch none.symm.trans held'
    · obtain ⟨d, kind, text, -, attached⟩ := run.attached allowed held' belongs.exists_ before
      obtain ⟨-, -, free⟩ := peek?_of_idle attached
      exact absurd (inUse.symm.trans free) (by decide)

/-- What is parked and listed is there for the next program. -/
theorem Parked.idle (parked : Parked s c sql h) (run : Run E.logged ⟨e, []⟩ past s) {kind : Kind}
    (shared : kind.isShared = true) (listed : sql ∈ (s.connection c).cache.keys) :
    s.idle? c kind sql = some h := by
  have sound : Sound ⟨s, { connection := 0 }⟩ := run.sound ⟨rfl, rfl, rfl, rfl⟩
  obtain ⟨⟨_, k⟩, stored, rfl⟩ := List.mem_map.1 listed
  obtain rfl := parked.entry k stored
  have free : (s.statement k).inUse = false := by
    rw [← Bool.not_eq_true]
    intro inUse
    rcases (sound.tokened k (.inl ⟨c, _, stored, rfl⟩)).1 inUse with hand | ⟨q, held⟩
    · nomatch hand
    · exact parked.unheld q held
  unfold idle?
  rw [if_pos shared, Cache.peek?_of_mem (sound.keyed c) stored, Option.filter_some, free]
  rfl

/-- Whether a step attaches to a statement: all that is asked in it names this statement, so that
nothing is compiled, and if it succeeds the program that it works for holds the statement. -/
structure Step.AttachesTo (x : Step (Logged σ)) (h : CompiledId) : Prop where
  named : ∀ r ∈ x.requests, r.Names (x.before.native h)
  held : x.succeeded = true → ∀ p, x.action.actor x.before = some p →
    (x.after.program p).held = some h

/-- A step that is performed in a store. -/
def Step.of (E : Engine σ) (s : Store σ) (a : Action) : Step σ :=
  ⟨s, a, (a.perform E s).1, (a.perform E s).2⟩

/-- A statement that was parked is attached to exactly if its text is listed still. -/
theorem Parked.attachesTo_iff (parked : Parked s c sql h) (run : Run E.logged ⟨e, []⟩ past s)
    (acquires : a.acquires s c = some sql) :
    (Step.of E.logged s a).AttachesTo h ↔ sql ∈ (s.connection c).cache.keys := by
  obtain ⟨kind, obtains, shared⟩ := Action.acquires_eq_some_iff.1 acquires
  constructor
  · intro attaches
    by_contra unlisted
    have absent : s.idle? c kind sql = none := by
      unfold idle?
      rw [if_pos shared, Cache.peek?_eq_none_iff.2 unlisted]
      rfl
    obtain ⟨rest, log, -⟩ := Action.compiles (E := E) obtains absent
    have named := attaches.named
    unfold Step.requests Step.of at named
    rw [log, List.drop_left] at named
    nomatch (named _ (.head _)).2
  · intro listed
    obtain ⟨made, held⟩ := Action.attaches (E := E) obtains (parked.idle run shared listed)
    exact ⟨made.requests, held⟩

/-- The statement of a closed program waits for the next use of its text. -/
theorem Run.awaits {recent earlier : List (Step (Logged σ))} {x : Step (Logged σ)}
    (run : Run E.logged ⟨e, []⟩ (recent ++ x :: earlier) s)
    (steadfast : Steadfast c m (recent ++ x :: earlier))
    (held : (x.before.program p).held = some h) (closed : (x.after.program p).isClosed = true)
    (cached : x.before.isCachedBy c h = true)
    (unasked : (x.before.statement h).sql ∉ acquired c recent) :
    Parked s c (x.before.statement h).sql h := by
  induction recent generalizing s with
  | nil =>
    cases run with
    | step a run allowed => exact run.parks allowed held cached closed
  | cons y recent ih =>
    cases run with
    | @step _ s a run allowed =>
      have before : (x.before.statement h).sql ∉ acquired c recent := fun asked => by
        obtain ⟨z, hz, acquires⟩ := mem_acquired.1 asked
        exact unasked (mem_acquired.2 ⟨z, .tail _ hz, acquires⟩)
      refine (ih run steadfast.tail before).step run allowed (fun kind sql obtains => ?_) ?_
      · exact Action.accepts obtains
          (steadfast.accepted _ (.head _) (a.connection_of_obtains obtains))
      · exact fun acquires => unasked (mem_acquired.2 ⟨_, .head _, acquires⟩)

/-- The contents of a cache. On a connection that has always had one capacity, where no text was
evicted explicitly and none was refused, the texts in the cache are the first of the distinct texts
for which the connection was asked, the latest first; all of these times, whether a statement was
attached to, compiled or in use, are counted, and what is asked for is trimmed and of a kind to be
cached. Nothing else changes the order. So a statement that was the cached one for its text when its
program was closed is the one that the next program with this text attaches to, and nothing is
compiled, exactly if fewer other texts were asked for since than the capacity allows. -/
theorem cache_lists_latest (run : Run E.logged ⟨e, []⟩ past s) (steadfast : Steadfast c m past) :
    (¬ Gone s c →
      (s.connection c).cache.keys = (acquired c past).eraseDups.take m ∧
      (s.connection c).cache.counters.asks = (acquired c past).length) ∧
    (∀ sql ∈ acquired c past, Text.trim sql = sql ∧ (Kind.classify sql).isShared = true) ∧
    (∀ a : Action, a.Allowed s → a.acquires s c = none → a.evicts c = false →
      ¬ Gone (a.perform E.logged s).2 c →
      ((a.perform E.logged s).2.connection c).cache.keys = (s.connection c).cache.keys) ∧
    ∀ recent x earlier, past = recent ++ x :: earlier → ∀ p h,
      (x.before.program p).held = some h → (x.after.program p).isClosed = true →
      x.before.isCachedBy c h = true → (x.before.statement h).sql ∉ acquired c recent →
      ∀ a : Action, a.Allowed s → a.acquires s c = some (x.before.statement h).sql →
        ((Step.of E.logged s a).AttachesTo h ↔
          ((acquired c past).takeWhile (· != (x.before.statement h).sql)).eraseDups.length < m) := by
  refine ⟨run.recent steadfast, fun sql asked => ?_, fun a allowed unasked kept used => ?_, ?_⟩
  · have eligible := run.acquired_eligible sql asked
    exact ⟨eligible.trimmed, eligible.shared⟩
  · have sound : Sound ⟨s, { connection := 0 }⟩ := run.sound ⟨rfl, rfl, rfl, rfl⟩
    rcases Nat.lt_or_ge c s.connections.next with exists_ | new
    · exact ((Action.unasked (run.orderly c).fits exists_ sound.registered allowed unasked
        (Action.ne_evict kept)).resolve_right used).1
    · have before : s.connection c = default := Table.get_of_le _ new
      rw [before, Cache.keys, (Action.unused (E := E.logged) sound allowed new).entries]
      rfl
  · rintro recent x earlier rfl p h held closed cached unasked a allowed acquires
    have parked := run.awaits steadfast held closed cached unasked
    rw [parked.attachesTo_iff run acquires, (run.recent steadfast (run.in_use allowed acquires).2).1,
      mem_take_eraseDups, and_iff_right_iff_imp]
    intro _
    -- the text was asked for before its statement was cached
    obtain ⟨reached, -⟩ := run.reached
    have listed : (x.before.statement h).sql ∈ (x.before.connection c).cache.keys := by
      have sound : Sound ⟨x.before, { connection := 0 }⟩ := reached.sound ⟨rfl, rfl, rfl, rfl⟩
      exact List.mem_map.2 ⟨_, (Cache.holds_iff (sound.keyed c)).1 cached, rfl⟩
    have used : ¬ Gone x.before c := fun gone => by
      rw [reached.keys_of_gone gone] at listed
      exact absurd listed List.not_mem_nil
    have part : earlier ⊆ recent ++ x :: earlier :=
      fun y hy => List.mem_append_right _ (.tail _ hy)
    rw [(reached.recent (steadfast.mono part) used).1] at listed
    obtain ⟨y, hy, asked⟩ := mem_acquired.1 (List.mem_eraseDups.1 (List.mem_of_mem_take listed))
    exact mem_acquired.2 ⟨y, part hy, asked⟩

/-- One program uses a text while another one, with the text in blanks, is created and closed; both
are closed, and another text is asked for. There is room for two, so the third program with the
first text attaches to the statement of the first. -/
theorem cache_lists_latest_attached :
    ∃ past s, Run Recording.engine.logged ⟨{}, []⟩ past s ∧ Steadfast 0 2 past ∧ ¬ Gone s 0 ∧
      acquired 0 past = ["DELETE", "INSERT", "INSERT"] ∧
      (s.connection 0).cache.keys = ["DELETE", "INSERT"] ∧
      Action.Allowed s (.createCompiled 0 "INSERT") ∧
      (Step.of Recording.engine.logged s (.createCompiled 0 "INSERT")).AttachesTo 0 := by
  have opened := Run.ofActions (E := Recording.engine.logged) (e := ⟨{}, []⟩)
    [.openConnection 0 { capacity := 2 }, .createCompiled 0 "INSERT", .createCompiled 0 " INSERT ",
      .closeProgram 1] (by decide +kernel)
  have closed := opened.step (.closeProgram 0) (by decide +kernel)
  have run := closed.extend [.createDeferred 0 "DELETE", .bindValue 2 1 .null, .execute 2]
    (by decide +kernel)
  obtain ⟨recent, -, -, reuse⟩ := cache_lists_latest (c := 0) (m := 2) run
    ⟨by decide +kernel, by decide +kernel, by decide +kernel⟩
  have attaches := reuse [_, _, _] _ _ rfl 0 0 (by decide +kernel) (by decide +kernel)
    (by decide +kernel) (by decide +kernel) (.createCompiled 0 "INSERT") (by decide +kernel)
    (by decide +kernel)
  refine ⟨_, _, run, ⟨?_, ?_, ?_⟩, ?_, ?_, (recent ?_).1.trans ?_, ?_, attaches.2 ?_⟩ <;>
    decide +kernel

end Runs

end Store

end Prepared
