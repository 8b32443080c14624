import Prepared.Proofs.Inclusion

/-! Statistics.

The counters of a cache are advanced one at a time, in different places, but after every action they
agree with what was done. A statement that was obtained is counted once, and one that was compiled
for this once among those that are no hits. A statement that was compiled for a cache with room has
since been evicted, is cached still, or was there when the connection went out of use. -/
namespace Prepared

namespace Counters

variable (n : Counters) (a : Acquisition)

/-- How often a statement was obtained. -/
def acquisitions : Nat :=
  n.hits + n.misses + n.contentions + n.uncached

/-- How often a statement was compiled. -/
def compilations : Nat :=
  n.misses + n.contentions + n.uncached

theorem acquisitions_count : (n.count a).acquisitions = n.acquisitions + 1 := by
  cases a <;> simp only [count, acquisitions] <;> omega

theorem compilations_count :
    (n.count a).compilations = n.compilations + if a = .hit then 0 else 1 := by
  cases a <;> simp [count, compilations] <;> omega

end Counters

/-- Whether an engine compiled a text. -/
def Sent.isCompilation (r : Sent) : Bool :=
  match r.request, r.answer with
  | .compile _, .ok _ => true
  | _, _ => false

theorem Sent.not_isCompilation {r : Sent} (other : r.request.name ≠ .compile) :
    r.isCompilation = false := by
  obtain ⟨i, request, answer⟩ := r
  cases request with
  | compile => exact absurd rfl other
  | _ => rfl

theorem Sent.Names.not_isCompilation {r : Sent} {key : EngineId × StatementId} (h : r.Names key) :
    r.isCompilation = false := by
  refine Sent.not_isCompilation fun compiles => ?_
  obtain ⟨i, request, answer⟩ := r
  cases request with
  | compile => nomatch h.2
  | _ => nomatch compiles

namespace Cache

variable {α : Type} {v w : Cache α} {key : String}

/-- How many entries a cache has, or had and was made to give up. -/
def intake (v : Cache α) : Nat :=
  v.counters.evictions + v.size

/-- The misses that were counted from one state of a cache to another, if it had room. -/
def admitted (v w : Cache α) : Nat :=
  if v.capacity = 0 then 0 else w.counters.misses - v.counters.misses

theorem admitted_of_misses (same : w.counters.misses = v.counters.misses) : v.admitted w = 0 := by
  unfold admitted
  rw [same, Nat.sub_self, ite_self]

theorem Parts.size {out : List α} (h : Parts v w out) : out.length + w.size = v.size := by
  obtain ⟨es, rfl, perm⟩ := h
  have length := perm.length_eq
  rwa [List.length_append, ← List.length_map (Prod.snd : String × α → α)] at length

theorem intake_touch (nodup : v.keys.Nodup) : (v.touch key).intake = v.intake := by
  unfold intake
  rw [counters_touch, size, (touch_perm key nodup).length_eq]
  rfl

/-- What is stored for a text without an entry is one entry more, or has no room at all. -/
theorem intake_insert (a : α) (absent : v.peek? key = none) :
    (v.insert key a).2.intake = v.intake + if v.capacity = 0 then 0 else 1 := by
  split
  · next full =>
    rw [insert_of_zero key a full]
    rfl
  · next room =>
    have parts := (insert_parts a room absent).size
    have evictions : (v.insert key a).2.counters.evictions =
        v.counters.evictions + (v.insert key a).1.length := by
      unfold insert
      rw [if_neg room]
      rfl
    have more : ({ v with entries := (key, a) :: v.entries } : Cache α).size = v.size + 1 := rfl
    unfold intake
    omega

theorem intake_erase (nodup : v.keys.Nodup) : (v.erase key).2.intake = v.intake := by
  cases stored : v.peek? key with
  | none => rw [erase, stored]
  | some a =>
    have parts := (erase_parts nodup stored).size
    have evictions : (v.erase key).2.counters.evictions = v.counters.evictions + 1 := by
      rw [erase, stored]
      rfl
    rw [List.length_singleton] at parts
    unfold intake
    omega

theorem intake_resize (n : Nat) : (v.resize n).2.intake = v.intake := by
  have parts := (resize_parts v n).size
  have evictions : (v.resize n).2.counters.evictions =
      v.counters.evictions + (v.resize n).1.length := rfl
  unfold intake
  omega

/-- One cache comes from another in which so many statements were obtained, and so many compiled
for it, and the misses of which are entries of it as far as there was room. -/
structure Tallies (v w : Cache α) (obtained compiled : Nat) : Prop where
  acquisitions : w.counters.acquisitions = v.counters.acquisitions + obtained
  compilations : w.counters.compilations = v.counters.compilations + compiled
  intake : w.intake = v.intake + v.admitted w

namespace Tallies

/-- Nothing was obtained. -/
theorem nothing (acquisitions : w.counters.acquisitions = v.counters.acquisitions)
    (compilations : w.counters.compilations = v.counters.compilations)
    (misses : w.counters.misses = v.counters.misses) (intake : w.intake = v.intake) :
    Tallies v w 0 0 :=
  ⟨acquisitions, compilations, by rw [admitted_of_misses misses, intake, Nat.add_zero]⟩

theorem touch (nodup : v.keys.Nodup) : Tallies v (v.touch key) 0 0 := by
  have counters := counters_touch v key
  exact nothing (by rw [counters]) (by rw [counters]) (by rw [counters]) (intake_touch nodup)

theorem erase (nodup : v.keys.Nodup) : Tallies v (v.erase key).2 0 0 := by
  refine nothing ?_ ?_ ?_ (intake_erase nodup) <;> unfold Cache.erase <;> split <;> rfl

theorem resize (n : Nat) : Tallies v (v.resize n).2 0 0 :=
  nothing rfl rfl rfl (intake_resize n)

/-- What is not stored is only counted. -/
theorem count {a : Acquisition} (unstored : a ≠ .miss) :
    Tallies v (v.count a) 1 (if a = .hit then 0 else 1) where
  acquisitions := Counters.acquisitions_count ..
  compilations := Counters.compilations_count ..
  intake := by
    have misses : (v.count a).counters.misses = v.counters.misses := by
      cases a with
      | miss => exact absurd rfl unstored
      | _ => rfl
    rw [admitted_of_misses misses]
    cases a <;> rfl

/-- To move an entry first makes no difference. -/
theorem touch_count {a : Acquisition} (nodup : v.keys.Nodup) (unstored : a ≠ .miss) :
    Tallies v ((v.touch key).count a) 1 (if a = .hit then 0 else 1) := by
  have counted := count (v := v.touch key) unstored
  have counters := counters_touch v key
  constructor
  case acquisitions => rw [counted.acquisitions, counters]
  case compilations => rw [counted.compilations, counters]
  case intake =>
    rw [counted.intake, intake_touch nodup, admitted, admitted, capacity_touch, counters]

theorem insert (x : α) (absent : v.peek? key = none) :
    Tallies v ((v.count .miss).insert key x).2 1 1 := by
  have evictions : ∃ n, ((v.count .miss).insert key x).2.counters =
      { v.counters.count .miss with evictions := n } := by
    unfold Cache.insert
    split <;> exact ⟨_, rfl⟩
  obtain ⟨n, counters⟩ := evictions
  constructor
  case acquisitions =>
    rw [counters]
    exact Counters.acquisitions_count v.counters .miss
  case compilations =>
    rw [counters]
    exact Counters.compilations_count v.counters .miss
  case intake =>
    have stored := intake_insert (v := v.count .miss) x absent
    rw [stored, admitted, counters]
    show v.intake + (if v.capacity = 0 then 0 else 1) = _
    simp [Counters.count]

end Tallies

end Cache

namespace Store

open Operation

variable {σ : Type} {E : Engine σ} {c d : ConnectionId} {kind : Kind} {sql : String} {a : Action}
  {v : Cache CompiledId}

section Turns

variable {s : Store σ}

/-- An acquisition succeeds exactly if there is an idle statement or the text is compiled. -/
theorem acquire_isOk_iff :
    ((acquire E c kind sql).run s).1.isOk = true ↔ Accepts E s c kind sql := by
  by_cases accepted : Accepts E s c kind sql
  · refine iff_of_true ?_ accepted
    cases idle : s.idle? c kind sql with
    | some h =>
      obtain ⟨es, run⟩ := acquire_attached (E := E) idle
      rw [run]
      rfl
    | none =>
      obtain ⟨n, answer⟩ := accepted idle
      obtain ⟨t, run, -⟩ := acquire_compiled idle answer
      rw [run]
      rfl
  · refine iff_of_false ?_ accepted
    obtain ⟨idle, e, answer⟩ := refused_of_not_accepts accepted
    rw [acquire_refused idle answer]
    nofun

/-- Whether an action obtains a statement of a connection: it is to obtain one, and that succeeds,
whether or not the bindings that wait are accepted then. -/
def Action.isServed (E : Engine σ) (s : Store σ) (c : ConnectionId) (a : Action) : Bool :=
  match a.obtains s with
  | some (d, kind, sql) => d == c && ((acquire E d kind sql).run s).1.isOk
  | none => false

theorem Action.isServed_of_obtains (obtains : a.obtains s = some (c, kind, sql)) :
    a.isServed E s c = ((acquire E c kind sql).run s).1.isOk := by
  simp [isServed, obtains]

theorem Action.not_isServed (unasked : ∀ kind sql, a.obtains s ≠ some (c, kind, sql)) :
    a.isServed E s c = false := by
  unfold isServed
  split
  · next d kind sql obtains =>
    have other : d ≠ c := fun same => unasked kind sql (same ▸ obtains)
    simp [other]
  · rfl

/-- A statement that was obtained is counted, and among those that were compiled unless there was an
idle one. -/
theorem tallies_obtained (nodup : (s.connection c).cache.keys.Nodup) :
    (s.connection c).cache.Tallies (s.obtained c kind sql) 1
      (!(s.idle? c kind sql).isSome).toNat := by
  by_cases shared : kind.isShared = true
  · simp only [obtained, idle?, shared, if_true]
    cases stored : (s.connection c).cache.peek? sql with
    | none => exact .insert s.compiled.next stored
    | some h =>
      cases busy : (s.statement h).inUse with
      | false => simpa [busy] using Cache.Tallies.touch_count (a := .hit) nodup (by decide)
      | true => simpa [busy] using Cache.Tallies.touch_count (a := .contention) nodup (by decide)
  · simp only [obtained, idle?, if_neg shared]
    exact .count (a := .uncached) (by decide)

/-- Every action has what it does for a cache counted there. -/
theorem Action.Turns.tallies (turns : a.Turns E s c v)
    (nodup : (s.connection c).cache.keys.Nodup) :
    (s.connection c).cache.Tallies v (a.isServed E s c).toNat
      (a.isServed E s c && !a.reuses s c).toNat := by
  have idle (unasked : ∀ kind sql, a.obtains s ≠ some (c, kind, sql)) :
      a.isServed E s c = false := not_isServed unasked
  cases turns with
  | @obtained kind sql v obtains yields =>
    rw [isServed_of_obtains obtains, reuses_of_obtains obtains]
    by_cases accepted : Accepts E s c kind sql
    · rw [yields.accepted accepted, acquire_isOk_iff.2 accepted]
      exact tallies_obtained nodup
    · have refused : ((acquire E c kind sql).run s).1.isOk = false := by
        rwa [← Bool.not_eq_true, acquire_isOk_iff]
      rw [yields.refused accepted, refused]
      unfold lookedUp
      split
      · exact .touch nodup
      · exact .nothing rfl rfl rfl rfl
  | evicted text evicts =>
    rw [idle (evicts ▸ nofun)]
    exact .erase nodup
  | resized n resizes =>
    rw [idle (resizes ▸ nofun)]
    exact .resize n
  | kept unasked =>
    rw [idle unasked]
    exact .nothing rfl rfl rfl rfl

end Turns

section Requests

variable {s : Store (Logged σ)}

/-- In the step of an action one text is compiled if the action obtains a statement that was not
there, and else none. -/
theorem Action.countP_compilations (a : Action) :
    ((a.perform E.logged s).2.engine.log.drop s.engine.log.length).countP Sent.isCompilation =
      (a.isServed E.logged s (a.connection s) && !a.reuses s (a.connection s)).toNat := by
  rcases obtains : a.obtains s with _ | ⟨c, kind, sql⟩
  · have unserved : a.isServed E.logged s (a.connection s) = false :=
      not_isServed fun kind sql same => nomatch obtains.symm.trans same
    rw [unserved, Bool.false_and, Bool.toNat_false, List.countP_eq_zero]
    intro r hr
    rw [Bool.not_eq_true]
    rcases (asks_of_held obtains).requests r hr with destroys | ⟨p, h, -, -, named⟩
    · exact Sent.not_isCompilation fun compiles => nomatch compiles.symm.trans destroys
    · exact named.not_isCompilation
  · rw [connection_of_obtains obtains, isServed_of_obtains obtains, reuses_of_obtains obtains]
    cases idle : s.idle? c kind sql with
    | some h =>
      rw [Option.isSome_some, Bool.not_true, Bool.and_false, Bool.toNat_false, List.countP_eq_zero]
      intro r hr
      rw [Bool.not_eq_true]
      exact ((attaches obtains idle).1.requests r hr).not_isCompilation
    | none =>
      obtain ⟨rest, log, others⟩ := compiles (E := E) obtains idle
      have uncompiled : rest.countP Sent.isCompilation = 0 := by
        rw [List.countP_eq_zero]
        intro r hr
        rw [Bool.not_eq_true]
        rcases others r hr with destroys | ⟨-, named⟩
        · exact Sent.not_isCompilation fun compiles => nomatch compiles.symm.trans destroys
        · exact named.not_isCompilation
      rw [log, List.drop_left, List.countP_cons, uncompiled]
      cases answer : (E.logged.run (s.connection c).engine (.compile sql) s.engine).1 with
      | ok n =>
        rw [acquire_isOk_iff.2 fun _ => ⟨n, answer⟩]
        rfl
      | error e =>
        rw [acquire_refused idle answer]
        rfl

end Requests

/-- How many entries a cache admitted in a step. -/
def Step.admitted (x : Step σ) (c : ConnectionId) : Nat :=
  (x.before.connection c).cache.admitted (x.after.connection c).cache

/-- How many entries there were in a cache when the last reference to its connection was given
back. -/
def Step.drained (x : Step σ) (c : ConnectionId) : Nat :=
  if (x.before.connection c).references ≠ 0 ∧ (x.after.connection c).references = 0 then
    (x.before.connection c).cache.size
  else 0

/-- How many entries there were in a cache when the last clone or program of its connection went out
of use, with references to it left. -/
def Step.lapsed (x : Step σ) (c : ConnectionId) : Nat :=
  if x.before.isReferenced c = true ∧ x.after.isReferenced c = false ∧
      (x.after.connection c).references ≠ 0 then
    (x.before.connection c).cache.size
  else 0

/-- What there was of something in all steps together. -/
def total (f : Step σ → Nat) : List (Step σ) → Nat
  | [] => 0
  | x :: past => f x + total f past

section Use

variable {s : Store σ}

theorem createCompiled_clones (text : String) :
    Keeps (fun s => (s.connection c).clones) (createCompiled E d text) := by
  have of_standing {ε α : Type} {x : Op σ ε α} (hx : Keeps standing x) :
      Keeps (fun s => (s.connection c).clones) x := fun s => congrArg (fun v => v.2 c) (hx s)
  have created : Keeps (fun s => (s.connection c).clones)
      (createDeferred d text : Op σ ProgramError ProgramId) :=
    .bind (.bind (.read _) fun _ => .ite (.pure _) (.throw _)) fun _ =>
    .bind (.bind (.read _) fun _ => .ite (.throw _) (.ite (.throw _)
      (.change fun s => connection_part s d c (fun x => x.clones) fun _ => rfl))) fun _ =>
    .bind (.read _) fun _ => .bind (.change fun _ => rfl) fun _ =>
    .bind (.change fun s => connection_part s d c (fun x => x.clones) fun _ => rfl) fun _ => .pure _
  have dropped (p : ProgramId) : Keeps (fun s => (s.connection c).clones)
      (dropProgram E p : Op σ ProgramError Unit) := by
    refine .bind (.read _) fun x => .bind (.attempt (of_standing tearDown_keeps)) fun r => ?_
    cases r with
    | ok _ =>
      exact .bind (.change fun _ => rfl) fun _ => of_standing keeps_dropConnectionIfUnreferenced
    | error e =>
      exact .bind (.change fun _ => rfl) fun _ => .bind (.change fun _ => rfl) fun _ =>
        of_standing keeps_dropConnectionIfUnreferenced
  have compiled (p : ProgramId) : Keeps standing (compileProgram E p) :=
    fun s => standing_of_steady (compileProgram_keeps s)
  refine .bind created fun p => .bind (.attempt (of_standing (compiled p))) fun r => ?_
  cases r with
  | ok _ => exact .pure _
  | error e => exact .bind (dropped p) fun _ => .throw _

variable {e : σ} {past : List (Step σ)}

/-- An action that is there to change the cache of a connection leaves it in use. -/
theorem Run.stays_in_use (run : Run E e past s) (allowed : a.Allowed s) (used : ¬ Gone s c)
    (changes : (∃ kind sql, a.obtains s = some (c, kind, sql)) ∨ (∃ text, a = .evict c text) ∨
      ∃ n, a = .setCapacity c n) : ¬ Gone (a.perform E s).2 c := by
  have same {t : Store σ} (books : t.books = s.books) (standing : t.standing = s.standing) :
      ¬ Gone t c := by
    unfold Gone
    rw [isReferenced_of_standing standing]
    have references : (t.connection c).references = (s.connection c).references :=
      congrArg (fun b => (b.1 c).references) books
    rw [references]
    exact used
  have steady {t : Store σ} (h : t.steady = s.steady) : ¬ Gone t c :=
    same (books_of_steady h) (standing_of_steady h)
  rcases changes with ⟨kind, sql, obtains⟩ | ⟨text, rfl⟩ | ⟨n, rfl⟩
  · cases a with
    | compile q => exact steady (compileProgram_keeps s)
    | execute q => exact steady (execute_keeps s)
    | createCompiled d text =>
      obtain ⟨isOpen, -, rfl, -⟩ := Action.obtains_created obtains
      have clones := createCompiled_clones (E := E) (c := d) (d := d) text s
      rintro (none | alone)
      · have stays : (((createCompiled E d text).run s).2.connection d).isOpen = true :=
          createCompiled_stays_open (run.listed.absent d) isOpen
        exact (run.step _ allowed).funded d stays none
      · have referenced := isReferenced_of_clones (Nat.lt_of_lt_of_eq allowed clones.symm)
        exact absurd (referenced.symm.trans alone) (by decide)
    | _ => nomatch obtains
  · exact same (evict_keeps text s) (evict_keeps text s)
  · exact same (setCapacity_keeps n s) (setCapacity_keeps n s)

/-- What leaves a cache uncounted in a step does so when its connection goes out of use. -/
theorem Run.size_step (run : Run E e past s) (allowed : a.Allowed s)
    (turns : a.Turns E s c v) (remains : Remains c v (a.perform E s).2) :
    v.size = ((a.perform E s).2.connection c).cache.size + (Step.of E s a).drained c +
      (Step.of E s a).lapsed c := by
  have empty {past : List (Step σ)} {t : Store σ} (run : Run E e past t) (gone : Gone t c) :
      (t.connection c).cache.entries = [] :=
    List.map_eq_nil_iff.1 (run.keys_of_gone gone)
  unfold Step.drained Step.lapsed Step.of
  by_cases gone : Gone (a.perform E s).2 c
  · have after : ((a.perform E s).2.connection c).cache.size = 0 := by
      rw [Cache.size, empty (run.step a allowed) gone]
      rfl
    by_cases before : Gone s c
    -- the connection was out of use already
    · have nothing := empty run before
      have unchanged : v.size = 0 := by
        cases turns with
        | obtained obtains => exact absurd before (run.in_use_of_obtains allowed obtains).2
        | evicted text => simp [Cache.erase, Cache.peek?, nothing, Cache.size]
        | resized n => simp [Cache.resize, Cache.trim, nothing, Cache.size, Cache.countEvictions]
        | kept => rw [Cache.size, nothing]; rfl
      have none : (s.connection c).cache.size = 0 := by
        rw [Cache.size, nothing]
        rfl
      simp only [after, unchanged, none, ite_self]
    · have stays := run.stays_in_use allowed before (c := c)
      obtain ⟨references, referenced⟩ := not_or.1 before
      rw [Bool.not_eq_false] at referenced
      have same : v = (s.connection c).cache := by
        cases turns with
        | obtained obtains => exact absurd gone (stays (.inl ⟨_, _, obtains⟩))
        | evicted text evicts => exact absurd gone (stays (.inr (.inl ⟨text, evicts⟩)))
        | resized n resizes => exact absurd gone (stays (.inr (.inr ⟨n, resizes⟩)))
        | kept => rfl
      rw [after, same]
      by_cases none : ((a.perform E s).2.connection c).references = 0
      · simp [references, none]
      · simp [referenced, none, gone.resolve_left none]
  · obtain ⟨references, referenced⟩ := not_or.1 gone
    rw [remains.same.resolve_right gone]
    simp [references, referenced]

/-- What an action does for a connection is counted in the cache of that. -/
theorem Run.tallies_step (run : Run E e past s) (allowed : a.Allowed s) (c : ConnectionId) :
    let v := (s.connection c).cache
    let w := ((a.perform E s).2.connection c).cache
    w.counters.acquisitions = v.counters.acquisitions + (a.isServed E s c).toNat ∧
      w.counters.compilations =
        v.counters.compilations + (a.isServed E s c && !a.reuses s c).toNat ∧
      w.intake + (Step.of E s a).drained c + (Step.of E s a).lapsed c =
        v.intake + (Step.of E s a).admitted c := by
  intro v w
  have sound : Sound ⟨s, { connection := 0 }⟩ := run.sound ⟨rfl, rfl, rfl, rfl⟩
  rcases Nat.lt_or_ge c s.connections.next with exists_ | new
  · obtain ⟨u, turns, remains⟩ := a.turns (E := E) exists_ sound.registered allowed
    obtain ⟨acquisitions, compilations, intake⟩ := turns.tallies (sound.keyed c)
    have counters : w.counters = u.counters := congrArg Prod.snd remains.tally
    have size := run.size_step allowed turns remains
    have admitted : (Step.of E s a).admitted c = v.admitted u := by
      show v.admitted w = v.admitted u
      rw [Cache.admitted, Cache.admitted, counters]
    refine ⟨counters ▸ acquisitions, counters ▸ compilations, ?_⟩
    change u.size = w.size + _ + _ at size
    rw [admitted, ← intake, Cache.intake, Cache.intake, counters]
    omega
  · have unused := Action.unused (E := E) sound allowed new
    have before : s.connection c = default := Table.get_of_le _ new
    have unasked : a.isServed E s c = false := Action.not_isServed fun kind sql obtains =>
      absurd (run.in_use_of_obtains allowed obtains).1 (Nat.not_lt.2 new)
    have same : w.counters = v.counters := by
      show w.counters = (s.connection c).cache.counters
      rw [unused.counters, before]
      rfl
    have empty : w.intake = v.intake := by
      show w.counters.evictions + w.entries.length = (s.connection c).cache.intake
      rw [unused.counters, unused.entries, before]
      rfl
    have none : (Step.of E s a).drained c = 0 ∧ (Step.of E s a).lapsed c = 0 := by
      have size : (s.connection c).cache.size = 0 := by rw [before]; rfl
      unfold Step.drained Step.lapsed Step.of
      simp only [size, ite_self, and_self]
    have admitted : (Step.of E s a).admitted c = 0 :=
      Cache.admitted_of_misses (congrArg Counters.misses same)
    rw [unasked, same, empty, none.1, none.2, admitted]
    exact ⟨rfl, rfl, rfl⟩

/-- Nothing is lost of what is lost only once something has come true that stays true. -/
theorem Run.nothing_lost (run : Run E e past s) (out : Store σ → Prop) {lost : Step σ → Nat}
    (stays : ∀ m n, Move E m n → out m.store → out n.store)
    (loses : ∀ s a, Extends s (a.perform E s).2 → lost (Step.of E s a) ≠ 0 →
      out (a.perform E s).2) (inside : ¬ out s) : total lost past = 0 := by
  induction run with
  | start => rfl
  | @step past s a run allowed ih =>
    have moves := a.moves (E := E) (run.sound (a.entry_idle s)).registered allowed
    have before : ¬ out s := fun h =>
      inside (moves.invariant (I := fun m => out m.store) (fun m n hm hs => stays m n hm hs) h)
    have none : lost (Step.of E s a) = 0 := by
      by_contra some
      exact inside (loses s a (run.step_extends allowed) some)
    rw [total, ih before]
    exact none

theorem lt_of_size (some : (s.connection c).cache.size ≠ 0) : c < s.connections.next :=
  Table.lt_next_of_part_ne (fun x => x.cache.size) some

/-- Nothing was drained from a cache as long as there are references to its connection. -/
theorem Run.undrained (run : Run E e past s) (held : (s.connection c).references ≠ 0) :
    total (·.drained c) past = 0 := by
  refine run.nothing_lost (fun s => Released s c) (fun m n hm hs => hs.move hm)
    (fun s a extends_ some => ?_) fun released => held released.references
  unfold Step.drained Step.of at some
  split at some
  · next none => exact ⟨Nat.lt_of_lt_of_le (lt_of_size some) extends_.connections, none.2⟩
  · exact absurd rfl some

/-- Nothing has lapsed from a cache as long as something refers to its connection. -/
theorem Run.unlapsed (run : Run E e past s) (referenced : s.isReferenced c = true) :
    total (·.lapsed c) past = 0 := by
  refine run.nothing_lost (fun s => c < s.connections.next ∧ s.isReferenced c = false)
    (fun m n hm hs => ⟨Nat.lt_of_lt_of_le hs.1 hm.extends.connections, hm.unreferenced hs.1 hs.2⟩)
    (fun s a extends_ some => ?_) fun alone => absurd (referenced.symm.trans alone.2) (by decide)
  unfold Step.lapsed Step.of at some
  split at some
  · next alone => exact ⟨Nat.lt_of_lt_of_le (lt_of_size some) extends_.connections, alone.2.1⟩
  · exact absurd rfl some

end Use

/-- The requests that were made in the steps on a connection. -/
def requestsFor (c : ConnectionId) (past : List (Step (Logged σ))) : List Sent :=
  (past.filter fun x => x.action.connection x.before = c).flatMap Step.requests

section Runs

variable {e : σ} {past : List (Step (Logged σ))} {s : Store (Logged σ)}

/-- What was compiled for a connection is what was obtained and was not idle. -/
theorem compilations_cons (s : Store (Logged σ)) (a : Action) (past : List (Step (Logged σ))) :
    (requestsFor c (Step.of E.logged s a :: past)).countP Sent.isCompilation =
      (requestsFor c past).countP Sent.isCompilation +
        (a.isServed E.logged s c && !a.reuses s c).toNat := by
  let x := Step.of E.logged s a
  unfold requestsFor
  rw [List.filter_cons]
  by_cases own : x.action.connection x.before = c
  · have compiled := a.countP_compilations (E := E) (s := s)
    rw [show a.connection s = c from own] at compiled
    rw [if_pos (decide_eq_true own), List.flatMap_cons, List.countP_append, Nat.add_comm]
    exact congrArg _ compiled
  · have unserved : a.isServed E.logged s c = false := Action.not_isServed fun kind sql obtains =>
      own (a.connection_of_obtains obtains)
    rw [if_neg (by simpa using own), unserved]
    rfl

/-- The statistics of a connection agree with what was done, whatever its engine refuses. Hits,
misses, fallbacks and uncached compilations together are as many as the steps that obtained a
statement of the connection, even where its bindings were refused then. All but the hits are as many
as the compilations that succeeded in the steps on the connection. The misses that were counted
while there was room are the entries that were evicted, those that are cached, and those that were
drained when the last reference was given back, which are none as long as there is a reference. What
a connection lost that went out of use with references left would have to be added, but as long as
it is in use that is nothing. -/
theorem statistics_balance (run : Run E.logged ⟨e, []⟩ past s) (c : ConnectionId) :
    let n := (s.connection c).cache.counters
    n.hits + n.misses + n.contentions + n.uncached =
        past.countP (fun x => x.action.isServed E.logged x.before c) ∧
      n.misses + n.contentions + n.uncached =
        (requestsFor c past).countP Sent.isCompilation ∧
      total (·.admitted c) past =
        n.evictions + (s.connection c).cache.size + total (·.drained c) past +
          total (·.lapsed c) past ∧
      ((s.connection c).references ≠ 0 → total (·.drained c) past = 0) ∧
      (s.isReferenced c = true → total (·.lapsed c) past = 0) := by
  refine and_assoc.1 (and_assoc.1 ⟨?_, run.undrained, run.unlapsed⟩)
  show ((s.connection c).cache.counters.acquisitions = _ ∧
    (s.connection c).cache.counters.compilations = _) ∧ _
  induction run with
  | start => exact ⟨⟨rfl, rfl⟩, rfl⟩
  | @step past s a run allowed ih =>
    obtain ⟨⟨acquisitions, compilations⟩, intake⟩ := ih
    obtain ⟨acquired, compiled, taken⟩ := run.tallies_step allowed c
    refine ⟨⟨?_, ?_⟩, ?_⟩
    · rw [acquired, acquisitions, List.countP_cons]
      cases a.isServed E.logged s c <;> rfl
    · rw [compiled, compilations]
      exact (compilations_cons s a past).symm
    · change _ = Cache.intake _ + _ + _ at intake
      rw [total, total, total, intake]
      show (Step.of E.logged s a).admitted c + _ = Cache.intake _ + ((Step.of E.logged s a).drained c +
        _) + ((Step.of E.logged s a).lapsed c + _)
      omega

/-- A text is compiled for a cache without room, for one with room for one text, and while the cached
statement is in use; a text is compiled that is not cached, and another one refused. Then a program
attaches to the cached statement, but its binding is refused; one more text takes the place of that
statement, and is cached when the connection is closed. -/
theorem statistics_balance_closed :
    ∃ past s, Run Recording.engine.withFaults.logged
        ⟨⟨{}, [⟨.compile, 4, .native "busy"⟩, ⟨.bind, 0, .native "busy"⟩]⟩, []⟩ past s ∧
      (s.connection 0).references = 0 ∧ (s.connection 0).cache.counters = ⟨1, 3, 1, 1, 1⟩ ∧
      (past.countP fun x =>
        x.action.isServed Recording.engine.withFaults.logged x.before 0) = 6 ∧
      (requestsFor 0 past).countP Sent.isCompilation = 5 ∧
      total (·.admitted 0) past = 2 ∧ total (·.drained 0) past = 1 := by
  have run := Run.ofActions (E := Recording.engine.withFaults.logged)
    (e := ⟨⟨{}, [⟨.compile, 4, .native "busy"⟩, ⟨.bind, 0, .native "busy"⟩]⟩, []⟩)
    [.openConnection 0 { capacity := 0 }, .createCompiled 0 "INSERT", .setCapacity 0 1,
      .createCompiled 0 "INSERT", .createCompiled 0 "INSERT", .createCompiled 0 "UPDATE",
      .createCompiled 0 "BEGIN", .closeProgram 1, .createDeferred 0 "INSERT", .bindValue 5 1 .null,
      .compile 5, .createCompiled 0 "DELETE", .closeConnection 0 [0, 2, 3, 5, 6]]
    (by decide +kernel)
  obtain ⟨acquisitions, compilations, admitted, -, unlapsed⟩ := statistics_balance run 0
  have lapsed := unlapsed (by decide +kernel)
  refine ⟨_, _, run, ?_, ?_, acquisitions.symm.trans ?_, compilations.symm.trans ?_,
    admitted.trans ?_, ?_⟩
  case refine_5 => rw [lapsed]; decide +kernel
  all_goals decide +kernel

end Runs

end Store

end Prepared
