import Prepared.Proofs.Reshaping
import Prepared.Proofs.Reuse

/-! Larger caches.

Two stores that differ in the room of one cache are alike in their shapes as long as the same is
done with both. Then the texts in the smaller cache are the first of those in the larger one, and if
no two programs with one text are compiled at the same time, what is found idle in the smaller cache
is idle in the larger one too. -/
namespace Prepared

namespace Cache

variable {α : Type} (v : Cache α) (key : String)

theorem hits_insert (a : α) : (v.insert key a).2.counters.hits = v.counters.hits := by
  unfold insert
  split <;> rfl

end Cache

namespace Store

open Operation

variable {σ : Type} {E : Engine σ} {c : ConnectionId} {kind : Kind} {sql : String} {a : Action}

section Counts

variable {s : Store σ} {v : Cache CompiledId}

/-- Whether an action obtains an idle cached statement of a connection. -/
def Action.reuses (s : Store σ) (c : ConnectionId) (a : Action) : Bool :=
  match a.obtains s with
  | some (d, kind, sql) => d == c && (s.idle? d kind sql).isSome
  | none => false

theorem Action.reuses_of_obtains (obtains : a.obtains s = some (c, kind, sql)) :
    a.reuses s c = (s.idle? c kind sql).isSome := by
  simp [reuses, obtains]

theorem Action.obtains_of_reuses (reuses : a.reuses s c = true) :
    ∃ kind sql h, a.obtains s = some (c, kind, sql) ∧ s.idle? c kind sql = some h := by
  unfold Action.reuses at reuses
  split at reuses
  · next d kind sql obtains =>
    rw [Bool.and_eq_true, beq_iff_eq, Option.isSome_iff_exists] at reuses
    obtain ⟨rfl, h, idle⟩ := reuses
    exact ⟨kind, sql, h, obtains, idle⟩
  · nomatch reuses

theorem Action.not_reuses (unasked : ∀ kind sql, a.obtains s ≠ some (c, kind, sql)) :
    a.reuses s c = false := by
  unfold reuses
  split
  · next d kind sql obtains =>
    have other : d ≠ c := fun same => unasked kind sql (same ▸ obtains)
    simp [other]
  · rfl

/-- Obtaining a statement keeps the capacity, and counts as a hit if there is an idle one. -/
theorem tally_obtained (s : Store σ) (c : ConnectionId) (kind : Kind) (sql : String) :
    (s.obtained c kind sql).capacity = (s.connection c).cache.capacity ∧
      (s.obtained c kind sql).counters.hits =
        (s.connection c).cache.counters.hits + (s.idle? c kind sql).isSome.toNat := by
  by_cases shared : kind.isShared = true
  · simp only [obtained, idle?, shared, if_true]
    cases stored : (s.connection c).cache.peek? sql with
    | none => exact ⟨Cache.insert_capacity .., Cache.hits_insert ..⟩
    | some h =>
      refine ⟨Cache.capacity_touch .., ?_⟩
      have counters := Cache.counters_touch (s.connection c).cache sql
      cases busy : (s.statement h).inUse <;>
        simp [Cache.count, Counters.count, counters, busy, Option.filter]
  · simp only [obtained, idle?, if_neg shared]
    exact ⟨rfl, rfl⟩

/-- Unless it is resized, a cache keeps its capacity, and a hit is counted where an idle statement
is obtained. -/
theorem Action.Turns.tally (turns : a.Turns E s c v)
    (accepts : ∀ kind sql, Accepts E s c kind sql) (resize : ∀ n, a ≠ .setCapacity c n) :
    v.capacity = (s.connection c).cache.capacity ∧
      v.counters.hits = (s.connection c).cache.counters.hits + (a.reuses s c).toNat := by
  cases turns with
  | @obtained kind sql v obtains yields =>
    rw [yields.accepted (accepts kind sql), reuses_of_obtains obtains]
    exact tally_obtained s c kind sql
  | evicted text evicts =>
    subst evicts
    unfold Cache.erase
    split <;> exact ⟨rfl, rfl⟩
  | resized n resizes => exact absurd resizes (resize n)
  | kept unasked =>
    rw [not_reuses unasked]
    exact ⟨rfl, rfl⟩

end Counts

/-- Whether the same can be done with two caches of a connection: neither gets more room by it, and
it is not about a certain statement. -/
def Action.isCommon (c : ConnectionId) : Action → Bool
  | setCapacity d _ => d != c
  | giveBack _ => false
  | _ => true

theorem Action.ne_setCapacity (common : a.isCommon c = true) (n : Nat) : a ≠ .setCapacity c n := by
  rintro rfl
  simp [isCommon] at common

theorem Action.ne_giveBack (common : a.isCommon c = true) (h : CompiledId) : a ≠ .giveBack h := by
  rintro rfl
  nomatch common

section Held

variable {o : Store Unit}

/-- No two programs of a connection that have one text are compiled at the same time. -/
def Solitary (c : ConnectionId) (s : Store σ) : Prop :=
  ∀ p q, (s.program p).connection = c → (s.program q).connection = c →
    (s.program p).sql = (s.program q).sql → (s.program p).held ≠ none →
    (s.program q).held ≠ none → p = q

instance (c : ConnectionId) (s : Store σ) : Decidable (Solitary c s) :=
  decidable_of_iff (∀ p ∈ s.programs.positions, ∀ q ∈ s.programs.positions,
      (s.program p).connection = c → (s.program q).connection = c →
      (s.program p).sql = (s.program q).sql → (s.program p).held ≠ none →
      (s.program q).held ≠ none → p = q) <| by
    have listed {p : ProgramId} (held : (s.program p).held ≠ none) : p ∈ s.programs.positions := by
      obtain ⟨h, hh⟩ := Option.ne_none_iff_exists'.1 held
      exact List.mem_range.2 (lt_of_held hh)
    exact ⟨fun all p q hp hq text held held' =>
      all p (listed held) q (listed held') hp hq text held held', fun all p _ q _ => all p q⟩

theorem solitary_shape (s : Store σ) : Solitary c s.shape ↔ Solitary c s := by
  simp only [Solitary, home_shape, sql_shape, held_shape, ne_eq, Option.map_eq_none_iff]

/-- A program of a connection with a text has come to hold a statement, and the other programs are
as before. -/
structure Supplied (c : ConnectionId) (sql : String) (p : ProgramId) (o u : Store Unit) : Prop where
  free : (o.program p).held = none
  home : (u.program p).connection = c
  text : (u.program p).sql = sql
  held : (u.program p).held ≠ none
  others : ∀ q, q ≠ p → u.program q = o.program q

theorem Supplied.equipped {p : ProgramId} (active : Active p o)
    (free : (o.program p).held = none) :
    Supplied (o.program p).connection (o.program p).sql p o (o.equipped p) := by
  have isFree : o.isFree p = true := by
    simp [Store.isFree, isUsable, active.isOpen, active.live, free]
  rw [Store.equipped, if_pos isFree]
  have own := program_withProgram_self (lt_of_not_closed active.live) (·.obtain 0)
  refine ⟨free, ?_, ?_, ?_, fun q other => program_withProgram_of_ne other _⟩ <;> rw [own]
  · rfl
  · rfl
  · exact Option.some_ne_none _

/-- An action that obtains a statement supplies a program with it. -/
theorem Action.supplies (obtains : a.obtains o = some (c, kind, sql)) :
    ∃ p, Supplied c sql p o (a.reshape o) := by
  cases a with
  | compile p | execute p =>
    obtain ⟨active, free, rfl, -, rfl⟩ := obtains_program obtains
    exact ⟨p, .equipped active free⟩
  | createCompiled d text =>
    obtain ⟨isOpen, grants, rfl, -, rfl⟩ := obtains_created obtains
    obtain ⟨u, created, own, active, -⟩ := createDeferred_active text isOpen grants
    have new := createDeferred_ok text isOpen grants
    rw [created] at new
    have same : u = (o.withConnection d fun x => { x with references := x.references + 1 }).created
      d text := congrArg Prod.snd new
    have shown : (createCompiled d text).reshape o = u.equipped o.programs.next := by
      show (o.begun d text).equipped _ = _
      rw [Store.begun, if_pos (by simp [isOpen, grants]), same]
    have before (q : ProgramId) (other : q ≠ o.programs.next) : u.program q = o.program q := by
      rw [same, program_created]
      exact if_neg other
    have missing : o.program o.programs.next = default := Table.get_of_le _ (Nat.le_refl _)
    have supplied := Supplied.equipped active (by rw [own])
    rw [own, ← shown] at supplied
    exact ⟨_, by rw [missing]; rfl, supplied.home, supplied.text, supplied.held,
      fun q other => (supplied.others q other).trans (before q other)⟩
  | _ => nomatch obtains

end Held

section Runs

variable {e : Recording} {past past' : List (Step Recording)} {s t : Store Recording}

/-- An engine that refuses nothing accepts every text. -/
theorem Run.accepts (run : Run Recording.engine e past s) (accepting : e.refused = [])
    (c : ConnectionId) (kind : Kind) (sql : String) : Accepts Recording.engine s c kind sql := by
  intro _
  have accepted : s.engine.refused.contains sql = false := by
    rw [run.refused, accepting]
    rfl
  exact ⟨_, congrArg Prod.fst (Recording.compile_accepted accepted)⟩

/-- What an action makes of the capacity and the hits of a cache that is not resized. -/
theorem Run.tally_step (run : Run Recording.engine e past s) (accepting : e.refused = [])
    (allowed : a.Allowed s) (exists_ : c < s.connections.next) (common : a.isCommon c = true) :
    ((a.perform Recording.engine s).2.connection c).cache.capacity =
        (s.connection c).cache.capacity ∧
      ((a.perform Recording.engine s).2.connection c).cache.counters.hits =
        (s.connection c).cache.counters.hits + (a.reuses s c).toNat := by
  have sound : Sound ⟨s, { connection := 0 }⟩ := run.sound ⟨rfl, rfl, rfl, rfl⟩
  obtain ⟨v, turns, remains⟩ := a.turns (E := Recording.engine) exists_ sound.registered allowed
  obtain ⟨capacity, hits⟩ := turns.tally (run.accepts accepting c) (Action.ne_setCapacity common)
  have tally := remains.tally
  constructor
  · exact (congrArg Prod.fst tally).trans capacity
  · exact (congrArg (fun x => x.2.hits) tally).trans hits

/-- A store is like another one in its shape, and its cache of a connection has at most as much room
and lists the first of the texts that the other one lists. -/
structure Within (c : ConnectionId) (s t : Store Recording) : Prop where
  exists_ : c < s.connections.next
  shape : s.shape = t.shape
  capacity : (s.connection c).cache.capacity ≤ (t.connection c).cache.capacity
  keys : (s.connection c).cache.keys <+: (t.connection c).cache.keys

/-- Whether an action adds to the hits that the cache of a connection has counted. -/
def Action.IsHit (c : ConnectionId) (s : Store Recording) (a : Action) : Prop :=
  ((a.perform Recording.engine s).2.connection c).cache.counters.hits =
    (s.connection c).cache.counters.hits + 1

instance (c : ConnectionId) (s : Store Recording) (a : Action) : Decidable (a.IsHit c s) :=
  inferInstanceAs (Decidable (_ = _))

namespace Within

/-- Of two new connections the one with less room is within the other. -/
theorem opened (s : Store Recording) (i : EngineId) {x y : Settings} (valid : y.IsValid)
    (le : x.capacity ≤ y.capacity) : Within s.connections.next
      ((Action.openConnection i x).perform Recording.engine s).2
      ((Action.openConnection i y).perform Recording.engine s).2 := by
  have opens {z : Settings} (hz : z.IsValid) :
      ((Action.openConnection i z).perform Recording.engine s).2 =
        ((addConnection i z : Op Recording SettingsError ConnectionId).run s).2 := by
    show ((openConnection i z).run s).2 = _
    rw [openConnection, Settings.validate, if_pos hz]
  have cache (z : Settings) :
      ((((addConnection i z : Op Recording SettingsError ConnectionId).run s).2).connection
        s.connections.next).cache = { capacity := z.capacity.toNat } :=
    congrArg Connection.cache ((connection_pushed s _ _).trans (if_pos rfl))
  rw [opens (Nat.le_trans le valid), opens valid]
  constructor
  case exists_ =>
    show s.connections.next < (s.connections.push _).next
    rw [Table.next_push]
    exact Nat.lt_succ_self _
  case shape => rw [Shapes.addConnection, Shapes.addConnection]
  case capacity =>
    rw [cache, cache]
    exact le
  case keys =>
    rw [cache, cache]
    exact List.nil_prefix

variable (within : Within c s t)

include within

theorem obtains (a : Action) : a.obtains t = a.obtains s := by
  rw [← a.obtains_shape t, ← within.shape, a.obtains_shape]

theorem acquires (a : Action) : a.acquires t c = a.acquires s c := by
  unfold Action.acquires
  rw [within.obtains]

theorem allowed (common : a.isCommon c = true) (allowed : a.Allowed s) : a.Allowed t := by
  have kept := Action.ne_giveBack common
  rw [← Action.allowed_shape t kept, ← within.shape, Action.allowed_shape s kept]
  exact allowed

theorem exists_' : c < t.connections.next := by
  rw [← (next_shape t).1, ← within.shape, (next_shape s).1]
  exact within.exists_

variable (run : Run Recording.engine e past s) (run' : Run Recording.engine e past' t)
  (accepting : e.refused = []) (allowed : a.Allowed s)

include run run' accepting allowed

/-- What is obtained idle in the smaller cache is idle in the larger one: a program that held it
would be compiled together with the one for which it is obtained. -/
theorem reuses_step (solitary : Solitary c (a.perform Recording.engine s).2)
    (reuses : a.reuses s c = true) : a.reuses t c = true := by
  obtain ⟨kind, sql, h, obtains, idle⟩ := Action.obtains_of_reuses reuses
  obtain ⟨isShared, stored, -⟩ := peek?_of_idle idle
  have sound : Sound ⟨t, { connection := 0 }⟩ := run'.sound ⟨rfl, rfl, rfl, rfl⟩
  have listed : sql ∈ (t.connection c).cache.keys :=
    within.keys.subset (List.mem_map.2 ⟨_, Cache.mem_of_peek? stored, rfl⟩)
  obtain ⟨⟨_, k⟩, entry, rfl⟩ := List.mem_map.1 listed
  have obtains' := (within.obtains a).trans obtains
  have stored' := Cache.peek?_of_mem (sound.keyed c) entry
  cases busy : (t.statement k).inUse with
  | false =>
    rw [Action.reuses_of_obtains obtains', idle?, if_pos isShared, stored']
    simp [Option.filter, busy]
  | true =>
    exfalso
    obtain ⟨q, held⟩ : ∃ q, (t.program q).held = some k :=
      ((sound.tokened k (.inl ⟨c, _, entry, rfl⟩)).1 busy).resolve_left
        (Option.some_ne_none k).symm
    obtain ⟨belongs, text⟩ := sound.homes.entry c _ entry
    have home : (t.program q).connection = c :=
      (sound.homes.held q k held).home.symm.trans belongs.home
    have own := (run'.holds_text held).symm.trans text
    -- after the action two programs with the text hold statements
    rw [← Action.obtains_shape] at obtains'
    obtain ⟨p, supplied⟩ := Action.supplies obtains'
    rw [← within.shape, ← run.reshape accepting allowed, within.shape] at supplied
    have holds : (t.shape.program q).held ≠ none := by simp [held_shape, held]
    have other : q ≠ p := by
      rintro rfl
      exact holds supplied.free
    have same := supplied.others q other
    refine other ((solitary_shape _).2 solitary q p ?_ supplied.home ?_ ?_ supplied.held)
    · rw [same, home_shape, home]
    · rw [same, sql_shape, own, supplied.text]
    · rw [same]
      exact holds

variable (common : a.isCommon c = true)

include common

/-- What is done with both stores keeps the texts in the smaller cache the first ones. -/
theorem keys_step : ((a.perform Recording.engine s).2.connection c).cache.keys <+:
    ((a.perform Recording.engine t).2.connection c).cache.keys := by
  have allowed' := within.allowed common allowed
  have shape : (a.perform Recording.engine s).2.shape = (a.perform Recording.engine t).2.shape := by
    rw [run.reshape accepting allowed, run'.reshape accepting allowed', within.shape]
  by_cases gone : Gone (a.perform Recording.engine s).2 c
  · rw [(run.step a allowed).keys_of_gone gone]
    exact List.nil_prefix
  have gone' : ¬ Gone (a.perform Recording.engine t).2 c := by
    rwa [← gone_shape, ← shape, gone_shape]
  have fits := (run.orderly c).fits
  have fits' := (run'.orderly c).fits
  cases acquires : a.acquires s c with
  | some sql =>
    obtain ⟨front, -⟩ := (Action.asked fits acquires fun kind _ =>
      run.accepts accepting c kind sql).resolve_right gone
    obtain ⟨front', -⟩ := (Action.asked fits' ((within.acquires a).trans acquires) fun kind _ =>
      run'.accepts accepting c kind sql).resolve_right gone'
    rw [front, front']
    exact promote_prefix within.capacity within.keys
  | none =>
    by_cases evicts : ∃ text, a = .evict c text
    · obtain ⟨text, rfl⟩ := evicts
      rw [Action.evicted within.exists_, Action.evicted within.exists_']
      exact within.keys.filter _
    · have unevicted (text : String) : a ≠ .evict c text := fun same => evicts ⟨text, same⟩
      have sound : Sound ⟨s, { connection := 0 }⟩ := run.sound ⟨rfl, rfl, rfl, rfl⟩
      have sound' : Sound ⟨t, { connection := 0 }⟩ := run'.sound ⟨rfl, rfl, rfl, rfl⟩
      obtain ⟨same, -⟩ := (Action.unasked (E := Recording.engine) fits within.exists_
        sound.registered allowed acquires unevicted).resolve_right gone
      obtain ⟨same', -⟩ := (Action.unasked (E := Recording.engine) fits' within.exists_'
        sound'.registered allowed' ((within.acquires a).trans acquires)
        unevicted).resolve_right gone'
      rw [same, same']
      exact within.keys

/-- What is done with both stores leaves the one within the other. -/
theorem step : Within c (a.perform Recording.engine s).2 (a.perform Recording.engine t).2 where
  exists_ := Nat.lt_of_lt_of_le within.exists_ (run.step_extends allowed).connections
  shape := by
    rw [run.reshape accepting allowed, run'.reshape accepting (within.allowed common allowed),
      within.shape]
  capacity := by
    rw [(run.tally_step accepting allowed within.exists_ common).1,
      (run'.tally_step accepting (within.allowed common allowed) within.exists_' common).1]
    exact within.capacity
  keys := within.keys_step run run' accepting allowed common

/-- A hit in the smaller cache is one in the larger one. -/
theorem hits_step (solitary : Solitary c (a.perform Recording.engine s).2) :
    (a.IsHit c s → a.IsHit c t) ∧ ((s.connection c).cache.counters.hits ≤
        (t.connection c).cache.counters.hits →
      ((a.perform Recording.engine s).2.connection c).cache.counters.hits ≤
        ((a.perform Recording.engine t).2.connection c).cache.counters.hits) := by
  have hits := (run.tally_step accepting allowed within.exists_ common).2
  have hits' := (run'.tally_step accepting (within.allowed common allowed) within.exists_' common).2
  have reuses := within.reuses_step run run' accepting allowed solitary
  unfold Action.IsHit
  rw [hits, hits']
  cases here : a.reuses s c with
  | true =>
    rw [reuses here]
    exact ⟨fun _ => rfl, fun le => Nat.succ_le_succ le⟩
  | false => exact ⟨fun hit => by simp at hit, fun le => Nat.le_add_right_of_le le⟩

omit within run run' allowed common

/-- Whatever is done with both stores leaves the one within the other. -/
theorem performAll {as : List Action} (within : Within c s t) (run : Run Recording.engine e past s)
    (run' : Run Recording.engine e past' t) (common : ∀ a ∈ as, a.isCommon c = true)
    (allowed : AllAllowed Recording.engine as s) : AllAllowed Recording.engine as t ∧
      Within c (performAll Recording.engine as s) (performAll Recording.engine as t) := by
  induction as generalizing s t past past' with
  | nil => exact ⟨trivial, within⟩
  | cons a as ih =>
    have first := common a (.head _)
    have allowed' := within.allowed first allowed.1
    obtain ⟨rest, after⟩ := ih (within.step run run' accepting allowed.1 first)
      (run.step a allowed.1) (run'.step a allowed') (fun b hb => common b (.tail _ hb)) allowed.2
    exact ⟨⟨allowed', rest⟩, after⟩

/-- Where no two programs with one text are compiled at the same time, the larger cache counts as
many hits. -/
theorem hits_le {as : List Action} (within : Within c s t) (run : Run Recording.engine e past s)
    (run' : Run Recording.engine e past' t) (common : ∀ a ∈ as, a.isCommon c = true)
    (allowed : AllAllowed Recording.engine as s)
    (solitary : ∀ bs, bs <+: as → Solitary c (Store.performAll Recording.engine bs s))
    (le : (s.connection c).cache.counters.hits ≤ (t.connection c).cache.counters.hits) :
    ((Store.performAll Recording.engine as s).connection c).cache.counters.hits ≤
      ((Store.performAll Recording.engine as t).connection c).cache.counters.hits := by
  induction as generalizing s t past past' with
  | nil => exact le
  | cons a as ih =>
    have first := common a (.head _)
    have allowed' := within.allowed first allowed.1
    have next := (within.hits_step run run' accepting allowed.1 first
      (solitary [a] ((List.prefix_cons_inj a).2 List.nil_prefix))).2 le
    exact ih (within.step run run' accepting allowed.1 first) (run.step a allowed.1)
      (run'.step a allowed') (fun b hb => common b (.tail _ hb)) allowed.2
      (fun bs front => solitary (a :: bs) ((List.prefix_cons_inj a).2 front)) next

end Within

/-- The store after a connection was opened with settings and actions were performed. -/
def served (i : EngineId) (x : Settings) (as : List Action) (s : Store Recording) :
    Store Recording :=
  performAll Recording.engine (.openConnection i x :: as) s

/-- A larger cache never does worse. When the same is done with two connections, of which one was
opened with less room than the other, over an engine that refuses nothing, then all of it is allowed
with both if it is with the one, and at any time the texts in the smaller cache are the first of
those in the larger one. If besides no two programs with one text are ever compiled at the same
time, then every hit in the smaller cache is one in the larger cache, so that at any time this has
counted as many hits. The same can be done with both if no capacity is changed and no statement is
given back that was looked up, since that is another one. -/
theorem larger_cache_never_worse (run : Run Recording.engine e past s) (accepting : e.refused = [])
    {i : EngineId} {x y : Settings} (valid : y.IsValid) (le : x.capacity ≤ y.capacity)
    {as : List Action} (common : ∀ a ∈ as, a.isCommon s.connections.next = true)
    (allowed : AllAllowed Recording.engine (.openConnection i x :: as) s) :
    AllAllowed Recording.engine (.openConnection i y :: as) s ∧
    (∀ bs, bs <+: as →
      ((served i x bs s).connection s.connections.next).cache.keys <+:
        ((served i y bs s).connection s.connections.next).cache.keys) ∧
    ((∀ bs, bs <+: as → Solitary s.connections.next (served i x bs s)) →
      (∀ bs a, bs ++ [a] <+: as → a.IsHit s.connections.next (served i x bs s) →
        a.IsHit s.connections.next (served i y bs s)) ∧
      ∀ bs, bs <+: as →
        ((served i x bs s).connection s.connections.next).cache.counters.hits ≤
          ((served i y bs s).connection s.connections.next).cache.counters.hits) := by
  have small := run.step (.openConnection i x) trivial
  have large := run.step (.openConnection i y) trivial
  have within := Within.opened s i valid le
  have front {bs : List Action} (hb : bs <+: as) :
      (∀ a ∈ bs, a.isCommon s.connections.next = true) ∧
        AllAllowed Recording.engine bs
          ((Action.openConnection i x).perform Recording.engine s).2 := by
    obtain ⟨cs, rfl⟩ := hb
    exact ⟨fun a ha => common a (List.mem_append_left _ ha), allowed.2.append.1⟩
  have after {bs : List Action} (hb : bs <+: as) :=
    within.performAll accepting small large (front hb).1 (front hb).2
  refine ⟨⟨trivial, (after (List.prefix_refl as)).1⟩, fun bs hb => (after hb).2.keys,
    fun solitary => ⟨fun bs a hb => ?_, fun bs hb => ?_⟩⟩
  · have hb' : bs <+: as := (List.prefix_append bs [a]).trans hb
    obtain ⟨all, within'⟩ := after hb'
    have last : a.Allowed (served i x bs s) := (front hb).2.append.2.1
    have only := solitary _ hb
    unfold served at only
    rw [← List.cons_append, performAll_append] at only
    exact (within'.hits_step (small.extend bs (front hb').2) (large.extend bs all) accepting last
      ((front hb).1 a (by simp)) only).1
  · have sound : Sound ⟨s, { connection := 0 }⟩ := run.sound ⟨rfl, rfl, rfl, rfl⟩
    have unused (z : Settings) := Action.unused (E := Recording.engine) sound
      (a := .openConnection i z) trivial (Nat.le_refl s.connections.next)
    refine within.hits_le accepting small large (front hb).1 (front hb).2
      (fun cs hc => solitary cs (hc.trans hb)) ?_
    rw [(unused x).counters, (unused y).counters]

/-- There is room for one text and for two. The third program finds its statement in the larger
cache only, the fourth one in both. -/
theorem larger_cache_never_worse_hit :
    let as : List Action := [.createCompiled 0 "INSERT", .closeProgram 0,
      .createCompiled 0 "DELETE", .closeProgram 1, .createDeferred 0 " INSERT ", .execute 2,
      .closeProgram 2, .createCompiled 0 "INSERT", .evict 0 "DELETE", .closeConnection 0 [3]]
    let small (bs : List Action) := (served 0 { capacity := 1 } bs { engine := {} }).connection 0
    let large (bs : List Action) := (served 0 { capacity := 2 } bs { engine := {} }).connection 0
    (∀ bs, bs <+: as → (small bs).cache.keys <+: (large bs).cache.keys) ∧
      (∀ bs, bs <+: as →
        (small bs).cache.counters.hits ≤ (large bs).cache.counters.hits) ∧
      (small as).cache.counters.hits = 1 ∧ (large as).cache.counters.hits = 2 := by
  intro as small large
  obtain ⟨-, keys, counted⟩ := larger_cache_never_worse (.start (e := {})) rfl
    (i := 0) (x := { capacity := 1 }) (y := { capacity := 2 }) (by decide) (by decide)
    (by decide : ∀ a ∈ as, a.isCommon 0 = true) (by decide +kernel)
  have solitary : ∀ bs ∈ as.inits, Solitary 0 (served 0 { capacity := 1 } bs { engine := {} }) := by
    decide +kernel
  obtain ⟨-, le⟩ := counted fun bs hb => solitary bs ((List.mem_inits ..).2 hb)
  exact ⟨keys, le, by decide +kernel, by decide +kernel⟩

end Runs

end Store

end Prepared
