import Prepared.Proofs.Blind
import Prepared.Proofs.Waiting

/-! Ways to a program with values bound.

A program can be compiled when it is created, and values are then bound in its statement. Or
the values wait, and are bound once there is a statement. Given a statement that takes them
all, both ways come to the same store. -/
namespace Prepared

/-- The program once it has obtained a statement. -/
def Program.obtain (x : Program) (h : CompiledId) : Program :=
  { x with held := some h, pending := [] }

namespace Store

open Operation

section Ways

variable {σ : Type} {E : Engine σ} {s u v w : Store σ} {c : ConnectionId} {sql : String}
  {p : ProgramId} {h : CompiledId} {bs : List Binding}

/-- Binds the values of a list in their order, until one is refused. -/
def bindAll (E : Engine σ) (p : ProgramId) (bs : List Binding) : Op σ ProgramError Unit :=
  untilError (fun b => bindValue E p b.position b.value) bs

/-- Creates a program that is compiled when it is first needed, and binds values. -/
def bindDeferred (E : Engine σ) (c : ConnectionId) (sql : String) (bs : List Binding) :
    Op σ ProgramError ProgramId := do
  let p ← createDeferred c sql
  bindAll E p bs
  return p

/-- Creates a program that is compiled at once, and binds values. -/
def bindCompiled (E : Engine σ) (c : ConnectionId) (sql : String) (bs : List Binding) :
    Op σ ProgramError ProgramId := do
  let p ← createCompiled E c sql
  bindAll E p bs
  return p

/-- An open program of an open connection. -/
structure Active (p : ProgramId) (s : Store σ) : Prop where
  live : (s.program p).isClosed = false
  isOpen : (s.connection (s.program p).connection).isOpen = true

namespace Active

theorem of_bare (hp : Active p s) (same : u.bare = s.bare) : Active p u := by
  have program : u.program p = s.program p := program_of_bare same p
  constructor
  · rw [program]
    exact hp.live
  · rw [program, isOpen_of_bare same]
    exact hp.isOpen

theorem of_steady (hp : Active p s) (same : u.steady = s.steady) : Active p u := by
  have connection : (u.program p).connection = (s.program p).connection :=
    congrArg (fun v => (v.2 p).1) same
  constructor
  · rw [← hp.live]
    exact congrArg (fun v => (v.2 p).2.2) same
  · rw [connection, ← hp.isOpen]
    exact congrArg (fun v => (v.1 (s.program p).connection).isOpen) same

theorem withProgram (hp : Active p s) {f : Program → Program}
    (hf : ∀ x, (f x).isClosed = x.isClosed ∧ (f x).connection = x.connection) :
    Active p (s.withProgram p f) := by
  constructor
  · rw [program_part s p p (fun x => x.isClosed) fun x => (hf x).1]
    exact hp.live
  · rw [program_part s p p (fun x => x.connection) fun x => (hf x).2]
    exact hp.isOpen

theorem verified (hp : Active p s) :
    (verifyUsable p : Op σ ProgramError Unit).run s = (.ok (), s) := by
  simp [verifyUsable, verifyOpen, verifyLive, hp.live, hp.isOpen]

/-- Without a statement all values wait. -/
theorem bindAll_free (hp : Active p s) (free : (s.program p).held = none)
    (positions : ∀ b ∈ bs, b.position ≠ 0) :
    (bindAll E p bs).run s =
      (.ok (), s.withProgram p fun x => { x with pending := x.pending ++ bs }) := by
  induction bs generalizing s with
  | nil =>
    have same : (fun x : Program => { x with pending := x.pending ++ [] }) = fun x => x := by
      funext x
      rw [List.append_nil]
    rw [same, Store.withProgram, Table.modify_id]
    rfl
  | cons b bs ih =>
    let t := s.withProgram p fun x => { x with pending := x.pending ++ [b] }
    have free' : (t.program p).held = none := by
      rw [← free]
      exact program_part s p p (fun x => x.held) fun _ => rfl
    have rest := ih (s := t) (hp.withProgram fun _ => ⟨rfl, rfl⟩) free'
      fun b hb => positions b (List.mem_cons_of_mem _ hb)
    have first : (bindValue E p b.position b.value).run s = (.ok (), t) :=
      bindValue_free hp.verified free (positions b (List.mem_cons_self ..))
    unfold bindAll at rest ⊢
    rw [untilError, run_bind, first]
    refine rest.trans ?_
    simp only [t, withProgram_withProgram, List.append_assoc, List.singleton_append]

/-- With a statement binding is replaying. -/
theorem bindAll_held (hp : Active p s) (held : (s.program p).held = some h)
    (positions : ∀ b ∈ bs, b.position ≠ 0) :
    (bindAll E p bs).run s = (mapError .engine (replay E h bs)).run s := by
  induction bs generalizing s with
  | nil => rfl
  | cons b bs ih =>
    have kept : ((applyBinding E h b).run s).2.bare = s.bare := rfl
    have first : (bindValue E p b.position b.value).run s =
        (mapError .engine (applyBinding E h b)).run s :=
      bindValue_held hp.verified held (positions b (List.mem_cons_self ..))
    unfold bindAll replay at ih ⊢
    rw [untilError, untilError, run_bind, first]
    simp only [mapError, run_bind]
    rcases applied : (applyBinding E h b).run s with ⟨e | _, t⟩
    · rfl
    · rw [applied] at kept
      have program : t.program p = s.program p := program_of_bare kept p
      exact ih (hp.of_bare kept) (program ▸ held)
        fun b hb => positions b (List.mem_cons_of_mem _ hb)

end Active

/-- An open connection that gives a reference creates a program, and nothing else of account. -/
theorem createDeferred_active (sql : String) (isOpen : (s.connection c).isOpen = true)
    (grants : (s.connection c).Grants) :
    ∃ u, (createDeferred c sql).run s = (.ok s.programs.next, u) ∧
      u.program s.programs.next =
        { connection := c, sql := Text.trim sql, kind := Kind.classify (Text.trim sql) } ∧
      Active s.programs.next u ∧ u.engine = s.engine ∧
      ∀ kind text, u.idle? c kind text = s.idle? c kind text := by
  let t := s.withConnection c fun x => { x with references := x.references + 1 }
  have own := (program_created t c sql s.programs.next).trans (if_pos rfl)
  refine ⟨_, createDeferred_ok sql isOpen grants, own, ⟨by rw [own], ?_⟩, rfl, ?_⟩
  · rw [own]
    have added := connection_part t c c
      (f := fun x => { x with programs := x.programs ++ [s.programs.next] })
      (fun x => x.isOpen) fun _ => rfl
    have taken := connection_part s c c (f := fun x => { x with references := x.references + 1 })
      (fun x => x.isOpen) fun _ => rfl
    exact added.trans (taken.trans isOpen)
  · intro kind text
    have cache : ((t.created c sql).connection c).cache = (s.connection c).cache :=
      (cache_created t c c sql).trans (connection_part s c c (fun x => x.cache) fun _ => rfl)
    unfold idle?
    rw [cache]
    rfl

theorem bare_acquired (acquired : acquireFor E p u = (.ok h, v)) : v.bare = u.bare := by
  have kept : (acquireFor E p u).2.bare = u.bare := keeps_acquire u
  rw [acquired] at kept
  exact kept

/-- An acquisition does not see what waits in its program. -/
theorem acquireFor_withProgram (acquired : acquireFor E p u = (.ok h, v)) {f : Program → Program}
    (hf : ∀ x, (f x).connection = x.connection ∧ (f x).kind = x.kind ∧ (f x).sql = x.sql) :
    acquireFor E p (u.withProgram p f) = (.ok h, v.withProgram p f) := by
  have moved : (acquire E (u.program p).connection (u.program p).kind (u.program p).sql).run
      (u.withProgram p f) = ((acquireFor E p u).1, (acquireFor E p u).2.withProgram p f) :=
    Blind.acquire.withProgram keeps_acquire u p f
  rw [acquired] at moved
  unfold acquireFor
  rw [program_part u p p (fun x => x.connection) fun x => (hf x).1,
    program_part u p p (fun x => x.kind) fun x => (hf x).2.1,
    program_part u p p (fun x => x.sql) fun x => (hf x).2.2]
  exact moved

theorem replay_withProgram (replayed : (replay E h bs).run v = (.ok (), w))
    (f : Program → Program) :
    (replay E h bs).run (v.withProgram p f) = (.ok (), w.withProgram p f) := by
  have moved := (Blind.replay (E := E) (h := h) bs).withProgram replay_keeps v p f
  rw [replayed] at moved
  exact moved

section Agree

variable (created : (createDeferred c sql).run s = (.ok p, u)) (active : Active p u)
  (free : (u.program p).held = none) (empty : (u.program p).pending = [])
  (acquired : acquireFor E p u = (.ok h, v)) (replayed : (replay E h bs).run v = (.ok (), w))
  (positions : ∀ b ∈ bs, b.position ≠ 0)

include created active free empty acquired replayed positions

/-- The values are bound in the statement that was compiled at once. -/
theorem bindCompiled_obtained :
    (bindCompiled E c sql bs).run s = (.ok p, w.withProgram p (·.obtain h)) := by
  let v' := v.withProgram p (·.obtain h)
  have nothing : (replay E h (u.program p).pending).run v = (.ok (), v) := by
    rw [empty]
    rfl
  have compiled := compileProgram_usable active.verified
    (ensureCompiled_obtained free acquired nothing)
  have made : (createCompiled E c sql).run s = (.ok p, v') := createCompiled_ok created compiled
  have bare := bare_acquired acquired
  have program : v.program p = u.program p := program_of_bare bare p
  have held : (v'.program p).held = some h := by
    rw [program_withProgram_self (lt_of_not_closed (program ▸ active.live))]
    rfl
  have bound : (bindAll E p bs).run v' = (.ok (), w.withProgram p (·.obtain h)) := by
    have active' : Active p v' := (active.of_bare bare).withProgram fun _ => ⟨rfl, rfl⟩
    have moved : (replay E h bs).run v' = (.ok (), w.withProgram p (·.obtain h)) :=
      replay_withProgram replayed _
    simp only [active'.bindAll_held held positions, mapError, moved]
    rfl
  simp only [bindCompiled, run_bind, made, bound]
  rfl

/-- The values wait, and are bound in the statement that is compiled later. -/
theorem bindDeferred_obtained :
    ∃ t, (bindDeferred E c sql bs).run s = (.ok p, t) ∧ Active p t ∧
      (ensureCompiled E p).run t = (.ok h, w.withProgram p (·.obtain h)) := by
  let wait (x : Program) : Program := { x with pending := x.pending ++ bs }
  let t := u.withProgram p wait
  have own : t.program p = { u.program p with pending := bs } := by
    rw [program_withProgram_self (lt_of_not_closed active.live)]
    simp only [wait, empty, List.nil_append]
  refine ⟨t, ?_, active.withProgram fun _ => ⟨rfl, rfl⟩, ?_⟩
  · simp only [bindDeferred, run_bind, created, active.bindAll_free free positions]
    rfl
  · have free' : (t.program p).held = none := by
      rw [own]
      exact free
    have acquired' : acquireFor E p t = (.ok h, v.withProgram p wait) :=
      acquireFor_withProgram acquired fun _ => ⟨rfl, rfl, rfl⟩
    have replayed' : (replay E h (t.program p).pending).run (v.withProgram p wait) =
        (.ok (), w.withProgram p wait) := by
      rw [own]
      exact replay_withProgram replayed wait
    rw [ensureCompiled_obtained free' acquired' replayed', withProgram_withProgram]
    rfl

end Agree

end Ways

/-! What every run provides for. -/

section Runs

variable {σ : Type} {E : Engine σ} {e : σ} {s : Store σ} {past : List (Step σ)} {p : ProgramId}

/-- Open connections have references. -/
def Funded (s : Store σ) : Prop :=
  ∀ c, (s.connection c).isOpen = true → (s.connection c).references ≠ 0

namespace Funded

theorem withConnection (hs : Funded s) {c : ConnectionId} {f : Connection → Connection}
    (hf : ∀ x, (x.isOpen = true → x.references ≠ 0) → (f x).isOpen = true → (f x).references ≠ 0) :
    Funded (s.withConnection c f) := by
  intro d
  rw [connection_withConnection]
  split
  · exact hf _ (hs d)
  · exact hs d

theorem step {a b : Moment σ} (hs : Funded a.store) (hm : Move E a b) : Funded b.store := by
  cases hm with
  | take | release => exact hs.withConnection fun _ _ _ => Nat.succ_ne_zero _
  | retire | shut => exact hs.withConnection fun _ _ => nofun
  | reorder | store | clear | deregister | dropClone | clone =>
    exact hs.withConnection fun _ hx => hx
  | @create s g k sql =>
    exact hs.withConnection (c := g.connection)
      (f := fun x => { x with programs := x.programs ++ [s.programs.next] }) fun _ hx => hx
  | @connect s g i settings =>
    intro c
    rw [connection_pushed]
    split
    · exact fun _ => Nat.one_ne_zero
    · exact hs c
  | _ => exact hs

end Funded

theorem Run.funded (run : Run E e past s) : Funded s :=
  (run.keeps (I := fun m => Sound m ∧ Funded m.store) (fun _ h => h.1.registered)
    (fun _ idle => ⟨.empty e idle, fun _ => nofun⟩)
    (fun _ _ _ idle idle' h => ⟨h.1.regrip idle idle', h.2⟩)
    (fun _ _ hm h => ⟨h.1.step hm, h.2.step hm⟩) { connection := 0 } ⟨rfl, rfl, rfl, rfl⟩).2

theorem Run.not_dropped (run : Run E e past s) (live : (s.program p).isClosed = false) :
    (s.program p).isDropped = false := by
  have sound : Sound ⟨s, { connection := 0 }⟩ := run.sound ⟨rfl, rfl, rfl, rfl⟩
  rw [← Bool.not_eq_true]
  intro dropped
  exact absurd (live.symm.trans (sound.custody.dropped p dropped)) (by decide)

/-- An attempt to compile a program in use is a step of a run. -/
theorem Run.compiled (run : Run E e past s) (active : Active p s) {r : Except ProgramError Unit}
    {t : Store σ} (compiled : (compileProgram E p).run s = (r, t)) :
    Run E e (⟨s, .compile p, r.isOk, t⟩ :: past) t :=
  run.step_to (run.not_dropped active.live) (outcome_of_run compiled)

/-- So is the creation of a program that is compiled later. -/
theorem Run.created (run : Run E e past s) (allowed : 0 < (s.connection c).clones)
    {r : Except ProgramError ProgramId} {t : Store σ}
    (created : (createDeferred c sql).run s = (r, t)) :
    Run E e (⟨s, .createDeferred c sql, r.isOk, t⟩ :: past) t :=
  run.step_to allowed (outcome_of_run created)

/-- A program in use is given a statement by moves that begin with nothing at hand. -/
theorem Run.acquired_moves (run : Run E e past s) (active : Active p s) {h : CompiledId}
    {t : Store σ} (acquired : acquireFor E p s = (.ok h, t)) :
    At E ⟨s, { connection := (s.program p).connection, actor := some p }⟩
      { connection := (s.program p).connection, actor := some p, hand := some h } t := by
  let g : Grip := { connection := (s.program p).connection, actor := some p }
  have referenced : s.isReferenced g.connection = true :=
    (owned_of_not_dropped (run.not_dropped active.live)).referenced
  have moves := acquire_moves (E := E) (m := ⟨s, g⟩) (g := g) rfl rfl (s.program p).kind
    (s.program p).sql s ⟨.start, active.isOpen, referenced⟩
  have run : (acquire E g.connection (s.program p).kind (s.program p).sql).run s = (.ok h, t) :=
    acquired
  rw [run] at moves
  exact moves

theorem Run.acquired_live (run : Run E e past s) (active : Active p s) {h : CompiledId}
    {t : Store σ} (acquired : acquireFor E p s = (.ok h, t)) :
    (t.statement h).destroyed = false := by
  have sound : Sound ⟨t, _⟩ := At.invariant (fun _ _ hm hs => hs.step hm)
    (run.acquired_moves active acquired) (run.sound ⟨rfl, rfl, rfl, rfl⟩)
  -- the statement is at hand, and its connection is open
  have home : (t.statement h).connection = (s.program p).connection :=
    (sound.homes.hand h rfl).home
  refine sound.live h (.inl rfl) ?_
  show (t.connection (t.statement h).connection).isOpen = true
  rw [home, isOpen_of_bare (bare_acquired acquired)]
  exact active.isOpen

/-- Nothing is bound at position zero. -/
theorem Run.positions (run : Run E e past s) : ∀ b ∈ bound p past, b.position ≠ 0 := by
  induction run with
  | start =>
    intro b hb
    cases hb
  | @step past s a run allowed ih =>
    have bindings (succeeded : (a.perform E s).1 = true) :
        ∀ b ∈ a.bindings p (bound p past), b.position ≠ 0 := by
      have binds {q : ProgramId} {position : UInt32} {value : Value}
          (succeeded : ((bindValue E q position value).run s).1.isOk = true) :
          ∀ b ∈ if q = p then bound p past ++ [⟨position, value⟩] else bound p past,
            b.position ≠ 0 := by
        have positive : position ≠ 0 := by
          intro zero
          simp [bindValue, zero, Except.isOk, Except.toBool] at succeeded
        intro b hb
        split at hb
        · rcases List.mem_append.1 hb with old | new
          · exact ih b old
          · rw [List.mem_singleton.1 new]
            exact positive
        · exact ih b hb
      cases a with
      | bindValue q position value => exact binds succeeded
      | bindPresent q position value =>
        cases value with
        | none => exact ih
        | some v => exact binds succeeded
      | clearBindings q =>
        intro b hb
        change b ∈ if q = p then [] else bound p past at hb
        split at hb
        · cases hb
        · exact ih b hb
      | _ => exact ih
    show ∀ b ∈ (if (a.perform E s).1 = true then a.bindings p (bound p past) else bound p past), _
    split
    · next succeeded => exact bindings succeeded
    · exact ih

end Runs

end Store

end Prepared
