import Prepared.Proofs.Reuse

/-! The frame of an operation.

An operation on a program works for this one only. The other programs are as they were, and so are
the tokens and marks of the statements they hold; whatever an engine is asked is about a statement
that the program had, has or lets go, unless it is to destroy one that nobody holds. A program that
holds a statement outside the cache makes no difference to the cache either. -/
namespace Prepared.Store

open Operation

variable {σ ε : Type} {E : Engine σ} {c d : ConnectionId} {h k : CompiledId} {p q : ProgramId}
  {a : Action}

/-- The program that an action is an operation on. -/
def Action.program? : Action → Option ProgramId
  | bindValue p .. | bindPresent p .. | clearBindings p | compile p | execute p | closeProgram p
  | dropProgram p => some p
  | _ => none

theorem Action.actor_of_program? (s : Store σ) (own : a.program? = some p) :
    a.actor s = some p := by
  cases a <;> first | exact own | nomatch own

/-- An operation on a program gives back no reference from outside. -/
theorem Action.covered_of_program? (own : a.program? = some p) (outside : ConnectionId → Nat) :
    a.Covered outside := by
  cases a with
  | releaseReference => nomatch own
  | _ => trivial

section Others

/-! What is done to one program leaves another one alone. -/

instance : Aloof fun s : Store σ => s.program q where
  rest _ _ _ _ := rfl
  cache _ _ _ := rfl

variable (other : q ≠ p)

include other

theorem keeps_other {f : Program → Program} :
    Keeps (fun s => s.program q) (change (·.withProgram p f) : Op σ ε Unit) :=
  fun _ => program_withProgram_of_ne other f

theorem ensureCompiled_keeps_other : Keeps (fun s => s.program q) (ensureCompiled E p) := by
  refine .bind (.read _) fun x => ?_
  cases x.held with
  | some h => exact .pure h
  | none =>
    refine .bind keeps_acquire fun h => .bind (.attempt replay_keeps) fun r => ?_
    cases r with
    | ok _ => exact .bind (keeps_other other) fun _ => .pure h
    | error e => exact .bind abandon_keeps fun _ => .throw e

theorem tearDown_keeps_other {unlist : Bool} :
    Keeps (fun s => s.program q) (tearDown E unlist p) := by
  have relinquished : Keeps (fun s => s.program q) (relinquishHeld E p) := by
    refine .bind (.read _) fun x => ?_
    cases x.held with
    | none => exact .pure _
    | some h => exact .bind (keeps_other other) fun _ => keeps_relinquish
  have released (c : ConnectionId) : Keeps (fun s => s.program q) (releaseReference E c) :=
    fun s => congrArg (fun t => t.get q) (releaseReference_keeps_programs s)
  exact .bind (keeps_other other) fun _ => .bind (.read _) fun x => .ite (.pure _)
    (.bind (keeps_other other) fun _ => .both relinquished
      (leave_keeps (fun _ _ => rfl) (released _) unlist))

theorem dropProgram_keeps_other :
    Keeps (fun s => s.program q) (dropProgram E p : Op σ ε Unit) := by
  have gone (c : ConnectionId) : Keeps (fun s => s.program q) (do
      change (·.withProgram p fun x => { x with isDropped := true })
      dropConnectionIfUnreferenced E c : Op σ ε Unit) :=
    .bind (keeps_other other) fun _ => keeps_dropConnectionIfUnreferenced
  refine .bind (.read _) fun x => .bind (.attempt (tearDown_keeps_other other)) fun r => ?_
  cases r with
  | ok _ => exact gone _
  | error e => exact .bind keeps_report fun _ => gone _

theorem bindValue_keeps_other (position : UInt32) (value : Value) :
    Keeps (fun s => s.program q) (bindValue E p position value) := by
  refine .ite (.throw _) (.bind verifyUsable_keeps fun _ => .bind (.read _) fun x => ?_)
  cases x.held with
  | none => exact keeps_other other
  | some h => exact .mapError (.bind (.read _) fun _ => keeps_request)

theorem clearBindings_keeps_other : Keeps (fun s => s.program q) (clearBindings E p) := by
  refine .bind verifyUsable_keeps fun _ => .bind (keeps_other other) fun _ =>
    .bind (.read _) fun x => ?_
  cases x.held with
  | none => exact .pure _
  | some h => exact .bind (.read _) fun _ => .mapError keeps_request

/-- An operation on a program leaves every other one as it is. -/
theorem Action.program_of_ne (s : Store σ) (own : a.program? = some p) :
    (a.perform E s).2.program q = s.program q := by
  cases a with
  | bindValue r position value =>
    obtain rfl := Option.some.inj own
    exact bindValue_keeps_other other position value s
  | bindPresent r position value =>
    obtain rfl := Option.some.inj own
    cases value with
    | none => rfl
    | some v => exact bindValue_keeps_other other position v s
  | clearBindings r =>
    obtain rfl := Option.some.inj own
    exact clearBindings_keeps_other other s
  | compile r =>
    obtain rfl := Option.some.inj own
    have compiled : Keeps (fun s => s.program q) (compileProgram E r) :=
      .bind verifyUsable_keeps fun _ =>
        .bind (.mapError (ensureCompiled_keeps_other other)) fun _ => .pure _
    exact compiled s
  | execute r =>
    obtain rfl := Option.some.inj own
    have executed : Keeps (fun s => s.program q) (Store.execute E r) :=
      .bind verifyUsable_keeps fun _ =>
        .bind (.mapError (ensureCompiled_keeps_other other)) fun _ =>
        executeHeld_keeps fun _ _ => keeps_request
    exact executed s
  | closeProgram r =>
    obtain rfl := Option.some.inj own
    exact tearDown_keeps_other other s
  | dropProgram r =>
    obtain rfl := Option.some.inj own
    exact dropProgram_keeps_other (ε := Empty) other s
  | _ => nomatch own

end Others

section Tokens

/-- A move for others leaves the token of what a program holds as it is. -/
theorem Move.inUse_of_held {a b : Moment σ} (hm : Move E a b) (sound : Sound a)
    (held : (a.store.program q).held = some h) :
    (b.store.statement h).inUse = (a.store.statement h).inUse := by
  have apart {k : CompiledId} (atHand : a.grip.hand = some k) : h ≠ k := by
    rintro rfl
    exact sound.custody.apart q h atHand held
  have others {s : Store σ} {k : CompiledId} (hk : h ≠ k) (f : Compiled → Compiled) :
      ((s.withStatement k f).statement h).inUse = (s.statement h).inUse := by
    rw [statement_withStatement_of_ne hk]
  cases hm with
  | compile =>
    rw [statement_grown, if_neg (Nat.ne_of_lt (sound.homes.held q h held).exists_)]
  | claim atHand | park atHand => exact others (apart atHand) _
  | @attach s g sql k free stored idle =>
    refine others ?_ _
    rintro rfl
    -- a cached statement that a program holds is not idle
    have inUse := (sound.tokened h (.inl ⟨_, _, stored, rfl⟩)).2 (.inr ⟨q, held⟩)
    exact absurd (inUse.symm.trans idle) (by decide)
  | borrow | giveBack => exact inUse_withStatement _ _ h fun _ => rfl
  | destroyLoose | destroyHand => exact inUse_struck _ _ h
  | destroyReturned =>
    exact (inUse_struck _ _ h).trans (inUse_withStatement _ _ h fun _ => rfl)
  | _ => rfl

variable {s t : Store σ} {g g' : Grip}

/-- What is done for others leaves the token of what a program holds as it is. -/
theorem At.inUse_of_held (ha : At E ⟨s, g⟩ g' t) (sound : Sound ⟨s, g⟩) (other : g.actor ≠ some q)
    (held : (t.program q).held = some h) :
    (t.statement h).inUse = (s.statement h).inUse := by
  let I (m : Moment σ) : Prop := Sound m ∧ m.grip.actor ≠ some q ∧
    ((m.store.program q).held = some h →
      (m.store.statement h).inUse = (s.statement h).inUse)
  have all : I ⟨t, g'⟩ := by
    refine ha.invariant (I := I) (fun a b hm hs => ?_) ⟨sound, other, fun _ => rfl⟩
    obtain ⟨sound, other, before⟩ := hs
    refine ⟨sound.step hm, hm.actor ▸ other, fun held => ?_⟩
    have live := (sound.step hm).custody.live_of_held held
    have held' : (a.store.program q).held = some h :=
      (hm.program_of_live other live).2.1.symm.trans held
    exact (hm.inUse_of_held sound held').trans (before held')
  exact all.2.2 held

/-- Which tokens are taken. -/
def tokens (s : Store σ) (h : CompiledId) : Bool :=
  (s.statement h).inUse

theorem destroy_tokens : Keeps tokens (destroy E h) :=
  .bind (.read _) fun _ => .ite (.pure _)
    (.bind (.change fun s => funext fun k => inUse_withStatement s h k fun _ => rfl)
      fun _ _ => rfl)

theorem trace_tokens {e : Event} : Keeps tokens (trace c e : Op σ ε Unit) :=
  .bind (.read _) fun _ => .ite (.change fun _ => rfl) (.pure ())

theorem releaseReference_tokens : Keeps tokens (releaseReference E c) :=
  .bind (.read _) fun _ => .ite (.pure _) (.bind (.change fun _ => rfl) fun _ =>
    .ite (.bind (.change fun _ => rfl) fun _ => .bind (fun _ => rfl) fun _ =>
      .bind trace_tokens fun _ => .forAll (fun _ => destroy_tokens) _) (.pure _))

theorem dropConnectionIfUnreferenced_tokens :
    Keeps tokens (dropConnectionIfUnreferenced E c : Op σ ε Unit) := by
  refine .bind (.read _) fun _ => .ite (.pure _) (.bind (fun _ => rfl) fun _ =>
    .forAll (fun h => .bind (.read _) fun _ => .bind (.read _) fun _ => .ite (.pure _)
      (.bind (.attempt destroy_tokens) fun r => ?_)) _)
  cases r with
  | ok _ => exact .pure _
  | error e => exact .change fun _ => rfl

/-- The token of a cached statement is given back; a statement outside the cache is destroyed with
its token, which stays as it is. -/
theorem relinquishHeld_tokens (held : (s.program p).held = some h) :
    ((relinquishHeld E p).run s).2.tokens =
      if s.isCachedBy (s.program p).connection h then
        (s.withStatement h fun x => { x with inUse := false }).tokens
      else s.tokens := by
  let u := s.withProgram p fun x => { x with held := none }
  have run : (relinquishHeld E p).run s = (relinquish E (s.program p).connection h).run u := by
    simp only [relinquishHeld, run_bind, run_read, held, run_change]
    rfl
  have same : u.isCachedBy (s.program p).connection h = s.isCachedBy (s.program p).connection h := rfl
  rw [run]
  simp only [relinquish, run_bind, run_read, run_ite, same]
  split
  · exact trace_tokens _
  · have destroyed : Keeps tokens (do
        trace (s.program p).connection (.destroyed (u.statement h).statement)
        destroy E h : Op σ EngineError Unit) := .bind trace_tokens fun _ => destroy_tokens
    exact destroyed u

/-- To close a program is to give up its statement, as far as tokens go. -/
theorem tearDown_tokens (unlist : Bool) (live : (s.program p).isClosed = false)
    (held : (s.program p).held = some h) :
    ((tearDown E unlist p).run s).2.tokens =
      if s.isCachedBy (s.program p).connection h then
        (s.withStatement h fun x => { x with inUse := false }).tokens
      else s.tokens := by
  let u := s.withProgram p fun x => { x with pending := [], isClosed := true }
  have own : u.program p = { s.program p with pending := [], isClosed := true } :=
    program_withProgram_self (lt_of_not_closed live) _
  have relinquished := relinquishHeld_tokens (E := E) (s := u) (by rw [own]; exact held)
  rw [own] at relinquished
  have left := leave_keeps (p := p) (fun _ _ => rfl)
    (releaseReference_tokens (E := E) (c := (s.program p).connection)) unlist
  rw [tearDown_open live, run_both_snd]
  exact (left _).trans relinquished

/-- When a program is closed or dropped, the token of its statement is given back if the statement is
cached, and all other tokens stay as they are. -/
theorem Action.tokens_of_closed (closes : a = .closeProgram p ∨ a = .dropProgram p)
    (live : (s.program p).isClosed = false) (held : (s.program p).held = some h) :
    (a.perform E s).2.tokens =
      if s.isCachedBy (s.program p).connection h then
        (s.withStatement h fun x => { x with inUse := false }).tokens
      else s.tokens := by
  rcases closes with rfl | rfl
  · exact tearDown_tokens true live held
  · have closed := tearDown_tokens (E := E) true live held
    have gone : Keeps tokens (do
        change (·.withProgram p fun x => { x with isDropped := true })
        dropConnectionIfUnreferenced E (s.program p).connection : Op σ Empty Unit) :=
      .bind (.change fun _ => rfl) fun _ => dropConnectionIfUnreferenced_tokens
    show ((Store.dropProgram E p : Op σ Empty Unit).run s).2.tokens = _
    simp only [Store.dropProgram, run_bind, run_read, attempt]
    rcases hr : (tearDown E true p).run s with ⟨e | _, u⟩ <;> rw [hr] at closed
    · exact (gone _).trans closed
    · exact (gone _).trans closed

theorem Action.obtains_of_held (held : (s.program p).held = some h) :
    (compile p).obtains s = none := by
  simp [obtains, held]

/-- An operation on a program whose statement is outside the cache takes no token and gives none
back. -/
theorem Action.tokens_of_private (own : a.program? = some p) (live : (s.program p).isClosed = false)
    (held : (s.program p).held = some h)
    (uncached : s.isCachedBy (s.program p).connection h = false) :
    (a.perform E s).2.tokens = s.tokens := by
  have unobtained := obtains_of_held held
  have bound (position : UInt32) (value : Value) :
      ((Store.bindValue E p position value).run s).2.tokens = s.tokens := by
    rcases bindValue_cases E p position value s with ⟨m, run⟩ | ⟨-, -, run⟩ | ⟨k, -, run⟩ <;>
      rw [run] <;> rfl
  cases a with
  | bindValue r position value =>
    obtain rfl := Option.some.inj own
    exact bound position value
  | bindPresent r position value =>
    obtain rfl := Option.some.inj own
    cases value with
    | none => rfl
    | some v => exact bound position v
  | clearBindings r =>
    obtain rfl := Option.some.inj own
    show ((Store.clearBindings E r).run s).2.tokens = s.tokens
    rcases clearBindings_cases E r s with ⟨m, run⟩ | ⟨-, -, run⟩ | ⟨k, -, run⟩ <;> rw [run] <;> rfl
  | compile r =>
    obtain rfl := Option.some.inj own
    rw [compile_kept unobtained]
  | execute r =>
    obtain rfl := Option.some.inj own
    rcases execute_kept (E := E) unobtained with kept | ⟨i, q, kept⟩ <;> rw [kept]
    rfl
  | closeProgram r =>
    obtain rfl := Option.some.inj own
    rw [tokens_of_closed (.inl rfl) live held, uncached]
    rfl
  | dropProgram r =>
    obtain rfl := Option.some.inj own
    rw [tokens_of_closed (.inr rfl) live held, uncached]
    rfl
  | _ => nomatch own

end Tokens

section Caches

variable {e : σ} {past : List (Step σ)} {s : Store σ}

/-- An operation on a program that holds a statement leaves the caches as they are, as long as the
connection of the program is in use afterwards. -/
theorem Run.caches_of_held (run : Run E e past s) (allowed : a.Allowed s)
    (own : a.program? = some p) (held : (s.program p).held = some h)
    (used : ¬ Gone (a.perform E s).2 (s.program p).connection) (exists_ : c < s.connections.next) :
    ((a.perform E s).2.connection c).cache = (s.connection c).cache := by
  have registered := (run.sound (a.entry_idle s)).registered
  have home : a.connection s = (s.program p).connection := by
    cases a <;> first | (obtain rfl := Option.some.inj own; rfl) | nomatch own
  by_cases here : c = a.connection s
  · rw [here.trans home] at exists_ ⊢
    obtain ⟨v, turns, remains⟩ := a.turns (E := E) exists_ registered allowed
    rw [remains.same.resolve_right used]
    cases turns with
    | obtained obtains =>
      have free : (s.program p).held = none := by
        cases a with
        | compile r | execute r =>
          obtain rfl := Option.some.inj own
          exact (Action.obtains_program obtains).2.1
        | createCompiled => nomatch own
        | _ => nomatch obtains
      exact nomatch free.symm.trans held
    | evicted text evicts =>
      subst evicts
      nomatch own
    | resized n resizes =>
      subst resizes
      nomatch own
    | kept => rfl
  · exact congrArg Connection.cache (Action.elsewhere registered allowed here exists_)

/-- In a balanced run the connection of a program that holds a statement is open, and the reference
of the program is not the last one. -/
theorem Run.open_of_held (run : Run E e past s) (balanced : Balanced past)
    (held : (s.program p).held = some h) :
    (s.connection (s.program p).connection).isOpen = true ∧
      2 ≤ (s.connection (s.program p).connection).references := by
  have settled := run.settled balanced { connection := 0 } ⟨rfl, rfl, rfl, rfl⟩ rfl
  have live := settled.sound.custody.live_of_held held
  have isOpen : (s.connection (s.program p).connection).isOpen = true :=
    (settled.swept p live).resolve_right List.not_mem_nil
  have some : 0 < (s.openPrograms (s.program p).connection).card :=
    Finset.card_pos.2 ⟨p, mem_openPrograms.2 ⟨rfl, live⟩⟩
  have account := run.references_open balanced isOpen
  exact ⟨isOpen, by omega⟩

/-- An operation on a program gives back one reference at most. -/
theorem Entry.references_le {t : Store σ} (entry : Entry s t a) (own : a.program? = some p)
    (c : ConnectionId) : (s.connection c).references ≤ (t.connection c).references + 1 := by
  show (s.account c).references ≤ (t.account c).references + 1
  cases entry with
  | nothing books =>
    have same : t.account c = s.account c := congrArg (fun b => b.1 c) books
    rw [same]
    exact Nat.le_succ _
  | connected old new =>
    by_cases hc : c = s.connections.next
    · have before : s.account c = (default : Connection).account :=
        congrArg Connection.account (Table.get_of_le s.connections (Nat.le_of_eq hc.symm))
      rw [before]
      exact Nat.zero_le _
    · rw [old c hc]
      exact Nat.le_succ _
  | taken d _ account | enlisted d _ account =>
    rw [account]
    split
    · exact Nat.le_add_right _ 2
    · exact Nat.le_succ _
  | ended q live account =>
    rw [account]
    split
    · exact Nat.sub_le_iff_le_add.1 (Nat.le_refl _)
    · exact Nat.le_succ _
  | given | shut => nomatch own

/-- In a balanced run a connection stays in use in an operation on a program of it that holds a
statement, unless the program is dropped with nothing else that refers to the connection. -/
theorem Run.used_of_held (run : Run E e past s) (balanced : Balanced past) (allowed : a.Allowed s)
    (own : a.program? = some p) (held : (s.program p).held = some h)
    (kept : a = .dropProgram p → (a.perform E s).2.isReferenced (s.program p).connection = true) :
    ¬ Gone (a.perform E s).2 (s.program p).connection := by
  rintro (none | alone)
  · have some := (run.open_of_held balanced held).2
    have le := (a.enters (E := E) run.listed allowed).references_le own (s.program p).connection
    omega
  · have referenced : s.isReferenced (s.program p).connection = true := by
      have sound : Sound ⟨s, { connection := 0 }⟩ := run.sound ⟨rfl, rfl, rfl, rfl⟩
      exact (owned_of_not_dropped (run.not_dropped (sound.custody.live_of_held held))).referenced
    have same {t : Store σ} (standing : t.standing = s.standing)
        (alone : t.isReferenced (s.program p).connection = false) : False :=
      absurd (referenced.symm.trans ((isReferenced_of_standing standing _).symm.trans alone))
        (by decide)
    cases a with
    | bindValue r position value =>
      exact same (standing_of_steady (bindValue_keeps position value s)) alone
    | bindPresent r position value =>
      cases value with
      | none => exact same rfl alone
      | some v => exact same (standing_of_steady (bindValue_keeps position v s)) alone
    | clearBindings r => exact same (standing_of_steady (clearBindings_keeps s)) alone
    | compile r => exact same (standing_of_steady (compileProgram_keeps s)) alone
    | execute r => exact same (standing_of_steady (execute_keeps s)) alone
    | closeProgram r => exact same (tearDown_keeps s) alone
    | dropProgram r =>
      obtain rfl := Option.some.inj own
      exact absurd ((kept rfl).symm.trans alone) (by decide)
    | _ => nomatch own

end Caches

section Requests

variable {s : Store (Logged σ)}

/-- What an engine may be asked in an operation on a program, between the stores before and after
it. -/
inductive Action.Concerns (a : Action) (p : ProgramId) (s t : Store (Logged σ)) (r : Sent) : Prop
  /-- To compile the text of the program. -/
  | compiles (engine : r.engine = (s.connection (s.program p).connection).engine)
      (request : r.request = .compile (s.program p).sql)
  /-- What names a statement that is compiled in the operation. -/
  | new (h : CompiledId) (fresh : s.compiled.next ≤ h) (given : h < t.compiled.next)
      (named : r.Names (t.native h))
  /-- What names the statement that the program held. -/
  | own (h : CompiledId) (held : (s.program p).held = some h) (named : r.Names (s.native h))
  /-- What names the idle statement that the program attaches to, and that nobody held. -/
  | attached (h : CompiledId) (named : r.Names (s.native h))
      (obtains : a.obtains s =
        some ((s.program p).connection, (s.program p).kind, (s.program p).sql))
      (idle : s.idle? (s.program p).connection (s.program p).kind (s.program p).sql = some h)
      (unheld : ∀ q, (s.program q).held ≠ some h)
  /-- To destroy a statement that nobody holds. -/
  | strikes (h : CompiledId) (given : h < t.compiled.next) (destroys : r.request.name = .destroy)
      (named : r.Names (t.native h)) (marked : (t.statement h).destroyed = true)
      (unheld : ∀ q, (t.program q).held ≠ some h)

variable {e : σ} {past : List (Step (Logged σ))}

/-- What an engine was asked to destroy is marked. -/
theorem Run.marked (run : Run E.logged ⟨e, []⟩ past s) {r : Sent} (asked : r ∈ s.engine.log)
    (destroys : r.request.name = .destroy) :
    ∃ h < s.compiled.next, r.Names (s.native h) ∧ (s.statement h).destroyed = true := by
  obtain ⟨ds, -, marked, log⟩ := (run.recorded (g := { connection := 0 }) ⟨rfl, rfl, rfl, rfl⟩).destroyed
  obtain ⟨i, request, answer⟩ := r
  cases request with
  | destroy n =>
    have listed : (i, n) ∈ s.engine.log.filterMap Sent.destroyed? :=
      List.mem_filterMap.2 ⟨_, asked, rfl⟩
    obtain ⟨h, mem, native⟩ := List.mem_map.1 (log ▸ listed)
    obtain ⟨given, destroyed⟩ := (marked h).1 mem
    exact ⟨h, given, native ▸ ⟨rfl, rfl⟩, destroyed⟩
  | _ => nomatch destroys

/-- An operation on a program obtains what the program is for. -/
theorem Action.obtains_of_program? {kind : Kind} {sql : String} {s : Store σ}
    (own : a.program? = some p) (obtains : a.obtains s = some (c, kind, sql)) :
    (s.program p).connection = c ∧ (s.program p).kind = kind ∧ (s.program p).sql = sql := by
  cases a with
  | compile q | execute q =>
    obtain rfl := Option.some.inj own
    exact (obtains_program obtains).2.2
  | createCompiled => nomatch own
  | _ => nomatch obtains

/-- Where an engine has given out a statement there is one more. -/
theorem Run.compiled_grows (run : Run E.logged ⟨e, []⟩ past s) (allowed : a.Allowed s)
    {r : Sent} {rest : List Sent}
    (log : (a.perform E.logged s).2.engine.log = s.engine.log ++ r :: rest)
    (issued : r.issued?.isSome) : s.compiled.next < (a.perform E.logged s).2.compiled.next := by
  have idle : Grip.Idle { connection := 0 } := ⟨rfl, rfl, rfl, rfl⟩
  have before := congrArg List.length (run.recorded idle).issued
  have after := congrArg List.length ((run.step a allowed).recorded idle).issued
  obtain ⟨key, given⟩ := Option.isSome_iff_exists.1 issued
  dsimp only at before after
  rw [log, List.filterMap_append, List.filterMap_cons_some given, List.length_append, before] at after
  simp only [List.length_map, Table.positions, List.length_cons, List.length_range] at after
  omega

/-- What is held after a balanced run is not destroyed. -/
theorem Run.not_destroyed_of_held (run : Run E.logged ⟨e, []⟩ past s) (balanced : Balanced past)
    (held : (s.program q).held = some h) : (s.statement h).destroyed = false := by
  have sound : Sound ⟨s, { connection := 0 }⟩ := run.sound ⟨rfl, rfl, rfl, rfl⟩
  refine sound.live h (.inr ⟨q, held⟩) ?_
  rw [(sound.homes.held q h held).home]
  exact (run.open_of_held balanced held).1

/-- In an operation on a program an engine is asked for nothing but what concerns the program. -/
theorem Run.concerns (run : Run E.logged ⟨e, []⟩ past s) (balanced : Balanced past)
    (allowed : a.Allowed s) (own : a.program? = some p) :
    Makes (a.Concerns p s (a.perform E.logged s).2) s (a.perform E.logged s).2 := by
  have next := run.step a allowed
  have settled : Balanced (Step.of E.logged s a :: past) :=
    ⟨a.covered_of_program? own _, balanced⟩
  -- what is to be destroyed is marked, and nobody holds what is marked
  have struck (r : Sent) (asked : r ∈ (a.perform E.logged s).2.engine.log)
      (destroys : r.request.name = .destroy) : a.Concerns p s (a.perform E.logged s).2 r := by
    obtain ⟨h, given, named, marked⟩ := next.marked asked destroys
    refine .strikes h given destroys named marked fun q held => ?_
    have live := next.not_destroyed_of_held settled held
    exact absurd (marked.symm.trans live) (by decide)
  suffices asked : Makes (fun r => r.request.name = .destroy ∨
      a.Concerns p s (a.perform E.logged s).2 r) s (a.perform E.logged s).2 by
    obtain ⟨made, log, all⟩ := asked
    refine ⟨made, log, fun r hr => (all r hr).elim (struck r ?_) id⟩
    rw [log]
    exact List.mem_append_right _ hr
  cases obtains : a.obtains s with
  | none =>
    refine (Action.asks_of_held obtains).imp fun r asked => asked.imp_right ?_
    rintro ⟨q, h, actor, held, named⟩
    obtain rfl := Option.some.inj ((a.actor_of_program? s own).symm.trans actor)
    exact .own h held named
  | some key =>
    obtain ⟨c, kind, sql⟩ := key
    obtain ⟨rfl, rfl, rfl⟩ := Action.obtains_of_program? own obtains
    cases idle : s.idle? (s.program p).connection (s.program p).kind (s.program p).sql with
    | some h =>
      refine (Action.attaches obtains idle).1.imp fun r named =>
        .inr (.attached h named obtains idle fun q held => ?_)
      obtain ⟨-, stored, free⟩ := peek?_of_idle idle
      have inUse := (run.sound (a.entry_idle s)).tokened h
        (.inl ⟨_, _, Cache.mem_of_peek? stored, rfl⟩)
      exact absurd ((inUse.2 (.inr ⟨q, held⟩)).symm.trans free) (by decide)
    | none =>
      obtain ⟨rest, log, all⟩ := Action.compiles (E := E) obtains idle
      refine ⟨_, log, fun r hr => ?_⟩
      rcases List.mem_cons.1 hr with rfl | later
      · exact .inr (.compiles rfl rfl)
      · refine (all r later).imp_right fun ⟨accepted, named⟩ => ?_
        obtain ⟨n, answer⟩ := accepted idle
        refine .new _ (Nat.le_refl _) (run.compiled_grows allowed log ?_) named
        rw [answer]
        rfl

/-- The frame of an operation on a program, in a run in which no reference is given back that was not
taken. Every other program is as it was, and so are the token and the mark of the statement that
it holds. What an engine is asked concerns the program, or is to destroy a statement that nobody
holds. If the program holds a statement outside the cache, no cache is changed and no token taken
or given back, unless the program is dropped with nothing left that refers to its connection. No
such exception is needed where the program is closed: it holds nothing on a connection that was
closed. -/
theorem operation_frame (run : Run E.logged ⟨e, []⟩ past s) (balanced : Balanced past)
    (allowed : a.Allowed s) (own : a.program? = some p) :
    (∀ q, q ≠ p → (a.perform E.logged s).2.program q = s.program q ∧
      ∀ h, (s.program q).held = some h →
        ((a.perform E.logged s).2.statement h).inUse = (s.statement h).inUse ∧
        ((a.perform E.logged s).2.statement h).destroyed = (s.statement h).destroyed) ∧
    (∀ r ∈ (Step.of E.logged s a).requests, a.Concerns p s (a.perform E.logged s).2 r) ∧
    ∀ h, (s.program p).held = some h → s.isCachedBy (s.program p).connection h = false →
      (a = .dropProgram p →
        (a.perform E.logged s).2.isReferenced (s.program p).connection = true) →
      (∀ c < s.connections.next,
        ((a.perform E.logged s).2.connection c).cache = (s.connection c).cache) ∧
      ∀ k, ((a.perform E.logged s).2.statement k).inUse = (s.statement k).inUse := by
  have sound := run.sound (a.entry_idle s)
  have moves := a.moves (E := E.logged) sound.registered allowed
  have next := run.step a allowed
  have settled : Balanced (Step.of E.logged s a :: past) :=
    ⟨a.covered_of_program? own _, balanced⟩
  refine ⟨fun q other => ?_, (run.concerns balanced allowed own).requests,
    fun h held uncached referenced => ?_⟩
  · have same := a.program_of_ne (E := E.logged) other s own
    refine ⟨same, fun h held => ?_⟩
    have held' : ((a.perform E.logged s).2.program q).held = some h := same ▸ held
    have actor : (a.entry s).actor ≠ some q := fun acts =>
      other (Option.some.inj (acts.symm.trans (a.actor_of_program? s own)))
    exact ⟨moves.inUse_of_held sound actor held',
      (next.not_destroyed_of_held settled held').trans
        (run.not_destroyed_of_held balanced held).symm⟩
  · have live := sound.custody.live_of_held held
    have used := run.used_of_held balanced allowed own held referenced
    refine ⟨fun c exists_ => run.caches_of_held allowed own held used exists_, fun k => ?_⟩
    exact congrFun (a.tokens_of_private (E := E.logged) own live held uncached) k

/-- One program holds the cached statement for a text, and another one was given a private statement
for it. To close the second one is asked of the engine as the destruction of the private statement;
the first one keeps its statement, which stays in the cache and in use. -/
theorem operation_frame_private :
    ∃ past s, Run Recording.engine.logged ⟨{}, []⟩ past s ∧ Balanced past ∧
      Action.Allowed s (.closeProgram 1) ∧ (s.program 1).held = some 1 ∧
      s.isCachedBy 0 1 = false ∧
      (Step.of Recording.engine.logged s (.closeProgram 1)).requests.map Sent.destroyed? =
        [some (s.native 1)] ∧
      ((Step.of Recording.engine.logged s (.closeProgram 1)).after.program 0).held = some 0 ∧
      ((Step.of Recording.engine.logged s (.closeProgram 1)).after.statement 0).inUse = true ∧
      ((Step.of Recording.engine.logged s (.closeProgram 1)).after.connection 0).cache.entries =
        [("INSERT", 0)] := by
  have run := Run.ofActions (E := Recording.engine.logged) (e := ⟨{}, []⟩)
    [.openDefault 0, .createCompiled 0 "INSERT", .createCompiled 0 "INSERT"] (by decide +kernel)
  have balanced : Balanced (steps Recording.engine.logged
      [.openDefault 0, .createCompiled 0 "INSERT", .createCompiled 0 "INSERT"]
      { engine := ⟨{}, []⟩ } []) := by decide +kernel
  have allowed : Action.Allowed (performAll Recording.engine.logged
      [.openDefault 0, .createCompiled 0 "INSERT", .createCompiled 0 "INSERT"]
      { engine := ⟨{}, []⟩ }) (.closeProgram 1) := by decide +kernel
  obtain ⟨others, -, kept⟩ := operation_frame run balanced allowed (p := 1) rfl
  obtain ⟨same, tokens⟩ := others 0 (by decide)
  obtain ⟨caches, -⟩ := kept 1 (by decide +kernel) (by decide +kernel) nofun
  refine ⟨_, _, run, balanced, allowed, ?_, ?_, ?_, (congrArg Program.held same).trans ?_,
    (tokens 0 ?_).1.trans ?_, (congrArg Cache.entries (caches 0 ?_)).trans ?_⟩ <;>
    decide +kernel

end Requests

end Prepared.Store
