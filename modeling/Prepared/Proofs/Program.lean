import Prepared.Proofs.Reference
import Prepared.Store.Program

/-! The moves of programs.

Until it is closed a program moves only what is its own: its waiting bindings and the
statement that it obtains. Closing it puts that statement to hand and leaves a reference
owed, and neither is forgotten when something fails on the way. -/
namespace Prepared.Store

open Operation

variable {σ ε : Type} {E : Engine σ} {m : Moment σ} {g : Grip} {p : ProgramId}

/-- What a store tells of connections besides their caches, and of programs besides their
statements and bindings. -/
def steady (s : Store σ) : (ConnectionId → Connection) × (ProgramId → ConnectionId × Bool × Bool) :=
  (s.bare.2, fun p => ((s.program p).connection, (s.program p).isDropped, (s.program p).isClosed))

theorem steady_of_bare {s t : Store σ} (h : t.bare = s.bare) : t.steady = s.steady :=
  congrArg (fun b => (b.2, fun p => ((b.1.get p).connection, (b.1.get p).isDropped,
    (b.1.get p).isClosed))) h

instance : Aloof (steady (σ := σ)) where
  rest _ _ _ _ := rfl
  cache s c f := steady_of_bare (bare_withCache s c f)

theorem steady_withProgram (s : Store σ) (p : ProgramId) {f : Program → Program}
    (hf : ∀ x, ((f x).connection, (f x).isDropped, (f x).isClosed) =
      (x.connection, x.isDropped, x.isClosed)) : (s.withProgram p f).steady = s.steady :=
  Prod.ext rfl
    (funext fun q => program_part s p q (fun x => (x.connection, x.isDropped, x.isClosed)) hf)

theorem standing_of_steady {s t : Store σ} (h : t.steady = s.steady) : t.standing = s.standing :=
  congrArg (fun v => ((fun p => ((v.2 p).1, (v.2 p).2.1)), fun c => (v.1 c).clones)) h

/-- A program of a connection that is not gone. -/
structure Owned (c : ConnectionId) (p : ProgramId) (s : Store σ) : Prop where
  home : (s.program p).connection = c
  referenced : s.isReferenced c = true

/-- A program of a connection that can be used. -/
structure Usable (c : ConnectionId) (p : ProgramId) (s : Store σ) : Prop extends Owned c p s where
  live : (s.program p).isClosed = false
  isOpen : (s.connection c).isOpen = true

theorem Owned.of_standing {c : ConnectionId} {s t : Store σ} (hs : Owned c p s)
    (h : t.standing = s.standing) : Owned c p t where
  home := (congrArg (fun v => (v.1 p).1) h).trans hs.home
  referenced := (isReferenced_of_standing h _).trans hs.referenced

theorem Usable.of_steady {c : ConnectionId} {s t : Store σ} (hs : Usable c p s)
    (h : t.steady = s.steady) : Usable c p t where
  toOwned := hs.toOwned.of_standing (standing_of_steady h)
  live := (congrArg (fun v => (v.2 p).2.2) h).trans hs.live
  isOpen := (congrArg (fun v => (v.1 c).isOpen) h).trans hs.isOpen

section Keeps

variable {β : Type} {v : Store σ → β} [Aloof v] {h : CompiledId} {c : ConnectionId}

theorem replay_keeps {bs : List Binding} : Keeps v (replay E h bs) :=
  .untilError (fun _ => .bind (.read _) fun _ => keeps_request) bs

theorem abandon_keeps : Keeps v (abandon E c h : Op σ ε Unit) := by
  refine .bind (.read _) fun _ => .bind (.attempt keeps_relinquish) fun r => ?_
  cases r with
  | ok _ => exact .pure _
  | error e => exact keeps_report

theorem ensureCompiled_keeps : Keeps steady (ensureCompiled E p) := by
  apply Keeps.bind (.read _)
  intro x
  cases x.held with
  | some h => exact .pure h
  | none =>
    refine .bind keeps_acquire fun h => .bind (.attempt replay_keeps) fun r => ?_
    cases r with
    | ok _ => exact .bind (.change fun s => steady_withProgram s p fun _ => rfl) fun _ => .pure h
    | error e => exact .bind abandon_keeps fun _ => .throw e

theorem verifyUsable_keeps {γ : Type} {f : Store σ → γ} :
    Keeps f (verifyUsable p : Op σ ProgramError Unit) :=
  .bind (.read _) fun _ => .bind (.bind (.read _) fun _ => .ite (.pure _) (.throw _)) fun _ =>
    .bind (.read _) fun _ => .ite (.throw _) (.pure _)

theorem compileProgram_keeps : Keeps steady (compileProgram E p) :=
  .bind verifyUsable_keeps fun _ => .bind (.mapError ensureCompiled_keeps) fun _ => .pure _

/-- What every request to execute a statement keeps. -/
theorem executeHeld_keeps {γ : Type} {f : Store σ → γ}
    (requested : ∀ i n, Keeps f (request E i (.execute n))) : Keeps f (executeHeld E p) := by
  refine .bind (.read _) fun x => ?_
  cases x.held with
  | some h => exact .bind (.read _) fun _ => .mapError (requested _ _)
  | none => exact .throw _

/-- Where every request to execute a statement leads. -/
theorem executeHeld_leads {R : Store σ → Store σ → Prop} [IsPreorder (Store σ) R]
    (requested : ∀ i n, Leads R (request E i (.execute n))) : Leads R (executeHeld E p) := by
  refine .bind (.read _) fun x => ?_
  cases x.held with
  | some h => exact .bind (.read _) fun _ => .mapError (requested _ _)
  | none => exact .throw _

theorem relinquishHeld_keeps : Keeps steady (relinquishHeld E p) := by
  apply Keeps.bind (.read _)
  intro x
  cases x.held with
  | none => exact .pure _
  | some h =>
    exact .bind (.change fun s => steady_withProgram s p fun _ => rfl) fun _ => keeps_relinquish

/-- Whether or not a program leaves the list of its connection, giving the reference back keeps what
both keep. -/
theorem leave_keeps {γ : Type} {f : Store σ → γ}
    (unlisted : ∀ s d, f (s.withConnection d fun x =>
      { x with programs := x.programs.filter (· != p) }) = f s)
    (released : Keeps f (releaseReference E c)) (unlist : Bool) :
    Keeps f (do
      if unlist then deregister p
      releaseReference E c : Op σ EngineError Unit) := by
  cases unlist with
  | false => exact released
  | true => exact .bind (.bind (.read _) fun _ => .change fun s => unlisted s _) fun _ => released

theorem tearDown_keeps {unlist : Bool} : Keeps standing (tearDown E unlist p) := by
  refine .bind (.change fun s => standing_withProgram s p fun _ => rfl) fun _ =>
    .bind (.read _) fun x => .ite (.pure _)
    (.bind (.change fun s => standing_withProgram s p fun _ => rfl) fun _ =>
      .both (fun s => standing_of_steady (relinquishHeld_keeps s)) ?_)
  exact leave_keeps (fun s d => standing_withConnection s d fun _ => rfl)
    releaseReference_keeps_standing unlist

end Keeps

/-- The check changes nothing, and only a usable program gets past it. -/
theorem verifyUsable_cases (p : ProgramId) (s : Store σ) :
    ((s.program p).isClosed = false ∧ (s.connection (s.program p).connection).isOpen = true ∧
      (verifyUsable p).run s = (.ok (), s)) ∨
    ∃ m, (verifyUsable p).run s = (.error (.usage m), s) := by
  by_cases ho : (s.connection (s.program p).connection).isOpen = true
  · cases hc : (s.program p).isClosed with
    | true => exact .inr ⟨.programClosed, by simp [verifyUsable, verifyOpen, verifyLive, ho, hc]⟩
    | false => exact .inl ⟨rfl, ho, by simp [verifyUsable, verifyOpen, verifyLive, ho, hc]⟩
  · exact .inr ⟨.connectionClosed, by simp [verifyUsable, verifyOpen, ho]⟩

section Usable

variable {s t : Store σ} {position : UInt32} {value : Value}

theorem bindValue_zero : (bindValue E p 0 value).run s = (.error (.usage .positionZero), s) := by
  simp [bindValue]

theorem bindValue_unusable {e : ProgramError} (positive : position ≠ 0)
    (unusable : (verifyUsable p).run s = (.error e, s)) :
    (bindValue E p position value).run s = (.error e, s) := by
  simp only [bindValue, positive, if_false, run_bind, unusable]

theorem bindValue_free (usable : (verifyUsable p : Op σ ProgramError Unit).run s = (.ok (), s))
    (free : (s.program p).held = none) (positive : position ≠ 0) :
    (bindValue E p position value).run s = (.ok (), s.withProgram p fun x =>
      { x with pending := x.pending ++ [⟨position, value⟩] }) := by
  simp only [bindValue, positive, if_false, run_bind, usable, run_read, free, run_change]

theorem bindValue_held {h : CompiledId}
    (usable : (verifyUsable p : Op σ ProgramError Unit).run s = (.ok (), s))
    (held : (s.program p).held = some h) (positive : position ≠ 0) :
    (bindValue E p position value).run s =
      (mapError .engine (applyBinding E h ⟨position, value⟩)).run s := by
  simp only [bindValue, positive, if_false, run_bind, usable, run_read, held]

theorem clearBindings_unusable {e : ProgramError}
    (unusable : (verifyUsable p).run s = (.error e, s)) :
    (clearBindings E p).run s = (.error e, s) := by
  simp only [clearBindings, run_bind, unusable]

theorem clearBindings_free
    (usable : (verifyUsable p : Op σ ProgramError Unit).run s = (.ok (), s))
    (free : (s.program p).held = none) :
    (clearBindings E p).run s = (.ok (), s.withProgram p fun x => { x with pending := [] }) := by
  have same := program_part (f := fun x => { x with pending := [] }) s p p (fun x => x.held)
    fun _ => rfl
  simp only [clearBindings, run_bind, usable, run_change, run_read, same.trans free]
  rfl

theorem clearBindings_held {h : CompiledId}
    (usable : (verifyUsable p : Op σ ProgramError Unit).run s = (.ok (), s))
    (held : (s.program p).held = some h) :
    (clearBindings E p).run s = (mapError .engine (request E (s.statement h).engine
      (.clearBindings (s.statement h).statement))).run
        (s.withProgram p fun x => { x with pending := [] }) := by
  have same := program_part (f := fun x => { x with pending := [] }) s p p (fun x => x.held)
    fun _ => rfl
  simp only [clearBindings, run_bind, usable, run_change, run_read, same.trans held]
  rfl

theorem compileProgram_unusable {e : ProgramError}
    (unusable : (verifyUsable p).run s = (.error e, s)) :
    (compileProgram E p).run s = (.error e, s) := by
  simp only [compileProgram, run_bind, unusable]

theorem compileProgram_usable {r : Except EngineError CompiledId × Store σ}
    (usable : (verifyUsable p : Op σ ProgramError Unit).run s = (.ok (), s))
    (ensured : (ensureCompiled E p).run s = r) :
    (compileProgram E p).run s = ((r.1.map fun _ => ()).mapError .engine, r.2) := by
  simp only [compileProgram, run_bind, usable, mapError, ensured]
  rcases r with ⟨_ | _, _⟩ <;> rfl

theorem execute_unusable {e : ProgramError}
    (unusable : (verifyUsable p).run s = (.error e, s)) :
    (execute E p).run s = (.error e, s) := by
  simp only [execute, run_bind, unusable]

theorem execute_refused {e : EngineError}
    (usable : (verifyUsable p : Op σ ProgramError Unit).run s = (.ok (), s))
    (refused : (ensureCompiled E p).run s = (.error e, t)) :
    (execute E p).run s = (.error (.engine e), t) := by
  simp only [execute, run_bind, usable, mapError, refused]
  rfl

end Usable

theorem Ensures.verifyUsable_bind {α : Type} {P : Store σ → Prop}
    {R : Except ProgramError α → Store σ → Prop} {k : Unit → Op σ ProgramError α}
    (refused : ∀ e s, P s → R (.error e) s)
    (usable : Ensures (fun s => P s ∧ (s.program p).isClosed = false ∧
      (s.connection (s.program p).connection).isOpen = true) (k ()) R) :
    Ensures P (verifyUsable p >>= k) R := by
  intro s hs
  rw [run_bind]
  rcases verifyUsable_cases p s with ⟨hc, ho, hrun⟩ | ⟨m, hrun⟩
  · rw [hrun]
    exact usable s ⟨hs, hc, ho⟩
  · rw [hrun]
    exact refused _ s hs

theorem usable_of_verified {s t : Store σ}
    (verified : (verifyUsable p : Op σ ProgramError Unit).run s = (.ok (), t)) :
    (s.program p).isClosed = false ∧ (s.connection (s.program p).connection).isOpen = true := by
  have checked : Ensures (· = s) (do verifyUsable p; pure () : Op σ ProgramError Unit)
      fun r _ => r = .ok () → (s.program p).isClosed = false ∧
        (s.connection (s.program p).connection).isOpen = true :=
    Ensures.verifyUsable_bind (fun _ _ _ => nofun) (.pure fun t ht _ => ht.1 ▸ ht.2)
  apply checked s rfl
  rw [run_bind, verified]
  rfl

/-- An open program whose compilation succeeds holds a statement, so an execution never finds it
without one. -/
theorem ensureCompiled_provides :
    Ensures (fun s => (s.program p).isClosed = false) (ensureCompiled E p)
      fun r s => ∀ h, r = .ok h → (s.program p).held = some h := by
  let F (s : Store σ) : Prop := (s.program p).isClosed = false
  have kept {s t : Store σ} (same : t.bare = s.bare) (live : F s) : F t :=
    (congrArg Program.isClosed (program_of_bare same p)).trans live
  refine .read_bind fun x => ?_
  cases held : x.held with
  | some h =>
    refine .pure fun s hs k answer => ?_
    rw [hs.2, held, Except.ok.inj answer]
  | none =>
    have acquired : Ensures F (acquire E x.connection x.kind x.sql) fun _ => F :=
      fun s live => kept (keeps_acquire s) live
    refine (acquired.pre fun s hs => hs.1).bind (fun h => ?_) fun e s _ => nofun
    have replayed : Ensures F (replay E h x.pending) fun _ => F :=
      fun s live => kept (replay_keeps s) live
    refine .attempt_bind replayed fun r => ?_
    cases r with
    | ok _ =>
      intro s live k answer
      cases answer
      exact (congrArg Program.held (program_withProgram ..)).trans
        (by rw [if_pos ⟨rfl, lt_of_not_closed live⟩])
    | error e =>
      have abandoned : Ensures F (abandon E x.connection h : Op σ EngineError Unit) fun _ => F :=
        fun s live => kept (abandon_keeps s) live
      exact abandoned.bind (fun _ => .throw fun s _ => nofun) fun e s _ => nofun

theorem execute_obtained {h : CompiledId} {s t : Store σ}
    (usable : (verifyUsable p : Op σ ProgramError Unit).run s = (.ok (), s))
    (obtained : (ensureCompiled E p).run s = (.ok h, t)) :
    (execute E p).run s = (mapError .engine
      (request E (t.statement h).engine (.execute (t.statement h).statement))).run t := by
  have held : (t.program p).held = some h := by
    have held := ensureCompiled_provides (E := E) s (usable_of_verified usable).1 h
    rw [obtained] at held
    exact held rfl
  simp only [execute, executeHeld, run_bind, usable, mapError, obtained, Except.mapError, run_read,
    held]

theorem replay_moves {h : CompiledId} (atHand : g.hand = some h) (bs : List Binding) :
    Ensures (fun s => At E m g s ∧ (s.connection g.connection).isOpen = true) (replay E h bs)
      fun _ s => At E m g s ∧ (s.connection g.connection).isOpen = true := by
  refine .untilError (fun b => .read_bind fun x => ?_) bs
  intro s hs
  obtain ⟨⟨ha, ho⟩, rfl⟩ := hs
  exact ⟨ha.move (.use ho rfl (by simp [Primitive.name]) (.inl atHand)), ho⟩

theorem abandon_moves {h : CompiledId} (atHand : g.hand = some h) (empty : g.loose = []) :
    Ensures (At E m g) (abandon E g.connection h : Op σ ε Unit)
      fun _ => At E m { g with hand := none } := by
  refine .read_bind fun x => .attempt_bind (Q := fun _ => At E m { g with hand := none })
    ((relinquish_moves atHand empty).pre fun _ => And.left) fun r => ?_
  cases r with
  | ok _ => exact .pure fun _ => id
  | error e => exact fun s ha => ha.move (.report _)

/-- A program ends up with a statement, or as it was. -/
theorem ensureCompiled_moves (actor : g.actor = some p) (free : g.hand = none)
    (empty : g.loose = []) :
    Ensures (fun s => At E m g s ∧ Usable g.connection p s) (ensureCompiled E p)
      fun _ => At E m g := by
  apply Ensures.read_bind
  intro x
  cases hx : x.held with
  | some h => exact .pure fun s hs => hs.1.1
  | none =>
    let F (s : Store σ) : Prop := Usable g.connection p s ∧ s.program p = x
    have hF {s t : Store σ} (hb : t.bare = s.bare) (hs : F s) : F t :=
      ⟨hs.1.of_steady (steady_of_bare hb), (program_of_bare hb p).trans hs.2⟩
    refine .pre (P := fun s => (At E m g s ∧ F s) ∧ x.connection = g.connection)
      (.of_fact fun hc => ?_) fun s ⟨⟨ha, hs⟩, hp⟩ => ⟨⟨ha, hs, hp⟩, hp ▸ hs.home⟩
    rw [hc]
    have acquired : Ensures (fun s => At E m g s ∧ F s) (acquire E g.connection x.kind x.sql)
        fun r s => Obtained E m g r s ∧ F s :=
      .frame ((acquire_moves free empty x.kind x.sql).pre
        fun s hs => ⟨hs.1, hs.2.1.isOpen, hs.2.1.referenced⟩) fun s hs => hF (keeps_acquire s) hs
    refine acquired.bind (fun h => ?_) fun e s hs => hs.1
    have replayed : Ensures (fun s => At E m { g with hand := some h } s ∧ F s)
        (replay E h x.pending) fun _ s => At E m { g with hand := some h } s ∧ F s :=
      .frame (((replay_moves (g := { g with hand := some h }) rfl x.pending).pre
        fun s hs => ⟨hs.1, hs.2.1.isOpen⟩).post fun _ _ => And.left)
        fun s hs => hF (replay_keeps s) hs
    refine .attempt_bind replayed fun r => ?_
    cases r with
    -- the program takes the statement once all that waited was bound, and not before
    | ok _ =>
      intro s holds
      obtain ⟨ha, hs, hp⟩ := holds
      have hm := ha.move (.hold actor rfl hs.home (hp ▸ hx) hs.live)
      rw [Grip.hand_eta free] at hm
      exact hm
    | error e =>
      have abandoned := (abandon_moves (E := E) (m := m) (ε := EngineError)
        (g := { g with hand := some h }) rfl empty).pre
        (M := fun s => At E m { g with hand := some h } s ∧ F s) fun s hs => hs.1
      rw [Grip.hand_eta free] at abandoned
      exact abandoned.bind (fun _ => .throw fun _ => id) fun _ _ => id

/-- Of an owned program the check makes a usable one. -/
theorem Ensures.usable_bind {α : Type} {R : Except ProgramError α → Store σ → Prop}
    {k : Unit → Op σ ProgramError α} (refused : ∀ e s, At E m g s → R (.error e) s)
    (usable : Ensures (fun s => At E m g s ∧ Usable g.connection p s) (k ()) R) :
    Ensures (fun s => At E m g s ∧ Owned g.connection p s) (verifyUsable p >>= k) R :=
  Ensures.verifyUsable_bind (fun e s hs => refused e s hs.1) <|
    usable.pre fun _ ⟨⟨ha, ho⟩, hc, hn⟩ => ⟨ha, ho, hc, ho.home ▸ hn⟩

theorem bindValue_moves (actor : g.actor = some p) (position : UInt32) (value : Value) :
    Ensures (fun s => At E m g s ∧ Owned g.connection p s) (bindValue E p position value)
      fun _ => At E m g := by
  refine .ite (fun _ => .throw fun _ => And.left) fun _ => Ensures.usable_bind (fun _ _ => id) ?_
  apply Ensures.read_bind
  intro x
  cases hx : x.held with
  | some h =>
    intro s holds
    obtain ⟨⟨ha, hs⟩, rfl⟩ := holds
    exact ha.move (.use hs.isOpen rfl (by simp [Primitive.name]) (.inr ⟨p, actor, hx, hs.home⟩))
  | none => exact fun s hs => hs.1.1.move (.queue (.inl actor) (· ++ [⟨position, value⟩]))

theorem clearBindings_moves (actor : g.actor = some p) :
    Ensures (fun s => At E m g s ∧ Owned g.connection p s) (clearBindings E p) fun _ => At E m g := by
  refine Ensures.usable_bind (fun _ _ => id) ?_
  refine .change_bind (M := fun s => At E m g s ∧ Usable g.connection p s)
    (fun s hs => ⟨hs.1.move (.queue (.inl actor) fun _ => []),
      hs.2.of_steady (steady_withProgram s p fun _ => rfl)⟩) (.read_bind fun x => ?_)
  cases hx : x.held with
  | some h =>
    intro s holds
    obtain ⟨⟨ha, hs⟩, rfl⟩ := holds
    exact ha.move (.use hs.isOpen rfl (by simp [Primitive.name]) (.inr ⟨p, actor, hx, hs.home⟩))
  | none => exact .pure fun s hs => hs.1.1

theorem compileProgram_moves (actor : g.actor = some p) (free : g.hand = none)
    (empty : g.loose = []) :
    Ensures (fun s => At E m g s ∧ Owned g.connection p s) (compileProgram E p) fun _ => At E m g := by
  refine Ensures.usable_bind (fun _ _ => id) ?_
  exact .bind (Q := fun _ => At E m g)
    (.mapError (ensureCompiled_moves actor free empty))
    (fun h => .pure fun _ => id) fun _ _ => id

theorem execute_moves (actor : g.actor = some p) (free : g.hand = none) (empty : g.loose = []) :
    Ensures (fun s => At E m g s ∧ Owned g.connection p s) (execute E p) fun _ => At E m g := by
  refine Ensures.usable_bind (fun _ _ => id) ?_
  have obtained : Ensures (fun s => At E m g s ∧ Usable g.connection p s)
      (mapError ProgramError.engine (ensureCompiled E p))
      fun _ s => At E m g s ∧ Usable g.connection p s :=
    .frame (.mapError (ensureCompiled_moves actor free empty))
      fun s hs => hs.of_steady (ensureCompiled_keeps s)
  refine obtained.bind (fun _ => .read_bind fun x => ?_) fun e s hs => hs.1
  cases held : x.held with
  | some h =>
    intro s holds
    obtain ⟨⟨ha, hs⟩, rfl⟩ := holds
    exact ha.move (.use hs.isOpen rfl (by simp [Primitive.name])
      (.inr ⟨p, actor, held, hs.home⟩))
  | none => exact .throw fun s hs => hs.1.1

theorem relinquishHeld_none {s : Store σ} (h : (s.program p).held = none) :
    (relinquishHeld E p).run s = (.ok (), s) := by
  simp [relinquishHeld, h]

theorem relinquishHeld_some {s : Store σ} {h : CompiledId} (hh : (s.program p).held = some h) :
    (relinquishHeld E p).run s =
      (relinquish E (s.program p).connection h).run
        (s.withProgram p fun x => { x with held := none }) := by
  simp [relinquishHeld, hh]

/-- What a program holds is at hand once it is closed, and is given up. -/
theorem close_moves (free : g.hand = none) (empty : g.loose = []) {s : Store σ}
    (ha : At E m g s) (home : (s.program p).connection = g.connection)
    (live : (s.program p).isClosed = false) :
    At E m { g with hand := none, sweep := g.sweep.erase p, owed := g.owed + 1 }
      ((relinquishHeld E p).run
        (s.withProgram p fun x => { x with pending := [], isClosed := true })).2 := by
  have hm := ha.move (.close free live home)
  have hp : (s.withProgram p fun x => { x with pending := [], isClosed := true }).program p =
      { s.program p with pending := [], isClosed := true } := by
    rw [program_withProgram, if_pos ⟨rfl, lt_of_not_closed live⟩]
  cases hh : (s.program p).held with
  | none =>
    rw [relinquishHeld_none (by rw [hp]; exact hh)]
    have hs : (s.withProgram p fun x => { x with pending := [], isClosed := true }) =
        s.withProgram p fun x => { x with held := none, pending := [], isClosed := true } :=
      withProgram_congr (by rw [← hh])
    rw [hs]
    rw [hh] at hm
    exact hm
  | some h =>
    rw [relinquishHeld_some (by rw [hp]; exact hh), hp, withProgram_withProgram]
    rw [hh] at hm
    change At E m _ ((relinquish E (s.program p).connection h).run _).2
    rw [home]
    let g' : Grip :=
      { g with hand := some h, sweep := g.sweep.erase p, owed := g.owed + 1 }
    exact relinquish_moves (g := g') rfl empty _ hm

/-- A closed program gives its reference back, and leaves the list of its connection if that
is asked for. -/
theorem leave_moves {k : Nat} (owed : g.owed = k + 1) (empty : g.loose = []) (unlist : Bool) :
    Ensures
      (fun s => At E m g s ∧ Owned g.connection p s ∧ (s.program p).isClosed = true)
      (do
        if unlist then deregister p
        releaseReference E g.connection : Op σ EngineError Unit)
      fun _ => At E m { g with owed := k } := by
  have released : Ensures (fun s => At E m g s ∧ Owned g.connection p s)
      (releaseReference E g.connection) fun _ => At E m { g with owed := k } :=
    (releaseReference_moves owed empty).pre fun s hs => ⟨hs.1, hs.2.referenced⟩
  cases unlist with
  | false => exact released.pre fun s hs => ⟨hs.1, hs.2.1⟩
  | true =>
    intro s holds
    obtain ⟨ha, hs, hc⟩ := holds
    have hrun : (deregister p : Op σ EngineError Unit).run s =
        (.ok (), s.withConnection g.connection fun x =>
          { x with programs := x.programs.filter (· != p) }) := by
      simp [deregister, hs.home]
    simp only [if_true, run_bind, hrun]
    exact released _ ⟨ha.move (.deregister hc),
      hs.of_standing (standing_withConnection s g.connection fun _ => rfl)⟩

theorem tearDown_closed {unlist : Bool} {s : Store σ} (hc : (s.program p).isClosed = true) :
    (tearDown E unlist p).run s = (.ok (), s.withProgram p fun x => { x with pending := [] }) := by
  have hp : ((s.withProgram p fun x => { x with pending := [] }).program p).isClosed = true := by
    rw [← hc]
    exact program_part s p p (fun x => x.isClosed) fun _ => rfl
  simp [tearDown, hp]

theorem tearDown_open {unlist : Bool} {s : Store σ} (hc : (s.program p).isClosed = false) :
    (tearDown E unlist p).run s =
      (both (relinquishHeld E p) do
        if unlist then deregister p
        releaseReference E (s.program p).connection).run
        (s.withProgram p fun x => { x with pending := [], isClosed := true }) := by
  have hp : (s.withProgram p fun x => { x with pending := [] }).program p =
      { s.program p with pending := [] } := by
    rw [program_withProgram, if_pos ⟨rfl, lt_of_not_closed hc⟩]
  simp [tearDown, hp, hc, withProgram_withProgram]

/-- A program is closed, with its statement given up and its reference given back. -/
theorem tearDown_moves (free : g.hand = none) (empty : g.loose = []) (unlist : Bool) :
    Ensures (fun s => At E m g s ∧ Owned g.connection p s) (tearDown E unlist p)
      fun _ => At E m { g with hand := none, sweep := g.sweep.erase p } := by
  intro s holds
  obtain ⟨ha, hs⟩ := holds
  cases hc : (s.program p).isClosed with
  | true =>
    rw [tearDown_closed hc, ← free]
    refine (ha.move (.queue (.inr hc) fun _ => [])).move (.skip ?_)
    rw [← hc]
    exact program_part s p p (fun x => x.isClosed) fun _ => rfl
  | false =>
    rw [tearDown_open hc, hs.home]
    let g' : Grip := { g with hand := none, sweep := g.sweep.erase p, owed := g.owed + 1 }
    -- the reference is given back even if the statement cannot be given up
    refine Ensures.both (P := (· = s.withProgram p fun x => { x with pending := [], isClosed := true }))
      (M := fun s => At E m g' s ∧ Owned g.connection p s ∧ (s.program p).isClosed = true) ?_
      (leave_moves (g := g') rfl empty unlist) _ rfl
    intro t same
    subst same
    have hk := relinquishHeld_keeps (E := E) (p := p)
      (s.withProgram p fun x => { x with pending := [], isClosed := true })
    have hf : (s.withProgram p fun x => { x with pending := [], isClosed := true }).standing =
        s.standing := standing_withProgram s p fun _ => rfl
    refine ⟨close_moves free empty ha hs.home hc, ?_, ?_⟩
    · exact hs.of_standing ((standing_of_steady hk).trans hf)
    · apply (congrArg (fun v => (v.2 p).2.2) hk).trans
      show ((s.withProgram p _).program p).isClosed = true
      rw [program_withProgram, if_pos ⟨rfl, lt_of_not_closed hc⟩]

/-- Of an open program and no other one tearing down changes whether it is closed. -/
theorem tearDown_isClosed {unlist : Bool} {s : Store σ} (hc : (s.program p).isClosed = false)
    (q : ProgramId) : (((tearDown E unlist p).run s).2.program q).isClosed =
      ((s.withProgram p fun x => { x with pending := [], isClosed := true }).program q).isClosed := by
  rw [tearDown_open hc]
  have held : Keeps (fun s => (s.program q).isClosed) (relinquishHeld E p) :=
    fun s => congrArg (fun v => (v.2 q).2.2) (relinquishHeld_keeps s)
  have released : Keeps (fun s => (s.program q).isClosed)
      (releaseReference E (s.program p).connection) :=
    fun s => congrArg (fun t => (t.get q).isClosed) (releaseReference_keeps_programs s)
  exact held.both (leave_keeps (fun _ _ => rfl) released unlist) _

/-- Tearing down closes a program, whatever fails. -/
theorem tearDown_closes (unlist : Bool) (p : ProgramId) (s : Store σ) :
    (((tearDown E unlist p).run s).2.program p).isClosed = true := by
  cases hc : (s.program p).isClosed with
  | true =>
    rw [tearDown_closed hc, ← hc]
    exact program_part s p p (fun x => x.isClosed) fun _ => rfl
  | false =>
    rw [tearDown_isClosed hc, program_withProgram_self (lt_of_not_closed hc)]

/-- A program is closed and goes out of use, and the connection with it if it was the last
to refer to that. -/
theorem dropProgram_moves (free : g.hand = none) (empty : g.loose = []) :
    Ensures (fun s => At E m g s ∧ Owned g.connection p s) (dropProgram E p : Op σ ε Unit)
      fun _ => At E m { g with hand := none, sweep := g.sweep.erase p, leaving := false } := by
  let g' : Grip := { g with hand := none, sweep := g.sweep.erase p }
  let F (s : Store σ) : Prop :=
    At E m g' s ∧ Owned g.connection p s ∧ (s.program p).isClosed = true
  have closed : Ensures (fun s => At E m g s ∧ Owned g.connection p s) (tearDown E true p)
      fun _ => F :=
    fun s hs => ⟨tearDown_moves free empty true s hs, hs.2.of_standing (tearDown_keeps s),
      tearDown_closes true p s⟩
  apply Ensures.read_bind
  intro x
  refine .pre (P := fun s => (At E m g s ∧ Owned g.connection p s) ∧ x.connection = g.connection)
    (.of_fact fun hx => ?_) fun s hs => ⟨hs.1, hs.2 ▸ hs.1.2.home⟩
  rw [hx]
  have gone : Ensures F
      (do
        change (·.withProgram p fun x => { x with isDropped := true })
        dropConnectionIfUnreferenced E g.connection : Op σ ε Unit)
      fun _ => At E m { g with hand := none, sweep := g.sweep.erase p, leaving := false } :=
    .change_bind (fun s hs => hs.1.move (.dropProgram empty hs.2.1.home hs.2.2))
      (dropConnectionIfUnreferenced_moves (g := { g' with leaving := true }) rfl empty)
  refine .attempt_bind closed fun r => ?_
  cases r with
  | ok _ => exact gone
  | error e =>
    exact .change_bind (M := F)
      (fun s hs => ⟨hs.1.move (.report _), hs.2.1.of_standing rfl, hs.2.2⟩) gone

/-- Dropping closes a program, whatever fails. -/
theorem dropProgram_closes (p : ProgramId) (s : Store σ) :
    (((dropProgram E p : Op σ ε Unit).run s).2.program p).isClosed = true := by
  let F (s : Store σ) : Prop := (s.program p).isClosed = true
  have unreferenced (c : ConnectionId) :
      Keeps bare (dropConnectionIfUnreferenced E c : Op σ ε Unit) :=
    .bind (.read _) fun _ => .ite (.pure _) (.bind keeps_onCache fun out =>
      .forAll (fun _ => keeps_dropUnreferenced) out)
  have gone (c : ConnectionId) : Ensures F
      (do
        change (·.withProgram p fun x => { x with isDropped := true })
        dropConnectionIfUnreferenced E c : Op σ ε Unit)
      fun _ => F := by
    refine .change_bind (M := F) ?_ ?_
    · intro s hs
      refine Eq.trans ?_ hs
      exact program_part s p p (fun x => x.isClosed) fun _ => rfl
    · intro s hs
      exact (congrArg (fun b => (b.1.get p).isClosed) (unreferenced c s)).trans hs
  suffices closes : Ensures (fun _ => True) (dropProgram E p : Op σ ε Unit) fun _ => F from
    closes s trivial
  refine .read_bind fun x => .attempt_bind (Q := fun _ => F)
    (fun s _ => tearDown_closes true p s) fun r => ?_
  cases r with
  | ok _ => exact gone x.connection
  | error e => exact .change_bind (M := F) (fun _ hs => hs) (gone x.connection)

theorem createDeferred_ok {c : ConnectionId} {s : Store σ} (sql : String)
    (ho : (s.connection c).isOpen = true) (hg : (s.connection c).Grants) :
    (createDeferred c sql).run s = (.ok s.programs.next,
      (s.withConnection c fun x => { x with references := x.references + 1 }).created c sql) := by
  simp only [createDeferred, verifyOpen, run_bind, run_read, ho, if_true, run_pure,
    acquireReference_ok hg, run_change]
  rfl

theorem createDeferred_error {c : ConnectionId} {s : Store σ} (sql : String)
    (h : (s.connection c).isOpen = false ∨ ¬ (s.connection c).Grants) :
    ∃ m, (createDeferred c sql).run s = (.error (.usage m), s) := by
  cases ho : (s.connection c).isOpen with
  | false => exact ⟨.connectionClosed, by simp [createDeferred, verifyOpen, ho]⟩
  | true =>
    have refused := acquireReference_error (h.resolve_left (by simp [ho]))
    exact ⟨refusal (s.connection c), by simp [createDeferred, verifyOpen, ho, refused]⟩

theorem dropUnreferenced_succeeds (h : CompiledId) :
    Succeeds (fun _ => True) (dropUnreferenced E h : Op σ ε Unit) fun _ _ => True := by
  refine .read_bind fun x => .read_bind fun referenced =>
    .ite (fun _ => .pure fun _ _ => trivial) fun _ => ?_
  intro s _
  simp only [run_bind, attempt]
  rcases (destroy E h).run s with ⟨_ | _, t⟩ <;> exact ⟨(), rfl, trivial⟩

theorem dropConnectionIfUnreferenced_succeeds (c : ConnectionId) :
    Succeeds (fun _ => True) (dropConnectionIfUnreferenced E c : Op σ ε Unit) fun _ _ => True := by
  refine .read_bind fun referenced => .ite (fun _ => .pure fun _ _ => trivial) fun _ => ?_
  refine Ensures.onCache_bind (Q := fun _ _ => True) (fun _ _ => trivial) fun out => ?_
  exact Succeeds.forAll (I := fun _ _ => True)
    (fun h _ => (dropUnreferenced_succeeds h).pre fun _ _ => trivial) out

/-- Going out of use a program fails in no case, as failures are only reported. -/
theorem dropProgram_succeeds (p : ProgramId) :
    Succeeds (fun _ => True) (dropProgram E p : Op σ ε Unit) fun _ _ => True := by
  refine .read_bind fun x s _ => ?_
  simp only [run_bind, attempt]
  rcases (tearDown E true p).run s with ⟨_ | _, t⟩
  · exact dropConnectionIfUnreferenced_succeeds x.connection _ trivial
  · exact dropConnectionIfUnreferenced_succeeds x.connection _ trivial

section Created

variable {c : ConnectionId} {s u t : Store σ} {sql : String}
  (created : (createDeferred c sql).run s = (.ok p, u))

include created

theorem createCompiled_ok (compiled : (compileProgram E p).run u = (.ok (), t)) :
    (createCompiled E c sql).run s = (.ok p, t) := by
  simp only [createCompiled, run_bind, created, attempt, compiled]
  rfl

theorem createCompiled_error {e : ProgramError}
    (failed : (compileProgram E p).run u = (.error e, t)) :
    (createCompiled E c sql).run s =
      (.error e, ((dropProgram E p : Op σ ProgramError Unit).run t).2) := by
  obtain ⟨_, v, dropped, -⟩ := (dropProgram_succeeds (ε := ProgramError) (E := E) p).run_eq
    (s := t) trivial
  simp only [createCompiled, run_bind, created, attempt, failed, dropped]
  rfl

end Created

/-- A program is created with a reference of its own, or nothing has changed. -/
theorem createDeferred_moves (sql : String) (n : ProgramId) :
    Ensures
      (fun s => At E m g s ∧ s.isReferenced g.connection = true ∧ s.programs.next = n)
      (createDeferred g.connection sql)
      fun r s => At E m g s ∧ ∀ p, r = .ok p → p = n ∧ Owned g.connection p s := by
  intro s hs
  obtain ⟨ha, hr, rfl⟩ := hs
  by_cases h : (s.connection g.connection).isOpen = false ∨ ¬ (s.connection g.connection).Grants
  · obtain ⟨e, hrun⟩ := createDeferred_error sql h
    rw [hrun]
    exact ⟨ha, nofun⟩
  · rw [not_or, Bool.not_eq_false, not_not] at h
    rw [createDeferred_ok sql h.1 h.2]
    have ho : ((s.withConnection g.connection fun x =>
        { x with references := x.references + 1 }).connection g.connection).isOpen = true := by
      rw [← h.1]
      exact connection_part s _ _ (fun x => x.isOpen) fun _ => rfl
    have hs : (s.withConnection g.connection fun x =>
        { x with references := x.references + 1 }).standing = s.standing :=
      standing_withConnection s _ fun _ => rfl
    have hm := ha.move (.take h.2.1 hr)
    have hn : (s.withConnection g.connection fun x =>
        { x with references := x.references + 1 }).programs = s.programs := rfl
    generalize (s.withConnection g.connection fun x =>
      { x with references := x.references + 1 }) = t at ho hs hm hn
    refine ⟨hm.move (.create sql rfl ho ((isReferenced_of_standing hs _).trans hr)), ?_⟩
    intro p hs
    obtain ⟨⟩ := hs
    have hp := program_created t g.connection sql s.programs.next
    rw [hn, if_pos rfl] at hp
    exact ⟨rfl, by rw [hp], isReferenced_iff.2 (.inr ⟨_, by rw [hp], by rw [hp]⟩)⟩

/-- A program that was created for the purpose is compiled, or goes out of use again. -/
theorem createCompiled_moves (sql : String) (n : ProgramId) (actor : g.actor = some n)
    (free : g.hand = none) (empty : g.loose = []) (swept : g.sweep = [])
    (stays : g.leaving = false) :
    Ensures
      (fun s => At E m g s ∧ s.isReferenced g.connection = true ∧ s.programs.next = n)
      (createCompiled E g.connection sql) fun _ => At E m g := by
  refine (createDeferred_moves sql n).bind (fun p => ?_) fun e s hs => hs.1
  refine .pre (P := fun s => (At E m g s ∧ Owned g.connection p s) ∧ p = n)
    (.of_fact fun hp => ?_) fun s hs => ⟨⟨hs.1, (hs.2 p rfl).2⟩, (hs.2 p rfl).1⟩
  subst hp
  have compiled : Ensures (fun s => At E m g s ∧ Owned g.connection p s) (compileProgram E p)
      fun _ s => At E m g s ∧ Owned g.connection p s :=
    .frame (compileProgram_moves actor free empty)
      fun s hs => hs.of_standing (standing_of_steady (compileProgram_keeps s))
  refine .attempt_bind compiled fun r => ?_
  cases r with
  | ok _ => exact .pure fun _ => And.left
  | error e =>
    have dropped := dropProgram_moves (E := E) (m := m) (p := p) (ε := ProgramError) free empty
    rw [swept, ← free, List.erase_nil, ← swept, ← stays] at dropped
    exact dropped.bind (fun _ => .throw fun _ => id) fun _ _ => id

end Prepared.Store
