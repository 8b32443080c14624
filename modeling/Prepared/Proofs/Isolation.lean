import Prepared.Proofs.Bindings
import Prepared.Proofs.Untouched
import Prepared.Sql.Open

/-! Whose bindings a statement is run with.

A statement that goes back to the cache keeps what is bound in its slot, and so does one whose
waiting bindings were not all accepted. A program that attaches to it binds on top of that. So
what a statement is run with is made of two parts: what its program has bound since it last
cleared its bindings, and beneath that what it found when it obtained the statement. Nothing
that is done for other programs in the meantime has a part in it. -/
namespace Prepared.Store

open Operation Sql

/-- What an action that succeeds makes of the bindings of a program. -/
def Action.bindings (p : ProgramId) (bs : List Binding) : Action → List Binding
  | .bindValue q position value | .bindPresent q position (some value) =>
    if q = p then bs ++ [⟨position, value⟩] else bs
  | .clearBindings q => if q = p then [] else bs
  | _ => bs

/-- The bindings that a program has made since it last cleared them, the oldest first. -/
def bound {σ : Type} (p : ProgramId) : List (Step σ) → List Binding
  | [] => []
  | x :: past => if x.succeeded then x.action.bindings p (bound p past) else bound p past

theorem bound_unchanged {σ : Type} {p : ProgramId} {past : List (Step σ)} {a : Action}
    {s t : Store σ} {succeeded : Bool} (unchanged : a.bindings p (bound p past) = bound p past) :
    bound p (⟨s, a, succeeded, t⟩ :: past) = bound p past := by
  simp only [bound, unchanged, ite_self]

/-- The parameters that a program found in the statement that it holds, unless it has cleared
them since. It finds none in a statement that was compiled for it. -/
def inherited {δ : Type} (p : ProgramId) : List (Step (Engines δ)) → List Value
  | [] => []
  | x :: past =>
    if x.action = .clearBindings p ∧ x.succeeded = true then []
    else found p (inherited p past) x.before x.after

variable {δ : Type} {L : Library δ} {e : Engines δ} {s t : Store (Engines δ)} {p : ProgramId} {past : List (Step (Engines δ))}
  {base : List Value} {bs : List Binding}

theorem Action.bindings_of_other {σ : Type} {s : Store σ} {a : Action}
    (other : a.actor s ≠ some p) (bs : List Binding) :
    a.bindings p bs = bs := by
  cases a with
  | bindValue q position value =>
    exact if_neg fun same => other (congrArg some same)
  | bindPresent q position value =>
    cases value with
    | none => rfl
    | some v => exact if_neg fun same => other (congrArg some same)
  | clearBindings q => exact if_neg fun same => other (congrArg some same)
  | _ => rfl

/-- Only programs that exist bind anything. -/
theorem Action.bindings_of_new {σ : Type} {s : Store σ} {a : Action} (allowed : a.Allowed s)
    (new : s.programs.next ≤ p) (bs : List Binding) : a.bindings p bs = bs := by
  have missing : (s.program p).isDropped = true := by
    have absent : s.program p = default := Table.get_of_le _ new
    rw [absent]
    rfl
  have dropped {q : ProgramId} (used : (s.program q).isDropped = false) : q ≠ p := by
    intro same
    subst same
    exact absurd (missing.symm.trans used) (by decide)
  cases a with
  | bindValue q position value => exact if_neg (dropped allowed)
  | bindPresent q position value =>
    cases value with
    | none => rfl
    | some v => exact if_neg (dropped allowed)
  | clearBindings q => exact if_neg (dropped allowed)
  | _ => rfl

/-- What is known of a program after a run: what it carries, and that one which does not exist
has bound nothing. -/
structure Faithful (p : ProgramId) (past : List (Step (Engines δ))) (s : Store (Engines δ)) : Prop where
  fresh : s.programs.next ≤ p → bound p past = []
  carries : CarriesWhileUsable p (inherited p past) (bound p past) s

/-- Operations for others change nothing about what a program carries. -/
theorem CarriesWhileUsable.untouched
    (hc : CarriesWhileUsable p base bs s) (hr : Rooted s) (he : Extends s t)
    (hu : Untouched p s t) (fresh : s.programs.next ≤ p → bs = []) :
    CarriesWhileUsable p (found p base s t) bs t := by
  intro live isOpen
  have held := hu.held live
  have pending := hu.pending live
  rcases Nat.lt_or_ge p s.programs.next with old | new
  · have home := he.home p old
    have before : Carries p base bs s := by
      refine hc (hu.live old live) (hu.opened _ (hr.program p old) ?_)
      rw [← home]
      exact isOpen
    refine Carries.of_kept ⟨?_, ?_⟩ held
    · intro free
      rw [pending]
      exact before.waiting (held.symm.trans free)
    · intro h hh
      exact (before.showing h (held.symm.trans hh)).congr (hu.slot h hh isOpen)
  · have missing : s.program p = default := Table.get_of_le _ new
    rw [missing] at held pending
    constructor
    · intro _
      rw [pending, fresh new]
      rfl
    · intro h hh
      nomatch held.symm.trans hh

theorem inherited_of_ne {x : Step (Engines δ)} (other : x.action ≠ .clearBindings p) :
    inherited p (x :: past) = found p (inherited p past) x.before x.after :=
  if_neg fun h => other h.1

/-- A program that binds a value carries it if that succeeds. -/
theorem CarriesWhileUsable.binds (hc : CarriesWhileUsable p (inherited p past) (bound p past) s)
    (position : UInt32) (value : Value) {a : Action} (ha : a ≠ .clearBindings p)
    (adds : a.bindings p (bound p past) = bound p past ++ [⟨position, value⟩])
    {r : Except ProgramError Unit × Store (Engines δ)}
    (run : (bindValue L.engine p position value).run s = r) :
    CarriesWhileUsable p (inherited p (⟨s, a, r.1.isOk, r.2⟩ :: past))
      (bound p (⟨s, a, r.1.isOk, r.2⟩ :: past)) r.2 := by
  have carries := bindValue_carries (L := L) position value s hc
  have held := bindValue_keeps_held (p := p) (E := L.engine) position value s
  rw [run] at carries held
  rw [inherited_of_ne ha]
  unfold bound
  obtain ⟨r | _, t⟩ := r
  · exact CarriesWhileUsable.of_kept carries held
  · dsimp only
    rw [adds]
    exact CarriesWhileUsable.of_kept carries held

/-- A program that clears its bindings carries none if that succeeds. -/
theorem CarriesWhileUsable.clears (hc : CarriesWhileUsable p (inherited p past) (bound p past) s)
    {r : Except ProgramError Unit × Store (Engines δ)}
    (run : (clearBindings L.engine p).run s = r) :
    CarriesWhileUsable p (inherited p (⟨s, .clearBindings p, r.1.isOk, r.2⟩ :: past))
      (bound p (⟨s, .clearBindings p, r.1.isOk, r.2⟩ :: past)) r.2 := by
  have carries := clearBindings_carries (L := L) s hc
  have held := clearBindings_keeps_held (p := p) (E := L.engine) s
  rw [run] at carries held
  unfold inherited bound
  obtain ⟨r | _, t⟩ := r
  · have failed : ¬ (Except.error r : Except ProgramError Unit).isOk = true := nofun
    dsimp only
    rw [if_neg failed, if_neg fun h => failed h.2]
    exact CarriesWhileUsable.of_kept carries held
  · have cleared : Action.bindings p (bound p past) (.clearBindings p) = [] := if_pos rfl
    dsimp only
    rw [cleared, if_pos ⟨rfl, rfl⟩]
    exact carries

/-- What a program does itself changes what it carries as its history says. -/
theorem Action.own_carries (slotted : Slotted s)
    (given : ∀ c, ∀ e ∈ (s.connection c).cache.entries, e.2 < s.compiled.next)
    (hf : Faithful p past s) {a : Action} (own : a.actor s = some p) :
    CarriesWhileUsable p
      (inherited p (⟨s, a, (a.perform L.engine s).1, (a.perform L.engine s).2⟩ :: past))
      (bound p (⟨s, a, (a.perform L.engine s).1, (a.perform L.engine s).2⟩ :: past))
      (a.perform L.engine s).2 := by
  have hc := hf.carries
  cases a with
  | bindValue q position value =>
    obtain rfl := Option.some.inj own
    exact hc.binds position value (a := .bindValue q position value) nofun (if_pos rfl) rfl
  | bindPresent q position value =>
    obtain rfl := Option.some.inj own
    cases value with
    | none => exact hc.of_kept rfl
    | some v => exact hc.binds position v (a := .bindPresent q position v) nofun (if_pos rfl) rfl
  | clearBindings q =>
    obtain rfl := Option.some.inj own
    exact hc.clears rfl
  | compile q =>
    obtain rfl := Option.some.inj own
    rw [inherited_of_ne, bound_unchanged rfl]
    · exact compileProgram_carries slotted given hc s rfl
    · nofun
  | execute q =>
    obtain rfl := Option.some.inj own
    rw [inherited_of_ne, bound_unchanged rfl]
    · exact execute_carries slotted given hc s rfl
    · nofun
  | closeProgram q =>
    obtain rfl := Option.some.inj own
    exact .of_closed (tearDown_closes true q s)
  | dropProgram q =>
    obtain rfl := Option.some.inj own
    exact .of_closed (dropProgram_closes (ε := Empty) q s)
  | createCompiled c sql =>
    obtain rfl := Option.some.inj own
    rw [inherited_of_ne, bound_unchanged rfl, hf.fresh (Nat.le_refl _)]
    · exact createCompiled_carries slotted sql given s rfl
    · nofun
  | openConnection | openDefault | cloneConnection | dropConnection | closeConnection
  | acquireReference | releaseReference | lookup | giveBack | evict | setCapacity | createDeferred =>
    nomatch own

/-- One more step of a run. -/
theorem Faithful.step (hf : Faithful p past s) (a : Action) (hs : Sound ⟨s, a.entry s⟩)
    (slotted : Slotted s) (allowed : a.Allowed s) :
    Faithful p (⟨s, a, (a.perform L.engine s).1, (a.perform L.engine s).2⟩ :: past)
      (a.perform L.engine s).2 := by
  have moves := a.moves (E := L.engine) hs.registered allowed
  have he : Extends s (a.perform L.engine s).2 :=
    moves.invariant (I := fun m => Extends s m.store) (fun _ _ hm h => h.trans hm.extends) (.refl s)
  constructor
  · intro new
    have old := Nat.le_trans he.programs new
    rw [bound_unchanged (a.bindings_of_new allowed old _)]
    exact hf.fresh old
  · by_cases own : a.actor s = some p
    · exact a.own_carries slotted hs.homes.given hf own
    · rw [bound_unchanged (Action.bindings_of_other own _), inherited_of_ne]
      · exact hf.carries.untouched hs.rooted he (moves.untouched hs slotted own) hf.fresh
      · intro same
        subst same
        exact own rfl

theorem Slotted.empty (e : Engines δ) : Slotted { engine := e } :=
  ⟨fun _ => nofun, fun _ _ => nofun, fun _ => nofun⟩

/-- After every run the statements have slots of their own. -/
theorem Run.slotted (run : Run L.engine e past s) : Slotted s := by
  have idle : Grip.Idle { connection := 0 } := ⟨rfl, rfl, rfl, rfl⟩
  let I (m : Moment (Engines δ)) : Prop := Sound m ∧ Slotted m.store
  have all : I ⟨s, { connection := 0 }⟩ := by
    refine run.keeps (I := I) (fun _ hm => hm.1.registered) (fun g hg => ?_)
      (fun s g g' hg hg' hm => ⟨hm.1.regrip hg hg', hm.2⟩) (fun a b hm ha => ?_) _ idle
    · exact ⟨Sound.empty e hg, Slotted.empty e⟩
    · exact ⟨ha.1.step hm, ha.2.step hm.extends (hm.sends ha.1)⟩
  exact all.2

/-- After every run a program carries what its history says. -/
theorem Run.faithful (run : Run L.engine e past s) (p : ProgramId) : Faithful p past s := by
  induction run with
  | start => exact ⟨fun _ => rfl, .of_closed rfl⟩
  | @step past s a run allowed ih =>
    have idle : (a.entry s).Idle := a.entry_idle s
    exact ih.step a (run.sound idle) run.slotted allowed

/-- Executing a program compiles it first, and stops there if that fails; then one request is
sent, about the statement that it holds. -/
theorem execute_cases {σ : Type} (E : Engine σ) (p : ProgramId) (s : Store σ) :
    (∃ e t, (compileProgram E p).run s = (.error e, t) ∧ (execute E p).run s = (.error e, t)) ∨
    ∃ h t, (verifyUsable p).run s = (.ok (), s) ∧ (ensureCompiled E p).run s = (.ok h, t) ∧
      (compileProgram E p).run s = (.ok (), t) ∧
      (execute E p).run s =
        (mapError .engine (request E (t.native h).1 (.execute (t.native h).2))).run t := by
  rcases verifyUsable_cases p s with ⟨-, -, usable⟩ | ⟨m, unusable⟩
  · rcases ensured : (ensureCompiled E p).run s with ⟨e | h, t⟩
    · exact .inl ⟨.engine e, t, compileProgram_usable usable ensured,
        execute_refused usable ensured⟩
    · exact .inr ⟨h, t, usable, rfl, compileProgram_usable usable ensured,
        execute_obtained usable ensured⟩
  · exact .inl ⟨.usage m, s, compileProgram_unusable unusable, execute_unusable unusable⟩

/-- A program that is executed after any run is compiled first, and when that fails nothing is
executed. Else the statement that it holds then is executed, with parameters that are at each
position what the program bound there last, since it was created and last cleared its
bindings with success. Where it has bound nothing they are `null`, except that a program which
attached to a statement that was compiled before, and has not cleared its bindings since, meets
there what was left in the statement when it attached. What is bound for other programs after
that makes no difference. -/
theorem execute_parameters (run : Run L.engine e past s) (p : ProgramId) :
    (∃ err t, (compileProgram L.engine p).run s = (.error err, t) ∧
      (execute L.engine p).run s = (.error err, t)) ∨
    ∃ h t, (compileProgram L.engine p).run s = (.ok (), t) ∧
      (t.program p).held = some h ∧
      (execute L.engine p).run s =
        (mapError .engine (request L.engine (t.native h).1 (.execute (t.native h).2))).run t ∧
      (t.slot? h).isSome ∧
      ∀ slot, t.slot? h = some slot → ∀ k (hk : k < slot.parameters.length),
        slot.parameters[k] =
          expected (inherited p (⟨s, .compile p, true, t⟩ :: past)) (bound p past) k := by
  rcases execute_cases L.engine p s with failed | ⟨h, t, verified, obtained, compiled, executed⟩
  · exact .inl failed
  refine .inr ⟨h, t, compiled, ?_⟩
  have idle : Grip.Idle { connection := 0 } := ⟨rfl, rfl, rfl, rfl⟩
  have sound := run.sound idle
  have usable := usable_of_verified verified
  have allowed : (Action.compile p).Allowed s := by
    show (s.program p).isDropped = false
    rw [← Bool.not_eq_true]
    intro dropped
    exact absurd (usable.1.symm.trans (sound.custody.dropped p dropped)) (by decide)
  have held : (t.program p).held = some h := by
    have carries := ensureCompiled_carries (L := L) run.slotted usable.1
      (sound.homes.given _)
      ((run.faithful p).carries usable.1 usable.2) s rfl
    rw [obtained] at carries
    exact carries.2 h rfl
  -- the compilation is one more step of the run
  have next : Run L.engine e (⟨s, .compile p, true, t⟩ :: past) t := by
    have step := run.step (.compile p) allowed
    have performed : (Action.compile p).perform L.engine s = (true, t) := by
      show outcome (compileProgram L.engine p) s = _
      unfold outcome
      rw [compiled]
      rfl
    rw [performed] at step
    exact step
  have sound' := next.sound idle
  have isOpen : (t.connection (t.program p).connection).isOpen = true := by
    have kept := compileProgram_keeps (E := L.engine) (p := p) s
    rw [compiled] at kept
    have home : (t.program p).connection = (s.program p).connection :=
      congrArg (fun v => (v.2 p).1) kept
    rw [home, isOpen_of_steady kept]
    exact usable.2
  have showing := ((next.faithful p).carries (sound'.custody.live_of_held held) isOpen).showing h held
  refine ⟨held, executed, ?_, showing⟩
  have alive : (t.statement h).destroyed = false := by
    have home : Belongs t h (t.program p).connection := sound'.homes.held p h held
    apply sound'.live h (.inr ⟨p, held⟩)
    rw [home.home]
    exact isOpen
  exact next.slotted.slot h alive

/-- A program that binds one parameter of a statement it has attached to is executed with what
an earlier program has left in the other one. -/
theorem execute_parameters_attached :
    ∃ past s, Run Dialect.library.engine (Server.openMemory {}).2 past s ∧
      bound 1 past = [⟨2, .integer 9⟩] ∧
      ∃ h t slot, (compileProgram Dialect.library.engine 1).run s = (.ok (), t) ∧
        (t.program 1).held = some h ∧ t.slot? h = some slot ∧
        ∀ k (hk : k < slot.parameters.length),
          slot.parameters[k] = expected [.integer 7, .integer 8] [⟨2, .integer 9⟩] k := by
  have run := Run.ofActions (E := Dialect.library.engine) (e := (Server.openMemory {}).2)
    [.openDefault 0, .createCompiled 0 ";SELECT ?, ?", .bindValue 0 1 (.integer 7),
      .bindValue 0 2 (.integer 8), .closeProgram 0, .createCompiled 0 ";SELECT ?, ?",
      .bindValue 1 2 (.integer 9)] (by decide +kernel)
  rcases execute_parameters run 1 with ⟨err, t, failed, -⟩ | ⟨h, t, compiled, held, -, isLive, shows⟩
  · have refused := congrArg (fun r => r.1.isOk) failed
    change _ = false at refused
    exact absurd refused (by decide +kernel)
  · obtain ⟨slot, found⟩ := Option.isSome_iff_exists.1 isLive
    have ht := congrArg Prod.snd compiled
    subst ht
    have first : h = 0 := Option.some.inj (held.symm.trans (by decide +kernel))
    subst first
    refine ⟨_, _, run, by decide +kernel, 0, _, slot, compiled, held, found, fun k hk => ?_⟩
    rw [shows slot found k hk]
    exact congrArg₂ (fun base bs => expected base bs k) (by decide +kernel) (by decide +kernel)

/-- A statement may be run with a value that was bound for an earlier program only. -/
theorem not_isolated :
    ¬ ∀ (e : Server) (past : List (Step Server)) (s : Store Server), Run Dialect.library.engine e past s →
      ∀ p h t slot, (compileProgram Dialect.library.engine p).run s = (.ok (), t) →
        (t.program p).held = some h →
        (execute Dialect.library.engine p).run s =
          (mapError .engine (request Dialect.library.engine (t.native h).1 (.execute (t.native h).2))).run t →
        t.slot? h = some slot →
        ∀ k (hk : k < slot.parameters.length),
          slot.parameters[k] = (lastBound? (bound p past) (k + 1)).getD .null := by
  intro isolated
  have run := Run.ofActions (E := Dialect.library.engine) (e := (Server.openMemory {}).2)
    [.openDefault 0, .createCompiled 0 ";SELECT ?", .bindValue 0 1 (.integer 7),
      .closeProgram 0, .createCompiled 0 ";SELECT ?"] (by decide +kernel)
  have null := isolated _ _ _ run 1 0 _ ⟨";SELECT ?", [.integer 7]⟩ rfl (by decide +kernel) rfl
    (by decide +kernel) 0 (by decide)
  revert null
  decide +kernel

end Prepared.Store
