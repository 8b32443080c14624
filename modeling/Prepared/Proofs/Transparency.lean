import Prepared.Proofs.Executing
import Prepared.Proofs.Sole

/-! Transparency of the cache.

Two runs over one library do the same with connections that may have caches of other capacities,
if what a statement does depends on its text, on the values bound and on what is in the databases,
and preparing a text has no effect there. At every time one program may have attached to a cached
statement where the other had its text compiled, as nothing was cached there or what was cached is
in use.
The stores show the same all the time, and so all answers are the same. -/
namespace Prepared

namespace Store

open Operation Sql

/-- What an action answers, apart from what it tells of the cache. -/
inductive Reply where
  | opened (r : Except SettingsError ConnectionId)
  | created (r : Except ProgramError ProgramId)
  | done (r : Except ProgramError Unit)
  | executed (r : Except ProgramError Output)
  | closed (r : Except EngineError Unit)
  | nothing
  deriving DecidableEq

namespace Action

/-- The answer of an action; that of an eviction does not say whether something was cached. -/
def reply {σ : Type} (E : Engine σ) (s : Store σ) : Action → Reply
  | openConnection i settings => .opened ((Store.openConnection i settings).run s).1
  | openDefault i => .opened ((Store.openDefault i : Op σ SettingsError _).run s).1
  | createDeferred c sql => .created ((Store.createDeferred c sql).run s).1
  | createCompiled c sql => .created ((Store.createCompiled E c sql).run s).1
  | acquireReference c => .done ((Store.acquireReference c).run s).1
  | setCapacity c size => .done ((Store.setCapacity E c size).run s).1
  | bindValue p position value => .done ((Store.bindValue E p position value).run s).1
  | bindPresent p position value => .done ((Store.bindPresent E p position value).run s).1
  | clearBindings p => .done ((Store.clearBindings E p).run s).1
  | compile p => .done ((Store.compileProgram E p).run s).1
  | execute p => .executed ((Store.execute E p).run s).1
  | releaseReference c => .closed ((Store.releaseReference E c).run s).1
  | closeConnection c order => .closed ((Store.closeInOrder E c order).run s).1
  | closeProgram p => .closed ((Store.closeProgram E p).run s).1
  | evict c sql => .closed (((Store.evict E c sql).run s).1.map fun _ => ())
  | cloneConnection _ | dropConnection _ | lookup .. | giveBack _ | dropProgram _ => .nothing

/-- Whether an action makes no use of the capacity of a cache or of what is in it, and is not
the opening or the closing of a connection. -/
def isDiscreet : Action → Bool
  | openConnection .. | openDefault _ | closeConnection .. | setCapacity .. | lookup ..
  | giveBack _ => false
  | _ => true

end Action

/-- Actions that do the same up to the cache: connections may be opened with different settings,
and the programs of a connection may be met in different orders when it is closed. -/
inductive Action.Alike (i : EngineId) : Action → Action → Prop
  | openConnection {x y : Settings} (hx : x.IsValid) (hy : y.IsValid) :
    Action.Alike i (.openConnection i x) (.openConnection i y)
  | openDefault : Action.Alike i (.openDefault i) (.openDefault i)
  | closeConnection (c : ConnectionId) (order order' : List ProgramId) :
    Action.Alike i (.closeConnection c order) (.closeConnection c order')
  | same (a : Action) (discreet : a.isDiscreet = true) : Action.Alike i a a

/-- The answer that a text was refused. -/
def Reply.Refused : Reply → Prop
  | .created r => Prepared.Refused r
  | .done r => Prepared.Refused r
  | .executed r => Prepared.Refused r
  | _ => False

/-- When a program is executed it has bound all parameters of its text since it last cleared its
bindings. -/
def Action.Supplied {δ : Type} (count : String → Nat) (past : List (Step (Engines δ)))
    (s : Store (Engines δ)) : Action → Prop
  | .execute p => Covers (bound p past) (count (s.program p).sql)
  | _ => True

/-- Two runs of like actions, side by side, in which no text is refused and what is executed has
all its parameters bound. -/
inductive Abreast {δ : Type} {L : Library δ} (T : Terms L) (e : Engines δ) :
    List (Step (Engines δ)) → Store (Engines δ) → List (Step (Engines δ)) → Store (Engines δ) → Prop
  | start : Abreast T e [] { engine := e } [] { engine := e }
  | step {past past' : List (Step (Engines δ))} {s t : Store (Engines δ)} (a b : Action)
      (runs : Abreast T e past s past' t) (alike : Action.Alike T.engine a b) (left : a.Allowed s)
      (right : b.Allowed t) (accepted : ¬ (a.reply L.engine s).Refused)
      (accepted' : ¬ (b.reply L.engine t).Refused)
      (supplied : a.Supplied T.count past s) :
      Abreast T e
        (⟨s, a, (a.perform L.engine s).1, (a.perform L.engine s).2⟩ :: past)
        (a.perform L.engine s).2
        (⟨t, b, (b.perform L.engine t).1, (b.perform L.engine t).2⟩ :: past')
        (b.perform L.engine t).2

variable {δ ε α : Type} {L : Library δ} {T : Terms L} {s t : Store (Engines δ)} {o : Store δ}
  {e : Engines δ} {i : EngineId} {past past' : List (Step (Engines δ))} {a b : Action}

theorem Abreast.left (runs : Abreast T e past s past' t) : Run L.engine e past s := by
  induction runs with
  | start => exact .start
  | step a b _ _ left _ _ _ _ ih => exact ih.step a left

theorem Abreast.right (runs : Abreast T e past s past' t) : Run L.engine e past' t := by
  induction runs with
  | start => exact .start
  | step a b _ _ _ right _ _ _ ih => exact ih.step b right

instance decidableRefused : (r : Reply) → Decidable r.Refused
  | .created r => inferInstanceAs (Decidable (Prepared.Refused r))
  | .done r => inferInstanceAs (Decidable (Prepared.Refused r))
  | .executed r => inferInstanceAs (Decidable (Prepared.Refused r))
  | .opened _ | .closed _ | .nothing => .isFalse id

instance decidableSupplied (count : String → Nat) (past : List (Step (Engines δ)))
    (s : Store (Engines δ)) : (a : Action) → Decidable (a.Supplied count past s)
  | .execute p => inferInstanceAs (Decidable (Covers (bound p past) (count (s.program p).sql)))
  | .openConnection .. | .openDefault _ | .cloneConnection _ | .dropConnection _
  | .closeConnection .. | .acquireReference _ | .releaseReference _ | .lookup .. | .giveBack _
  | .evict .. | .setCapacity .. | .createDeferred .. | .createCompiled .. | .bindValue ..
  | .bindPresent .. | .clearBindings _ | .compile _ | .closeProgram _ | .dropProgram _ =>
    .isTrue trivial

/-- Whether the same actions may be performed side by side. -/
def AllAbreast (L : Library δ) (count : String → Nat) :
    List Action → List (Step (Engines δ)) → Store (Engines δ) → Store (Engines δ) → Prop
  | [], _, _, _ => True
  | a :: as, past, s, t =>
    (a.isDiscreet = true ∧ a.Allowed s ∧ a.Allowed t ∧ ¬ (a.reply L.engine s).Refused ∧
      ¬ (a.reply L.engine t).Refused ∧ a.Supplied count past s) ∧
    AllAbreast L count as (⟨s, a, (a.perform L.engine s).1, (a.perform L.engine s).2⟩ :: past)
      (a.perform L.engine s).2 (a.perform L.engine t).2

instance decidableAllAbreast (L : Library δ) (count : String → Nat) : (as : List Action) →
    (past : List (Step (Engines δ))) → (s t : Store (Engines δ)) →
    Decidable (AllAbreast L count as past s t)
  | [], _, _, _ => .isTrue trivial
  | a :: as, past, s, t =>
    have := decidableAllAbreast L count as
      (⟨s, a, (a.perform L.engine s).1, (a.perform L.engine s).2⟩ :: past)
      (a.perform L.engine s).2 (a.perform L.engine t).2
    inferInstanceAs (Decidable (_ ∧ _))

theorem Abreast.extend (runs : Abreast T e past s past' t) (as : List Action)
    (h : AllAbreast L T.count as past s t) :
    Abreast T e (steps L.engine as s past) (performAll L.engine as s)
      (steps L.engine as t past') (performAll L.engine as t) := by
  induction as generalizing past s past' t with
  | nil => exact runs
  | cons a as ih =>
    obtain ⟨⟨discreet, left, right, accepted, accepted', supplied⟩, rest⟩ := h
    exact ih (runs.step a a (.same a discreet) left right accepted accepted' supplied) rest

/-- Two actions give the same answer, and show the same after it. -/
structure Even (T : Terms L) (a b : Action) (s t : Store (Engines δ)) : Prop where
  reply : a.reply L.engine s = b.reply L.engine t
  succeeded : (a.perform L.engine s).1 = (b.perform L.engine t).1
  shown : ∃ o, Looks T o (a.perform L.engine s).2 ∧ Looks T o (b.perform L.engine t).2

theorem Agree.even {x y : Op (Engines δ) ε α} (h : Agree T (x.run s) (y.run t))
    (f : Except ε α → Reply) (left : a.reply L.engine s = f (x.run s).1)
    (right : b.reply L.engine t = f (y.run t).1)
    (performed : a.perform L.engine s = outcome x s)
    (performed' : b.perform L.engine t = outcome y t) : Even T a b s t := by
  refine ⟨?_, ?_, ?_⟩
  · rw [left, right, h.result]
  · rw [performed, performed']
    exact congrArg Except.isOk h.result
  · rw [performed, performed']
    exact h.shown

/-- A connection is opened with any settings. -/
theorem addConnection_agree (hs : Looks T o s) (ht : Looks T o t) (x y : Settings) :
    Agree T ((addConnection T.engine x : Op (Engines δ) ε ConnectionId).run s)
      ((addConnection T.engine y).run t) := by
  obtain ⟨u, run, left⟩ := addConnection_looks (ε := ε) hs x
  obtain ⟨v, run', right⟩ := addConnection_looks (ε := ε) ht y
  rw [run, run']
  exact ⟨rfl, _, left, right⟩

theorem openConnection_valid {x : Settings} (hx : x.IsValid) (i : EngineId) :
    (openConnection i x : Op (Engines δ) SettingsError ConnectionId) = addConnection i x := by
  unfold openConnection Settings.validate
  rw [if_pos hx]

/-- A connection is closed with its programs in any order. -/
theorem closeInOrder_agree (hs : Looks T o s) (ht : Looks T o t) {c : ConnectionId}
    {order order' : List ProgramId} (perm : order.Perm (s.connection c).programs)
    (perm' : order'.Perm (t.connection c).programs) :
    Agree T ((closeInOrder L.engine c order).run s)
      ((closeInOrder L.engine c order').run t) := by
  obtain ⟨_, u, run, left⟩ := (closeInOrder_looks c order).run_eq hs
  obtain ⟨_, v, run', right⟩ := (closeInOrder_looks c order').run_eq ht
  have programs : (s.connection c).programs = (t.connection c).programs :=
    (hs.connection_part c (fun x => x.programs) fun _ => rfl).symm.trans
      (ht.connection_part c (fun x => x.programs) fun _ => rfl)
  rw [shut_perm o c (perm.trans (programs ▸ perm'.symm))] at left
  rw [run, run']
  exact ⟨rfl, _, left, right⟩

/-- An eviction gives the same answer, whether something was cached apart. -/
theorem evict_even (hs : Looks T o s) (ht : Looks T o t) (c : ConnectionId) (sql : String) :
    Even T (.evict c sql) (.evict c sql) s t := by
  obtain ⟨found, u, run, left⟩ := (evict_looks c sql).run_eq hs
  obtain ⟨found', v, run', right⟩ := (evict_looks c sql).run_eq ht
  refine ⟨?_, ?_, o, ?_, ?_⟩
  · simp only [Action.reply, run, run']
    rfl
  · simp only [Action.perform, outcome, run, run']
    rfl
  · simp only [Action.perform, outcome, run]
    exact left
  · simp only [Action.perform, outcome, run']
    exact right

/-- Like actions in stores that show the same give the same answer, and the stores show the same
after them. -/
theorem Action.Alike.even (laws : T.Laws) (alike : Action.Alike T.engine a b) (left : Run L.engine e past s)
    (right : Run L.engine e past' t) (hs : Looks T o s) (ht : Looks T o t)
    (same : ∀ p, bound p past = bound p past') (allowed : a.Allowed s) (allowed' : b.Allowed t)
    (accepted : ¬ (a.reply L.engine s).Refused)
    (accepted' : ¬ (b.reply L.engine t).Refused)
    (supplied : a.Supplied T.count past s) :
    Even T a b s t := by
  have uniform {ε α : Type} {x : Op (Engines δ) ε α} (hx : Uniform T e o (fun _ => False) x) :
      Agree T (x.run s) (x.run t) := hx.agree left right hs ht id id
  cases alike with
  | @openConnection x y hx hy =>
    refine (addConnection_agree hs ht x y).even .opened ?_ ?_ ?_ ?_
    · exact congrArg (fun x => Reply.opened (x.run s).1) (openConnection_valid hx T.engine)
    · exact congrArg (fun x => Reply.opened (x.run t).1) (openConnection_valid hy T.engine)
    · exact congrArg (fun x => outcome x s) (openConnection_valid hx T.engine)
    · exact congrArg (fun x => outcome x t) (openConnection_valid hy T.engine)
  | openDefault =>
    exact (addConnection_agree (ε := SettingsError) hs ht {} {}).even .opened rfl rfl rfl rfl
  | closeConnection c order order' =>
    exact (closeInOrder_agree hs ht allowed.2 allowed'.2).even .closed rfl rfl rfl rfl
  | same a discreet =>
    cases a with
    | openConnection | openDefault | closeConnection | setCapacity | lookup | giveBack =>
      nomatch discreet
    | cloneConnection c =>
      exact (uniform (cloneConnection_uniform (ε := Empty) c)).even
        (fun _ => .nothing) rfl rfl rfl rfl
    | dropConnection c =>
      exact (uniform (dropConnection_uniform (ε := Empty) c)).even
        (fun _ => .nothing) rfl rfl rfl rfl
    | acquireReference c =>
      exact (uniform (acquireReference_uniform c)).even .done rfl rfl rfl rfl
    | releaseReference c =>
      exact (uniform (.of_succeeds (releaseReference_looks c))).even .closed rfl rfl rfl rfl
    | evict c sql => exact evict_even hs ht c sql
    | createDeferred c sql =>
      exact (uniform (createDeferred_uniform c sql)).even .created rfl rfl rfl rfl
    | createCompiled c sql =>
      have clones := hs.connection_part c (fun x => x.clones) fun _ => rfl
      have allowed : 0 < (o.connection c).clones := Nat.lt_of_lt_of_eq allowed clones.symm
      exact ((createCompiled_uniform laws sql allowed).agree left right hs ht accepted accepted').even
        .created rfl rfl rfl rfl
    | bindValue p position value =>
      exact (uniform (bindValue_uniform p position value)).even .done rfl rfl rfl rfl
    | bindPresent p position value =>
      cases value with
      | none =>
        have absent : Agree T ((Store.bindPresent L.engine p position none).run s)
            ((Store.bindPresent L.engine p position none).run t) := ⟨rfl, o, hs, ht⟩
        exact absent.even .done rfl rfl rfl rfl
      | some v => exact (uniform (bindValue_uniform p position v)).even .done rfl rfl rfl rfl
    | clearBindings p =>
      exact (uniform (clearBindings_uniform p)).even .done rfl rfl rfl rfl
    | compile p =>
      exact ((compileProgram_uniform laws p).agree left right hs ht accepted accepted').even
        .done rfl rfl rfl rfl
    | execute p =>
      exact (execute_agree laws left right hs ht (same p) supplied accepted accepted').even
        .executed rfl rfl rfl rfl
    | closeProgram p =>
      exact (uniform (.of_succeeds (tearDown_looks true p))).even .closed rfl rfl rfl rfl
    | dropProgram p =>
      exact (uniform (.of_succeeds (dropProgram_looks (ε := Empty) p))).even (fun _ => .nothing)
        rfl rfl rfl rfl

/-- Like actions bind the same. -/
theorem Action.Alike.bindings (alike : Action.Alike i a b) (p : ProgramId) (bs : List Binding) :
    a.bindings p bs = b.bindings p bs := by
  cases alike <;> rfl

/-- The empty store over engines whose library counts as the same as itself. -/
theorem Looks.start (same : T.Same e.library e.library) :
    Looks T (({ engine := e } : Store (Engines δ)).view fun _ => e.library) { engine := e } where
  tuned :=
    { engaged :=
        { slotted := .empty e
          statements := nofun
          shape := nofun }
      connections := nofun
      held := nofun }
  outline := rfl
  same := same

/-- The answers of a run, the latest first. -/
def replies (L : Library δ) (past : List (Step (Engines δ))) : List Reply :=
  past.map fun x => x.action.reply L.engine x.before

/-- Two runs side by side show the same all the time. -/
theorem Abreast.shows (laws : T.Laws) (same : T.Same e.library e.library)
    (runs : Abreast T e past s past' t) :
    replies L past = replies L past' ∧ (∀ p, bound p past = bound p past') ∧
      ∃ o, Looks T o s ∧ Looks T o t := by
  induction runs with
  | start => exact ⟨rfl, fun _ => rfl, _, .start same, .start same⟩
  | step a b runs alike left right accepted accepted' supplied ih =>
    obtain ⟨answers, same, o, hs, ht⟩ := ih
    have even :=
      alike.even laws runs.left runs.right hs ht same left right accepted accepted' supplied
    refine ⟨?_, fun p => ?_, even.shown⟩
    · exact congrArg₂ List.cons even.reply answers
    · simp only [bound, even.succeeded, same p, alike.bindings]

/-- The cache is transparent. Two runs of like actions from one state of the library, with caches
of any capacities, give the same answers, to the texts of the failures. Each program has the same
bindings waiting, and is compiled or closed in one store if it is in the other; each connection has
the same open programs; and what was done to the databases is the same. This holds after every
step, as runs side by side were so all the time. What may differ is which statements programs hold,
what is left in the slots, and what is in the caches. Of the library it is assumed that preparing a
text has no effect on what is in the databases, and that what a statement does depends on that, on
its text and on the values bound. -/
theorem cache_transparent (laws : T.Laws) (same : T.Same e.library e.library)
    (runs : Abreast T e past s past' t) :
    replies L past = replies L past' ∧
    (∀ p, (s.program p).pending = (t.program p).pending ∧
      ((s.program p).held.isSome ↔ (t.program p).held.isSome) ∧
      (s.program p).isClosed = (t.program p).isClosed) ∧
    (∀ c, (s.connection c).programs = (t.connection c).programs) ∧
    s.shape = t.shape ∧ T.Same s.engine.library t.engine.library := by
  obtain ⟨answers, -, o, hs, ht⟩ := runs.shows laws same
  have program {β : Type} (p : ProgramId) (part : Program → β)
      (kept : ∀ x, part x.outline = part x) : part (s.program p) = part (t.program p) :=
    (hs.program_part p part kept).symm.trans (ht.program_part p part kept)
  have shape {s : Store (Engines δ)} (hs : Looks T o s) :
      s.shape = { o with engine := () } :=
    congrArg (fun o' : Store δ => ({ o' with engine := () } : Store Unit)) hs.outline
  refine ⟨answers, fun p => ⟨?_, ?_, ?_⟩, fun c => ?_, (shape hs).trans (shape ht).symm, ?_⟩
  · exact program p (fun x => x.pending) fun _ => rfl
  · rw [program p (fun x => x.held.isSome) fun _ => Option.isSome_map]
  · exact program p (fun x => x.isClosed) fun _ => rfl
  · exact (hs.connection_part c (fun x => x.programs) fun _ => rfl).symm.trans
      (ht.connection_part c (fun x => x.programs) fun _ => rfl)
  · exact laws.trans (laws.symm hs.same) ht.same

/-- The same programs over caches of no and of two statements, over a database in memory: the third
program attaches to the statement of the second one where that is cached. -/
theorem cache_transparent_attached :
    ∃ past s past' t, Abreast (Dialect.terms 0) (Server.openMemory {}).2 past s past' t ∧
      (s.program 2).held = some 2 ∧ (t.program 2).held = some 1 ∧
      (replies Dialect.library past).head? =
        some (.executed (.ok { changes := 0, columns := ["a"], rows := [[.integer 9]] })) ∧
      replies Dialect.library past = replies Dialect.library past' ∧ s.shape = t.shape ∧
      Dialect.Same 0 s.engine.library t.engine.library := by
  have sole : Dialect.Sole (Server.openMemory {}).2.library 0  := by
    refine .openMemory {} (fun j old => ?_) rfl
    exact absurd old (Nat.not_lt_zero j)
  have opened : Abreast (Dialect.terms 0) (Server.openMemory {}).2 _ _ _ _ :=
    .step (.openConnection 0 { capacity := 0 }) (.openConnection 0 { capacity := 2 }) .start
      (.openConnection (by decide) (by decide)) trivial trivial id id trivial
  have runs := opened.extend
    [.createCompiled 0 "CREATE TABLE t (a)", .execute 0, .closeProgram 0,
      .createDeferred 0 "INSERT INTO t VALUES (?)", .bindValue 1 1 (.integer 7), .execute 1,
      .closeProgram 1, .createCompiled 0 "INSERT INTO t VALUES (?)", .bindValue 2 1 (.integer 9),
      .execute 2, .createCompiled 0 "SELECT a FROM t WHERE a = ?", .bindValue 3 1 (.integer 9),
      .execute 3] (by decide +kernel)
  obtain ⟨answers, -, -, shown, same⟩ :=
    cache_transparent (Dialect.laws 0) ⟨sole, sole, rfl⟩ runs
  refine ⟨_, _, _, _, runs, (fun reached : _ ∧ _ ∧ _ =>
    ⟨reached.1, reached.2.1, reached.2.2, answers, shown, same⟩) ?_⟩
  decide +kernel

end Store

end Prepared
