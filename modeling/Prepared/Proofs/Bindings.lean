import Prepared.Proofs.Acquisition
import Prepared.Proofs.Slotted

/-! What programs bind.

A statement that was compiled for a program has nothing bound, one that it attaches to has
what is left there, and on top of that come the bindings of the program: those that waited,
when the statement is obtained, and the later ones one by one. -/
namespace Prepared.Store

open Operation Sql

variable {δ ε : Type} {L : Library δ} {s t : Store (Engines δ)} {p : ProgramId} {h k : CompiledId} {c : ConnectionId}
  {base : List Value} {bs : List Binding}

/-- The slot of a statement shows bindings that were made over earlier parameters. -/
def Showing (h : CompiledId) (base : List Value) (bs : List Binding) (s : Store (Engines δ)) : Prop :=
  ∀ slot, s.slot? h = some slot → Shows base bs slot.parameters

/-- The parameters of a statement as they are, none if it is not compiled yet. -/
def remains (s : Store (Engines δ)) (h : CompiledId) : List Value :=
  if h < s.compiled.next then ((s.slot? h).map Slot.parameters).getD [] else []

theorem slot?_congr (engine : t.engine = s.engine) (compiled : t.compiled = s.compiled)
    (h : CompiledId) : t.slot? h = s.slot? h := by
  unfold slot? native statement
  rw [engine, compiled]

theorem Showing.congr (hs : Showing h base bs s) (same : t.slot? h = s.slot? h) :
    Showing h base bs t := by
  intro slot found
  exact hs slot (same.symm.trans found)

/-- What is left in a slot shows itself. -/
theorem showing_remains (hh : h < s.compiled.next) : Showing h (s.remains h) [] s := by
  intro slot found
  unfold remains
  rw [if_pos hh, found]
  exact Shows.self slot.parameters

/-- A new statement has nothing bound. -/
theorem showing_grown {sql : String} {n : StatementId}
    (answer : (L.engine.run (s.connection c).engine (.compile sql) s.engine).1 = .ok n) :
    Showing s.compiled.next [] [] (s.grown L.engine c sql n) := by
  intro slot found
  have new := statement_grown L.engine c sql n s s.compiled.next
  rw [if_pos rfl] at new
  unfold slot? native at found
  rw [new] at found
  obtain ⟨-, -, count, -, fresh⟩ := Engines.slot?_compiled answer
  obtain rfl := Option.some.inj (fresh.symm.trans found)
  exact Shows.replicate count

theorem Slotted.congr (hs : Slotted s) (engine : t.engine = s.engine)
    (compiled : t.compiled = s.compiled) : Slotted t := by
  obtain ⟨_, _, _, _, _⟩ := s
  obtain ⟨_, _, _, _, _⟩ := t
  dsimp only at engine compiled
  subst engine compiled
  exact ⟨hs.number, hs.distinct, hs.slot⟩

theorem Slotted.withStatement (hs : Slotted s) (h : CompiledId) {f : Compiled → Compiled}
    (hi : ∀ x, (f x).identity = x.identity) (hd : ∀ x, (f x).destroyed = x.destroyed) :
    Slotted (s.withStatement h f) := by
  have same : Unmarked s (s.withStatement h f) := .withStatement s h hd
  exact hs.of_old (.withStatement s h hi) same.next (fun _ => Nat.le_refl _)
    fun k live => hs.slot k (same.destroyed k ▸ live)

/-- A statement in use, whose slot is left alone while others are destroyed. -/
structure Claimed (h : CompiledId) (base : List Value) (s : Store (Engines δ)) : Prop where
  slotted : Slotted s
  given : h < s.compiled.next
  inUse : (s.statement h).inUse = true
  showing : Showing h base [] s

theorem Claimed.congr (hs : Claimed h base s) (engine : t.engine = s.engine)
    (compiled : t.compiled = s.compiled) : Claimed h base t := by
  have statement : t.statement h = s.statement h := congrArg (fun x => x.get h) compiled
  refine ⟨hs.slotted.congr engine compiled, ?_, ?_,
    hs.showing.congr (slot?_congr engine compiled h)⟩
  · rw [compiled]
    exact hs.given
  · rw [statement]
    exact hs.inUse

theorem destroy_claimed (k : CompiledId) :
    Ensures (fun s => Claimed h base s ∧ (s.statement k).inUse = false) (destroy L.engine k)
      fun _ => Claimed h base := by
  intro s holds
  obtain ⟨hs, idle⟩ := holds
  cases hd : (s.statement k).destroyed with
  | true =>
    rw [destroy_gone hd]
    exact hs
  | false =>
    rw [destroy_live hd]
    have hk : k < s.compiled.next := lt_of_not_destroyed hd
    have other : h ≠ k := by
      intro same
      subst same
      exact absurd (idle.symm.trans hs.inUse) (by decide)
    refine ⟨hs.slotted.step (.struck ..) (sends_struck hd), ?_, ?_, ?_⟩
    · exact Nat.lt_of_lt_of_eq hs.given (next_withStatement ..).symm
    · exact (inUse_struck s k h).trans hs.inUse
    · exact hs.showing.congr (hs.slotted.slot?_struck hs.given hk other)

theorem discard_claimed (k : CompiledId) :
    Ensures (Claimed h base) (discard L.engine k) fun _ => Claimed h base := by
  refine .read_bind fun x => .ite (fun _ s hs => hs.1.congr rfl rfl) fun busy => ?_
  refine .change_bind (M := fun s => Claimed h base s ∧ (s.statement k).inUse = false)
    ?_ (destroy_claimed k)
  intro s holds
  obtain ⟨hs, rfl⟩ := holds
  exact ⟨hs.congr rfl rfl, eq_false_of_ne_true busy⟩

/-- The engines and the statements of a store are as they were. -/
structure Alike (s t : Store (Engines δ)) : Prop where
  engine : t.engine = s.engine
  compiled : t.compiled = s.compiled

/-- What is known of the statement that an operation ends with. -/
def Ready (s : Store (Engines δ)) : Except EngineError CompiledId → Store (Engines δ) → Prop
  | .ok h => Showing h (s.remains h) []
  | .error _ => fun _ => True

theorem compile_ready (hs : Slotted s) (c : ConnectionId) (sql : String) :
    Ensures (Alike s) (compile L.engine c sql) fun r t => match r with
      | .ok h => Slotted t ∧ h < t.compiled.next ∧ Showing h (s.remains h) [] t
      | .error _ => True := by
  intro t hs
  obtain ⟨engine, compiled⟩ := hs
  have ht := hs.congr engine compiled
  cases hr : (L.engine.run (t.connection c).engine (.compile sql) t.engine).1 with
  | error e =>
    rw [compile_error hr]
    trivial
  | ok n =>
    rw [compile_ok hr]
    have new : s.remains t.compiled.next = [] := by
      unfold remains
      rw [compiled, if_neg (Nat.lt_irrefl _)]
    refine ⟨ht.step (.grown ..) (sends_grown hr), ?_, ?_⟩
    · exact Nat.lt_of_lt_of_eq (Nat.lt_succ_self _) (Table.next_push ..).symm
    · rw [new]
      exact showing_grown hr

theorem acquireMiss_ready (hs : Slotted s) (c : ConnectionId) (sql : String) :
    Ensures (Alike s) (acquireMiss L.engine c sql) (Ready s) := by
  refine (compile_ready hs c sql).bind (fun h => ?_) fun _ _ => id
  refine Ensures.claim_bind (Q := fun _ => Claimed h (s.remains h))
    (fun t ht hu => ⟨ht.1, ht.2.1, hu, ht.2.2⟩) (fun t ht _ => ?_) fun _ => ?_
  · obtain ⟨slotted, given, showing⟩ := ht
    have he : Extends t (t.withStatement h fun x => { x with inUse := true }) :=
      .withStatement t h fun _ => rfl
    refine ⟨slotted.withStatement h (fun _ => rfl) fun _ => rfl, ?_, ?_, ?_⟩
    · exact Nat.lt_of_lt_of_eq given (next_withStatement ..).symm
    · rw [statement_withStatement_self given]
    · exact showing.congr (slot?_of_engine he given rfl)
  refine Ensures.onCache_bind (Q := fun _ => Claimed h (s.remains h))
    (fun t ht => ht.congr rfl rfl) fun _ => ?_
  refine Ensures.onCache_bind (Q := fun _ => Claimed h (s.remains h))
    (fun t ht => ht.congr rfl rfl) fun out => ?_
  refine .read_bind fun x => Ensures.trace_bind (fun t es ht => ⟨ht.1.congr rfl rfl, ht.2⟩) ?_
  refine .attempt_bind (Q := fun _ => Claimed h (s.remains h))
    ((Ensures.forAll (I := fun _ => Claimed h (s.remains h))
      (fun k _ => discard_claimed k) out).pre fun _ => And.left) fun r => ?_
  cases r with
  | ok _ => exact .pure fun t ht => ht.showing
  | error e => exact fun t ht => ht.showing.congr rfl

theorem acquireContended_ready (hs : Slotted s) (c : ConnectionId) (sql : String)
    (cached : CompiledId) :
    Ensures (Alike s) (acquireContended L.engine c sql cached) (Ready s) := by
  refine (compile_ready hs c sql).bind (fun h => ?_) fun _ _ => id
  refine Ensures.onCache_bind (Q := fun _ => Showing h (s.remains h) [])
    (fun t ht => ht.2.2.congr rfl) fun _ => ?_
  exact .read_bind fun x => .read_bind fun y => fun t ht => ht.1.1.congr rfl

theorem acquireUncached_ready (hs : Slotted s) (c : ConnectionId) (kind : Kind) (sql : String) :
    Ensures (Alike s) (acquireUncached L.engine c kind sql) (Ready s) := by
  refine (compile_ready hs c sql).bind (fun h => ?_) fun _ _ => id
  refine Ensures.onCache_bind (Q := fun _ => Showing h (s.remains h) [])
    (fun t ht => ht.2.2.congr rfl) fun _ => ?_
  exact .read_bind fun x => Ensures.trace_bind (fun t es ht => ⟨ht.1.congr rfl, ht.2⟩)
    (.pure fun t ht => ht.1)

/-- A statement that was obtained has what is left in its slot, nothing if it is new. -/
theorem acquire_ready (hs : Slotted s) {c : ConnectionId} (kind : Kind) (sql : String)
    (given : ∀ e ∈ (s.connection c).cache.entries, e.2 < s.compiled.next) :
    Ensures (· = s) (acquire L.engine c kind sql) (Ready s) := by
  have start (t : Store (Engines δ)) (same : t = s) : Alike s t := by
    rw [same]
    exact ⟨rfl, rfl⟩
  refine .ite (fun _ => ?_) fun _ => (acquireUncached_ready hs c kind sql).pre start
  let A (cached : Option CompiledId) (t : Store (Engines δ)) : Prop :=
    Alike s t ∧ ∀ h, cached = some h → h < s.compiled.next
  refine Ensures.onCache_bind (Q := A) ?_ fun cached => ?_
  · intro t same
    subst same
    exact ⟨⟨rfl, rfl⟩, fun h hp => given _ (Cache.mem_of_peek? hp)⟩
  cases cached with
  | none => exact (acquireMiss_ready hs c sql).pre fun _ => And.left
  | some h =>
    refine Ensures.claim_bind
      (Q := fun b t => if b then Showing h (s.remains h) [] t else Alike s t)
      (fun t ht _ => ht.1) (fun t ht _ => ?_) fun b => ?_
    · have hh := ht.2 h rfl
      have he : Extends t (t.withStatement h fun x => { x with inUse := true }) :=
        .withStatement t h fun _ => rfl
      have old : h < t.compiled.next := by
        rw [ht.1.compiled]
        exact hh
      have same := slot?_of_engine he old rfl
      exact (showing_remains hh).congr (same.trans (slot?_congr ht.1.engine ht.1.compiled h))
    cases b with
    -- a copy of its own is new, while the cached statement still shows what was left in it
    | false => exact acquireContended_ready hs c sql h
    | true =>
      refine Ensures.onCache_bind (Q := fun _ => Showing h (s.remains h) [])
        (fun t ht => Showing.congr ht rfl) fun _ => ?_
      exact .read_bind fun x => Ensures.trace_bind (fun t es ht => ⟨ht.1.congr rfl, ht.2⟩)
        (.pure fun t ht => ht.1)

/-- A binding that is accepted is shown on top of the earlier ones; one that is refused leaves
no trace. -/
theorem applyBinding_showing (b : Binding) :
    Ensures (Showing h base bs) (applyBinding L.engine h b) fun r t => match r with
      | .ok _ => Showing h base (bs ++ [b]) t
      | .error _ => Showing h base bs t := by
  intro s hs
  let r : Primitive := .bind (s.native h).2 b.position b.value
  have run : (applyBinding L.engine h b).run s =
      ((L.engine.run (s.native h).1 r s.engine).1, s.asked L.engine (s.native h).1 r) :=
    rfl
  rw [run]
  cases answer : (L.engine.run (s.native h).1 r s.engine).1 with
  | error e => exact hs.congr (congrArg (fun x => x.slot? (s.native h)) (Engines.run_unbound answer))
  | ok _ =>
    obtain ⟨slot, found, first, bound⟩ := Engines.slot?_bound answer
    intro slot' found'
    obtain rfl := Option.some.inj (bound.symm.trans found')
    exact (hs slot found).bind first

/-- Bindings that were all accepted are shown on top of the earlier ones. -/
theorem replay_showing (cs : List Binding) :
    Ensures (Showing h base bs) (replay L.engine h cs) fun r t => match r with
      | .ok _ => Showing h base (bs ++ cs) t
      | .error _ => True := by
  induction cs generalizing bs with
  | nil =>
    apply Ensures.pure
    intro s hs
    rw [List.append_nil]
    exact hs
  | cons b cs ih =>
    have rest := @ih (bs ++ [b])
    rw [List.append_assoc] at rest
    exact (applyBinding_showing b).bind (fun _ => rest) fun _ _ _ => trivial

/-- Clearing leaves nothing bound, and fails only when there is nothing to clear. -/
theorem clear_showing (x : Compiled) :
    Ensures (fun s => s.statement h = x)
      (request L.engine x.engine (.clearBindings x.statement))
      fun r t => match r with
        | .ok _ => Showing h [] [] t
        | .error _ => t.slot? h = none := by
  intro s same
  subst same
  have run : (request L.engine (s.statement h).engine
        (.clearBindings (s.statement h).statement)).run s =
      ((L.engine.run (s.native h).1 (.clearBindings (s.native h).2) s.engine).1,
        s.asked L.engine (s.native h).1 (.clearBindings (s.native h).2)) := rfl
  have kept := Engines.isSome_slot?_run (L := L) (i := (s.native h).1) (r := .clearBindings (s.native h).2)
    rfl (by simp [Primitive.name]) (s.native h) s.engine
  rw [run]
  cases found : s.slot? h with
  | none =>
    have before : s.engine.slot? (s.native h) = none := found
    rw [before] at kept
    have after :
        (s.asked L.engine (s.native h).1 (.clearBindings (s.native h).2)).slot? h = none :=
      Option.isNone_iff_eq_none.1 (Option.isSome_eq_false_iff.1 kept)
    cases (L.engine.run (s.native h).1 (.clearBindings (s.native h).2) s.engine).1 with
    | error e => exact after
    | ok _ =>
      intro slot hs
      cases after.symm.trans hs
  | some slot =>
    obtain ⟨answer, cleared⟩ :=
      Engines.slot?_cleared (i := (s.native h).1) (n := (s.native h).2) found
    rw [answer]
    intro slot' hs
    obtain rfl := Option.some.inj (cleared.symm.trans hs)
    exact Shows.replicate _

/-- What a program carries: bindings that wait as long as it has no statement, and that its
statement shows from then on. -/
structure Carries (p : ProgramId) (base : List Value) (bs : List Binding) (s : Store (Engines δ)) :
    Prop where
  waiting : (s.program p).held = none → (s.program p).pending = bs
  showing : ∀ h, (s.program p).held = some h → Showing h base bs s

/-- What a program carries as long as it can be used. -/
def CarriesWhileUsable (p : ProgramId) (base : List Value) (bs : List Binding) (s : Store (Engines δ)) :
    Prop :=
  (s.program p).isClosed = false → (s.connection (s.program p).connection).isOpen = true →
    Carries p base bs s

/-- What a program found in its statement: what was left there when it obtained it. -/
def found (p : ProgramId) (base : List Value) (s t : Store (Engines δ)) : List Value :=
  match (s.program p).held, (t.program p).held with
  | none, some h => s.remains h
  | none, none => []
  | some _, _ => base

namespace Carries

theorem of_held (held : (s.program p).held = some h) (showing : Showing h base bs s) :
    Carries p base bs s := by
  constructor
  · intro free
    nomatch held.symm.trans free
  · intro k hk
    cases held.symm.trans hk
    exact showing

/-- A program that takes a statement carries what the statement shows. -/
theorem hold (live : (s.program p).isClosed = false) (showing : Showing h base bs s) :
    Carries p base bs (s.withProgram p fun x => { x with held := some h, pending := [] }) ∧
      ((s.withProgram p fun x => { x with held := some h, pending := [] }).program p).held =
        some h := by
  have hp := program_withProgram_self (lt_of_not_closed live)
    fun x => { x with held := some h, pending := [] }
  have held := congrArg Program.held hp
  exact ⟨.of_held held showing, held⟩

/-- Without a statement it does not matter what was found. -/
theorem of_free (hc : Carries p base bs s) (free : (s.program p).held = none)
    (same : t.program p = s.program p) (base' : List Value) : Carries p base' bs t := by
  constructor
  · intro _
    rw [same]
    exact hc.waiting free
  · intro h held
    rw [same, free] at held
    nomatch held

theorem of_kept (hc : Carries p base bs t) (held : (t.program p).held = (s.program p).held) :
    Carries p (found p base s t) bs t := by
  cases hs : (s.program p).held with
  | none => exact hc.of_free (held.trans hs) rfl _
  | some h =>
    have same : found p base s t = base := by
      unfold found
      rw [hs]
    rw [same]
    exact hc

end Carries

/-- Obtaining a statement puts the bindings that waited on top of what was found in it. -/
theorem ensureCompiled_obtains (hs : Slotted s) (live : (s.program p).isClosed = false)
    (given : ∀ e ∈ (s.connection (s.program p).connection).cache.entries, e.2 < s.compiled.next)
    (hc : Carries p base bs s) (free : (s.program p).held = none) :
    Ensures (· = s) (ensureCompiled L.engine p) fun r t =>
      Carries p (found p base s t) bs t ∧ ∀ h, r = .ok h → (t.program p).held = some h := by
  let F (t : Store (Engines δ)) : Prop := t.program p = s.program p
  have framed {t u : Store (Engines δ)} (hb : u.bare = t.bare) (ht : F t) : F u :=
    (program_of_bare hb p).trans ht
  have failed {t : Store (Engines δ)} (ht : F t) : Carries p (found p base s t) bs t :=
    hc.of_free free ht _
  refine .read_bind fun x => .pre (P := fun t => t = s ∧ x = s.program p) (.of_fact fun hx => ?_)
    fun t ht => ⟨ht.1, ht.2.symm.trans (congrArg (fun t => t.program p) ht.1)⟩
  rw [hx, free]
  have obtained : Ensures (· = s)
      (acquire L.engine (s.program p).connection (s.program p).kind (s.program p).sql)
      fun r t => Ready s r t ∧ F t := by
    intro t same
    refine ⟨acquire_ready hs _ _ given t same, framed (keeps_acquire t) ?_⟩
    rw [same]
  refine obtained.bind (fun h => ?_) fun e t ht => ⟨failed ht.2, nofun⟩
  have replayed : Ensures (fun t => Showing h (s.remains h) [] t ∧ F t)
      (replay L.engine h (s.program p).pending) fun r t =>
        (match r with
          | .ok _ => Showing h (s.remains h) (s.program p).pending t
          | .error _ => True) ∧ F t :=
    .frame ((replay_showing _).pre fun _ => And.left) fun t ht => framed (replay_keeps t) ht
  refine .attempt_bind replayed fun r => ?_
  cases r with
  | error e =>
    have abandoned : Ensures F (abandon L.engine (s.program p).connection h) fun _ => F :=
      fun t ht => framed (abandon_keeps (ε := EngineError) t) ht
    refine .bind (abandoned.pre fun _ => And.right) (fun _ => ?_) fun e t ht => ⟨failed ht, nofun⟩
    exact .throw fun t ht => ⟨failed ht, nofun⟩
  | ok _ =>
    refine .change_bind (M := fun t => Carries p (found p base s t) bs t ∧
      (t.program p).held = some h) ?_ (.pure fun t ht => ⟨ht.1, fun k hk => ?_⟩)
    · intro t ht
      obtain ⟨showing, same⟩ := ht
      -- what waited in the program was replayed, so that the statement shows it now
      rw [hc.waiting free] at showing
      obtain ⟨carries, held⟩ :=
        Carries.hold (show (t.program p).isClosed = false from same ▸ live) showing
      have new : found p base s (t.withProgram p fun x => { x with held := some h, pending := [] }) =
          s.remains h := by
        unfold found
        rw [free, held]
      rw [new]
      exact ⟨carries, held⟩
    · cases hk
      exact ht.2

theorem ensureCompiled_carries (hs : Slotted s) (live : (s.program p).isClosed = false)
    (given : ∀ e ∈ (s.connection (s.program p).connection).cache.entries, e.2 < s.compiled.next)
    (hc : Carries p base bs s) :
    Ensures (· = s) (ensureCompiled L.engine p) fun r t =>
      Carries p (found p base s t) bs t ∧ ∀ h, r = .ok h → (t.program p).held = some h := by
  cases held : (s.program p).held with
  | none => exact ensureCompiled_obtains hs live given hc held
  | some h =>
    intro t same
    rw [same, ensureCompiled_held held]
    refine ⟨hc.of_kept rfl, fun k hk => ?_⟩
    cases hk
    exact held

/-- A binding that is accepted is carried from then on, whether or not there is a statement. -/
theorem bindValue_carries (position : UInt32) (value : Value) :
    Ensures (CarriesWhileUsable p base bs) (bindValue L.engine p position value) fun r =>
      match r with
      | .ok _ => CarriesWhileUsable p base (bs ++ [⟨position, value⟩])
      | .error _ => CarriesWhileUsable p base bs := by
  refine .ite (fun _ => .throw fun _ => id) fun _ =>
    Ensures.verifyUsable_bind (fun _ _ => id) (.read_bind fun x => ?_)
  cases held : x.held with
  | none =>
    rintro s ⟨⟨hc, live, isOpen⟩, rfl⟩ - -
    -- without a statement the binding waits
    have hp := program_withProgram_self (lt_of_not_closed live)
      fun x => { x with pending := x.pending ++ [⟨position, value⟩] }
    constructor
    · intro _
      apply (congrArg Program.pending hp).trans
      show (s.program p).pending ++ _ = _
      rw [(hc live isOpen).waiting held]
    · intro h hh
      nomatch (held.symm.trans (congrArg Program.held hp).symm).trans hh
  | some h =>
    have bound : Ensures (fun s => Showing h base bs s ∧ (s.program p).held = some h)
        (applyBinding L.engine h ⟨position, value⟩) fun r t =>
          (match r with
            | .ok _ => Showing h base (bs ++ [⟨position, value⟩]) t
            | .error _ => Showing h base bs t) ∧ (t.program p).held = some h :=
      .frame ((applyBinding_showing _).pre fun _ => And.left) fun _ => id
    refine .mapError (bound.imp ?_ ?_)
    · intro s hs
      obtain ⟨⟨hc, live, isOpen⟩, rfl⟩ := hs
      exact ⟨(hc live isOpen).showing h held, held⟩
    · intro r t ht
      cases r with
      | ok _ => exact fun _ _ => .of_held ht.2 ht.1
      | error e => exact fun _ _ => .of_held ht.2 ht.1

/-- After clearing nothing is carried, and nothing of what was found is left. -/
theorem clearBindings_carries :
    Ensures (CarriesWhileUsable p base bs) (clearBindings L.engine p) fun r =>
      match r with
      | .ok _ => CarriesWhileUsable p [] []
      | .error _ => CarriesWhileUsable p base bs := by
  refine Ensures.verifyUsable_bind (fun _ _ => id) ?_
  let F (s : Store (Engines δ)) : Prop := (s.program p).pending = []
  refine .change_bind (M := F) (fun s hs => ?_) (.read_bind fun x => ?_)
  · show ((s.withProgram p _).program p).pending = []
    rw [program_withProgram_self (lt_of_not_closed hs.2.1)]
  cases held : x.held with
  | none =>
    refine .pure ?_
    rintro s ⟨empty, rfl⟩ - -
    refine ⟨fun _ => empty, fun h hh => ?_⟩
    nomatch held.symm.trans hh
  | some h =>
    refine .read_bind fun y => .mapError ?_
    have cleared : Ensures (fun s => s.statement h = y ∧ (s.program p).held = some h)
        (request L.engine y.engine (.clearBindings y.statement)) fun r t =>
          (match r with
            | .ok _ => Showing h [] [] t
            | .error _ => t.slot? h = none) ∧ (t.program p).held = some h :=
      .frame ((clear_showing y).pre fun _ => And.left) fun _ => id
    refine cleared.imp ?_ ?_
    · intro s hs
      obtain ⟨⟨-, rfl⟩, rfl⟩ := hs
      exact ⟨rfl, held⟩
    · intro r t ht
      cases r with
      | ok _ => exact fun _ _ => .of_held ht.2 ht.1
      | error e =>
        refine fun _ _ => .of_held ht.2 fun slot found => ?_
        nomatch ht.1.symm.trans found

section Keeps

variable {σ : Type} {E : Engine σ}

theorem bindValue_keeps_held (position : UInt32) (value : Value) :
    Keeps (fun s => (s.program p).held) (bindValue E p position value) := by
  refine .ite (.throw _) (.bind verifyUsable_keeps fun _ => .bind (.read _) fun x => ?_)
  cases x.held with
  | none => exact .change fun s => program_part s p p (fun x => x.held) fun _ => rfl
  | some h => exact .mapError (.bind (.read _) fun _ _ => rfl)

theorem clearBindings_keeps_held : Keeps (fun s => (s.program p).held) (clearBindings E p) := by
  refine .bind verifyUsable_keeps fun _ => .bind (.change fun s => ?_) fun _ =>
    .bind (.read _) fun x => ?_
  · exact program_part s p p (fun x => x.held) fun _ => rfl
  cases x.held with
  | none => exact .pure _
  | some h => exact .bind (.read _) fun _ => .mapError fun _ => rfl

end Keeps

/-- An operation that compiles a program first, if the program can be used, and then leaves what
it carries. -/
theorem Ensures.compiled_bind {α : Type} {k : CompiledId → Op (Engines δ) ProgramError α}
    (hs : Slotted s) (given : ∀ c, ∀ e ∈ (s.connection c).cache.entries, e.2 < s.compiled.next)
    (hc : CarriesWhileUsable p base bs s)
    (rest : ∀ h, Ensures (fun t => Carries p (found p base s t) bs t) (k h)
      fun _ t => Carries p (found p base s t) bs t) :
    Ensures (· = s)
      (do
        verifyUsable p
        let h ← mapError .engine (ensureCompiled L.engine p)
        k h)
      fun _ t => CarriesWhileUsable p (found p base s t) bs t := by
  refine Ensures.verifyUsable_bind ?_ ?_
  · rintro e t rfl live isOpen
    exact (hc live isOpen).of_kept rfl
  · refine .pre (P := fun t => t = s ∧ (s.program p).isClosed = false ∧
        (s.connection (s.program p).connection).isOpen = true) (.of_fact fun usable => ?_) ?_
    · have compiled := ensureCompiled_carries (L := L) hs usable.1 (given _) (hc usable.1 usable.2)
      exact .bind (Q := fun _ t => Carries p (found p base s t) bs t)
        (.mapError (compiled.post fun _ _ => And.left))
        (fun h => (rest h).post fun _ _ ht _ _ => ht) fun _ _ ht _ _ => ht
    · intro t hs
      obtain ⟨rfl, usable⟩ := hs
      exact ⟨rfl, usable⟩

/-- A program that is compiled carries what it carried, over what it found. -/
theorem compileProgram_carries (hs : Slotted s)
    (given : ∀ c, ∀ e ∈ (s.connection c).cache.entries, e.2 < s.compiled.next)
    (hc : CarriesWhileUsable p base bs s) :
    Ensures (· = s) (compileProgram L.engine p) fun _ t =>
      CarriesWhileUsable p (found p base s t) bs t :=
  Ensures.compiled_bind hs given hc fun _ => .pure fun _ => id

/-- Executing changes no binding. -/
theorem execute_carries (hs : Slotted s)
    (given : ∀ c, ∀ e ∈ (s.connection c).cache.entries, e.2 < s.compiled.next)
    (hc : CarriesWhileUsable p base bs s) :
    Ensures (· = s) (execute L.engine p) fun _ t =>
      CarriesWhileUsable p (found p base s t) bs t := by
  refine Ensures.compiled_bind hs given hc fun _ => .read_bind fun x => ?_
  cases x.held with
  | some h =>
    refine .read_bind fun y => .mapError ?_
    intro t ht
    refine ⟨ht.1.1.waiting, fun k hk => ?_⟩
    exact (ht.1.1.showing k hk).congr (Engines.slot?_executed _)
  | none => exact .throw fun t ht => ht.1

theorem CarriesWhileUsable.of_closed (closed : (s.program p).isClosed = true) :
    CarriesWhileUsable p base bs s := by
  intro live
  exact absurd (closed.symm.trans live) (by decide)

theorem CarriesWhileUsable.of_kept (hc : CarriesWhileUsable p base bs t)
    (held : (t.program p).held = (s.program p).held) :
    CarriesWhileUsable p (found p base s t) bs t :=
  fun live isOpen => (hc live isOpen).of_kept held

/-- A program that is created and compiled carries nothing. -/
theorem createCompiled_carries (hs : Slotted s) (sql : String)
    (given : ∀ c, ∀ e ∈ (s.connection c).cache.entries, e.2 < s.compiled.next) :
    Ensures (· = s) (createCompiled L.engine c sql) fun _ t =>
      CarriesWhileUsable s.programs.next (found s.programs.next base s t) [] t := by
  let p := s.programs.next
  have absent : s.program p = default := Table.get_of_le _ (Nat.le_refl _)
  by_cases h : (s.connection c).isOpen = false ∨ ¬ (s.connection c).Grants
  · obtain ⟨e, run⟩ := createDeferred_error sql h
    intro t same
    subst same
    unfold createCompiled
    rw [run_bind, run]
    refine .of_closed ?_
    show (t.program p).isClosed = true
    rw [absent]
    rfl
  · rw [not_or, Bool.not_eq_false, not_not] at h
    -- the program is compiled in the store that it was created in
    have run := createDeferred_ok sql h.1 h.2
    let u := (s.withConnection c fun x => { x with references := x.references + 1 }).created c sql
    have new : u.program p =
        { connection := c, sql := Text.trim sql, kind := Kind.classify (Text.trim sql) } := by
      refine (program_created _ c sql p).trans (if_pos rfl)
    have begun : CarriesWhileUsable p base [] u := by
      intro _ _
      constructor
      · intro _
        rw [new]
      · intro k hk
        rw [new] at hk
        nomatch hk
    have caches (d : ConnectionId) : (u.connection d).cache = (s.connection d).cache :=
      (cache_created _ c d sql).trans (connection_part s c d (fun x => x.cache) fun _ => rfl)
    have compiled := compileProgram_carries (L := L) (s := u) (hs.congr rfl rfl)
      (fun d e he => given d e (caches d ▸ he)) begun
    have same (t : Store (Engines δ)) : found p base u t = found p base s t := by
      unfold found
      rw [new, absent]
      rfl
    have deferred : Ensures (· = s) (createDeferred c sql) fun r t => match r with
        | .ok q => t = u ∧ q = p
        | .error _ => False := by
      intro t same
      rw [same, run]
      exact ⟨rfl, rfl⟩
    refine deferred.bind (fun q => .of_fact fun hq => ?_) fun _ _ => False.elim
    rw [hq]
    refine .attempt_bind (Q := fun _ t => CarriesWhileUsable p (found p base s t) [] t)
      (compiled.post fun r t ht => same t ▸ ht) fun r => ?_
    cases r with
    | ok _ => exact .pure fun _ => id
    | error e =>
      exact .bind (Q := fun _ t => (t.program p).isClosed = true)
        (fun t _ => dropProgram_closes p t) (fun _ => .throw fun t ht => .of_closed ht)
        fun _ t ht => .of_closed ht

end Prepared.Store
