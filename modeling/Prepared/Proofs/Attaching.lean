import Prepared.Proofs.Obtained
import Prepared.Proofs.Quiescence
import Prepared.Proofs.Waiting

/-! Statements that are attached to, and statements that are compiled.

An action that obtains a statement either attaches to an idle cached one, and then all that it asks
for is about that statement, or the first thing it asks for is to compile the text. So a program
that comes to hold a statement which is not new has attached to it. -/
namespace Prepared

/-- Whether a request names a statement of an engine. -/
def Sent.Names (key : EngineId × StatementId) (r : Sent) : Prop :=
  r.engine = key.1 ∧ r.request.target? = some key.2

namespace Store

open Operation

variable {σ ε : Type} {E : Engine σ} {c : ConnectionId} {kind : Kind} {sql : String}
  {h : CompiledId} {p q : ProgramId} {a : Action}

/-- What a program is given for a text is an idle statement, or a new one. -/
theorem acquireFor_ok {s t : Store σ} (acquired : acquireFor E p s = (.ok h, t)) :
    s.idle? (s.program p).connection (s.program p).kind (s.program p).sql = some h ∨
      h = s.compiled.next := by
  cases acquire_cases acquired with
  | attached idle => exact .inl idle
  | compiled => exact .inr rfl

section Requests

variable {s t u : Store (Logged σ)}

/-- All requests that were made name one statement, which is the same as before. -/
structure Addresses (h : CompiledId) (s t : Store (Logged σ)) : Prop where
  native : t.native h = s.native h
  made : Makes (Sent.Names (s.native h)) s t

instance : IsPreorder (Store (Logged σ)) (Addresses h) where
  refl s := ⟨rfl, refl_of (Makes _) s⟩
  trans _ _ _ := fun ⟨same, made⟩ ⟨same', made'⟩ => ⟨same'.trans same, made.trans (same ▸ made')⟩

namespace Addresses

theorem token (s : Store (Logged σ)) (k : CompiledId) (b : Bool) :
    Addresses h s (s.withStatement k fun x => { x with inUse := b }) :=
  ⟨statement_part s k h (fun x => (x.engine, x.statement)) fun _ => rfl, .none rfl⟩

theorem report (e : Event) : Leads (Addresses h) (report e : Op (Logged σ) ε Unit) :=
  fun _ => ⟨rfl, .none rfl⟩

theorem trace (e : Event) : Leads (Addresses h) (trace c e : Op (Logged σ) ε Unit) :=
  .bind (.read _) fun _ => .ite (report e) (.pure ())

theorem destroy : Leads (Addresses h) (destroy E.logged h) := by
  intro s
  cases hd : (s.statement h).destroyed with
  | true =>
    rw [destroy_gone hd]
    exact refl_of (Addresses h) s
  | false =>
    rw [destroy_live hd]
    have same : (s.struck E.logged h).native h = s.native h :=
      statement_part s h h (fun x => (x.engine, x.statement)) fun _ => rfl
    exact ⟨same, .one rfl ⟨rfl, rfl⟩⟩

theorem relinquish : Leads (Addresses h) (relinquish E.logged c h) :=
  .bind (.read _) fun _ => .bind (.read _) fun _ => .ite
    (.bind (fun s => token s h false) fun _ => trace _) (.bind (trace _) fun _ => destroy)

theorem replay (bs : List Binding) : Leads (Addresses h) (replay E.logged h bs) :=
  .untilError (fun _ _ => ⟨rfl, .one rfl ⟨rfl, rfl⟩⟩) bs

theorem abandon : Leads (Addresses h) (abandon E.logged c h : Op (Logged σ) ε Unit) := by
  refine .bind (.read _) fun _ => .bind (.attempt relinquish) fun r => ?_
  cases r with
  | ok _ => exact .pure _
  | error e => exact report _

end Addresses

/-- Without an idle statement the first request is to compile the text, and then nothing is asked
but to destroy statements. -/
theorem acquire_asks (none : s.idle? c kind sql = none) :
    ∃ rest, ((acquire E.logged c kind sql).run s).2.engine.log = s.engine.log ++
      ⟨(s.connection c).engine, .compile sql, (E.logged.run (s.connection c).engine (.compile sql)
        s.engine).1.map (Primitive.issued _)⟩ :: rest ∧ ∀ r ∈ rest, r.request.name = .destroy := by
  cases answer : (E.logged.run (s.connection c).engine (.compile sql) s.engine).1 with
  | error e =>
    have same : (s.looked c kind sql).engine = s.engine := by
      unfold looked
      split <;> rfl
    refine ⟨[], ?_, nofun⟩
    rw [acquire_refused none answer, ← answer]
    show (E.logged.run _ _ (s.looked c kind sql).engine).2.log = _
    rw [same]
    rfl
  | ok n =>
    obtain ⟨t, run, settled⟩ := acquire_compiled none answer
    have calm : Calm E.logged (Strikes (s.grown E.logged c sql n)) :=
      ⟨fun _ _ => id, fun _ _ _ => id, fun _ _ _ => id, fun t k _ hs => hs.trans (.one rfl rfl)⟩
    obtain ⟨rest, grown, struck⟩ := settled _ calm (.none rfl)
    refine ⟨rest, ?_, struck⟩
    rw [run, ← answer]
    exact grown.trans (List.append_assoc ..)

/-- Once a statement was obtained for a program, all requests are about that one. -/
theorem ensureCompiled_addresses (free : (s.program p).held = none) {t : Store (Logged σ)}
    (acquired : acquireFor E.logged p s = (.ok h, t)) :
    Addresses h t ((ensureCompiled E.logged p).run s).2 := by
  have replayed := Addresses.replay (E := E) (h := h) (s.program p).pending t
  rcases hr : (replay E.logged h (s.program p).pending).run t with ⟨e | _, v⟩ <;>
    rw [hr] at replayed
  · rw [ensureCompiled_unbound free acquired hr]
    exact trans_of (Addresses h) replayed (Addresses.abandon v)
  · rw [ensureCompiled_obtained free acquired hr]
    exact ⟨replayed.native, replayed.made⟩

/-- Once an action was given a statement, all that it asks for is about that one, and if it succeeds
its program holds the statement. -/
theorem Action.Procures.addresses (way : Action.Procures E.logged s c kind sql a q u)
    (acquired : acquireFor E.logged q u = (.ok h, t)) :
    Addresses h t (a.perform E.logged s).2 ∧ ((a.perform E.logged s).1 = true →
      ((a.perform E.logged s).2.program q).held = some h) := by
  have addressed := ensureCompiled_addresses way.free acquired
  rcases replayed : (replay E.logged h (u.program q).pending).run t with ⟨e | _, w⟩
  · have ensured := ensureCompiled_unbound way.free acquired replayed
    rw [ensured] at addressed
    obtain ⟨failed, same | ⟨nothing, -⟩⟩ := way.failed _ _ ensured
    · rw [failed, same]
      exact ⟨addressed, nofun⟩
    -- without waiting bindings nothing can be refused
    · rw [nothing] at replayed
      cases (Prod.mk.inj replayed).1
  · have ensured := ensureCompiled_obtained way.free acquired replayed
    rw [ensured] at addressed
    let v := w.withProgram q fun x => { x with held := some h, pending := [] }
    have held : (v.program q).held = some h := by
      have bare : w.bare = u.bare := by
        have kept : ((replay E.logged h (u.program q).pending).run t).2.bare = t.bare :=
          replay_keeps t
        rw [replayed] at kept
        exact kept.trans (bare_acquired acquired)
      have exists_ : q < w.programs.next :=
        Nat.lt_of_lt_of_eq (lt_of_not_closed way.active.live)
          (congrArg (fun b => b.1.next) bare).symm
      rw [program_withProgram_self exists_]
    rcases way.obtained _ _ ensured with same | same <;> rw [same]
    · exact ⟨addressed, fun _ => held⟩
    · have asked : Addresses h v (v.asked E.logged (v.statement h).engine
          (.execute (v.statement h).statement)) := ⟨rfl, .one rfl ⟨rfl, rfl⟩⟩
      exact ⟨trans_of (Addresses h) addressed asked, fun _ => held⟩

theorem Action.Procures.acquireFor {E : Engine σ} {s u : Store σ}
    (way : Action.Procures E s c kind sql a q u) :
    acquireFor E q u = (acquire E c kind sql).run u := by
  unfold Store.acquireFor
  rw [way.home, way.kind, way.sql]

theorem lookup_engine (d : ConnectionId) (text : String) :
    Keeps Store.engine (lookup d text : Op (Logged σ) ε (Option CompiledId)) := by
  refine .bind (.read _) fun x => ?_
  cases x.cache.peek? (Text.trim text) with
  | none => exact .pure _
  | some k => exact .bind (.change fun _ => rfl) fun _ => .pure _

/-- A binding is asked for at once if the program holds a statement. -/
theorem bindValue_asks (position : UInt32) (value : Value) :
    Makes (fun r => r.request.name = .destroy ∨
      ∃ q h, some p = some q ∧ (s.program q).held = some h ∧ r.Names (s.native h)) s
      ((bindValue E.logged p position value).run s).2 := by
  rcases bindValue_cases E.logged p position value s with ⟨m, run⟩ | ⟨-, -, run⟩ | ⟨h, held, run⟩ <;>
    rw [run]
  · exact .none rfl
  · exact .none rfl
  · exact .one rfl (.inr ⟨p, h, rfl, held, rfl, rfl⟩)

/-- Where no statement is idle the first thing that an action asks for is to compile the text. What
else it asks for is about the new statement, or to destroy statements. -/
theorem Action.compiles (obtains : a.obtains s = some (c, kind, sql))
    (none : s.idle? c kind sql = none) :
    ∃ rest, (a.perform E.logged s).2.engine.log = s.engine.log ++
      ⟨(s.connection c).engine, .compile sql, (E.logged.run (s.connection c).engine (.compile sql)
        s.engine).1.map (Primitive.issued _)⟩ :: rest ∧
      ∀ r ∈ rest, r.request.name = .destroy ∨ Accepts E.logged s c kind sql ∧
        r.Names ((a.perform E.logged s).2.native s.compiled.next) := by
  obtain ⟨q, u, way⟩ := procures (E := E.logged) obtains
  obtain ⟨rest, asked, struck⟩ := acquire_asks (E := E) (way.idle?.trans none)
  rw [way.engine, way.client, ← way.acquireFor] at asked
  suffices follows : Makes (fun r => r.request.name = .destroy ∨ Accepts E.logged s c kind sql ∧
      r.Names ((a.perform E.logged s).2.native s.compiled.next)) (Store.acquireFor E.logged q u).2
      (a.perform E.logged s).2 by
    obtain ⟨made, log, all⟩ := follows
    refine ⟨rest ++ made, by rw [log, asked, List.append_assoc, List.cons_append], fun r hr => ?_⟩
    exact (List.mem_append.1 hr).elim (fun hr => .inl (struck r hr)) (all r)
  rcases acquired : Store.acquireFor E.logged q u with ⟨e | h, t⟩
  · rcases (way.failed e t (ensureCompiled_refused way.free acquired)).2 with after | ⟨-, after⟩ <;>
      rw [after]
    · exact .none rfl
    · exact (strikes_dropProgram (E := E) (ε := ProgramError) t).imp fun _ => .inl
  · have given : h = s.compiled.next := by
      rcases acquireFor_ok acquired with idle | new
      · rw [way.home, way.kind, way.sql, way.idle?, none] at idle
        nomatch idle
      · rw [new, way.compiled]
    have addressed := (way.addresses acquired).1
    have accepted : Accepts E.logged s c kind sql := by
      by_contra refused
      obtain ⟨-, e, answer⟩ := refused_of_not_accepts refused
      rw [way.acquireFor, acquire_refused (way.idle?.trans none) (way.answer ▸ answer)] at acquired
      cases (Prod.mk.inj acquired).1
    rw [← given, addressed.native]
    exact addressed.made.imp fun _ named => .inr ⟨accepted, named⟩

/-- Where a statement is idle an action asks for nothing but about this one, and if it succeeds the
program that it works for holds the statement. -/
theorem Action.attaches (obtains : a.obtains s = some (c, kind, sql))
    (idle : s.idle? c kind sql = some h) :
    Makes (Sent.Names (s.native h)) s (a.perform E.logged s).2 ∧
      ((a.perform E.logged s).1 = true → ∀ p, a.actor s = some p →
        ((a.perform E.logged s).2.program p).held = some h) := by
  obtain ⟨q, u, way⟩ := procures (E := E.logged) obtains
  obtain ⟨es, run⟩ := acquire_attached (E := E.logged) (way.idle?.trans idle)
  let v : Store (Logged σ) := { u.attached c sql h with events := u.events ++ es }
  obtain ⟨addressed, held⟩ := way.addresses (way.acquireFor.trans run)
  have begun : Makes (Sent.Names (s.native h)) s v := .none (congrArg Logged.log way.engine)
  have native : v.native h = s.native h := by
    have taken : v.native h = u.native h :=
      statement_part (u.withCache c (·.touch sql)) h h (fun x => (x.engine, x.statement)) fun _ => rfl
    rw [taken, Store.native, Store.native, Store.statement, way.compiled]
    rfl
  refine ⟨begun.trans (native ▸ addressed.made), fun done p own => ?_⟩
  exact Option.some.inj (way.actor.symm.trans own) ▸ held done

/-- What an action asks for that obtains no statement is to destroy statements, or about the one
that its program holds. -/
theorem Action.asks_of_held (obtains : a.obtains s = none) :
    Makes (fun r => r.request.name = .destroy ∨
      ∃ p h, a.actor s = some p ∧ (s.program p).held = some h ∧ r.Names (s.native h)) s
      (a.perform E.logged s).2 := by
  have strikes {t : Store (Logged σ)} (struck : Strikes s t) :
      Makes (fun r => r.request.name = .destroy ∨
        ∃ p h, a.actor s = some p ∧ (s.program p).held = some h ∧ r.Names (s.native h)) s t :=
    struck.imp fun _ => .inl
  have same {t : Store (Logged σ)} (kept : t = s) :
      Makes (fun r => r.request.name = .destroy ∨
        ∃ p h, a.actor s = some p ∧ (s.program p).held = some h ∧ r.Names (s.native h)) s t :=
    .none (congrArg (fun t => t.engine.log) kept)
  cases a with
  | openConnection i settings =>
    show Makes _ s ((Store.openConnection i settings).run s).2
    unfold Store.openConnection
    cases settings.validate <;> exact .none rfl
  | openDefault i => exact .none rfl
  | cloneConnection d => exact .none rfl
  | dropConnection d => exact strikes (strikes_dropConnection (ε := Empty) s)
  | closeConnection d order => exact strikes (strikes_closeInOrder s)
  | acquireReference d => exact strikes (strikes_acquireReference s)
  | releaseReference d => exact strikes (strikes_releaseReference s)
  | lookup d text => exact .none (congrArg Logged.log (lookup_engine (ε := Empty) d text s))
  | giveBack k => exact strikes (strikes_giveBack (ε := Empty) s)
  | evict d text => exact strikes (strikes_evict s)
  | setCapacity d n => exact strikes (strikes_setCapacity s)
  | createDeferred d text => exact strikes (strikes_createDeferred s)
  | createCompiled d text => exact same (createCompiled_kept obtains)
  | bindValue q position value => exact bindValue_asks position value
  | bindPresent q position value =>
    cases value with
    | none => exact .none rfl
    | some v => exact bindValue_asks position v
  | clearBindings q =>
    show Makes _ s ((Store.clearBindings E.logged q).run s).2
    rcases clearBindings_cases E.logged q s with ⟨m, run⟩ | ⟨-, -, run⟩ | ⟨k, held, run⟩ <;> rw [run]
    · exact .none rfl
    · exact .none rfl
    · exact .one rfl (.inr ⟨q, k, rfl, held, rfl, rfl⟩)
  | compile q => exact same (compile_kept obtains)
  | execute q =>
    rcases not_obtains_program obtains with ⟨e, unusable⟩ | ⟨k, held, verified⟩
    · exact same (congrArg Prod.snd (execute_unusable unusable))
    · have run := execute_obtained verified (ensureCompiled_held (E := E.logged) held)
      show Makes _ s ((Store.execute E.logged q).run s).2
      rw [run]
      exact .one rfl (.inr ⟨q, k, rfl, held, rfl, rfl⟩)
  | closeProgram q => exact strikes (strikes_tearDown s)
  | dropProgram q => exact strikes (strikes_dropProgram (ε := Empty) s)

end Requests

section Held

variable {s u : Store σ}

/-- What a program is given for a text is a statement with this text, if those in the cache are. -/
theorem acquireFor_text {t : Store σ} (acquired : acquireFor E p s = (.ok h, t))
    (entries : ∀ k, ((s.program p).sql, k) ∈
      (s.connection (s.program p).connection).cache.entries →
        (s.statement k).sql = (s.program p).sql) :
    (t.statement h).sql = (s.program p).sql := by
  have calm (k : CompiledId) : Calm E fun u => (u.statement k).sql = (s.program p).sql :=
    .statement E k (fun x => x.sql) (fun _ _ _ => rfl) _
  cases acquire_cases acquired with
  | attached idle es =>
    exact (calm h).attached es (entries h (Cache.mem_of_peek? (peek?_of_idle idle).2.1))
  | compiled none answer settled =>
    refine settled _ (calm _) ?_
    rw [statement_grown, if_pos rfl]

/-- A program that comes to hold a statement was given it. -/
theorem ensureCompiled_holds (free : (s.program p).held = none)
    (held : (((ensureCompiled E p).run s).2.program p).held = some h) :
    ∃ v, acquireFor E p s = (.ok h, v) ∧ ((ensureCompiled E p).run s).2.compiled = v.compiled ∧
      ((ensureCompiled E p).run s).2.program p = (s.program p).obtain h := by
  -- nothing but the end of it gives the program a statement
  have unheld {t : Store σ} (bare : t.bare = s.bare) (held : (t.program p).held = some h) :
      False := by
    have same : t.program p = s.program p := program_of_bare bare p
    rw [same, free] at held
    nomatch held
  have acquires : (acquireFor E p s).2.bare = s.bare := keeps_acquire s
  rcases acquired : acquireFor E p s with ⟨e | k, v⟩ <;> rw [acquired] at acquires
  · rw [ensureCompiled_refused free acquired] at held
    exact (unheld acquires held).elim
  · have replays : ((replay E k (s.program p).pending).run v).2.bare = v.bare := replay_keeps v
    have compiled : Keeps Store.compiled (replay E k (s.program p).pending) :=
      .untilError (fun _ => .bind (.read _) fun _ _ => rfl) _
    have kept := compiled v
    rcases replayed : (replay E k (s.program p).pending).run v with ⟨e | _, w⟩ <;>
      rw [replayed] at replays kept
    · rw [ensureCompiled_unbound free acquired replayed] at held
      exact (unheld ((abandon_keeps w).trans (replays.trans acquires)) held).elim
    · rw [ensureCompiled_obtained free acquired replayed] at held ⊢
      have exists_ := lt_of_held held
      rw [next_withProgram] at exists_
      have own : w.program p = s.program p :=
        program_of_bare (replays.trans acquires) p
      rw [program_withProgram_self exists_, own] at held ⊢
      cases held
      exact ⟨v, rfl, kept, rfl⟩

/-- An action that obtains no statement closes the program it acts for, or leaves it with what it
holds. -/
theorem Action.held_of_not_obtains (obtains : a.obtains s = none) (own : a.actor s = some p) :
    ((a.perform E s).2.program p).held = (s.program p).held ∨
      ((a.perform E s).2.program p).isClosed = true := by
  have same (after : (a.perform E s).2 = s) :
      ((a.perform E s).2.program p).held = (s.program p).held :=
    congrArg (fun t => (t.program p).held) after
  cases a with
  | bindValue q position value =>
    obtain rfl := Option.some.inj own
    exact .inl (bindValue_keeps_held position value s)
  | bindPresent q position value =>
    obtain rfl := Option.some.inj own
    cases value with
    | none => exact .inl rfl
    | some v => exact .inl (bindValue_keeps_held position v s)
  | clearBindings q =>
    obtain rfl := Option.some.inj own
    exact .inl (clearBindings_keeps_held s)
  | compile q => exact .inl (same (Action.compile_kept obtains))
  | execute q =>
    rcases Action.execute_kept (E := E) obtains with kept | ⟨i, r, kept⟩
    · exact .inl (same kept)
    · exact .inl (congrArg (fun t => (t.program p).held) kept)
  | closeProgram q =>
    obtain rfl := Option.some.inj own
    exact .inr (tearDown_closes true q s)
  | dropProgram q =>
    obtain rfl := Option.some.inj own
    exact .inr (dropProgram_closes (ε := Empty) q s)
  | createCompiled c sql => exact .inl (same (Action.createCompiled_kept obtains))
  | _ => nomatch own

/-- A program that comes to hold a statement does so in an action that obtains one for it. -/
theorem Run.gains {e : σ} {past : List (Step σ)} (run : Run E e past s) (allowed : a.Allowed s)
    (held : ((a.perform E s).2.program p).held = some h) (before : (s.program p).held ≠ some h) :
    ∃ c kind sql u, a.obtains s = some (c, kind, sql) ∧ Action.Procures E s c kind sql a p u ∧
      (a.perform E s).2.programs = ((ensureCompiled E p).run u).2.programs ∧
      (a.perform E s).2.compiled = ((ensureCompiled E p).run u).2.compiled := by
  have idle : Grip.Idle { connection := 0 } := ⟨rfl, rfl, rfl, rfl⟩
  have custody := ((run.step a allowed).sound idle).custody
  have unclosed (closed : ((a.perform E s).2.program p).isClosed = true) : False := by
    have none := custody.closed p closed
    exact nomatch none.symm.trans held
  by_cases own : a.actor s = some p
  · cases obtains : a.obtains s with
    | some key =>
      obtain ⟨c, kind, sql⟩ := key
      obtain ⟨q, u, way⟩ := Action.procures (E := E) obtains
      obtain rfl := Option.some.inj (way.actor.symm.trans own)
      refine ⟨c, kind, sql, u, rfl, way, ?_⟩
      rcases hr : (ensureCompiled E q).run u with ⟨e | k, t⟩
      · rcases (way.failed e t hr).2 with after | ⟨-, after⟩
        · exact after ▸ ⟨rfl, rfl⟩
        · rw [after] at unclosed
          exact (unclosed (dropProgram_closes q t)).elim
      · rcases way.obtained k t hr with after | after <;> rw [after] <;> exact ⟨rfl, rfl⟩
    | none =>
      rcases Action.held_of_not_obtains (E := E) obtains own with same | closed
      · exact (before (same.symm.trans held)).elim
      · exact (unclosed closed).elim
  · have moves := a.moves (E := E) (run.sound (a.entry_idle s)).registered allowed
    obtain ⟨-, same, -⟩ := moves.program_of_live own (custody.live_of_held held)
    exact (before (same.symm.trans held)).elim

/-- A program that comes to hold a statement which is not new has attached to it. -/
theorem Run.attached {e : σ} {past : List (Step σ)} (run : Run E e past s) (allowed : a.Allowed s)
    (held : ((a.perform E s).2.program p).held = some h) (old : h < s.compiled.next)
    (before : (s.program p).held ≠ some h) :
    ∃ c kind sql, a.obtains s = some (c, kind, sql) ∧ s.idle? c kind sql = some h := by
  obtain ⟨c, kind, sql, u, obtains, way, programs, -⟩ := run.gains allowed held before
  refine ⟨c, kind, sql, obtains, ?_⟩
  have ensured : (((ensureCompiled E p).run u).2.program p).held = some h := by
    unfold program at held ⊢
    rwa [← programs]
  obtain ⟨v, acquired, -⟩ := ensureCompiled_holds way.free ensured
  have given := acquireFor_ok acquired
  rw [way.home, way.kind, way.sql, way.compiled] at given
  rw [← way.idle?]
  exact given.resolve_right (Nat.ne_of_lt old)

/-- What a program holds is a statement with its text. -/
theorem Run.holds_text {e : σ} {past : List (Step σ)} (run : Run E e past s)
    (held : (s.program p).held = some h) : (s.statement h).sql = (s.program p).sql := by
  induction run with
  | start => nomatch held
  | @step past s a run allowed ih =>
    have sound : Sound ⟨s, { connection := 0 }⟩ := run.sound ⟨rfl, rfl, rfl, rfl⟩
    have extends_ : Extends s (a.perform E s).2 := run.step_extends allowed
    by_cases before : (s.program p).held = some h
    · rw [extends_.statement_sql (sound.homes.held p h before).exists_,
        extends_.text p (lt_of_held before)]
      exact ih before
    · obtain ⟨c, kind, sql, u, -, way, programs, compiled⟩ := run.gains allowed held before
      unfold program at held
      unfold program statement
      rw [programs] at held ⊢
      rw [compiled]
      obtain ⟨v, acquired, same, own⟩ := ensureCompiled_holds way.free held
      have text : (v.statement h).sql = (u.program p).sql := by
        refine acquireFor_text acquired fun k stored => ?_
        rw [way.home, way.sql, way.cache] at stored
        rw [way.sql, statement, way.compiled]
        exact (sound.homes.entry c _ stored).2
      have kept : (((ensureCompiled E p).run u).2.program p).sql = (u.program p).sql := by
        rw [own]
        rfl
      rw [same]
      exact text.trans kept.symm

end Held

end Store

end Prepared
