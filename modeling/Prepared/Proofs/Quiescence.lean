import Prepared.Proofs.Bookkeeping
import Prepared.Proofs.Leaks
import Prepared.Proofs.Lifecycle
import Prepared.Proofs.Receding

/-! Quiescence.

A connection that was closed stays closed, and all that its engine is still asked on its behalf
is to destroy statements. An operation looks whether its connection is open before it has
anything compiled, bound, cleared or executed, so this is read off its moves. The step that
closes a connection is another matter, since it begins with the connection open: the operations
that may close one never ask for anything else. -/
namespace Prepared.Store

open Operation

variable {σ ε : Type} {E : Engine σ}

/-! What is asked between two stores. -/

section Requests

variable {s t u : Store (Logged σ)} {P Q : Sent → Prop} {c d : ConnectionId} {r : Sent}

/-- Whether a request was made for a connection: its engine was asked, and the statement that the
request names or gave out is one of the connection. -/
structure Serves (t : Store (Logged σ)) (c : ConnectionId) (r : Sent) : Prop where
  exists_ : c < t.connections.next
  engine : r.engine = (t.connection c).engine
  subject : ∀ key, r.subject? = some key →
    ∃ h < t.compiled.next, (t.statement h).connection = c ∧ t.native h = key

/-- What was made for a connection was made for it in every later store. -/
theorem Serves.later (hr : Serves s c r) (he : Extends s t) : Serves t c r where
  exists_ := Nat.lt_of_lt_of_le hr.exists_ he.connections
  engine := hr.engine.trans (he.engine c hr.exists_).symm
  subject key hk := by
    obtain ⟨h, given, home, native⟩ := hr.subject key hk
    exact ⟨h, Nat.lt_of_lt_of_le given he.compiled, (he.statement_connection given).trans home,
      (he.native given).trans native⟩

/-- All requests that were made between two stores are of a kind. -/
def Makes (P : Sent → Prop) (s t : Store (Logged σ)) : Prop :=
  ∃ made, t.engine.log = s.engine.log ++ made ∧ ∀ r ∈ made, P r

namespace Makes

theorem none (log : t.engine.log = s.engine.log) : Makes P s t :=
  ⟨[], log.trans (List.append_nil _).symm, nofun⟩

theorem one (log : t.engine.log = s.engine.log ++ [r]) (hr : P r) : Makes P s t :=
  ⟨[r], log, fun _ hx => List.mem_singleton.1 hx ▸ hr⟩

theorem trans (h : Makes P s t) (k : Makes P t u) : Makes P s u := by
  obtain ⟨xs, log, all⟩ := h
  obtain ⟨ys, log', all'⟩ := k
  refine ⟨xs ++ ys, by rw [log', log, List.append_assoc], fun r hr => ?_⟩
  exact (List.mem_append.1 hr).elim (all r) (all' r)

theorem imp (h : Makes P s t) (hPQ : ∀ r, P r → Q r) : Makes Q s t := by
  obtain ⟨made, log, all⟩ := h
  exact ⟨made, log, fun r hr => hPQ r (all r hr)⟩

theorem requests (h : Makes P s t) : ∀ r ∈ t.engine.log.drop s.engine.log.length, P r := by
  obtain ⟨made, log, all⟩ := h
  rw [log, List.drop_left]
  exact all

end Makes

instance : IsPreorder (Store (Logged σ)) (Makes P) where
  refl _ := .none rfl
  trans _ _ _ := .trans

/-- Nothing was asked but to destroy statements. -/
abbrev Strikes (s t : Store (Logged σ)) : Prop :=
  Makes (fun r => r.request.name = .destroy) s t

/-- What is not to destroy a statement is asked for the connection that is worked on, and only
while it is open. -/
theorem Move.makes {a b : Moment (Logged σ)} (sound : Sound a) (hm : Move E.logged a b) :
    Makes (fun r => r.request.name = .destroy ∨
      ((a.store.connection a.grip.connection).isOpen = true ∧
        Serves b.store a.grip.connection r)) a.store b.store := by
  cases hm with
  | @refuse s g sql e isOpen answer =>
    change (E.run (s.connection g.connection).engine (.compile sql) s.engine.inner).1 = .error e
      at answer
    refine .one rfl (.inr ⟨isOpen, lt_of_isOpen isOpen, rfl, fun key hk => ?_⟩)
    rw [answer] at hk
    nomatch hk
  | @compile s g sql n isOpen free answer =>
    change (E.run (s.connection g.connection).engine (.compile sql) s.engine.inner).1 = .ok n
      at answer
    have given : s.compiled.next < (s.grown E.logged g.connection sql n).compiled.next :=
      Nat.lt_of_lt_of_eq (Nat.lt_succ_self _) (Table.next_push ..).symm
    have new := statement_grown E.logged g.connection sql n s s.compiled.next
    rw [if_pos rfl] at new
    refine .one rfl (.inr ⟨isOpen, lt_of_isOpen isOpen, rfl,
      fun key hk => ⟨s.compiled.next, given, ?_, ?_⟩⟩)
    · rw [new]
    · rw [answer] at hk
      cases hk
      show (Compiled.engine _, Compiled.statement _) = _
      rw [new]
  | @use s g h r isOpen about used held =>
    have hb : Belongs s h g.connection := by
      rcases held with hh | ⟨p, -, hp, hc⟩
      · exact sound.homes.hand h hh
      · exact hc ▸ sound.homes.held p h hp
    refine .one rfl (.inr ⟨isOpen, lt_of_isOpen isOpen, ?_,
      fun key hk => ⟨h, hb.exists_, hb.home, ?_⟩⟩)
    · exact hb.home ▸ sound.rooted.engine h hb.exists_
    · rw [Sent.subject?_of_target about] at hk
      exact Option.some.inj hk
  | destroyLoose | destroyHand | destroyReturned => exact .one rfl (.inl rfl)
  | _ => exact .none rfl

/-- Whether a connection exists and is not open. -/
structure Shut (s : Store σ) (c : ConnectionId) : Prop where
  exists_ : c < s.connections.next
  closed : (s.connection c).isOpen = false

theorem Shut.move {a b : Moment σ} (h : Shut a.store c) (hm : Move E a b) : Shut b.store c where
  exists_ := Nat.lt_of_lt_of_le h.exists_ hm.extends.connections
  closed := hm.closed h.exists_ h.closed

/-- Whether no reference to a connection is left. -/
structure Released (s : Store σ) (c : ConnectionId) : Prop where
  exists_ : c < s.connections.next
  references : (s.connection c).references = 0

/-- A reference is taken only where there is one. -/
theorem Released.move {a b : Moment σ} (h : Released a.store c) (hm : Move E a b) :
    Released b.store c where
  exists_ := Nat.lt_of_lt_of_le h.exists_ hm.extends.connections
  references := by
    have none := h.references
    cases hm with
    | reorder | store | clear | deregister | shut | dropClone | clone =>
      refine Eq.trans ?_ none
      exact references_withConnection _ _ c fun _ => rfl
    | take some =>
      rw [connection_withConnection, if_neg]
      · exact none
      · rintro ⟨rfl, -⟩
        exact some none
    | release _ held =>
      rw [connection_withConnection, if_neg]
      · exact none
      · rintro ⟨rfl, -⟩
        exact absurd (none.symm.trans held) (Nat.succ_ne_zero _).symm
    | retire =>
      rw [connection_withConnection]
      split
      · rfl
      · exact none
    | @create s g k sql =>
      refine Eq.trans ?_ none
      exact connection_part _ g.connection c (fun x => x.references) fun _ => rfl
    | connect =>
      rw [connection_pushed, if_neg (Nat.ne_of_lt h.exists_)]
      exact none
    | _ => exact none

end Requests

/-! The operations that may close a connection ask for nothing but destructions. -/

section Strikes

variable {c : ConnectionId} {h : CompiledId} {p : ProgramId} {sql : String}

theorem strikes_change {f : Store (Logged σ) → Store (Logged σ)}
    (hf : ∀ s, (f s).engine = s.engine) :
    Leads Strikes (change f : Op (Logged σ) ε Unit) :=
  fun s => .none (congrArg Logged.log (hf s))

theorem strikes_report {e : Event} : Leads Strikes (report e : Op (Logged σ) ε Unit) :=
  strikes_change fun _ => rfl

theorem strikes_trace {e : Event} : Leads Strikes (trace c e : Op (Logged σ) ε Unit) :=
  .bind (.read _) fun _ => .ite strikes_report (.pure ())

theorem strikes_onCache {α : Type} {f : Cache CompiledId → α × Cache CompiledId} :
    Leads Strikes (onCache c f : Op (Logged σ) ε α) :=
  fun _ => .none rfl

theorem strikes_destroy : Leads Strikes (destroy E.logged h) :=
  .bind (.read _) fun _ => .ite (.pure _) (.bind (strikes_change fun _ => rfl) fun _ _ =>
    .one rfl rfl)

theorem strikes_discard : Leads Strikes (discard E.logged h) :=
  .bind (.read _) fun _ => .ite strikes_report (.bind strikes_report fun _ => strikes_destroy)

theorem strikes_dropUnreferenced :
    Leads Strikes (dropUnreferenced E.logged h : Op (Logged σ) ε Unit) := by
  refine .bind (.read _) fun _ => .bind (.read _) fun _ => .ite (.pure _)
    (.bind (.attempt strikes_destroy) fun r => ?_)
  cases r with
  | ok _ => exact .pure _
  | error e => exact strikes_report

theorem strikes_relinquish : Leads Strikes (relinquish E.logged c h) :=
  .bind (.read _) fun _ => .bind (.read _) fun _ => .ite
    (.bind (strikes_change fun _ => rfl) fun _ => strikes_trace)
    (.bind strikes_trace fun _ => strikes_destroy)

theorem strikes_relinquishHeld : Leads Strikes (relinquishHeld E.logged p) := by
  refine .bind (.read _) fun x => ?_
  cases x.held with
  | none => exact .pure _
  | some h => exact .bind (strikes_change fun _ => rfl) fun _ => strikes_relinquish

theorem strikes_releaseReference : Leads Strikes (releaseReference E.logged c) := by
  have retire : Leads Strikes (retire E.logged c) :=
    .bind (strikes_change fun _ => rfl) fun _ => .bind strikes_onCache fun _ =>
      .bind strikes_trace fun _ => .forAll (fun _ => strikes_destroy) _
  exact .bind (.read _) fun _ => .ite (.pure _)
    (.bind (strikes_change fun _ => rfl) fun _ => .ite retire (.pure _))

theorem strikes_tearDown {unlist : Bool} : Leads Strikes (tearDown E.logged unlist p) := by
  have deregister : Leads Strikes (deregister p : Op (Logged σ) EngineError Unit) :=
    .bind (.read _) fun _ => strikes_change fun _ => rfl
  refine .bind (strikes_change fun _ => rfl) fun _ => .bind (.read _) fun x => .ite (.pure _)
    (.bind (strikes_change fun _ => rfl) fun _ => .both strikes_relinquishHeld ?_)
  cases unlist with
  | true => exact .bind deregister fun _ => strikes_releaseReference
  | false => exact strikes_releaseReference

theorem strikes_dropConnectionIfUnreferenced :
    Leads Strikes (dropConnectionIfUnreferenced E.logged c : Op (Logged σ) ε Unit) :=
  .bind (.read _) fun _ => .ite (.pure _) (.bind strikes_onCache fun _ =>
    .forAll (fun _ => strikes_dropUnreferenced) _)

theorem strikes_dropProgram :
    Leads Strikes (dropProgram E.logged p : Op (Logged σ) ε Unit) := by
  have dropped : Leads Strikes (change (·.withProgram p fun x => { x with isDropped := true }) :
      Op (Logged σ) ε Unit) := strikes_change fun _ => rfl
  refine .bind (.read _) fun x => .bind (.attempt strikes_tearDown) fun r => ?_
  cases r with
  | ok _ => exact .bind dropped fun _ => strikes_dropConnectionIfUnreferenced
  | error e =>
    exact .bind strikes_report fun _ => .bind dropped fun _ => strikes_dropConnectionIfUnreferenced

theorem strikes_acquireReference :
    Leads Strikes (acquireReference c : Op (Logged σ) ProgramError Unit) :=
  .bind (.read _) fun _ => .ite (.throw _) (.ite (.throw _) (strikes_change fun _ => rfl))

theorem strikes_createDeferred :
    Leads Strikes (createDeferred c sql : Op (Logged σ) ProgramError ProgramId) :=
  .bind (.bind (.read _) fun _ => .ite (.pure _) (.throw _)) fun _ =>
    .bind strikes_acquireReference fun _ => .bind (.read _) fun _ =>
    .bind (strikes_change fun _ => rfl) fun _ =>
      .bind (strikes_change fun _ => rfl) fun _ => .pure _

theorem strikes_dropConnection :
    Leads Strikes (dropConnection E.logged c : Op (Logged σ) ε Unit) :=
  .bind (strikes_change fun _ => rfl) fun _ => strikes_dropConnectionIfUnreferenced

theorem strikes_giveBack : Leads Strikes (giveBack E.logged h : Op (Logged σ) ε Unit) :=
  .bind (strikes_change fun _ => rfl) fun _ => strikes_dropUnreferenced

theorem strikes_evict : Leads Strikes (evict E.logged c sql) := by
  refine .bind strikes_onCache fun out => ?_
  cases out with
  | none => exact .pure _
  | some h => exact .bind strikes_discard fun _ => .pure _

theorem strikes_setCapacity {n : Nat} : Leads Strikes (setCapacity E.logged c n) :=
  .ite (.throw _) (.bind (.read _) fun _ => .ite (.throw _) (.bind strikes_onCache fun _ =>
    .mapError (.forAll (fun _ => strikes_discard) _)))

theorem strikes_closeInOrder {order : List ProgramId} :
    Leads Strikes (closeInOrder E.logged c order) :=
  .bind (.read _) fun _ => .ite (.bind (strikes_change fun _ => rfl) fun _ =>
    .bind strikes_trace fun _ => .both (.forAll (fun _ => strikes_tearDown) _)
      strikes_releaseReference) (.pure _)

end Strikes

section Actions

/-- Creating a program adds a reference, and it is the only one given back if the program cannot
be compiled. -/
theorem createCompiled_stays_open {s : Store σ} {c d : ConnectionId} {sql : String}
    (absent : s.programs.next ∉ (s.account d).programs)
    (isOpen : (s.connection c).isOpen = true) :
    (((createCompiled E d sql).run s).2.connection c).isOpen = true := by
  rcases hr : (createCompiled E d sql).run s with ⟨e | p, t⟩
  · have books := Entry.createCompiled_failed absent hr
    exact (congrArg (fun b => (b.1 c).isOpen) books).trans isOpen
  · by_cases h : (s.connection d).isOpen = false ∨ ¬ (s.connection d).Grants
    · obtain ⟨e, refused⟩ := createDeferred_error sql h
      simp only [createCompiled, run_bind, refused] at hr
      cases (Prod.mk.inj hr).1
    rw [not_or, Bool.not_eq_false, not_not] at h
    let u := (s.withConnection d fun x => { x with references := x.references + 1 }).created d sql
    have created : (createDeferred d sql).run s = (.ok s.programs.next, u) :=
      createDeferred_ok sql h.1 h.2
    have kept := compileProgram_keeps (E := E) (p := s.programs.next) u
    rcases hv : (compileProgram E s.programs.next).run u with ⟨_ | _, v⟩ <;> rw [hv] at kept
    · rw [createCompiled_error created hv] at hr
      cases (Prod.mk.inj hr).1
    · rw [createCompiled_ok created hv] at hr
      obtain rfl := (Prod.mk.inj hr).2
      have account : v.account c = u.account c :=
        congrArg (fun b => b.1 c) (books_of_steady kept)
      show (v.account c).isOpen = true
      rw [account, account_created sql (lt_of_isOpen h.1)]
      split <;> exact isOpen

variable {s : Store (Logged σ)} {c : ConnectionId}

/-- In the step that closes a connection nothing is asked but to destroy statements. -/
theorem Action.closing_strikes (listed : Listed s) {a : Action}
    (isOpen : (s.connection c).isOpen = true)
    (closed : ((a.perform E.logged s).2.connection c).isOpen = false) :
    Strikes s (a.perform E.logged s).2 := by
  -- what leaves the books as they are closes nothing
  have unclosed {t : Store (Logged σ)} (books : t.books = s.books)
      (closed : (t.connection c).isOpen = false) : False := by
    have same : (t.account c).isOpen = (s.account c).isOpen :=
      congrArg (fun b => (b.1 c).isOpen) books
    exact absurd (closed.symm.trans (same.trans isOpen)) (by decide)
  cases a with
  | openConnection i settings =>
    show Strikes s ((Store.openConnection i settings).run s).2
    unfold Store.openConnection
    cases settings.validate <;> exact .none rfl
  | openDefault i => exact .none rfl
  | cloneConnection d => exact .none rfl
  | dropConnection d => exact (unclosed (dropConnection_keeps (ε := Empty) s) closed).elim
  | closeConnection d order => exact strikes_closeInOrder s
  | acquireReference d => exact strikes_acquireReference s
  | releaseReference d => exact strikes_releaseReference s
  | lookup d sql => exact (unclosed (lookup_keeps (ε := Empty) sql s) closed).elim
  | giveBack h => exact (unclosed (giveBack_keeps (ε := Empty) h s) closed).elim
  | evict d sql => exact (unclosed (evict_keeps sql s) closed).elim
  | setCapacity d n => exact (unclosed (setCapacity_keeps n s) closed).elim
  | createDeferred d sql => exact strikes_createDeferred s
  | createCompiled d sql =>
    exact absurd (closed.symm.trans (createCompiled_stays_open (listed.absent d) isOpen))
      (by decide)
  | bindValue p position value =>
    exact (unclosed (books_of_steady (bindValue_keeps position value s)) closed).elim
  | bindPresent p position value =>
    cases value with
    | none => exact .none rfl
    | some v => exact (unclosed (books_of_steady (bindValue_keeps position v s)) closed).elim
  | clearBindings p => exact (unclosed (books_of_steady (clearBindings_keeps s)) closed).elim
  | compile p => exact (unclosed (books_of_steady (compileProgram_keeps s)) closed).elim
  | execute p => exact (unclosed (books_of_steady (execute_keeps s)) closed).elim
  | closeProgram p => exact strikes_tearDown s
  | dropProgram p => exact strikes_dropProgram (ε := Empty) s

/-- What an allowed action asks for: to destroy statements, and else nothing but for the connection
that it works on, which is open after it as well. -/
theorem Action.makes (a : Action) (sound : Sound ⟨s, a.entry s⟩) (listed : Listed s)
    (allowed : a.Allowed s) :
    Makes (fun r => r.request.name = .destroy ∨
      (((a.perform E.logged s).2.connection (a.connection s)).isOpen = true ∧
        Serves (a.perform E.logged s).2 (a.connection s) r)) s (a.perform E.logged s).2 := by
  have moves := a.moves (E := E.logged) sound.registered allowed
  cases after : ((a.perform E.logged s).2.connection (a.connection s)).isOpen with
  | true =>
    have served := moves.invariant
      (I := fun m => Sound m ∧ m.grip.connection = a.connection s ∧
        Makes (fun r => r.request.name = .destroy ∨ Serves m.store (a.connection s) r) s m.store)
      (fun m n hm h => by
        obtain ⟨hs, home, made⟩ := h
        refine ⟨hs.step hm, hm.connection.trans home, ?_⟩
        refine (made.imp fun r => Or.imp_right fun hr => hr.later hm.extends).trans ?_
        rw [← home]
        exact (hm.makes hs).imp fun r => Or.imp_right And.right)
      ⟨sound, rfl, .none rfl⟩
    exact served.2.2.imp fun r => Or.imp_right fun hr => ⟨rfl, hr⟩
  | false =>
    suffices strikes : Strikes s (a.perform E.logged s).2 from strikes.imp fun _ => .inl
    rcases a.exists_or_opens (E := E.logged) sound.rooted allowed with exists_ | same | opened
    · cases before : (s.connection (a.connection s)).isOpen with
      | true => exact a.closing_strikes listed before after
      | false =>
        have struck := moves.invariant
          (I := fun m => Sound m ∧ m.grip.connection = a.connection s ∧
            Shut m.store (a.connection s) ∧ Strikes s m.store)
          (fun m n hm h => by
            obtain ⟨hs, home, shut, made⟩ := h
            refine ⟨hs.step hm, hm.connection.trans home, shut.move hm, made.trans ?_⟩
            refine (hm.makes hs).imp fun r hr => hr.resolve_right fun served => ?_
            rw [home, shut.closed] at served
            exact absurd served.1 (by decide))
          ⟨sound, rfl, ⟨exists_, before⟩, .none rfl⟩
        exact struck.2.2.2
    · rw [same]
      exact .none rfl
    · exact absurd (after.symm.trans opened) (by decide)

end Actions

/-- The requests that were made in a step. -/
def Step.requests (x : Step (Logged σ)) : List Sent :=
  x.after.engine.log.drop x.before.engine.log.length

section Runs

variable {e : σ} {past : List (Step (Logged σ))} {s t : Store (Logged σ)} {c : ConnectionId}

theorem Run.shut_later (run : Run E.logged ⟨e, []⟩ past s) {as : List Action}
    (allowed : AllAllowed E.logged as s) (shut : Shut s c) : Shut (performAll E.logged as s) c :=
  run.later (I := fun m => Shut m.store c) allowed (fun _ _ _ => id) (fun _ _ _ hm h => h.move hm)
    (g := { connection := c }) shut

theorem Run.released_later (run : Run E.logged ⟨e, []⟩ past s) {as : List Action}
    (allowed : AllAllowed E.logged as s) (released : Released s c) :
    Released (performAll E.logged as s) c :=
  run.later (I := fun m => Released m.store c) allowed (fun _ _ _ => id)
    (fun _ _ _ hm h => h.move hm) (g := { connection := c }) released

/-- Nothing is compiled for a connection once it is closed. -/
theorem Run.compiled_before (run : Run E.logged ⟨e, []⟩ past s) {as : List Action}
    (allowed : AllAllowed E.logged as s) (shut : Shut s c) :
    ∀ h < (performAll E.logged as s).compiled.next,
      ((performAll E.logged as s).statement h).connection = c → h < s.compiled.next := by
  have all := run.later
    (I := fun m => Shut m.store c ∧
      ∀ h < m.store.compiled.next, (m.store.statement h).connection = c → h < s.compiled.next)
    allowed (fun _ _ _ => id)
    (fun a b _ hm hs => ⟨hs.1.move hm, fun h hh home => by
      rcases Nat.lt_or_ge h a.store.compiled.next with old | new
      · exact hs.2 h old ((hm.extends.statement_connection old).symm.trans home)
      -- a new statement is of an open connection
      · obtain ⟨sql, n, isOpen, -, -, made⟩ := hm.new_statement new hh
        rw [made] at home
        change a.grip.connection = c at home
        rw [home, hs.1.closed] at isOpen
        nomatch isOpen⟩)
    (g := { connection := c }) ⟨shut, fun _ hh _ => hh⟩
  exact all.2

/-- Once a connection is closed, all that is not to destroy a statement is asked for others. -/
theorem Run.makes_later (run : Run E.logged ⟨e, []⟩ past s) {as : List Action}
    (allowed : AllAllowed E.logged as s) (shut : Shut s c) :
    Makes (fun r => r.request.name = .destroy ∨
      ∃ d, d ≠ c ∧ Serves (performAll E.logged as s) d r) s (performAll E.logged as s) := by
  have all := run.later
    (I := fun m => Shut m.store c ∧
      Makes (fun r => r.request.name = .destroy ∨ ∃ d, d ≠ c ∧ Serves m.store d r) s m.store)
    allowed (fun _ _ _ => id)
    (fun a b sound hm hs => by
      refine ⟨hs.1.move hm, ?_⟩
      refine (hs.2.imp fun r => Or.imp_right fun ⟨d, hd, hr⟩ => ⟨d, hd, hr.later hm.extends⟩).trans
        ((hm.makes sound).imp fun r => Or.imp_right fun ⟨isOpen, hr⟩ => ⟨_, ?_, hr⟩)
      intro same
      rw [same, hs.1.closed] at isOpen
      nomatch isOpen)
    (g := { connection := c }) ⟨shut, .none rfl⟩
  exact all.2

/-- In a step after which a connection is closed, all that is not to destroy a statement is asked
for another connection, which is the one that the step works on. -/
theorem Run.step_makes (run : Run E.logged ⟨e, []⟩ past s) {as : List Action}
    (allowed : AllAllowed E.logged as s) {x : Step (Logged σ)}
    (hx : x ∈ steps E.logged as s []) (closed : (x.after.connection c).isOpen = false) :
    ∀ r ∈ x.requests, r.request.name = .destroy ∨
      x.action.connection x.before ≠ c ∧
        Serves (performAll E.logged as s) (x.action.connection x.before) r := by
  obtain ⟨earlier, rest, reached, here, after, -, remaining, ends⟩ := run.split allowed hx
  have made :=
    x.action.makes (E := E) (reached.sound (x.action.entry_idle x.before)) reached.listed here
  have next := reached.step x.action here
  rw [← after] at made next
  rw [ends]
  intro r hr
  refine (made.requests r hr).imp_right fun ⟨isOpen, served⟩ => ⟨fun same => ?_, ?_⟩
  · rw [same, closed] at isOpen
    nomatch isOpen
  · exact served.later (next.later_extends remaining)

/-- A connection that is not open is never open again. From the step on that closes it, nothing
is asked for it but to destroy its statements: what else is asked in any step is for the connection
that the step works on, which is another one, and nothing more is compiled for it. So if the
engines give out no statement twice, every later request about one of its statements is to destroy
it. Once it has no references it is closed and its cache is empty, and this stays so. -/
theorem closed_is_quiescent (run : Run E.logged ⟨e, []⟩ past s)
    (exists_ : c < s.connections.next) {as : List Action} (allowed : AllAllowed E.logged as s)
    (ends : performAll E.logged as s = t) :
    (∀ x ∈ steps E.logged as s [], (x.after.connection c).isOpen = false →
      (t.connection c).isOpen = false ∧
      ∀ r ∈ x.requests, r.request.name = .destroy ∨
        x.action.connection x.before ≠ c ∧ Serves t (x.action.connection x.before) r) ∧
    ((s.connection c).isOpen = false →
      (t.connection c).isOpen = false ∧
      (∀ h < t.compiled.next, (t.statement h).connection = c → h < s.compiled.next) ∧
      (IssuesOnce t.engine.log → ∀ r ∈ t.engine.log.drop s.engine.log.length,
        ∀ h < t.compiled.next, (t.statement h).connection = c →
          r.isAbout (t.native h).1 (t.native h).2 = true → r.request.name = .destroy)) ∧
    ((s.connection c).references = 0 →
      (s.connection c).isOpen = false ∧ (s.connection c).cache.entries = [] ∧
      (t.connection c).references = 0 ∧ (t.connection c).isOpen = false ∧
        (t.connection c).cache.entries = []) := by
  subst ends
  have idle : Grip.Idle { connection := 0 } := ⟨rfl, rfl, rfl, rfl⟩
  have last := run.extend as allowed
  refine ⟨fun x hx closed => ⟨?_, run.step_makes allowed hx closed⟩,
    fun closed => ⟨?_, ?_, fun once r hr h given home about => ?_⟩, fun none => ?_⟩
  · obtain ⟨earlier, rest, reached, here, after, old, remaining, ends⟩ := run.split allowed hx
    have next := reached.step x.action here
    rw [← after] at next
    rw [ends]
    exact (next.shut_later remaining ⟨Nat.lt_of_lt_of_le exists_ old.connections, closed⟩).closed
  · exact (run.shut_later allowed ⟨exists_, closed⟩).closed
  · exact run.compiled_before allowed ⟨exists_, closed⟩
  · rcases (run.makes_later allowed ⟨exists_, closed⟩).requests r hr with destroys | ⟨d, hd, served⟩
    · exact destroys
    -- the request would be about a statement of another connection
    · obtain ⟨k, hk, other, native⟩ := served.subject _ (Sent.isAbout_iff.1 about)
      have same := (last.recorded idle).issued.distinct once given hk native.symm
      rw [same, other] at home
      exact absurd home hd
  · have conserved := run.conserved idle
    have conserved' := last.conserved idle
    have none' := (run.released_later allowed ⟨exists_, none⟩).references
    obtain ⟨closed, empty⟩ := conserved.drained c none
    obtain ⟨closed', empty'⟩ := conserved'.drained c none'
    exact ⟨closed, empty, none', closed', empty'⟩

/-- A closed connection with a reference from outside is used through its clones, its programs and
a statement that was looked up, and more references are given back than were taken. -/
theorem closed_is_quiescent_pinned :
    ∃ past s as t, Run Recording.engine.logged ⟨{}, []⟩ past s ∧ 0 < s.connections.next ∧
      AllAllowed Recording.engine.logged as s ∧ performAll Recording.engine.logged as s = t ∧
      (s.connection 0).isOpen = false ∧ (s.connection 0).references = 1 ∧
      s.engine.log.length < t.engine.log.length ∧ IssuesOnce t.engine.log ∧
      (t.connection 0).isOpen = false ∧
      ∀ r ∈ t.engine.log.drop s.engine.log.length, ∀ h < t.compiled.next,
        (t.statement h).connection = 0 →
          r.isAbout (t.native h).1 (t.native h).2 = true → r.request.name = .destroy := by
  let earlier : List Action :=
    [.openDefault 0, .cloneConnection 0, .acquireReference 0, .createCompiled 0 "INSERT",
      .createDeferred 0 "DELETE", .lookup 0 "INSERT", .closeConnection 0 [0, 1]]
  let later : List Action :=
    [.setCapacity 0 100, .acquireReference 0, .createCompiled 0 "BEGIN", .compile 1,
      .execute 0, .bindValue 0 1 .null, .clearBindings 1, .evict 0 "INSERT",
      .releaseReference 0, .releaseReference 0, .releaseReference 0, .giveBack 0,
      .dropProgram 0, .dropConnection 0]
  have run := Run.ofActions (E := Recording.engine.logged) (e := ⟨{}, []⟩) earlier
    (by decide +kernel)
  have allowed : AllAllowed Recording.engine.logged later
      (performAll Recording.engine.logged earlier { engine := ⟨{}, []⟩ }) := by decide +kernel
  obtain ⟨-, closed, -⟩ := closed_is_quiescent (c := 0) run (by decide +kernel) allowed rfl
  obtain ⟨stays, -, destroys⟩ := closed (by decide +kernel)
  refine ⟨_, _, later, _, run, ?_, allowed, rfl, ?_, ?_, ?_, ?_, stays, destroys ?_⟩ <;>
    decide +kernel

end Runs

end Prepared.Store
