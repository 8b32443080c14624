import Prepared.Proofs.Cache
import Prepared.Proofs.Move
import Prepared.Proofs.Operation

/-! The moves of obtaining and giving up statements.

No operation on statements changes anything about programs, or about connections besides
their caches. The moves of an acquisition bring a statement to hand, those of giving one up
take it away again. -/
namespace Prepared.Store

open Operation

variable {σ ε : Type} {E : Engine σ} {m : Moment σ} {g : Grip}

/-- What a store tells besides its engines, its statements, its caches and its events. -/
def bare (s : Store σ) : Table Program × (ConnectionId → Connection) :=
  (s.programs, fun c => { s.connection c with cache := default })

theorem bare_withCache (s : Store σ) (c : ConnectionId)
    (f : Cache CompiledId → Cache CompiledId) : (s.withCache c f).bare = s.bare := by
  have h (d : ConnectionId) := connection_part s c d (f := fun x => { x with cache := f x.cache })
    (fun x => ({ x with cache := default } : Connection)) fun _ => rfl
  exact Prod.ext rfl (funext h)

/-- A view of stores that shows neither engines nor statements, neither caches nor events. -/
class Aloof {β : Type} (v : Store σ → β) : Prop where
  rest : ∀ s (engine : σ) compiled events, v { s with engine, compiled, events } = v s
  cache : ∀ s c f, v (s.withCache c f) = v s

instance : Aloof (bare (σ := σ)) where
  rest _ _ _ _ := rfl
  cache := bare_withCache

theorem program_of_bare {s t : Store σ} (h : t.bare = s.bare) (p : ProgramId) :
    t.program p = s.program p :=
  congrArg (fun b => b.1.get p) h

theorem isOpen_of_bare {s t : Store σ} (h : t.bare = s.bare) (c : ConnectionId) :
    (t.connection c).isOpen = (s.connection c).isOpen :=
  congrArg (fun b => (b.2 c).isOpen) h

theorem isReferenced_of_bare {s t : Store σ} (h : t.bare = s.bare) (c : ConnectionId) :
    t.isReferenced c = s.isReferenced c :=
  isReferenced_congr (congrArg (fun b => (b.2 c).clones) h) fun p =>
    ⟨congrArg (fun b => (b.1.get p).connection) h, congrArg (fun b => (b.1.get p).isDropped) h⟩

theorem onCache_run {α : Type} (c : ConnectionId) (f : Cache CompiledId → α × Cache CompiledId)
    (s : Store σ) :
    (onCache c f : Op σ ε α).run s =
      (.ok (f (s.connection c).cache).1, s.withCache c fun x => (f x).2) :=
  congrArg (Prod.mk _) (withConnection_congr rfl)

theorem compile_ok {c : ConnectionId} {sql : String} {s : Store σ} {n : StatementId}
    (h : (E.run (s.connection c).engine (.compile sql) s.engine).1 = .ok n) :
    (compile E c sql).run s = (.ok s.compiled.next, s.grown E c sql n) := by
  simp only [compile, run_bind, run_read, request, h, run_change, run_pure]
  rfl

theorem compile_error {c : ConnectionId} {sql : String} {s : Store σ} {e : EngineError}
    (h : (E.run (s.connection c).engine (.compile sql) s.engine).1 = .error e) :
    (compile E c sql).run s =
      (.error e, s.asked E (s.connection c).engine (.compile sql)) := by
  simp only [compile, run_bind, run_read, request, h]
  rfl

theorem claim_taken {h : CompiledId} {s : Store σ} (hu : (s.statement h).inUse = true) :
    (claim h : Op σ ε Bool).run s = (.ok false, s) := by
  simp [claim, hu]

theorem claim_idle {h : CompiledId} {s : Store σ} (hu : (s.statement h).inUse = false) :
    (claim h : Op σ ε Bool).run s =
      (.ok true, s.withStatement h fun x => { x with inUse := true }) := by
  simp only [claim, run_bind, run_read, run_ite, hu]
  rfl

theorem destroy_gone {h : CompiledId} {s : Store σ} (hd : (s.statement h).destroyed = true) :
    (destroy E h).run s = (.ok (), s) := by
  simp [destroy, hd]

theorem destroy_live {h : CompiledId} {s : Store σ} (hd : (s.statement h).destroyed = false) :
    ((destroy E h).run s).2 = s.struck E h := by
  simp only [destroy, run_bind, run_read, run_ite, hd, run_change]
  rfl

section Keeps

variable {β : Type} {v : Store σ → β} [Aloof v] {c : ConnectionId} {h : CompiledId} {sql : String}

theorem keeps_report {e : Event} : Keeps v (report e : Op σ ε Unit) :=
  fun s => Aloof.rest s s.engine s.compiled _

theorem keeps_trace {e : Event} : Keeps v (trace c e : Op σ ε Unit) :=
  .bind (.read _) fun _ => .ite keeps_report (.pure ())

theorem keeps_request {i : EngineId} {p : Primitive} : Keeps v (request E i p) :=
  fun s => Aloof.rest s _ s.compiled s.events

theorem keeps_statements {f : Store σ → Table Compiled} :
    Keeps v (change fun s => { s with compiled := f s } : Op σ ε Unit) :=
  fun s => Aloof.rest s s.engine _ s.events

theorem keeps_onCache {α : Type} {f : Cache CompiledId → α × Cache CompiledId} :
    Keeps v (onCache c f : Op σ ε α) := by
  intro s
  rw [onCache_run]
  exact Aloof.cache s c fun x => (f x).2

theorem keeps_compile : Keeps v (compile E c sql) :=
  .bind (.read _) fun _ => .bind keeps_request fun _ => .bind (.read _) fun _ =>
    .bind keeps_statements fun _ => .pure _

theorem keeps_claim : Keeps v (claim h : Op σ ε Bool) :=
  .bind (.read _) fun _ => .ite (.pure _) (.bind keeps_statements fun _ => .pure _)

theorem keeps_destroy : Keeps v (destroy E h) :=
  .bind (.read _) fun _ => .ite (.pure _)
    (.bind keeps_statements fun _ => keeps_request)

theorem keeps_discard : Keeps v (discard E h) :=
  .bind (.read _) fun _ => .ite keeps_report (.bind keeps_report fun _ => keeps_destroy)

theorem keeps_acquireMiss : Keeps v (acquireMiss E c sql) := by
  refine .bind keeps_compile fun h => .bind keeps_claim fun _ => .bind keeps_onCache fun _ =>
    .bind keeps_onCache fun _ => .bind (.read _) fun _ => .bind keeps_trace fun _ =>
    .bind (.attempt (.forAll (fun _ => keeps_discard) _)) fun r => ?_
  cases r with
  | ok _ => exact .pure h
  | error e => exact .bind keeps_report fun _ => .pure h

theorem keeps_acquireContended : Keeps v (acquireContended E c sql h) :=
  .bind keeps_compile fun _ => .bind keeps_onCache fun _ => .bind (.read _) fun _ =>
    .bind (.read _) fun _ => .bind keeps_report fun _ => .pure _

theorem keeps_acquireUncached {kind : Kind} : Keeps v (acquireUncached E c kind sql) :=
  .bind keeps_compile fun _ => .bind keeps_onCache fun _ => .bind (.read _) fun _ =>
    .bind keeps_trace fun _ => .pure _

theorem keeps_acquire {kind : Kind} : Keeps v (acquire E c kind sql) := by
  refine .ite (.bind keeps_onCache fun cached => ?_) keeps_acquireUncached
  cases cached with
  | none => exact keeps_acquireMiss
  | some h =>
    exact .bind keeps_claim fun _ => .ite
      (.bind keeps_onCache fun _ => .bind (.read _) fun _ => .bind keeps_trace fun _ => .pure _)
      keeps_acquireContended

theorem keeps_relinquish : Keeps v (relinquish E c h) :=
  .bind (.read _) fun _ => .bind (.read _) fun _ => .ite
    (.bind keeps_statements fun _ => keeps_trace)
    (.bind keeps_trace fun _ => keeps_destroy)

theorem keeps_dropUnreferenced : Keeps v (dropUnreferenced E h : Op σ ε Unit) := by
  refine .bind (.read _) fun _ => .bind (.read _) fun _ => .ite (.pure _)
    (.bind (.attempt keeps_destroy) fun r => ?_)
  cases r with
  | ok _ => exact .pure _
  | error e => exact keeps_report

end Keeps

/-! The moves of each operation. -/

theorem Ensures.onCache_bind {α β : Type} {P : Store σ → Prop} {Q : α → Store σ → Prop}
    {R : Except ε β → Store σ → Prop} {c : ConnectionId}
    {f : Cache CompiledId → α × Cache CompiledId} {k : α → Op σ ε β}
    (hf : ∀ s, P s → Q (f (s.connection c).cache).1 (s.withCache c fun x => (f x).2))
    (hk : ∀ a, Ensures (Q a) (k a) R) : Ensures P (onCache c f >>= k) R := by
  intro s hs
  rw [run_bind, onCache_run]
  exact hk _ _ (hf s hs)

theorem trace_run (c : ConnectionId) (e : Event) (s : Store σ) :
    ∃ es, (trace c e : Op σ ε Unit).run s = (.ok (), { s with events := s.events ++ es }) := by
  by_cases hl : (s.connection c).logsLifecycle = true
  · exact ⟨[e], by simp [trace, hl, report]⟩
  · exact ⟨[], by simp [trace, hl]⟩

/-- An assertion that does not speak of events holds after an event may have been reported. -/
theorem Ensures.trace {P : Store σ → Prop} {c : ConnectionId} {e : Event}
    (hP : ∀ s es, P s → P { s with events := s.events ++ es }) :
    Ensures P (trace c e : Op σ ε Unit) fun _ => P := by
  intro s hs
  obtain ⟨es, ht⟩ := trace_run (ε := ε) c e s
  rw [ht]
  exact hP s es hs

theorem Ensures.trace_bind {β : Type} {P : Store σ → Prop} {R : Except ε β → Store σ → Prop}
    {c : ConnectionId} {e : Event} {k : Unit → Op σ ε β}
    (hP : ∀ s es, P s → P { s with events := s.events ++ es }) (hk : Ensures P (k ()) R) :
    Ensures P (Store.trace c e >>= k) R := by
  intro s hs
  obtain ⟨es, ht⟩ := trace_run (ε := ε) c e s
  rw [run_bind, ht]
  exact hk _ (hP s es hs)

theorem Ensures.claim_bind {β : Type} {P : Store σ → Prop} {Q : Bool → Store σ → Prop}
    {R : Except ε β → Store σ → Prop} {h : CompiledId} {k : Bool → Op σ ε β}
    (taken : ∀ s, P s → (s.statement h).inUse = true → Q false s)
    (idle : ∀ s, P s → (s.statement h).inUse = false →
      Q true (s.withStatement h fun x => { x with inUse := true }))
    (hk : ∀ b, Ensures (Q b) (k b) R) : Ensures P (claim h >>= k) R := by
  intro s hs
  rw [run_bind]
  cases hu : (s.statement h).inUse with
  | true =>
    rw [claim_taken hu]
    exact hk false s (taken s hs hu)
  | false =>
    rw [claim_idle hu]
    exact hk true _ (idle s hs hu)

/-- A loose statement that may be destroyed is dealt with by destroying it. -/
theorem destroy_moves {h : CompiledId} {hs : List CompiledId} (next : g.loose = h :: hs) :
    Ensures (fun s => At E m g s ∧ Spare g s h) (destroy E h)
      fun _ => At E m { g with loose := hs } := by
  intro s hs
  obtain ⟨ha, hp⟩ := hs
  cases hd : (s.statement h).destroyed with
  | true =>
    rw [destroy_gone hd]
    exact ha.move (.leave next (.inr (.inl hd)))
  | false =>
    rw [destroy_live hd]
    exact ha.move (.destroyLoose next hd hp)

theorem discard_moves {h : CompiledId} {hs : List CompiledId} (next : g.loose = h :: hs) :
    Ensures (At E m g) (discard E h) fun _ => At E m { g with loose := hs } := by
  refine .read_bind fun x => .ite (fun hu => ?_) fun hu => ?_
  · intro s hs
    obtain ⟨ha, rfl⟩ := hs
    exact (ha.move (.report _)).move (.leave next (.inl hu))
  · intro s hs
    obtain ⟨ha, rfl⟩ := hs
    exact destroy_moves next _ ⟨ha.move (.report _), .inl (eq_false_of_ne_true hu)⟩

/-- All that has left the cache is dealt with, whatever fails. -/
theorem discardAll_moves (empty : g.loose = []) (out : List CompiledId) :
    Ensures (At E m { g with loose := out }) (forAll (discard E) out) fun _ => At E m g := by
  have loop := Ensures.forAll (I := fun l => At E m { g with loose := l })
    (fun _ _ => discard_moves rfl) out
  rwa [Grip.loose_eta empty] at loop

/-- When nothing refers to a connection any more, what has left its cache is destroyed
unless something else refers to it. -/
theorem dropUnreferenced_moves {h : CompiledId} {hs : List CompiledId} (next : g.loose = h :: hs)
    (free : g.hand = none) :
    Ensures (fun s => At E m g s ∧ s.isReferenced g.connection = false)
      (dropUnreferenced E h : Op σ ε Unit) fun _ => At E m { g with loose := hs } := by
  refine .read_bind fun x => .read_bind fun referenced => .ite (fun hr => ?_) fun hr => ?_
  · intro s hs
    obtain ⟨⟨⟨ha, hu⟩, rfl⟩, rfl⟩ := hs
    simp only [Bool.or_eq_true, decide_eq_true_eq] at hr
    refine ha.move (.leave next ?_)
    rcases hr with (hc | hh) | hb
    -- cached, held or borrowed: in each case something else takes care of it
    · exact .inr (.inr (.inl hc))
    · exact .inr (.inr (.inr (.inl hh)))
    · exact .inr (.inr (.inr (.inr ⟨hb, hu⟩)))
  · refine .attempt_bind (Q := fun _ => At E m { g with loose := hs })
      ((destroy_moves next).pre ?_) fun r => ?_
    · intro s hs
      obtain ⟨⟨⟨ha, hu⟩, rfl⟩, rfl⟩ := hs
      simp only [Bool.or_eq_true, not_or, Bool.not_eq_true] at hr
      exact ⟨ha, .inr (.inr ⟨free, hr.1.2⟩)⟩
    · cases r with
      | ok _ => exact .pure fun _ => id
      | error e => exact fun s ha => ha.move (.report _)

/-- The statement that was asked for is at hand, or nothing is. -/
def Obtained (E : Engine σ) (m : Moment σ) (g : Grip) :
    Except EngineError CompiledId → Store σ → Prop
  | .ok h => At E m { g with hand := some h }
  | .error _ => At E m g

theorem compile_moves (free : g.hand = none) (sql : String) :
    Ensures (fun s => At E m g s ∧ (s.connection g.connection).isOpen = true)
      (compile E g.connection sql) (Obtained E m g) := by
  intro s hs
  obtain ⟨ha, ho⟩ := hs
  cases hr : (E.run (s.connection g.connection).engine (.compile sql) s.engine).1 with
  | ok n =>
    rw [compile_ok hr]
    exact ha.move (.compile ho free hr)
  | error e =>
    rw [compile_error hr]
    exact ha.move (.refuse ho hr)

/-- What is known of a new statement that is to be stored for its text. -/
structure Storable (c : ConnectionId) (sql : String) (h : CompiledId) (s : Store σ) : Prop where
  isOpen : (s.connection c).isOpen = true
  referenced : s.isReferenced c = true
  absent : (s.connection c).cache.peek? sql = none
  live : (s.statement h).destroyed = false
  key : (s.statement h).sql = sql

theorem Storable.claim {c : ConnectionId} {sql : String} {h : CompiledId} {s : Store σ}
    (hs : Storable c sql h s) :
    Storable c sql h (s.withStatement h fun x => { x with inUse := true }) where
  isOpen := hs.isOpen
  referenced := (isReferenced_of_bare (t := s.withStatement h _) rfl c).trans hs.referenced
  absent := hs.absent
  live := by
    rw [← hs.live]
    exact statement_part s h h (fun x => x.destroyed) fun _ => rfl
  key := by
    rw [← hs.key]
    exact statement_part s h h (fun x => x.sql) fun _ => rfl

theorem Storable.count {c : ConnectionId} {sql : String} {h : CompiledId} {s : Store σ}
    (hs : Storable c sql h s) (a : Acquisition) :
    Storable c sql h (s.withCache c (·.count a)) where
  isOpen := (isOpen_of_bare (bare_withCache ..) c).trans hs.isOpen
  referenced := (isReferenced_of_bare (bare_withCache ..) c).trans hs.referenced
  absent := by
    have hc := connection_part s c c (f := fun x => { x with cache := x.cache.count a })
      (fun x => x.cache.peek? sql) fun _ => rfl
    exact hc.trans hs.absent
  live := hs.live
  key := hs.key

/-- Storing adds an entry first; what has no room left then leaves. -/
theorem insert_moves {h : CompiledId} {sql : String} {s : Store σ} (atHand : g.hand = some h)
    (empty : g.loose = []) (ha : At E m g s) (hs : Storable g.connection sql h s)
    (claimed : (s.statement h).inUse = true) :
    At E m { g with loose := ((s.connection g.connection).cache.insert sql h).1 }
      (s.withCache g.connection fun x => (x.insert sql h).2) := by
  by_cases hc : (s.connection g.connection).cache.capacity = 0
  · have hi := Cache.insert_of_zero sql h hc
    rw [hi, Grip.loose_eta empty]
    exact ha.move (.reorder fun _ => by rw [hi])
  -- with room for an entry the cache may be one too long between the two moves
  · have h₁ := ha.move
      (.store hs.isOpen hs.referenced atHand empty claimed hs.live hs.key hs.absent)
    have he : (s.withCache g.connection fun x =>
          { x with entries := (sql, h) :: x.entries }).withCache g.connection
            (fun _ => ((s.connection g.connection).cache.insert sql h).2) =
        s.withCache g.connection fun x => (x.insert sql h).2 := by
      rw [withCache, withCache, withConnection_withConnection]
      exact withConnection_congr rfl
    rw [← he]
    refine h₁.move (.clear empty fun _ => ?_)
    rw [cache_withCache, if_pos ⟨rfl, lt_of_isOpen hs.isOpen⟩]
    exact Cache.insert_parts h hc hs.absent

theorem acquireMiss_moves (free : g.hand = none) (empty : g.loose = []) (sql : String) :
    Ensures
      (fun s => At E m g s ∧ (s.connection g.connection).isOpen = true ∧
        s.isReferenced g.connection = true ∧
        (s.connection g.connection).cache.peek? sql = none)
      (acquireMiss E g.connection sql) (Obtained E m g) := by
  let A (h : CompiledId) (s : Store σ) : Prop :=
    At E m { g with hand := some h } s ∧ Storable g.connection sql h s
  have compiled : Ensures
      (fun s => At E m g s ∧ (s.connection g.connection).isOpen = true ∧
        s.isReferenced g.connection = true ∧
        (s.connection g.connection).cache.peek? sql = none)
      (compile E g.connection sql) fun r s => match r with
        | .ok h => A h s
        | .error _ => At E m g s := by
    intro s hs
    obtain ⟨ha, ho, hr, hp⟩ := hs
    have hm := compile_moves free sql s ⟨ha, ho⟩
    cases hn : (E.run (s.connection g.connection).engine (.compile sql) s.engine).1 with
    | error e =>
      rw [compile_error hn] at hm ⊢
      exact hm
    | ok n =>
      rw [compile_ok hn] at hm ⊢
      have hx : (s.grown E g.connection sql n).statement s.compiled.next =
          { engine := (s.connection g.connection).engine, statement := n, sql,
            connection := g.connection } := Table.get_push_self ..
      exact ⟨hm, ho, hr, hp, by rw [hx], by rw [hx]⟩
  refine compiled.bind (fun h => ?_) fun _ _ => id
  refine Ensures.claim_bind (Q := fun _ s => A h s ∧ (s.statement h).inUse = true)
    (fun s hs hu => ⟨hs, hu⟩) (fun s hs hu => ⟨⟨hs.1.move (.claim rfl), hs.2.claim⟩, ?_⟩) fun _ => ?_
  · rw [statement_withStatement_self (lt_of_not_destroyed hs.2.live)]
  refine Ensures.onCache_bind (Q := fun _ s => A h s ∧ (s.statement h).inUse = true)
    (fun s hs => ⟨⟨hs.1.1.move (.reorder (f := (·.count .miss)) fun _ => .refl _),
      hs.1.2.count .miss⟩, hs.2⟩) fun _ => ?_
  refine Ensures.onCache_bind (Q := fun out => At E m { g with hand := some h, loose := out })
    (fun s hs => insert_moves (g := { g with hand := some h }) rfl empty hs.1.1 hs.1.2 hs.2)
    fun out => ?_
  refine .read_bind fun x => Ensures.trace_bind (fun s es hs => ⟨hs.1.move (.report es), hs.2⟩) ?_
  refine .attempt_bind (Q := fun _ => At E m { g with hand := some h })
    ((discardAll_moves (g := { g with hand := some h }) empty out).pre fun _ => And.left) fun r => ?_
  cases r with
  | ok _ => exact .pure fun _ => id
  | error e => exact fun s ha => ha.move (.report _)

theorem acquireContended_moves (free : g.hand = none) (sql : String) (cached : CompiledId) :
    Ensures (fun s => At E m g s ∧ (s.connection g.connection).isOpen = true)
      (acquireContended E g.connection sql cached) (Obtained E m g) := by
  refine (compile_moves free sql).bind (fun h => ?_) fun _ _ => id
  refine Ensures.onCache_bind (Q := fun _ => At E m { g with hand := some h })
    (fun s hs => At.move hs (.reorder fun _ => .refl _)) fun _ => ?_
  exact .read_bind fun x => .read_bind fun y => .change_bind
    (fun s hs => hs.1.1.move (.report _)) (.pure fun _ => id)

theorem acquireUncached_moves (free : g.hand = none) (kind : Kind) (sql : String) :
    Ensures (fun s => At E m g s ∧ (s.connection g.connection).isOpen = true)
      (acquireUncached E g.connection kind sql) (Obtained E m g) := by
  refine (compile_moves free sql).bind (fun h => ?_) fun _ _ => id
  refine Ensures.onCache_bind (Q := fun _ => At E m { g with hand := some h })
    (fun s hs => At.move hs (.reorder fun _ => .refl _)) fun _ => ?_
  exact .read_bind fun x => Ensures.trace_bind (fun s es hs => ⟨hs.1.move (.report es), hs.2⟩)
    (.pure fun _ => And.left)

/-- An acquisition brings a statement to hand: the cached one of the text, or a new one. -/
theorem acquire_moves (free : g.hand = none) (empty : g.loose = []) (kind : Kind)
    (sql : String) :
    Ensures
      (fun s => At E m g s ∧ (s.connection g.connection).isOpen = true ∧
        s.isReferenced g.connection = true)
      (acquire E g.connection kind sql) (Obtained E m g) := by
  refine .ite (fun _ => ?_) fun _ => (acquireUncached_moves free kind sql).pre
    fun s hs => ⟨hs.1, hs.2.1⟩
  let A (cached : Option CompiledId) (s : Store σ) : Prop :=
    At E m g s ∧ (s.connection g.connection).isOpen = true ∧
      s.isReferenced g.connection = true ∧ (s.connection g.connection).cache.peek? sql = cached
  refine Ensures.onCache_bind (Q := A) ?_ fun cached => ?_
  · intro s hs
    obtain ⟨ha, ho, hr⟩ := hs
    have hb := bare_withCache s g.connection (·.touch sql)
    refine ⟨ha.move (.reorder (Cache.touch_perm sql)), (isOpen_of_bare hb _).trans ho,
      (isReferenced_of_bare hb _).trans hr, ?_⟩
    rw [cache_withCache, if_pos ⟨rfl, lt_of_isOpen ho⟩]
    exact Cache.peek?_touch ..
  cases cached with
  | none => exact acquireMiss_moves free empty sql
  | some h =>
    -- if the cached statement is in use already, a copy of its own is compiled
    refine Ensures.claim_bind
      (Q := fun b s => if b then At E m { g with hand := some h } s else A (some h) s)
      (fun s hs _ => hs)
      (fun s hs hu => hs.1.move (.attach free (Cache.mem_of_peek? hs.2.2.2) hu)) fun b => ?_
    cases b with
    | false => exact (acquireContended_moves free sql h).pre fun s hs => ⟨hs.1, hs.2.1⟩
    | true =>
      refine Ensures.onCache_bind (Q := fun _ => At E m { g with hand := some h })
        (fun s hs => At.move hs (.reorder fun _ => .refl _)) fun _ => ?_
      exact .read_bind fun x => Ensures.trace_bind
        (fun s es hs => ⟨hs.1.move (.report es), hs.2⟩) (.pure fun _ => And.left)

/-- A statement is taken from the hand: to be idle in the cache, or to be destroyed. -/
theorem relinquish_moves {h : CompiledId} (atHand : g.hand = some h) (empty : g.loose = []) :
    Ensures (At E m g) (relinquish E g.connection h) fun _ => At E m { g with hand := none } := by
  refine .read_bind fun x => .read_bind fun cached => .ite (fun hc => ?_) fun hc => ?_
  · refine .change_bind (M := At E m { g with hand := none }) ?_
      (Ensures.trace fun s es ha => ha.move (.report es))
    intro s hs
    obtain ⟨⟨ha, rfl⟩, rfl⟩ := hs
    exact ha.move (.park atHand hc)
  · refine .pre (P := fun s => At E m g s ∧ s.isCachedBy g.connection h = false)
      (Ensures.trace_bind (fun s es hs => ⟨hs.1.move (.report es), hs.2⟩) ?_) ?_
    · intro s hs
      obtain ⟨ha, hn⟩ := hs
      cases hd : (s.statement h).destroyed with
      | true =>
        rw [destroy_gone hd]
        exact ha.move (.forget atHand empty hd)
      | false =>
        rw [destroy_live hd]
        exact ha.move (.destroyHand atHand empty hn hd)
    · intro s hs
      obtain ⟨⟨ha, rfl⟩, rfl⟩ := hs
      exact ⟨ha, eq_false_of_ne_true hc⟩

end Prepared.Store
