import Prepared.Engine.Faults
import Prepared.Proofs.Obtaining

/-! Engines behind faults.

A request that is struck by a fault is answered with the error of the fault, and the engine does
not see it. So a store over engines with faults is a store over those engines in which some
requests were lost. What was lost may have been the destruction of a statement, which is marked as
destroyed all the same: then its engine keeps a slot that nobody asks for again, and the
statements that are not destroyed have slots of their own as ever. -/
namespace Prepared

open Sql

namespace Sql

/-- A slot with a value bound in it. -/
def Slot.put (slot : Slot) (b : Binding) : Slot :=
  { slot with parameters := slot.parameters.set (b.position.toNat - 1) b.value }

/-- A slot with values bound in it, one after the other. -/
def Slot.putAll (slot : Slot) (bs : List Binding) : Slot :=
  bs.foldl Slot.put slot

namespace Slot

@[simp] theorem length_put (slot : Slot) (b : Binding) :
    (slot.put b).parameters.length = slot.parameters.length := by
  simp [put]

@[simp] theorem length_putAll (slot : Slot) (bs : List Binding) :
    (slot.putAll bs).parameters.length = slot.parameters.length := by
  unfold putAll
  induction bs generalizing slot with
  | nil => rfl
  | cons b bs ih => exact (ih _).trans (length_put slot b)

/-- Of two values for one parameter the later one counts. -/
theorem put_put_self (slot : Slot) {a b : Binding}
    (same : a.position.toNat - 1 = b.position.toNat - 1) : (slot.put a).put b = slot.put b := by
  simp [put, same, List.set_set]

theorem put_comm (slot : Slot) {a b : Binding}
    (apart : a.position.toNat - 1 ≠ b.position.toNat - 1) :
    (slot.put a).put b = (slot.put b).put a := by
  simp [put, List.set_comm _ _ apart]

/-- A value that is going to be bound may as well be bound before: what is bound later at its
position, be it that value itself, counts. -/
theorem putAll_put {b : Binding} {bs : List Binding} (hb : b ∈ bs) (slot : Slot) :
    (slot.put b).putAll bs = slot.putAll bs := by
  induction bs generalizing slot with
  | nil => nomatch hb
  | cons a bs ih =>
    show ((slot.put b).put a).putAll bs = (slot.put a).putAll bs
    by_cases same : b.position.toNat - 1 = a.position.toNat - 1
    · rw [put_put_self slot same]
    · have later : b ∈ bs := (List.mem_cons.1 hb).resolve_left fun h => same (h ▸ rfl)
      rw [put_comm slot same, ih later]

/-- Binding all values over some of them is the same as binding all values. -/
theorem putAll_putAll {done bs : List Binding} (some : ∀ b ∈ done, b ∈ bs) (slot : Slot) :
    (slot.putAll done).putAll bs = slot.putAll bs := by
  induction done generalizing slot with
  | nil => rfl
  | cons b done ih =>
    show ((slot.put b).putAll done).putAll bs = slot.putAll bs
    rw [ih (fun a ha => some a (List.mem_cons_of_mem _ ha)),
      putAll_put (some b (List.mem_cons_self ..))]

end Slot

/-- Whether there is a slot, and it has a parameter for each binding. -/
def Takes (o : Option Slot) (bs : List Binding) : Prop :=
  ∀ b ∈ bs, ∃ slot, o = some slot ∧ 1 ≤ b.position.toNat ∧
    b.position.toNat ≤ slot.parameters.length

theorem takes_cons {o : Option Slot} {b : Binding} {bs : List Binding} :
    Takes o (b :: bs) ↔ Takes o [b] ∧ Takes o bs := by
  simp [Takes]

/-- What is bound does not change which positions there are. -/
theorem takes_put {o : Option Slot} {b : Binding} {bs : List Binding} :
    Takes (o.map (·.put b)) bs ↔ Takes o bs := by
  cases o <;> simp [Takes]

theorem takes_putAll {o : Option Slot} (as : List Binding) {bs : List Binding} :
    Takes (o.map (·.putAll as)) bs ↔ Takes o bs := by
  cases o <;> simp [Takes]

namespace Engines

variable {δ : Type} {L : Library δ} {s : Engines δ} {i : EngineId} {n : StatementId} {b : Binding}

/-- A value is accepted where there is a parameter for it. -/
theorem bind_accepts :
    (L.engine.run i (.bind n b.position b.value) s).1 = .ok () ↔ Takes (s.slot? (i, n)) [b] := by
  show ((s.slots i).bind n b.position b.value).1 = .ok () ↔ _
  cases found : s.slot? (i, n) with
  | none =>
    unfold Slots.bind
    rw [Slots.get_of_find?_none found]
    simp [Takes]
  | some slot =>
    rw [Slots.bind_of_find? (t := s.slots i) found]
    by_cases range : 1 ≤ b.position.toNat ∧ b.position.toNat ≤ slot.parameters.length
    · simp [Takes, range]
    · simp [Takes, range]

theorem slot?_put (answer : (L.engine.run i (.bind n b.position b.value) s).1 = .ok ()) :
    (L.engine.run i (.bind n b.position b.value) s).2.slot? (i, n) =
      (s.slot? (i, n)).map (·.put b) := by
  obtain ⟨slot, found, -, bound⟩ := slot?_bound answer
  rw [bound, found]
  rfl

end Engines

end Sql

/-- A request is struck, or it is answered by the engine behind the faults. -/
theorem Engine.withFaults_cases {σ : Type} (E : Engine σ) (i : EngineId) (r : Primitive)
    (x : Faulty σ) :
    (∃ e, (E.withFaults.run i r x).1 = .error e ∧ (E.withFaults.run i r x).2.inner = x.inner) ∨
    ((E.withFaults.run i r x).1 = (E.run i r x.inner).1 ∧
      (E.withFaults.run i r x).2.inner = (E.run i r x.inner).2) := by
  simp only [Engine.withFaults]
  rcases Fault.strike r.name x.faults with ⟨_ | e, faults⟩
  · exact .inr ⟨rfl, rfl⟩
  · exact .inl ⟨e, rfl, rfl⟩

/-- Without faults every request is answered, and there are no faults then either. -/
theorem Engine.withFaults_none {σ : Type} (E : Engine σ) (i : EngineId) (r : Primitive)
    {x : Faulty σ} (none : x.faults = []) :
    E.withFaults.run i r x = ((E.run i r x.inner).1, ⟨(E.run i r x.inner).2, []⟩) := by
  simp only [Engine.withFaults, none, Fault.strike]

theorem Engine.withFaults_ok {σ : Type} {E : Engine σ} {i : EngineId} {r : Primitive}
    {x : Faulty σ} {a : r.Answer} (answer : (E.withFaults.run i r x).1 = .ok a) :
    (E.run i r x.inner).1 = .ok a ∧
      (E.withFaults.run i r x).2.inner = (E.run i r x.inner).2 := by
  rcases E.withFaults_cases i r x with ⟨e, struck, -⟩ | ⟨same, inner⟩
  · nomatch struck.symm.trans answer
  · exact ⟨same.symm.trans answer, inner⟩

namespace Store

section Inner

variable {σ : Type} {E : Engine σ} {s t : Store (Faulty σ)}

/-- The store over the engine behind the faults. -/
def inner (s : Store (Faulty σ)) : Store σ :=
  { s with engine := s.engine.inner }

/-- The store with other faults to come. -/
def faulting (s : Store (Faulty σ)) (faults : List Fault) : Store (Faulty σ) :=
  { s with engine := { s.engine with faults } }

theorem inner_asked (E : Engine σ) (i : EngineId) (r : Primitive) (s : Store (Faulty σ)) :
    (s.asked E.withFaults i r).inner = s.inner ∨
      (s.asked E.withFaults i r).inner = s.inner.asked E i r := by
  rcases E.withFaults_cases i r s.engine with ⟨-, -, same⟩ | ⟨-, same⟩
  · exact .inl (congrArg (fun x => ({ s with engine := x } : Store σ)) same)
  · exact .inr (congrArg (fun x => ({ s with engine := x } : Store σ)) same)

theorem inner_grown {c : ConnectionId} {sql : String} {n : StatementId}
    (answer : (E.withFaults.run (s.connection c).engine (.compile sql) s.engine).1 = .ok n) :
    (s.grown E.withFaults c sql n).inner = s.inner.grown E c sql n :=
  congrArg
    (fun x => ({ s with
      engine := x
      compiled := s.compiled.push
        { engine := (s.connection c).engine, statement := n, sql, connection := c } } : Store σ))
    (Engine.withFaults_ok answer).2

/-- Without faults there will be none. -/
theorem faultless_calm (E : Engine σ) :
    Calm E.withFaults fun s : Store (Faulty σ) => s.engine.faults = [] where
  events _ _ none := none
  cache _ _ _ none := none
  token _ _ _ none := none
  struck s h _ none := by
    have asked := E.withFaults_none (s.statement h).engine (.destroy (s.statement h).statement) none
    exact congrArg (fun x => x.2.faults) asked

/-- Without faults to come a statement is obtained wherever one is obtained with them. -/
theorem acquire_faultless {c : ConnectionId} {kind : Kind} {sql : String} {h : CompiledId}
    (acquired : (acquire E.withFaults c kind sql).run s = (.ok h, t)) :
    ∃ k u, (acquire E.withFaults c kind sql).run (s.faulting []) = (.ok k, u) ∧
      u.engine.faults = [] := by
  have calm := faultless_calm E
  have same : (s.faulting []).idle? c kind sql = s.idle? c kind sql := rfl
  cases acquire_cases acquired with
  | attached idle =>
    obtain ⟨es, run⟩ := acquire_attached (E := E.withFaults) (same.trans idle)
    exact ⟨h, _, run, calm.attached es rfl⟩
  | compiled none answer =>
    have asked := E.withFaults_none (s.connection c).engine (.compile sql)
      (x := (s.faulting []).engine) rfl
    have answer' := (congrArg Prod.fst asked).trans (Engine.withFaults_ok answer).1
    obtain ⟨u, run, settled⟩ := acquire_compiled (same.trans none) answer'
    exact ⟨_, u, run, settled _ calm (congrArg (fun x => x.2.faults) asked)⟩

theorem Extends.inner (he : Extends s t) : Extends s.inner t.inner :=
  ⟨he.compiled, he.programs, he.connections, he.identity, he.home, he.text, he.engine⟩

theorem Unmarked.inner (same : Unmarked s t) : Unmarked s.inner t.inner :=
  ⟨same.next, same.destroyed⟩

/-- What the engine behind the faults was asked: the same, or nothing at all while a statement may
have been marked as destroyed. -/
theorem Sends.inner (hs : Sends E.withFaults s t) :
    Sends E s.inner t.inner ∨ (t.inner.engine = s.inner.engine ∧
      t.compiled.next = s.compiled.next ∧
      ∀ h, (s.statement h).destroyed = true → (t.statement h).destroyed = true) := by
  cases hs with
  | nothing engine same => exact .inl (.nothing (congrArg Faulty.inner engine) same.inner)
  | refused i sql e answer engine same =>
    have after := congrArg Faulty.inner engine
    rcases E.withFaults_cases i (.compile sql) s.engine with ⟨-, -, kept⟩ | ⟨asked, inner⟩
    · exact .inl (.nothing (after.trans kept) same.inner)
    · exact .inl (.refused i sql e (asked.symm.trans answer) (after.trans inner) same.inner)
  | compiled i sql n answer engine native next live others =>
    obtain ⟨asked, inner⟩ := Engine.withFaults_ok answer
    exact .inl (.compiled i sql n asked ((congrArg Faulty.inner engine).trans inner) native next
      live others)
  | used h r engine about use live same =>
    have after := congrArg Faulty.inner engine
    rcases E.withFaults_cases (s.native h).1 r s.engine with ⟨-, -, kept⟩ | ⟨-, inner⟩
    · exact .inl (.nothing (after.trans kept) same.inner)
    · exact .inl (.used h r (after.trans inner) about use live same.inner)
  | destroyed h engine live next marked =>
    have after := congrArg Faulty.inner engine
    rcases E.withFaults_cases (s.native h).1 (.destroy (s.native h).2) s.engine with
      ⟨-, -, kept⟩ | ⟨-, inner⟩
    · exact .inr ⟨after.trans kept, next, fun k gone => (marked k).2 (.inr gone)⟩
    · exact .inl (.destroyed h (after.trans inner) live next marked)

end Inner

variable {δ : Type} {L : Library δ} {count : String → Nat} {s t : Store (Faulty (Engines δ))}
  {h k : CompiledId} {e : Faulty (Engines δ)} {past : List (Step (Faulty (Engines δ)))}
  {c : ConnectionId} {sql : String}

/-- Whatever is sent or lost, statements that are not destroyed have slots of their own. -/
theorem Slotted.sent (hs : Slotted s.inner) (he : Extends s t)
    (hn : Sends L.engine.withFaults s t) : Slotted t.inner := by
  rcases hn.inner with sends | ⟨engine, next, marks⟩
  · exact hs.step he.inner sends
  · refine hs.of_old he.inner next (fun i => ?_) fun h live => ?_
    · exact Nat.le_of_eq (by rw [engine])
    · rw [engine]
      refine hs.slot h ?_
      rw [← Bool.not_eq_true]
      intro gone
      exact absurd ((marks h gone).symm.trans live) (by decide)

/-- After every run the statements that are not destroyed have slots of their own. -/
theorem Run.slotted_inner (run : Run L.engine.withFaults e past s) : Slotted s.inner := by
  let I (m : Moment (Faulty (Engines δ))) : Prop := Sound m ∧ Slotted m.store.inner
  have all : I ⟨s, { connection := 0 }⟩ := by
    refine run.keeps (I := I) (fun _ hm => hm.1.registered) (fun g hg => ?_)
      (fun s g g' hg hg' hm => ⟨hm.1.regrip hg hg', hm.2⟩) (fun a b hm ha => ?_)
      { connection := 0 } ⟨rfl, rfl, rfl, rfl⟩
    · exact ⟨Sound.empty e hg, Slotted.empty e.inner⟩
    · exact ⟨ha.1.step hm, ha.2.sent hm.extends (hm.sends ha.1)⟩
  exact all.2

/-! ## Slots -/

/-- A slot of a text with so many parameters, in which nothing is bound. -/
def blank (count : String → Nat) (sql : String) : Slot where
  sql
  parameters := List.replicate (count sql) .null

/-- The slot of a text that was just compiled. -/
theorem slot?_new (counts : L.Counts count) {s : Store (Engines δ)} {n : StatementId}
    (answer : (L.engine.run (s.connection c).engine (.compile sql) s.engine).1 = .ok n) :
    (s.grown L.engine c sql n).slot? s.compiled.next = some (blank count sql) := by
  have new := statement_grown L.engine c sql n s s.compiled.next
  rw [if_pos rfl] at new
  obtain ⟨-, -, m, prepared, slot⟩ := Engines.slot?_compiled answer
  unfold slot? native blank
  rw [new, ← counts _ _ _ _ prepared]
  exact slot

/-- A statement with this slot, unless it is destroyed. -/
structure Placed (h : CompiledId) (o : Option Slot) (s : Store (Faulty (Engines δ))) : Prop where
  slotted : Slotted s.inner
  given : h < s.compiled.next
  slot : (s.statement h).destroyed = false → s.inner.slot? h = o

theorem placed_calm (h : CompiledId) (o : Option Slot) :
    Calm L.engine.withFaults (Placed h o) where
  events _ _ hs := ⟨hs.slotted.congr rfl rfl, hs.given, hs.slot⟩
  cache _ _ _ hs := ⟨hs.slotted.congr rfl rfl, hs.given, hs.slot⟩
  token s k b hs := by
    have he : Extends s (s.withStatement k fun x => { x with inUse := b }) :=
      .withStatement s k fun _ => rfl
    refine ⟨hs.slotted.withStatement k (fun _ => rfl) fun _ => rfl, ?_, fun live => ?_⟩
    · exact Nat.lt_of_lt_of_eq hs.given (next_withStatement ..).symm
    · have same := destroyed_withStatement s k h (f := fun x => { x with inUse := b }) fun _ => rfl
      exact (slot?_of_engine he.inner hs.given rfl).trans (hs.slot (same.symm.trans live))
  struck s k live hs := by
    have he : Extends s (s.struck L.engine.withFaults k) := .struck _ k s
    refine ⟨hs.slotted.sent he (sends_struck live), ?_, fun live' => ?_⟩
    · exact Nat.lt_of_lt_of_eq hs.given (next_withStatement ..).symm
    have hk := lt_of_not_destroyed live
    rw [statement_struck] at live'
    have other : h ≠ k := by
      intro same
      rw [if_pos ⟨same, hk⟩] at live'
      nomatch live'
    rw [if_neg fun hn => other hn.1] at live'
    rcases inner_asked L.engine (s.statement k).engine (.destroy (s.statement k).statement)
      (s.withStatement k fun x => { x with destroyed := true }) with lost | sent
    · have engine : (s.struck L.engine.withFaults k).inner.engine = s.inner.engine :=
        (congrArg (fun x : Store (Engines δ) => x.engine) lost :)
      exact (slot?_of_engine he.inner hs.given engine).trans (hs.slot live')
    · refine Eq.trans ?_ ((hs.slotted.slot?_struck (L := L) hs.given hk other).trans (hs.slot live'))
      exact congrArg (slot? · h) sent

/-- What the slot of a statement will be that is obtained for a text. -/
def offered (count : String → Nat) (s : Store (Faulty (Engines δ))) (c : ConnectionId)
    (kind : Kind) (sql : String) : Option Slot :=
  match s.idle? c kind sql with
  | some h => s.inner.slot? h
  | none => some (blank count sql)

/-- The slot of a statement that was obtained is as it was left, or has nothing bound. -/
theorem slot?_acquired (counts : L.Counts count) {kind : Kind} {u : Store (Faulty (Engines δ))}
    (slotted : Slotted s.inner)
    (given : ∀ e ∈ (s.connection c).cache.entries, e.2 < s.compiled.next)
    (acquired : (acquire L.engine.withFaults c kind sql).run s = (.ok h, u))
    (live : (u.statement h).destroyed = false) :
    u.inner.slot? h = s.offered count c kind sql := by
  unfold offered
  cases acquire_cases acquired with
  | attached idle es =>
    rw [idle]
    have placed : Placed h (s.inner.slot? h) s :=
      ⟨slotted, given _ (Cache.mem_of_peek? (peek?_of_idle idle).2.1), fun _ => rfl⟩
    exact ((placed_calm (L := L) h _).attached es placed).slot live
  | compiled none answer settled =>
    rw [none]
    refine (settled _ (placed_calm _ (some (blank count sql))) ⟨?_, ?_, fun _ => ?_⟩).slot live
    · exact slotted.sent (.grown ..) (sends_grown answer)
    · exact Nat.lt_of_lt_of_eq (Nat.lt_succ_self _) (Table.next_push ..).symm
    · rw [inner_grown answer]
      exact slot?_new counts (s := s.inner) (Engine.withFaults_ok answer).1

/-! ## Replays -/

section Replay

open Operation

variable {o : Option Slot} {b : Binding} {bs : List Binding}

/-- A binding that is accepted is put into the slot; one that is refused leaves no trace. -/
theorem applyBinding_puts (b : Binding) :
    Ensures (fun s => s.inner.slot? h = o) (applyBinding L.engine.withFaults h b) fun r s =>
      match r with
      | .ok _ => s.inner.slot? h = o.map (·.put b) ∧ Takes o [b]
      | .error _ => s.inner.slot? h = o := by
  rintro s rfl
  let r : Primitive := .bind (s.native h).2 b.position b.value
  have run : (applyBinding L.engine.withFaults h b).run s =
      ((L.engine.withFaults.run (s.native h).1 r s.engine).1,
        s.asked L.engine.withFaults (s.native h).1 r) := rfl
  have slot (x : Faulty (Engines δ)) :
      ({ s with engine := x } : Store (Faulty (Engines δ))).inner.slot? h = x.inner.slot? (s.native h) :=
    rfl
  rw [run]
  rcases L.engine.withFaults_cases (s.native h).1 r s.engine with
    ⟨e, struck, kept⟩ | ⟨same, inner⟩
  · rw [struck]
    exact congrArg (·.slot? (s.native h)) kept
  · cases answer : (L.engine.run (s.native h).1 r s.engine.inner).1 with
    | error e =>
      rw [same, answer]
      exact (congrArg (·.slot? (s.native h)) inner).trans (congrArg (·.slot? (s.native h)) (Engines.run_unbound answer))
    | ok _ =>
      rw [same, answer]
      refine ⟨?_, Engines.bind_accepts.1 answer⟩
      exact (congrArg (·.slot? (s.native h)) inner).trans (Engines.slot?_put answer)

/-- Bindings that were all accepted have all been put into the slot; otherwise some of them
were. -/
theorem replay_puts (bs : List Binding) :
    Ensures (fun s => s.inner.slot? h = o) (replay L.engine.withFaults h bs) fun r s =>
      match r with
      | .ok _ => s.inner.slot? h = o.map (·.putAll bs) ∧ Takes o bs
      | .error _ => ∃ done, (∀ b ∈ done, b ∈ bs) ∧ s.inner.slot? h = o.map (·.putAll done) := by
  have onto (o : Option Slot) (b : Binding) (bs : List Binding) :
      (o.map (·.put b)).map (·.putAll bs) = o.map (·.putAll (b :: bs)) :=
    Option.map_map ..
  induction bs generalizing o with
  | nil => exact .pure fun s hs => ⟨hs.trans (by simp [Slot.putAll]), nofun⟩
  | cons b bs ih =>
    refine (applyBinding_puts b).bind (fun _ => .of_fact fun first => ?_) fun e s hs => ?_
    · refine ih.post fun r s hr => ?_
      rw [onto] at hr
      cases r with
      | ok _ => exact ⟨hr.1, takes_cons.2 ⟨first, takes_put.1 hr.2⟩⟩
      | error e =>
        obtain ⟨done, some, slot⟩ := hr
        refine ⟨b :: done, List.forall_mem_cons.2 ⟨List.mem_cons_self .., fun a ha => ?_⟩, ?_⟩
        · exact List.mem_cons_of_mem _ (some a ha)
        · rw [← onto]
          exact slot
    · exact ⟨[], nofun, hs.trans (by simp [Slot.putAll])⟩

/-- Without faults all bindings are accepted that have a parameter. -/
theorem replay_takes (none : s.engine.faults = []) (takes : Takes (s.inner.slot? h) bs) :
    ((replay L.engine.withFaults h bs).run s).1 = .ok () := by
  induction bs generalizing s with
  | nil => rfl
  | cons b bs ih =>
    obtain ⟨first, rest⟩ := takes_cons.1 takes
    let r : Primitive := .bind (s.native h).2 b.position b.value
    let t := s.asked L.engine.withFaults (s.native h).1 r
    have asked := L.engine.withFaults_none (s.native h).1 r none
    have run : (applyBinding L.engine.withFaults h b).run s = (.ok (), t) :=
      Prod.ext ((congrArg Prod.fst asked).trans ((Engines.bind_accepts (L := L)).2 first)) rfl
    have put := applyBinding_puts (L := L) (h := h) (o := s.inner.slot? h) b s rfl
    rw [run] at put
    have after : t.engine.faults = [] := congrArg (fun x => x.2.faults) asked
    have accepted := ih after (put.1 ▸ takes_put.2 rest)
    simp only [replay, untilError, run_bind, run]
    exact accepted

end Replay

end Store

end Prepared
