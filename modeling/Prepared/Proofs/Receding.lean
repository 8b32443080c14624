import Prepared.Proofs.Program
import Prepared.Store.Connection

/-! Caches that only lose.

Only an acquisition stores anything. Every other operation leaves in a cache what was there or
takes some of it out, and at most gives it more room. -/
namespace Prepared

namespace Cache

variable {α : Type} {c d : Cache α}

/-- A cache with no more entries than it has room for, and no more room than any may have. -/
structure Orderly (c : Cache α) : Prop where
  fits : c.size ≤ c.capacity
  bounded : c.capacity ≤ maxCapacity

/-- A later form of a cache in which nothing has been stored. -/
structure Recedes (c d : Cache α) : Prop where
  entries : d.entries ⊆ c.entries
  capacity : c.capacity ≤ d.capacity
  orderly : c.Orderly → d.Orderly

namespace Recedes

theorem refl (c : Cache α) : c.Recedes c :=
  ⟨fun _ => id, Nat.le_refl _, id⟩

theorem trans {b : Cache α} (h : b.Recedes c) (k : c.Recedes d) : b.Recedes d :=
  ⟨fun _ he => h.entries (k.entries he), Nat.le_trans h.capacity k.capacity,
    fun ho => k.orderly (h.orderly ho)⟩

/-- A cache with the same room recedes if it has entries of the other and no more of them. -/
theorem of_entries (entries : d.entries ⊆ c.entries) (size : d.size ≤ c.size)
    (capacity : d.capacity = c.capacity) : c.Recedes d where
  entries := entries
  capacity := Nat.le_of_eq capacity.symm
  orderly ho := ⟨capacity ▸ Nat.le_trans size ho.fits, capacity ▸ ho.bounded⟩

theorem count (a : Acquisition) : c.Recedes (c.count a) :=
  of_entries (fun _ => id) (Nat.le_refl _) rfl

theorem touch (key : String) : c.Recedes (c.touch key) := by
  unfold Cache.touch
  cases found : c.peek? key with
  | none => exact refl c
  | some a =>
    have stored := mem_of_peek? found
    refine of_entries (fun e he => ?_) (Nat.succ_le_of_lt ?_) rfl
    · rcases List.mem_cons.1 he with rfl | he
      · exact stored
      · exact List.mem_of_mem_filter he
    · exact List.length_filter_lt_length_iff_exists.2 ⟨_, stored, by simp⟩

theorem erase (key : String) : c.Recedes (c.erase key).2 := by
  unfold Cache.erase
  cases c.peek? key with
  | none => exact refl c
  | some a =>
    exact of_entries (fun _ => List.mem_of_mem_filter) (List.length_filter_le ..) rfl

theorem drain : c.Recedes c.drain.2 :=
  of_entries (fun _ => nofun) (Nat.zero_le _) rfl

theorem resize {n : Nat} (grows : c.capacity ≤ n) (bounded : n ≤ maxCapacity) :
    c.Recedes (c.resize n).2 where
  entries _ := List.mem_of_mem_take
  capacity := grows
  orderly _ := ⟨List.length_take_le .., bounded⟩

end Recedes

theorem insert_capacity (key : String) (a : α) : (c.insert key a).2.capacity = c.capacity := by
  unfold insert
  split <;> rfl

/-- Storing takes what does not fit from the back. -/
theorem Orderly.insert (ho : c.Orderly) (key : String) (a : α) : (c.insert key a).2.Orderly := by
  constructor
  · unfold Cache.insert
    split
    · exact ho.fits
    · exact List.length_take_le ..
  · rw [insert_capacity]
    exact ho.bounded

/-- What is stored is the new entry, if there is room, or was there. -/
theorem mem_insert {key : String} {a : α} {e : String × α} (h : e ∈ (c.insert key a).2.entries) :
    e ∈ c.entries ∨ e = (key, a) ∧ c.capacity ≠ 0 := by
  unfold insert at h
  split at h
  · exact .inl h
  · next room =>
    rcases List.mem_cons.1 (List.mem_of_mem_take h) with rfl | he
    · exact .inr ⟨rfl, room⟩
    · exact .inl (List.mem_of_mem_filter he)

end Cache

namespace Store

open Operation

variable {σ ε : Type} {E : Engine σ} {s t u : Store σ}

/-- A later store in whose caches nothing has been stored. -/
structure Recedes (s t : Store σ) : Prop where
  compiled : s.compiled.next ≤ t.compiled.next
  cache : ∀ c, (s.connection c).cache.Recedes (t.connection c).cache

instance : IsPreorder (Store σ) Recedes where
  refl _ := ⟨Nat.le_refl _, fun _ => .refl _⟩
  trans _ _ _ h k :=
    ⟨Nat.le_trans h.compiled k.compiled, fun c => (h.cache c).trans (k.cache c)⟩

namespace Recedes

/-- What connections and compiled statements are untouched has receded. -/
theorem of_same (connections : t.connections = s.connections)
    (compiled : s.compiled.next ≤ t.compiled.next) : Recedes s t where
  compiled := compiled
  cache c := by
    rw [show t.connection c = s.connection c from congrArg (·.get c) connections]
    exact .refl _

theorem withConnection (s : Store σ) (c : ConnectionId) {f : Connection → Connection}
    (hf : (s.connection c).cache.Recedes (f (s.connection c)).cache) :
    Recedes s (s.withConnection c f) where
  compiled := Nat.le_refl _
  cache d := by
    rw [connection_withConnection]
    split
    · next hd => exact hd.1 ▸ hf
    · exact .refl _

theorem withStatement (s : Store σ) (h : CompiledId) (f : Compiled → Compiled) :
    Recedes s (s.withStatement h f) :=
  of_same rfl (Nat.le_of_eq (next_withStatement ..).symm)

theorem withProgram (s : Store σ) (p : ProgramId) (f : Program → Program) :
    Recedes s (s.withProgram p f) :=
  of_same rfl (Nat.le_refl _)

/-- A new connection has an empty cache. -/
theorem connected (s : Store σ) (x : Connection) (empty : x.cache.entries = [])
    (bounded : x.cache.capacity ≤ maxCapacity) :
    Recedes s { s with connections := s.connections.push x } where
  compiled := Nat.le_refl _
  cache c := by
    rw [connection_pushed]
    split
    · next new =>
      have absent : s.connection c = default := Table.get_of_le _ (Nat.le_of_eq new.symm)
      rw [absent]
      refine ⟨fun e he => ?_, Nat.zero_le _, fun _ => ⟨?_, bounded⟩⟩
      · rw [empty] at he
        nomatch he
      · rw [Cache.size, empty]
        exact Nat.zero_le _
    · exact .refl _

end Recedes

/-! The operations that store nothing. -/

section Leads

variable {c : ConnectionId} {h : CompiledId} {p : ProgramId} {sql : String}

theorem recedes_report {e : Event} : Leads Recedes (report e : Op σ ε Unit) :=
  fun _ => .of_same rfl (Nat.le_refl _)

theorem recedes_trace {e : Event} : Leads Recedes (trace c e : Op σ ε Unit) :=
  .bind (.read _) fun _ => .ite recedes_report (.pure ())

theorem recedes_request {i : EngineId} {r : Primitive} : Leads Recedes (request E i r) :=
  fun _ => .of_same rfl (Nat.le_refl _)

theorem recedes_withConnection {f : Connection → Connection}
    (hf : ∀ x, (f x).cache = x.cache) :
    Leads Recedes (change (·.withConnection c f) : Op σ ε Unit) :=
  fun s => .withConnection s c (hf _ ▸ .refl _)

theorem recedes_withStatement {f : Compiled → Compiled} :
    Leads Recedes (change (·.withStatement h f) : Op σ ε Unit) :=
  fun s => .withStatement s h f

theorem recedes_withProgram {f : Program → Program} :
    Leads Recedes (change (·.withProgram p f) : Op σ ε Unit) :=
  fun s => .withProgram s p f

theorem recedes_onCache {α : Type} {f : Cache CompiledId → α × Cache CompiledId}
    (hf : ∀ x : Cache CompiledId, x.Recedes (f x).2) : Leads Recedes (onCache c f : Op σ ε α) := by
  intro s
  rw [onCache_run]
  exact .withConnection s c (hf _)

theorem recedes_compile : Leads Recedes (compile E c sql) := by
  refine .bind (.read _) fun _ => .bind recedes_request fun _ => .bind (.read _) fun _ =>
    .bind (fun s => ?_) fun _ => .pure _
  refine .of_same rfl ?_
  rw [run_change, Table.next_push]
  exact Nat.le_succ _

theorem recedes_claim : Leads Recedes (claim h : Op σ ε Bool) :=
  .bind (.read _) fun _ => .ite (.pure _) (.bind recedes_withStatement fun _ => .pure _)

theorem recedes_destroy : Leads Recedes (destroy E h) :=
  .bind (.read _) fun _ => .ite (.pure _) (.bind recedes_withStatement fun _ => recedes_request)

theorem recedes_discard : Leads Recedes (discard E h) :=
  .bind (.read _) fun _ => .ite recedes_report (.bind recedes_report fun _ => recedes_destroy)

theorem recedes_acquireContended : Leads Recedes (acquireContended E c sql h) :=
  .bind recedes_compile fun _ => .bind (recedes_onCache fun _ => .count _) fun _ =>
    .bind (.read _) fun _ => .bind (.read _) fun _ => .bind recedes_report fun _ => .pure _

theorem recedes_acquireUncached {kind : Kind} : Leads Recedes (acquireUncached E c kind sql) :=
  .bind recedes_compile fun _ => .bind (recedes_onCache fun _ => .count _) fun _ =>
    .bind (.read _) fun _ => .bind recedes_trace fun _ => .pure _

theorem recedes_relinquish : Leads Recedes (relinquish E c h) :=
  .bind (.read _) fun _ => .bind (.read _) fun _ => .ite
    (.bind recedes_withStatement fun _ => recedes_trace)
    (.bind recedes_trace fun _ => recedes_destroy)

theorem recedes_dropUnreferenced : Leads Recedes (dropUnreferenced E h : Op σ ε Unit) := by
  refine .bind (.read _) fun _ => .bind (.read _) fun _ => .ite (.pure _)
    (.bind (.attempt recedes_destroy) fun r => ?_)
  cases r with
  | ok _ => exact .pure _
  | error e => exact recedes_report

theorem recedes_verifyOpen : Leads Recedes (verifyOpen c : Op σ ProgramError Unit) :=
  .bind (.read _) fun _ => .ite (.pure _) (.throw _)

theorem recedes_acquireReference : Leads Recedes (acquireReference c : Op σ ProgramError Unit) :=
  .bind (.read _) fun _ => .ite (.throw _) (.ite (.throw _) (recedes_withConnection fun _ => rfl))

theorem recedes_retire : Leads Recedes (retire E c) :=
  .bind (recedes_withConnection fun _ => rfl) fun _ =>
    .bind (recedes_onCache fun _ => .drain) fun _ => .bind recedes_trace fun _ =>
    .forAll (fun _ => recedes_destroy) _

theorem recedes_releaseReference : Leads Recedes (releaseReference E c) :=
  .bind (.read _) fun _ => .ite (.pure _)
    (.bind (recedes_withConnection fun _ => rfl) fun _ => .ite recedes_retire (.pure _))

theorem recedes_dropConnectionIfUnreferenced :
    Leads Recedes (dropConnectionIfUnreferenced E c : Op σ ε Unit) :=
  .bind (.read _) fun _ => .ite (.pure _) (.bind (recedes_onCache fun _ => .drain) fun _ =>
    .forAll (fun _ => recedes_dropUnreferenced) _)

theorem recedes_verifyUsable : Leads Recedes (verifyUsable p : Op σ ProgramError Unit) :=
  .bind (.read _) fun _ => .bind recedes_verifyOpen fun _ =>
    .bind (.read _) fun _ => .ite (.throw _) (.pure _)

theorem recedes_applyBinding {b : Binding} : Leads Recedes (applyBinding E h b) :=
  .bind (.read _) fun _ => recedes_request

theorem recedes_abandon : Leads Recedes (abandon E c h : Op σ ε Unit) := by
  refine .bind (.read _) fun _ => .bind (.attempt recedes_relinquish) fun r => ?_
  cases r with
  | ok _ => exact .pure _
  | error e => exact recedes_report

theorem recedes_relinquishHeld : Leads Recedes (relinquishHeld E p) := by
  refine .bind (.read _) fun x => ?_
  cases x.held with
  | none => exact .pure _
  | some h => exact .bind recedes_withProgram fun _ => recedes_relinquish

theorem recedes_tearDown {unlist : Bool} : Leads Recedes (tearDown E unlist p) := by
  have deregistered : Leads Recedes (deregister p : Op σ EngineError Unit) :=
    .bind (.read _) fun _ => recedes_withConnection fun _ => rfl
  refine .bind recedes_withProgram fun _ => .bind (.read _) fun x => .ite (.pure _)
    (.bind recedes_withProgram fun _ => .both recedes_relinquishHeld ?_)
  cases unlist with
  | true => exact .bind deregistered fun _ => recedes_releaseReference
  | false => exact recedes_releaseReference

theorem recedes_createDeferred :
    Leads Recedes (createDeferred c sql : Op σ ProgramError ProgramId) :=
  .bind recedes_verifyOpen fun _ => .bind recedes_acquireReference fun _ => .bind (.read _) fun _ =>
    .bind (fun _ => .of_same rfl (Nat.le_refl _)) fun _ =>
    .bind (recedes_withConnection fun _ => rfl) fun _ => .pure _

theorem recedes_bindValue {position : UInt32} {value : Value} :
    Leads Recedes (bindValue E p position value) := by
  refine .ite (.throw _) (.bind recedes_verifyUsable fun _ => .bind (.read _) fun x => ?_)
  cases x.held with
  | none => exact recedes_withProgram
  | some h => exact .mapError recedes_applyBinding

theorem recedes_clearBindings : Leads Recedes (clearBindings E p) := by
  refine .bind recedes_verifyUsable fun _ => .bind recedes_withProgram fun _ =>
    .bind (.read _) fun x => ?_
  cases x.held with
  | none => exact .pure _
  | some h => exact .bind (.read _) fun _ => .mapError recedes_request

theorem recedes_dropProgram : Leads Recedes (dropProgram E p : Op σ ε Unit) := by
  refine .bind (.read _) fun x => .bind (.attempt recedes_tearDown) fun r => ?_
  cases r with
  | ok _ => exact .bind recedes_withProgram fun _ => recedes_dropConnectionIfUnreferenced
  | error e =>
    exact .bind recedes_report fun _ => .bind recedes_withProgram fun _ =>
      recedes_dropConnectionIfUnreferenced

theorem recedes_addConnection {i : EngineId} {settings : Settings}
    (valid : settings.IsValid) : Leads Recedes (addConnection i settings : Op σ ε ConnectionId) :=
  .bind (.read _) fun _ => .bind (fun s => .connected s _ rfl valid) fun _ => .pure _

theorem recedes_openConnection {i : EngineId} {settings : Settings} :
    Leads Recedes (openConnection i settings : Op σ SettingsError ConnectionId) := by
  unfold openConnection Settings.validate
  by_cases valid : settings.IsValid
  · rw [if_pos valid]
    exact recedes_addConnection valid
  · rw [if_neg valid]
    exact .throw _

theorem recedes_lookup : Leads Recedes (lookup c sql : Op σ ε (Option CompiledId)) := by
  refine .bind (.read _) fun x => ?_
  cases x.cache.peek? (Text.trim sql) with
  | none => exact .pure _
  | some h => exact .bind recedes_withStatement fun _ => .pure _

theorem recedes_evict : Leads Recedes (evict E c sql) := by
  refine .bind (recedes_onCache fun _ => .erase _) fun out => ?_
  cases out with
  | none => exact .pure _
  | some h => exact .bind recedes_discard fun _ => .pure _

/-- The capacity is only changed to one that is larger and within the bound. -/
theorem recedes_setCapacity {size : Nat} : Leads Recedes (setCapacity E c size) := by
  intro s
  by_cases large : maxCapacity < size
  · simp only [setCapacity, large, if_true, run_bind, run_throw]
    exact refl_of Recedes s
  · by_cases small : size < (s.connection c).cache.capacity
    · simp only [setCapacity, large, small, if_true, if_false, run_bind, run_read, run_throw]
      exact refl_of Recedes s
    · simp only [setCapacity, large, small, if_false, run_bind, run_read, onCache_run]
      have resized : Recedes s (s.withCache c fun x => (x.resize size).2) :=
        .withConnection s c (.resize (Nat.le_of_not_lt small) (Nat.le_of_not_lt large))
      have discarded : Leads Recedes (mapError ProgramError.engine
          (forAll (discard E) ((s.connection c).cache.resize size).1)) :=
        .mapError (.forAll (fun _ => recedes_discard) _)
      exact trans_of Recedes resized (discarded _)

theorem recedes_closeInOrder {order : List ProgramId} :
    Leads Recedes (closeInOrder E c order) :=
  .bind (.read _) fun _ => .ite (.bind (recedes_withConnection fun _ => rfl) fun _ =>
    .bind recedes_trace fun _ => .both (.forAll (fun _ => recedes_tearDown) _)
      recedes_releaseReference) (.pure _)

end Leads

end Store

end Prepared
