import Prepared.Proofs.Books

/-! Shapes of stores.

The shape of a store shows neither its engine nor its statements, neither caches nor events: of a
program it shows whether it holds a statement. What is done for the caches leaves the shape as it
is. Whatever gives something up changes the shape in a way that can be read off the shape alone,
whether or not the engine destroys what it is asked to destroy. -/
namespace Prepared

namespace Table

variable {α β : Type}

/-- Reads every entry in another way. -/
def map (t : Table α) (f : α → β) : Table β :=
  ⟨t.rows.map f⟩

@[simp] theorem next_map (t : Table α) (f : α → β) : (t.map f).next = t.next := by
  simp [next, map]

theorem get_map [Inhabited α] [Inhabited β] (t : Table α) {f : α → β} (hf : f default = default)
    (i : Nat) : (t.map f).get i = f (t.get i) := by
  by_cases hi : i < t.rows.size
  · simp [get, map, Array.getD_eq_getD_getElem?, hi]
  · simp [get, map, Array.getD_eq_getD_getElem?, Array.getElem?_eq_none (Nat.le_of_not_lt hi), hf]

theorem map_push (t : Table α) (f : α → β) (a : α) : (t.push a).map f = (t.map f).push (f a) := by
  simp [map, push]

/-- A change that is made before reading may as well be made after it. -/
theorem map_modify (t : Table α) (i : Nat) {f : α → β} {g : α → α} {k : β → β}
    (h : ∀ a, f (g a) = k (f a)) : (t.modify i g).map f = (t.map f).modify i k := by
  unfold map modify
  congr 1
  apply Array.ext
  · simp
  · intro j h₁ h₂
    simp only [Array.getElem_map, Array.getElem_modify]
    split
    · exact h _
    · rfl

end Table

/-- A connection without its cache, whether or not it reports the life of its statements. -/
def Connection.outline (x : Connection) : Connection :=
  { x with cache := { capacity := 0 }, logsLifecycle := false }

/-- A program, whatever statement it holds. -/
def Program.outline (x : Program) : Program :=
  { x with held := x.held.map fun _ => 0 }

/-- A connection with one reference less, if it has any; with the last one it closes. -/
def Connection.give (x : Connection) : Connection :=
  { x with references := x.references - 1, isOpen := x.isOpen && x.references != 1 }

namespace Store

open Operation

variable {σ τ ε α : Type} {E : Engine σ} {s : Store σ} {c : ConnectionId} {p : ProgramId}

/-! ## What closing comes to -/

/-- The store once a reference to a connection was given back. -/
def released (c : ConnectionId) (s : Store σ) : Store σ :=
  s.withConnection c Connection.give

/-- The store once a program was closed. -/
def tornDown (unlist : Bool) (p : ProgramId) (s : Store σ) : Store σ :=
  if (s.program p).isClosed then s.withProgram p fun x => { x with pending := [] }
  else
    ((s.withProgram p fun x =>
        { x with held := none, pending := [], isClosed := true }).withConnection
      (s.program p).connection fun x =>
        if unlist then { x with programs := x.programs.filter (· != p) } else x).released
      (s.program p).connection

/-- The store once a connection was closed with the programs of a list. -/
def shut (c : ConnectionId) (order : List ProgramId) (s : Store σ) : Store σ :=
  if (s.connection c).isOpen then
    (order.foldl (fun s p => s.tornDown false p)
      (s.withConnection c fun x => { x with isOpen := false, programs := [] })).released c
  else s

theorem withConnection_self {s : Store σ} {c : ConnectionId} {f : Connection → Connection}
    (same : f (s.connection c) = s.connection c) : s.withConnection c f = s := by
  rw [withConnection_congr (g := fun x => x) same]
  unfold withConnection
  rw [Table.modify_id]

theorem withProgram_self {s : Store σ} {p : ProgramId} {f : Program → Program}
    (same : f (s.program p) = s.program p) : s.withProgram p f = s := by
  rw [withProgram_congr (g := fun x => x) same]
  unfold withProgram
  rw [Table.modify_id]

/-! Programs may be closed in any order. -/

theorem withProgram_comm (s : Store σ) {p q : ProgramId} (apart : p ≠ q)
    (f g : Program → Program) :
    (s.withProgram p f).withProgram q g = (s.withProgram q g).withProgram p f := by
  unfold withProgram
  rw [Table.modify_comm _ apart]

theorem released_comm (s : Store σ) (c d : ConnectionId) :
    (s.released c).released d = (s.released d).released c := by
  by_cases same : c = d
  · rw [same]
  · unfold released withConnection
    rw [Table.modify_comm _ same]

theorem tornDown_unlisted (s : Store σ) (p : ProgramId) :
    s.tornDown false p =
      if (s.program p).isClosed then s.withProgram p fun x => { x with pending := [] }
      else (s.withProgram p fun x =>
        { x with held := none, pending := [], isClosed := true }).released
          (s.program p).connection := by
  unfold tornDown
  split
  · rfl
  · have same (s : Store σ) (c : ConnectionId) : s.withConnection c (fun x =>
        if false = true then { x with programs := x.programs.filter (· != p) } else x) = s :=
      withConnection_self rfl
    rw [same]

theorem program_tornDown_of_ne (s : Store σ) {p q : ProgramId} (apart : q ≠ p) :
    (s.tornDown false p).program q = s.program q := by
  rw [tornDown_unlisted]
  split
  · exact program_withProgram_of_ne apart _
  · exact program_withProgram_of_ne apart _

theorem tornDown_comm (s : Store σ) (p q : ProgramId) :
    (s.tornDown false p).tornDown false q = (s.tornDown false q).tornDown false p := by
  by_cases same : p = q
  · rw [same]
  have released_withProgram (s : Store σ) (c : ConnectionId) (r : ProgramId)
      (f : Program → Program) :
      (s.released c).withProgram r f = (s.withProgram r f).released c := rfl
  rw [tornDown_unlisted (s.tornDown false p), tornDown_unlisted (s.tornDown false q),
    program_tornDown_of_ne s (Ne.symm same), program_tornDown_of_ne s same,
    tornDown_unlisted s p, tornDown_unlisted s q]
  cases (s.program p).isClosed <;> cases (s.program q).isClosed <;>
    simp only [Bool.false_eq_true, if_true, if_false, released_withProgram,
      withProgram_comm s same]
  exact released_comm ..

theorem shut_perm (s : Store σ) (c : ConnectionId) {order order' : List ProgramId}
    (perm : order.Perm order') : s.shut c order = s.shut c order' := by
  unfold shut
  rw [perm.foldl_eq' fun p _ q _ s => tornDown_comm s p q]

/-! ## Views -/

/-- What a store shows when caches, statements and events are left out, with something else in the
place of the engine. -/
def view (f : σ → τ) (s : Store σ) : Store τ where
  engine := f s.engine
  connections := s.connections.map Connection.outline
  programs := s.programs.map Program.outline

section View

variable (f : σ → τ)

theorem connection_view (s : Store σ) (c : ConnectionId) :
    (s.view f).connection c = (s.connection c).outline :=
  Table.get_map s.connections rfl c

theorem program_view (s : Store σ) (p : ProgramId) :
    (s.view f).program p = (s.program p).outline :=
  Table.get_map s.programs rfl p

theorem view_withConnection (s : Store σ) (c : ConnectionId) {g h : Connection → Connection}
    (hg : ∀ x, (g x).outline = h x.outline) :
    (s.withConnection c g).view f = (s.view f).withConnection c h := by
  unfold withConnection view
  rw [Table.map_modify s.connections c (k := h) hg]

theorem view_withProgram (s : Store σ) (p : ProgramId) {g h : Program → Program}
    (hg : ∀ x, (g x).outline = h x.outline) :
    (s.withProgram p g).view f = (s.view f).withProgram p h := by
  unfold withProgram view
  rw [Table.map_modify s.programs p (k := h) hg]

theorem view_created (s : Store σ) (c : ConnectionId) (sql : String) :
    (s.created c sql).view f = (s.view f).created c sql := by
  unfold created
  rw [view_withConnection f _ c
    (h := fun x => { x with programs := x.programs ++ [s.programs.next] }) fun _ => rfl]
  have new (sql : String) (kind : Kind) :
      ({ connection := c, sql, kind } : Program).outline = { connection := c, sql, kind } := rfl
  unfold view
  rw [Table.map_push, Table.next_map, new]

/-- A cache is not shown. -/
theorem view_withCache (s : Store σ) (c : ConnectionId)
    (g : Cache CompiledId → Cache CompiledId) : (s.withCache c g).view f = s.view f := by
  have same := view_withConnection f s c (g := fun x => { x with cache := g x.cache })
    (h := fun x => x) fun _ => rfl
  refine same.trans ?_
  unfold withConnection
  rw [Table.modify_id]

end View

/-- The shape of a store: what it shows besides its engine. -/
def shape (s : Store σ) : Store Unit :=
  s.view fun _ => ()

instance : Aloof (shape (σ := σ)) where
  rest _ _ _ _ := rfl
  cache := view_withCache _

section Shape

/-- What is left of a connection in the shape of its store. -/
theorem connection_shape {β : Type} (s : Store σ) (c : ConnectionId) (part : Connection → β)
    (kept : ∀ x, part x.outline = part x) :
    part (s.shape.connection c) = part (s.connection c) := by
  unfold shape
  rw [connection_view, kept]

theorem program_shape {β : Type} (s : Store σ) (p : ProgramId) (part : Program → β)
    (kept : ∀ x, part x.outline = part x) : part (s.shape.program p) = part (s.program p) := by
  unfold shape
  rw [program_view, kept]

theorem held_shape (s : Store σ) (p : ProgramId) :
    (s.shape.program p).held = (s.program p).held.map fun _ => 0 := by
  unfold shape
  rw [program_view]
  rfl

theorem next_shape (s : Store σ) :
    s.shape.connections.next = s.connections.next ∧ s.shape.programs.next = s.programs.next :=
  ⟨Table.next_map .., Table.next_map ..⟩

theorem shape_withConnection (s : Store σ) (c : ConnectionId) {g h : Connection → Connection}
    (hg : ∀ x, (g x).outline = h x.outline) :
    (s.withConnection c g).shape = s.shape.withConnection c h :=
  view_withConnection _ s c hg

theorem shape_withProgram (s : Store σ) (p : ProgramId) {g h : Program → Program}
    (hg : ∀ x, (g x).outline = h x.outline) :
    (s.withProgram p g).shape = s.shape.withProgram p h :=
  view_withProgram _ s p hg

end Shape

/-! ## What an operation makes of the shape -/

/-- An operation takes stores of one shape to stores of another. -/
def Shapes (x : Op σ ε α) (f : Store Unit → Store Unit) : Prop :=
  ∀ s, (x.run s).2.shape = f s.shape

namespace Shapes

theorem both {x y : Op σ ε Unit} {f g : Store Unit → Store Unit} (hx : Shapes x f)
    (hy : Shapes y g) : Shapes (both x y) fun o => g (f o) := by
  intro s
  rw [run_both_snd, hy, hx]

theorem forAll {β : Type} {x : β → Op σ ε Unit} {f : β → Store Unit → Store Unit}
    (hx : ∀ b, Shapes (x b) (f b)) (bs : List β) :
    Shapes (forAll x bs) fun o => bs.foldl (fun o b => f b o) o := by
  induction bs with
  | nil => exact fun _ => rfl
  | cons b bs ih => exact (hx b).both ih

theorem releaseReference (c : ConnectionId) :
    Shapes (releaseReference E c) (released c) := by
  intro s
  rw [released, ← shape_withConnection s c (g := Connection.give) fun _ => rfl]
  match hn : (s.connection c).references with
  | 0 =>
    rw [releaseReference_none hn]
    exact congrArg shape (withConnection_self (by
      rcases hx : s.connection c with ⟨engine, logs, isOpen, references, cache, programs, clones⟩
      rw [hx] at hn
      simp [Connection.give, show references = 0 from hn])).symm
  | 1 =>
    rw [releaseReference_last hn]
    refine (retire_shown c _).trans (congrArg shape ?_)
    rw [withConnection_withConnection]
    exact withConnection_congr (by simp [Connection.give, hn])
  | n + 2 =>
    rw [releaseReference_more hn]
    exact congrArg shape (withConnection_congr (by simp [Connection.give, hn]))

theorem relinquishHeld (p : ProgramId) :
    Shapes (relinquishHeld E p) fun o => o.withProgram p fun x => { x with held := none } := by
  intro s
  show _ = s.shape.withProgram p fun x => { x with held := none }
  rw [← shape_withProgram s p (g := fun x => { x with held := none }) fun _ => rfl]
  cases hh : (s.program p).held with
  | none =>
    rw [relinquishHeld_none hh]
    exact congrArg shape (withProgram_self (by
      rcases hx : s.program p with ⟨connection, sql, kind, held, pending, isClosed, isDropped⟩
      rw [hx] at hh
      simp [show held = none from hh])).symm
  | some h =>
    rw [relinquishHeld_some hh]
    exact keeps_relinquish _

/-- What follows when a program is closed, once it has given up its statement. -/
theorem leave (unlist : Bool) {t : Store σ} (home : (t.program p).connection = c) :
    ((do
      if unlist then deregister p
      Store.releaseReference E c : Op σ EngineError Unit).run t).2.shape =
      (t.shape.withConnection c fun x =>
        if unlist then { x with programs := x.programs.filter (· != p) } else x).released c := by
  cases unlist with
  | false =>
    rw [withConnection_self (by rfl)]
    exact releaseReference c t
  | true =>
    subst home
    refine (releaseReference _ _).trans (congrArg (Store.released _) ?_)
    exact shape_withConnection t _ fun _ => rfl

theorem tearDown (unlist : Bool) (p : ProgramId) :
    Shapes (tearDown E unlist p) (tornDown unlist p) := by
  intro s
  have closed := program_shape s p (fun x => x.isClosed) fun _ => rfl
  have home := program_shape s p (fun x => x.connection) fun _ => rfl
  unfold tornDown
  rw [closed, home]
  cases hc : (s.program p).isClosed with
  | true =>
    rw [tearDown_closed hc]
    exact shape_withProgram s p fun _ => rfl
  | false =>
    let t := s.withProgram p fun x => { x with pending := [], isClosed := true }
    have given : ((Store.relinquishHeld E p).run t).2.shape = s.shape.withProgram p
        fun x => { x with held := none, pending := [], isClosed := true } := by
      apply (relinquishHeld p t).trans
      show t.shape.withProgram p _ = _
      rw [shape_withProgram s p (h := fun x => { x with pending := [], isClosed := true })
        fun _ => rfl, withProgram_withProgram]
    have own : (((Store.relinquishHeld E p).run t).2.program p).connection =
        (s.program p).connection := by
      apply (congrArg (fun v => (v.2 p).1) (relinquishHeld_keeps (E := E) (p := p) t)).trans
      exact program_part s p p (fun x => x.connection) fun _ => rfl
    rw [tearDown_open hc, if_neg Bool.false_ne_true, run_both_snd, ← given]
    exact leave unlist own

theorem dropProgram (p : ProgramId) : Shapes (dropProgram E p : Op σ ε Unit) fun o =>
    (o.tornDown true p).withProgram p fun x => { x with isDropped := true } := by
  intro s
  have gone (t : Store σ) : (((do
      change (·.withProgram p fun x => { x with isDropped := true })
      dropConnectionIfUnreferenced E (s.program p).connection : Op σ ε Unit).run t).2.shape) =
        t.shape.withProgram p fun x => { x with isDropped := true } := by
    rw [← shape_withProgram t p (g := fun x => { x with isDropped := true }) fun _ => rfl]
    exact keeps_dropConnectionIfUnreferenced _
  have torn := tearDown (E := E) true p s
  show _ = (s.shape.tornDown true p).withProgram p _
  rw [← torn]
  simp only [Store.dropProgram, run_bind, run_read, attempt]
  rcases (Store.tearDown E true p).run s with ⟨e | _, t⟩
  · exact gone { t with events := t.events ++ [.programDropFailed (s.program p).sql e] }
  · exact gone t

theorem closeInOrder (c : ConnectionId) (order : List ProgramId) :
    Shapes (closeInOrder E c order) (shut c order) := by
  intro s
  have isOpen := connection_shape s c (fun x => x.isOpen) fun _ => rfl
  unfold shut
  rw [isOpen]
  cases ho : (s.connection c).isOpen with
  | false => simp [Store.closeInOrder, ho]
  | true =>
    obtain ⟨es, traced⟩ := trace_run (ε := EngineError) c (.connectionClosed order.length)
      (s.withConnection c fun x => { x with isOpen := false, programs := [] })
    simp only [Store.closeInOrder, run_bind, run_read, ho, if_true, run_change, traced]
    refine (((forAll (tearDown false) order).both (releaseReference c)) _).trans ?_
    rw [← shape_withConnection s c (g := fun x => { x with isOpen := false, programs := [] })
      fun _ => rfl]
    rfl

end Shapes

end Store

end Prepared
