import Prepared.Proofs.Accounts
import Prepared.Proofs.Books

/-! Entries in the books.

Every action makes one of a few entries in the books, so what holds of the books after every run
is proved entry by entry. -/
namespace Prepared.Store

open Operation

variable {σ ε : Type} {E : Engine σ} {s t : Store σ}

/-- The entry that an action makes between two stores. -/
inductive Entry (s t : Store σ) : Action → Prop
  | nothing {a} (books : t.books = s.books) : Entry s t a
  | connected {a} (old : ∀ d, d ≠ s.connections.next → t.account d = s.account d)
      (new : t.account s.connections.next = ⟨1, true, []⟩)
      (closed : ∀ q, (t.program q).isClosed = (s.program q).isClosed) : Entry s t a
  | taken {a} (c : ConnectionId) (room : (s.account c).references < maxReferences)
      (account : ∀ d, t.account d = if d = c then (s.account d).take else s.account d)
      (closed : ∀ q, (t.program q).isClosed = (s.program q).isClosed) : Entry s t a
  | given {c}
      (account : ∀ d, t.account d = if d = c then (s.account d).give else s.account d)
      (closed : ∀ q, (t.program q).isClosed = (s.program q).isClosed) :
      Entry s t (.releaseReference c)
  | enlisted {a} (c : ConnectionId) (room : (s.account c).references < maxReferences)
      (account : ∀ d, t.account d =
        if d = c then (s.account d).take.enlist s.programs.next else s.account d)
      (new : (t.program s.programs.next).isClosed = false)
      (closed : ∀ q, q ≠ s.programs.next → (t.program q).isClosed = (s.program q).isClosed) :
      Entry s t a
  | ended {a} (p : ProgramId) (live : (s.program p).isClosed = false)
      (account : ∀ d, t.account d =
        if d = (s.program p).connection then ((s.account d).strike p).give else s.account d)
      (closed : ∀ q, q ≠ p → (t.program q).isClosed = (s.program q).isClosed) : Entry s t a
  | shut {c order} (others : ∀ d, d ≠ c → t.account d = s.account d)
      (references : (t.account c).references = (s.account c).references - order.length - 1)
      (programs : (t.account c).programs = [])
      (swept : ∀ q ∈ order, (s.program q).connection = c)
      (closed : ∀ q, (t.program q).isClosed = ((s.program q).isClosed || decide (q ∈ order))) :
      Entry s t (.closeConnection c order)

section Keeps

variable {β : Type} {v : Store σ → β} [Aloof v] {p : ProgramId} {c : ConnectionId}

theorem bindValue_keeps (position : UInt32) (value : Value) :
    Keeps steady (bindValue E p position value) := by
  refine .ite (.throw _) (.bind verifyUsable_keeps fun _ => .bind (.read _) fun x => ?_)
  cases x.held with
  | none => exact .change fun s => steady_withProgram s p fun _ => rfl
  | some h => exact .mapError (.bind (.read _) fun _ => keeps_request)

theorem clearBindings_keeps : Keeps steady (clearBindings E p) := by
  refine .bind verifyUsable_keeps fun _ =>
    .bind (.change fun s => steady_withProgram s p fun _ => rfl) fun _ => .bind (.read _) fun x => ?_
  cases x.held with
  | none => exact .pure _
  | some h => exact .bind (.read _) fun _ => .mapError keeps_request

theorem execute_keeps : Keeps steady (execute E p) :=
  .bind verifyUsable_keeps fun _ => .bind (.mapError ensureCompiled_keeps) fun _ =>
    executeHeld_keeps fun _ _ => keeps_request

theorem evict_keeps (sql : String) : Keeps v (evict E c sql) := by
  refine .bind keeps_onCache fun out => ?_
  cases out with
  | none => exact .pure _
  | some h => exact .bind keeps_discard fun _ => .pure _

theorem setCapacity_keeps (size : Nat) : Keeps v (setCapacity E c size) :=
  .ite (.throw _) (.bind (.read _) fun _ => .ite (.throw _) (.bind keeps_onCache fun out =>
    .mapError (.forAll (fun _ => keeps_discard) out)))

theorem lookup_keeps (sql : String) : Keeps v (lookup c sql : Op σ ε (Option CompiledId)) := by
  refine .bind (.read _) fun x => ?_
  cases x.cache.peek? (Text.trim sql) with
  | none => exact .pure _
  | some h => exact .bind keeps_statements fun _ => .pure _

theorem giveBack_keeps (h : CompiledId) : Keeps v (giveBack E h : Op σ ε Unit) :=
  .bind keeps_statements fun _ => keeps_dropUnreferenced

theorem dropConnection_keeps : Keeps books (dropConnection E c : Op σ ε Unit) :=
  .bind (.change fun s => books_withConnection s c fun _ => rfl) fun _ =>
    keeps_dropConnectionIfUnreferenced

end Keeps

namespace Entry

theorem of_keeps {α : Type} {x : Op σ ε α} (h : Keeps books x) (a : Action) (s : Store σ) :
    Entry s (x.run s).2 a :=
  .nothing (h s)

theorem of_steady {α : Type} {x : Op σ ε α} (h : Keeps steady x) (a : Action) (s : Store σ) :
    Entry s (x.run s).2 a :=
  .nothing (books_of_steady (h s))

/-- An entry is read off the books alone. -/
theorem of_books {u : Store σ} {a : Action} (he : Entry s u a) (h : t.books = u.books) :
    Entry s t a := by
  have account (d : ConnectionId) : t.account d = u.account d := congrArg (fun b => b.1 d) h
  have closed (q : ProgramId) : (t.program q).isClosed = (u.program q).isClosed :=
    congrArg (fun b => b.2 q) h
  cases he with
  | nothing same => exact .nothing (h.trans same)
  | connected old new ends =>
    exact .connected (fun d hd => (account d).trans (old d hd)) ((account _).trans new)
      fun q => (closed q).trans (ends q)
  | taken c room accounts ends =>
    exact .taken c room (fun d => (account d).trans (accounts d)) fun q => (closed q).trans (ends q)
  | given accounts ends =>
    exact .given (fun d => (account d).trans (accounts d)) fun q => (closed q).trans (ends q)
  | enlisted c room accounts new ends =>
    exact .enlisted c room (fun d => (account d).trans (accounts d)) ((closed _).trans new)
      fun q hq => (closed q).trans (ends q hq)
  | ended p live accounts ends =>
    exact .ended p live (fun d => (account d).trans (accounts d))
      fun q hq => (closed q).trans (ends q hq)
  | shut others references programs swept ends =>
    refine .shut (fun d hd => (account d).trans (others d hd)) ?_ ?_ swept
      fun q => (closed q).trans (ends q)
    · rw [account]
      exact references
    · rw [account]
      exact programs

theorem tearDown (p : ProgramId) (a : Action) (s : Store σ) :
    Entry s ((Store.tearDown E true p).run s).2 a := by
  cases hc : (s.program p).isClosed with
  | true => exact .nothing (tearDown_books_closed true hc)
  | false =>
    exact .ended p hc (fun d => tearDown_books_open true hc d)
      fun q hq => tearDown_closes_only true hq

theorem dropProgram (p : ProgramId) (a : Action) (s : Store σ) :
    Entry s ((Store.dropProgram E p : Op σ ε Unit).run s).2 a :=
  (Entry.tearDown p a s).of_books (dropProgram_books p s)

/-- Creating a program enlists it, or fails without an entry. -/
theorem createDeferred (c : ConnectionId) (sql : String) (a : Action) (s : Store σ) :
    Entry s ((Store.createDeferred c sql).run s).2 a := by
  by_cases h : (s.connection c).isOpen = false ∨ ¬ (s.connection c).Grants
  · obtain ⟨e, run⟩ := createDeferred_error sql h
    rw [run]
    exact .nothing rfl
  · rw [not_or, Bool.not_eq_false, not_not] at h
    rw [createDeferred_ok sql h.1 h.2]
    have hc : c < s.connections.next := lt_of_isOpen h.1
    refine .enlisted c h.2.2 (account_created sql hc) ?_ fun q hq => ?_
    · rw [program_created]
      simp
    · rw [program_created]
      simp [hq]

/-- A program that cannot be compiled leaves no entry either. -/
theorem createCompiled_failed {c : ConnectionId} {sql : String} {e : ProgramError}
    (absent : s.programs.next ∉ (s.account c).programs)
    (run : (Store.createCompiled E c sql).run s = (.error e, t)) : t.books = s.books := by
  by_cases h : (s.connection c).isOpen = false ∨ ¬ (s.connection c).Grants
  · obtain ⟨e', failed⟩ := createDeferred_error sql h
    simp only [Store.createCompiled, run_bind, failed] at run
    exact congrArg books (Prod.mk.inj run).2.symm
  rw [not_or, Bool.not_eq_false, not_not] at h
  have hc : c < s.connections.next := lt_of_isOpen h.1
  let p := s.programs.next
  let u := (s.withConnection c fun x => { x with references := x.references + 1 }).created c sql
  have created : (Store.createDeferred c sql).run s = (.ok p, u) :=
    createDeferred_ok sql h.1 h.2
  have kept : ((compileProgram E p).run u).2.steady = u.steady := compileProgram_keeps u
  rcases hv : (compileProgram E p).run u with ⟨_ | _, v⟩
  · rw [hv] at kept
    have dropped : t = ((Store.dropProgram E p : Op σ ProgramError Unit).run v).2 := by
      rw [createCompiled_error created hv] at run
      exact (Prod.mk.inj run).2.symm
    have program (q : ProgramId) : (v.program q).connection = (u.program q).connection ∧
        (v.program q).isClosed = (u.program q).isClosed := by
      have same := congrArg (fun w => w.2 q) kept
      exact ⟨congrArg (fun w => w.1) same, congrArg (fun w => w.2.2) same⟩
    have new : u.program p =
        { connection := c, sql := Text.trim sql, kind := Kind.classify (Text.trim sql) } :=
      (program_created _ c sql p).trans (if_pos rfl)
    have live : (v.program p).isClosed = false := by rw [(program p).2, new]
    have home : (v.program p).connection = c := by rw [(program p).1, new]
    have account (d : ConnectionId) : v.account d =
        if d = c then (s.account d).take.enlist p else s.account d :=
      (congrArg (fun b => b.1 d) (books_of_steady kept)).trans (account_created sql hc d)
    -- what was taken and enlisted is struck and given back
    have accounts (d : ConnectionId) :
        ((Store.tearDown E true p).run v).2.account d = s.account d := by
      rw [tearDown_books_open true live, home, account]
      by_cases hd : d = c
      · subst hd
        simpa using Account.give_strike_enlist_take h.2.1 absent
      · simp [hd]
    have closed (q : ProgramId) :
        (((Store.tearDown E true p).run v).2.program q).isClosed = (s.program q).isClosed := by
      by_cases hq : q = p
      · subst hq
        rw [tearDown_closes]
        exact (congrArg Program.isClosed (Table.get_of_le s.programs (Nat.le_refl _))).symm
      · rw [tearDown_closes_only true hq, (program q).2]
        exact congrArg Program.isClosed ((program_created _ c sql q).trans (if_neg hq))
    rw [dropped, dropProgram_books]
    exact Prod.ext (funext accounts) (funext closed)
  · rw [createCompiled_ok created hv] at run
    cases (Prod.mk.inj run).1

/-- A program that was created and compiled is enlisted. -/
theorem createCompiled {c : ConnectionId} {sql : String} (a : Action)
    (absent : s.programs.next ∉ (s.account c).programs) :
    Entry s ((Store.createCompiled E c sql).run s).2 a := by
  rcases hr : (Store.createCompiled E c sql).run s with ⟨e | p, t⟩
  · exact .nothing (createCompiled_failed absent hr)
  · have deferred := Entry.createDeferred (σ := σ) c sql a s
    rcases hd : (Store.createDeferred c sql).run s with ⟨_ | q, u⟩
    · simp only [Store.createCompiled, run_bind, hd] at hr
      cases (Prod.mk.inj hr).1
    · rw [hd] at deferred
      have kept : ((compileProgram E q).run u).2.books = u.books :=
        books_of_steady (compileProgram_keeps u)
      refine deferred.of_books (Eq.trans ?_ kept)
      rcases hv : (compileProgram E q).run u with ⟨_ | _, v⟩
      · rw [createCompiled_error hd hv] at hr
        cases (Prod.mk.inj hr).1
      · rw [createCompiled_ok hd hv] at hr
        exact (congrArg books (Prod.mk.inj hr).2).symm

end Entry

/-- How far the sweep of a connection has come, when these programs are left. -/
structure Sweeping (s : Store σ) (c : ConnectionId) (order ps : List ProgramId)
    (t : Store σ) : Prop where
  others : ∀ d, d ≠ c → t.account d = s.account d
  references : (t.account c).references - ps.length = (s.account c).references - order.length
  programs : (t.account c).programs = []
  homes : ∀ q, (t.program q).connection = (s.program q).connection
  closed : ∀ q, (t.program q).isClosed =
    ((s.program q).isClosed || decide (q ∈ order ∧ q ∉ ps))
  nodup : ps.Nodup
  left : ps ⊆ order

theorem Sweeping.step {c : ConnectionId} {order ps : List ProgramId} {p : ProgramId}
    (listed : ∀ p ∈ order, (s.program p).connection = c ∧ (s.program p).isClosed = false)
    (h : Sweeping s c order (p :: ps) t) :
    Sweeping s c order ps ((tearDown E false p).run t).2 := by
  have inOrder : p ∈ order := h.left (List.mem_cons_self ..)
  obtain ⟨home, unswept⟩ := listed p inOrder
  have live : (t.program p).isClosed = false := by simp [h.closed, unswept]
  obtain ⟨fresh, nodup⟩ := List.nodup_cons.1 h.nodup
  have account := tearDown_books_open (E := E) false live
  have only {q : ProgramId} (hq : q ≠ p) := tearDown_closes_only (E := E) (s := t) false hq
  rw [h.homes, home] at account
  have own : ((tearDown E false p).run t).2.account c = (t.account c).give := by
    simpa using account c
  constructor
  case others =>
    intro d hd
    rw [account, if_neg hd]
    exact h.others d hd
  case references =>
    have before := h.references
    rw [own]
    simp only [Account.give, List.length_cons] at before ⊢
    omega
  case programs =>
    rw [own]
    exact h.programs
  case homes =>
    intro q
    exact (congrArg (fun v => (v.1 q).1) (tearDown_keeps t)).trans (h.homes q)
  case closed =>
    intro q
    by_cases hq : q = p
    · subst hq
      rw [tearDown_closes]
      simp [inOrder, fresh]
    · rw [only hq, h.closed]
      simp [hq]
  case nodup => exact nodup
  case left => exact fun q hq => h.left (List.mem_cons_of_mem _ hq)

/-- Closing a connection gives back a reference for each of its programs and the owner's. -/
theorem closeInOrder_books {c : ConnectionId} {order : List ProgramId}
    (isOpen : (s.connection c).isOpen = true) (nodup : order.Nodup)
    (listed : ∀ p ∈ order, (s.program p).connection = c ∧ (s.program p).isClosed = false) :
    let t := ((closeInOrder E c order).run s).2
    (∀ d, d ≠ c → t.account d = s.account d) ∧
    (t.account c).references = (s.account c).references - order.length - 1 ∧
    (t.account c).programs = [] ∧
    ∀ q, (t.program q).isClosed = ((s.program q).isClosed || decide (q ∈ order)) := by
  have hc : c < s.connections.next := lt_of_isOpen isOpen
  let u := s.withConnection c fun x => { x with isOpen := false, programs := [] }
  have account := account_withConnection (g := fun a => { a with isOpen := false, programs := [] })
    hc (f := fun x => { x with isOpen := false, programs := [] }) fun _ => rfl
  let v := ((trace c (.connectionClosed order.length) : Op σ EngineError Unit).run u).2
  have bare : v.bare = u.bare := keeps_trace u
  have books : v.books = u.books := books_of_bare bare
  have own : v.account c = { s.account c with isOpen := false, programs := [] } :=
    (congrArg (fun b => b.1 c) books).trans ((account c).trans (if_pos rfl))
  have begun : Sweeping s c order order v := by
    constructor
    case others =>
      intro d hd
      exact (congrArg (fun b => b.1 d) books).trans ((account d).trans (if_neg hd))
    case references => rw [own]
    case programs => rw [own]
    case homes => exact fun q => congrArg (fun b => (b.1.get q).connection) bare
    case closed =>
      intro q
      have unswept : (v.program q).isClosed = (s.program q).isClosed :=
        congrArg (fun b => b.2 q) books
      simp [unswept]
    case nodup => exact nodup
    case left => exact fun _ => id
  let w := ((forAll (tearDown E false) order).run v).2
  have swept : Sweeping s c order [] w :=
    Ensures.forAll (I := fun ps t => Sweeping s c order ps t)
      (fun _ _ _ h => h.step listed) order v begun
  have run : ((closeInOrder E c order).run s).2 = ((releaseReference E c).run w).2 := by
    have traced : (trace c (.connectionClosed order.length) : Op σ EngineError Unit).run u =
        (.ok (), v) := by
      simp only [v, trace, run_bind, run_read]
      split <;> rfl
    simp only [closeInOrder, run_bind, run_read, isOpen, if_true, run_change]
    rw [traced]
    exact run_both_snd ..
  obtain ⟨given, ends⟩ := releaseReference_books (E := E) c w
  rw [run]
  refine ⟨fun d hd => ?_, ?_, ?_, fun q => ?_⟩
  · rw [given, if_neg hd]
    exact swept.others d hd
  · have references := swept.references
    rw [given, if_pos rfl]
    simp only [Account.give, List.length_nil] at references ⊢
    omega
  · rw [given, if_pos rfl]
    exact swept.programs
  · rw [ends, swept.closed]
    simp

theorem closeInOrder_closed {c : ConnectionId} (order : List ProgramId)
    (closed : (s.connection c).isOpen = false) : (closeInOrder E c order).run s = (.ok (), s) := by
  simp [closeInOrder, closed]

namespace Entry

theorem closeConnection {c : ConnectionId} {order : List ProgramId} (nodup : order.Nodup)
    (listed : ∀ p ∈ order, (s.program p).connection = c ∧ (s.program p).isClosed = false) :
    Entry s ((closeInOrder E c order).run s).2 (.closeConnection c order) := by
  cases isOpen : (s.connection c).isOpen with
  | true =>
    obtain ⟨others, references, programs, closed⟩ := closeInOrder_books (E := E) isOpen nodup listed
    exact .shut others references programs (fun q hq => (listed q hq).1) closed
  | false =>
    rw [closeInOrder_closed order isOpen]
    exact .nothing rfl

theorem addConnection (i : EngineId) (settings : Settings) (a : Action) (s : Store σ) :
    Entry s ((Store.addConnection i settings : Op σ ε ConnectionId).run s).2 a := by
  refine .connected (fun d hd => ?_) ?_ fun _ => rfl
  · exact congrArg Connection.account ((connection_pushed s _ d).trans (if_neg hd))
  · exact congrArg Connection.account ((connection_pushed s _ _).trans (if_pos rfl))

theorem acquireReference (c : ConnectionId) (a : Action) (s : Store σ) :
    Entry s ((Store.acquireReference c).run s).2 a := by
  by_cases grants : (s.connection c).Grants
  · have hc : c < s.connections.next := lt_of_references grants.1
    rw [acquireReference_ok grants]
    exact .taken c grants.2 (account_withConnection (g := Account.take) hc fun _ => rfl) fun _ => rfl
  · rw [acquireReference_error grants]
    exact .nothing rfl

theorem bindPresent {p : ProgramId} (position : UInt32) (value : Option Value) (a : Action)
    (s : Store σ) : Entry s ((Store.bindPresent E p position value).run s).2 a := by
  cases value with
  | none => exact .nothing rfl
  | some v => exact .of_steady (bindValue_keeps position v) a s

end Entry

end Prepared.Store
