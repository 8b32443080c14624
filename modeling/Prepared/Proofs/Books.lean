import Prepared.Proofs.Sound

/-! Books.

The account of a connection shows its references, whether it is open and the programs on its
list. An action leaves the books as they are, or makes one entry: a reference is taken or given
back, a program is enlisted or closed, a connection is opened, or closed with all its
programs. -/
namespace Prepared

/-- What is kept in the books about a connection. -/
structure Account where
  references : Nat
  isOpen : Bool
  programs : List ProgramId

namespace Account

/-- One more reference. -/
def take (a : Account) : Account :=
  { a with references := a.references + 1 }

/-- One reference less, if there is any; with the last one the connection closes. -/
def give (a : Account) : Account :=
  { a with references := a.references - 1, isOpen := a.isOpen && a.references != 1 }

/-- One more program. -/
def enlist (a : Account) (p : ProgramId) : Account :=
  { a with programs := a.programs ++ [p] }

/-- A program is taken off the list. -/
def strike (a : Account) (p : ProgramId) : Account :=
  { a with programs := a.programs.filter (· != p) }

/-- Enlisting a program with a reference and closing it again changes nothing, unless the
program was on the list. -/
theorem give_strike_enlist_take {a : Account} {p : ProgramId} (some : a.references ≠ 0)
    (absent : p ∉ a.programs) : ((a.take.enlist p).strike p).give = a := by
  obtain ⟨n, isOpen, ps⟩ := a
  have kept : ps.filter (· != p) = ps := by
    apply List.filter_eq_self.2
    intro q hq
    simp only [bne_iff_ne, ne_eq]
    rintro rfl
    exact absent hq
  have more : n ≠ 0 := some
  simp [take, enlist, strike, give, kept, more]

end Account

/-- The account of a connection. -/
def Connection.account (x : Connection) : Account :=
  ⟨x.references, x.isOpen, x.programs⟩

namespace Store

open Operation

variable {σ ε : Type} {E : Engine σ} {s t : Store σ} {c : ConnectionId} {p : ProgramId}

/-- The account of the connection at a position. -/
def account (s : Store σ) (c : ConnectionId) : Account :=
  (s.connection c).account

/-- The books: all accounts, and which programs are closed. -/
def books (s : Store σ) : (ConnectionId → Account) × (ProgramId → Bool) :=
  (s.account, fun p => (s.program p).isClosed)

theorem books_of_steady (h : t.steady = s.steady) : t.books = s.books :=
  congrArg (fun v => ((fun c => (v.1 c).account), fun p => (v.2 p).2.2)) h

theorem books_of_bare (h : t.bare = s.bare) : t.books = s.books :=
  books_of_steady (steady_of_bare h)

instance : Aloof (books (σ := σ)) where
  rest _ _ _ _ := rfl
  cache s c f := books_of_bare (bare_withCache s c f)

/-- A program is changed, but not closed. -/
theorem books_withProgram (s : Store σ) (p : ProgramId) {f : Program → Program}
    (hf : ∀ x, (f x).isClosed = x.isClosed) : (s.withProgram p f).books = s.books :=
  Prod.ext rfl (funext fun q => program_part s p q (fun x => x.isClosed) hf)

/-- A connection is changed, but nothing that its account shows. -/
theorem books_withConnection (s : Store σ) (c : ConnectionId) {f : Connection → Connection}
    (hf : ∀ x, (f x).account = x.account) : (s.withConnection c f).books = s.books :=
  Prod.ext (funext fun d => connection_part s c d Connection.account hf) rfl

theorem account_withConnection {f : Connection → Connection} {g : Account → Account}
    (hc : c < s.connections.next) (hf : ∀ x, (f x).account = g x.account) (d : ConnectionId) :
    (s.withConnection c f).account d = if d = c then g (s.account d) else s.account d := by
  unfold account
  rw [connection_withConnection]
  by_cases hd : d = c
  · simp [hd, hc, hf]
  · simp [hd]

/-! What each operation enters. -/

/-- Giving back a reference is entered in one account, and closes no program. -/
theorem releaseReference_books (c : ConnectionId) (s : Store σ) :
    (∀ d, ((releaseReference E c).run s).2.account d =
      if d = c then (s.account d).give else s.account d) ∧
    ∀ p, (((releaseReference E c).run s).2.program p).isClosed = (s.program p).isClosed := by
  have ends (p : ProgramId) :
      (((releaseReference E c).run s).2.program p).isClosed = (s.program p).isClosed :=
    congrArg (fun t => (t.get p).isClosed) (releaseReference_keeps_programs s)
  refine ⟨fun d => ?_, ends⟩
  match hn : (s.connection c).references with
  | 0 =>
    rw [releaseReference_none hn]
    by_cases hd : d = c
    · subst hd
      simp [account, Connection.account, Account.give, hn]
    · simp [hd]
  | 1 =>
    have hc : c < s.connections.next := lt_of_references (by simp [hn])
    rw [releaseReference_last hn]
    refine (congrArg (fun b => b.1 d) (retire_shown (v := books) c _)).trans ?_
    show Store.account _ d = _
    simp only [withConnection_withConnection]
    unfold account
    rw [connection_withConnection]
    by_cases hd : d = c
    · subst hd
      simp [Connection.account, Account.give, hn, hc]
    · simp [hd]
  | n + 2 =>
    have hc : c < s.connections.next := lt_of_references (by simp [hn])
    rw [releaseReference_more hn]
    show (s.withConnection c _).account d = _
    unfold account
    rw [connection_withConnection]
    by_cases hd : d = c
    · subst hd
      simp [Connection.account, Account.give, hn, hc]
    · simp [hd]

/-- A program that is closed already makes no entry. -/
theorem tearDown_books_closed (unlist : Bool) (hc : (s.program p).isClosed = true) :
    ((tearDown E unlist p).run s).2.books = s.books := by
  rw [tearDown_closed hc]
  exact books_withProgram s p fun _ => rfl

/-- Closing a program gives one reference back, and takes the program off the list if that is
asked for. -/
theorem tearDown_books_open (unlist : Bool) (hc : (s.program p).isClosed = false)
    (d : ConnectionId) :
    ((tearDown E unlist p).run s).2.account d =
      if d = (s.program p).connection then
        (if unlist then (s.account d).strike p else s.account d).give
      else s.account d := by
  rw [tearDown_open hc]
  let t := s.withProgram p fun x => { x with pending := [], isClosed := true }
  let u := ((relinquishHeld E p).run t).2
  have held : u.account = s.account :=
    congrArg (fun b => b.1) (books_of_steady (relinquishHeld_keeps (E := E) (p := p) t))
  have home : (u.program p).connection = (s.program p).connection := by
    apply (congrArg (fun v => (v.2 p).1) (relinquishHeld_keeps (E := E) (p := p) t)).trans
    exact program_part s p p (fun x => x.connection) fun _ => rfl
  rw [run_both_snd]
  change ((_ : Op σ EngineError Unit).run u).2.account d = _
  cases unlist with
  | false =>
    have given := (releaseReference_books (E := E) (s.program p).connection u).1 d
    rw [held] at given
    simpa using given
  | true =>
    let v := u.withConnection (s.program p).connection fun x =>
      { x with programs := x.programs.filter (· != p) }
    have run : (deregister p : Op σ EngineError Unit).run u = (.ok (), v) := by
      simp [deregister, home, v]
    have given := (releaseReference_books (E := E) (s.program p).connection v).1 d
    have struck : v.account d =
        if d = (s.program p).connection then (s.account d).strike p else s.account d := by
      rw [← held]
      show (u.withConnection _ _).account d = _
      unfold account
      rw [connection_withConnection]
      by_cases hd : d = (s.program p).connection
      · by_cases hn : (s.program p).connection < u.connections.next
        · simp [hd, hn, Connection.account, Account.strike]
        -- a connection that does not exist lists nothing
        · have absent : u.connection (s.program p).connection = default :=
            Table.get_of_le _ (Nat.le_of_not_lt hn)
          simp [hd, hn, absent, Connection.account, Account.strike, default]
      · simp [hd]
    simp only [if_true, run_bind, run]
    rw [given, struck]
    split <;> rfl

/-- Closing a program closes no other. -/
theorem tearDown_closes_only (unlist : Bool) {q : ProgramId} (hq : q ≠ p) :
    (((tearDown E unlist p).run s).2.program q).isClosed = (s.program q).isClosed := by
  cases hc : (s.program p).isClosed with
  | true => exact congrArg (fun b => b.2 q) (tearDown_books_closed unlist hc)
  | false =>
    rw [tearDown_isClosed hc, program_withProgram_of_ne hq]

theorem keeps_dropConnectionIfUnreferenced {β : Type} {v : Store σ → β} [Aloof v] :
    Keeps v (dropConnectionIfUnreferenced E c : Op σ ε Unit) :=
  .bind (.read _) fun _ => .ite (.pure _) (.bind keeps_onCache fun out =>
    .forAll (fun _ => keeps_dropUnreferenced) out)

/-- Dropping a program enters what closing it does. -/
theorem dropProgram_books (p : ProgramId) (s : Store σ) :
    ((dropProgram E p : Op σ ε Unit).run s).2.books =
      ((tearDown E true p).run s).2.books := by
  have gone : Keeps books (do
      change (·.withProgram p fun x => { x with isDropped := true })
      dropConnectionIfUnreferenced E (s.program p).connection : Op σ ε Unit) := by
    refine .bind (.change fun s => books_withProgram s p fun _ => rfl) fun _ => ?_
    exact keeps_dropConnectionIfUnreferenced
  simp only [dropProgram, run_bind, run_read, attempt]
  rcases (tearDown E true p).run s with ⟨e | _, t⟩
  · exact gone { t with events := t.events ++ [.programDropFailed (s.program p).sql e] }
  · exact gone t

/-- The books after a program was created. -/
theorem account_created (sql : String) (hc : c < s.connections.next) (d : ConnectionId) :
    ((s.withConnection c fun x => { x with references := x.references + 1 }).created c sql).account
        d =
      if d = c then (s.account d).take.enlist s.programs.next else s.account d := by
  let t := s.withConnection c fun x => { x with references := x.references + 1 }
  have taken := account_withConnection (g := Account.take) hc
    (f := fun x => { x with references := x.references + 1 }) (fun _ => rfl) d
  have ht : c < t.connections.next := by simpa [t] using hc
  have enlisted := account_withConnection (c := c)
    (s := { t with
      programs := t.programs.push
        { connection := c, sql := Text.trim sql, kind := Kind.classify (Text.trim sql) } })
    (g := fun a => a.enlist s.programs.next) ht
    (f := fun x => { x with programs := x.programs ++ [s.programs.next] }) (fun _ => rfl) d
  refine Eq.trans enlisted ?_
  show (if d = c then (t.account d).enlist _ else t.account d) = _
  rw [taken]
  split <;> rfl

end Store

end Prepared
