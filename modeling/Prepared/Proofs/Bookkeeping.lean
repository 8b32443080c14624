import Prepared.Proofs.Entries
import Prepared.Proofs.Leaks

/-! Bookkeeping.

The books are right after every run. The list of a connection has its open programs and no
others. As long as nobody gives back what he has not taken, the references of a connection are
one of its own until it is closed, one for each open program, and those outside. -/
namespace Prepared.Store

open Operation

variable {σ : Type} {E : Engine σ} {s t : Store σ}

/-- The programs on the list of a connection are its own, each once, and open. -/
structure Listed (s : Store σ) : Prop where
  nodup : ∀ c, (s.account c).programs.Nodup
  member : ∀ c p, p ∈ (s.account c).programs →
    (s.program p).connection = c ∧ (s.program p).isClosed = false

theorem Listed.absent (h : Listed s) (c : ConnectionId) :
    s.programs.next ∉ (s.account c).programs := by
  intro hm
  exact Nat.lt_irrefl _ (lt_of_not_closed (h.member c _ hm).2)

/-- Every allowed action makes an entry. -/
theorem Action.enters (h : Listed s) (a : Action) (allowed : a.Allowed s) :
    Entry s (a.perform E s).2 a := by
  cases a with
  | openConnection i settings =>
    show Entry s ((Store.openConnection i settings).run s).2 _
    unfold Store.openConnection
    cases settings.validate with
    | ok settings => exact .addConnection i settings _ s
    | error e => exact .nothing rfl
  | openDefault i => exact .addConnection (ε := Empty) i {} _ s
  | cloneConnection c => exact .nothing (books_withConnection s c fun _ => rfl)
  | dropConnection c => exact .of_keeps (ε := Empty) dropConnection_keeps _ s
  | closeConnection c order =>
    have listed := allowed.2
    exact .closeConnection (listed.nodup_iff.2 (h.nodup c))
      fun p hp => h.member c p (listed.mem_iff.1 hp)
  | acquireReference c => exact .acquireReference c _ s
  | releaseReference c =>
    obtain ⟨account, closed⟩ := releaseReference_books (E := E) c s
    exact .given account closed
  | lookup c sql => exact .of_keeps (ε := Empty) (lookup_keeps sql) _ s
  | giveBack h => exact .of_keeps (ε := Empty) (giveBack_keeps h) _ s
  | evict c sql => exact .of_keeps (evict_keeps sql) _ s
  | setCapacity c size => exact .of_keeps (setCapacity_keeps size) _ s
  | createDeferred c sql => exact .createDeferred c sql _ s
  | createCompiled c sql => exact .createCompiled _ (h.absent c)
  | bindValue p position value => exact .of_steady (bindValue_keeps position value) _ s
  | bindPresent p position value => exact .bindPresent position value _ s
  | clearBindings p => exact .of_steady clearBindings_keeps _ s
  | compile p => exact .of_steady compileProgram_keeps _ s
  | execute p => exact .of_steady execute_keeps _ s
  | closeProgram p => exact .tearDown p _ s
  | dropProgram p => exact .dropProgram (ε := Empty) p _ s

namespace Listed

/-- Lists that have lost members, and no program that is still listed was closed. -/
theorem of_sublist (h : Listed s) (sub : ∀ c, ((t.account c).programs).Sublist (s.account c).programs)
    (homes : ∀ p, (s.program p).isClosed = false → (t.program p).connection = (s.program p).connection)
    (closed : ∀ c p, p ∈ (t.account c).programs →
      (t.program p).isClosed = (s.program p).isClosed) : Listed t where
  nodup c := (h.nodup c).sublist (sub c)
  member c p hp := by
    obtain ⟨home, live⟩ := h.member c p ((sub c).subset hp)
    exact ⟨(homes p live).trans home, (closed c p hp).trans live⟩

theorem step (h : Listed s) {a : Action} (he : Entry s t a) (extends_ : Extends s t)
    (registered : Registered t) : Listed t := by
  have homes (p : ProgramId) (live : (s.program p).isClosed = false) :
      (t.program p).connection = (s.program p).connection :=
    extends_.home p (lt_of_not_closed live)
  have same {x y : List ProgramId} (hxy : x = y) : x.Sublist y := hxy ▸ .refl _
  cases he with
  | nothing books =>
    have account (c : ConnectionId) : t.account c = s.account c := congrArg (fun b => b.1 c) books
    exact h.of_sublist (fun c => same (by rw [account])) homes
      fun _ p _ => congrArg (fun b => b.2 p) books
  | connected old new closed =>
    refine h.of_sublist (fun c => ?_) homes fun _ p _ => closed p
    by_cases hc : c = s.connections.next
    · rw [hc, new]
      exact List.nil_sublist _
    · exact same (by rw [old c hc])
  | taken d _ account closed =>
    refine h.of_sublist (fun c => same ?_) homes fun _ p _ => closed p
    rw [account]
    split <;> rfl
  | given account closed =>
    refine h.of_sublist (fun c => same ?_) homes fun _ p _ => closed p
    rw [account]
    split <;> rfl
  | enlisted d _ account new closed =>
    have fresh {c : ConnectionId} {p : ProgramId} (hp : p ∈ (s.account c).programs) :
        p ≠ s.programs.next := by
      rintro rfl
      exact h.absent c hp
    have old {c : ConnectionId} {p : ProgramId} (hp : p ∈ (s.account c).programs) :
        (t.program p).connection = c ∧ (t.program p).isClosed = false := by
      obtain ⟨home, live⟩ := h.member c p hp
      exact ⟨(homes p live).trans home, (closed p (fresh hp)).trans live⟩
    constructor
    case nodup =>
      intro c
      rw [account]
      split
      · exact List.nodup_append.2 ⟨h.nodup c, List.nodup_singleton _, fun p hp q hq => by
          rw [List.mem_singleton.1 hq]
          exact fresh hp⟩
      · exact h.nodup c
    case member =>
      intro c p hp
      have listed := hp
      rw [account] at hp
      split at hp
      · rcases List.mem_append.1 hp with hp | hp
        · exact old hp
        · obtain rfl := List.mem_singleton.1 hp
          exact ⟨registered c _ listed, new⟩
      · exact old hp
  | ended p live account closed =>
    have listed (c : ConnectionId) : (t.account c).programs.Sublist (s.account c).programs := by
      rw [account]
      split
      · exact List.filter_sublist
      · exact .refl _
    refine h.of_sublist listed homes fun c q hq => closed q ?_
    -- a program is on the list of its own connection only, and was struck from that
    rintro rfl
    have home := (h.member c q ((listed c).subset hq)).1
    rw [account, if_pos home.symm] at hq
    have struck := (List.mem_filter.1 hq).2
    simp at struck
  | @shut c order others references programs swept closed =>
    refine h.of_sublist (fun d => ?_) homes fun d p hp => ?_
    · by_cases hd : d = c
      · rw [hd, programs]
        exact List.nil_sublist _
      · rw [others d hd]
    · have hd : d ≠ c := by
        rintro rfl
        rw [programs] at hp
        nomatch hp
      rw [others d hd] at hp
      have unswept : p ∉ order := fun hm => hd ((h.member d p hp).1.symm.trans (swept p hm))
      simp [closed, unswept]

end Listed

/-! Runs. -/

/-- The lists are in order after every run. -/
theorem Run.listed {e : σ} {past : List (Step σ)} (run : Run E e past s) : Listed s := by
  induction run with
  | start => exact ⟨fun _ => List.nodup_nil, fun _ _ => nofun⟩
  | @step past s a run allowed ih =>
    have idle : Grip.Idle { connection := 0 } := ⟨rfl, rfl, rfl, rfl⟩
    have sound := run.sound idle
    have extends_ : Extends s (a.perform E s).2 :=
      (a.moves sound.registered allowed).invariant (I := fun m => Extends s m.store)
        (fun _ _ hm he => he.trans hm.extends) (.refl s)
    exact ih.step (a.enters ih allowed) extends_ ((run.step a allowed).sound idle).registered

/-- A program that is closed stays closed. -/
theorem Entry.closed_stays {a : Action} (he : Entry s t a) {p : ProgramId}
    (old : p < s.programs.next) (hp : (s.program p).isClosed = true) :
    (t.program p).isClosed = true := by
  cases he with
  | nothing books => exact (congrArg (fun b => b.2 p) books).trans hp
  | connected _ _ closed => exact (closed p).trans hp
  | taken _ _ _ closed => exact (closed p).trans hp
  | given _ closed => exact (closed p).trans hp
  | enlisted _ _ _ _ closed => exact (closed p (Nat.ne_of_lt old)).trans hp
  | ended q live _ closed =>
    have other : p ≠ q := by
      rintro rfl
      simp [hp] at live
    exact (closed p other).trans hp
  | shut _ _ _ _ closed => simp [closed, hp]

/-- The connections that exist after a move are open, unless they were closed before it or are
the one that is worked on. -/
theorem Move.isOpen_of_ne {a b : Moment σ} (hm : Move E a b) {c : ConnectionId}
    (other : c ≠ a.grip.connection) (exists_ : c < b.store.connections.next)
    (h : c < a.store.connections.next → (a.store.connection c).isOpen = true) :
    (b.store.connection c).isOpen = true := by
  have elsewhere (s : Store σ) (f : Connection → Connection) :
      (s.withConnection a.grip.connection f).connection c = s.connection c := by
    rw [connection_withConnection, if_neg fun hn => other hn.1]
  have old (s : Store σ) (f : Connection → Connection)
      (hc : c < (s.withConnection a.grip.connection f).connections.next) :
      c < s.connections.next := by
    rwa [next_withConnection] at hc
  cases hm with
  | reorder | store | clear | deregister | take | release | retire | shut | dropClone | clone |
    create =>
    exact (congrArg Connection.isOpen (elsewhere _ _)).trans (h (old _ _ exists_))
  | @connect s g i settings =>
    rw [connection_pushed]
    by_cases hc : c = s.connections.next
    · rw [if_pos hc]
    · rw [if_neg hc]
      rw [Table.next_push] at exists_
      exact h (Nat.lt_of_le_of_ne (Nat.le_of_lt_succ exists_) hc)
  | _ => exact h exists_

theorem Move.connection {a b : Moment σ} (hm : Move E a b) :
    b.grip.connection = a.grip.connection := by
  cases hm <;> rfl

/-- The connection that an action works on exists before it, or is added by it, unless the action
does nothing. -/
theorem Action.exists_or_adds (rooted : Rooted s) (a : Action) (allowed : a.Allowed s) :
    a.connection s < s.connections.next ∨ (a.perform E s).2 = s ∨
      a.connection s = s.connections.next ∧ ∃ i settings,
        (a.perform E s).2 = ((addConnection i settings : Op σ Empty ConnectionId).run s).2 := by
  have program {p : ProgramId} (hp : (s.program p).isDropped = false) :
      (s.program p).connection < s.connections.next :=
    rooted.program p (lt_of_not_dropped hp)
  cases a with
  | openConnection i settings =>
    right
    show ((Store.openConnection i settings).run s).2 = s ∨ s.connections.next = s.connections.next ∧
      ∃ j x, ((Store.openConnection i settings).run s).2 =
        ((addConnection j x : Op σ Empty ConnectionId).run s).2
    unfold Store.openConnection
    cases settings.validate with
    | ok settings => exact .inr ⟨rfl, i, settings, rfl⟩
    | error e => exact .inl rfl
  | openDefault i => exact .inr (.inr ⟨rfl, i, {}, rfl⟩)
  | closeConnection c order => exact .inl (lt_of_clones allowed.1)
  | cloneConnection c | dropConnection c | acquireReference c | releaseReference c | lookup c
  | evict c | setCapacity c | createDeferred c | createCompiled c =>
    exact .inl (lt_of_clones allowed)
  | giveBack h =>
    have borrowed : (s.statement h).borrowers ≠ 0 := Nat.ne_of_gt allowed
    exact .inl (rooted.statement h
      (Table.lt_next_of_part_ne (t := s.compiled) (fun x => x.borrowers) borrowed))
  | bindValue p | bindPresent p | clearBindings p | compile p | execute p | closeProgram p
  | dropProgram p => exact .inl (program allowed)

/-- The connection that an action works on exists before it, or is new and open, unless the
action does nothing. -/
theorem Action.exists_or_opens (rooted : Rooted s) (a : Action) (allowed : a.Allowed s) :
    a.connection s < s.connections.next ∨ (a.perform E s).2 = s ∨
      ((a.perform E s).2.connection (a.connection s)).isOpen = true := by
  refine (a.exists_or_adds (E := E) rooted allowed).imp_right (Or.imp_right ?_)
  rintro ⟨new, i, settings, added⟩
  rw [new, added]
  exact congrArg Connection.isOpen ((connection_pushed s _ _).trans (if_pos rfl))

/-- Whether a connection was to be closed. -/
def wasClosed (past : List (Step σ)) (c : ConnectionId) : Bool :=
  past.any fun x =>
    match x.action with
    | .closeConnection d _ => decide (d = c)
    | _ => false

/-- An open connection of a balanced run is not closed by any other entry than one for
that. -/
theorem Entry.stays_open {a : Action} {c : ConnectionId} {outside : ConnectionId → Nat}
    (he : Entry s t a) (exists_ : c < s.connections.next)
    (isOpen : (s.connection c).isOpen = true) (covered : a.Covered outside)
    (account : (s.connection c).references = 1 + (s.openPrograms c).card + outside c)
    (other : ∀ order, a ≠ .closeConnection c order) : (t.connection c).isOpen = true := by
  have give (h : (s.connection c).references ≠ 1) {x : Account}
      (hx : x.isOpen = true ∧ x.references = (s.connection c).references) :
      x.give.isOpen = true := by
    simp [Account.give, hx, h]
  have own : (s.account c).isOpen = true ∧
      (s.account c).references = (s.connection c).references := ⟨isOpen, rfl⟩
  show (t.account c).isOpen = true
  cases he with
  | nothing books =>
    have same : t.account c = s.account c := congrArg (fun b => b.1 c) books
    rw [same]
    exact isOpen
  | connected old =>
    rw [old c (Nat.ne_of_lt exists_)]
    exact isOpen
  | taken d _ accounts =>
    rw [accounts]
    split <;> exact isOpen
  | enlisted d _ accounts =>
    rw [accounts]
    split <;> exact isOpen
  | @given d accounts =>
    rw [accounts]
    by_cases hd : c = d
    -- the reference that is given back is one of those outside
    · subst hd
      have some : 0 < outside c := covered
      rw [if_pos rfl]
      exact give (by omega) own
    · rw [if_neg hd]
      exact isOpen
  | ended p live accounts =>
    rw [accounts]
    by_cases hd : c = (s.program p).connection
    -- the reference that is given back is that of the program
    · have some : 0 < (s.openPrograms c).card :=
        Finset.card_pos.2 ⟨p, mem_openPrograms.2 ⟨hd.symm, live⟩⟩
      rw [if_pos hd]
      exact give (by omega) own
    · rw [if_neg hd]
      exact isOpen
  | @shut d order others =>
    have hd : c ≠ d := by
      rintro rfl
      exact other order rfl
    rw [others c hd]
    exact isOpen

/-- After a balanced run an open connection has one reference of its own, one for each open
program, and those outside. -/
theorem Run.references_open {e : σ} {past : List (Step σ)} (run : Run E e past s)
    (balanced : Balanced past) {c : ConnectionId} (isOpen : (s.connection c).isOpen = true) :
    (s.connection c).references = 1 + (s.openPrograms c).card + outside past c := by
  have idle : Grip.Idle { connection := 0 } := ⟨rfl, rfl, rfl, rfl⟩
  have account := (run.settled balanced { connection := 0 } idle rfl).balances c
  have owes : Grip.owes { connection := 0 } c = 0 := ite_self _
  dsimp only at account
  rwa [isOpen, owes, Bool.toNat_true, Nat.add_zero] at account

/-- After a balanced run, a connection is open that was not to be closed. -/
theorem Run.stays_open {e : σ} {past : List (Step σ)} (run : Run E e past s)
    (balanced : Balanced past) {c : ConnectionId} (exists_ : c < s.connections.next)
    (never : wasClosed past c = false) : (s.connection c).isOpen = true := by
  induction run with
  | start => nomatch exists_
  | @step past s a run allowed ih =>
    have idle : Grip.Idle { connection := 0 } := ⟨rfl, rfl, rfl, rfl⟩
    have sound := run.sound idle
    simp only [wasClosed, List.any_cons, Bool.or_eq_false_iff] at never
    have before (hc : c < s.connections.next) : (s.connection c).isOpen = true :=
      ih balanced.2 hc never.2
    have worked (hc : c < s.connections.next) :
        ((a.perform E s).2.connection c).isOpen = true := by
      have account := run.references_open balanced.2 (before hc)
      refine (a.enters run.listed allowed).stays_open hc (before hc) balanced.1 account
        fun order same => ?_
      subst same
      simp at never
    by_cases own : c = a.connection s
    · rcases a.exists_or_opens (E := E) sound.rooted allowed with old | same | opens
      · exact worked (own ▸ old)
      · rw [same] at exists_ ⊢
        exact before exists_
      · rw [own]
        exact opens
    · let I (m : Moment σ) : Prop := m.grip.connection = a.connection s ∧
        (c < m.store.connections.next → (m.store.connection c).isOpen = true)
      have all := (a.moves (E := E) sound.registered allowed).invariant (I := I)
        (fun _ _ hm hs => ⟨hm.connection.trans hs.1, fun hc =>
          hm.isOpen_of_ne (fun same => own (same.trans hs.1)) hc hs.2⟩) ⟨rfl, before⟩
      exact all.2 exists_

/-! What is given back. -/

/-- A connection has some references less than before, as far as it had them, and the others
have as many as before. -/
def GivesBack (s t : Store σ) (c : ConnectionId) (n : Nat) : Prop :=
  ∀ d, (t.connection d).references = (s.connection d).references - if d = c then n else 0

/-- Closing a program gives back one reference, if it was not closed before. -/
theorem tearDown_givesBack (unlist : Bool) (p : ProgramId) (s : Store σ) :
    GivesBack s ((tearDown E unlist p).run s).2 (s.program p).connection
      (if (s.program p).isClosed then 0 else 1) := by
  intro d
  show (((tearDown E unlist p).run s).2.account d).references = (s.account d).references - _
  cases hc : (s.program p).isClosed with
  | true =>
    have same := congrArg (fun b => b.1 d) (tearDown_books_closed (E := E) unlist hc)
    simp only [books] at same
    rw [same]
    simp
  | false =>
    rw [tearDown_books_open unlist hc]
    by_cases hd : d = (s.program p).connection
    · cases unlist <;> simp [hd, Account.give, Account.strike]
    · simp [hd]

theorem dropProgram_givesBack (p : ProgramId) (s : Store σ) :
    GivesBack s ((dropProgram E p : Op σ Empty Unit).run s).2 (s.program p).connection
      (if (s.program p).isClosed then 0 else 1) := by
  intro d
  have same := congrArg (fun b => (b.1 d).references)
    (dropProgram_books (E := E) (ε := Empty) p s)
  exact same.trans (tearDown_givesBack true p s d)

/-- The list of a connection has exactly its open programs. -/
theorem Listed.mem_iff (h : Listed s) (registry : Registry ⟨s, { connection := 0 }⟩)
    (c : ConnectionId) (p : ProgramId) :
    p ∈ (s.connection c).programs ↔ p ∈ s.openPrograms c := by
  rw [mem_openPrograms]
  constructor
  · exact h.member c p
  · intro hp
    obtain ⟨rfl, live⟩ := hp
    rcases registry.listed p live with listed | sweep
    · exact listed
    · nomatch sweep

theorem Listed.card (h : Listed s) (registry : Registry ⟨s, { connection := 0 }⟩)
    (c : ConnectionId) : (s.openPrograms c).card = (s.connection c).programs.length := by
  have same : s.openPrograms c = (s.connection c).programs.toFinset := by
    ext p
    rw [List.mem_toFinset, h.mem_iff registry]
  rw [same]
  exact List.toFinset_card_of_nodup (h.nodup c)

/-- Closing a connection gives back its own reference and one for each open program, if it was
not closed before; all those programs are closed then. -/
theorem closeInOrder_givesBack (h : Listed s) (registry : Registry ⟨s, { connection := 0 }⟩)
    {c : ConnectionId} {order : List ProgramId} (all : order.Perm (s.connection c).programs) :
    GivesBack s ((closeInOrder E c order).run s).2 c
        (if (s.connection c).isOpen then (s.openPrograms c).card + 1 else 0) ∧
      ((s.connection c).isOpen = true → ∀ p ∈ s.openPrograms c,
        (((closeInOrder E c order).run s).2.program p).isClosed = true) := by
  have nodup : order.Nodup := all.nodup_iff.2 (h.nodup c)
  have listed (p : ProgramId) (hp : p ∈ order) :
      (s.program p).connection = c ∧ (s.program p).isClosed = false :=
    h.member c p (all.mem_iff.1 hp)
  cases isOpen : (s.connection c).isOpen with
  | true =>
    obtain ⟨others, references, -, closed⟩ := closeInOrder_books (E := E) isOpen nodup listed
    refine ⟨fun d => ?_, fun _ p hp => ?_⟩
    · show (Store.account _ d).references = (s.account d).references - _
      by_cases hd : d = c
      · rw [hd, references, all.length_eq, h.card registry]
        simp only [if_true]
        omega
      · rw [others d hd, if_neg hd, Nat.sub_zero]
    · have swept : p ∈ order := all.mem_iff.2 ((h.mem_iff registry c p).2 hp)
      simp [closed, swept]
  | false =>
    rw [closeInOrder_closed order isOpen]
    exact ⟨fun d => by simp, nofun⟩

/-! How far the counter of references comes. -/

/-- An entry adds at most one reference to those of a connection, and none to a full counter. -/
theorem Entry.references_step {a : Action} (he : Entry s t a) (c : ConnectionId) :
    (t.connection c).references ≤ (s.connection c).references ∨
      (t.connection c).references = (s.connection c).references + 1 ∧
        (s.connection c).references < maxReferences := by
  show (t.account c).references ≤ (s.account c).references ∨
    (t.account c).references = (s.account c).references + 1 ∧
      (s.account c).references < maxReferences
  cases he with
  | nothing books =>
    have same : t.account c = s.account c := congrArg (fun b => b.1 c) books
    exact .inl (by rw [same])
  | connected old new =>
    by_cases hc : c = s.connections.next
    · have before : s.account c = (default : Connection).account :=
        congrArg Connection.account (Table.get_of_le s.connections (Nat.le_of_eq hc.symm))
      rw [before, hc, new]
      exact .inr ⟨rfl, by decide⟩
    · exact .inl (by rw [old c hc])
  | taken d room accounts | enlisted d room accounts =>
    rw [accounts]
    split
    · next hc => exact .inr ⟨rfl, hc ▸ room⟩
    · exact .inl (Nat.le_refl _)
  | given accounts | ended _ _ accounts =>
    rw [accounts]
    split
    · exact .inl (Nat.sub_le ..)
    · exact .inl (Nat.le_refl _)
  | @shut d _ others references =>
    by_cases hc : c = d
    · rw [hc, references]
      exact .inl (by omega)
    · exact .inl (by rw [others c hc])

/-- A connection never counts more references than its counter holds, nor more than there were
steps. -/
theorem Run.references_le {e : σ} {past : List (Step σ)} (run : Run E e past s)
    (c : ConnectionId) :
    (s.connection c).references ≤ maxReferences ∧ (s.connection c).references ≤ past.length := by
  induction run with
  | start => exact ⟨Nat.zero_le _, Nat.zero_le _⟩
  | @step past s a run allowed ih =>
    rw [List.length_cons]
    rcases (a.enters (E := E) run.listed allowed).references_step c with kept | ⟨more, room⟩ <;>
      omega

/-! What is outside. -/

/-- How many references were taken from outside. -/
def taken (past : List (Step σ)) (c : ConnectionId) : Nat :=
  past.countP fun x => decide (x.action = .acquireReference c) && x.succeeded

/-- How many references were given back from outside. -/
def returned (past : List (Step σ)) (c : ConnectionId) : Nat :=
  past.countP fun x => decide (x.action = .releaseReference c)

/-- In a balanced run, what is outside is what was taken and not given back. -/
theorem Balanced.outside_add_returned {past : List (Step σ)} (balanced : Balanced past)
    (c : ConnectionId) : outside past c + returned past c = taken past c := by
  induction past with
  | nil => rfl
  | cons x past ih =>
    obtain ⟨before, a, succeeded, after⟩ := x
    have ih := ih balanced.2
    have covered := balanced.1
    unfold returned taken at ih ⊢
    rw [List.countP_cons, List.countP_cons]
    cases a with
    | acquireReference d =>
      simp only [outside, reduceCtorEq, decide_false, Action.acquireReference.injEq]
      by_cases hd : d = c <;> cases succeeded <;> simp [hd] <;> omega
    | releaseReference d =>
      change 0 < outside past d at covered
      simp only [outside, reduceCtorEq, decide_false, Action.releaseReference.injEq]
      by_cases hd : d = c
      · subst hd
        simp
        omega
      · simp [hd]
        exact ih
    | _ => simpa [outside] using ih

/-- After every run in which no reference is given back from outside that was not taken, a
connection has one reference of its own until it is closed, one for each open program, and
those outside. After every run the list of a connection has exactly its open programs, which
are not dropped. A program gives back one reference when it is first closed, dropped or swept,
and none after that; a program that cannot be compiled leaves references and lists as they
were. -/
theorem books_balance {e : σ} {past : List (Step σ)} {s : Store σ} (run : Run E e past s) :
    (Balanced past → ∀ c < s.connections.next,
      (s.connection c).references + returned past c =
        (if wasClosed past c then 0 else 1) + (s.openPrograms c).card + taken past c) ∧
    (∀ c, (s.connection c).programs.Nodup ∧
      ∀ p, p ∈ (s.connection c).programs ↔ p ∈ s.openPrograms c) ∧
    (∀ c, ∀ p ∈ (s.connection c).programs, (s.program p).isDropped = false) ∧
    (∀ p unlist,
      GivesBack s ((tearDown E unlist p).run s).2 (s.program p).connection
          (if (s.program p).isClosed then 0 else 1) ∧
        (((tearDown E unlist p).run s).2.program p).isClosed = true) ∧
    (∀ p, GivesBack s ((dropProgram E p : Op σ Empty Unit).run s).2 (s.program p).connection
          (if (s.program p).isClosed then 0 else 1) ∧
        (((dropProgram E p : Op σ Empty Unit).run s).2.program p).isClosed = true) ∧
    (∀ c order, order.Perm (s.connection c).programs →
      GivesBack s ((closeInOrder E c order).run s).2 c
          (if (s.connection c).isOpen then (s.openPrograms c).card + 1 else 0) ∧
        ((s.connection c).isOpen = true → ∀ p ∈ s.openPrograms c,
          (((closeInOrder E c order).run s).2.program p).isClosed = true)) ∧
    (∀ a : Action, a.Allowed s → ∀ p < s.programs.next, (s.program p).isClosed = true →
      ((a.perform E s).2.program p).isClosed = true) ∧
    (∀ c sql e' t, (createCompiled E c sql).run s = (.error e', t) →
      (∀ d, (t.connection d).references = (s.connection d).references ∧
        (t.connection d).programs = (s.connection d).programs) ∧
      ∀ p, (t.program p).isClosed = (s.program p).isClosed) := by
  have idle : Grip.Idle { connection := 0 } := ⟨rfl, rfl, rfl, rfl⟩
  have sound := run.sound idle
  have listed := run.listed
  refine ⟨fun balanced c exists_ => ?_, fun c => ⟨listed.nodup c, listed.mem_iff sound.registry c⟩,
    fun c p hp => ?_,
    fun p unlist => ⟨tearDown_givesBack unlist p s, tearDown_closes unlist p s⟩,
    fun p => ⟨dropProgram_givesBack p s, dropProgram_closes p s⟩,
    fun c order all => closeInOrder_givesBack listed sound.registry all,
    fun a allowed p old hp => (a.enters listed allowed).closed_stays old hp,
    fun c sql e' t failed => ?_⟩
  · have account := (run.settled balanced { connection := 0 } idle rfl).balances c
    have owes : Grip.owes { connection := 0 } c = 0 := ite_self _
    have out := balanced.outside_add_returned c
    have isOpen : (s.connection c).isOpen.toNat = if wasClosed past c then 0 else 1 := by
      cases hc : wasClosed past c with
      | true =>
        obtain ⟨x, hx, closes⟩ := List.any_eq_true.1 hc
        cases ha : x.action with
        | closeConnection d order =>
          simp only [ha, decide_eq_true_eq] at closes
          subst closes
          rw [(run.closed hx ha).2]
          rfl
        | _ => simp [ha] at closes
      | false =>
        rw [run.stays_open balanced exists_ hc]
        rfl
    dsimp only at account
    omega
  · cases hd : (s.program p).isDropped with
    | false => rfl
    | true =>
      have closed := sound.custody.dropped p hd
      have live := (listed.member c p hp).2
      exact absurd (closed.symm.trans live) (by decide)
  · have same := Entry.createCompiled_failed (listed.absent c) failed
    have account (d : ConnectionId) : t.account d = s.account d := congrArg (fun b => b.1 d) same
    exact ⟨fun d => ⟨congrArg Account.references (account d), congrArg Account.programs (account d)⟩,
      fun p => congrArg (fun b => b.2 p) same⟩

/-- A program is closed twice and dropped, one cannot be compiled, and one is swept when the
connection is closed; of two references outside one was given back. -/
theorem books_balance_unreturned :
    ∃ past s, Run Recording.engine.withFaults ⟨{}, [⟨.compile, 1, .native "busy"⟩]⟩ past s ∧
      s.programs.next = 3 ∧ Balanced past ∧ wasClosed past 0 = true ∧ taken past 0 = 2 ∧
      (s.connection 0).references + returned past 0 = 2 := by
  have run := Run.ofActions (E := Recording.engine.withFaults)
    (e := ⟨{}, [⟨.compile, 1, .native "busy"⟩]⟩)
    [.openDefault 0, .acquireReference 0, .createCompiled 0 "INSERT", .createCompiled 0 "DELETE",
      .closeProgram 0, .closeProgram 0, .dropProgram 0, .createDeferred 0 "UPDATE",
      .acquireReference 0, .closeConnection 0 [2], .releaseReference 0]
    (by decide +kernel)
  obtain ⟨balance, -⟩ := books_balance run
  have account := balance (by decide +kernel) 0 (by decide +kernel)
  refine ⟨_, _, run, by decide +kernel, by decide +kernel, by decide +kernel, by decide +kernel, ?_⟩
  rw [account]
  decide +kernel

end Prepared.Store
