import Prepared.Proofs.Move

/-! Where things belong.

A move adds entries to the tables of a store and never takes one away, and what an entry says
of its origin stays as it is. So a compiled statement belongs to one connection for good, and
whatever holds it, a cache, a program or an operation, is one of that connection. -/
namespace Prepared

/-- What never changes about a compiled statement. -/
def Compiled.identity (x : Compiled) : EngineId × StatementId × String × ConnectionId :=
  (x.engine, x.statement, x.sql, x.connection)

namespace Store

variable {σ : Type} {E : Engine σ}

/-- A later store: it has all entries of the earlier one, from the same origins. -/
structure Extends (s t : Store σ) : Prop where
  compiled : s.compiled.next ≤ t.compiled.next
  programs : s.programs.next ≤ t.programs.next
  connections : s.connections.next ≤ t.connections.next
  identity : ∀ h < s.compiled.next, (t.statement h).identity = (s.statement h).identity
  home : ∀ p < s.programs.next, (t.program p).connection = (s.program p).connection
  text : ∀ p < s.programs.next, (t.program p).sql = (s.program p).sql
  engine : ∀ c < s.connections.next, (t.connection c).engine = (s.connection c).engine

namespace Extends

variable {s t u : Store σ}

theorem refl (s : Store σ) : Extends s s where
  compiled := Nat.le_refl _
  programs := Nat.le_refl _
  connections := Nat.le_refl _
  identity _ _ := rfl
  home _ _ := rfl
  text _ _ := rfl
  engine _ _ := rfl

theorem trans (h : Extends s t) (k : Extends t u) : Extends s u where
  compiled := Nat.le_trans h.compiled k.compiled
  programs := Nat.le_trans h.programs k.programs
  connections := Nat.le_trans h.connections k.connections
  identity x hx := (k.identity x (Nat.lt_of_lt_of_le hx h.compiled)).trans (h.identity x hx)
  home p hp := (k.home p (Nat.lt_of_lt_of_le hp h.programs)).trans (h.home p hp)
  text p hp := (k.text p (Nat.lt_of_lt_of_le hp h.programs)).trans (h.text p hp)
  engine c hc := (k.engine c (Nat.lt_of_lt_of_le hc h.connections)).trans (h.engine c hc)

theorem statement_engine (h : Extends s t) {k : CompiledId} (hk : k < s.compiled.next) :
    (t.statement k).engine = (s.statement k).engine :=
  congrArg (fun i => i.1) (h.identity k hk)

theorem statement_id (h : Extends s t) {k : CompiledId} (hk : k < s.compiled.next) :
    (t.statement k).statement = (s.statement k).statement :=
  congrArg (fun i => i.2.1) (h.identity k hk)

theorem statement_sql (h : Extends s t) {k : CompiledId} (hk : k < s.compiled.next) :
    (t.statement k).sql = (s.statement k).sql :=
  congrArg (fun i => i.2.2.1) (h.identity k hk)

theorem statement_connection (h : Extends s t) {k : CompiledId} (hk : k < s.compiled.next) :
    (t.statement k).connection = (s.statement k).connection :=
  congrArg (fun i => i.2.2.2) (h.identity k hk)

theorem withStatement (s : Store σ) (h : CompiledId) {f : Compiled → Compiled}
    (hf : ∀ x, (f x).identity = x.identity) : Extends s (s.withStatement h f) :=
  { refl s with
    compiled := Nat.le_of_eq (next_withStatement ..).symm
    identity := fun k _ => statement_part s h k Compiled.identity hf }

theorem withProgram (s : Store σ) (p : ProgramId) {f : Program → Program}
    (hf : ∀ x, ((f x).connection, (f x).sql) = (x.connection, x.sql)) :
    Extends s (s.withProgram p f) :=
  { refl s with
    programs := Nat.le_of_eq (next_withProgram ..).symm
    home := fun q _ => program_part s p q (fun x => x.connection) fun x => congrArg Prod.fst (hf x)
    text := fun q _ => program_part s p q (fun x => x.sql) fun x => congrArg Prod.snd (hf x) }

theorem withConnection (s : Store σ) (c : ConnectionId) {f : Connection → Connection}
    (hf : ∀ x, (f x).engine = x.engine) : Extends s (s.withConnection c f) :=
  { refl s with
    connections := Nat.le_of_eq (next_withConnection ..).symm
    engine := fun d _ => connection_part s c d (fun x => x.engine) hf }

theorem grown (E : Engine σ) (c : ConnectionId) (sql : String) (n : StatementId) (s : Store σ) :
    Extends s (s.grown E c sql n) :=
  { refl s with
    compiled := by
      show s.compiled.next ≤ (s.compiled.push _).next
      rw [Table.next_push]
      exact Nat.le_succ _
    identity := fun h hh => congrArg Compiled.identity (Table.get_push_of_ne _ _ (Nat.ne_of_lt hh)) }

theorem created (c : ConnectionId) (sql : String) (s : Store σ) :
    Extends s (s.created c sql) := by
  refine trans (t := { s with programs := s.programs.push _ })
    { refl s with programs := ?_, home := ?_, text := ?_ } (withConnection _ _ fun _ => rfl)
  · show s.programs.next ≤ (s.programs.push _).next
    rw [Table.next_push]
    exact Nat.le_succ _
  · intro p hp
    exact congrArg Program.connection (Table.get_push_of_ne _ _ (Nat.ne_of_lt hp))
  · intro p hp
    exact congrArg Program.sql (Table.get_push_of_ne _ _ (Nat.ne_of_lt hp))

theorem asked (E : Engine σ) (i : EngineId) (p : Primitive) (s : Store σ) :
    Extends s (s.asked E i p) :=
  { refl s with }

theorem struck (E : Engine σ) (h : CompiledId) (s : Store σ) : Extends s (s.struck E h) := by
  have marked : Extends s (s.withStatement h fun x => { x with destroyed := true }) :=
    withStatement s h fun _ => rfl
  exact marked.trans (asked ..)

theorem connected (c : Connection) (s : Store σ) :
    Extends s { s with connections := s.connections.push c } :=
  { refl s with
    connections := by
      show s.connections.next ≤ (s.connections.push _).next
      rw [Table.next_push]
      exact Nat.le_succ _
    engine := fun d hd =>
      congrArg Connection.engine (Table.get_push_of_ne _ _ (Nat.ne_of_lt hd)) }

end Extends

/-- A store after a move is a later one. -/
theorem Move.extends {a b : Moment σ} (hm : Move E a b) : Extends a.store b.store := by
  cases hm with
  | compile => exact .grown ..
  | create => exact .created ..
  | destroyLoose | destroyHand => exact .struck ..
  | @destroyReturned s g h =>
    have returned :
        Extends s (s.withStatement h fun x => { x with borrowers := x.borrowers - 1 }) :=
      .withStatement s h fun _ => rfl
    exact returned.trans (.struck ..)
  | claim | attach | park | borrow | giveBack => exact .withStatement _ _ fun _ => rfl
  | hold | queue | close | dropProgram => exact .withProgram _ _ fun _ => rfl
  | reorder | store | clear => exact .withConnection _ _ fun _ => rfl
  | deregister | take | release | retire | shut | dropClone | clone =>
    exact .withConnection _ _ fun _ => rfl
  | connect => exact .connected ..
  | refuse | use => exact .asked ..
  | report => exact { Extends.refl _ with }
  | leave | skip | forget | releaseNone | settle => exact .refl _

/-- Only an engine that compiles a text makes a statement, and that is at hand then. -/
theorem Move.new_statement {a b : Moment σ} (hm : Move E a b) {h : CompiledId}
    (old : a.store.compiled.next ≤ h) (new : h < b.store.compiled.next) :
    ∃ sql n,
      (a.store.connection a.grip.connection).isOpen = true ∧
      (E.run (a.store.connection a.grip.connection).engine (.compile sql) a.store.engine).1 = .ok n ∧
      b = ⟨a.store.grown E a.grip.connection sql n, { a.grip with hand := some h }⟩ ∧
      b.store.statement h =
        { engine := (a.store.connection a.grip.connection).engine, statement := n, sql,
          connection := a.grip.connection } := by
  cases hm with
  | @compile s g sql n isOpen free answer =>
    have hn : (s.grown E g.connection sql n).compiled.next = s.compiled.next + 1 :=
      Table.next_push ..
    obtain rfl : h = s.compiled.next := 
      Nat.le_antisymm (Nat.le_of_lt_succ (Nat.lt_of_lt_of_eq new hn)) old
    exact ⟨sql, n, isOpen, answer, rfl, Table.get_push_self ..⟩
  | _ =>
    exact absurd new (Nat.not_lt.2 (by simpa [struck, asked, withCache, created] using old))

/-- Only creating makes a program, on an open connection. -/
theorem Move.new_program {a b : Moment σ} (hm : Move E a b) {p : ProgramId}
    (old : a.store.programs.next ≤ p) (new : p < b.store.programs.next) :
    (a.store.connection a.grip.connection).isOpen = true ∧
      b.store.programs.next = a.store.programs.next + 1 ∧
      ∃ sql, b.store.program p =
        { connection := a.grip.connection, sql := Text.trim sql,
          kind := Kind.classify (Text.trim sql) } := by
  cases hm with
  | @create s g k sql owed isOpen =>
    have hn : (s.created g.connection sql).programs.next = s.programs.next + 1 :=
      Table.next_push ..
    obtain rfl : p = s.programs.next :=
      Nat.le_antisymm (Nat.le_of_lt_succ (Nat.lt_of_lt_of_eq new hn)) old
    exact ⟨isOpen, hn, sql, Table.get_push_self ..⟩
  | _ =>
    exact absurd new (Nat.not_lt.2 (by simpa [struck, withCache, grown] using old))

/-- No move opens a connection again. -/
theorem Move.closed {a b : Moment σ} (hm : Move E a b) {c : ConnectionId}
    (hc : c < a.store.connections.next) (ho : (a.store.connection c).isOpen = false) :
    (b.store.connection c).isOpen = false := by
  cases hm with
  | reorder | store | clear | deregister | take | release | dropClone | clone | create =>
    refine Eq.trans ?_ ho
    exact connection_part _ _ c (fun x => x.isOpen) fun _ => rfl
  | retire | shut =>
    rw [connection_withConnection]
    split
    · rfl
    · exact ho
  | connect =>
    rw [connection_pushed, if_neg (Nat.ne_of_lt hc)]
    exact ho
  | _ => exact ho

/-- Every statement and every program is of a connection that exists, and a statement is one
of that connection's engine. -/
structure Rooted (s : Store σ) : Prop where
  statement : ∀ h < s.compiled.next, (s.statement h).connection < s.connections.next
  engine : ∀ h < s.compiled.next,
    (s.statement h).engine = (s.connection (s.statement h).connection).engine
  program : ∀ p < s.programs.next, (s.program p).connection < s.connections.next

theorem Rooted.step {a b : Moment σ} (ha : Rooted a.store) (hm : Move E a b) :
    Rooted b.store := by
  have he := hm.extends
  have grows {c : ConnectionId} (hc : c < a.store.connections.next) :
      c < b.store.connections.next := Nat.lt_of_lt_of_le hc he.connections
  -- what is old keeps its home, and what is new has that of the operation
  refine ⟨?_, ?_, ?_⟩
  · intro h hh
    rcases Nat.lt_or_ge h a.store.compiled.next with old | new
    · rw [he.statement_connection old]
      exact grows (ha.statement h old)
    · obtain ⟨sql, n, ho, -, -, hs⟩ := hm.new_statement new hh
      rw [hs]
      exact grows (lt_of_isOpen ho)
  · intro h hh
    rcases Nat.lt_or_ge h a.store.compiled.next with old | new
    · rw [he.statement_engine old, he.statement_connection old, he.engine _ (ha.statement h old)]
      exact ha.engine h old
    · obtain ⟨sql, n, ho, -, hb, hs⟩ := hm.new_statement new hh
      rw [hs]
      exact (he.engine _ (lt_of_isOpen ho)).symm
  · intro p hp
    rcases Nat.lt_or_ge p a.store.programs.next with old | new
    · rw [he.home p old]
      exact grows (ha.program p old)
    · obtain ⟨ho, -, sql, hs⟩ := hm.new_program new hp
      rw [hs]
      exact grows (lt_of_isOpen ho)

/-- A statement that was given out, of a connection. -/
structure Belongs (s : Store σ) (h : CompiledId) (c : ConnectionId) : Prop where
  exists_ : h < s.compiled.next
  home : (s.statement h).connection = c

theorem Belongs.extend {s t : Store σ} (he : Extends s t) {h : CompiledId} {c : ConnectionId}
    (hb : Belongs s h c) : Belongs t h c where
  exists_ := Nat.lt_of_lt_of_le hb.exists_ he.compiled
  home := (he.statement_connection hb.exists_).trans hb.home

/-- Whatever holds a statement is of its connection, and a cache stores it for its text. -/
structure Homes (m : Moment σ) : Prop where
  entry : ∀ c e, e ∈ (m.store.connection c).cache.entries →
    Belongs m.store e.2 c ∧ (m.store.statement e.2).sql = e.1
  loose : ∀ h ∈ m.grip.loose, Belongs m.store h m.grip.connection
  hand : ∀ h, m.grip.hand = some h → Belongs m.store h m.grip.connection
  held : ∀ p h, (m.store.program p).held = some h → Belongs m.store h (m.store.program p).connection

/-- What is cached was given out. -/
theorem Homes.given {m : Moment σ} (hs : Homes m) (c : ConnectionId) :
    ∀ e ∈ (m.store.connection c).cache.entries, e.2 < m.store.compiled.next :=
  fun e hm => (hs.entry c e hm).1.exists_

/-- Things belong where they did, if what is new in a place belongs there. -/
theorem Homes.of_frame {s t : Store σ} {g g' : Grip} (hs : Homes ⟨s, g⟩) (he : Extends s t)
    (hc : g'.connection = g.connection)
    (entry : ∀ c e, e ∈ (t.connection c).cache.entries → e ∈ (s.connection c).cache.entries ∨
      Belongs t e.2 c ∧ (t.statement e.2).sql = e.1)
    (loose : ∀ h ∈ g'.loose, h ∈ g.loose ∨ Belongs t h g'.connection)
    (hand : ∀ h, g'.hand = some h → g.hand = some h ∨ Belongs t h g'.connection)
    (held : ∀ p h, (t.program p).held = some h → (s.program p).held = some h ∨
      Belongs t h (t.program p).connection) : Homes ⟨t, g'⟩ where
  entry c e hm := by
    rcases entry c e hm with ho | hn
    · obtain ⟨hb, hk⟩ := hs.entry c e ho
      exact ⟨hb.extend he, (he.statement_sql hb.exists_).trans hk⟩
    · exact hn
  loose h hm := by
    rcases loose h hm with ho | hn
    · exact hc ▸ (hs.loose h ho).extend he
    · exact hn
  hand h hm := by
    rcases hand h hm with ho | hn
    · exact hc ▸ (hs.hand h ho).extend he
    · exact hn
  held p h hm := by
    rcases held p h hm with ho | hn
    · rw [he.home p (lt_of_held ho)]
      exact (hs.held p h ho).extend he
    · exact hn

/-- Every cache has at most one entry for a text. -/
def Keyed (s : Store σ) : Prop :=
  ∀ c, (s.connection c).cache.keys.Nodup

theorem Keyed.withCache (hs : Keyed s) {c : ConnectionId} {f : Cache CompiledId → Cache CompiledId}
    (hf : (f (s.connection c).cache).keys.Nodup) : Keyed (s.withCache c f) := by
  intro d
  rw [cache_withCache]
  split
  · next hd =>
    rw [hd.1]
    exact hf
  · exact hs d

theorem Keyed.step {a b : Moment σ} (ha : Keyed a.store) (hm : Move E a b) : Keyed b.store := by
  cases hm with
  | reorder same => exact ha.withCache (((same (ha _)).map _).nodup_iff.2 (ha _))
  | @store s g h sql isOpen referenced atHand empty claimed live key absent =>
    -- an entry is stored only for a text that has none
    exact ha.withCache (List.nodup_cons.2 ⟨Cache.peek?_eq_none_iff.1 absent, ha _⟩)
  | clear empty parts => exact ha.withCache ((parts (ha _)).keys_nodup (ha _))
  | @connect s g i settings =>
    intro c
    show ((Store.connection { s with connections := _ } c).cache.keys).Nodup
    rw [connection_pushed]
    split
    · exact List.nodup_nil
    · exact ha c
  | @create s g k sql =>
    intro c
    show ((s.created g.connection sql).connection c).cache.keys.Nodup
    rw [cache_created]
    exact ha c
  | deregister | take | release | retire | shut | dropClone | clone =>
    intro c
    simp only [connection_withConnection]
    split <;> exact ha c
  | _ => exact ha

theorem Homes.step {a b : Moment σ} (ha : Homes a) (hk : Keyed a.store) (hm : Move E a b) :
    Homes b := by
  have he := hm.extends
  cases hm with
  | @compile s g sql n =>
    refine ha.of_frame he rfl (fun _ _ => .inl) (fun _ => .inl) (fun h hh => .inr ?_) fun _ _ => .inl
    cases hh
    -- the new statement is compiled for the connection of the operation
    have hx := statement_grown E g.connection sql n s s.compiled.next
    rw [if_pos rfl] at hx
    exact ⟨Nat.lt_of_lt_of_eq (Nat.lt_succ_self _) (Table.next_push ..).symm, by rw [hx]⟩
  | attach free stored =>
    refine ha.of_frame he rfl (fun _ _ => .inl) (fun _ => .inl) (fun h hh => .inr ?_) fun _ _ => .inl
    cases hh
    exact (ha.entry _ _ stored).1.extend he
  | reorder same =>
    refine ha.of_frame he rfl (fun c e hm => .inl ?_) (fun _ => .inl) (fun _ => .inl) fun _ _ => .inl
    rcases mem_withCache hm with ⟨rfl, changed⟩ | old
    · exact (same (hk _)).subset changed
    · exact old
  | @store s g h sql isOpen referenced atHand empty claimed live key =>
    refine ha.of_frame he rfl (fun c e hm => ?_) (fun _ => .inl) (fun _ => .inl) fun _ _ => .inl
    rcases mem_withCache hm with ⟨rfl, changed⟩ | old
    · rcases List.mem_cons.1 changed with rfl | old
      · exact .inr ⟨(ha.hand h atHand).extend he, key⟩
      · exact .inl old
    · exact .inl old
  | clear empty parts =>
    refine ha.of_frame he rfl (fun c e hm => .inl ?_) (fun h hm => .inr ?_) (fun _ => .inl)
      fun _ _ => .inl
    · rcases mem_withCache hm with ⟨rfl, changed⟩ | old
      · exact (parts (hk _)).mem_left changed
      · exact old
    · obtain ⟨key, hs, -⟩ := (parts (hk _)).mem_of_out (hk _) hm
      exact (ha.entry _ _ hs).1.extend he
  | @hold s g p h actor atHand home =>
    refine ha.of_frame he rfl (fun _ _ => .inl) (fun _ => .inl) (fun h hh => nomatch hh)
      fun q k hk => ?_
    rw [program_withProgram] at hk ⊢
    split at hk
    · next hq =>
      obtain ⟨rfl, hlt⟩ := hq
      cases hk
      rw [if_pos ⟨rfl, hlt⟩]
      exact .inr (home ▸ (ha.hand h atHand).extend he)
    · exact .inl hk
  | queue =>
    refine ha.of_frame he rfl (fun _ _ => .inl) (fun _ => .inl) (fun _ => .inl) fun q k hk => .inl ?_
    rw [program_withProgram] at hk
    split at hk <;> exact hk
  | @close s g p free isOpen home =>
    refine ha.of_frame he rfl (fun _ _ => .inl) (fun _ => .inl) (fun h hh => .inr ?_)
      fun q k hk => .inl ?_
    · exact home ▸ (ha.held p h hh).extend he
    · rw [program_withProgram] at hk
      split at hk
      · cases hk
      · exact hk
  | @create s g k sql =>
    refine ha.of_frame he rfl (fun c e hm => .inl ?_) (fun _ => .inl) (fun _ => .inl)
      fun q k hk => .inl ?_
    · rwa [cache_created] at hm
    · rw [program_created] at hk
      split at hk
      · cases hk
      · exact hk
  | dropProgram =>
    refine ha.of_frame he rfl (fun _ _ => .inl) (fun _ => .inl) (fun _ => .inl) fun q k hk => .inl ?_
    rw [program_withProgram] at hk
    split at hk <;> exact hk
  | connect =>
    refine ha.of_frame he rfl (fun c e hm => .inl ?_) (fun _ => .inl) (fun _ => .inl) fun _ _ => .inl
    rw [connection_pushed] at hm
    split at hm
    · nomatch hm
    · exact hm
  | leave next | destroyLoose next =>
    refine ha.of_frame he rfl (fun _ _ => .inl) (fun h hh => .inl ?_) (fun _ => .inl) fun _ _ => .inl
    exact next ▸ List.mem_cons_of_mem _ hh
  | park | destroyHand | forget =>
    exact ha.of_frame he rfl (fun _ _ => .inl) (fun _ => .inl) (fun h hh => nomatch hh)
      fun _ _ => .inl
  | deregister | take | release | retire | shut | dropClone | clone =>
    refine ha.of_frame he rfl (fun c e hm => .inl ?_) (fun _ => .inl) (fun _ => .inl) fun _ _ => .inl
    rw [connection_withConnection] at hm
    split at hm <;> exact hm
  | _ =>
    exact ha.of_frame he rfl (fun _ _ => .inl) (fun _ => .inl) (fun _ => .inl) fun _ _ => .inl

end Store

end Prepared
