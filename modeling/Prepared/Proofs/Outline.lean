import Prepared.Proofs.Engaged
import Prepared.Proofs.Shape

/-! Outlines of stores.

The outline of a store shows neither caches nor compiled statements: of a program it shows whether
it holds a statement, and in the place of the engines stands a state of the library that counts as
the same as theirs. What is done for the cache leaves the outline as it is, and an operation on a
store changes the outline in a way that can be read off the outline alone. -/
namespace Prepared

namespace Store

open Operation Sql

variable {δ : Type} {L : Library δ} {T : Terms L} {s t : Store (Engines δ)} {o : Store δ}
  {h : CompiledId} {c : ConnectionId} {p : ProgramId}

/-- A store over one engine. -/
structure Tuned (T : Terms L) (s : Store (Engines δ)) : Prop where
  engaged : Engaged T s
  connections : ∀ c < s.connections.next, (s.connection c).engine = T.engine
  held : ∀ p h, (s.program p).held = some h →
    h < s.compiled.next ∧ (s.statement h).sql = (s.program p).sql

/-- A store over one engine that shows an outline. -/
structure Looks (T : Terms L) (o : Store δ) (s : Store (Engines δ)) : Prop where
  tuned : Tuned T s
  outline : s.view (fun _ => o.engine) = o
  same : T.Same o.engine s.engine.library

namespace Looks

theorem connection (hs : Looks T o s) (c : ConnectionId) :
    o.connection c = (s.connection c).outline := by
  rw [← connection_view (fun _ => o.engine) s c, hs.outline]

theorem program (hs : Looks T o s) (p : ProgramId) : o.program p = (s.program p).outline := by
  rw [← program_view (fun _ => o.engine) s p, hs.outline]

/-- What the outline of a connection keeps. -/
theorem connection_part {β : Type} (hs : Looks T o s) (c : ConnectionId) (part : Connection → β)
    (kept : ∀ x, part x.outline = part x) : part (o.connection c) = part (s.connection c) := by
  rw [hs.connection]
  exact kept _

theorem program_part {β : Type} (hs : Looks T o s) (p : ProgramId) (part : Program → β)
    (kept : ∀ x, part x.outline = part x) : part (o.program p) = part (s.program p) := by
  rw [hs.program]
  exact kept _

theorem held (hs : Looks T o s) (p : ProgramId) :
    (o.program p).held = (s.program p).held.map fun _ => 0 := by
  rw [hs.program]
  rfl

/-- As many connections and programs show as there are. -/
theorem next (hs : Looks T o s) :
    o.connections.next = s.connections.next ∧ o.programs.next = s.programs.next := by
  rw [← hs.outline]
  exact ⟨Table.next_map .., Table.next_map ..⟩

/-- What a program holds it holds still, or nothing. -/
theorem step {o' : Store δ} (hs : Looks T o s) (he : Extends s t) (engaged : Engaged T t)
    (connections : t.connections.next = s.connections.next)
    (programs : ∀ p, (t.program p).sql = (s.program p).sql ∧
      ∀ h, (t.program p).held = some h → (s.program p).held = some h)
    (outline : t.view (fun _ => o'.engine) = o') (same : T.Same o'.engine t.engine.library) :
    Looks T o' t where
  tuned :=
    { engaged
      connections := fun c hc => by
        rw [connections] at hc
        rw [he.engine c hc]
        exact hs.tuned.connections c hc
      held := fun p h held => by
        obtain ⟨hh, text⟩ := hs.tuned.held p h ((programs p).2 h held)
        refine ⟨Nat.lt_of_lt_of_le hh he.compiled, ?_⟩
        rw [he.statement_sql hh, text, (programs p).1] }
  outline := outline
  same := same

theorem events (hs : Looks T o s) (es : List Event) :
    Looks T o { s with events := s.events ++ es } :=
  ⟨⟨hs.tuned.engaged.congr rfl rfl, hs.tuned.connections, hs.tuned.held⟩, hs.outline, hs.same⟩

theorem withConnection (hs : Looks T o s) (c : ConnectionId) {f g : Connection → Connection}
    (hf : ∀ x, (f x).outline = g x.outline) (engine : ∀ x, (f x).engine = x.engine) :
    Looks T (o.withConnection c g) (s.withConnection c f) := by
  have shown := view_withConnection (fun _ => o.engine) s c hf
  rw [hs.outline] at shown
  exact hs.step (.withConnection s c engine) (hs.tuned.engaged.congr rfl rfl)
    (next_withConnection ..) (fun _ => ⟨rfl, fun _ => id⟩) shown hs.same

theorem withCache (hs : Looks T o s) (c : ConnectionId)
    (f : Cache CompiledId → Cache CompiledId) : Looks T o (s.withCache c f) := by
  have shown := view_withCache (fun _ => o.engine) s c f
  rw [hs.outline] at shown
  exact hs.step (.withConnection s c fun _ => rfl) (hs.tuned.engaged.congr rfl rfl)
    (next_withConnection ..) (fun _ => ⟨rfl, fun _ => id⟩) shown hs.same

theorem withProgram (hs : Looks T o s) (p : ProgramId) {f g : Program → Program}
    (hf : ∀ x, (f x).outline = g x.outline)
    (home : ∀ x, ((f x).connection, (f x).sql) = (x.connection, x.sql))
    (held : ∀ x, (f x).held = x.held ∨ (f x).held = none) :
    Looks T (o.withProgram p g) (s.withProgram p f) := by
  have shown := view_withProgram (fun _ => o.engine) s p hf
  rw [hs.outline] at shown
  refine hs.step (.withProgram s p home) (hs.tuned.engaged.congr rfl rfl) rfl
    (fun q => ⟨Store.program_part s p q (fun x => x.sql) fun x => congrArg Prod.snd (home x),
      fun h hq => ?_⟩) shown hs.same
  rw [program_withProgram] at hq
  split at hq
  · rcases held (s.program q) with same | none
    · rw [← same]
      exact hq
    · nomatch none.symm.trans hq
  · exact hq

/-- A program takes a statement with its text. -/
theorem hold (hs : Looks T o s) (hh : h < s.compiled.next)
    (text : (s.statement h).sql = (s.program p).sql) :
    Looks T (o.withProgram p fun x => { x with held := some 0, pending := [] })
      (s.withProgram p fun x => { x with held := some h, pending := [] }) where
  tuned :=
    { engaged := hs.tuned.engaged.congr rfl rfl
      connections := hs.tuned.connections
      held := fun q k held => by
        rw [program_withProgram] at held ⊢
        split at held
        · next own =>
          rw [if_pos own, own.1]
          cases held
          exact ⟨hh, text⟩
        · next other =>
          rw [if_neg other]
          exact hs.tuned.held q k held }
  outline := by
    have shown := view_withProgram (fun _ => o.engine) s p
      (g := fun x => { x with held := some h, pending := [] })
      (h := fun x => { x with held := some 0, pending := [] }) fun _ => rfl
    rw [hs.outline] at shown
    exact shown
  same := hs.same

/-- What is done to a statement does not show, if the library counts as the same after it. -/
theorem restated (hs : Looks T o s) (he : Extends s t) (engaged : Engaged T t)
    (rest : (t.connections, t.programs) = (s.connections, s.programs))
    (same : T.Same o.engine t.engine.library) : Looks T o t := by
  obtain ⟨connections, programs⟩ := Prod.mk.inj rest
  have shown : t.view (fun _ => o.engine) = o := by
    rw [← hs.outline]
    unfold view
    rw [connections, programs]
  refine hs.step he engaged (congrArg Table.next connections) (fun p => ?_) shown same
  have program : t.program p = s.program p := congrArg (fun ps => ps.get p) programs
  rw [program]
  exact ⟨rfl, fun _ => id⟩

theorem token (hs : Looks T o s) (h : CompiledId) (b : Bool) :
    Looks T o (s.withStatement h fun x => { x with inUse := b }) :=
  hs.restated (.withStatement s h fun _ => rfl) (hs.tuned.engaged.token h b) rfl hs.same

theorem struck (hs : Looks T o s) (live : (s.statement h).destroyed = false) :
    Looks T o (s.struck L.engine h) :=
  hs.restated (.struck ..) (hs.tuned.engaged.struck live).1 rfl hs.same

theorem asked (hs : Looks T o s) (live : (s.statement h).destroyed = false) {r : Primitive}
    (about : r.target? = some (s.native h).2) (destroy : r.name ≠ .destroy)
    (execute : r.name ≠ .execute) :
    Looks T o (s.asked L.engine (s.native h).1 r) := by
  have compile : r.name ≠ .compile := by
    intro same
    cases r with
    | compile => nomatch about
    | _ => nomatch same
  refine hs.restated (.asked ..) (hs.tuned.engaged.asked live about destroy) rfl ?_
  show T.Same _ (L.engine.run _ r s.engine).2.library
  rw [Engines.library_run compile execute]
  exact hs.same

theorem created (hs : Looks T o s) (c : ConnectionId) (sql : String) :
    Looks T (o.created c sql) (s.created c sql) where
  tuned :=
    { engaged := hs.tuned.engaged.congr rfl rfl
      connections := fun d hd => by
        have next : (s.created c sql).connections.next = s.connections.next :=
          Table.next_modify ..
        rw [next] at hd
        have same : ((s.created c sql).connection d).engine = (s.connection d).engine :=
          Store.connection_part _ c d (fun x => x.engine) fun _ => rfl
        rw [same]
        exact hs.tuned.connections d hd
      held := fun q k held => by
        rw [program_created] at held ⊢
        split at held
        · nomatch held
        · next old =>
          rw [if_neg old]
          exact hs.tuned.held q k held }
  outline := by
    have shown := view_created (fun _ => o.engine) s c sql
    rw [hs.outline] at shown
    exact shown
  same := hs.same

theorem connected (hs : Looks T o s) {x : Connection} (own : x.engine = T.engine) :
    Looks T { o with connections := o.connections.push x.outline }
      { s with connections := s.connections.push x } where
  tuned :=
    { engaged := hs.tuned.engaged.congr rfl rfl
      connections := fun d hd => by
        rw [connection_pushed]
        split
        · exact own
        · next old =>
          refine hs.tuned.connections d ?_
          have next : (s.connections.push x).next = s.connections.next + 1 := Table.next_push ..
          have hd' : d < (s.connections.push x).next := hd
          rw [next] at hd'
          exact Nat.lt_of_le_of_ne (Nat.lt_succ_iff.1 hd') old
      held := hs.tuned.held }
  outline := by
    show Store.view _ _ = _
    unfold Store.view
    rw [Table.map_push]
    exact congrArg (fun o : Store δ => { o with connections := o.connections.push x.outline })
      hs.outline
  same := hs.same

end Looks

end Store

end Prepared
