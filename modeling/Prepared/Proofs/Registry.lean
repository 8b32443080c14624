import Prepared.Proofs.Homes

/-! The list of open programs.

A connection lists programs of its own, and every open program is on the list of its
connection until that connection sweeps it. -/
namespace Prepared.Store

variable {σ : Type} {E : Engine σ} {s t : Store σ} {g g' : Grip}

structure Registry (m : Moment σ) : Prop where
  /-- What is on a list is a program of that connection. -/
  member : ∀ c p, p ∈ (m.store.connection c).programs →
    p < m.store.programs.next ∧ (m.store.program p).connection = c
  /-- An open program is on the list, or about to be swept. -/
  listed : ∀ p, (m.store.program p).isClosed = false →
    p ∈ (m.store.connection (m.store.program p).connection).programs ∨ p ∈ m.grip.sweep

namespace Registry

/-- The lists are in order still, if only new programs were listed, and open programs were
not taken off. -/
theorem of_frame (hr : Registry ⟨s, g⟩) (he : Extends s t)
    (lists : ∀ c p, p ∈ (t.connection c).programs → p ∈ (s.connection c).programs ∨
      p < t.programs.next ∧ (t.program p).connection = c)
    (kept : ∀ p, (t.program p).isClosed = false → (s.program p).isClosed = false →
      (p ∈ (s.connection (s.program p).connection).programs →
        p ∈ (t.connection (s.program p).connection).programs ∨ p ∈ g'.sweep) ∧
      (p ∈ g.sweep → p ∈ g'.sweep))
    (opened : ∀ p, (t.program p).isClosed = false → (s.program p).isClosed = true →
      p ∈ (t.connection (t.program p).connection).programs) : Registry ⟨t, g'⟩ where
  member c p hm := by
    rcases lists c p hm with ho | hn
    · obtain ⟨hlt, hc⟩ := hr.member c p ho
      exact ⟨Nat.lt_of_lt_of_le hlt he.programs, (he.home p hlt).trans hc⟩
    · exact hn
  listed p hp := by
    cases hs : (s.program p).isClosed with
    | true => exact .inl (opened p hp hs)
    | false =>
      obtain ⟨list, sweep⟩ := kept p hp hs
      show p ∈ (t.connection (t.program p).connection).programs ∨ p ∈ g'.sweep
      rw [he.home p (lt_of_not_closed hs)]
      rcases hr.listed p hs with hl | hw
      · exact list hl
      · exact .inr (sweep hw)

/-- Neither the lists nor the programs' ends have changed. -/
theorem of_same (hr : Registry ⟨s, g⟩) (he : Extends s t)
    (hl : ∀ c, (t.connection c).programs = (s.connection c).programs)
    (hp : ∀ p, (t.program p).isClosed = (s.program p).isClosed) (hg : g'.sweep = g.sweep) :
    Registry ⟨t, g'⟩ := by
  refine hr.of_frame he (fun c p hm => .inl (hl c ▸ hm)) (fun p _ _ => ⟨fun hm => .inl ?_, fun hm => ?_⟩)
    fun p ht hs => ?_
  · rw [hl]
    exact hm
  · rw [hg]
    exact hm
  · exact absurd ((hp p).symm.trans ht) (by rw [hs]; decide)

theorem programs_withConnection (s : Store σ) (c d : ConnectionId) {f : Connection → Connection}
    (hf : ∀ x, (f x).programs = x.programs) :
    ((s.withConnection c f).connection d).programs = (s.connection d).programs :=
  connection_part s c d (fun x => x.programs) hf

theorem isClosed_withProgram (s : Store σ) (p q : ProgramId) {f : Program → Program}
    (hf : ∀ x, (f x).isClosed = x.isClosed) :
    ((s.withProgram p f).program q).isClosed = (s.program q).isClosed :=
  program_part s p q (fun x => x.isClosed) hf

theorem step {a b : Moment σ} (ha : Registry a) (ht : Rooted a.store) (hm : Move E a b) :
    Registry b := by
  have he := hm.extends
  cases hm with
  | reorder | store | clear | take | release | retire | dropClone | clone =>
    exact ha.of_same he (fun d => programs_withConnection _ _ d fun _ => rfl) (fun _ => rfl) rfl
  | hold | queue | dropProgram =>
    exact ha.of_same he (fun _ => rfl) (fun q => isClosed_withProgram _ _ q fun _ => rfl) rfl
  | @close s g p free isOpen home =>
    refine ha.of_frame he (fun _ _ => .inl) (fun q hq _ => ⟨.inl, fun hw => ?_⟩) fun q hq hs => ?_
    · have hqp : q ≠ p := by
        intro same
        subst same
        rw [program_withProgram_self (lt_of_not_closed isOpen)] at hq
        nomatch hq
      exact (List.mem_erase_of_ne hqp).2 hw
    · rw [program_withProgram] at hq
      split at hq
      · nomatch hq
      · exact absurd (hs.symm.trans hq) (by decide)
  | @skip s g p closed =>
    refine ha.of_frame he (fun _ _ => .inl) (fun q hq _ => ⟨.inl, fun hw => ?_⟩) fun q hq hs => ?_
    · exact (List.mem_erase_of_ne (ne_of_closed hq closed)).2 hw
    · exact absurd (hs.symm.trans hq) (by decide)
  | @deregister s g p closed =>
    -- only a closed program leaves the list, and those are not asked for
    refine ha.of_frame he (fun d q hq => .inl ?_) (fun q hq _ => ⟨fun hl => .inl ?_, id⟩)
      fun q hq hs => ?_
    · rw [connection_withConnection] at hq
      split at hq
      · exact List.mem_of_mem_filter hq
      · exact hq
    · rw [connection_withConnection]
      split
      · exact List.mem_filter.2 ⟨hl, bne_iff_ne.2 (ne_of_closed hq closed)⟩
      · exact hl
    · exact absurd (hs.symm.trans hq) (by decide)
  | @create s g k sql owed isOpen =>
    have hp := program_created s g.connection sql
    have hc (d : ConnectionId) : ((s.created g.connection sql).connection d).programs =
        if d = g.connection then (s.connection d).programs ++ [s.programs.next]
        else (s.connection d).programs := by
      apply (congrArg Connection.programs (connection_withConnection _ _ d _)).trans
      by_cases hd : d = g.connection
      · subst hd
        rw [if_pos ⟨rfl, lt_of_isOpen isOpen⟩, if_pos rfl]
        rfl
      · rw [if_neg fun hn => hd hn.1, if_neg hd]
        rfl
    refine ha.of_frame he (fun d q hq => ?_) (fun q hq hs => ⟨fun hl => .inl ?_, id⟩)
      fun q hq hs => ?_
    · rw [hc] at hq
      split at hq
      · next hd =>
        rcases List.mem_append.1 hq with ho | hn
        · exact .inl ho
        · obtain rfl := List.mem_singleton.1 hn
          rw [hp, if_pos rfl]
          exact .inr ⟨Nat.lt_of_lt_of_eq (Nat.lt_succ_self _) (Table.next_push ..).symm, hd.symm⟩
      · exact .inl hq
    · rw [hc]
      split
      · exact List.mem_append_left _ hl
      · exact hl
    · rw [hp] at hq ⊢
      split at hq
      · next hn =>
        rw [if_pos hn, hc, if_pos rfl, hn]
        exact List.mem_append_right _ (List.mem_singleton.2 rfl)
      · exact absurd (hs.symm.trans hq) (by decide)
  | @shut s g order swept isOpen all =>
    have hc (d : ConnectionId) : ((s.withConnection g.connection fun x =>
        { x with isOpen := false, programs := [] }).connection d).programs =
        if d = g.connection then [] else (s.connection d).programs := by
      rw [connection_withConnection]
      by_cases hd : d = g.connection
      · rw [if_pos ⟨hd, lt_of_isOpen isOpen⟩, if_pos hd]
      · rw [if_neg fun hn => hd hn.1, if_neg hd]
    refine ha.of_frame he (fun d q hq => .inl ?_) (fun q hq _ => ⟨fun hl => ?_, fun hw => ?_⟩)
      fun q hq hs => ?_
    · rw [hc] at hq
      split at hq
      · nomatch hq
      · exact hq
    · rw [hc]
      -- the programs that are listed no more are those to be swept
      by_cases hd : (s.program q).connection = g.connection
      · rw [hd] at hl
        exact .inr (all.mem_iff.2 hl)
      · rw [if_neg hd]
        exact .inl hl
    · rw [swept] at hw
      nomatch hw
    · exact absurd (hs.symm.trans hq) (by decide)
  | @connect s g i settings =>
    refine ha.of_frame he (fun d q hq => .inl ?_) (fun q hq hs => ⟨fun hl => .inl ?_, id⟩)
      fun q hq hs => ?_
    · rw [connection_pushed] at hq
      split at hq
      · nomatch hq
      · exact hq
    · have hlt := ht.program q (lt_of_not_closed hs)
      rw [connection_pushed, if_neg (Nat.ne_of_lt hlt)]
      exact hl
    · exact absurd (hs.symm.trans hq) (by decide)
  | _ => exact ha.of_same he (fun _ => rfl) (fun _ => rfl) rfl

end Registry

end Prepared.Store
