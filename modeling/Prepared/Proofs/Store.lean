import Prepared.Store.Reference

/-! Tables and stores, read after a change.

What a table or a store tells at one position after a change at another, or after a change
of a field that is not looked at, is what it told before. -/
namespace Prepared

namespace Table

variable {α β : Type} [Inhabited α]

theorem get_modify (t : Table α) (i j : Nat) (f : α → α) :
    (t.modify i f).get j = if j = i ∧ i < t.next then f (t.get j) else t.get j := by
  by_cases hj : j = i
  · subst hj
    by_cases hi : j < t.next
    · simp [get_modify_self t f hi, hi]
    · have hn : (t.modify j f).next ≤ j := by simpa using hi
      simp [hi, get_of_le _ hn, get_of_le _ (Nat.le_of_not_lt hi)]
  · simp [hj, get_modify_of_ne t f (Ne.symm hj)]

/-- A part of the entries that the change leaves alone. -/
theorem get_modify_part (t : Table α) (i j : Nat) {f : α → α} (part : α → β)
    (hf : ∀ a, part (f a) = part a) : part ((t.modify i f).get j) = part (t.get j) := by
  rw [get_modify]
  split
  · exact hf _
  · rfl

theorem get_push (t : Table α) (a : α) (j : Nat) :
    (t.push a).get j = if j = t.next then a else t.get j := by
  by_cases hj : j = t.next
  · simp [hj]
  · simp [hj, get_push_of_ne t a hj]

theorem lt_next_of_part_ne {t : Table α} {i : Nat} (part : α → β)
    (h : part (t.get i) ≠ part default) : i < t.next := by
  rcases Nat.lt_or_ge i t.next with hi | hi
  · exact hi
  · exact absurd (congrArg part (get_of_le t hi)) h

omit [Inhabited α] in
theorem modify_modify (t : Table α) (i : Nat) (f g : α → α) :
    (t.modify i f).modify i g = t.modify i fun a => g (f a) := by
  unfold modify
  congr 1
  apply Array.ext
  · simp
  · intro j h₁ h₂
    simp only [Array.getElem_modify]
    split <;> rfl

/-- Only what the change does to the present entry matters. -/
theorem modify_congr {t : Table α} {i : Nat} {f g : α → α} (h : f (t.get i) = g (t.get i)) :
    t.modify i f = t.modify i g := by
  unfold modify
  congr 1
  apply Array.ext
  · simp
  · intro j h₁ h₂
    have hj : j < t.rows.size := by simpa using h₁
    simp only [Array.getElem_modify]
    split
    · next hi =>
      subst hi
      simpa [get, Array.getD_eq_getD_getElem?, hj] using h
    · rfl

omit [Inhabited α] in
theorem modify_comm (t : Table α) {i j : Nat} (apart : i ≠ j) (f g : α → α) :
    (t.modify i f).modify j g = (t.modify j g).modify i f := by
  unfold modify
  congr 1
  apply Array.ext
  · simp
  · intro k h₁ h₂
    simp only [Array.getElem_modify]
    by_cases hi : i = k
    · have hj : j ≠ k := fun same => apart (hi.trans same.symm)
      simp [hi, hj]
    · simp [hi]

omit [Inhabited α] in
theorem modify_id (t : Table α) (i : Nat) : (t.modify i fun a => a) = t := by
  rcases t with ⟨rows⟩
  unfold modify
  congr 1
  apply Array.ext
  · simp
  · intro j h₁ h₂
    simp [Array.getElem_modify]

end Table

namespace Store

variable {σ : Type} {β : Type}

@[simp] theorem engine_withConnection (s : Store σ) (c : ConnectionId)
    (f : Connection → Connection) :
    (s.withConnection c f).engine = s.engine := rfl

@[simp] theorem programs_withConnection (s : Store σ) (c : ConnectionId)
    (f : Connection → Connection) :
    (s.withConnection c f).programs = s.programs := rfl

@[simp] theorem compiled_withConnection (s : Store σ) (c : ConnectionId)
    (f : Connection → Connection) :
    (s.withConnection c f).compiled = s.compiled := rfl

@[simp] theorem engine_withProgram (s : Store σ) (p : ProgramId) (f : Program → Program) :
    (s.withProgram p f).engine = s.engine := rfl

@[simp] theorem connections_withProgram (s : Store σ) (p : ProgramId) (f : Program → Program) :
    (s.withProgram p f).connections = s.connections := rfl

@[simp] theorem compiled_withProgram (s : Store σ) (p : ProgramId) (f : Program → Program) :
    (s.withProgram p f).compiled = s.compiled := rfl

@[simp] theorem engine_withStatement (s : Store σ) (h : CompiledId) (f : Compiled → Compiled) :
    (s.withStatement h f).engine = s.engine := rfl

@[simp] theorem connections_withStatement (s : Store σ) (h : CompiledId) (f : Compiled → Compiled) :
    (s.withStatement h f).connections = s.connections := rfl

@[simp] theorem programs_withStatement (s : Store σ) (h : CompiledId) (f : Compiled → Compiled) :
    (s.withStatement h f).programs = s.programs := rfl

@[simp] theorem connection_withProgram (s : Store σ) (p : ProgramId) (f : Program → Program)
    (c : ConnectionId) : (s.withProgram p f).connection c = s.connection c := rfl

@[simp] theorem connection_withStatement (s : Store σ) (h : CompiledId)
    (f : Compiled → Compiled) (c : ConnectionId) :
    (s.withStatement h f).connection c = s.connection c := rfl

@[simp] theorem program_withConnection (s : Store σ) (c : ConnectionId)
    (f : Connection → Connection) (p : ProgramId) :
    (s.withConnection c f).program p = s.program p := rfl

@[simp] theorem program_withStatement (s : Store σ) (h : CompiledId)
    (f : Compiled → Compiled) (p : ProgramId) :
    (s.withStatement h f).program p = s.program p := rfl

@[simp] theorem statement_withConnection (s : Store σ) (c : ConnectionId)
    (f : Connection → Connection) (h : CompiledId) :
    (s.withConnection c f).statement h = s.statement h := rfl

@[simp] theorem statement_withProgram (s : Store σ) (p : ProgramId) (f : Program → Program)
    (h : CompiledId) : (s.withProgram p f).statement h = s.statement h := rfl

@[simp] theorem next_withConnection (s : Store σ) (c : ConnectionId)
    (f : Connection → Connection) :
    (s.withConnection c f).connections.next = s.connections.next := by
  simp [withConnection]

@[simp] theorem next_withProgram (s : Store σ) (p : ProgramId) (f : Program → Program) :
    (s.withProgram p f).programs.next = s.programs.next := by
  simp [withProgram]

@[simp] theorem next_withStatement (s : Store σ) (h : CompiledId) (f : Compiled → Compiled) :
    (s.withStatement h f).compiled.next = s.compiled.next := by
  simp [withStatement]

theorem connection_withConnection (s : Store σ) (c d : ConnectionId)
    (f : Connection → Connection) :
    (s.withConnection c f).connection d =
      if d = c ∧ c < s.connections.next then f (s.connection d) else s.connection d :=
  Table.get_modify ..

theorem program_withProgram (s : Store σ) (p q : ProgramId) (f : Program → Program) :
    (s.withProgram p f).program q =
      if q = p ∧ p < s.programs.next then f (s.program q) else s.program q :=
  Table.get_modify ..

theorem program_withProgram_self {s : Store σ} {p : ProgramId} (hp : p < s.programs.next)
    (f : Program → Program) : (s.withProgram p f).program p = f (s.program p) := by
  rw [program_withProgram, if_pos ⟨rfl, hp⟩]

theorem program_withProgram_of_ne {s : Store σ} {p q : ProgramId} (hq : q ≠ p)
    (f : Program → Program) : (s.withProgram p f).program q = s.program q := by
  rw [program_withProgram, if_neg fun h => hq h.1]

theorem statement_withStatement (s : Store σ) (h k : CompiledId) (f : Compiled → Compiled) :
    (s.withStatement h f).statement k =
      if k = h ∧ h < s.compiled.next then f (s.statement k) else s.statement k :=
  Table.get_modify ..

theorem statement_withStatement_self {s : Store σ} {h : CompiledId} (hh : h < s.compiled.next)
    (f : Compiled → Compiled) : (s.withStatement h f).statement h = f (s.statement h) := by
  rw [statement_withStatement, if_pos ⟨rfl, hh⟩]

theorem statement_withStatement_of_ne {s : Store σ} {h k : CompiledId} (hk : k ≠ h)
    (f : Compiled → Compiled) : (s.withStatement h f).statement k = s.statement k := by
  rw [statement_withStatement, if_neg fun hn => hk hn.1]

theorem connection_part (s : Store σ) (c d : ConnectionId) {f : Connection → Connection}
    (part : Connection → β) (hf : ∀ x, part (f x) = part x) :
    part ((s.withConnection c f).connection d) = part (s.connection d) :=
  Table.get_modify_part _ _ _ part hf

theorem program_part (s : Store σ) (p q : ProgramId) {f : Program → Program}
    (part : Program → β) (hf : ∀ x, part (f x) = part x) :
    part ((s.withProgram p f).program q) = part (s.program q) :=
  Table.get_modify_part _ _ _ part hf

theorem statement_part (s : Store σ) (h k : CompiledId) {f : Compiled → Compiled}
    (part : Compiled → β) (hf : ∀ x, part (f x) = part x) :
    part ((s.withStatement h f).statement k) = part (s.statement k) :=
  Table.get_modify_part _ _ _ part hf

theorem connection_pushed (s : Store σ) (x : Connection) (c : ConnectionId) :
    ({ s with connections := s.connections.push x } : Store σ).connection c =
      if c = s.connections.next then x else s.connection c :=
  Table.get_push ..

theorem withConnection_congr {s : Store σ} {c : ConnectionId} {f g : Connection → Connection}
    (h : f (s.connection c) = g (s.connection c)) :
    s.withConnection c f = s.withConnection c g := by
  unfold withConnection
  rw [Table.modify_congr h]

theorem withProgram_congr {s : Store σ} {p : ProgramId} {f g : Program → Program}
    (h : f (s.program p) = g (s.program p)) : s.withProgram p f = s.withProgram p g := by
  unfold withProgram
  rw [Table.modify_congr h]

theorem withConnection_withConnection (s : Store σ) (c : ConnectionId)
    (f g : Connection → Connection) :
    (s.withConnection c f).withConnection c g = s.withConnection c fun x => g (f x) := by
  simp [withConnection, Table.modify_modify]

theorem withProgram_withProgram (s : Store σ) (p : ProgramId) (f g : Program → Program) :
    (s.withProgram p f).withProgram p g = s.withProgram p fun x => g (f x) := by
  simp [withProgram, Table.modify_modify]

/-! What was never given out reads as closed and empty, so whatever is found there exists. -/

theorem lt_of_isOpen {s : Store σ} {c : ConnectionId} (h : (s.connection c).isOpen = true) :
    c < s.connections.next :=
  Table.lt_next_of_part_ne (fun x => x.isOpen) fun hd => absurd (h.symm.trans hd) (by decide)

theorem lt_of_entry {s : Store σ} {c : ConnectionId} {e : String × CompiledId}
    (h : e ∈ (s.connection c).cache.entries) : c < s.connections.next :=
  Table.lt_next_of_part_ne (fun x => x.cache.entries) fun hd => by
    have he : e ∈ (default : Connection).cache.entries := hd ▸ h
    simp [default] at he

theorem lt_of_references {s : Store σ} {c : ConnectionId}
    (h : (s.connection c).references ≠ 0) : c < s.connections.next :=
  Table.lt_next_of_part_ne (fun x => x.references) h

theorem lt_of_clones {s : Store σ} {c : ConnectionId} (h : 0 < (s.connection c).clones) :
    c < s.connections.next :=
  Table.lt_next_of_part_ne (fun x => x.clones) (Nat.ne_of_gt h)

theorem lt_of_not_dropped {s : Store σ} {p : ProgramId}
    (h : (s.program p).isDropped = false) : p < s.programs.next :=
  Table.lt_next_of_part_ne (fun x => x.isDropped) fun hd => absurd (h.symm.trans hd) (by decide)

theorem lt_of_not_closed {s : Store σ} {p : ProgramId}
    (h : (s.program p).isClosed = false) : p < s.programs.next :=
  Table.lt_next_of_part_ne (fun x => x.isClosed) fun hd => absurd (h.symm.trans hd) (by decide)

theorem ne_of_closed {s : Store σ} {p q : ProgramId} (live : (s.program q).isClosed = false)
    (closed : (s.program p).isClosed = true) : q ≠ p := by
  rintro rfl
  exact absurd (closed.symm.trans live) (by decide)

theorem lt_of_held {s : Store σ} {p : ProgramId} {h : CompiledId}
    (hh : (s.program p).held = some h) : p < s.programs.next :=
  Table.lt_next_of_part_ne (fun x => x.held) fun hd => absurd (hh.symm.trans hd) (by simp [default])

theorem lt_of_not_destroyed {s : Store σ} {h : CompiledId}
    (hd : (s.statement h).destroyed = false) : h < s.compiled.next :=
  Table.lt_next_of_part_ne (fun x => x.destroyed) fun he => absurd (hd.symm.trans he) (by decide)

/-- A connection is referred to by a clone in use or by a program that is not dropped. -/
theorem isReferenced_iff {s : Store σ} {c : ConnectionId} :
    s.isReferenced c = true ↔
      0 < (s.connection c).clones ∨
        ∃ p, (s.program p).connection = c ∧ (s.program p).isDropped = false := by
  simp only [isReferenced, Table.positions, Bool.or_eq_true, decide_eq_true_eq, List.any_eq_true,
    List.mem_range, Bool.and_eq_true, beq_iff_eq, Bool.not_eq_true']
  constructor
  · intro either
    rcases either with h | ⟨p, _, h⟩
    · exact .inl h
    · exact .inr ⟨p, h⟩
  · intro either
    rcases either with h | ⟨p, h⟩
    · exact .inl h
    · exact .inr ⟨p, lt_of_not_dropped h.2, h⟩

theorem isReferenced_of_clones {s : Store σ} {c : ConnectionId}
    (h : 0 < (s.connection c).clones) : s.isReferenced c = true :=
  isReferenced_iff.2 (.inl h)

/-- A statement is held if some program holds it. -/
theorem isHeld_iff {s : Store σ} {h : CompiledId} :
    s.isHeld h = true ↔ ∃ p, (s.program p).held = some h := by
  simp only [isHeld, Table.positions, List.any_eq_true, List.mem_range, beq_iff_eq]
  constructor
  · intro found
    obtain ⟨p, _, hp⟩ := found
    exact ⟨p, hp⟩
  · intro found
    obtain ⟨p, hp⟩ := found
    exact ⟨p, lt_of_held hp, hp⟩

/-- Whether a connection is referred to depends on its clones and on whose programs are not
dropped. -/
theorem isReferenced_congr {s t : Store σ} {c : ConnectionId}
    (hc : (t.connection c).clones = (s.connection c).clones)
    (hp : ∀ p, (t.program p).connection = (s.program p).connection ∧
      (t.program p).isDropped = (s.program p).isDropped) :
    t.isReferenced c = s.isReferenced c := by
  rw [Bool.eq_iff_iff, isReferenced_iff, isReferenced_iff, hc]
  simp only [hp]

end Store

end Prepared
