import Prepared.Sql.Library

/-! Libraries that go by what is in their databases.

What engines do depends on the library below them. What is assumed of it, where that matters, is
said here: which states count as the same, that preparing a text leads from a state to one that
counts as the same, and that in such states a text is run with the same values to the same effect.
Nothing is assumed of what a text does. -/
namespace Prepared.Sql

variable {δ ε α : Type}

/-- Two results are alike: there are two, which are alike, or the same error twice. -/
inductive Both (R : α → α → Prop) : Except ε α → Except ε α → Prop
  | ok {a b : α} (alike : R a b) : Both R (.ok a) (.ok b)
  | error (e : ε) : Both R (.error e) (.error e)

/-- Two cursors give the same rows, and leave states that count as the same wherever the reader
stops. -/
inductive Cursor.Alike (Same : δ → δ → Prop) : Cursor δ → Cursor δ → Prop
  | finished {d e : δ} (same : Same d e) : Alike Same (.finished d) (.finished e)
  | failed (reason : String) {d e : δ} (same : Same d e) :
    Alike Same (.failed reason d) (.failed reason e)
  | row (values : Row) {d e : δ} {c k : Cursor δ} (stopped : Same d e) (rest : Alike Same c k) :
    Alike Same (.row values d c) (.row values e k)

/-- Alike cursors are read to the same effect. -/
theorem Cursor.Alike.read {Same : δ → δ → Prop} {c k : Cursor δ} (h : Alike Same c k)
    (width : Nat) : (c.read width).1 = (k.read width).1 ∧ Same (c.read width).2 (k.read width).2 := by
  induction h with
  | finished same => exact ⟨rfl, same⟩
  | failed reason same => exact ⟨rfl, same⟩
  | @row values d e c k stopped rest ih =>
    unfold Cursor.read
    cases (List.range width).mapM values with
    | error reason => exact ⟨rfl, stopped⟩
    | ok first =>
      obtain ⟨result, same⟩ := ih
      dsimp only
      rcases hc : c.read width with ⟨x, d'⟩
      rcases hk : k.read width with ⟨y, e'⟩
      rw [hc, hk] at result same
      subst result
      cases x with
      | error reason => exact ⟨rfl, same⟩
      | ok others => exact ⟨rfl, same⟩

/-- What is to be said of a library by whoever compares runs over it: the engine that they are for,
the number of parameters of each text, and what counts as the same. -/
structure Terms (L : Library δ) where
  engine : EngineId
  count : String → Nat
  /-- States with the same databases. -/
  Same : δ → δ → Prop
  /-- Statements of the same text, with the same values bound. -/
  Alike : L.Statement → L.Statement → Prop

/-- A text has one number of parameters, whenever it is prepared. -/
def Library.Counts (L : Library δ) (count : String → Nat) : Prop :=
  ∀ i sql d n, (L.prepare i sql d).1 = .ok n → n = count sql

variable {L : Library δ}

/-- What is assumed of a library. Preparing has no effect on what is in the databases, and what a
statement does depends on that, on its text and on the values that are bound. -/
structure Terms.Laws (T : Terms L) : Prop where
  counts : L.Counts T.count
  symm : ∀ {d e}, T.Same d e → T.Same e d
  trans : ∀ {d e f}, T.Same d e → T.Same e f → T.Same d f
  prepare : ∀ {d e} sql, T.Same d e → T.Same d (L.prepare T.engine sql e).2
  fetch : ∀ {d e} sql, T.Same d e →
    Both T.Alike (L.fetch T.engine sql d).1 (L.fetch T.engine sql e).1 ∧
      T.Same (L.fetch T.engine sql d).2 (L.fetch T.engine sql e).2
  bind : ∀ {p q} position value, T.Alike p q →
    Both T.Alike (L.bind p position value) (L.bind q position value)
  titles : ∀ {p q}, T.Alike p q → L.titles p = L.titles q
  execute : ∀ {p q d e}, T.Alike p q → T.Same d e →
    (L.execute T.engine p d).1 = (L.execute T.engine q e).1 ∧
      T.Same (L.execute T.engine p d).2 (L.execute T.engine q e).2
  query : ∀ {p q d e}, T.Alike p q → T.Same d e →
    Cursor.Alike T.Same (L.query T.engine p d) (L.query T.engine q e)

namespace Terms.Laws

variable {T : Terms L} {d e : δ} {p q : L.Statement}

theorem bindFrom (laws : T.Laws) (vs : List Value) (position : Nat) (alike : T.Alike p q) :
    Both T.Alike (L.bindFrom position p vs) (L.bindFrom position q vs) := by
  induction vs generalizing position p q with
  | nil => exact .ok alike
  | cons v vs ih =>
    have bound := laws.bind position v alike
    unfold Library.bindFrom
    cases hp : L.bind p position v <;> cases hq : L.bind q position v <;> rw [hp, hq] at bound <;>
      cases bound
    · exact .error _
    · next alike => exact ih (position + 1) alike

theorem perform (laws : T.Laws) (alike : T.Alike p q) (same : T.Same d e) :
    (L.perform T.engine p d).1 = (L.perform T.engine q e).1 ∧
      T.Same (L.perform T.engine p d).2 (L.perform T.engine q e).2 := by
  unfold Library.perform
  rw [laws.titles alike]
  dsimp only
  split
  · obtain ⟨result, after⟩ := laws.execute alike same
    rcases hp : L.execute T.engine p d with ⟨x, d'⟩
    rcases hq : L.execute T.engine q e with ⟨y, e'⟩
    rw [hp, hq] at result after
    subst result
    cases x with
    | error reason => exact ⟨rfl, after⟩
    | ok changes => exact ⟨rfl, after⟩
  · obtain ⟨result, after⟩ := (laws.query alike same).read (L.titles q).length
    rcases hp : (L.query T.engine p d).read (L.titles q).length with ⟨x, d'⟩
    rcases hq : (L.query T.engine q e).read (L.titles q).length with ⟨y, e'⟩
    rw [hp, hq] at result after
    subst result
    cases x with
    | error reason => exact ⟨rfl, after⟩
    | ok rows => exact ⟨rfl, after⟩

/-- A text is run with the same values to the same effect. -/
theorem run (laws : T.Laws) (slot : Slot) (same : T.Same d e) :
    (L.run T.engine slot d).1 = (L.run T.engine slot e).1 ∧
      T.Same (L.run T.engine slot d).2 (L.run T.engine slot e).2 := by
  obtain ⟨fetched, after⟩ := laws.fetch slot.sql same
  unfold Library.run
  rcases hd : L.fetch T.engine slot.sql d with ⟨x, d'⟩
  rcases he : L.fetch T.engine slot.sql e with ⟨y, e'⟩
  rw [hd, he] at fetched after
  cases fetched with
  | error reason => exact ⟨rfl, after⟩
  | @ok p q alike =>
    have bound := laws.bindFrom slot.parameters 1 alike
    dsimp only
    cases hp : L.bindFrom 1 p slot.parameters <;> cases hq : L.bindFrom 1 q slot.parameters <;>
      rw [hp, hq] at bound <;> cases bound
    · exact ⟨rfl, after⟩
    · next alike => exact laws.perform alike after

end Terms.Laws

end Prepared.Sql
