/-! Operations.

An operation acts on a state and ends with a result or an error. What it has done to
the state by then stays done in either case, so how two operations are put together
says what becomes of the second when the first has failed: in a sequence it is left
out, with `both` and `forAll` it is run all the same. -/
namespace Prepared

/-- An operation on a state `S` with results in `α` and errors in `ε`. -/
structure Operation (S ε α : Type) where
  /-- What the operation ends with, and the state as it has become. -/
  run : S → Except ε α × S

namespace Operation

variable {S ε δ α β : Type}

theorem ext {x y : Operation S ε α} (h : ∀ s, x.run s = y.run s) : x = y := by
  cases x; cases y; congr; exact funext h

/-- A sequence ends with the first error. -/
instance : Monad (Operation S ε) where
  pure a := ⟨fun s => (.ok a, s)⟩
  bind x f := ⟨fun s =>
    match x.run s with
    | (.ok a, s) => (f a).run s
    | (.error e, s) => (.error e, s)⟩

instance : MonadExceptOf ε (Operation S ε) where
  throw e := ⟨fun s => (.error e, s)⟩
  tryCatch x f := ⟨fun s =>
    match x.run s with
    | (.ok a, s) => (.ok a, s)
    | (.error e, s) => (f e).run s⟩

@[simp] theorem run_pure (a : α) (s : S) : (pure a : Operation S ε α).run s = (.ok a, s) := rfl

@[simp] theorem run_bind (x : Operation S ε α) (f : α → Operation S ε β) (s : S) :
    (x >>= f).run s =
      match x.run s with
      | (.ok a, s) => (f a).run s
      | (.error e, s) => (.error e, s) := rfl

@[simp] theorem run_throw (e : ε) (s : S) :
    (throw e : Operation S ε α).run s = (.error e, s) := rfl

@[simp] theorem run_ite {c : Prop} [Decidable c] (x y : Operation S ε α) (s : S) :
    (if c then x else y).run s = if c then x.run s else y.run s := by
  split <;> rfl

instance : LawfulMonad (Operation S ε) :=
  LawfulMonad.mk' _
    (by
      intro α x
      refine Operation.ext fun s => ?_
      change (match x.run s with
        | (.ok a, s) => (.ok (id a), s)
        | (.error e, s) => (.error e, s)) = x.run s
      rcases x.run s with ⟨_ | _, _⟩ <;> rfl)
    (fun _ _ => rfl)
    (by
      intro α β γ x f g
      refine Operation.ext fun s => ?_
      simp only [run_bind]
      rcases x.run s with ⟨_ | _, _⟩ <;> rfl)

/-- Reads off the state. -/
def read (f : S → α) : Operation S ε α := ⟨fun s => (.ok (f s), s)⟩

/-- Changes the state. -/
def change (f : S → S) : Operation S ε Unit := ⟨fun s => (.ok (), f s)⟩

/-- The operation with its error as part of the result. -/
def attempt (x : Operation S ε α) : Operation S δ (Except ε α) :=
  ⟨fun s => (.ok (x.run s).1, (x.run s).2)⟩

/-- The operation with its error changed. -/
def mapError (f : ε → δ) (x : Operation S ε α) : Operation S δ α :=
  ⟨fun s => ((x.run s).1.mapError f, (x.run s).2)⟩

/-- Runs both, whatever fails; the first error counts. -/
def both (x y : Operation S ε Unit) : Operation S ε Unit := ⟨fun s =>
  match x.run s with
  | (.ok _, s) => y.run s
  | (.error e, s) => (.error e, (y.run s).2)⟩

/-- Runs an operation for every member of a list, whatever fails; the first error
counts. -/
def forAll (f : α → Operation S ε Unit) : List α → Operation S ε Unit
  | [] => pure ()
  | a :: as => both (f a) (forAll f as)

/-- Runs an operation for the members of a list until one fails. -/
def untilError (f : α → Operation S ε Unit) : List α → Operation S ε Unit
  | [] => pure ()
  | a :: as => do
    f a
    untilError f as

@[simp] theorem run_read (f : S → α) (s : S) :
    (read f : Operation S ε α).run s = (.ok (f s), s) := rfl

@[simp] theorem run_change (f : S → S) (s : S) :
    (change f : Operation S ε Unit).run s = (.ok (), f s) := rfl

end Operation

end Prepared
