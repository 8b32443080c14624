import Prepared.Engine.Recording

/-! Logs of requests.

An engine with a log answers as the engine behind it does, and writes down every request
with its answer, whether it succeeded or not. -/
namespace Prepared

/-- The statement that an answer has given out, if the request was a compilation. -/
def Primitive.issued : (p : Primitive) → p.Answer → Option StatementId
  | .compile _, n => some n
  | .destroy _, _ | .bind .., _ | .clearBindings _, _ | .execute _, _ => none

/-- A request as it was answered. -/
structure Sent where
  engine : EngineId
  request : Primitive
  /-- The error, or the statement that was given out if there is one. -/
  answer : Except EngineError (Option StatementId)

namespace Sent

/-- The statement that a request is about: the one it names, or the one it gave out. -/
def statement? (x : Sent) : Option StatementId :=
  match x.request.target? with
  | some n => some n
  | none => x.answer.toOption.join

/-- Whether a request is about a statement of an engine. -/
def isAbout (i : EngineId) (n : StatementId) (x : Sent) : Bool :=
  x.engine == i && x.statement? == some n

/-- The statement that a request gave out, with its engine. -/
def issued? (x : Sent) : Option (EngineId × StatementId) :=
  x.answer.toOption.join.map fun n => (x.engine, n)

/-- The statement that a request was to destroy, with its engine. -/
def destroyed? (x : Sent) : Option (EngineId × StatementId) :=
  match x.request with
  | .destroy n => some (x.engine, n)
  | _ => none

end Sent

/-- A state with the requests made so far, the oldest first. -/
structure Logged (σ : Type) where
  inner : σ
  log : List Sent := []

/-- Engines that write down what they are asked. -/
def Engine.logged (E : Engine σ) : Engine (Logged σ) where
  run i p s :=
    let (r, inner) := E.run i p s.inner
    (r, { inner, log := s.log ++ [⟨i, p, r.map p.issued⟩] })

/-- No statement of an engine was given out twice. -/
def IssuesOnce (log : List Sent) : Prop :=
  (log.filterMap Sent.issued?).Nodup

instance (log : List Sent) : Decidable (IssuesOnce log) :=
  inferInstanceAs (Decidable (List.Nodup _))

/-- Whether a request binds, clears or executes a statement of an engine. -/
structure Sent.Uses (i : EngineId) (n : StatementId) (x : Sent) : Prop where
  engine : x.engine = i
  target : x.request.target? = some n
  request : x.request.name ≠ .destroy

/-- The requests about one statement: none, or a compilation that gave it out, then any
number of bindings, clearings and executions, then at most one request to destroy it, which
is the last. -/
inductive IsLife (i : EngineId) (n : StatementId) : List Sent → Prop
  | unborn : IsLife i n []
  | alive (sql : String) (uses : List Sent) (used : ∀ x ∈ uses, x.Uses i n) :
      IsLife i n (⟨i, .compile sql, .ok (some n)⟩ :: uses)
  | over (sql : String) (uses : List Sent) (used : ∀ x ∈ uses, x.Uses i n)
      (answer : Except EngineError (Option StatementId)) :
      IsLife i n (⟨i, .compile sql, .ok (some n)⟩ :: uses ++ [⟨i, .destroy n, answer⟩])

@[simp] theorem Engine.logged_run (E : Engine σ) (i : EngineId) (p : Primitive) (s : Logged σ) :
    E.logged.run i p s =
      ((E.run i p s.inner).1,
       { inner := (E.run i p s.inner).2,
         log := s.log ++ [⟨i, p, (E.run i p s.inner).1.map p.issued⟩] }) := rfl

theorem IssuesOnce.of_append {xs ys : List Sent} (h : IssuesOnce (xs ++ ys)) : IssuesOnce xs := by
  unfold IssuesOnce at h ⊢
  rw [List.filterMap_append] at h
  exact (List.nodup_append.1 h).1

end Prepared
