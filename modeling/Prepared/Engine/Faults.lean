import Prepared.Engine.Basic

/-! Engines with faults.

A fault waits for a request of one primitive, lets some of them pass, and then fails
the next one with its error; the engine behind it does not see that request. -/
namespace Prepared

/-- A failure to come. -/
structure Fault where
  name : Primitive.Name
  /-- How many requests of that primitive still pass. -/
  skip : Nat := 0
  error : EngineError
  deriving DecidableEq, Repr

/-- A state with faults in front of it, the next one first. -/
structure Faulty (σ : Type) where
  inner : σ
  faults : List Fault := []

namespace Fault

/-- What the first fault for a primitive does to a request of it, and the faults
that remain. -/
def strike (name : Primitive.Name) : List Fault → Option EngineError × List Fault
  | [] => (none, [])
  | f :: fs =>
    if f.name = name then
      if f.skip = 0 then (some f.error, fs) else (none, { f with skip := f.skip - 1 } :: fs)
    else
      let (e, fs) := strike name fs
      (e, f :: fs)

end Fault

/-- Engines with a list of faults in front of them. -/
def Engine.withFaults (E : Engine σ) : Engine (Faulty σ) where
  run i p s :=
    match Fault.strike p.name s.faults with
    | (some e, faults) => (.error e, { s with faults })
    | (none, faults) =>
      let (r, inner) := E.run i p s.inner
      (r, { inner, faults })

end Prepared
