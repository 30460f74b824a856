import Switchboard.Method.Catalog

/-!
# Receivers

What is registered as a service: a name, candidate methods and a state they work on. A receiver can
be put behind a mutex, which makes every candidate share it: the lock gives each call the state for
itself alone.
-/

namespace Switchboard

/-- Something whose methods can be served. -/
structure Receiver (ι σ κ : Type) [MessageFamily ι] where
  /-- The full name of its type. -/
  typeName : String
  /-- The name it is registered under unless another is given. -/
  declaredName : String := TypeName.declared typeName
  candidates : List (Candidate ι σ κ)
  /-- The state its methods start from. -/
  initial : σ
  /-- Whether a lock keeps its methods from running at once. -/
  isLocked : Bool := false

namespace Receiver

variable {ι σ κ : Type} [MessageFamily ι]

/-- The full name of a type behind a mutex. -/
def mutexName (typeName : String) : String :=
  "lock_api::mutex::Mutex<parking_lot::raw_mutex::RawMutex, " ++ typeName ++ ">"

/-- The receiver behind a mutex. -/
def behindMutex (r : Receiver ι σ κ) : Receiver ι σ κ where
  typeName := mutexName r.typeName
  declaredName := r.declaredName
  candidates := r.candidates.map Candidate.lift
  initial := r.initial
  isLocked := true

end Receiver

end Switchboard
