/-!
# Client handles

A method is given a handle to the peer that called it, so that it can reach back. The handle is
forwarded as it is: only the application knows what its peers are, and methods look for the kind
of peer they can talk to.
-/

namespace Switchboard

/-- A handle to the calling peer, if the transport put one in. -/
structure Client (κ : Type) where
  peer : Option κ

namespace Client

variable {κ α : Type}

/-- No peer. -/
def none : Client κ := ⟨Option.none⟩

/-- The given peer. -/
def of (peer : κ) : Client κ := ⟨some peer⟩

/-- Whether there is no peer. -/
def isNone (c : Client κ) : Bool := c.peer.isNone

/-- The peer, if it is of the kind that `view` picks out. -/
def as? (c : Client κ) (view : κ → Option α) : Option α := c.peer.bind view

/-- The text by which a handle describes itself. -/
def describe (c : Client κ) : String :=
  "ClientConnector \x7b attached: " ++ toString c.peer.isSome ++ " \x7d"

end Client

end Switchboard
