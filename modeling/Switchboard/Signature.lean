import Switchboard.TypeName

/-!
# Signatures

What the catalog knows of a candidate method: whether it needs its receiver for itself alone, and
the types of its parameters and results. A type is identified by its full name; `Shape` tells
whether a parameter is passed by value or as a pointer into storage of the caller.
-/

namespace Switchboard

/-- How a parameter is passed. -/
inductive Shape where
  | value
  /-- By reference, so the callee writes into storage of the caller. -/
  | pointer
  deriving DecidableEq, Repr

/-- One parameter or result of a signature. -/
structure TypeInfo where
  /-- The full name of the type. -/
  name : String
  shape : Shape
  deriving DecidableEq, Repr

namespace TypeInfo

/-- A type passed by value. -/
def value (name : String) : TypeInfo := ⟨name, .value⟩

/-- A type passed as a pointer. -/
def pointer (name : String) : TypeInfo := ⟨name, .pointer⟩

/-- Whether two parameters have the same type, whatever their shape. -/
def isSame (a b : TypeInfo) : Bool := a.name = b.name

/-- The text of a parameter. -/
def text (t : TypeInfo) : String :=
  match t.shape with
  | .value => t.name
  | .pointer => "&mut " ++ t.name

/-- Whether a foreign decoder can see values of the type. -/
def isVisible (t : TypeInfo) : Bool := TypeName.visible t.name

end TypeInfo

/-! ## The special types of the calling convention -/

/-- The cancellation token a method is given. -/
def contextType : TypeInfo := .value "birpc_context::context::Context"

/-- The handle to the calling peer a method is given. -/
def clientType : TypeInfo := .value "birpc::client::ClientConnector"

/-- The result of a method: nothing, or an error. -/
def resultType : TypeInfo := .value (
  "core::result::Result<(), alloc::boxed::Box<dyn core::error::Error + " ++
  "core::marker::Send + core::marker::Sync>>")

/-- Whether a method shares its receiver or needs it for itself alone. -/
inductive ReceiverKind where
  | shared
  /-- Only reachable when the receiver is behind a mutex. -/
  | exclusive
  deriving DecidableEq, Repr

/-- The types of a method: its receiver, then token, client, argument and reply; and its results. -/
structure Signature where
  receiver : ReceiverKind
  inputs : List TypeInfo
  outputs : List TypeInfo
  deriving DecidableEq, Repr

end Switchboard
