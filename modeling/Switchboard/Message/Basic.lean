import Switchboard.Wire.Format

/-!
# Message types

The values that travel as arguments and replies. A `Message` type has a wire format, a name, and a
zero value that fresh holders start from; some have a slot for the pending table of a connection.
The slot is empty in zero values and in values read from the wire.

An application brings its own message types as a `MessageFamily`: an index type with a message type
for each index. `MessageType ι` adds the three types that the library itself needs, and is the
identity by which holders tell types apart.
-/

namespace Switchboard

/-- Names the pending table of one connection. A method that is handed one may cancel through it. -/
structure TableRef where
  id : Nat
  deriving DecidableEq, Repr

/-- The place in a value where a pending table can be put. -/
structure PendingSlot (α : Type) where
  get : α → Option TableRef
  set : TableRef → α → α
  get_set : ∀ t a, get (set t a) = some t

/-- Types usable as argument or reply of a method. -/
class Message (α : Type) extends Wire α where
  typeName : String
  /-- What fresh holders hold; containers begin empty. -/
  zero : α
  /-- Where the value takes a pending table, if it does. -/
  slot : Option (PendingSlot α) := none
  /-- A fresh holder holds no pending table. -/
  slot_zero : ∀ s ∈ slot, s.get zero = none := by simp
  /-- No bytes stand for a pending table. -/
  slot_read : ∀ s ∈ slot, ∀ bytes a rest, read bytes = .ok (a, rest) → s.get a = none := by simp

/-- What the cancel method of the reserved service takes. -/
structure CancelArgs where
  /-- The sequence number of the call to cancel. -/
  seq : UInt64
  pending : Option TableRef
  deriving DecidableEq, Repr

instance : Wire CancelArgs := Wire.via CancelArgs.seq fun seq => ⟨seq, none⟩

/-- No pending table comes off the wire. -/
theorem CancelArgs.pending_of_read {bytes rest : Bytes} {a : CancelArgs}
    (h : Wire.read bytes = .ok (a, rest)) : a.pending = none := by
  unfold instWireCancelArgs at h
  obtain ⟨seq, -, rfl⟩ := Wire.eq_of_read_via h
  rfl

/-- The text by which a cancel argument describes itself. -/
def CancelArgs.describe (a : CancelArgs) : String :=
  "CancelArgs \x7b seq: " ++ toString a.seq ++ ", pending: " ++ toString a.pending.isSome ++ " \x7d"

instance : Message Unit := { toWire := inferInstance, typeName := "()", zero := () }

instance : Message Bool := { toWire := inferInstance, typeName := "bool", zero := false }

instance : Message CancelArgs where
  toWire := inferInstance
  typeName := "birpc::svc::CancelArgs"
  zero := ⟨0, none⟩
  slot := some ⟨CancelArgs.pending, fun t a => { a with pending := some t }, fun _ _ => rfl⟩
  slot_read := by
    rintro _ ⟨⟩ bytes a rest h
    exact CancelArgs.pending_of_read h

/-- An application's message types, one for each index. -/
class MessageFamily (ι : Type) where
  Carrier : ι → Type
  message : (i : ι) → Message (Carrier i)
  decEq : DecidableEq ι

instance {ι : Type} [MessageFamily ι] : DecidableEq ι := MessageFamily.decEq

/-- An application without message types of its own. -/
instance : MessageFamily Empty where
  Carrier e := nomatch e
  message e := nomatch e
  decEq := inferInstance

/-- The identity of a message type: one of the library's own, or one of the application's. -/
inductive MessageType (ι : Type) where
  | unit
  | bool
  | cancelArgs
  | user (i : ι)
  deriving DecidableEq

namespace MessageType

variable {ι : Type} [MessageFamily ι]

/-- The values of a message type. -/
def Carrier : MessageType ι → Type
  | unit => Unit
  | bool => Bool
  | cancelArgs => CancelArgs
  | user i => MessageFamily.Carrier i

instance message : (t : MessageType ι) → Message t.Carrier
  | unit => inferInstanceAs (Message Unit)
  | bool => inferInstanceAs (Message Bool)
  | cancelArgs => inferInstanceAs (Message CancelArgs)
  | user i => MessageFamily.message i

/-- The full name of a message type. -/
def typeName (t : MessageType ι) : String := (message t).typeName

/-- The zero value of a message type. -/
def zero (t : MessageType ι) : t.Carrier := (message t).zero

/-- Where values of a message type take a pending table, if they do. -/
def slot (t : MessageType ι) : Option (PendingSlot t.Carrier) := (message t).slot

/-- A value of the type, read from the front of `bytes`. -/
def decode (t : MessageType ι) (bytes : Bytes) : Except WireError t.Carrier := Wire.decode bytes

/-- The bytes of a value of the type. -/
def encode (t : MessageType ι) (value : t.Carrier) : Except WireError Bytes := Wire.encode value

end MessageType

end Switchboard
