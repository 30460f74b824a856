import Switchboard.Message.Basic

/-!
# Holders

A request's argument and reply travel in holders that do not show their type. A holder remembers the
message type it was made for; the value it holds carries its own, and can only be viewed at that.

* `Argument` can be decoded from bytes, viewed, replaced, and, if it was made for a privileged
  method, given a pending table.
* `Reply` can be encoded, viewed and replaced.
* `Factory` makes fresh holders for one method.

Results: `pending?_zero`, `pending?_of_decode` (neither fresh holders nor decoded ones hold a pending
table), `isSome_setPending?` (a holder takes one exactly when it says that it accepts one).
-/

namespace Switchboard

/-- Why a holder does not serve. -/
inductive HolderError where
  /-- A method found an argument of another type. -/
  | argumentType (method expected : String)
  /-- A method found a reply of another type. -/
  | replyType (method expected : String)
  /-- A method does not follow the calling convention. -/
  | convention (method : String)
  /-- The bytes are no value of the holder's type. -/
  | decode (expected : String) (cause : WireError)
  /-- The held value has no bytes. -/
  | encode (expected : String) (cause : WireError)
  deriving DecidableEq, Repr

/-- The text of a holder error. -/
def HolderError.message : HolderError → String
  | .argumentType m t => "rpc: method " ++ m ++ " expects argument of type " ++ t
  | .replyType m t => "rpc: method " ++ m ++ " expects reply of type " ++ t
  | .convention m => "rpc: method " ++ m ++ " does not follow the calling convention"
  | .decode t cause => "rpc: cannot decode " ++ t ++ ": " ++ cause.message
  | .encode t cause => "rpc: cannot encode " ++ t ++ ": " ++ cause.message

/-- A value together with its message type. -/
structure Held (ι : Type) [MessageFamily ι] where
  type : MessageType ι
  value : type.Carrier

namespace Held

variable {ι : Type} [MessageFamily ι]

/-- The zero value of a type. -/
def zero (t : MessageType ι) : Held ι := ⟨t, t.zero⟩

/-- The value, if it is of type `t`. -/
def as? (h : Held ι) (t : MessageType ι) : Option t.Carrier :=
  if e : h.type = t then some (e ▸ h.value) else none

/-- The pending table that was put into the value. -/
def pending? (h : Held ι) : Option TableRef := h.type.slot.bind fun s => s.get h.value

/-- A value is seen at its own type. -/
@[simp] theorem as?_self (t : MessageType ι) (v : t.Carrier) : (Held.mk t v).as? t = some v := by
  simp [as?]

/-- A value is seen at no other type. -/
theorem as?_of_ne {h : Held ι} {t : MessageType ι} (hne : h.type ≠ t) : h.as? t = none := by
  simp [as?, hne]

/-- A zero value holds no pending table. -/
theorem pending?_zero (t : MessageType ι) : (zero t).pending? = none := by
  unfold pending? zero
  cases hs : t.slot with
  | none => rfl
  | some s => exact t.message.slot_zero s hs

end Held

/-! ## Arguments -/

/-- The argument of one request. -/
structure Argument (ι : Type) [MessageFamily ι] where
  /-- The type the holder was made for. -/
  declared : MessageType ι
  held : Held ι
  /-- Whether the method takes the argument by value. -/
  byValue : Bool
  /-- Whether the holder was made for a privileged method. -/
  privileged : Bool

namespace Argument

variable {ι : Type} [MessageFamily ι]

/-- A holder of the zero value of `t`. -/
def zero (t : MessageType ι) (byValue : Bool) : Argument ι := ⟨t, .zero t, byValue, false⟩

/-- A holder of a value. -/
def ofHeld (h : Held ι) : Argument ι := ⟨h.type, h, false, false⟩

/-- A holder of the zero value of `t` for a privileged method. -/
def forPrivileged (t : MessageType ι) : Argument ι := ⟨t, .zero t, false, true⟩

/-- The name of the type the holder was made for. -/
def typeName (a : Argument ι) : String := a.declared.typeName

/-- Replaces the held value by the one that `bytes` start with. -/
def decode (a : Argument ι) (bytes : Bytes) : Except HolderError (Argument ι) :=
  match a.declared.decode bytes with
  | .ok value => .ok { a with held := ⟨a.declared, value⟩ }
  | .error cause => .error (.decode a.typeName cause)

/-- The held value, if it is of type `t`. -/
def as? (a : Argument ι) (t : MessageType ι) : Option t.Carrier := a.held.as? t

/-- Replaces the held value by another of its type. -/
def set? (a : Argument ι) (h : Held ι) : Option (Argument ι) :=
  if a.held.type = h.type then some { a with held := h } else none

/-- Whether a pending table can be put into the held value: only holders of privileged methods take
one, and only into a value of the type they were made for. -/
def acceptsPending (a : Argument ι) : Bool :=
  a.privileged && ((a.held.as? a.declared).isSome && a.declared.slot.isSome)

/-- Puts a pending table into the held value, if the holder takes one. -/
def setPending? (a : Argument ι) (table : TableRef) : Option (Argument ι) :=
  if a.privileged then
    match a.held.as? a.declared, a.declared.slot with
    | some value, some slot => some { a with held := ⟨a.declared, slot.set table value⟩ }
    | _, _ => none
  else none

/-- The text by which a holder describes itself. -/
def describe (a : Argument ι) : String :=
  "Argument \x7b type: \"" ++ a.typeName ++ "\", is_value: " ++ toString a.byValue ++ " \x7d"

/-- A decoded argument holds no pending table. -/
theorem pending?_of_decode {a b : Argument ι} {bytes : Bytes} (h : a.decode bytes = .ok b) :
    b.held.pending? = none := by
  unfold decode at h
  split at h
  · rename_i value hv
    cases h
    unfold Held.pending?
    cases hs : a.declared.slot with
    | none => rfl
    | some s =>
      obtain ⟨rest, hr⟩ := Wire.decode_eq_ok_iff.1 hv
      exact a.declared.message.slot_read s hs bytes value rest hr
  · cases h

/-- A holder takes a pending table exactly when it says that it accepts one. -/
theorem isSome_setPending? (a : Argument ι) (table : TableRef) :
    (a.setPending? table).isSome = a.acceptsPending := by
  unfold setPending? acceptsPending
  cases a.privileged
  · rfl
  · cases a.held.as? a.declared <;> cases a.declared.slot <;> rfl

end Argument

/-! ## Replies -/

/-- The reply of one request, written by the method. -/
structure Reply (ι : Type) [MessageFamily ι] where
  /-- The type the holder was made for. -/
  declared : MessageType ι
  held : Held ι

namespace Reply

variable {ι : Type} [MessageFamily ι]

/-- A holder of a value. -/
def ofHeld (h : Held ι) : Reply ι := ⟨h.type, h⟩

/-- A holder of the zero value of `t`. -/
def zero (t : MessageType ι) : Reply ι := .ofHeld (.zero t)

/-- What responses hold that carry only an error. -/
def empty : Reply ι := .zero .unit

/-- The name of the type the holder was made for. -/
def typeName (r : Reply ι) : String := r.declared.typeName

/-- The bytes of the held value. -/
def encode (r : Reply ι) : Except HolderError Bytes :=
  match r.held.as? r.declared with
  | none => .error (.encode r.typeName (.refused ("reply holder no longer holds " ++ r.typeName)))
  | some value =>
    match r.declared.encode value with
    | .ok bytes => .ok bytes
    | .error cause => .error (.encode r.typeName cause)

/-- The held value, if it is of type `t`. -/
def as? (r : Reply ι) (t : MessageType ι) : Option t.Carrier := r.held.as? t

/-- Replaces the held value by another of its type. -/
def set? (r : Reply ι) (h : Held ι) : Option (Reply ι) :=
  if r.held.type = h.type then some { r with held := h } else none

/-- The text by which a holder describes itself. -/
def describe (r : Reply ι) : String :=
  "Reply \x7b type: \"" ++ r.typeName ++ "\" \x7d"

end Reply

/-! ## Factories -/

/-- How a method takes its argument. -/
inductive Passing where
  /-- By reference. -/
  | pointer
  /-- By value. -/
  | value
  /-- By reference, and a pending table may be put into it before the method runs. -/
  | privileged
  deriving DecidableEq, Repr

/-- What fresh holders for one method are made from. -/
structure Factory (ι : Type) [MessageFamily ι] where
  argument : MessageType ι
  reply : MessageType ι
  passing : Passing
  /-- A privileged method's argument has a place for the pending table. -/
  slotted : passing = .privileged → argument.slot.isSome = true := by simp

namespace Factory

variable {ι : Type} [MessageFamily ι]

/-- A fresh argument: the zero value, passed the way the method takes it. -/
def makeArgument (f : Factory ι) : Argument ι :=
  match f.passing with
  | .pointer => .zero f.argument false
  | .value => .zero f.argument true
  | .privileged => .forPrivileged f.argument

/-- A fresh reply: the zero value. -/
def makeReply (f : Factory ι) : Reply ι := .zero f.reply

end Factory

end Switchboard
