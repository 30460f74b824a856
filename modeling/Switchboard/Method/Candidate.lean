import Switchboard.Client
import Switchboard.Script
import Switchboard.Signature

/-!
# Candidate methods

A receiver lists candidates; the catalog picks from them. A candidate is either *declared* by a bare
signature or *written*, with a body. The special parameter types and the result type of a written
one are free, so that it may break the calling convention: `BodyTypes` says what they are.

`Implementation.invoke` is what happens when a written method is called with type-erased holders:
it looks at the special types, then at the argument, then at the reply; then the body runs, and what
it wrote goes back into the reply holder. A method that takes its argument by value leaves the zero
value behind as soon as the argument has been found to fit.

Results: `invoke_of_fits` (with fitting holders and special types the body runs).
-/

namespace Switchboard

/-- What a method panicked with. -/
inductive Payload where
  | text (message : String)
  /-- Something that is not text. -/
  | other
  deriving DecidableEq, Repr

/-- How a body ends. -/
inductive Ending where
  | ok
  /-- With an error of its own, by its text. -/
  | failed (text : String)
  | panicked (payload : Payload)
  deriving DecidableEq, Repr

/-- How an invocation ends. -/
inductive Outcome where
  | ok
  | failed (error : CallError)
  | panicked (payload : Payload)
  deriving DecidableEq, Repr

/-- The outcome of an invocation whose body ended this way. -/
def Ending.outcome : Ending → Outcome
  | ok => .ok
  | failed text => .failed (.method text)
  | panicked payload => .panicked payload

/-- The types of token, client and result that a body was written for. -/
structure BodyTypes where
  context : String := contextType.name
  client : String := clientType.name
  result : String := resultType.name
  deriving DecidableEq, Repr

variable (ι σ κ : Type) [MessageFamily ι]

/-- What a method does, given its client, its argument and the reply to write: the script gives the
reply it leaves and how it ends. -/
abbrev Body (argument reply : MessageType ι) : Type :=
  Client κ → argument.Carrier → reply.Carrier → Script σ (reply.Carrier × Ending)

/-- A method body, the types it is written for, and what makes fresh holders for it. -/
structure Implementation extends Factory ι where
  types : BodyTypes
  body : Body ι σ κ argument reply

/-- What stands behind a candidate. -/
inductive Work where
  /-- Nothing but a signature. -/
  | declared (inputs outputs : List TypeInfo)
  | written (implementation : Implementation ι σ κ)

/-- A method that a receiver lists. -/
structure Candidate where
  name : String
  /-- Whether it shares the receiver. -/
  kind : ReceiverKind
  /-- The full name of the type that lists it. -/
  owner : String
  work : Work ι σ κ

/-- What is left after an invocation: the holders and how it ended. -/
structure Finished where
  argument : Argument ι
  reply : Reply ι
  outcome : Outcome

variable {ι σ κ}

namespace Implementation

/-- Whether the body is written for the special parameters that methods are given. -/
def takesSpecials (i : Implementation ι σ κ) : Bool :=
  i.types.context = contextType.name && i.types.client = clientType.name

/-- How an invocation ends whose body ended this way: an ending says nothing if the body's result is
of a foreign type. -/
def outcome (i : Implementation ι σ κ) (name : String) : Ending → Outcome
  | .panicked payload => .panicked payload
  | ending =>
    if i.types.result = resultType.name then ending.outcome
    else .failed (.holder (.convention name))

/-- What the argument holder is left with once the method has its argument. -/
def leave (i : Implementation ι σ κ) (argument : Argument ι) : Argument ι :=
  if i.passing = .value then { argument with held := .zero i.argument } else argument

/-- Calls the method, listed under `name`, with type-erased holders. -/
def invoke (i : Implementation ι σ κ) (name : String) (client : Client κ) (argument : Argument ι)
    (reply : Reply ι) : Script σ (Finished ι) :=
  if !i.takesSpecials then .done ⟨argument, reply, .failed (.holder (.convention name))⟩
  else
    match argument.as? i.argument with
    | none =>
      .done ⟨argument, reply, .failed (.holder (.argumentType name i.argument.typeName))⟩
    | some a =>
      match reply.as? i.reply with
      | none =>
        .done ⟨i.leave argument, reply, .failed (.holder (.replyType name i.reply.typeName))⟩
      | some r =>
        .act .enter fun _ => (i.body client a r).bind fun (r, ending) =>
          .done ⟨i.leave argument, { reply with held := ⟨i.reply, r⟩ }, i.outcome name ending⟩

/-- With holders that fit, a method written for the special parameters runs its body. -/
theorem invoke_of_fits {i : Implementation ι σ κ} (name : String) (client : Client κ)
    {argument : Argument ι} {reply : Reply ι} {a : i.argument.Carrier} {r : i.reply.Carrier}
    (hs : i.takesSpecials = true) (ha : argument.as? i.argument = some a)
    (hr : reply.as? i.reply = some r) :
    i.invoke name client argument reply =
      .act .enter fun _ => (i.body client a r).bind fun (r, ending) =>
        .done ⟨i.leave argument, { reply with held := ⟨i.reply, r⟩ }, i.outcome name ending⟩ := by
  simp [invoke, hs, ha, hr]

end Implementation

namespace Candidate

/-- The parameters of the candidate, the receiver first. -/
def inputs (c : Candidate ι σ κ) : List TypeInfo :=
  match c.work with
  | .declared inputs _ => inputs
  | .written i =>
    [.pointer c.owner, .value i.types.context, .value i.types.client,
      if i.passing = .value then .value i.argument.typeName else .pointer i.argument.typeName,
      .pointer i.reply.typeName]

/-- The results of the candidate; the empty tuple counts as none. -/
def outputs (c : Candidate ι σ κ) : List TypeInfo :=
  match c.work with
  | .declared _ outputs => outputs
  | .written i => if i.types.result = "()" then [] else [.value i.types.result]

/-- The signature of the candidate. -/
def signature (c : Candidate ι σ κ) : Signature := ⟨c.kind, c.inputs, c.outputs⟩

/-- The method behind the candidate, if it is more than a signature. -/
def implementation? (c : Candidate ι σ κ) : Option (Implementation ι σ κ) :=
  match c.work with
  | .declared .. => none
  | .written i => some i

/-- The candidate as a receiver behind a mutex lists it: the lock gives every method the receiver
for itself alone, so none has to ask for it. -/
def lift (c : Candidate ι σ κ) : Candidate ι σ κ := { c with kind := .shared }

end Candidate

/-! ## Listing candidates -/

namespace Candidate

variable (owner name : String) {argument reply : MessageType ι}

/-- A method that takes its argument by reference. -/
def byPointer (body : Body ι σ κ argument reply) (types : BodyTypes := {}) : Candidate ι σ κ :=
  ⟨name, .shared, owner, .written { argument, reply, passing := .pointer, types, body }⟩

/-- A method that takes its argument by value. -/
def byValue (body : Body ι σ κ argument reply) (types : BodyTypes := {}) : Candidate ι σ κ :=
  ⟨name, .shared, owner, .written { argument, reply, passing := .value, types, body }⟩

/-- A method that needs the receiver for itself alone. -/
def exclusive (body : Body ι σ κ argument reply) (types : BodyTypes := {}) : Candidate ι σ κ :=
  ⟨name, .exclusive, owner, .written { argument, reply, passing := .pointer, types, body }⟩

/-- A method whose argument may be given the pending table before it runs. -/
def privileged (body : Body ι σ κ argument reply) (types : BodyTypes := {})
    (slotted : argument.slot.isSome = true := by rfl) : Candidate ι σ κ :=
  ⟨name, .shared, owner,
    .written { argument, reply, passing := .privileged, slotted := fun _ => slotted, types, body }⟩

/-- A method known by its signature alone. -/
def declared (signature : Signature) : Candidate ι σ κ :=
  ⟨name, signature.receiver, owner, .declared signature.inputs signature.outputs⟩

end Candidate

end Switchboard
