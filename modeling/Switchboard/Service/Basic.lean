import Switchboard.Service.Receiver
import Switchboard.Journal

/-!
# Services

A service is a receiver registered under a name, with the catalog of its methods.

* `Service.build` makes one, or says why the receiver cannot be registered.
* `Service.lookup` finds a method by its address, `Service.method?` by its name alone.
* `Service.runScript` runs a method body on the caller's own token, and `Service.call` is a whole
  call in that way: no transport and no pending table take part.
-/

namespace Switchboard

/-- Why a receiver cannot be registered. -/
inductive RegisterError where
  /-- There is no name to register the type under. -/
  | noServiceName (typeName : String)
  /-- The declared name is not exported. -/
  | notExported (name : String)
  /-- No method is left; `hint` tells that a mutex would help. -/
  | noSuitableMethods (name : String) (hint : Bool)
  | alreadyDefined (name : String)
  deriving DecidableEq, Repr

/-- The text of a register error. -/
def RegisterError.message : RegisterError → String
  | .noServiceName t => "rpc.Register: no service name for type " ++ t
  | .notExported n => "rpc.Register: type " ++ n ++ " is not exported"
  | .noSuitableMethods n hint =>
    "rpc.Register: type " ++ n ++ " has no exported methods of suitable type" ++
      if hint then " (hint: wrap the receiver in a Mutex to expose its &mut self methods)" else ""
  | .alreadyDefined n => "rpc: service already defined: " ++ n

/-- A registered receiver with its methods. -/
structure Service (ι σ κ : Type) [MessageFamily ι] where
  name : String
  catalog : Catalog ι σ κ
  /-- The receiver's state. -/
  receiver : σ
  /-- Whether a lock keeps the methods from running at once. -/
  isLocked : Bool

namespace Service

variable {ι σ κ α : Type} [MessageFamily ι]

/-- Registers a receiver, under its declared name unless another is given. With `report`, what the
catalog leaves out is logged. Gives what was logged, too. -/
def build (r : Receiver ι σ κ) (name? : Option String) (report : Bool) :
    List Event × Except RegisterError (Service ι σ κ) :=
  let name := name?.getD r.declaredName
  if name = "" then ([], .error (.noServiceName r.typeName))
  else if name?.isNone && !TypeName.isExported name then ([], .error (.notExported name))
  else
    let catalog := Catalog.ofCandidates r.candidates
    let log := if report then Catalog.diagnostics r.candidates else []
    if catalog.size = 0 then
      (log, .error (.noSuitableMethods name (Catalog.hasExclusive r.candidates)))
    else (log ++ [.registered name catalog.size], .ok ⟨name, catalog, r.initial, r.isLocked⟩)

/-- The method of a name. -/
def method? (s : Service ι σ κ) (name : String) : Option (Method ι σ κ) := s.catalog.find? name

/-- The method that an address leads to. -/
def lookup (s : Service ι σ κ) (address : String) : Except AddressError (Method ι σ κ) :=
  match Address.parse address with
  | .error e => .error e
  | .ok a =>
    if a.service ≠ s.name then .error (.unknownService address)
    else
      match s.method? a.method with
      | some m => .ok m
      | none => .error (.unknownMethod address)

/-- The method of a name, or the error that its address would give. -/
def methodOrError (s : Service ι σ κ) (name : String) : Except AddressError (Method ι σ κ) :=
  match s.method? name with
  | some m => .ok m
  | none => .error (.unknownMethod (Address.text ⟨s.name, name⟩))

/-- Whether the method of a name has to hold the lock on the receiver while it runs. -/
def locksFor (s : Service ι σ κ) (name : String) : Bool := s.isLocked && (s.method? name).isSome

/-- Calls the method of a name with type-erased holders. -/
def invoke (s : Service ι σ κ) (name : String) (client : Client κ) (argument : Argument ι)
    (reply : Reply ι) : Script σ (Finished ι) :=
  match s.methodOrError name with
  | .ok m => m.invoke client argument reply
  | .error e => .done ⟨argument, reply, .failed (.address e)⟩

end Service

/-! ## Running a body on the caller's token -/

/-- What a body acts upon that runs on the caller's thread. -/
structure Desk (σ : Type) where
  receiver : σ
  /-- Whether the caller's token is canceled. -/
  canceled : Bool
  /-- The pending table that came with the argument. -/
  grant : Option TableRef
  journal : List Effect

namespace Desk

variable {σ : Type}

/-- Adds an effect to the journal. -/
def note (d : Desk σ) (e : Effect) : Desk σ := { d with journal := d.journal ++ [e] }

/-- One action of a body. Nobody else cancels the token, so a wait ends with what it is now. -/
def perform : (a : Action σ) → Desk σ → a.Answer × Desk σ
  | .enter, d => ((), d.note .entered)
  | .receiver f, d => (d.receiver, { d with receiver := f d.receiver })
  | .poll, d => (d.canceled, d)
  | .wait _, d => (d.canceled, d)
  | .abandon, d => (!d.canceled, { d with canceled := true })
  | .cancel seq, d => ((), if d.grant.isSome then d.note (.canceled seq) else d)
  | .tell n, d => ((), d.note (.told n))
  | .log e, d => ((), d.note (.logged e))

end Desk

namespace Service

variable {ι σ κ α : Type} [MessageFamily ι]

/-- Runs a script on the service's receiver and a token of the caller. Gives what the script ends
with, the service afterwards and the effects. -/
def runScript (s : Service ι σ κ) (canceled : Bool) (grant : Option TableRef) (p : Script σ α) :
    α × Service ι σ κ × List Effect :=
  let (a, desk) := p.run Desk.perform ⟨s.receiver, canceled, grant, []⟩
  (a, { s with receiver := desk.receiver }, desk.journal)

end Service

/-- What is left after a call on the caller's thread. -/
structure CallReport (ι σ κ : Type) [MessageFamily ι] where
  outcome : Outcome
  /-- What the caller's reply variable holds. -/
  reply : Held ι
  service : Service ι σ κ
  journal : List Effect

namespace Service

variable {ι σ κ : Type} [MessageFamily ι]

/-- Calls a method on the caller's thread, with the caller's token and reply variable. The reply is
moved into a holder for the call and moved back after it. A panic leaves no time to move it back:
the variable keeps the zero value that took the reply's place. -/
def call (s : Service ι σ κ) (canceled : Bool) (client : Client κ) (address : String)
    (argument reply : Held ι) : CallReport ι σ κ :=
  match s.lookup address with
  | .error e => ⟨.failed (.address e), reply, s, []⟩
  | .ok m =>
    let script := m.invoke client (.ofHeld argument) (.ofHeld reply)
    let (fin, after, journal) := s.runScript canceled argument.pending? script
    match fin.outcome, fin.reply.as? reply.type with
    | .panicked _, _ | _, none => ⟨fin.outcome, .zero reply.type, after, journal⟩
    | _, some value => ⟨fin.outcome, ⟨reply.type, value⟩, after, journal⟩

end Service

end Switchboard
