import Switchboard.Cancel.Service
import Switchboard.Service.Basic

/-!
# Servers

The services that requests can be addressed to, by name. A name is bound once and for all. Unless
the configuration says otherwise, the cancellation service is bound from the start.

Results: `service?_bind` (what a name leads to after a service was bound).
-/

namespace Switchboard

/-- How a server is set up. -/
structure ServerConfig where
  /-- Log every method that a catalog leaves out. -/
  reportInvalidMethods : Bool := true
  /-- Bind the cancellation service. -/
  registerCancelService : Bool := true
  deriving DecidableEq, Repr

/-- The text by which a configuration describes itself. -/
def ServerConfig.describe (c : ServerConfig) : String :=
  "ServerConfig \x7b report_invalid_methods: " ++ toString c.reportInvalidMethods ++
    ", register_cancel_service: " ++ toString c.registerCancelService ++ " \x7d"

/-- The services by name. -/
structure Server (ι σ κ : Type) [MessageFamily ι] where
  config : ServerConfig
  services : List (Service ι σ κ)

namespace Server

variable {ι σ κ : Type} [MessageFamily ι]

/-- The service of a name. -/
def service? (s : Server ι σ κ) (name : String) : Option (Service ι σ κ) :=
  s.services.find? (·.name = name)

/-- The names of the services, ascending. -/
def names (s : Server ι σ κ) : List String :=
  (s.services.map (·.name)).mergeSort fun a b => a ≤ b

/-- Adds a service. -/
def bind (s : Server ι σ κ) (service : Service ι σ κ) : Server ι σ κ :=
  { s with services := s.services ++ [service] }

/-- Registers a receiver, under its declared name unless another is given. The service is built
first, and only then found to be there already. Gives what was logged, too. -/
def register (s : Server ι σ κ) (r : Receiver ι σ κ) (name? : Option String) :
    List Event × Except RegisterError (Server ι σ κ) :=
  match Service.build r name? s.config.reportInvalidMethods with
  | (log, .error e) => (log, .error e)
  | (log, .ok service) =>
    if (s.service? service.name).isSome then (log, .error (.alreadyDefined service.name))
    else (log, .ok (s.bind service))

/-- A new server. Gives what was logged, too. -/
def new [Inhabited σ] (config : ServerConfig) : List Event × Server ι σ κ :=
  let server : Server ι σ κ := ⟨config, []⟩
  if config.registerCancelService then
    match server.register CancelService.receiver (some CancelService.name) with
    | (log, .ok server) => (log, server)
    | (log, .error _) => (log, server)
  else ([], server)

/-- The service and the method that an address leads to. -/
def resolve (s : Server ι σ κ) (address : String) :
    Except AddressError (Service ι σ κ × Method ι σ κ) :=
  match Address.parse address with
  | .error e => .error e
  | .ok a =>
    match s.service? a.service with
    | none => .error (.unknownService address)
    | some service =>
      match service.method? a.method with
      | none => .error (.unknownMethod address)
      | some m => .ok (service, m)

/-- Replaces the state of the receiver of a service. -/
def updateReceiver (s : Server ι σ κ) (name : String) (f : σ → σ) : Server ι σ κ :=
  { s with services := s.services.map fun service =>
      if service.name = name then { service with receiver := f service.receiver } else service }

/-- Adding a service binds its name if it was free, and leaves the other names alone. -/
theorem service?_bind (s : Server ι σ κ) (service : Service ι σ κ) (name : String) :
    (s.bind service).service? name =
      (s.service? name).or (if service.name = name then some service else none) := by
  unfold bind service?
  by_cases h : service.name = name <;> simp [List.find?_append, h]

end Server

end Switchboard
