import Switchboard.Connection.Call

/-!
# Exchanges

A server, one connection to it, and the calls that came in over the connection, in the order in
which they were accepted. A call is named by its place in that order.

* `Exchange.step` lets one call take one step; a run of the exchange is any sequence of such steps.
* `Exchange.accept` takes a request in: it becomes a call, or, where it cannot be routed or decoded,
  an answer.
* `Exchange.serve` and its kin take a request in and let it go as far as it can by itself.
-/

namespace Switchboard

/-- A server, a connection to it and its calls. -/
structure Exchange (ι σ κ : Type) [MessageFamily ι] where
  station : Station ι σ κ
  calls : List (Call ι σ κ)

/-- How a request was taken in. -/
inductive Intake where
  /-- It was answered with an error right away. -/
  | rejected
  /-- It is a call of this name. -/
  | accepted (call : CallId)
  deriving DecidableEq, Repr

namespace Exchange

variable {ι σ κ : Type} [MessageFamily ι] [Inhabited σ]

/-- An exchange without calls. -/
def new (server : Server ι σ κ) (ref : TableRef) : Exchange ι σ κ :=
  ⟨⟨server, .new ref, []⟩, []⟩

/-- The connection. -/
def connection (x : Exchange ι σ κ) : Connection := x.station.connection

/-- Changes the connection. -/
def onConnection (x : Exchange ι σ κ) (f : Connection → Connection) : Exchange ι σ κ :=
  { x with station := x.station.onConnection f }

/-- Lets call `i` take a step, if it can. -/
def step (x : Exchange ι σ κ) (i : CallId) (expired : Bool) : Option (Exchange ι σ κ) :=
  match x.calls[i]? with
  | none => none
  | some c =>
    match c.step i expired x.station with
    | none => none
    | some (c, station) => some ⟨station, x.calls.set i c⟩

/-- Adds a call. -/
def push (x : Exchange ι σ κ) (request : Request) (guarded : Bool) (phase : Phase ι σ κ) :
    Exchange ι σ κ :=
  { x with calls := x.calls ++ [⟨request, guarded, phase⟩] }

/-- Takes a guard for a call, if it is to have one. -/
def addGuard (x : Exchange ι σ κ) (guarded : Bool) : Exchange ι σ κ :=
  if guarded then x.onConnection Connection.addGuard else x

/-- Takes a request in. -/
def accept (x : Exchange ι σ κ) (request : Request) (body : Bytes) (client : Client κ)
    (guarded : Bool) : Intake × Exchange ι σ κ :=
  let x := x.addGuard guarded
  let i := x.calls.length
  match x.station.prepare request body client with
  | .ok call => (.accepted i, x.push request guarded (.accepted call))
  | .error e =>
    (.rejected, (x.onConnection (·.log i [.rejected request.seq e])).push request guarded
      (.answering .empty e.message))

/-! ## Taking turns one call at a time -/

/-- Changes call `i` and what it acts upon. -/
def onCall (x : Exchange ι σ κ) (i : CallId)
    (f : Call ι σ κ → Station ι σ κ → Call ι σ κ × Station ι σ κ) : Exchange ι σ κ :=
  match x.calls[i]? with
  | none => x
  | some c =>
    let (c, station) := f c x.station
    ⟨station, x.calls.set i c⟩

/-- Lets call `i` go up to its first wait. -/
def runToWait (x : Exchange ι σ κ) (i : CallId) : Exchange ι σ κ := x.onCall i (Call.runToWait i)

/-- Lets call `i` go to its end. -/
def complete (x : Exchange ι σ κ) (i : CallId) : Exchange ι σ κ := x.onCall i (Call.complete i)

/-- Whether call `i` waits for its token. -/
def isParked (x : Exchange ι σ κ) (i : CallId) : Bool := (x.calls[i]?.map Call.isParked).getD false

/-- Takes a request in and lets it go up to its first wait. -/
def serve (x : Exchange ι σ κ) (request : Request) (body : Bytes) (client : Client κ)
    (guarded : Bool) : Intake × Exchange ι σ κ :=
  let i := x.calls.length
  let (intake, x) := x.accept request body client guarded
  (intake, x.runToWait i)

/-- Runs a prepared call up to its first wait. -/
def dispatch (x : Exchange ι σ κ) (request : Request) (call : PreparedCall ι κ) (guarded : Bool) :
    CallId × Exchange ι σ κ :=
  let i := x.calls.length
  (i, ((x.addGuard guarded).push request guarded (.accepted call)).runToWait i)

/-- Runs a prepared call to its end. -/
def serveCall (x : Exchange ι σ κ) (request : Request) (call : PreparedCall ι κ) (guarded : Bool) :
    Exchange ι σ κ :=
  let i := x.calls.length
  ((x.addGuard guarded).push request guarded (.accepted call)).complete i

/-- Answers a request with an error. -/
def reject (x : Exchange ι σ κ) (request : Request) (error : String) : Exchange ι σ κ :=
  let i := x.calls.length
  (x.push request false (.answering .empty error)).complete i

/-- Registers a receiver with the server. -/
def register (x : Exchange ι σ κ) (r : Receiver ι σ κ) (name? : Option String) :
    Except RegisterError Unit × Exchange ι σ κ :=
  match x.station.server.register r name? with
  | (log, .ok server) =>
    (.ok (), { x with station := { x.station with server } }.onConnection (·.log none log))
  | (log, .error e) => (.error e, x.onConnection (·.log none log))

end Exchange

end Switchboard
