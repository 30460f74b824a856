import Switchboard.Connection.Basic
import Switchboard.Server

/-!
# Calls

A request that was routed and decoded becomes a call of its own. A call goes through phases; each
`Call.step` is one atomic step on what it shares with the others, the `Station`.

* its sequence number is registered (`accepted` to `registered`);
* the pending table is put into the argument, if the service has the reserved name and the argument
  takes it (`registered` to `ready`);
* the method is invoked, once the lock on its receiver is free if there is one, and its body runs,
  action by action (`running`; a cancellation in a body is two steps, `flagging` being the point
  between them); then the lock is given back;
* the sequence number is released, again in two steps (`releasing`, `released`);
* the response is written under the lock on the wire, piece by piece (`answering`, `writing`);
* the transport forgets the request (`written`), the guard is dropped (`forgotten`), and it is
  `over`.

A request that cannot be routed or decoded starts at `answering`.

`Call.complete` goes through what is left of a call in one go; it is made of the same operations.
-/

namespace Switchboard

/-- What the transport knows of a request. -/
structure Request where
  address : String
  seq : UInt64
  deriving DecidableEq, Repr

variable (ι σ κ : Type) [MessageFamily ι]

/-- A request resolved to a method, with its holders ready. -/
structure PreparedCall where
  service : String
  method : String
  argument : Argument ι
  reply : Reply ι
  client : Client κ

/-- What a call acts upon. -/
structure Station where
  server : Server ι σ κ
  connection : Connection
  /-- The services the lock on whose receiver is held by a running method. -/
  taken : List String

/-- Where a method body runs. -/
structure Place where
  call : CallId
  /-- The service whose receiver it works on. -/
  service : String
  token : Token
  /-- The pending table that came with its argument. -/
  grant : Option TableRef
  /-- Whether it holds the lock on the receiver. -/
  locks : Bool
  deriving DecidableEq, Repr

/-- How far a call has come. -/
inductive Phase where
  /-- Nothing is done yet. -/
  | accepted (call : PreparedCall ι κ)
  /-- The sequence number is registered. -/
  | registered (call : PreparedCall ι κ) (token : Token)
  /-- The argument has the pending table, if it gets it. -/
  | ready (call : PreparedCall ι κ) (token : Token)
  /-- The method runs, or has run and still holds the lock on its receiver; `rest` is what it still does. -/
  | running (place : Place) (rest : Script σ (Finished ι))
  /-- The method has taken a number out of the pending table and not yet canceled its token. -/
  | flagging (place : Place) (victim : Token) (rest : Script σ (Finished ι))
  /-- The sequence number is out of the pending table, and the token found there not yet canceled;
  `token` is the call's own. -/
  | releasing (token : Token) (victim? : Option Token) (finished : Finished ι)
  /-- The sequence number is released. -/
  | released (finished : Finished ι)
  /-- The response waits for the lock on the wire. -/
  | answering (reply : Reply ι) (error : String)
  /-- These pieces of the response are not on the wire yet. -/
  | writing (frame? : Option Frame) (rest : List Bytes)
  /-- The response is out. -/
  | written
  /-- The transport has forgotten the request. -/
  | forgotten
  | over

/-- One request on its way through the switchboard. -/
structure Call where
  request : Request
  /-- Whether it holds a guard of the wait group. -/
  guarded : Bool
  phase : Phase ι σ κ

variable {ι σ κ}

namespace Station

/-! ## The locks on the receivers -/

/-- Whether a method has to stand back for another one that holds the lock it needs. -/
def isBarred (s : Station ι σ κ) (p : Place) : Bool := p.locks && s.taken.contains p.service

/-- Takes the lock on the receiver, if the method needs it. -/
def take (s : Station ι σ κ) (p : Place) : Station ι σ κ :=
  if p.locks then { s with taken := p.service :: s.taken } else s

/-- Gives the lock on the receiver back, if the method holds it. -/
def giveBack (s : Station ι σ κ) (p : Place) : Station ι σ κ :=
  if p.locks then { s with taken := s.taken.erase p.service } else s

/-- Who gives the lock back is left as it was before. -/
theorem giveBack_take (s : Station ι σ κ) (p : Place) : (s.take p).giveBack p = s := by
  unfold take giveBack
  cases p.locks <;> simp

/-! ## What calls do -/

variable [Inhabited σ]

/-- Changes the connection. -/
def onConnection (s : Station ι σ κ) (f : Connection → Connection) : Station ι σ κ :=
  { s with connection := f s.connection }

/-- The state of the receiver of a service. -/
def receiver (s : Station ι σ κ) (service : String) : σ :=
  ((s.server.service? service).map (·.receiver)).getD default

/-- Resolves and decodes a request. -/
def prepare (s : Station ι σ κ) (request : Request) (body : Bytes) (client : Client κ) :
    Except CallError (PreparedCall ι κ) :=
  match s.server.resolve request.address with
  | .error e => .error (.address e)
  | .ok (service, m) =>
    match m.makeArgument.decode body with
    | .error e => .error (.holder e)
    | .ok argument => .ok ⟨service.name, m.name, argument, m.makeReply, client⟩

/-- Puts the connection's pending table into the argument of a call to the reserved service, if the
argument takes it; and logs that the method is about to run. -/
def handOver (s : Station ι σ κ) (i : CallId) (request : Request) (call : PreparedCall ι κ) :
    PreparedCall ι κ × Station ι σ κ :=
  let granted? :=
    if call.service = CancelService.name then call.argument.setPending? s.connection.ref else none
  let log := [Event.calling request.address request.seq]
  match granted? with
  | some argument =>
    ({ call with argument }, s.onConnection fun c => (c.note i .granted).log i log)
  | none => (call, s.onConnection fun c => c.log i log)

/-- The body of a call that is ready, and where it runs. -/
def invoke (s : Station ι σ κ) (i : CallId) (call : PreparedCall ι κ) (token : Token) :
    Place × Script σ (Finished ι) :=
  let grant := call.argument.held.pending?
  match s.server.service? call.service with
  | some service =>
    (⟨i, call.service, token, grant, service.locksFor call.method⟩,
      service.invoke call.method call.client call.argument call.reply)
  | none =>
    let address := Address.text ⟨call.service, call.method⟩
    (⟨i, call.service, token, grant, false⟩,
      .done ⟨call.argument, call.reply, .failed (.address (.unknownMethod address))⟩)

/-- Whether the pending table that came with the argument is the connection's own. -/
def mayCancel (s : Station ι σ κ) (p : Place) : Bool := p.grant = some s.connection.ref

/-- One action of a body; a wait ends with what the token is now. -/
def perform (p : Place) : (a : Action σ) → Station ι σ κ → a.Answer × Station ι σ κ
  | .enter, s => ((), s.onConnection (·.note p.call .entered))
  | .receiver f, s =>
    (s.receiver p.service, { s with server := s.server.updateReceiver p.service f })
  | .poll, s => (s.connection.pending.tokens.isCanceled p.token, s)
  | .wait _, s => (s.connection.pending.tokens.isCanceled p.token, s)
  | .abandon, s =>
    (!s.connection.pending.tokens.isCanceled p.token, s.onConnection (·.flag p.token))
  | .cancel seq, s => ((), if s.mayCancel p then s.onConnection (·.cancel p.call seq) else s)
  | .tell n, s => ((), s.onConnection (·.note p.call (.told n)))
  | .log e, s => ((), s.onConnection (·.note p.call (.logged e)))

end Station

/-- What a panic is reported as. -/
def Payload.report (address : String) (p : Payload) : String :=
  "rpc: method " ++ address ++ " panicked: " ++
    match p with
    | .text m => m
    | .other => "unknown panic"

/-- What the peer is told of an outcome; nothing if all went well. -/
def Outcome.report (address : String) : Outcome → String
  | .ok => ""
  | .failed e => e.message
  | .panicked p => p.report address

/-- What is logged of an outcome. -/
def Outcome.events (request : Request) (o : Outcome) : List Event :=
  let report := o.report request.address
  let finished := Event.finished request.address request.seq report
  match o with
  | .panicked _ => [.panicked report, finished]
  | _ => [finished]

/-- The response to a request. An error text leaves no room for a reply; without one the reply is
encoded, and a reply that cannot be encoded becomes an error. Gives what was logged, too. -/
def Request.compose (request : Request) (reply : Reply ι) (error : String) : List Event × Frame :=
  if error = "" then
    match reply.encode with
    | .ok body => ([], ⟨⟨request.address, request.seq, ""⟩, body⟩)
    | .error e => ([.unencodable request.seq e], ⟨⟨request.address, request.seq, e.message⟩, []⟩)
  else ([], ⟨⟨request.address, request.seq, error⟩, []⟩)

/-- The frame that goes onto the wire and its pieces; nothing if the header cannot be encoded. -/
def Frame.pieces (frame : Frame) : Option Frame × List Bytes :=
  match frame.encode with
  | .ok bytes => (some frame, chunks bytes)
  | .error _ => (none, [])

namespace Call

variable [Inhabited σ]

/-- One step of call `i`, if it can take one. `expired` tells a body that waits that its time is up;
until then only the cancellation of its token lets it go on. A method waits for the lock on its
receiver, and a response for the lock on the wire. -/
def step (i : CallId) (expired : Bool) (c : Call ι σ κ) (s : Station ι σ κ) :
    Option (Call ι σ κ × Station ι σ κ) :=
  match c.phase with
  | .accepted call =>
    let (token, connection) := s.connection.start i c.request.seq
    some ({ c with phase := .registered call token }, { s with connection })
  | .registered call token =>
    let (call, s) := s.handOver i c.request call
    some ({ c with phase := .ready call token }, s)
  | .ready call token =>
    let (place, script) := s.invoke i call token
    if s.isBarred place then none
    else some ({ c with phase := .running place script }, s.take place)
  | .running place (.act (.cancel seq) next) =>
    if s.mayCancel place then
      match s.connection.remove i seq with
      | (some victim, connection) =>
        some ({ c with phase := .flagging place victim (next ()) }, { s with connection })
      | (none, connection) =>
        some ({ c with phase := .running place (next ()) }, { s with connection })
    else some ({ c with phase := .running place (next ()) }, s)
  | .running place (.act a next) =>
    if a.isWait && !expired && !s.connection.pending.tokens.isCanceled place.token then none
    else
      let (x, s) := Station.perform place a s
      some ({ c with phase := .running place (next x) }, s)
  | .running place (.done finished) =>
    if place.locks then
      some ({ c with phase := .running { place with locks := false } (.done finished) },
        s.giveBack place)
    else
      let (victim?, connection) := s.connection.remove i c.request.seq
      some ({ c with phase := .releasing place.token victim? finished }, { s with connection })
  | .flagging place victim rest =>
    some ({ c with phase := .running place rest }, s.onConnection (·.flag victim))
  | .releasing _ victim? finished =>
    some ({ c with phase := .released finished }, s.onConnection (·.flag? victim?))
  | .released finished =>
    some ({ c with phase := .answering finished.reply (finished.outcome.report c.request.address) },
      s.onConnection (·.log i (finished.outcome.events c.request)))
  | .answering reply error =>
    if s.connection.writer.isSome then none
    else
      let (events, frame) := c.request.compose reply error
      let (frame?, pieces) := frame.pieces
      some ({ c with phase := .writing frame? pieces },
        s.onConnection fun k => (k.lock i).log i events)
  | .writing frame? (piece :: rest) =>
    some ({ c with phase := .writing frame? rest }, s.onConnection (·.write piece))
  | .writing frame? [] => some ({ c with phase := .written }, s.onConnection (·.unlock i frame?))
  | .written => some ({ c with phase := .forgotten }, s.onConnection (·.free i c.request.seq))
  | .forgotten =>
    some ({ c with phase := .over }, if c.guarded then s.onConnection (·.dropGuard i) else s)
  | .over => none

/-! ## Going through a call in one go -/

/-- From `forgotten` on. -/
def endGuard (i : CallId) (c : Call ι σ κ) (s : Station ι σ κ) : Station ι σ κ :=
  if c.guarded then s.onConnection (·.dropGuard i) else s

/-- From `written` on. -/
def endFree (i : CallId) (c : Call ι σ κ) (s : Station ι σ κ) : Station ι σ κ :=
  c.endGuard i (s.onConnection (·.free i c.request.seq))

/-- From `writing` on. -/
def endWrite (i : CallId) (c : Call ι σ κ) (frame? : Option Frame) (pieces : List Bytes)
    (s : Station ι σ κ) : Station ι σ κ :=
  c.endFree i (s.onConnection fun k => (pieces.foldl Connection.write k).unlock i frame?)

/-- From `answering` on, when nobody else writes. -/
def endAnswer (i : CallId) (c : Call ι σ κ) (reply : Reply ι) (error : String)
    (s : Station ι σ κ) : Station ι σ κ :=
  let (events, frame) := c.request.compose reply error
  let (frame?, pieces) := frame.pieces
  c.endWrite i frame? pieces (s.onConnection fun k => (k.lock i).log i events)

/-- From `released` on. -/
def endReport (i : CallId) (c : Call ι σ κ) (finished : Finished ι) (s : Station ι σ κ) :
    Station ι σ κ :=
  c.endAnswer i finished.reply (finished.outcome.report c.request.address)
    (s.onConnection (·.log i (finished.outcome.events c.request)))

/-- From the end of the body on. -/
def endRelease (i : CallId) (c : Call ι σ κ) (finished : Finished ι) (s : Station ι σ κ) :
    Station ι σ κ :=
  c.endReport i finished (s.onConnection (·.cancel i c.request.seq))

/-- From `running` on. A body that waits goes on at once. -/
def endRun (i : CallId) (c : Call ι σ κ) (place : Place) (script : Script σ (Finished ι))
    (s : Station ι σ κ) : Station ι σ κ :=
  let (finished, s) := script.run (Station.perform place) s
  c.endRelease i finished (s.giveBack place)

/-- From `ready` on, when nobody else holds the lock on the receiver. -/
def endReady (i : CallId) (c : Call ι σ κ) (call : PreparedCall ι κ) (token : Token)
    (s : Station ι σ κ) : Station ι σ κ :=
  let (place, script) := s.invoke i call token
  c.endRun i place script (s.take place)

/-- From `registered` on. -/
def endRegistered (i : CallId) (c : Call ι σ κ) (call : PreparedCall ι κ) (token : Token)
    (s : Station ι σ κ) : Station ι σ κ :=
  let (call, s) := s.handOver i c.request call
  c.endReady i call token s

/-- From `accepted` on. -/
def endAccepted (i : CallId) (c : Call ι σ κ) (call : PreparedCall ι κ) (s : Station ι σ κ) :
    Station ι σ κ :=
  let (token, connection) := s.connection.start i c.request.seq
  c.endRegistered i call token { s with connection }

/-- Goes through all that is left of a call, while the others stand still and hold no lock that it
needs. A body that waits for its token goes on at once. -/
def complete (i : CallId) (c : Call ι σ κ) (s : Station ι σ κ) : Call ι σ κ × Station ι σ κ :=
  ({ c with phase := .over },
    match c.phase with
    | .accepted call => c.endAccepted i call s
    | .registered call token => c.endRegistered i call token s
    | .ready call token => c.endReady i call token s
    | .running place rest => c.endRun i place rest s
    | .flagging place victim rest => c.endRun i place rest (s.onConnection (·.flag victim))
    | .releasing _ victim? finished => c.endReport i finished (s.onConnection (·.flag? victim?))
    | .released finished => c.endReport i finished s
    | .answering reply error => c.endAnswer i reply error s
    | .writing frame? pieces => c.endWrite i frame? pieces s
    | .written => c.endFree i s
    | .forgotten => c.endGuard i s
    | .over => s)

/-- From `ready` on, up to the first wait of the body. The call stays `ready` if another method
holds the lock that it needs. -/
def enter (i : CallId) (c : Call ι σ κ) (call : PreparedCall ι κ) (token : Token)
    (s : Station ι σ κ) : Call ι σ κ × Station ι σ κ :=
  let (place, script) := s.invoke i call token
  if s.isBarred place then ({ c with phase := .ready call token }, s)
  else
    match script.runToWait (Station.perform place) (s.take place) with
    | (.done finished, s) =>
      ({ c with phase := .over }, c.endRelease i finished (s.giveBack place))
    | (rest, s) => ({ c with phase := .running place rest }, s)

/-- Goes through a call whose body has not begun, up to the first wait of the body, where the call
stays `running`, or up to a lock that another method holds, where it stays `ready`. -/
def runToWait (i : CallId) (c : Call ι σ κ) (s : Station ι σ κ) : Call ι σ κ × Station ι σ κ :=
  match c.phase with
  | .accepted call =>
    let (token, connection) := s.connection.start i c.request.seq
    let (call, s) := { s with connection }.handOver i c.request call
    c.enter i call token s
  | .registered call token =>
    let (call, s) := s.handOver i c.request call
    c.enter i call token s
  | .ready call token => c.enter i call token s
  | _ => c.complete i s

/-- Whether the method runs and waits. -/
def isParked (c : Call ι σ κ) : Bool :=
  match c.phase with
  | .running .. => true
  | _ => false

/-- What the method waits for, if it runs and waits: its token, and for how many milliseconds. -/
def wait? (c : Call ι σ κ) : Option (Token × UInt64) :=
  match c.phase with
  | .running place (.act (.wait milliseconds) _) => some (place.token, milliseconds)
  | _ => none

/-- Whether the method may enter, or stands before a lock that another one holds. -/
def isReady (c : Call ι σ κ) : Bool :=
  match c.phase with
  | .ready .. => true
  | _ => false

/-- Whether the call is over. -/
def isOver (c : Call ι σ κ) : Bool :=
  match c.phase with
  | .over => true
  | _ => false

end Call

end Switchboard
