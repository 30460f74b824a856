import Switchboard.Connection.Exchange

/-!
# Streams of requests

A connection reads requests one after the other until no more come, and then waits for the calls
that still run. A request that becomes a call does not hold up the next; one that is answered with
an error right away does, until its answer is out.

* `Stream.step` is one step of all this: the next request is taken in, or a call goes on.
* `Stream.IsOver` says that serving has returned.
-/

namespace Switchboard

/-- A request as read from the wire, its argument still encoded. -/
structure Inbound (κ : Type) where
  request : Request
  body : Bytes
  client : Client κ

/-- A connection on its way through a stream of requests. -/
structure Stream (ι σ κ : Type) [MessageFamily ι] where
  exchange : Exchange ι σ κ
  /-- The requests not yet read. -/
  queue : List (Inbound κ)
  /-- The request that is being answered with an error, which holds up the next. -/
  rejecting : Option CallId

/-- A turn in serving a stream. -/
inductive Turn where
  /-- The next request is taken in. -/
  | accept
  /-- A call takes a step; `expired` tells a body that waits that its time is up. -/
  | call (i : CallId) (expired : Bool)
  deriving DecidableEq, Repr

namespace Stream

variable {ι σ κ : Type} [MessageFamily ι] [Inhabited σ]

/-- A stream of which nothing is read. -/
def new (x : Exchange ι σ κ) (queue : List (Inbound κ)) : Stream ι σ κ := ⟨x, queue, none⟩

/-- Whether the reader is still busy with answering a request. -/
def isBusy (s : Stream ι σ κ) : Bool :=
  match s.rejecting with
  | none => false
  | some i => !((s.exchange.calls[i]?.map Call.isOver).getD true)

/-- One turn, if it is possible. -/
def step (s : Stream ι σ κ) : Turn → Option (Stream ι σ κ)
  | .accept =>
    if s.isBusy then none
    else
      match s.queue with
      | [] => none
      | r :: queue =>
        let i := s.exchange.calls.length
        match s.exchange.accept r.request r.body r.client true with
        | (.accepted _, exchange) => some ⟨exchange, queue, none⟩
        | (.rejected, exchange) => some ⟨exchange, queue, some i⟩
  | .call i expired => (s.exchange.step i expired).map fun exchange => { s with exchange }

/-- Serving has returned: every request is read and no guard is held. -/
def IsOver (s : Stream ι σ κ) : Prop :=
  s.queue = [] ∧ s.isBusy = false ∧ s.exchange.connection.guards.isIdle = true

/-- What turns lead to. -/
inductive Reaches : Stream ι σ κ → Stream ι σ κ → Prop where
  | refl (s : Stream ι σ κ) : Reaches s s
  | step {s t u : Stream ι σ κ} (turn : Turn) : Reaches s t → t.step turn = some u → Reaches s u

end Stream

end Switchboard
