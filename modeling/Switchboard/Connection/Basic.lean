import Switchboard.Cancel.PendingTable
import Switchboard.Journal
import Switchboard.WaitGroup

/-!
# Connections

The state that the calls of one transport share: the pending table, the wire with the lock on it,
the sequence numbers the transport has forgotten, the guards of calls under way, and the journal of
all that happened. Each operation here is atomic: calls that run at once take turns between them.

* `start`, `remove` and `flag` are the steps on the pending table;
* `lock`, `write` and `unlock` are the steps of writing a response, at most 16 bytes at a time;
* `free` and `dropGuard` end a call.

Results: `flatten_chunks`, `length_of_mem_chunks` (the pieces of a response are the response).
-/

namespace Switchboard

/-- Names one call of a connection. -/
abbrev CallId := Nat

/-- An effect and the call that caused it, if one did. -/
structure Entry where
  call : Option CallId
  effect : Effect
  deriving DecidableEq, Repr

/-- What the calls of one transport share. -/
structure Connection where
  /-- Names the pending table. -/
  ref : TableRef
  pending : Pending
  /-- The call that holds the lock on the wire. -/
  writer : Option CallId
  wire : Bytes
  /-- The sequence numbers of the requests the transport has forgotten, in that order. -/
  freed : List UInt64
  /-- Counts the calls that somebody may wait for. -/
  guards : WaitGroup
  journal : List Entry
  deriving Repr

/-- How many bytes go onto the wire at once. -/
def chunkSize : Nat := 16

/-- Cuts bytes into pieces that go onto the wire at once. -/
def chunks (bytes : Bytes) : List Bytes :=
  if _h : bytes = [] then []
  else bytes.take chunkSize :: chunks (bytes.drop chunkSize)
termination_by bytes.length
decreasing_by
  have := List.length_pos_iff.2 _h
  simp only [List.length_drop, chunkSize]
  omega

/-- The pieces, one after the other, are what was cut. -/
theorem flatten_chunks (bytes : Bytes) : (chunks bytes).flatten = bytes := by
  fun_induction chunks bytes with
  | case1 => rfl
  | case2 bytes h ih => simp [ih]

/-- No piece is larger than what goes onto the wire at once. -/
theorem length_of_mem_chunks {bytes c : Bytes} (h : c ∈ chunks bytes) : c.length ≤ chunkSize := by
  fun_induction chunks bytes with
  | case1 => simp at h
  | case2 bytes hne ih =>
    rcases List.mem_cons.1 h with rfl | h
    · simp only [List.length_take]
      omega
    · exact ih h

namespace Connection

/-- A connection on which nothing has happened. -/
def new (ref : TableRef) : Connection := ⟨ref, .empty, none, [], [], .empty, []⟩

/-- Adds an effect to the journal. -/
def note (c : Connection) (call : Option CallId) (e : Effect) : Connection :=
  { c with journal := c.journal ++ [⟨call, e⟩] }

/-- Adds log events to the journal. -/
def log (c : Connection) (call : Option CallId) (events : List Event) : Connection :=
  events.foldl (fun c e => c.note call (.logged e)) c

/-! ## The pending table -/

/-- Starts a sequence number in the pending table. -/
def start (c : Connection) (call : Option CallId) (seq : UInt64) : Token × Connection :=
  let (t, events, pending) := c.pending.start seq
  (t, ({ c with pending }.note call (.started seq)).log call events)

/-- The first step of canceling a sequence number: takes it out of the table. -/
def remove (c : Connection) (call : Option CallId) (seq : UInt64) : Option Token × Connection :=
  let (t?, events, pending) := c.pending.remove seq
  (t?, ({ c with pending }.note call (.canceled seq)).log call events)

/-- The second step of canceling a sequence number: cancels the token it was bound to. -/
def flag (c : Connection) (t : Token) : Connection :=
  { c with pending := (c.pending.cancelToken t).2 }

/-- The second step, if there was a token. -/
def flag? (c : Connection) (t? : Option Token) : Connection :=
  match t? with
  | some t => c.flag t
  | none => c

/-- Cancels a sequence number, both steps in a row. -/
def cancel (c : Connection) (call : Option CallId) (seq : UInt64) : Connection :=
  let (t?, c) := c.remove call seq
  c.flag? t?

/-! ## The wire -/

/-- Takes the lock on the wire. -/
def lock (c : Connection) (call : CallId) : Connection := { c with writer := some call }

/-- Puts a piece of a response onto the wire. -/
def write (c : Connection) (chunk : Bytes) : Connection := { c with wire := c.wire ++ chunk }

/-- Gives the lock back; the response `frame` is out, if there was one to write. -/
def unlock (c : Connection) (call : CallId) (frame? : Option Frame) : Connection :=
  let c := { c with writer := none }
  match frame? with
  | some frame => c.note call (.sent frame)
  | none => c

/-- The responses on the wire. -/
def frames (c : Connection) : Except WireError (List Frame) := Frame.decodeAll c.wire

/-! ## The end of a call -/

/-- Has the transport forget a request. -/
def free (c : Connection) (call : CallId) (seq : UInt64) : Connection :=
  { c with freed := c.freed ++ [seq] }.note call (.freed seq)

/-- Takes a guard of the wait group. -/
def addGuard (c : Connection) : Connection := { c with guards := c.guards.add }

/-- Drops a guard of the wait group. -/
def dropGuard (c : Connection) (call : CallId) : Connection :=
  { c with guards := c.guards.release }.note call .guardDropped

/-! ## Reading the journal -/

/-- The log lines, in order. -/
def logLines (entries : List Entry) : List String :=
  entries.filterMap fun e => e.effect.event?.map Event.line

/-- The notes to peers, in order. -/
def notes (entries : List Entry) : List String := entries.filterMap (·.effect.note?)

/-- The calls that the pending table received, in order. -/
def tableCalls (entries : List Entry) : List String := entries.filterMap (·.effect.tableCall?)

end Connection

end Switchboard
