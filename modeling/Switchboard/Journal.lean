import Switchboard.Frame
import Switchboard.Event

/-!
# Journals

What can be seen of a call from outside, in the order in which it happens. A journal is a list of
effects, each with the call that caused it; the log, the notes to the peer, the calls that the
pending table received and the frames written are read off it.
-/

namespace Switchboard

/-- One effect of a call. -/
inductive Effect where
  /-- The pending table was asked to start a sequence number. -/
  | started (seq : UInt64)
  /-- The pending table was put into the argument. -/
  | granted
  /-- The method's body began. -/
  | entered
  /-- The pending table was asked to cancel a sequence number. -/
  | canceled (seq : UInt64)
  /-- The last byte of a response is on the wire. -/
  | sent (frame : Frame)
  /-- The transport forgot the request. -/
  | freed (seq : UInt64)
  /-- The guard of the wait group was dropped. -/
  | guardDropped
  /-- The method sent a note to its peer. -/
  | told (note : String)
  | logged (event : Event)
  deriving DecidableEq, Repr

namespace Effect

/-- The event that was logged. -/
def event? : Effect → Option Event
  | logged e => some e
  | _ => none

/-- The note that was sent. -/
def note? : Effect → Option String
  | told n => some n
  | _ => none

/-- The text of a call to the pending table. -/
def tableCall? : Effect → Option String
  | started q => some ("start " ++ toString q)
  | canceled q => some ("cancel " ++ toString q)
  | _ => none

end Effect

end Switchboard
