import Switchboard.Address
import Switchboard.Exclusion
import Switchboard.Holder

/-!
# Log events

What the parts of the switchboard report while they work, one constructor for each kind of line.
`Event.line` writes the level and the text.
-/

namespace Switchboard

/-- Why a call fails: it leads nowhere, its holders do not serve, or the method itself says so. -/
inductive CallError where
  | address (error : AddressError)
  | holder (error : HolderError)
  /-- The method's own error, by its text. -/
  | method (text : String)
  deriving DecidableEq, Repr

/-- The text of a call error; a method's own error is not touched. -/
def CallError.message : CallError → String
  | .address e => e.message
  | .holder e => e.message
  | .method text => text

/-- How urgent a log line is. -/
inductive Level where
  | error
  | warn
  | info
  | debug
  deriving DecidableEq, Repr

/-- The word for a level. -/
def Level.text : Level → String
  | error => "ERROR"
  | warn => "WARN"
  | info => "INFO"
  | debug => "DEBUG"

/-- One thing worth a log line. -/
inductive Event where
  /-- A candidate was left out of a catalog. -/
  | excluded (reason : Exclusion)
  /-- A service was built with this many methods. -/
  | registered (service : String) (methods : Nat)
  /-- A sequence number was started that is pending already. -/
  | reused (seq : UInt64)
  /-- A sequence number was canceled that is not pending. -/
  | unknownCancel (seq : UInt64)
  /-- The cancel method was handed the pending table. -/
  | cancelGranted (seq : UInt64)
  /-- The cancel method was not handed the pending table. -/
  | cancelRefused (seq : UInt64)
  /-- A request could not be routed or decoded. -/
  | rejected (seq : UInt64) (error : CallError)
  /-- A method is about to run. -/
  | calling (address : String) (seq : UInt64)
  /-- A method panicked; `report` is what the peer is told. -/
  | panicked (report : String)
  /-- A method is over; `error` is what the peer is told. -/
  | finished (address : String) (seq : UInt64) (error : String)
  /-- No more requests will come, and this many calls still run. -/
  | draining (calls : Nat)
  /-- A reply could not be encoded. -/
  | unencodable (seq : UInt64) (error : HolderError)
  deriving DecidableEq, Repr

namespace Event

/-- The level of an event. -/
def level : Event → Level
  | excluded _ | reused _ | cancelRefused _ | rejected .. => .warn
  | registered .. | cancelGranted _ | draining _ => .info
  | unknownCancel _ | calling .. | finished .. => .debug
  | panicked _ | unencodable .. => .error

/-- The text of an event. -/
def text : Event → String
  | excluded reason => "[Catalog] rpc.Register: " ++ reason.message
  | registered s n => "[Service] register " ++ s ++ " with " ++ toString n ++ " methods"
  | reused q => "[PendingTable] seq " ++ toString q ++ " already pending, reuse its context"
  | unknownCancel q => "[PendingTable] cancel unknown seq " ++ toString q
  | cancelGranted q => "[GoRpc] cancel seq " ++ toString q
  | cancelRefused q => "[GoRpc] cancel seq " ++ toString q ++ " without pending table"
  | rejected q e => "[Connection] reject seq " ++ toString q ++ ": " ++ e.message
  | calling a q => "[Connection] call " ++ a ++ " seq " ++ toString q
  | panicked report => "[Connection] " ++ report
  | finished a q e =>
    "[Connection] done " ++ a ++ " seq " ++ toString q ++ " error " ++ Text.quote e
  | draining n => "[Connection] request channel closed, waiting " ++ toString n ++ " calls"
  | unencodable q e =>
    "[MemTransport] encode reply for seq " ++ toString q ++ " error " ++ e.message

/-- The log line of an event. -/
def line (e : Event) : String := e.level.text ++ " " ++ e.text

end Event

end Switchboard
