import Switchboard.Cancel.Service
import Switchboard.Workbench.Methods
import Switchboard.Workbench.Names

/-!
# Sample receivers

The receivers that the workbench can register. Each but the receiver of the cancellation service
starts with a total of zero and lists the candidates it is given.
-/

namespace Switchboard.Workbench

/-- A receiver of the workbench. -/
abbrev SampleReceiver : Type := Receiver Sample Int64 Peer

/-- The keys and full names of the sample receiver types. -/
def receiverTypes : List (String × String) := [
  ("Math", "driver::kit::Math"),
  ("Ledger", "driver::kit::Ledger"),
  ("lower", "driver::kit::lower"),
  ("_Private", "driver::kit::_Private"),
  ("Elan", "driver::kit::Élan"),
  ("Generic", "driver::kit::Generic<u8>"),
  ("BoxMath", "alloc::boxed::Box<driver::kit::Math>"),
  ("RefMath", "&driver::kit::Math"),
  ("Custom", "driver::kit::Custom")]

/-- What a receiver is to list: a sample method by its key, or a bare signature. -/
inductive Listing where
  | body (name key : String)
  | declare (name : String) (kind : ReceiverKind) (inputs outputs : List String)
  deriving DecidableEq, Repr

/-- The candidate of a listing by the type `owner`. -/
def Listing.candidate? (owner : String) : Listing → Option SampleCandidate
  | body name key => method? owner name key
  | declare name kind inputs outputs => do
    let inputs ← inputs.mapM (parameter? owner)
    let outputs ← outputs.mapM (parameter? owner)
    pure (.declared owner name ⟨kind, inputs, outputs⟩)

/-- The receiver of a key. Only the custom one takes its declared name from `declaredName`. -/
def receiver? (key declaredName : String) (isMutex : Bool) (methods : List Listing) :
    Option SampleReceiver := do
  let plain ←
    if key = "GoRpc" then pure CancelService.receiver
    else do
      let typeName ← receiverTypes.lookup key
      let candidates ← methods.mapM (Listing.candidate? typeName)
      let declared := if key = "Custom" then declaredName else TypeName.declared typeName
      pure { typeName, declaredName := declared, candidates, initial := 0 }
  pure (if isMutex then plain.behindMutex else plain)

end Switchboard.Workbench
