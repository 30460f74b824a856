import Switchboard.Service.Receiver

/-!
# The cancellation service

One service name is reserved. Its `Cancel` method lets a peer cancel another call of the same
connection by its sequence number: the connection puts its pending table into the argument before
the method runs. Without the table, as in a call on the caller's thread or under another name, the
method answers that nothing was canceled.
-/

namespace Switchboard.CancelService

variable {ι σ κ : Type} [MessageFamily ι]

/-- The reserved name. -/
def name : String := "_goRPC_"

/-- The full name of the receiver's type. -/
def typeName : String := "birpc::svc::GoRpc"

/-- Cancels the sequence number in the argument; the reply tells whether there was a table to do it
in. -/
def body : Body ι σ κ .cancelArgs .bool := fun _ (args : CancelArgs) _ =>
  match args.pending with
  | some _ => do
    Script.log (.cancelGranted args.seq)
    Script.cancel args.seq
    pure (true, .ok)
  | none => do
    Script.log (.cancelRefused args.seq)
    pure (false, .ok)

/-- The receiver of the cancellation service. -/
def receiver [Inhabited σ] : Receiver ι σ κ where
  typeName := typeName
  candidates := [.privileged typeName "Cancel" body]
  initial := default

end Switchboard.CancelService
