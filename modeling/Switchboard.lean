import Switchboard.Main
import Switchboard.Proofs.Cancel.History
import Switchboard.Proofs.Cancel.Request
import Switchboard.Proofs.Connection.Agreement
import Switchboard.Proofs.Connection.Cancelation
import Switchboard.Proofs.Connection.Completion
import Switchboard.Proofs.Connection.Course
import Switchboard.Proofs.Connection.Lifetime
import Switchboard.Proofs.Connection.Precision
import Switchboard.Proofs.Connection.Preparation
import Switchboard.Proofs.Connection.Privilege
import Switchboard.Proofs.Connection.Release
import Switchboard.Proofs.Connection.Reports
import Switchboard.Proofs.Connection.Sections
import Switchboard.Proofs.Connection.Serving
import Switchboard.Proofs.Connection.Table
import Switchboard.Proofs.Framing.Grammar
import Switchboard.Proofs.Holding
import Switchboard.Proofs.Method.Refusal
import Switchboard.Proofs.Naming
import Switchboard.Proofs.Reaching
import Switchboard.Proofs.Resolution
import Switchboard.Proofs.Service.Diagnostics
import Switchboard.Proofs.Service.Reply
import Switchboard.Proofs.TypeName.Visible
import Switchboard.Workbench.Receivers
