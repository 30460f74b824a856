import Switchboard.Connection.Timetable
import Switchboard.Message.Standard

/-!
# The demo

A service with a little arithmetic, driven through one connection: a call that waits to be canceled,
a sum, any number of products that report their progress, a method that does not exist, and the
request that cancels the first call.

* `Request.parse` reads the command line and the environment; the command line wins.
* `run` is the demo itself: what it says on its way and the responses, by sequence number.
-/

namespace Switchboard.Demo

/-! ## Messages -/

/-- Two numbers. -/
structure Operands where
  a : Int64
  b : Int64
  deriving DecidableEq, Repr

/-- How long to wait. -/
structure WaitArgs where
  milliseconds : UInt64
  deriving DecidableEq, Repr

instance : Wire Operands := Wire.via (fun p => (p.a, p.b)) fun (a, b) => ⟨a, b⟩
instance : Wire WaitArgs := Wire.via WaitArgs.milliseconds WaitArgs.mk

instance : Message Operands :=
  { toWire := inferInstance, typeName := "demo::Operands", zero := ⟨0, 0⟩ }
instance : Message WaitArgs :=
  { toWire := inferInstance, typeName := "demo::WaitArgs", zero := ⟨0⟩ }

/-- The index of the demo's message types. -/
inductive Kind where
  | number
  | text
  | operands
  | waitArgs
  deriving DecidableEq, Repr

/-- The values of each type. -/
def Kind.Carrier : Kind → Type
  | number => Int64
  | text => String
  | operands => Operands
  | waitArgs => WaitArgs

/-- The wire format, name and zero value of each type. -/
@[reducible] def Kind.message : (k : Kind) → Message k.Carrier
  | number => inferInstanceAs (Message Int64)
  | text => inferInstanceAs (Message String)
  | operands => inferInstanceAs (Message Operands)
  | waitArgs => inferInstanceAs (Message WaitArgs)

instance : MessageFamily Kind := ⟨Kind.Carrier, Kind.message, inferInstance⟩

/-- The one kind of peer: it listens to progress. -/
inductive Peer where
  | progress
  deriving DecidableEq, Repr

/-! ## The service -/

/-- A body of the demo's service. -/
abbrev ArithBody (argument reply : MessageType Kind) : Type := Body Kind Unit Peer argument reply

def add : ArithBody (.user .operands) (.user .number) := fun _ (p : Operands) _ =>
  pure (p.a + p.b, .ok)

/-- A product that takes its time and reports its progress. -/
def mul (delay : UInt64) : ArithBody (.user .operands) (.user .number) :=
  fun client (p : Operands) r => do
    if ← Script.wait delay then pure (r, .failed "canceled")
    else
      let product := p.a * p.b
      if !client.isNone then
        Script.tell (toString p.a ++ " * " ++ toString p.b ++ " = " ++ toString product)
      pure (product, .ok)

/-- Waits to be canceled, but not for ever. -/
def wait : ArithBody (.user .waitArgs) (.user .text) := fun _ (args : WaitArgs) r => do
  if ← Script.wait args.milliseconds then pure (r, .failed canceledText)
  else pure ("finished", .ok)

/-- The receiver of the demo's service. -/
def arith (delay : UInt64) : Receiver Kind Unit Peer where
  typeName := "demo::Arith"
  candidates := [
    .byPointer "demo::Arith" "Add" add,
    .byValue "demo::Arith" "Mul" (mul delay),
    .byPointer "demo::Arith" "Wait" wait]
  initial := ()

/-! ## Options -/

/-- How the demo is set up. -/
structure Options where
  /-- The number of products. -/
  calls : UInt64 := 8
  /-- When the waiting call is canceled. -/
  cancelAfterMs : UInt64 := 100
  /-- How long each product takes. -/
  workersDelayMs : UInt64 := 10
  /-- Log every method that the catalog leaves out. -/
  reportInvalidMethods : Bool := false
  deriving DecidableEq, Repr

/-- What the command line asks for. -/
inductive Request where
  | run (options : Options)
  /-- The usage or the version, and nothing else. -/
  | show
  /-- The arguments make no sense. -/
  | invalid (reason : String)
  deriving DecidableEq, Repr

/-- What was given so far. -/
structure Given where
  calls : Option UInt64 := none
  cancelAfterMs : Option UInt64 := none
  workersDelayMs : Option UInt64 := none
  reportInvalidMethods : Option Bool := none
  deriving DecidableEq, Repr

/-- The value of a decimal digit. -/
def digit? (c : Char) : Option Nat :=
  if '0' ≤ c ∧ c ≤ '9' then some (c.toNat - '0'.toNat) else none

/-- The number that decimal digits stand for. -/
def digits? (cs : List Char) : Option Nat :=
  if cs.isEmpty then none
  else cs.foldl (fun n? c => n?.bind fun n => (digit? c).map fun d => n * 10 + d) (some 0)

/-- A number of 64 bits: decimal digits, perhaps behind a plus sign. -/
def number? (text : String) : Option UInt64 :=
  let digits :=
    match text.toList with
    | '+' :: rest => rest
    | cs => cs
  (digits? digits).bind fun n => if n < UInt64.size then some (.ofNat n) else none

/-- A truth value in words. -/
def bool? : String → Option Bool
  | "true" => some true
  | "false" => some false
  | _ => none

namespace Given

/-- Sets a numeric option that is not set yet. -/
def setNumber (g : Given) (name value : String) : Except String Given :=
  match number? value with
  | none => .error ("invalid value for --" ++ name)
  | some n =>
    match name with
    | "calls" =>
      if g.calls.isSome then .error "--calls given twice" else .ok { g with calls := some n }
    | "cancel-after-ms" =>
      if g.cancelAfterMs.isSome then .error "--cancel-after-ms given twice"
      else .ok { g with cancelAfterMs := some n }
    | "workers-delay-ms" =>
      if g.workersDelayMs.isSome then .error "--workers-delay-ms given twice"
      else .ok { g with workersDelayMs := some n }
    | _ => .error ("unexpected argument --" ++ name)

/-- Sets the flag, if it is not set yet. -/
def setFlag (g : Given) (value : Bool) : Except String Given :=
  if g.reportInvalidMethods.isSome then .error "--report-invalid-methods given twice"
  else .ok { g with reportInvalidMethods := some value }

end Given

/-- The options that take a number. -/
def numberOptions : List String := ["calls", "cancel-after-ms", "workers-delay-ms"]

/-- Splits an option at its first equals sign. -/
def splitValue (cs : List Char) : String × Option String :=
  match cs.dropWhile (· ≠ '=') with
  | [] => (String.ofList cs, none)
  | _ :: value => (String.ofList (cs.takeWhile (· ≠ '=')), some (String.ofList value))

/-- Reads arguments from left to right: what was given, or a request that ends the reading. -/
def readArgs (g : Given) : List String → Except Request Given
  | [] => .ok g
  | arg :: rest =>
    match arg.toList with
    | ['-', '-'] => if rest.isEmpty then .ok g else .error (.invalid "unexpected argument")
    | '-' :: '-' :: long =>
      let (name, value?) := splitValue long
      if numberOptions.contains name then
        match value?, rest with
        | some value, rest =>
          match g.setNumber name value with
          | .ok g => readArgs g rest
          | .error e => .error (.invalid e)
        | none, [] => .error (.invalid ("a value is required for --" ++ name))
        | none, value :: rest =>
          match g.setNumber name value with
          | .ok g => readArgs g rest
          | .error e => .error (.invalid e)
      else if value?.isSome then .error (.invalid ("unexpected argument --" ++ name))
      else if name = "report-invalid-methods" then
        match g.setFlag true with
        | .ok g => readArgs g rest
        | .error e => .error (.invalid e)
      else if name = "help" || name = "version" then .error .show
      else .error (.invalid ("unexpected argument --" ++ name))
    | '-' :: 'h' :: _ => .error .show
    | '-' :: 'V' :: _ => .error .show
    | _ => .error (.invalid ("unexpected argument " ++ arg))

/-- Reads the environment for a numeric option that was not given. -/
def numberOrEnv (given : Option UInt64) (env : String → Option String) (key : String)
    (default : UInt64) : Except Request UInt64 :=
  match given, env key with
  | some n, _ => .ok n
  | none, none => .ok default
  | none, some value =>
    match number? value with
    | some n => .ok n
    | none => .error (.invalid ("invalid value in " ++ key))

/-- Reads the environment for the flag, if it was not given. -/
def flagOrEnv (given : Option Bool) (env : String → Option String) (key : String) :
    Except Request Bool :=
  match given, env key with
  | some b, _ => .ok b
  | none, none => .ok false
  | none, some value =>
    match bool? value with
    | some b => .ok b
    | none => .error (.invalid ("invalid value in " ++ key))

/-- Completes what was given from the environment. -/
def Given.complete (g : Given) (env : String → Option String) : Except Request Options := do
  let defaults : Options := {}
  let calls ← numberOrEnv g.calls env "CALLS" defaults.calls
  let cancelAfterMs ← numberOrEnv g.cancelAfterMs env "CANCEL_AFTER_MS" defaults.cancelAfterMs
  let workersDelayMs ← numberOrEnv g.workersDelayMs env "WORKERS_DELAY_MS" defaults.workersDelayMs
  let reportInvalidMethods ← flagOrEnv g.reportInvalidMethods env "REPORT_INVALID_METHODS"
  pure { calls, cancelAfterMs, workersDelayMs, reportInvalidMethods }

/-- What the command line and the environment ask for. -/
def Request.parse (args : List String) (env : String → Option String) : Request :=
  let options := do
    let g ← readArgs {} args
    g.complete env
  match options with
  | .ok options => .run options
  | .error request => request

/-! ## The run -/

/-- What the demo says. -/
structure Report where
  /-- The line that lists the services. -/
  services : String
  /-- A line for each product, as it was reported. -/
  progress : List String
  /-- A line for each response, by sequence number. -/
  responses : List String
  deriving DecidableEq, Repr

/-- All that the demo says, in order. -/
def Report.lines (r : Report) : List String := r.services :: r.progress ++ r.responses

/-- A request of the demo. -/
def inbound (address : String) (seq : UInt64) (args : Held Kind) (client : Client Peer) :
    Inbound Peer :=
  ⟨⟨address, seq⟩, ((args.type.encode args.value).toOption).getD [], client⟩

/-- The requests of the demo, in order. -/
def requests (options : Options) : List (Inbound Peer) :=
  let operands (a b : Int64) : Held Kind := ⟨.user .operands, Operands.mk a b⟩
  [inbound "Arith.Wait" 1 ⟨.user .waitArgs, WaitArgs.mk 60000⟩ .none,
    inbound "Arith.Add" 2 (operands 2 3) .none] ++
  (List.range options.calls.toNat).map (fun i =>
    inbound "Arith.Mul" (.ofNat (10 + i)) (operands (.ofNat i) 7) (.of .progress)) ++
  [inbound "Arith.Missing" 3 (operands 0 0) .none,
    inbound (Address.text ⟨CancelService.name, "Cancel"⟩) 4 ⟨.cancelArgs, CancelArgs.mk 1 none⟩
      .none]

/-- The line for a response. -/
def frameLine (f : Frame) : String :=
  "seq " ++ toString f.header.seq ++ " " ++ f.header.address ++
    if f.header.error = "" then " ok, " ++ toString f.body.length ++ " bytes"
    else " error: " ++ f.header.error

/-- Runs the demo. -/
def run (options : Options) : Report :=
  let (_, server) := Server.new ⟨options.reportInvalidMethods, true⟩
  let (_, x) := (Exchange.new server ⟨0⟩).register (arith options.workersDelayMs) none
  let services := x.station.server.names.map Text.quote
  let x := x.serveAll (requests options)
  let frames := (x.connection.frames.toOption.getD []).mergeSort
    fun a b => a.header.seq ≤ b.header.seq
  { services := "services [" ++ String.intercalate ", " services ++ "]"
    progress := (Connection.notes x.connection.journal).map ("progress: " ++ ·)
    responses := frames.map frameLine }

end Switchboard.Demo
