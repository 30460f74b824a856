import Switchboard.Cancel.Token
import Switchboard.Method.Candidate
import Switchboard.Workbench.Samples

/-!
# Sample methods

The method bodies that the workbench offers, for receivers whose state is one number, the total.
Some keep the calling convention and some break it in one point each.

`method?` gives the candidate of a key.
-/

namespace Switchboard.Workbench

/-- The peers that sample methods can talk to. -/
inductive Peer where
  /-- Takes notes while it is open. -/
  | recorder (isOpen : Bool)
  | number (n : UInt32)
  | text (s : String)
  deriving DecidableEq, Repr

/-- The number, if the peer is one. -/
def Peer.number? : Peer → Option UInt32
  | number n => some n
  | _ => none

/-- The text, if the peer is one. -/
def Peer.text? : Peer → Option String
  | text s => some s
  | _ => none

/-- Whether the recorder is open, if the peer is one. -/
def Peer.recorder? : Peer → Option Bool
  | recorder isOpen => some isOpen
  | _ => none

/-- A method body on sample types. -/
abbrev SampleBody (argument reply : MessageType Sample) : Type :=
  Body Sample Int64 Peer argument reply

/-- A candidate of the workbench. -/
abbrev SampleCandidate : Type := Candidate Sample Int64 Peer

/-- Adds to the total and gives the new total. -/
def bump (n : Int64) : Script Int64 Int64 := do
  let total ← Script.updateReceiver (· + n)
  pure (total + n)

/-! ## Bodies that compute -/

def sum : SampleBody (.user .pair) (.user .i64) := fun _ (p : Pair) _ =>
  pure (p.a + p.b, .ok)

/-- Division towards zero. -/
def div : SampleBody (.user .pair) (.user .i64) := fun _ (p : Pair) r =>
  if p.b = 0 then pure (r, .failed "divide by zero")
  else if p.a = Int64.minValue ∧ p.b = -1 then
    pure (r, .panicked (.text "attempt to divide with overflow"))
  else pure (p.a / p.b, .ok)

def fail : SampleBody (.user .text) (.user .i64) := fun _ (s : String) _ =>
  pure ((-1 : Int64), .failed s)

def boom : SampleBody (.user .pair) (.user .i64) := fun _ _ _ =>
  pure ((7 : Int64), .panicked (.text "boom"))

def panicWith : SampleBody (.user .text) (.user .text) := fun _ (s : String) r =>
  pure (r, .panicked (.text s))

def panicAny : SampleBody (.user .u8) (.user .u8) := fun _ _ r =>
  pure (r, .panicked .other)

/-- The squares below a bound, at most a thousand of them. -/
def squares : SampleBody (.user .u32) (.user .mapU32) :=
  fun _ (n : UInt32) (r : KeyMap UInt32 UInt32) =>
    let r := (List.range (min n.toNat 1000)).foldl
      (fun (r : KeyMap UInt32 UInt32) i => r.insert (.ofNat i) (.ofNat (i * i))) r
    pure (r, .ok)

/-- Counts words on top of what the reply holds. -/
def count : SampleBody (.user .texts) (.user .tally) :=
  fun _ (words : List String) (r : Tally) =>
    let counts := words.foldl
      (fun (m : KeyMap String UInt32) w => m.insert w ((m.lookup? w).getD 0 + 1)) r.counts
    pure (Tally.mk counts, .ok)

def append : SampleBody (.user .text) (.user .text) := fun _ (s : String) (r : String) =>
  pure (r ++ s, .ok)

def appendFail : SampleBody (.user .text) (.user .text) := fun _ (s : String) (r : String) =>
  pure (r ++ s, .failed ("after " ++ (r ++ s)))

def keep : SampleBody (.user .text) (.user .text) := fun _ _ r =>
  pure (r, .ok)

/-- A greeting; an age beyond the last is dropped. -/
def greet : SampleBody (.user .person) (.user .person) := fun _ (p : Person) _ =>
  let age := p.age.bind fun n => if n = 255 then none else some (n + 1)
  pure (Person.mk ("Hello, " ++ p.name) p.tags.reverse age, .ok)

def unlucky : SampleBody (.user .u8) (.user .unlucky) := fun _ (n : UInt8) _ =>
  pure (Unlucky.mk n, .ok)

def tree : SampleBody (.user .tree) (.user .i64) := fun _ (t : Tree) _ =>
  pure (t.sum, .ok)

def hiddenVec : SampleBody (.user .hiddens) (.user .i64) := fun _ (hs : List Hidden) _ =>
  pure (Int64.ofNat hs.length, .ok)

def hiddenWrap : SampleBody (.user .wrapped) (.user .hiddens) :=
  fun _ (w : Wrapped) (r : List Hidden) =>
    pure (r ++ [w.inner], .ok)

def echo : SampleBody (.user .text) (.user .text) := fun _ (s : String) r =>
  if s = "" then pure (r, .failed "empty") else pure (s, .ok)

def join : SampleBody (.user .texts) (.user .text) := fun _ (words : List String) _ =>
  pure (String.intercalate "," words, .ok)

/-! ## Bodies that talk to their peer or look at their token -/

/-- Resizes the reply, and sends the byte to a recorder. -/
def fill : SampleBody (.user .fillArgs) (.user .bytes) :=
  fun client (args : FillArgs) (r : List UInt8) => do
    let len := min args.len.toNat 4096
    let r : List UInt8 := r.take len ++ List.replicate (len - r.length) args.byte
    match client.as? Peer.recorder? with
    | some false => pure (r, .failed "client closed")
    | some true =>
      Script.tell ("fill " ++ toString args.byte)
      pure (r, .ok)
    | none => pure (r, .ok)

def peekClient : SampleBody .unit (.user .text) := fun client _ _ =>
  let seen : String :=
    match client.peer with
    | none => "none"
    | some (.number n) => "u32 " ++ toString n
    | some (.text s) => "String " ++ s
    | some (.recorder _) => "other"
  pure (seen, .ok)

def ctx : SampleBody .bool .bool := fun _ (arg : Bool) _ => do
  let canceled ← Script.poll
  pure (canceled, if arg && canceled then .failed canceledText else .ok)

def hold : SampleBody (.user .holdArgs) (.user .text) := fun _ (args : HoldArgs) r => do
  if ← Script.wait args.milliseconds then pure (r, .failed "canceled")
  else pure ("timeout", .ok)

def wait : SampleBody .unit (.user .text) := fun _ _ r => do
  if ← Script.wait 10000 then pure (r, .failed canceledText) else pure ("finished", .ok)

/-- Tells whether a pending table came along, and cancels in it if asked to. -/
def probe : SampleBody (.user .probeArgs) (.user .probeReply) := fun _ (args : ProbeArgs) _ => do
  let before ← Script.poll
  if args.pending.isSome && args.cancel then Script.cancel args.seq
  let after ← Script.poll
  pure (ProbeReply.mk args.pending.isSome before after, .ok)

def probePlain : SampleBody (.user .probeArgs) (.user .probeReply) :=
  fun _ (args : ProbeArgs) (r : ProbeReply) =>
    pure ({ r with hasPending := args.pending.isSome }, .ok)

/-! ## Bodies that change the total -/

def total : SampleBody .unit (.user .i64) := fun _ _ _ => do
  let n ← Script.readReceiver
  pure (n, .ok)

def accumulate : SampleBody (.user .pair) (.user .i64) := fun _ (p : Pair) _ => do
  let n ← bump p.a
  pure (n, .ok)

def accumulateFail : SampleBody (.user .pair) (.user .i64) := fun _ (p : Pair) _ => do
  let n ← bump p.a
  pure (n, .failed ("total is " ++ toString n))

def accumulatePanic : SampleBody (.user .pair) (.user .i64) := fun _ (p : Pair) r => do
  let _ ← bump p.a
  pure (r, .panicked (.text ("lost " ++ toString p.b)))

def bumpOne : SampleBody (.user .pair) (.user .i64) := fun _ _ r => do
  let _ ← bump 1
  pure (r, .ok)

def hiddenArg : SampleBody (.user .hidden) (.user .i64) := fun _ (h : Hidden) _ => do
  let n ← bump h.a
  pure (n, .ok)

def hiddenOpt : SampleBody (.user .optHidden) (.user .i64) := fun _ (h : Option Hidden) _ => do
  let n ← bump ((h.map Hidden.a).getD 0)
  pure (n, .ok)

def hiddenReply : SampleBody (.user .pair) (.user .hidden) := fun _ (p : Pair) _ =>
  pure (Hidden.mk p.a, .ok)

def firstOfPair : SampleBody (.user .pair) (.user .i64) := fun _ (p : Pair) _ =>
  pure (p.a, .ok)

def probeBump : SampleBody (.user .probeArgs) (.user .probeReply) := fun _ _ r => do
  let _ ← bump 1
  pure (r, .ok)

/-! ## The candidates by key -/

/-- The candidate of a key, listed under `name` by the type `owner`. -/
def method? (owner name key : String) : Option SampleCandidate :=
  let pointer {a r : MessageType Sample} (body : SampleBody a r) (types : BodyTypes) :=
    some (Candidate.byPointer owner name body types)
  let value {a r : MessageType Sample} (body : SampleBody a r) (types : BodyTypes) :=
    some (Candidate.byValue owner name body types)
  let exclusive {a r : MessageType Sample} (body : SampleBody a r) (types : BodyTypes) :=
    some (Candidate.exclusive owner name body types)
  let privileged {r : MessageType Sample} (body : SampleBody (.user .probeArgs) r)
      (types : BodyTypes) :=
    some (Candidate.privileged owner name body types)
  match key with
  | "sum" => pointer sum {}
  | "div" => pointer div {}
  | "fail" => pointer fail {}
  | "boom" => pointer boom {}
  | "panic_with" => pointer panicWith {}
  | "panic_any" => pointer panicAny {}
  | "squares" => pointer squares {}
  | "count" => pointer count {}
  | "append" => pointer append {}
  | "append_fail" => pointer appendFail {}
  | "keep" => pointer keep {}
  | "fill" => pointer fill {}
  | "greet" => pointer greet {}
  | "peek_client" => pointer peekClient {}
  | "ctx" => pointer ctx {}
  | "hold" => pointer hold {}
  | "wait" => pointer wait {}
  | "total" => pointer total {}
  | "unlucky" => pointer unlucky {}
  | "tree" => pointer tree {}
  | "hidden_vec" => pointer hiddenVec {}
  | "hidden_wrap" => pointer hiddenWrap {}
  | "echo" => value echo {}
  | "join" => value join {}
  | "probe" => privileged probe {}
  | "probe_plain" => pointer probePlain {}
  | "accumulate" => exclusive accumulate {}
  | "accumulate_fail" => exclusive accumulateFail {}
  | "accumulate_panic" => exclusive accumulatePanic {}
  | "no_ctx" => pointer bumpOne { context := "u32" }
  | "no_client" => pointer bumpOne { client := "alloc::string::String" }
  | "swapped" => pointer bumpOne { context := clientType.name, client := contextType.name }
  | "hidden_arg" => pointer hiddenArg {}
  | "hidden_opt" => value hiddenOpt {}
  | "hidden_reply" => pointer hiddenReply {}
  | "no_result" => pointer accumulate { result := "()" }
  | "wrong_result" =>
    pointer accumulate { result := "core::result::Result<(), alloc::string::String>" }
  | "bool_result" => value firstOfPair { result := "bool" }
  | "privileged_no_client" => privileged probeBump { client := "u8" }
  | "mut_no_ctx" => exclusive bumpOne { context := "u32" }
  | "mut_no_result" => exclusive accumulate { result := "()" }
  | "mut_hidden_arg" => exclusive hiddenArg {}
  | _ => none

end Switchboard.Workbench
