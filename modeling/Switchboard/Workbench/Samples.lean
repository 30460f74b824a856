import Switchboard.Message.Standard

/-!
# Sample message types

The message types that the workbench offers: numbers and texts, sequences, options, maps, and a few
records and alternatives with names of their own. `Sample` is their index.
-/

namespace Switchboard.Workbench

/-! ## Records and alternatives -/

/-- Two numbers. -/
structure Pair where
  a : Int64
  b : Int64
  deriving DecidableEq, Repr

/-- A number under a name that is not exported. -/
structure Hidden where
  a : Int64
  deriving DecidableEq, Repr

/-- An exported name around one that is not. -/
structure Wrapped where
  inner : Hidden
  deriving DecidableEq, Repr

/-- How often each word was counted; its order says nothing. -/
structure Tally where
  counts : KeyMap String UInt32

/-- A byte and how often it is wanted. -/
structure FillArgs where
  byte : UInt8
  len : UInt32
  deriving DecidableEq, Repr

/-- How long to hold. -/
structure HoldArgs where
  milliseconds : UInt64
  deriving DecidableEq, Repr

/-- A name, some tags and perhaps an age. -/
structure Person where
  name : String
  tags : List String
  age : Option UInt8
  deriving DecidableEq, Repr

/-- A color of one of three kinds. -/
inductive Shade where
  | red
  | gray (level : UInt8)
  | mix (x y : UInt16)
  deriving DecidableEq, Repr

/-- A number, or trees. -/
inductive Tree where
  | leaf (n : Int32)
  | node (children : List Tree)

/-- A number that cannot be written when it is 13. -/
structure Unlucky where
  n : UInt8
  deriving DecidableEq, Repr

/-- What the probing methods take. -/
structure ProbeArgs where
  seq : UInt64
  /-- Whether to cancel the sequence number. -/
  cancel : Bool
  pending : Option TableRef
  deriving DecidableEq, Repr

/-- What the probing methods saw. -/
structure ProbeReply where
  hasPending : Bool
  canceledBefore : Bool
  canceledAfter : Bool
  deriving DecidableEq, Repr

/-! ## Wire formats -/

instance : Wire Pair := Wire.via (fun p => (p.a, p.b)) fun (a, b) => ⟨a, b⟩
instance : Wire Hidden := Wire.via Hidden.a Hidden.mk
instance : Wire Wrapped := Wire.via Wrapped.inner Wrapped.mk
instance : Wire Tally := Wire.via Tally.counts Tally.mk
instance : Wire FillArgs := Wire.via (fun f => (f.byte, f.len)) fun (byte, len) => ⟨byte, len⟩
instance : Wire HoldArgs := Wire.via HoldArgs.milliseconds HoldArgs.mk
instance : Wire Person :=
  Wire.via (fun p => (p.name, p.tags, p.age)) fun (name, tags, age) => ⟨name, tags, age⟩
instance : Wire ProbeArgs :=
  Wire.via (fun p => (p.seq, p.cancel)) fun (seq, cancel) => ⟨seq, cancel, none⟩
instance : Wire ProbeReply :=
  Wire.via (fun p => (p.hasPending, p.canceledBefore, p.canceledAfter))
    fun (hasPending, canceledBefore, canceledAfter) => ⟨hasPending, canceledBefore, canceledAfter⟩

instance : Wire Unlucky where
  encode u := if u.n = 13 then .error (.refused "unlucky number") else Wire.encode u.n
  read bytes := do
    let (n, rest) ← Wire.read bytes
    pure (⟨n⟩, rest)

instance : Wire Shade where
  encode
    | .red => encodeVariant 0 ()
    | .gray level => encodeVariant 1 level
    | .mix x y => encodeVariant 2 (x, y)
  read bytes := do
    let (i, rest) ← readVariant 3 bytes
    match i with
    | 0 => pure (.red, rest)
    | 1 =>
      let (level, rest) ← Wire.read rest
      pure (.gray level, rest)
    | 2 =>
      let ((x, y), rest) ← Wire.read rest
      pure (.mix x y, rest)

mutual

/-- The bytes of a tree. -/
def Tree.bytes : Tree → Bytes
  | .leaf n => leBytes 4 0 ++ leBytes 4 n.toUInt32.toNat
  | .node children => leBytes 4 1 ++ leBytes 8 children.length ++ Tree.bytesAll children

/-- The bytes of trees, one after the other. -/
def Tree.bytesAll : List Tree → Bytes
  | [] => []
  | t :: ts => t.bytes ++ Tree.bytesAll ts

end

/-- Reads a tree that is not higher than `height`. -/
def Tree.readWithin : Nat → Bytes → Except WireError (Tree × Bytes)
  | 0, _ => .error .endOfInput
  | height + 1, bytes => do
    let (i, rest) ← readVariant 2 bytes
    match i with
    | 0 =>
      let (n, rest) ← Wire.read rest
      pure (.leaf n, rest)
    | 1 =>
      let (children, rest) ← readCounted (readWithin height) rest
      pure (.node children, rest)

instance : Wire Tree where
  encode t := .ok t.bytes
  read bytes := Tree.readWithin (bytes.length + 1) bytes

mutual

/-- The sum of the leaves. -/
def Tree.sum : Tree → Int64
  | .leaf n => n.toInt64
  | .node children => Tree.sumAll children

/-- The sum of the leaves of trees. -/
def Tree.sumAll : List Tree → Int64
  | [] => 0
  | t :: ts => t.sum + Tree.sumAll ts

end

/-! ## Names and zero values -/

instance : Message Tally where
  toWire := inferInstance
  typeName := "std::collections::hash::map::HashMap<alloc::string::String, u32>"
  zero := ⟨KeyMap.empty⟩

instance : Message Pair :=
  { toWire := inferInstance, typeName := "driver::kit::Pair", zero := ⟨0, 0⟩ }
instance : Message Hidden :=
  { toWire := inferInstance, typeName := "driver::kit::hidden", zero := ⟨0⟩ }
instance : Message Wrapped :=
  { toWire := inferInstance, typeName := "driver::kit::Wrapper<driver::kit::hidden>"
    zero := ⟨⟨0⟩⟩ }
instance : Message FillArgs :=
  { toWire := inferInstance, typeName := "driver::kit::FillArgs", zero := ⟨0, 0⟩ }
instance : Message HoldArgs :=
  { toWire := inferInstance, typeName := "driver::kit::HoldArgs", zero := ⟨0⟩ }
instance : Message Person :=
  { toWire := inferInstance, typeName := "driver::kit::Person", zero := ⟨"", [], none⟩ }
instance : Message Shade :=
  { toWire := inferInstance, typeName := "driver::kit::Shade", zero := .red }
instance : Message Tree :=
  { toWire := inferInstance, typeName := "driver::kit::Tree", zero := .leaf 0 }
instance : Message Unlucky :=
  { toWire := inferInstance, typeName := "driver::kit::Unlucky", zero := ⟨0⟩ }
instance : Message ProbeReply :=
  { toWire := inferInstance, typeName := "driver::kit::ProbeReply", zero := ⟨false, false, false⟩ }

/-- No pending table comes off the wire. -/
theorem ProbeArgs.pending_of_read {bytes rest : Bytes} {a : ProbeArgs}
    (h : Wire.read bytes = .ok (a, rest)) : a.pending = none := by
  unfold instWireProbeArgs at h
  obtain ⟨fields, -, rfl⟩ := Wire.eq_of_read_via h
  rfl

instance : Message ProbeArgs where
  toWire := inferInstance
  typeName := "driver::kit::ProbeArgs"
  zero := ⟨0, false, none⟩
  slot := some ⟨ProbeArgs.pending, fun t a => { a with pending := some t }, fun _ _ => rfl⟩
  slot_read := by
    rintro _ ⟨⟩ bytes a rest h
    exact ProbeArgs.pending_of_read h

/-! ## The family -/

/-- The index of the sample types. -/
inductive Sample where
  | u8 | i8 | u16 | u32 | i32 | u64 | i64
  | char | text | bytes | numbers | texts
  | optU32 | optOptBool | triple | array | mapU32 | mapText | tally
  | pair | hidden | wrapped | optHidden | hiddens
  | fillArgs | holdArgs | person | shade | tree | unlucky | probeArgs | probeReply
  deriving DecidableEq, Repr

/-- The values of a sample type. -/
def Sample.Carrier : Sample → Type
  | u8 => UInt8
  | i8 => Int8
  | u16 => UInt16
  | u32 => UInt32
  | i32 => Int32
  | u64 => UInt64
  | i64 => Int64
  | char => Char
  | text => String
  | bytes => List UInt8
  | numbers => List Int64
  | texts => List String
  | optU32 => Option UInt32
  | optOptBool => Option (Option Bool)
  | triple => UInt8 × String × Bool
  | array => Vector UInt16 3
  | mapU32 => KeyMap UInt32 UInt32
  | mapText => KeyMap String Int64
  | tally => Tally
  | pair => Pair
  | hidden => Hidden
  | wrapped => Wrapped
  | optHidden => Option Hidden
  | hiddens => List Hidden
  | fillArgs => FillArgs
  | holdArgs => HoldArgs
  | person => Person
  | shade => Shade
  | tree => Tree
  | unlucky => Unlucky
  | probeArgs => ProbeArgs
  | probeReply => ProbeReply

/-- The wire format, name and zero value of each sample type. -/
@[reducible] def Sample.message : (s : Sample) → Message s.Carrier
  | u8 => inferInstanceAs (Message UInt8)
  | i8 => inferInstanceAs (Message Int8)
  | u16 => inferInstanceAs (Message UInt16)
  | u32 => inferInstanceAs (Message UInt32)
  | i32 => inferInstanceAs (Message Int32)
  | u64 => inferInstanceAs (Message UInt64)
  | i64 => inferInstanceAs (Message Int64)
  | char => inferInstanceAs (Message Char)
  | text => inferInstanceAs (Message String)
  | bytes => inferInstanceAs (Message (List UInt8))
  | numbers => inferInstanceAs (Message (List Int64))
  | texts => inferInstanceAs (Message (List String))
  | optU32 => inferInstanceAs (Message (Option UInt32))
  | optOptBool => inferInstanceAs (Message (Option (Option Bool)))
  | triple => inferInstanceAs (Message (UInt8 × String × Bool))
  | array => inferInstanceAs (Message (Vector UInt16 3))
  | mapU32 => inferInstanceAs (Message (KeyMap UInt32 UInt32))
  | mapText => inferInstanceAs (Message (KeyMap String Int64))
  | tally => inferInstanceAs (Message Tally)
  | pair => inferInstanceAs (Message Pair)
  | hidden => inferInstanceAs (Message Hidden)
  | wrapped => inferInstanceAs (Message Wrapped)
  | optHidden => inferInstanceAs (Message (Option Hidden))
  | hiddens => inferInstanceAs (Message (List Hidden))
  | fillArgs => inferInstanceAs (Message FillArgs)
  | holdArgs => inferInstanceAs (Message HoldArgs)
  | person => inferInstanceAs (Message Person)
  | shade => inferInstanceAs (Message Shade)
  | tree => inferInstanceAs (Message Tree)
  | unlucky => inferInstanceAs (Message Unlucky)
  | probeArgs => inferInstanceAs (Message ProbeArgs)
  | probeReply => inferInstanceAs (Message ProbeReply)

instance : MessageFamily Sample := ⟨Sample.Carrier, Sample.message, inferInstance⟩

/-- The keys of the message types. -/
def messageTypes : List (String × MessageType Sample) := [
  ("unit", .unit),
  ("bool", .bool),
  ("CancelArgs", .cancelArgs),
  ("u8", .user .u8),
  ("i8", .user .i8),
  ("u16", .user .u16),
  ("u32", .user .u32),
  ("i32", .user .i32),
  ("u64", .user .u64),
  ("i64", .user .i64),
  ("char", .user .char),
  ("String", .user .text),
  ("VecU8", .user .bytes),
  ("VecI64", .user .numbers),
  ("VecString", .user .texts),
  ("OptU32", .user .optU32),
  ("OptOptBool", .user .optOptBool),
  ("Tuple", .user .triple),
  ("Arr3", .user .array),
  ("MapU32", .user .mapU32),
  ("MapStr", .user .mapText),
  ("HashMap", .user .tally),
  ("Pair", .user .pair),
  ("hidden", .user .hidden),
  ("WrapHidden", .user .wrapped),
  ("OptHidden", .user .optHidden),
  ("VecHidden", .user .hiddens),
  ("FillArgs", .user .fillArgs),
  ("HoldArgs", .user .holdArgs),
  ("Person", .user .person),
  ("Shade", .user .shade),
  ("Tree", .user .tree),
  ("Unlucky", .user .unlucky),
  ("ProbeArgs", .user .probeArgs),
  ("ProbeReply", .user .probeReply)]

/-- The message type of a key. -/
def messageType? (key : String) : Option (MessageType Sample) := messageTypes.lookup key

/-- The key of a message type. -/
def messageKey (t : MessageType Sample) : String :=
  ((messageTypes.find? fun e => e.2 = t).map (·.1)).getD ""

end Switchboard.Workbench
