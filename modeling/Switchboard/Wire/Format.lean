import Switchboard.Wire.Error
import Switchboard.Wire.KeyMap

/-!
# The wire format

How values become bytes, type by type:

* numbers have a fixed width, lowest byte first, negative ones in two's complement;
* a text is its length in bytes as a 64-bit number, then its UTF-8;
* a sequence or map is its number of elements as a 64-bit number, then the elements;
* an optional value is one tag byte, then the value if there is one;
* a record is its fields with nothing between, an alternative its 32-bit index, then its fields.

`Wire.encode` writes a value. `Wire.read` takes a value off the front of a byte string and gives the
bytes left over, so readers compose; `Wire.decode` reads a value and ignores what follows it.

Results: `splitExactly?_append`, `leValue_leBytes` (a number is read back from its bytes),
`Wire.eq_of_read_via` (a record that was read was made of its fields).
-/

namespace Switchboard

/-- Values that have a wire format. -/
class Wire (α : Type) where
  encode : α → Except WireError Bytes
  read : Bytes → Except WireError (α × Bytes)

/-- Reads a value from the front of `bytes`; what follows it is ignored. -/
def Wire.decode {α : Type} [Wire α] (bytes : Bytes) : Except WireError α :=
  (Wire.read bytes).map (·.1)

/-- Decoding gives the value that was read, whatever is left over. -/
theorem Wire.decode_eq_ok_iff {α : Type} [Wire α] {bytes : Bytes} {a : α} :
    Wire.decode bytes = .ok a ↔ ∃ rest, Wire.read bytes = .ok (a, rest) := by
  unfold Wire.decode
  cases (Wire.read bytes : Except WireError (α × Bytes)) with
  | error e => simp [Except.map]
  | ok p => simp [Except.map, Prod.ext_iff]

/-! ## Fixed widths -/

/-- The `k` low bytes of `n`, lowest first. -/
def leBytes : Nat → Nat → Bytes
  | 0, _ => []
  | k + 1, n => .ofNat (n % 256) :: leBytes k (n / 256)

/-- The number that bytes stand for, lowest first. -/
def leValue : Bytes → Nat
  | [] => 0
  | b :: bs => b.toNat + 256 * leValue bs

@[simp] theorem length_leBytes (k n : Nat) : (leBytes k n).length = k := by
  induction k generalizing n with
  | zero => rfl
  | succ k ih => simp [leBytes, ih]

/-- How many numbers `k` bytes can stand for. -/
def capacity : Nat → Nat
  | 0 => 1
  | k + 1 => 256 * capacity k

/-- A number that fits is read back from its bytes. -/
theorem leValue_leBytes {k n : Nat} (h : n < capacity k) : leValue (leBytes k n) = n := by
  induction k generalizing n with
  | zero =>
    have : n = 0 := Nat.lt_one_iff.1 h
    simp [leBytes, leValue, this]
  | succ k ih =>
    have hk : n / 256 < capacity k := Nat.div_lt_of_lt_mul h
    have hb : (UInt8.ofNat (n % 256)).toNat = n % 256 := by
      simp [UInt8.toNat_ofNat']
    rw [leBytes, leValue, ih hk, hb]
    omega

/-- The first `k` elements and the rest, if there are that many. -/
def splitExactly? {α : Type} : Nat → List α → Option (List α × List α)
  | 0, xs => some ([], xs)
  | _ + 1, [] => none
  | k + 1, x :: xs => (splitExactly? k xs).map fun p => (x :: p.1, p.2)

/-- A list is split behind its first part. -/
theorem splitExactly?_append {α : Type} (xs ys : List α) :
    splitExactly? xs.length (xs ++ ys) = some (xs, ys) := by
  induction xs with
  | nil => simp [splitExactly?]
  | cons x xs ih => simp [splitExactly?, ih]

/-- The two parts of a split make up the list, and the first has the length asked for. -/
theorem eq_of_splitExactly? {α : Type} {k : Nat} {xs a b : List α}
    (h : splitExactly? k xs = some (a, b)) : xs = a ++ b ∧ a.length = k := by
  induction k generalizing xs a with
  | zero =>
    simp only [splitExactly?, Option.some.injEq, Prod.mk.injEq] at h
    simp [← h.1, h.2]
  | succ k ih =>
    cases xs with
    | nil => simp [splitExactly?] at h
    | cons x xs =>
      obtain ⟨⟨a', b'⟩, hp, he⟩ := Option.map_eq_some_iff.1 h
      simp only [Prod.mk.injEq] at he
      obtain ⟨rfl, rfl⟩ := he
      obtain ⟨rfl, rfl⟩ := ih hp
      simp

/-- Reads a number of `k` bytes. -/
def readWord (k : Nat) (bytes : Bytes) : Except WireError (Nat × Bytes) :=
  match splitExactly? k bytes with
  | some (word, rest) => .ok (leValue word, rest)
  | none => .error .endOfInput

/-- The format of a number of `k` bytes. -/
@[reducible] def Wire.word {α : Type} (k : Nat) (toNat : α → Nat) (ofNat : Nat → α) : Wire α where
  encode a := .ok (leBytes k (toNat a))
  read bytes := do
    let (n, rest) ← readWord k bytes
    pure (ofNat n, rest)

instance : Wire UInt8 := Wire.word 1 UInt8.toNat UInt8.ofNat
instance : Wire UInt16 := Wire.word 2 UInt16.toNat UInt16.ofNat
instance : Wire UInt32 := Wire.word 4 UInt32.toNat UInt32.ofNat
instance : Wire UInt64 := Wire.word 8 UInt64.toNat UInt64.ofNat
instance : Wire Int8 := Wire.word 1 (·.toUInt8.toNat) (UInt8.ofNat · |>.toInt8)
instance : Wire Int32 := Wire.word 4 (·.toUInt32.toNat) (UInt32.ofNat · |>.toInt32)
instance : Wire Int64 := Wire.word 8 (·.toUInt64.toNat) (UInt64.ofNat · |>.toInt64)

instance : Wire Unit where
  encode _ := .ok []
  read bytes := .ok ((), bytes)

instance : Wire Bool where
  encode b := .ok [if b then 1 else 0]
  read
    | [] => .error .endOfInput
    | n :: rest =>
      if n = 0 then .ok (false, rest)
      else if n = 1 then .ok (true, rest)
      else .error (.notBool n)

/-! ## Text -/

instance : Wire Char where
  encode c := .ok (Utf8.encodeChar c)
  read
    | [] => .error .endOfInput
    | a :: rest =>
      match Utf8.decodeChar a rest with
      | .ok p => .ok p
      | .error _ => .error .notChar

instance : Wire String where
  encode s :=
    let text := Utf8.encode s.toList
    .ok (leBytes 8 text.length ++ text)
  read bytes := do
    let (n, rest) ← readWord 8 bytes
    match splitExactly? n rest with
    | none => .error .overlong
    | some (text, rest) =>
      match Utf8.decode text with
      | .ok cs => .ok (String.ofList cs, rest)
      | .error fault => .error (.notText fault)

/-! ## Records, sequences, options and maps -/

instance {α β : Type} [Wire α] [Wire β] : Wire (α × β) where
  encode p := do
    let a ← Wire.encode p.1
    let b ← Wire.encode p.2
    pure (a ++ b)
  read bytes := do
    let (a, rest) ← Wire.read bytes
    let (b, rest) ← Wire.read rest
    pure ((a, b), rest)

/-- The format of a record: its fields, one after the other. -/
@[reducible] def Wire.via {α β : Type} [Wire β] (toFields : α → β) (ofFields : β → α) : Wire α where
  encode a := Wire.encode (toFields a)
  read bytes := do
    let (fields, rest) ← Wire.read bytes
    pure (ofFields fields, rest)

/-- A record that was read was made of fields that were read. -/
theorem Wire.eq_of_read_via {α β : Type} [Wire β] {toFields : α → β} {ofFields : β → α}
    {bytes rest : Bytes} {a : α} (h : (Wire.via toFields ofFields).read bytes = .ok (a, rest)) :
    ∃ fields, (Wire.read bytes : Except WireError (β × Bytes)) = .ok (fields, rest) ∧
      a = ofFields fields := by
  change (Wire.read bytes >>= fun p : β × Bytes => pure (ofFields p.1, p.2)) = _ at h
  cases hb : (Wire.read bytes : Except WireError (β × Bytes)) with
  | error e =>
    rw [hb] at h
    cases h
  | ok p =>
    rw [hb] at h
    cases h
    exact ⟨p.1, rfl, rfl⟩

/-- Writes elements one after the other. -/
def encodeAll {α : Type} (encode : α → Except WireError Bytes) :
    List α → Except WireError Bytes
  | [] => .ok []
  | a :: as => do
    let x ← encode a
    let xs ← encodeAll encode as
    pure (x ++ xs)

/-- Reads `n` elements one after the other. -/
def readMany {α : Type} (read : Bytes → Except WireError (α × Bytes)) :
    Nat → Bytes → Except WireError (List α × Bytes)
  | 0, bytes => .ok ([], bytes)
  | n + 1, bytes => do
    let (a, rest) ← read bytes
    let (as, rest) ← readMany read n rest
    pure (a :: as, rest)

/-- Writes a number of elements and the elements. -/
def encodeCounted {α : Type} (encode : α → Except WireError Bytes) (as : List α) :
    Except WireError Bytes := do
  let xs ← encodeAll encode as
  pure (leBytes 8 as.length ++ xs)

/-- Reads a number of elements and the elements. -/
def readCounted {α : Type} (read : Bytes → Except WireError (α × Bytes)) (bytes : Bytes) :
    Except WireError (List α × Bytes) := do
  let (n, rest) ← readWord 8 bytes
  readMany read n rest

instance {α : Type} [Wire α] : Wire (List α) where
  encode := encodeCounted Wire.encode
  read := readCounted Wire.read

instance {α : Type} [Wire α] : Wire (Option α) where
  encode
    | none => .ok [0]
    | some a => do
      let x ← Wire.encode a
      pure (1 :: x)
  read
    | [] => .error .endOfInput
    | n :: rest =>
      if n = 0 then .ok (none, rest)
      else if n = 1 then do
        let (a, rest) ← Wire.read rest
        pure (some a, rest)
      else .error (.notTag n)

/-- Reads the elements of a sequence whose length is known. -/
def readVector {α : Type} [Wire α] : (n : Nat) → Bytes → Except WireError (Vector α n × Bytes)
  | 0, bytes => .ok (#v[], bytes)
  | n + 1, bytes => do
    let (as, rest) ← readVector n bytes
    let (a, rest) ← Wire.read rest
    pure (as.push a, rest)

instance {α : Type} [Wire α] {n : Nat} : Wire (Vector α n) where
  encode as := encodeAll Wire.encode as.toList
  read := readVector n

instance {κ ν : Type} [Key κ] [Wire κ] [Wire ν] : Wire (KeyMap κ ν) where
  encode m := encodeCounted Wire.encode m.entries
  read bytes := do
    let (es, rest) ← readCounted Wire.read bytes
    pure (KeyMap.ofList es, rest)

/-! ## Alternatives -/

/-- Writes the index of an alternative and its fields. -/
def encodeVariant {α : Type} [Wire α] (index : Nat) (fields : α) : Except WireError Bytes := do
  let xs ← Wire.encode fields
  pure (leBytes 4 index ++ xs)

/-- Reads the index of one of `count` alternatives. -/
def readVariant (count : Nat) (bytes : Bytes) : Except WireError (Fin count × Bytes) := do
  let (n, rest) ← readWord 4 bytes
  if h : n < count then .ok (⟨n, h⟩, rest) else .error (.notVariant n count)

end Switchboard
