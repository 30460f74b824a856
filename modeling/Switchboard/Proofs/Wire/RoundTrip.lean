import Switchboard.Proofs.Wire.Utf8
import Switchboard.Wire.Format

/-!
# What was written is read back

`Wire.Returns a` says that the value `a` is read back from its own bytes, whatever follows them.
It is a property of values, not of types: a text returns only if its length fits its 64-bit count,
and a value that has no bytes returns trivially.

Results:

* `Wire.returns_word`, `Wire.returns_string`: numbers that fit and texts that are not too long.
* `Wire.returns_pair`, `Wire.returns_via`: a record returns if its fields do.
-/

namespace Switchboard

/-- The value is read back from its bytes, and what follows them is left over. -/
def Wire.Returns {α : Type} [Wire α] (a : α) : Prop :=
  ∀ bytes, Wire.encode a = .ok bytes → ∀ rest, Wire.read (bytes ++ rest) = .ok (a, rest)

/-- A number that fits its bytes is read from them. -/
theorem readWord_append {k n : Nat} (h : n < capacity k) (rest : Bytes) :
    readWord k (leBytes k n ++ rest) = .ok (n, rest) := by
  have hs : splitExactly? k (leBytes k n ++ rest) = some (leBytes k n, rest) := by
    simpa only [length_leBytes] using splitExactly?_append (leBytes k n) rest
  unfold readWord
  rw [hs]
  simp only [leValue_leBytes h]

/-- The bytes of a text: its length, then its UTF-8. -/
def textBytes (s : String) : Bytes :=
  leBytes 8 (Utf8.encode s.toList).length ++ Utf8.encode s.toList

theorem length_textBytes (s : String) :
    (textBytes s).length = 8 + (Utf8.encode s.toList).length := by
  rw [textBytes, List.length_append, length_leBytes]

namespace Wire

theorem encode_string (s : String) : Wire.encode s = .ok (textBytes s) := rfl

theorem encode_uInt64 (n : UInt64) : Wire.encode n = .ok (leBytes 8 n.toNat) := rfl

theorem returns_word {α : Type} {k : Nat} {toNat : α → Nat} {ofNat : Nat → α} {a : α}
    (hlt : toNat a < capacity k) (hinv : ofNat (toNat a) = a) :
    @Returns α (Wire.word k toNat ofNat) a := by
  intro bytes he rest
  cases he
  change (readWord k (leBytes k (toNat a) ++ rest) >>= fun p => pure (ofNat p.1, p.2)) = _
  rw [readWord_append hlt]
  exact congrArg (fun b => Except.ok (b, rest)) hinv

theorem returns_uInt64 (n : UInt64) : Returns n :=
  returns_word n.toNat_lt (UInt64.ofNat_toNat)

theorem returns_string {s : String} (h : (Utf8.encode s.toList).length < capacity 8) :
    Returns s := by
  intro bytes he rest
  rw [encode_string] at he
  cases he
  have hword := readWord_append h (Utf8.encode s.toList ++ rest)
  have hsplit := splitExactly?_append (Utf8.encode s.toList) rest
  unfold Wire.read instWireString
  simp only [textBytes, List.append_assoc, hword, bind, Except.bind, hsplit, Utf8.decode_encode,
    String.ofList_toList]

/-- A pair is written part by part. -/
theorem encode_pair {α β : Type} [Wire α] [Wire β] {a : α} {b : β} {x y : Bytes}
    (ha : Wire.encode a = .ok x) (hb : Wire.encode b = .ok y) :
    Wire.encode (a, b) = .ok (x ++ y) := by
  change (Wire.encode a >>= fun x => Wire.encode b >>= fun y => pure (x ++ y)) = _
  rw [ha, hb]
  rfl

/-- A pair that has bytes has bytes part by part. -/
theorem of_encode_pair {α β : Type} [Wire α] [Wire β] {a : α} {b : β} {bytes : Bytes}
    (h : Wire.encode (a, b) = .ok bytes) :
    ∃ x y, Wire.encode a = .ok x ∧ Wire.encode b = .ok y ∧ bytes = x ++ y := by
  change (Wire.encode a >>= fun x => Wire.encode b >>= fun y => pure (x ++ y)) = _ at h
  cases ha : (Wire.encode a : Except WireError Bytes) with
  | error e =>
    rw [ha] at h
    cases h
  | ok x =>
    cases hb : (Wire.encode b : Except WireError Bytes) with
    | error e =>
      rw [ha, hb] at h
      cases h
    | ok y =>
      rw [ha, hb] at h
      cases h
      exact ⟨x, y, rfl, rfl, rfl⟩

theorem returns_pair {α β : Type} [Wire α] [Wire β] {a : α} {b : β} (ha : Returns a)
    (hb : Returns b) : Returns (a, b) := by
  intro bytes he rest
  obtain ⟨x, y, hx, hy, rfl⟩ := of_encode_pair he
  change (Wire.read (x ++ y ++ rest) >>= fun p : α × Bytes =>
    Wire.read p.2 >>= fun q : β × Bytes => pure ((p.1, q.1), q.2)) = _
  rw [List.append_assoc, ha x hx]
  change (Wire.read (y ++ rest) >>= fun q : β × Bytes => pure ((a, q.1), q.2)) = _
  rw [hb y hy]
  rfl

/-- A record is read back as far as its fields go. -/
theorem read_via {α β : Type} [Wire β] {toFields : α → β} {ofFields : β → α} {a : α}
    (h : Returns (toFields a)) {bytes : Bytes}
    (he : (Wire.via toFields ofFields).encode a = .ok bytes) (rest : Bytes) :
    (Wire.via toFields ofFields).read (bytes ++ rest) = .ok (ofFields (toFields a), rest) := by
  change (Wire.read (bytes ++ rest) >>= fun p : β × Bytes => pure (ofFields p.1, p.2)) = _
  rw [h bytes he]
  rfl

theorem returns_via {α β : Type} [Wire β] {toFields : α → β} {ofFields : β → α} {a : α}
    (hinv : ofFields (toFields a) = a) (h : Returns (toFields a)) :
    @Returns α (Wire.via toFields ofFields) a := by
  intro bytes he rest
  exact (read_via h he rest).trans (congrArg (fun b => Except.ok (b, rest)) hinv)

/-- A value that returns is decoded from its bytes alone. -/
theorem Returns.decode {α : Type} [Wire α] {a : α} {bytes : Bytes} (h : Returns a)
    (he : Wire.encode a = .ok bytes) : Wire.decode bytes = .ok a := by
  rw [Wire.decode_eq_ok_iff]
  refine ⟨[], ?_⟩
  simpa only [List.append_nil] using h bytes he []

end Wire

end Switchboard
