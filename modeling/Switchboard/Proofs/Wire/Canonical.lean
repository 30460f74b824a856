import Switchboard.Proofs.Wire.RoundTrip

/-!
# What is read was written

Reading back what was written is one half of a format. The other half is that nothing else is read:
`Wire.IsCanonical α` says that whatever is taken off the front of a byte string as a value of `α` is
what is written for that value. Numbers and texts are canonical, and so are the records made of
them. A map is not: its entries may come in any order.

Results:

* `leBytes_leValue`, `readWord_eq_ok_iff`: a number that is read stands there in its own bytes.
* `Wire.canonical_string`: so does a text, for its length and its characters.
* `Wire.canonical_pair`, `Wire.canonical_via`: a record is canonical if its fields are.
-/

namespace Switchboard

/-- A number of `k` bytes is below the capacity of these. -/
theorem leValue_lt_capacity (bytes : Bytes) : leValue bytes < capacity bytes.length := by
  induction bytes with
  | nil => exact Nat.one_pos
  | cons b bytes ih =>
    have hb := b.toNat_lt
    simp only [leValue, capacity, List.length_cons]
    omega

/-- The bytes of a number that was read are those it was read from. -/
theorem leBytes_leValue (bytes : Bytes) : leBytes bytes.length (leValue bytes) = bytes := by
  induction bytes with
  | nil => rfl
  | cons b bytes ih =>
    have hb := b.toNat_lt
    have low : (b.toNat + 256 * leValue bytes) % 256 = b.toNat := by omega
    have high : (b.toNat + 256 * leValue bytes) / 256 = leValue bytes := by omega
    rw [List.length_cons, leBytes, leValue, low, high, ih, UInt8.ofNat_toNat]

/-- A number is read exactly where its bytes stand. -/
theorem readWord_eq_ok_iff {k n : Nat} {bytes rest : Bytes} :
    readWord k bytes = .ok (n, rest) ↔ n < capacity k ∧ bytes = leBytes k n ++ rest := by
  constructor
  · intro h
    unfold readWord at h
    split at h
    · next word left split_eq =>
      obtain ⟨rfl, rfl⟩ := eq_of_splitExactly? split_eq
      cases h
      rw [leBytes_leValue]
      exact ⟨leValue_lt_capacity word, rfl⟩
    · cases h
  · rintro ⟨fits, rfl⟩
    exact readWord_append fits rest

namespace Wire

/-- Whatever is read as a value stands there as it is written. -/
def IsCanonical (α : Type) [Wire α] : Prop :=
  ∀ (bytes : Bytes) (a : α) (rest : Bytes), Wire.read bytes = .ok (a, rest) →
    ∃ written, Wire.encode a = .ok written ∧ bytes = written ++ rest

theorem canonical_word {α : Type} {k : Nat} {toNat : α → Nat} {ofNat : Nat → α}
    (hinv : ∀ n < capacity k, toNat (ofNat n) = n) : @IsCanonical α (Wire.word k toNat ofNat) := by
  intro bytes a rest h
  change (readWord k bytes >>= fun p => pure (ofNat p.1, p.2)) = _ at h
  cases hword : readWord k bytes with
  | error e =>
    rw [hword] at h
    cases h
  | ok p =>
    obtain ⟨n, left⟩ := p
    rw [hword] at h
    cases h
    obtain ⟨fits, rfl⟩ := readWord_eq_ok_iff.1 hword
    refine ⟨leBytes k n, ?_, rfl⟩
    exact congrArg (fun m => Except.ok (leBytes k m)) (hinv n fits)

theorem canonical_uInt64 : IsCanonical UInt64 :=
  canonical_word fun _ fits => UInt64.toNat_ofNat_of_lt' fits

theorem canonical_int32 : IsCanonical Int32 := by
  unfold instWireInt32
  refine canonical_word fun n fits => ?_
  rw [UInt32.toUInt32_toInt32, UInt32.toNat_ofNat_of_lt' fits]

/-- A text is its length and then so many bytes, if these are UTF-8. -/
theorem read_string (bytes : Bytes) : (Wire.read bytes : Except WireError (String × Bytes)) =
    (readWord 8 bytes).bind fun p =>
      match splitExactly? p.1 p.2 with
      | none => .error .overlong
      | some (text, rest) =>
        match Utf8.decode text with
        | .ok cs => .ok (String.ofList cs, rest)
        | .error fault => .error (.notText fault) := rfl

theorem canonical_string : IsCanonical String := by
  intro bytes s rest h
  rw [read_string] at h
  cases hword : readWord 8 bytes with
  | error e =>
    rw [hword] at h
    cases h
  | ok p =>
    obtain ⟨n, left⟩ := p
    rw [hword] at h
    obtain ⟨-, rfl⟩ := readWord_eq_ok_iff.1 hword
    dsimp only [Except.bind] at h
    split at h
    · cases h
    · next text behind split_eq =>
      obtain ⟨rfl, rfl⟩ := eq_of_splitExactly? split_eq
      split at h
      · next cs decoded =>
        cases h
        obtain rfl := Utf8.decode_eq_ok_iff.1 decoded
        refine ⟨_, encode_string _, ?_⟩
        rw [textBytes, String.toList_ofList, List.append_assoc]
      · cases h

theorem canonical_pair {α β : Type} [Wire α] [Wire β] (ha : IsCanonical α) (hb : IsCanonical β) :
    IsCanonical (α × β) := by
  intro bytes p rest h
  change (Wire.read bytes >>= fun p : α × Bytes =>
    Wire.read p.2 >>= fun q : β × Bytes => pure ((p.1, q.1), q.2)) = _ at h
  cases hfst : (Wire.read bytes : Except WireError (α × Bytes)) with
  | error e =>
    rw [hfst] at h
    cases h
  | ok first =>
    obtain ⟨a, middle⟩ := first
    rw [hfst] at h
    change (Wire.read middle >>= fun q : β × Bytes => pure ((a, q.1), q.2)) = _ at h
    cases hsnd : (Wire.read middle : Except WireError (β × Bytes)) with
    | error e =>
      rw [hsnd] at h
      cases h
    | ok second =>
      obtain ⟨b, left⟩ := second
      rw [hsnd] at h
      cases h
      obtain ⟨x, hx, rfl⟩ := ha bytes a middle hfst
      obtain ⟨y, hy, rfl⟩ := hb middle b left hsnd
      exact ⟨x ++ y, encode_pair hx hy, (List.append_assoc x y left).symm⟩

theorem canonical_via {α β : Type} [Wire β] {toFields : α → β} {ofFields : β → α}
    (hinv : ∀ b, toFields (ofFields b) = b) (h : IsCanonical β) :
    @IsCanonical α (Wire.via toFields ofFields) := by
  intro bytes a rest hread
  obtain ⟨fields, hfields, rfl⟩ := eq_of_read_via hread
  obtain ⟨written, hwritten, rfl⟩ := h bytes fields rest hfields
  refine ⟨written, ?_, rfl⟩
  change Wire.encode (toFields (ofFields fields)) = _
  rw [hinv, hwritten]

end Wire

end Switchboard
