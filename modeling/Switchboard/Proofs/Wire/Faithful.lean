import Mathlib.Data.List.Basic
import Switchboard.Proofs.Wire.Steady

/-!
# Formats that are faithful

A format is faithful if a value is read back from its own bytes whatever follows them, and reading
does not look behind the value. The first law asks something of the value: a text or a sequence has
its length written in 64 bits, and a longer one cannot be read back. `Measured` says for each type
which values have lengths that fit, in every part of them.

Both laws are carried over from the parts of a type to the whole, so that the format of a type is
faithful by the way it is made: `Wire.Faithful` is a class, with one instance for each way.

A map takes one step more. It is written entry by entry and read by inserting entry after entry, so
reading it back needs that insertion restores a list of entries that is in order. It restores one
that is in any order, which is what makes maps without an order of their own readable.

Results:

* `readCounted_encodeCounted`: a sequence is read back if its elements are.
* `KeyMap.ofList_of_perm`: a map is the map of its entries, in whatever order they come.
* `Wire.read_keyMap`: a map is read back from its entries in any order.
* `Wire.Faithful`: its instances, for everything the wire format offers.
-/

namespace Switchboard

/-! ## Lengths -/

/-- Types whose values may have lengths that are written. -/
class Measured (α : Type) where
  /-- Every text in the value has less than 2^64 bytes, every sequence and map less than 2^64
  elements. -/
  Fits : α → Prop

export Measured (Fits)

/-- Values without a length. -/
@[reducible] def Measured.constant {α : Type} : Measured α := ⟨fun _ => True⟩

/-- Records have the lengths of their fields. -/
@[reducible] def Measured.via {α β : Type} [Measured β] (toFields : α → β) : Measured α :=
  ⟨fun a => Fits (toFields a)⟩

instance : Measured Unit := .constant
instance : Measured Bool := .constant
instance : Measured UInt8 := .constant
instance : Measured Int8 := .constant
instance : Measured UInt16 := .constant
instance : Measured UInt32 := .constant
instance : Measured Int32 := .constant
instance : Measured UInt64 := .constant
instance : Measured Int64 := .constant
instance : Measured Char := .constant

instance : Measured String := ⟨fun s => (Utf8.encode s.toList).length < capacity 8⟩

instance {α β : Type} [Measured α] [Measured β] : Measured (α × β) :=
  ⟨fun p => Fits p.1 ∧ Fits p.2⟩

instance {α : Type} [Measured α] : Measured (Option α) := ⟨fun o => ∀ a ∈ o, Fits a⟩

instance {α : Type} [Measured α] : Measured (List α) :=
  ⟨fun as => as.length < capacity 8 ∧ ∀ a ∈ as, Fits a⟩

instance {α : Type} [Measured α] {n : Nat} : Measured (Vector α n) := ⟨fun as => ∀ a ∈ as, Fits a⟩

instance {κ ν : Type} [Key κ] [Measured κ] [Measured ν] : Measured (KeyMap κ ν) :=
  .via KeyMap.entries

/-! ## Sequences -/

section Sequences

variable {α : Type} {encode : α → Except WireError Bytes}
  {read : Bytes → Except WireError (α × Bytes)} {as : List α}

theorem readMany_encodeAll
    (h : ∀ a ∈ as, ∀ x, encode a = .ok x → ∀ rest, read (x ++ rest) = .ok (a, rest))
    {bytes : Bytes} (written : encodeAll encode as = .ok bytes) (rest : Bytes) :
    readMany read as.length (bytes ++ rest) = .ok (as, rest) := by
  induction as generalizing bytes with
  | nil =>
    cases written
    rfl
  | cons a as ih =>
    obtain ⟨x, hx, written⟩ := of_bind_eq_ok written
    obtain ⟨xs, hxs, written⟩ := of_bind_eq_ok written
    cases written
    change (read (x ++ xs ++ rest) >>= fun p => readMany read as.length p.2 >>= fun q =>
      pure (p.1 :: q.1, q.2)) = _
    rw [List.append_assoc, h a List.mem_cons_self x hx]
    change (readMany read as.length (xs ++ rest) >>= fun q => pure (a :: q.1, q.2)) = _
    rw [ih (fun b hb => h b (List.mem_cons_of_mem a hb)) hxs]
    rfl

/-- **A sequence is read back if its elements are.** -/
theorem readCounted_encodeCounted (short : as.length < capacity 8)
    (h : ∀ a ∈ as, ∀ x, encode a = .ok x → ∀ rest, read (x ++ rest) = .ok (a, rest))
    {bytes : Bytes} (written : encodeCounted encode as = .ok bytes) (rest : Bytes) :
    readCounted read (bytes ++ rest) = .ok (as, rest) := by
  obtain ⟨xs, hxs, written⟩ := of_bind_eq_ok written
  cases written
  change (readWord 8 (leBytes 8 as.length ++ xs ++ rest) >>= fun p => readMany read p.1 p.2) = _
  rw [List.append_assoc, readWord_append short]
  exact readMany_encodeAll h hxs rest

theorem encodeAll_concat (as : List α) (a : α) :
    encodeAll encode (as ++ [a]) =
      encodeAll encode as >>= fun xs => encode a >>= fun x => pure (xs ++ x) := by
  induction as with
  | nil =>
    change (encode a >>= fun x => pure (x ++ [])) = (encode a >>= fun x => pure ([] ++ x))
    simp only [List.append_nil, List.nil_append]
  | cons b as ih =>
    change (encode b >>= fun y => encodeAll encode (as ++ [a]) >>= fun ys => pure (y ++ ys)) =
      (encode b >>= fun y => encodeAll encode as >>= fun ys => pure (y ++ ys)) >>= fun ys =>
        encode a >>= fun x => pure (ys ++ x)
    simp only [ih, bind_assoc, pure_bind, List.append_assoc]

end Sequences

/-- An array is read from its front although its last element is put on last. -/
theorem readVector_encodeAll {α : Type} [Wire α] {n : Nat} {as : Vector α n}
    (h : ∀ a ∈ as, Wire.Returns a) {bytes : Bytes}
    (written : encodeAll Wire.encode as.toList = .ok bytes) (rest : Bytes) :
    readVector n (bytes ++ rest) = .ok (as, rest) := by
  induction n generalizing bytes rest with
  | zero =>
    obtain rfl : as = #v[] := Vector.eq_empty
    cases written
    rfl
  | succ n ih =>
    obtain ⟨front, last, rfl⟩ : ∃ (front : Vector α n) (last : α), as = front.push last :=
      ⟨as.pop, as.back, (Vector.push_pop_back as).symm⟩
    rw [Vector.toList_push, encodeAll_concat] at written
    obtain ⟨xs, hxs, written⟩ := of_bind_eq_ok written
    obtain ⟨x, hx, written⟩ := of_bind_eq_ok written
    cases written
    change (readVector n (xs ++ x ++ rest) >>= fun p => Wire.read p.2 >>= fun q : α × Bytes =>
      pure (p.1.push q.1, q.2)) = _
    rw [List.append_assoc, ih (fun a ha => h a (Vector.mem_push.2 (.inl ha))) hxs]
    change (Wire.read (x ++ rest) >>= fun q : α × Bytes => pure (front.push q.1, q.2)) = _
    rw [h last (Vector.mem_push.2 (.inr rfl)) x hx]
    rfl

/-! ## Maps -/

namespace KeyMap

variable {κ ν : Type} [Key κ]

/-- An entry of a new key is added to those there are. -/
theorem perm_insertEntry {k : κ} {v : ν} {es : List (κ × ν)} (fresh : ∀ e ∈ es, e.1 ≠ k) :
    (insertEntry k v es).Perm ((k, v) :: es) := by
  induction es with
  | nil => exact .refl _
  | cons e es ih =>
    rw [insertEntry]
    split
    · exact .refl _
    · next notBefore =>
      split
      · have tail := ih fun e' he' => fresh e' (List.mem_cons_of_mem e he')
        exact (tail.cons e).trans (.swap (k, v) e es)
      · next notBehind =>
        have same : e.1 = k := Key.total _ _ (by simpa using notBehind) (by simpa using notBefore)
        exact absurd same (fresh e List.mem_cons_self)

/-- Entries of new keys, inserted one after the other, are added to those there are. -/
theorem perm_foldl_insert {es : List (κ × ν)} {m : KeyMap κ ν}
    (distinct : (m.entries ++ es).Pairwise fun a b => a.1 ≠ b.1) :
    (es.foldl (fun m e => m.insert e.1 e.2) m).entries.Perm (m.entries ++ es) := by
  induction es generalizing m with
  | nil => simp
  | cons e es ih =>
    have fresh : ∀ e' ∈ m.entries, e'.1 ≠ e.1 := fun e' he' =>
      (List.pairwise_append.1 distinct).2.2 e' he' e List.mem_cons_self
    have step : ((m.insert e.1 e.2).entries ++ es).Perm (m.entries ++ e :: es) :=
      ((perm_insertEntry fresh).append_right es).trans List.perm_middle.symm
    have symmetric {a b : κ × ν} (h : a.1 ≠ b.1) : b.1 ≠ a.1 := h.symm
    exact (ih (distinct.perm step.symm symmetric)).trans step

theorem pairwise_ne (m : KeyMap κ ν) : m.entries.Pairwise fun a b => a.1 ≠ b.1 := by
  refine m.ascending.imp fun {a b} hlt same => ?_
  rw [same, Key.irrefl] at hlt
  cases hlt

/-- Maps with the same entries are the same. -/
theorem eq_of_perm {m m' : KeyMap κ ν} (h : m.entries.Perm m'.entries) : m = m' := by
  have entries : m.entries = m'.entries := by
    refine h.eq_of_pairwise (fun a b _ _ hab hba => ?_) m.ascending m'.ascending
    have loop := Key.trans _ _ _ hab hba
    rw [Key.irrefl] at loop
    cases loop
  cases m
  cases m'
  cases entries
  rfl

/-- **A map is the map of its entries, in whatever order they come.** -/
theorem ofList_of_perm {m : KeyMap κ ν} {es : List (κ × ν)} (h : es.Perm m.entries) :
    ofList es = m := by
  have distinct : es.Pairwise fun a b => a.1 ≠ b.1 :=
    m.pairwise_ne.perm h.symm fun hne => hne.symm
  exact eq_of_perm ((perm_foldl_insert (m := empty) distinct).trans h)

end KeyMap

/-! ## Faithful formats -/

namespace Wire

/-- Types whose values are read back from their bytes, and whose reader stops behind a value. -/
class Faithful (α : Type) [Wire α] [Measured α] : Prop where
  returns (a : α) : Fits a → Returns a
  steady : Steady (Wire.read (α := α))

section Constant

variable {α : Type}

theorem faithful_word [Measured α] {k : Nat} {toNat : α → Nat} (ofNat : Nat → α)
    (hlt : ∀ a, toNat a < capacity k) (hinv : ∀ a, ofNat (toNat a) = a) :
    @Faithful α (Wire.word k toNat ofNat) _ :=
  @Faithful.mk α (Wire.word k toNat ofNat) _ (fun a _ => returns_word (hlt a) (hinv a))
    (steady_word k toNat ofNat)

instance : Faithful UInt8 :=
  faithful_word UInt8.ofNat UInt8.toNat_lt fun _ => UInt8.ofNat_toNat
instance : Faithful UInt16 :=
  faithful_word UInt16.ofNat UInt16.toNat_lt fun _ => UInt16.ofNat_toNat
instance : Faithful UInt32 :=
  faithful_word UInt32.ofNat UInt32.toNat_lt fun _ => UInt32.ofNat_toNat
instance : Faithful UInt64 :=
  faithful_word UInt64.ofNat UInt64.toNat_lt fun _ => UInt64.ofNat_toNat
instance : Faithful Int8 :=
  faithful_word (UInt8.ofNat · |>.toInt8) (fun a => a.toUInt8.toNat_lt) fun a =>
    (congrArg UInt8.toInt8 UInt8.ofNat_toNat).trans a.toInt8_toUInt8
instance : Faithful Int32 :=
  faithful_word (UInt32.ofNat · |>.toInt32) (fun a => a.toUInt32.toNat_lt) fun a =>
    (congrArg UInt32.toInt32 UInt32.ofNat_toNat).trans a.toInt32_toUInt32
instance : Faithful Int64 :=
  faithful_word (UInt64.ofNat · |>.toInt64) (fun a => a.toUInt64.toNat_lt) fun a =>
    (congrArg UInt64.toInt64 UInt64.ofNat_toNat).trans a.toInt64_toUInt64

instance : Faithful Unit where
  returns _ _ bytes written rest := by
    cases written
    rfl
  steady := .pure ()

instance : Faithful Bool where
  returns b _ bytes written rest := by
    cases written
    cases b <;> rfl
  steady := steady_bool

instance : Faithful Char where
  returns c _ bytes written rest := by
    cases written
    obtain ⟨a, spelled, hc, hread⟩ := Utf8.decodeChar_encodeChar rest c
    rw [hc]
    unfold Wire.read instWireChar
    dsimp only [List.cons_append]
    rw [hread]
  steady := steady_char

instance : Faithful String where
  returns _ fits := returns_string fits
  steady := steady_string

end Constant

section Composite

variable {α β : Type} [Wire α] [Measured α] [Faithful α] [Wire β] [Measured β] [Faithful β]

instance : Faithful (α × β) where
  returns p fits := returns_pair (Faithful.returns p.1 fits.1) (Faithful.returns p.2 fits.2)
  steady := Faithful.steady.pair Faithful.steady

theorem faithful_via {γ : Type} {toFields : γ → β} (ofFields : β → γ)
    (hinv : ∀ c, ofFields (toFields c) = c) :
    @Faithful γ (Wire.via toFields ofFields) (.via toFields) :=
  @Faithful.mk γ (Wire.via toFields ofFields) (.via toFields)
    (fun c fits => returns_via (hinv c) (Faithful.returns (toFields c) fits))
    (Faithful.steady.via toFields ofFields)

instance : Faithful (Option α) where
  returns o fits bytes written rest := by
    cases o with
    | none =>
      cases written
      rfl
    | some a =>
      obtain ⟨x, hx, written⟩ := of_bind_eq_ok written
      cases written
      change (Wire.read (x ++ rest) >>= fun p : α × Bytes => pure (some p.1, p.2)) = _
      rw [Faithful.returns a (fits a rfl) x hx]
      rfl
  steady := Faithful.steady.option

instance : Faithful (List α) where
  returns _ fits _ written rest :=
    readCounted_encodeCounted fits.1 (fun a ha => Faithful.returns a (fits.2 a ha)) written rest
  steady := Faithful.steady.readCounted

instance {n : Nat} : Faithful (Vector α n) where
  returns _ fits _ written rest :=
    readVector_encodeAll (fun a ha => Faithful.returns a (fits a ha)) written rest
  steady := Faithful.steady.readVector n

end Composite

section Maps

variable {κ ν : Type} [Key κ] [Wire κ] [Measured κ] [Faithful κ] [Wire ν] [Measured ν] [Faithful ν]

/-- **A map is read back from its entries in any order.** -/
theorem read_keyMap {m : KeyMap κ ν} (fits : Fits m) {es : List (κ × ν)} (h : es.Perm m.entries)
    {bytes : Bytes} (written : encodeCounted Wire.encode es = .ok bytes) (rest : Bytes) :
    Wire.read (bytes ++ rest) = .ok (m, rest) := by
  have short : es.length < capacity 8 := h.length_eq ▸ fits.1
  have entries := readCounted_encodeCounted short
    (fun e he => Faithful.returns e (fits.2 e (h.mem_iff.1 he))) written rest
  change (readCounted Wire.read (bytes ++ rest) >>= fun p : List (κ × ν) × Bytes =>
    pure (KeyMap.ofList p.1, p.2)) = _
  rw [entries]
  exact congrArg (fun m => Except.ok (m, rest)) (KeyMap.ofList_of_perm h)

instance : Faithful (KeyMap κ ν) where
  returns _ fits _ written rest := read_keyMap fits (.refl _) written rest
  steady := Faithful.steady.readCounted.bind fun es => .pure (KeyMap.ofList es)

end Maps

end Wire

end Switchboard
