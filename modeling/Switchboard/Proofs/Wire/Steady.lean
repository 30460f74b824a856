import Switchboard.Proofs.Wire.Canonical

/-!
# What follows a value does not change it

A reader is `Steady` if it takes the same value off the front whatever is put behind: it stops where
the value ends and does not look further. Readers are made of readers, so the property is kept by
doing one after the other; every format of the library is closed under it, by one lemma for each way
of making formats.

Steadiness is what makes a cut visible. If bytes were read to their end, then a reader that made a
value of fewer of them would have stopped there in the first place.

Results:

* `Steady.bind`: a steady reader after a steady reader.
* `steady_readWord`, `steady_char`, `steady_string`: numbers, characters, texts.
* `Steady.readMany`, `Steady.readCounted`, `Steady.readVector`: sequences, by the number of elements.
* `Steady.error_of_cut`: what was read to its end is not read from less.
-/

namespace Switchboard

/-- A value that comes of one computation after another comes of both. -/
theorem of_bind_eq_ok {ε α β : Type} {x : Except ε α} {f : α → Except ε β} {b : β}
    (h : x >>= f = .ok b) : ∃ a, x = .ok a ∧ f a = .ok b := by
  cases x with
  | error e => cases h
  | ok a => exact ⟨a, rfl, h⟩

/-- The reader takes the same off the front whatever is put behind. -/
def Steady {α : Type} (read : Bytes → Except WireError (α × Bytes)) : Prop :=
  ∀ (bytes : Bytes) (a : α) (rest : Bytes), read bytes = .ok (a, rest) →
    ∀ tail, read (bytes ++ tail) = .ok (a, rest ++ tail)

namespace Steady

variable {α β : Type}

/-- What is there without reading. -/
theorem pure (a : α) : Steady fun bytes => .ok (a, bytes) := by
  intro bytes b rest h tail
  cases h
  rfl

theorem error (e : WireError) : Steady fun _ => (.error e : Except WireError (α × Bytes)) := by
  intro bytes a rest h
  cases h

theorem bind {f : Bytes → Except WireError (α × Bytes)}
    {g : α → Bytes → Except WireError (β × Bytes)} (hf : Steady f) (hg : ∀ a, Steady (g a)) :
    Steady fun bytes => f bytes >>= fun p => g p.1 p.2 := by
  intro bytes b rest h tail
  obtain ⟨⟨a, middle⟩, first, second⟩ := of_bind_eq_ok h
  change f (bytes ++ tail) >>= (fun p => g p.1 p.2) = _
  rw [hf bytes a middle first tail]
  exact hg a middle b rest second tail

/-- What was read to its end is not read from less of it. -/
theorem error_of_cut {read : Bytes → Except WireError (α × Bytes)} (h : Steady read)
    {front back : Bytes} {a : α} (whole : read (front ++ back) = .ok (a, [])) (cut : back ≠ []) :
    ∃ e, read front = .error e := by
  cases short : read front with
  | error e => exact ⟨e, rfl⟩
  | ok p =>
    -- The reader would have stopped inside `front`, with `back` left over.
    have longer := h front p.1 p.2 short back
    rw [whole] at longer
    have left : [] = p.2 ++ back := congrArg Prod.snd (Except.ok.inj longer)
    exact absurd (List.append_eq_nil_iff.1 left.symm).2 cut

end Steady

/-! ## Numbers and texts -/

theorem steady_readWord (k : Nat) : Steady (readWord k) := by
  intro bytes n rest h tail
  obtain ⟨fits, rfl⟩ := readWord_eq_ok_iff.1 h
  rw [List.append_assoc]
  exact readWord_append fits (rest ++ tail)

theorem steady_word {α : Type} (k : Nat) (toNat : α → Nat) (ofNat : Nat → α) :
    Steady (Wire.word k toNat ofNat).read :=
  (steady_readWord k).bind fun n => .pure (ofNat n)

/-- One byte that says how to go on. -/
theorem Steady.byte {α : Type} {g : UInt8 → Bytes → Except WireError (α × Bytes)}
    (h : ∀ n, Steady (g n)) :
    Steady fun bytes => match bytes with
      | [] => .error .endOfInput
      | n :: rest => g n rest := by
  rintro (_ | ⟨n, bytes⟩) a rest hread tail
  · cases hread
  · exact h n bytes a rest hread tail

theorem steady_bool : Steady (Wire.read (α := Bool)) := by
  refine Steady.byte (g := fun n rest =>
    if n = 0 then .ok (false, rest) else if n = 1 then .ok (true, rest) else .error (.notBool n))
    fun n => ?_
  by_cases zero : n = 0
  · simpa only [if_pos zero] using Steady.pure false
  by_cases one : n = 1
  · simpa only [if_neg zero, if_pos one] using Steady.pure true
  · simpa only [if_neg zero, if_neg one] using Steady.error (.notBool n)

/-- A character ends where its own bytes do. -/
theorem Utf8.decodeChar_append {a : UInt8} {bytes rest : Bytes} {c : Char}
    (h : decodeChar a bytes = .ok (c, rest)) (tail : Bytes) :
    decodeChar a (bytes ++ tail) = .ok (c, rest ++ tail) := by
  have written := eq_encodeChar_of_decodeChar h
  obtain ⟨a', spelled, hc, hread⟩ := decodeChar_encodeChar (rest ++ tail) c
  rw [hc, List.cons_append, List.cons.injEq] at written
  obtain ⟨rfl, rfl⟩ := written
  rw [List.append_assoc, hread]

/-- Reads the character that begins with a byte. -/
def readChar (a : UInt8) (rest : Bytes) : Except WireError (Char × Bytes) :=
  match Utf8.decodeChar a rest with
  | .ok p => .ok p
  | .error _ => .error .notChar

theorem steady_readChar (a : UInt8) : Steady (readChar a) := by
  intro bytes c rest h tail
  unfold readChar at h ⊢
  split at h
  · next p decoded =>
    cases h
    rw [Utf8.decodeChar_append decoded tail]
  · cases h

theorem steady_char : Steady (Wire.read (α := Char)) := Steady.byte steady_readChar

/-- Reads the `n` bytes of a text. -/
def readText (n : Nat) (bytes : Bytes) : Except WireError (String × Bytes) :=
  match splitExactly? n bytes with
  | none => .error .overlong
  | some (text, rest) =>
    match Utf8.decode text with
    | .ok cs => .ok (String.ofList cs, rest)
    | .error fault => .error (.notText fault)

theorem steady_readText (n : Nat) : Steady (readText n) := by
  intro bytes s rest h tail
  unfold readText at h ⊢
  split at h
  · cases h
  · next text behind split_eq =>
    obtain ⟨rfl, rfl⟩ := eq_of_splitExactly? split_eq
    rw [List.append_assoc, splitExactly?_append]
    dsimp only
    split at h
    · next cs =>
      cases h
      rfl
    · cases h

theorem steady_string : Steady (Wire.read (α := String)) :=
  (steady_readWord 8).bind steady_readText

/-! ## Records, sequences, options, maps and alternatives -/

section Formats

variable {α β : Type}

theorem Steady.pair [Wire α] [Wire β] (ha : Steady (Wire.read (α := α)))
    (hb : Steady (Wire.read (α := β))) : Steady (Wire.read (α := α × β)) :=
  ha.bind fun a => hb.bind fun b => .pure (a, b)

theorem Steady.via [Wire β] (toFields : α → β) (ofFields : β → α) (h : Steady (Wire.read (α := β))) :
    Steady (Wire.via toFields ofFields).read :=
  h.bind fun fields => .pure (ofFields fields)

theorem Steady.option [Wire α] (h : Steady (Wire.read (α := α))) :
    Steady (Wire.read (α := Option α)) := by
  refine Steady.byte (g := fun n rest =>
    if n = 0 then .ok (none, rest)
    else if n = 1 then Wire.read rest >>= fun p : α × Bytes => .ok (some p.1, p.2)
    else .error (.notTag n)) fun n => ?_
  by_cases zero : n = 0
  · simpa only [if_pos zero] using Steady.pure none
  by_cases one : n = 1
  · simpa only [if_neg zero, if_pos one] using h.bind fun a => .pure (some a)
  · simpa only [if_neg zero, if_neg one] using Steady.error (.notTag n)

theorem Steady.readMany {read : Bytes → Except WireError (α × Bytes)} (h : Steady read) (n : Nat) :
    Steady (readMany read n) := by
  induction n with
  | zero => exact .pure []
  | succ n ih => exact h.bind fun a => ih.bind fun as => .pure (a :: as)

theorem Steady.readCounted {read : Bytes → Except WireError (α × Bytes)} (h : Steady read) :
    Steady (readCounted read) :=
  (steady_readWord 8).bind fun n => h.readMany n

theorem Steady.readVector [Wire α] (h : Steady (Wire.read (α := α))) (n : Nat) :
    Steady (readVector (α := α) n) := by
  induction n with
  | zero => exact .pure #v[]
  | succ n ih => exact ih.bind fun as => h.bind fun a => .pure (as.push a)

theorem steady_readVariant (count : Nat) : Steady (readVariant count) := by
  have index (n : Nat) : Steady fun bytes =>
      if h : n < count then (.ok (⟨n, h⟩, bytes) : Except WireError (Fin count × Bytes))
      else .error (.notVariant n count) := by
    by_cases known : n < count
    · simpa only [dif_pos known] using Steady.pure (⟨n, known⟩ : Fin count)
    · simpa only [dif_neg known] using Steady.error (.notVariant n count)
  exact (steady_readWord 4).bind index

end Formats

end Switchboard
