import Switchboard.Proofs.Wire.Faithful
import Switchboard.Workbench.Samples

/-!
# The formats of the sample types

The records among the sample types are faithful by the way they are made. The others have formats of
their own:

* `Shade`: the index of the alternative says what to read next.
* `Tree`: a tree is read with a bound on its height, which the number of bytes is large enough for.
  A tree is read exactly where its bytes stand (`Tree.read_eq_ok_iff`), and that is both laws at once.
* `Unlucky`: a value that is not written need not be read back.
* `CancelArgs`, `ProbeArgs`: the pending table is not written, so what is read back is the value
  without it. `Wire.Carries` is faithfulness up to what is not written.

Results:

* `readAlternative_append`: behind its index an alternative is read by its fields.
* `Tree.Fits`: the trees whose nodes can count their children.
* `Wire.Faithful.carries`, `Wire.carries_via`: types that lose nothing, and records that lose fields.
-/

namespace Switchboard

/-! ## Alternatives -/

/-- Reads the index of an alternative and then its fields. -/
def readAlternative {α : Type} {count : Nat}
    (fields : Fin count → Bytes → Except WireError (α × Bytes)) (bytes : Bytes) :
    Except WireError (α × Bytes) :=
  readVariant count bytes >>= fun p => fields p.1 p.2

section Alternatives

variable {α : Type} {count : Nat} {fields : Fin count → Bytes → Except WireError (α × Bytes)}

/-- Behind its index an alternative is read by its fields. -/
theorem readAlternative_append (few : count ≤ capacity 4) (i : Fin count) (rest : Bytes) :
    readAlternative fields (leBytes 4 i ++ rest) = fields i rest := by
  unfold readAlternative readVariant
  rw [readWord_append (Nat.lt_of_lt_of_le i.isLt few)]
  exact congrArg (· >>= _) (dif_pos i.isLt)

theorem Steady.readAlternative (h : ∀ i, Steady (fields i)) : Steady (readAlternative fields) :=
  (steady_readVariant count).bind h

theorem of_readAlternative {bytes rest : Bytes} {a : α}
    (h : readAlternative fields bytes = .ok (a, rest)) :
    ∃ i behind, bytes = leBytes 4 i.val ++ behind ∧ fields i behind = .ok (a, rest) := by
  obtain ⟨⟨i, behind⟩, index, h⟩ := of_bind_eq_ok h
  refine ⟨i, behind, ?_, h⟩
  obtain ⟨⟨n, left⟩, hword, found⟩ := of_bind_eq_ok index
  obtain ⟨-, rfl⟩ := readWord_eq_ok_iff.1 hword
  dsimp only at found
  split at found
  · cases found
    rfl
  · cases found

end Alternatives

/-- An alternative that has bytes is its index and the bytes of its fields. -/
theorem of_encodeVariant {α : Type} [Wire α] {i : Nat} {a : α} {bytes : Bytes}
    (h : encodeVariant i a = .ok bytes) :
    ∃ x, Wire.encode a = .ok x ∧ bytes = leBytes 4 i ++ x := by
  obtain ⟨x, hx, h⟩ := of_bind_eq_ok h
  cases h
  exact ⟨x, hx, rfl⟩

/-! ## Sequences that are read -/

/-- If what is read as an element stands there as it is written, so does a row of elements. -/
theorem eq_of_readMany {α : Type} {read : Bytes → Except WireError (α × Bytes)} {P : α → Prop}
    {w : α → Bytes}
    (h : ∀ bytes a rest, read bytes = .ok (a, rest) → P a ∧ bytes = w a ++ rest)
    {n : Nat} {bytes rest : Bytes} {as : List α} (hread : readMany read n bytes = .ok (as, rest)) :
    as.length = n ∧ (∀ a ∈ as, P a) ∧ bytes = as.flatMap w ++ rest := by
  induction n generalizing bytes as with
  | zero =>
    cases hread
    simp
  | succ n ih =>
    obtain ⟨⟨a, behind⟩, first, others⟩ := of_bind_eq_ok hread
    obtain ⟨⟨as, left⟩, others, made⟩ := of_bind_eq_ok others
    cases made
    obtain ⟨ha, rfl⟩ := h bytes a behind first
    obtain ⟨rfl, has, rfl⟩ := ih others
    refine ⟨rfl, List.forall_mem_cons.2 ⟨ha, has⟩, ?_⟩
    rw [List.flatMap_cons, List.append_assoc]

/-! ## What is lost on the wire -/

namespace Wire

/-- A value comes back as `bare` of it, and the reader stops behind it. -/
structure Carries (α : Type) [Wire α] [Measured α] (bare : α → α) : Prop where
  returns (a : α) : Fits a → ∀ bytes, Wire.encode a = .ok bytes → ∀ rest,
    Wire.read (bytes ++ rest) = .ok (bare a, rest)
  steady : Steady (Wire.read (α := α))

/-- A faithful format loses nothing. -/
theorem Faithful.carries (α : Type) [Wire α] [Measured α] [Faithful α] : Carries α id :=
  ⟨Faithful.returns, Faithful.steady⟩

/-- A record loses the fields that are not written. -/
theorem carries_via {α β : Type} [Wire β] [Measured β] [Faithful β] (toFields : α → β)
    (ofFields : β → α) :
    @Carries α (Wire.via toFields ofFields) (.via toFields) fun a => ofFields (toFields a) :=
  @Carries.mk α (Wire.via toFields ofFields) (.via toFields) _
    (fun a fits _ written rest => read_via (Faithful.returns (toFields a) fits) written rest)
    (Faithful.steady.via toFields ofFields)

end Wire

instance : Measured CancelArgs := .via CancelArgs.seq

namespace Workbench

open Wire

/-! ## Records -/

instance : Measured Pair := .via fun p => (p.a, p.b)
instance : Measured Hidden := .via Hidden.a
instance : Measured Wrapped := .via Wrapped.inner
instance : Measured Tally := .via Tally.counts
instance : Measured FillArgs := .via fun f => (f.byte, f.len)
instance : Measured HoldArgs := .via HoldArgs.milliseconds
instance : Measured Person := .via fun p => (p.name, p.tags, p.age)
instance : Measured ProbeArgs := .via fun p => (p.seq, p.cancel)
instance : Measured ProbeReply := .via fun p => (p.hasPending, p.canceledBefore, p.canceledAfter)

instance : Faithful Pair := faithful_via (fun p : Int64 × Int64 => Pair.mk p.1 p.2) fun _ => rfl
instance : Faithful Hidden := faithful_via Hidden.mk fun _ => rfl
instance : Faithful Wrapped := faithful_via Wrapped.mk fun _ => rfl
instance : Faithful Tally := faithful_via Tally.mk fun _ => rfl
instance : Faithful FillArgs :=
  faithful_via (fun p : UInt8 × UInt32 => FillArgs.mk p.1 p.2) fun _ => rfl
instance : Faithful HoldArgs := faithful_via HoldArgs.mk fun _ => rfl
instance : Faithful Person :=
  faithful_via (fun p : String × List String × Option UInt8 => Person.mk p.1 p.2.1 p.2.2) fun _ => rfl
instance : Faithful ProbeReply :=
  faithful_via (fun p : Bool × Bool × Bool => ProbeReply.mk p.1 p.2.1 p.2.2) fun _ => rfl

/-- The entries of a tally may have been written in any order. -/
theorem Tally.read_of_perm {m : Tally} (fits : Fits m) {es : List (String × UInt32)}
    (h : es.Perm m.counts.entries) {bytes : Bytes}
    (written : encodeCounted Wire.encode es = .ok bytes) (rest : Bytes) :
    Wire.read (bytes ++ rest) = .ok (m, rest) :=
  congrArg (· >>= _) (read_keyMap fits h written rest)

instance : Measured Unlucky := .via Unlucky.n

instance : Faithful Unlucky where
  returns u fits bytes written rest := by
    change (if u.n = 13 then .error (.refused "unlucky number") else Wire.encode u.n) = _ at written
    split at written
    · cases written
    · change (Wire.read (bytes ++ rest) >>= fun p : UInt8 × Bytes => pure (Unlucky.mk p.1, p.2)) = _
      rw [Faithful.returns u.n fits bytes written]
      rfl
  steady := Faithful.steady.bind fun n => .pure (Unlucky.mk n)

/-! ## Shades -/

instance : Measured Shade := .constant

/-- The fields of an alternative are read behind its index. -/
def Shade.readFields : Fin 3 → Bytes → Except WireError (Shade × Bytes)
  | 0, bytes => .ok (.red, bytes)
  | 1, bytes => Wire.read bytes >>= fun p : UInt8 × Bytes => .ok (.gray p.1, p.2)
  | 2, bytes => Wire.read bytes >>= fun p : (UInt16 × UInt16) × Bytes =>
    .ok (.mix p.1.1 p.1.2, p.2)

theorem Shade.steady_readFields : (i : Fin 3) → Steady (readFields i)
  | 0 => .pure red
  | 1 => Faithful.steady.bind fun level => .pure (gray level)
  | 2 => Faithful.steady.bind fun p : UInt16 × UInt16 => .pure (mix p.1 p.2)

theorem Shade.read_eq :
    (Wire.read : Bytes → Except WireError (Shade × Bytes)) = readAlternative readFields := by
  funext bytes
  refine bind_congr (x := readVariant 3 bytes) fun p => ?_
  obtain ⟨i, rest⟩ := p
  match i with
  | 0 | 1 | 2 => rfl

theorem Shade.read_append (i : Fin 3) (x rest : Bytes) :
    (Wire.read (leBytes 4 i ++ x ++ rest) : Except WireError (Shade × Bytes)) =
      readFields i (x ++ rest) := by
  rw [Shade.read_eq, List.append_assoc, readAlternative_append (by decide)]

instance : Faithful Shade where
  returns shade _ bytes written rest := by
    cases shade with
    | red =>
      obtain ⟨x, hx, rfl⟩ := of_encodeVariant (a := ()) written
      cases hx
      exact Shade.read_append 0 [] rest
    | gray level =>
      obtain ⟨x, hx, rfl⟩ := of_encodeVariant (a := level) written
      have fields := Faithful.returns level trivial x hx rest
      exact (Shade.read_append 1 x rest).trans (congrArg (· >>= _) fields)
    | mix n m =>
      obtain ⟨x, hx, rfl⟩ := of_encodeVariant (a := (n, m)) written
      have fits : Fits (n, m) := ⟨trivial, trivial⟩
      have fields := Faithful.returns (n, m) fits x hx rest
      exact (Shade.read_append 2 x rest).trans (congrArg (· >>= _) fields)
  steady := by
    rw [Shade.read_eq]
    exact .readAlternative Shade.steady_readFields

/-! ## Trees -/

namespace Tree

/-- Every node of the tree has less than 2^64 children. -/
inductive Fits : Tree → Prop
  | leaf (n : Int32) : Fits (.leaf n)
  | node {children : List Tree} (short : children.length < capacity 8)
      (each : ∀ t ∈ children, Fits t) : Fits (.node children)

theorem bytesAll_eq (ts : List Tree) : bytesAll ts = ts.flatMap bytes := by
  induction ts with
  | nil => rfl
  | cons t ts ih => rw [bytesAll, ih, List.flatMap_cons]

theorem length_bytes_le {t : Tree} {ts : List Tree} (h : t ∈ ts) :
    t.bytes.length ≤ (bytesAll ts).length := by
  rw [bytesAll_eq, List.flatMap_def]
  exact (List.sublist_flatten_of_mem (List.mem_map_of_mem h)).length_le

/-- The children of a node are written like any sequence. -/
theorem encodeAll_bytes (ts : List Tree) :
    encodeAll (fun t => .ok t.bytes) ts = .ok (bytesAll ts) := by
  induction ts with
  | nil => rfl
  | cons t ts ih =>
    change (encodeAll (fun t => .ok t.bytes) ts >>= fun xs => pure (t.bytes ++ xs)) = _
    rw [ih]
    rfl

/-- What is read behind the index of an alternative. -/
def readFields (height : Nat) : Fin 2 → Bytes → Except WireError (Tree × Bytes)
  | 0, bytes => Wire.read bytes >>= fun p : Int32 × Bytes => .ok (.leaf p.1, p.2)
  | 1, bytes => readCounted (readWithin height) bytes >>= fun p => .ok (.node p.1, p.2)

theorem readWithin_succ (height : Nat) :
    readWithin (height + 1) = readAlternative (readFields height) := by
  funext bytes
  refine bind_congr (x := readVariant 2 bytes) fun p => ?_
  obtain ⟨i, rest⟩ := p
  match i with
  | 0 | 1 => rfl

theorem readWithin_append (height : Nat) (i : Fin 2) (bytes : Bytes) :
    readWithin (height + 1) (leBytes 4 i ++ bytes) = readFields height i bytes := by
  rw [readWithin_succ, readAlternative_append (by decide)]

/-- A tree is read back if the bound on its height is above the number of its bytes. -/
theorem readWithin_bytes {t : Tree} (fits : t.Fits) {height : Nat}
    (bound : t.bytes.length < height) (rest : Bytes) :
    readWithin height (t.bytes ++ rest) = .ok (t, rest) := by
  induction fits generalizing height rest with
  | leaf n =>
    obtain _ | height := height
    · cases bound
    rw [bytes, List.append_assoc]
    refine (readWithin_append height 0 _).trans ?_
    exact congrArg (· >>= _) (Faithful.returns n trivial _ rfl rest)
  | @node children short _ ih =>
    obtain _ | height := height
    · cases bound
    rw [bytes, List.append_assoc, List.append_assoc]
    refine (readWithin_append height 1 _).trans ?_
    have lower : (bytesAll children).length < height := by
      rw [bytes, List.length_append, List.length_append, length_leBytes] at bound
      omega
    have written : encodeCounted (fun t => .ok t.bytes) children =
        .ok (leBytes 8 children.length ++ bytesAll children) := by
      unfold encodeCounted
      rw [encodeAll_bytes]
      rfl
    have child (t : Tree) (ht : t ∈ children) (rest : Bytes) :
        readWithin height (t.bytes ++ rest) = .ok (t, rest) :=
      ih t ht (Nat.lt_of_le_of_lt (length_bytes_le ht) lower) rest
    have elements := readCounted_encodeCounted short
      (fun t ht x hx rest => Except.ok.inj hx ▸ child t ht rest) written rest
    rw [List.append_assoc] at elements
    exact congrArg (· >>= _) elements

/-- What is read as a tree stands there as it is written, and its nodes can count their children. -/
theorem eq_of_readWithin {height : Nat} {bytes rest : Bytes} {t : Tree}
    (h : readWithin height bytes = .ok (t, rest)) : t.Fits ∧ bytes = t.bytes ++ rest := by
  induction height generalizing bytes rest t with
  | zero => cases h
  | succ height ih =>
    rw [readWithin_succ] at h
    obtain ⟨i, behind, rfl, fields⟩ := of_readAlternative h
    match i with
    | 0 =>
      obtain ⟨⟨n, left⟩, number, made⟩ := of_bind_eq_ok fields
      cases made
      obtain ⟨x, hx, rfl⟩ := canonical_int32 behind n left number
      cases hx
      exact ⟨.leaf n, by rw [Tree.bytes, List.append_assoc]; rfl⟩
    | 1 =>
      obtain ⟨⟨children, left⟩, sequence, made⟩ := of_bind_eq_ok fields
      cases made
      obtain ⟨⟨n, entries⟩, counted, elements⟩ := of_bind_eq_ok sequence
      obtain ⟨short, rfl⟩ := readWord_eq_ok_iff.1 counted
      obtain ⟨rfl, each, rfl⟩ := eq_of_readMany (fun _ _ _ => ih) elements
      refine ⟨.node short each, ?_⟩
      rw [Tree.bytes, bytesAll_eq, List.append_assoc, List.append_assoc]
      rfl

/-- **A tree is read exactly where its bytes stand.** -/
theorem read_eq_ok_iff {bytes rest : Bytes} {t : Tree} :
    Wire.read bytes = .ok (t, rest) ↔ t.Fits ∧ bytes = t.bytes ++ rest := by
  constructor
  · exact eq_of_readWithin
  · rintro ⟨fits, rfl⟩
    refine readWithin_bytes fits ?_ rest
    rw [List.length_append]
    omega

end Tree

instance : Measured Tree := ⟨Tree.Fits⟩

instance : Faithful Tree where
  returns t fits bytes written rest := by
    cases written
    exact Tree.read_eq_ok_iff.2 ⟨fits, rfl⟩
  steady bytes t rest hread tail := by
    obtain ⟨fits, rfl⟩ := Tree.read_eq_ok_iff.1 hread
    exact Tree.read_eq_ok_iff.2 ⟨fits, List.append_assoc t.bytes rest tail⟩

end Workbench

end Switchboard
