import Switchboard.Frame
import Switchboard.Proofs.Wire.RoundTrip

/-!
# Frames on a stream

A frame announces the length of each of its two parts in 32 bits. `Frame.Fits` says that both
lengths fit; of such a frame the reader takes exactly its bytes, whatever follows it.

Results:

* `encode_eq`: every frame can be written. A header is two texts and a number, which always have
  bytes.
* `split_bytes`: the reader takes the frame in front and leaves what follows it.
* `decodeAll_flatMap`: a stream of frames that fit is read back frame by frame, and behind them the
  reader goes on with what follows.
* `decodeAll_encoded`: the same of what `Frame.encode` writes.
-/

namespace Switchboard

/-- The bytes of a header: its address, its sequence number, its error. -/
def FrameHeader.bytes (h : FrameHeader) : Bytes :=
  textBytes h.address ++ (leBytes 8 h.seq.toNat ++ textBytes h.error)

namespace FrameHeader

theorem encode_eq (h : FrameHeader) : Wire.encode h = .ok h.bytes :=
  Wire.encode_pair (Wire.encode_string h.address)
    (Wire.encode_pair (Wire.encode_uInt64 h.seq) (Wire.encode_string h.error))

/-- A header is longer than each of its texts. -/
theorem length_texts_le (h : FrameHeader) :
    (Utf8.encode h.address.toList).length ≤ h.bytes.length ∧
      (Utf8.encode h.error.toList).length ≤ h.bytes.length := by
  unfold bytes
  rw [List.length_append, List.length_append, length_textBytes, length_textBytes]
  omega

theorem returns {h : FrameHeader} (hfit : h.bytes.length < capacity 4) : Wire.Returns h := by
  obtain ⟨ha, he⟩ := h.length_texts_le
  have hwide : capacity 4 ≤ capacity 8 := by decide
  have hfields : Wire.Returns (h.address, h.seq, h.error) := by
    refine Wire.returns_pair ?_ (Wire.returns_pair ?_ ?_)
    · exact Wire.returns_string (by omega)
    · exact Wire.returns_uInt64 h.seq
    · exact Wire.returns_string (by omega)
  unfold instWireFrameHeader
  exact Wire.returns_via rfl hfields

end FrameHeader

namespace Frame

/-- What stands on the wire for a frame. -/
def bytes (f : Frame) : Bytes := part f.header.bytes ++ part f.body

/-- Both parts are short enough for a length of 32 bits. -/
def Fits (f : Frame) : Prop := f.header.bytes.length < capacity 4 ∧ f.body.length < capacity 4

instance (f : Frame) : Decidable f.Fits :=
  inferInstanceAs (Decidable (f.header.bytes.length < capacity 4 ∧ f.body.length < capacity 4))

/-- Every frame can be written. -/
theorem encode_eq (f : Frame) : f.encode = .ok f.bytes := by
  unfold encode
  rw [FrameHeader.encode_eq]
  rfl

/-- Where both parts are found, the first is read as a header. -/
theorem split_eq {wire header behind body rest : Bytes}
    (hheader : splitPart wire = .ok (header, behind))
    (hbody : splitPart behind = .ok (body, rest)) :
    split wire = (Wire.decode header).map fun h => (⟨h, body⟩, rest) := by
  unfold split
  rw [hheader]
  change (splitPart behind >>= fun p : Bytes × Bytes =>
    Wire.decode header >>= fun h => pure ((⟨h, p.1⟩ : Frame), p.2)) = _
  rw [hbody]
  cases (Wire.decode header : Except WireError FrameHeader) <;> rfl

/-- The reader takes the frame in front and leaves what follows it. -/
theorem split_bytes {f : Frame} (hfit : f.Fits) (rest : Bytes) :
    split (f.bytes ++ rest) = .ok (f, rest) := by
  obtain ⟨hheader, hbody⟩ := hfit
  have hdecode : Wire.decode f.header.bytes = .ok f.header :=
    (FrameHeader.returns hheader).decode f.header.encode_eq
  have hfront : splitPart (f.bytes ++ rest) = .ok (f.header.bytes, part f.body ++ rest) := by
    rw [bytes, List.append_assoc, splitPart_append hheader]
  rw [split_eq hfront (splitPart_append hbody rest), hdecode]
  rfl

theorem decodeAll_nil : decodeAll [] = .ok [] := by
  rw [decodeAll, if_pos (by rfl)]

/-- A frame that the reader takes comes in front of what it makes of the rest. -/
theorem decodeAll_of_split {wire rest : Bytes} {f : Frame} (h : split wire = .ok (f, rest)) :
    decodeAll wire = (decodeAll rest).map (f :: ·) := by
  have hne : ¬wire.isEmpty = true := by
    intro hempty
    have hlen := length_of_split h
    rw [List.isEmpty_iff.1 hempty] at hlen
    exact Nat.not_lt_zero _ hlen
  rw [decodeAll, if_neg hne]
  split
  · next e herror =>
    rw [h] at herror
    cases herror
  · next g r hok =>
    rw [h] at hok
    cases hok
    rfl

theorem decodeAll_bytes {f : Frame} (hfit : f.Fits) (rest : Bytes) :
    decodeAll (f.bytes ++ rest) = (decodeAll rest).map (f :: ·) :=
  decodeAll_of_split (split_bytes hfit rest)

/-- **A stream of frames is read back frame by frame**, and behind them the reader goes on with
what follows: its frames come after these, and its failure is the failure of the whole. -/
theorem decodeAll_flatMap {fs : List Frame} (hfit : ∀ f ∈ fs, f.Fits) (rest : Bytes) :
    decodeAll (fs.flatMap bytes ++ rest) = (decodeAll rest).map (fs ++ ·) := by
  induction fs with
  | nil =>
    rw [List.flatMap_nil, List.nil_append]
    cases decodeAll rest <;> rfl
  | cons f fs ih =>
    rw [List.flatMap_cons, List.append_assoc, decodeAll_bytes (hfit f List.mem_cons_self),
      ih fun g hg => hfit g (List.mem_cons_of_mem f hg)]
    cases decodeAll rest <;> rfl

/-- A stream of nothing but frames is read back. -/
theorem decodeAll_frames {fs : List Frame} (hfit : ∀ f ∈ fs, f.Fits) :
    decodeAll (fs.flatMap bytes) = .ok fs := by
  have h := decodeAll_flatMap hfit []
  rw [List.append_nil, decodeAll_nil] at h
  rw [h]
  exact congrArg Except.ok (List.append_nil fs)

theorem mapM_encode (fs : List Frame) : fs.mapM encode = .ok (fs.map bytes) := by
  induction fs with
  | nil => rfl
  | cons f fs ih =>
    rw [List.mapM_cons, encode_eq, ih]
    rfl

/-- A frame fits if its header, once it is written, and its body do. -/
theorem fits_of_encode {f : Frame}
    (hheader : ∀ header, Wire.encode f.header = .ok header → header.length < capacity 4)
    (hbody : f.body.length < capacity 4) : f.Fits :=
  ⟨hheader f.header.bytes f.header.encode_eq, hbody⟩

theorem Fits.length_lt_of_encode {f : Frame} (hfit : f.Fits) {header : Bytes}
    (hheader : Wire.encode f.header = .ok header) : header.length < capacity 4 := by
  rw [FrameHeader.encode_eq] at hheader
  cases hheader
  exact hfit.1

/-- **What is written frame by frame is read back frame by frame.** Any headers and bodies can be
written. If each is shorter than the 2³² bytes that a length can tell, the reader makes these frames
of what was written, and after them those of any bytes behind it; and it fails as it fails on those
bytes. -/
theorem decodeAll_encoded (fs : List Frame) (rest : Bytes)
    (hheader : ∀ f ∈ fs, ∀ header, Wire.encode f.header = .ok header → header.length < capacity 4)
    (hbody : ∀ f ∈ fs, f.body.length < capacity 4) :
    ∃ pieces, fs.mapM encode = .ok pieces ∧
      (∀ gs, decodeAll rest = .ok gs → decodeAll (pieces.flatten ++ rest) = .ok (fs ++ gs)) ∧
      ∀ e, decodeAll rest = .error e → decodeAll (pieces.flatten ++ rest) = .error e := by
  have hfit : ∀ f ∈ fs, f.Fits := fun f hf => fits_of_encode (hheader f hf) (hbody f hf)
  have hread := decodeAll_flatMap hfit rest
  rw [List.flatMap_def] at hread
  refine ⟨fs.map bytes, mapM_encode fs, ?_, ?_⟩
  · intro gs hgs
    rw [hread, hgs]
    rfl
  · intro e he
    rw [hread, he]
    rfl

/-- Two frames, the second without a body and with the largest number. -/
def sampleFrames : List Frame :=
  [⟨⟨"Math.Añadir", 7, ""⟩, [1, 0]⟩, ⟨⟨"", 18446744073709551615, "✗"⟩, []⟩]

/-- Behind them stands a frame that breaks off. -/
theorem decodeAll_encoded_truncated :
    ∃ pieces, sampleFrames.mapM encode = .ok pieces ∧
      decodeAll (pieces.flatten ++ [3, 0, 0, 0, 9]) = .error .truncated := by
  have hfit : ∀ f ∈ sampleFrames, f.Fits := by decide
  have hheader : ∀ f ∈ sampleFrames, ∀ header, Wire.encode f.header = .ok header →
      header.length < capacity 4 := by
    intro f hf header hheader
    rw [FrameHeader.encode_eq] at hheader
    cases hheader
    exact (hfit f hf).1
  obtain ⟨pieces, hpieces, -, hfails⟩ :=
    decodeAll_encoded sampleFrames [3, 0, 0, 0, 9] hheader fun f hf => (hfit f hf).2
  refine ⟨pieces, hpieces, hfails .truncated ?_⟩
  rw [decodeAll]
  rfl

end Frame

end Switchboard
