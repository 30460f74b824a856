import Mathlib.Data.List.Forall2
import Switchboard.Proofs.Framing
import Switchboard.Proofs.Wire.Canonical

/-!
# The grammar of the wire

A wire is read exactly if it is a row of blocks: two parts each behind its length, the first of them
beginning with a header. A header need not fill its part, so a wire can hold bytes that no frame
shows; where none does, writing the frames again gives the wire back.

Lengths tell where a block ends and nothing else does. So a stream that breaks off between two
frames is read as the frames before the break, and one that breaks off anywhere else is refused,
whatever the break leaves. And a part that is too long for its length cannot be read back.

Results:

* `FrameHeader.decode_eq_ok_iff`: a header is decoded from the bytes that begin with its own.
* `splitPart_eq_ok_iff`, `split_eq_ok_iff`, `decodeAll_eq_ok_iff`: what is taken off the wire as a
  part, as a frame, as a row of frames.
* `decodeAll_of_cut`: what is made of a stream that breaks off.
* `decodeAll_exact`: the grammar, the way back, and the breaks.
* `split_bytes_of_header`: of a body that is too long a part is taken, and the rest of it is read as
  if frames began there.
* `isFaithful_iff`: a frame that is written is read back if and only if both its parts are shorter
  than 2³² bytes. Frames that are longer are written all the same.
-/

namespace Switchboard

namespace FrameHeader

theorem canonical : Wire.IsCanonical FrameHeader := by
  unfold instWireFrameHeader
  exact Wire.canonical_via (fun _ => rfl)
    (Wire.canonical_pair Wire.canonical_string
      (Wire.canonical_pair Wire.canonical_uInt64 Wire.canonical_string))

/-- A header is decoded from the bytes that begin with its own. -/
theorem decode_eq_ok_iff {bytes : Bytes} {h : FrameHeader} (hfit : bytes.length < capacity 4) :
    Wire.decode bytes = .ok h ↔ ∃ written, Wire.encode h = .ok written ∧ written <+: bytes := by
  rw [Wire.decode_eq_ok_iff]
  constructor
  · rintro ⟨rest, hread⟩
    obtain ⟨written, hwritten, rfl⟩ := canonical bytes h rest hread
    exact ⟨written, hwritten, List.prefix_append written rest⟩
  · rintro ⟨written, hwritten, rest, rfl⟩
    refine ⟨rest, returns ?_ written hwritten rest⟩
    rw [encode_eq] at hwritten
    cases hwritten
    rw [List.length_append] at hfit
    omega

end FrameHeader

namespace Frame

/-! ## Blocks -/

/-- Two parts of the wire, short enough for their lengths. -/
structure Block where
  header : Bytes
  body : Bytes
  header_lt : header.length < capacity 4
  body_lt : body.length < capacity 4

/-- A block as it stands on the wire. -/
def Block.bytes (b : Block) : Bytes := part b.header ++ part b.body

/-- The block holds the frame: its first part begins with the header, its second is the body. -/
structure Block.Holds (b : Block) (f : Frame) : Prop where
  header : ∃ written, Wire.encode f.header = .ok written ∧ written <+: b.header
  body : b.body = f.body

/-- Nothing follows the header in its part. -/
def Block.IsFull (b : Block) : Prop := ∃ h : FrameHeader, Wire.encode h = .ok b.header

/-! ## What is taken off the wire -/

theorem splitPart_eq_ok_iff {wire bytes rest : Bytes} :
    splitPart wire = .ok (bytes, rest) ↔
      bytes.length < capacity 4 ∧ wire = part bytes ++ rest := by
  constructor
  · intro h
    unfold splitPart at h
    split at h
    · cases h
    · next length behind hlength =>
      obtain ⟨rfl, hfour⟩ := eq_of_splitExactly? hlength
      split at h
      · cases h
      · next p hp =>
        cases h
        obtain ⟨rfl, hbytes⟩ := eq_of_splitExactly? hp
        have hlt := leValue_lt_capacity length
        have hback := leBytes_leValue length
        rw [hfour] at hlt hback
        refine ⟨hbytes ▸ hlt, ?_⟩
        rw [part, hbytes, hback, List.append_assoc]
  · rintro ⟨hfit, rfl⟩
    exact splitPart_append hfit rest

/-- A part can only be missing. -/
theorem splitPart_error {wire : Bytes} {e : WireError} (h : splitPart wire = .error e) :
    e = .truncated := by
  unfold splitPart at h
  split at h
  · cases h
    rfl
  · split at h
    · cases h
      rfl
    · cases h

theorem split_eq_ok_iff {wire rest : Bytes} {f : Frame} :
    split wire = .ok (f, rest) ↔ ∃ b : Block, b.Holds f ∧ wire = b.bytes ++ rest := by
  constructor
  · intro h
    cases hheader : splitPart wire with
    | error e => simp [split, hheader, bind, Except.bind] at h
    | ok first =>
      obtain ⟨header, behind⟩ := first
      cases hbody : splitPart behind with
      | error e => simp [split, hheader, hbody, bind, Except.bind] at h
      | ok second =>
        obtain ⟨body, left⟩ := second
        rw [split_eq hheader hbody] at h
        cases hdecode : (Wire.decode header : Except WireError FrameHeader) with
        | error e =>
          rw [hdecode] at h
          cases h
        | ok decoded =>
          rw [hdecode] at h
          cases h
          obtain ⟨header_lt, rfl⟩ := splitPart_eq_ok_iff.1 hheader
          obtain ⟨body_lt, rfl⟩ := splitPart_eq_ok_iff.1 hbody
          refine ⟨⟨header, body, header_lt, body_lt⟩, ⟨?_, rfl⟩, ?_⟩
          · exact (FrameHeader.decode_eq_ok_iff header_lt).1 hdecode
          · exact (List.append_assoc (part header) (part body) rest).symm
  · rintro ⟨b, ⟨hheader, hbody⟩, rfl⟩
    obtain ⟨header, body⟩ := f
    obtain rfl : b.body = body := hbody
    have hfront : splitPart (b.bytes ++ rest) = .ok (b.header, part b.body ++ rest) := by
      rw [Block.bytes, List.append_assoc, splitPart_append b.header_lt]
    rw [split_eq hfront (splitPart_append b.body_lt rest),
      (FrameHeader.decode_eq_ok_iff b.header_lt).2 hheader]
    rfl

/-- **A wire is read exactly if it is a row of blocks**, as the frames that these hold. -/
theorem decodeAll_eq_ok_iff {wire : Bytes} {fs : List Frame} :
    decodeAll wire = .ok fs ↔
      ∃ blocks, List.Forall₂ Block.Holds blocks fs ∧ wire = blocks.flatMap Block.bytes := by
  constructor
  · intro h
    -- along the reader's own recursion: one block for each frame it takes
    fun_induction decodeAll wire generalizing fs with
    | case1 wire hempty =>
      cases h
      exact ⟨[], .nil, List.isEmpty_iff.1 hempty⟩
    | case2 wire _ e _ => cases h
    | case3 wire _ f rest hsplit ih =>
      cases hrest : decodeAll rest with
      | error e =>
        rw [hrest] at h
        cases h
      | ok gs =>
        rw [hrest] at h
        cases h
        obtain ⟨b, hb, rfl⟩ := split_eq_ok_iff.1 hsplit
        obtain ⟨blocks, hblocks, rfl⟩ := ih hrest
        exact ⟨b :: blocks, .cons hb hblocks, rfl⟩
  · rintro ⟨blocks, hblocks, rfl⟩
    induction hblocks with
    | nil => exact decodeAll_nil
    | @cons b f blocks fs hb _ ih =>
      rw [List.flatMap_cons, decodeAll_of_split (split_eq_ok_iff.2 ⟨b, hb, rfl⟩), ih]
      rfl

/-! ## Breaks -/

/-- A wire whose front is no frame is refused as this is. -/
theorem decodeAll_of_split_error {wire : Bytes} {e : WireError} (hne : wire ≠ [])
    (h : split wire = .error e) : decodeAll wire = .error e := by
  rw [decodeAll, if_neg fun hempty => hne (List.isEmpty_iff.1 hempty)]
  split
  · next e' herror =>
    rw [h] at herror
    cases herror
    rfl
  · next f rest hok =>
    rw [h] at hok
    cases hok

/-- A part that breaks off is missed: were one found in what is left of it, that one would be found
in the whole, and the whole would go on behind itself. -/
theorem splitPart_of_cut {bytes cut rest : Bytes} (hfit : bytes.length < capacity 4)
    (h : cut ++ rest = part bytes) (hne : rest ≠ []) : splitPart cut = .error .truncated := by
  cases hcut : splitPart cut with
  | error e => rw [splitPart_error hcut]
  | ok p =>
    obtain ⟨found, left⟩ := p
    obtain ⟨hfound, rfl⟩ := splitPart_eq_ok_iff.1 hcut
    have hone := splitPart_append hfound (left ++ rest)
    have hother := splitPart_append hfit []
    rw [← List.append_assoc, h] at hone
    rw [List.append_nil, hone] at hother
    obtain ⟨-, hnil⟩ := Prod.mk.inj (Except.ok.inj hother)
    exact absurd (List.append_eq_nil_iff.1 hnil).2 hne

/-- A frame that breaks off is missed, in whichever of its parts it does. -/
theorem split_of_cut {f : Frame} {cut rest : Bytes} (hfit : f.Fits) (h : cut ++ rest = f.bytes)
    (hne : rest ≠ []) : split cut = .error .truncated := by
  cases hheader : splitPart cut with
  | error e => simp [split, hheader, splitPart_error hheader, bind, Except.bind]
  | ok p =>
    obtain ⟨header, behind⟩ := p
    obtain ⟨hlt, rfl⟩ := splitPart_eq_ok_iff.1 hheader
    have hone := splitPart_append hlt (behind ++ rest)
    rw [← List.append_assoc, h, bytes, splitPart_append hfit.1] at hone
    obtain ⟨-, hbody⟩ := Prod.mk.inj (Except.ok.inj hone)
    have hmissed := splitPart_of_cut hfit.2 hbody.symm hne
    simp [split, hheader, hmissed, bind, Except.bind]

/-- **A stream that breaks off** does so behind some of its frames, or is refused. -/
theorem decodeAll_of_cut {fs : List Frame} (hfit : ∀ f ∈ fs, f.Fits) {cut rest : Bytes}
    (h : cut ++ rest = fs.flatMap bytes) :
    (∃ k, cut = (fs.take k).flatMap bytes) ∨ decodeAll cut = .error .truncated := by
  induction fs generalizing cut with
  | nil => exact .inl ⟨0, (List.append_eq_nil_iff.1 h).1⟩
  | cons f fs ih =>
    have hf := hfit f List.mem_cons_self
    rw [List.flatMap_cons] at h
    -- the break is in the first frame or behind it
    obtain ⟨left, hleft, -⟩ | ⟨more, rfl, hmore⟩ := List.append_eq_append_iff.1 h
    · by_cases hcut : cut = []
      · exact .inl ⟨0, hcut⟩
      by_cases hend : left = []
      · refine .inl ⟨1, ?_⟩
        rw [hend, List.append_nil] at hleft
        rw [← hleft, List.take_succ_cons, List.take_zero, List.flatMap_singleton]
      · exact .inr (decodeAll_of_split_error hcut (split_of_cut hf hleft.symm hend))
    · obtain ⟨k, rfl⟩ | herror := ih (fun g hg => hfit g (List.mem_cons_of_mem f hg)) hmore.symm
      · exact .inl ⟨k + 1, rfl⟩
      · refine .inr ?_
        rw [decodeAll_bytes hf, herror]
        rfl

/-! ## The way back -/

/-- A full block is written again as it stands. -/
theorem Block.bytes_eq {b : Block} {f : Frame} (hb : b.Holds f) (hfull : b.IsFull) :
    b.bytes = f.bytes := by
  obtain ⟨h, hwritten⟩ := hfull
  have hdecode := (FrameHeader.decode_eq_ok_iff b.header_lt).2 hb.header
  rw [(FrameHeader.decode_eq_ok_iff b.header_lt).2 ⟨_, hwritten, List.prefix_rfl⟩] at hdecode
  cases hdecode
  rw [FrameHeader.encode_eq] at hwritten
  rw [Block.bytes, Frame.bytes, Except.ok.inj hwritten, hb.body]

theorem flatMap_blocks_eq {blocks : List Block} {fs : List Frame}
    (h : List.Forall₂ Block.Holds blocks fs) (hfull : ∀ b ∈ blocks, b.IsFull) :
    blocks.flatMap Block.bytes = fs.flatMap bytes := by
  induction h with
  | nil => rfl
  | @cons b f blocks fs hb _ ih =>
    rw [List.flatMap_cons, List.flatMap_cons, Block.bytes_eq hb (hfull b List.mem_cons_self),
      ih fun c hc => hfull c (List.mem_cons_of_mem b hc)]

/-- A row of full blocks is what its frames are written as. -/
theorem mapM_encode_of_full {blocks : List Block} {fs : List Frame}
    (h : decodeAll (blocks.flatMap Block.bytes) = .ok fs) (hfull : ∀ b ∈ blocks, b.IsFull) :
    ∃ pieces, fs.mapM encode = .ok pieces ∧ pieces.flatten = blocks.flatMap Block.bytes := by
  -- the frames that were read are those of these blocks, since each block holds only one
  have hheld : ∃ gs, List.Forall₂ Block.Holds blocks gs := by
    clear h
    induction blocks with
    | nil => exact ⟨[], .nil⟩
    | cons b blocks ih =>
      obtain ⟨gs, hgs⟩ := ih fun c hc => hfull c (List.mem_cons_of_mem b hc)
      obtain ⟨header, hwritten⟩ := hfull b List.mem_cons_self
      exact ⟨⟨header, b.body⟩ :: gs, .cons ⟨⟨_, hwritten, List.prefix_rfl⟩, rfl⟩ hgs⟩
  obtain ⟨gs, hgs⟩ := hheld
  rw [decodeAll_eq_ok_iff.2 ⟨blocks, hgs, rfl⟩] at h
  obtain rfl := Except.ok.inj h
  refine ⟨gs.map bytes, mapM_encode gs, ?_⟩
  rw [flatMap_blocks_eq hgs hfull, List.flatMap_def]

/-! ## The grammar -/

/-- **The reader accepts its grammar and nothing else.** It reads a wire exactly if this is a row of
blocks whose first parts begin with a header, and reads it as these headers with the second parts.
If nothing follows the headers in their parts, the frames are written again as that wire. And where
a stream of frames that were written, each part shorter than 2³² bytes, breaks off between two of
them, it reads the frames before the break; where it breaks off anywhere else, it fails for the
frame that is cut. -/
theorem decodeAll_exact :
    (∀ wire fs, decodeAll wire = .ok fs ↔
      ∃ blocks : List Block,
        List.Forall₂ Block.Holds blocks fs ∧ wire = blocks.flatMap Block.bytes) ∧
    (∀ (blocks : List Block) fs, decodeAll (blocks.flatMap Block.bytes) = .ok fs →
      (∀ b ∈ blocks, b.IsFull) →
      ∃ pieces, fs.mapM encode = .ok pieces ∧ pieces.flatten = blocks.flatMap Block.bytes) ∧
    (∀ fs : List Frame,
      (∀ f ∈ fs, ∀ header, Wire.encode f.header = .ok header → header.length < capacity 4) →
      (∀ f ∈ fs, f.body.length < capacity 4) →
      ∃ pieces, fs.mapM encode = .ok pieces ∧ ∀ cut rest, cut ++ rest = pieces.flatten →
        (∀ k, cut = (pieces.take k).flatten → decodeAll cut = .ok (fs.take k)) ∧
        ((∀ k, cut ≠ (pieces.take k).flatten) → decodeAll cut = .error .truncated)) ∧
    WireError.truncated.message = "truncated frame" := by
  refine ⟨fun wire fs => decodeAll_eq_ok_iff, fun blocks fs => mapM_encode_of_full, ?_, rfl⟩
  intro fs hheader hbody
  have hfit : ∀ f ∈ fs, f.Fits := fun f hf => fits_of_encode (hheader f hf) (hbody f hf)
  have hfront : ∀ k, ((fs.map bytes).take k).flatten = (fs.take k).flatMap bytes := fun k => by
    rw [← List.map_take, List.flatMap_def]
  refine ⟨fs.map bytes, mapM_encode fs, fun cut rest hcut => ⟨?_, ?_⟩⟩
  · rintro k rfl
    rw [hfront]
    exact decodeAll_frames fun f hf => hfit f (List.mem_of_mem_take hf)
  · intro hbreak
    rw [← List.flatMap_def] at hcut
    obtain ⟨k, hk⟩ | herror := decodeAll_of_cut hfit hcut
    · exact absurd (hk.trans (hfront k).symm) (hbreak k)
    · exact herror

/-- Two frames, whole and broken off in the length of the second. -/
theorem decodeAll_exact_samples :
    ∃ first second, sampleFrames.mapM encode = .ok [first, second] ∧
      decodeAll first = .ok (sampleFrames.take 1) ∧
      decodeAll (first ++ second.take 2) = .error .truncated := by
  have hfit : ∀ f ∈ sampleFrames, f.Fits := by decide
  obtain ⟨pieces, hpieces, hcut⟩ := decodeAll_exact.2.2.1 sampleFrames
    (fun f hf _ hheader => (hfit f hf).length_lt_of_encode hheader) fun f hf => (hfit f hf).2
  rw [mapM_encode] at hpieces
  obtain rfl := Except.ok.inj hpieces
  refine ⟨_, _, mapM_encode sampleFrames, ?_, ?_⟩
  · exact (hcut _ _ List.flatten_cons.symm).1 1 (List.append_nil _).symm
  · refine (hcut _ (bytes ⟨⟨"", 18446744073709551615, "✗"⟩, []⟩ |>.drop 2) (by decide)).2 ?_
    -- the break is behind none, one or both of the frames
    rintro (_ | _ | k)
    · decide
    · decide
    · have hall : (sampleFrames.map bytes).take (k + 2) = sampleFrames.map bytes :=
        List.take_of_length_le (Nat.le_add_left 2 k)
      rw [hall]
      decide

/-! ## Parts that are too long -/

theorem capacity_four : capacity 4 = 4294967296 := by rfl

/-- Of a number that does not fit, its low bytes are read. -/
theorem leValue_leBytes_mod (k n : Nat) : leValue (leBytes k n) = n % capacity k := by
  induction k generalizing n with
  | zero => exact (Nat.mod_one n).symm
  | succ k ih =>
    have hlow : (UInt8.ofNat (n % 256)).toNat = n % 256 := by
      simp [UInt8.toNat_ofNat']
    rw [leBytes, leValue, ih, hlow, capacity, Nat.mod_mul]

/-- Of a part the reader takes as much as the low bytes of its length say, and goes on behind
that. -/
theorem splitPart_part (bytes rest : Bytes) :
    splitPart (part bytes ++ rest) = .ok (bytes.take (bytes.length % capacity 4),
      bytes.drop (bytes.length % capacity 4) ++ rest) := by
  have hle : bytes.length % capacity 4 ≤ bytes.length := Nat.mod_le _ _
  have hlength := splitExactly?_append (leBytes 4 bytes.length) (bytes ++ rest)
  have hbytes := splitExactly?_append (bytes.take (bytes.length % capacity 4))
    (bytes.drop (bytes.length % capacity 4) ++ rest)
  rw [length_leBytes] at hlength
  rw [List.length_take_of_le hle, ← List.append_assoc, List.take_append_drop] at hbytes
  unfold splitPart
  rw [part, List.append_assoc, hlength]
  dsimp only
  rw [leValue_leBytes_mod, hbytes]

/-- Of a frame whose header fits the reader takes a part of the body, and goes on in the middle of
it. -/
theorem split_bytes_of_header {f : Frame} (hheader : f.header.bytes.length < capacity 4)
    (rest : Bytes) :
    split (f.bytes ++ rest) = .ok (⟨f.header, f.body.take (f.body.length % capacity 4)⟩,
      f.body.drop (f.body.length % capacity 4) ++ rest) := by
  have hdecode : Wire.decode f.header.bytes = .ok f.header :=
    (FrameHeader.returns hheader).decode f.header.encode_eq
  have hfront : splitPart (f.bytes ++ rest) = .ok (f.header.bytes, part f.body ++ rest) := by
    rw [bytes, List.append_assoc, splitPart_append hheader]
  rw [split_eq hfront (splitPart_part f.body rest), hdecode]
  rfl

/-- The frame is read back from what it is written as, if it is written. -/
def IsFaithful (f : Frame) : Prop := ∀ written, f.encode = .ok written → decodeAll written = .ok [f]

theorem isFaithful_of_fits {f : Frame} (hfit : f.Fits) : f.IsFaithful := by
  intro written hwritten
  rw [encode_eq] at hwritten
  cases hwritten
  have h := decodeAll_bytes hfit []
  rw [List.append_nil, decodeAll_nil] at h
  exact h

/-- The block that such a frame is read back from is one of the grammar. -/
theorem fits_of_isFaithful {f : Frame} (h : f.IsFaithful) : f.Fits := by
  obtain ⟨blocks, hblocks, -⟩ := decodeAll_eq_ok_iff.1 (h f.bytes f.encode_eq)
  cases hblocks with
  | @cons b _ _ _ hb _ =>
    obtain ⟨written, hwritten, hfront⟩ := hb.header
    rw [FrameHeader.encode_eq] at hwritten
    cases hwritten
    exact ⟨Nat.lt_of_le_of_lt hfront.length_le b.header_lt, hb.body ▸ b.body_lt⟩

/-- **A frame is faithful if and only if its length fields can hold its lengths.** Every frame is
written, whatever its lengths; it is read back, alone and as it is, exactly if its header takes
less than 2³² bytes and so does its body. -/
theorem isFaithful_iff (f : Frame) :
    ∃ header, Wire.encode f.header = .ok header ∧
      (∃ written, f.encode = .ok written) ∧
      (f.IsFaithful ↔ header.length < 4294967296 ∧ f.body.length < 4294967296) :=
  ⟨f.header.bytes, f.header.encode_eq, ⟨f.bytes, f.encode_eq⟩,
    fits_of_isFaithful, isFaithful_of_fits⟩

/-- A body that is one byte too long for its length. -/
def longBody : Bytes := List.replicate 4294967296 0

/-- Noughts are no frame: they begin with a part that has no bytes, and every header has some. -/
theorem decodeAll_replicate_zero {n : Nat} (h : 8 ≤ n) :
    decodeAll (List.replicate n 0) = .error .endOfInput := by
  obtain ⟨m, rfl⟩ := Nat.exists_eq_add_of_le h
  rw [← List.replicate_append_replicate]
  exact decodeAll_of_split_error (List.cons_ne_nil _ _) rfl

theorem length_longBody : longBody.length = 4294967296 := List.length_replicate

theorem decodeAll_longBody : decodeAll longBody = .error .endOfInput :=
  decodeAll_replicate_zero (by decide)

/-- The frame of this body and of the shortest header. -/
def longFrame : Frame := ⟨⟨"", 0, ""⟩, longBody⟩

/-- The length of its body is written as nought, so the body is read as frames of its own. -/
theorem not_isFaithful_longFrame :
    (∃ written, longFrame.encode = .ok written ∧ decodeAll written = .error .endOfInput) ∧
      ¬longFrame.IsFaithful := by
  have hheader : longFrame.header.bytes.length < capacity 4 := by decide
  have hbody : longFrame.body = longBody := rfl
  have hlength : longFrame.body.length % capacity 4 = 0 := by
    rw [hbody, length_longBody, capacity_four, Nat.mod_self]
  have hsplit := split_bytes_of_header hheader []
  rw [hlength, List.drop_zero, List.append_nil, List.append_nil] at hsplit
  have hwire : decodeAll longFrame.bytes = .error .endOfInput := by
    rw [decodeAll_of_split hsplit, hbody, decodeAll_longBody]
    rfl
  refine ⟨⟨longFrame.bytes, longFrame.encode_eq, hwire⟩, fun hfaithful => ?_⟩
  have h := hfaithful longFrame.bytes longFrame.encode_eq
  rw [hwire] at h
  cases h

end Frame

end Switchboard
