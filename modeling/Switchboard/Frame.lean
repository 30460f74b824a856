import Switchboard.Wire.Format

/-!
# Frames

A response on the wire is a frame: the length of the header as a 32-bit number, the header, the
length of the body as a 32-bit number, the body. The header is the request's address and sequence
number and the text of the error, empty if there is none.

`Frame.encode` writes a frame, `Frame.decodeAll` reads a wire full of them. Lengths are 32-bit
words: a part that is longer than that is announced by the low bits of its length.

Results: `splitPart_append` (a part is found behind its own length), `length_of_splitPart` (a part
takes at least its length field), on which `decodeAll` recurses.
-/

namespace Switchboard

/-- What a frame says of its response. -/
structure FrameHeader where
  /-- The address of the request. -/
  address : String
  seq : UInt64
  /-- The text of the error, empty if there is none. -/
  error : String
  deriving DecidableEq, Repr

/-- One response. -/
structure Frame where
  header : FrameHeader
  /-- The encoded reply, empty if there is an error. -/
  body : Bytes
  deriving DecidableEq, Repr

instance : Wire FrameHeader :=
  Wire.via (fun h => (h.address, h.seq, h.error)) fun (address, seq, error) => ⟨address, seq, error⟩

namespace Frame

/-- A part behind its length. -/
def part (bytes : Bytes) : Bytes := leBytes 4 bytes.length ++ bytes

/-- The bytes of a frame. -/
def encode (f : Frame) : Except WireError Bytes := do
  let header ← Wire.encode f.header
  pure (part header ++ part f.body)

/-- Takes a part off the front of the wire. -/
def splitPart (wire : Bytes) : Except WireError (Bytes × Bytes) :=
  match splitExactly? 4 wire with
  | none => .error .truncated
  | some (length, rest) =>
    match splitExactly? (leValue length) rest with
    | none => .error .truncated
    | some p => .ok p

/-- A part that is not too long is found behind its length. -/
theorem splitPart_append {bytes : Bytes} (h : bytes.length < capacity 4) (rest : Bytes) :
    splitPart (part bytes ++ rest) = .ok (bytes, rest) := by
  have h4 := splitExactly?_append (leBytes 4 bytes.length) (bytes ++ rest)
  rw [length_leBytes] at h4
  simp [splitPart, part, List.append_assoc, h4, leValue_leBytes (k := 4) (n := bytes.length) h,
    splitExactly?_append]

/-- What is left behind a part is shorter than the wire. -/
theorem length_of_splitPart {wire bytes rest : Bytes} (h : splitPart wire = .ok (bytes, rest)) :
    rest.length < wire.length := by
  unfold splitPart at h
  split at h
  · cases h
  · rename_i length rest' h4
    obtain ⟨rfl, hl⟩ := eq_of_splitExactly? h4
    split at h
    · cases h
    · rename_i p hp
      cases h
      obtain ⟨rfl, -⟩ := eq_of_splitExactly? hp
      simp only [List.length_append]
      omega

/-- Takes a frame off the front of the wire. The parts are told apart before the header is read. -/
def split (wire : Bytes) : Except WireError (Frame × Bytes) := do
  let (header, rest) ← splitPart wire
  let (body, rest) ← splitPart rest
  let header ← Wire.decode header
  pure (⟨header, body⟩, rest)

/-- What is left behind a frame is shorter than the wire. -/
theorem length_of_split {wire rest : Bytes} {f : Frame} (h : split wire = .ok (f, rest)) :
    rest.length < wire.length := by
  unfold split at h
  cases h1 : splitPart wire with
  | error e => simp [h1, bind, Except.bind] at h
  | ok p =>
    obtain ⟨header, r1⟩ := p
    cases h2 : splitPart r1 with
    | error e => simp [h1, h2, bind, Except.bind] at h
    | ok q =>
      obtain ⟨body, r2⟩ := q
      cases h3 : (Wire.decode header : Except WireError FrameHeader) with
      | error e => simp [h1, h2, h3, bind, Except.bind] at h
      | ok hd =>
        simp only [h1, h2, h3, bind, Except.bind, pure, Except.pure, Except.ok.injEq,
          Prod.mk.injEq] at h
        obtain ⟨-, rfl⟩ := h
        exact Nat.lt_trans (length_of_splitPart h2) (length_of_splitPart h1)

/-- Reads every frame of a wire. -/
def decodeAll (wire : Bytes) : Except WireError (List Frame) :=
  if wire.isEmpty then .ok []
  else
    match _h : split wire with
    | .error e => .error e
    | .ok (f, rest) => (decodeAll rest).map (f :: ·)
termination_by wire.length
decreasing_by exact length_of_split _h

end Frame

end Switchboard
