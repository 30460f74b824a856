import Switchboard.Holder
import Switchboard.Proofs.Message.Formats

/-!
# Holders carry values

A reply holder writes its value, and an argument holder of the same type reads it. For every type of
the workbench, what the one held is then held by the other, whatever bytes come behind; only a pending
table is left behind. If the bytes break off anywhere, the argument holder refuses them by the name of
its type and keeps what it had.

The value has to fit its lengths, and that is all. Its type may be nested or recursive, the factory of
the argument holder may be of any kind, and the holder may have held other values before.

Results:

* `MessageType.carries`: every sample type loses at most a pending table on the wire.
* `Argument.takes_of_read`: a holder takes bytes that its type reads to their end.
* `Factory.takes_encoded`: what a reply is encoded as is taken by the holders of every factory for its
  type. The entries of a tally, which have no order of their own, may be written in any.
-/

namespace Switchboard

/-! ## Decoding into a holder -/

namespace Argument

variable {ι : Type} [MessageFamily ι]

/-- The holder after an attempt to decode. -/
def refill (a : Argument ι) (bytes : Bytes) : Argument ι :=
  match a.decode bytes with
  | .ok filled => filled
  | .error _ => a

/-- The bytes stand for `h`: they put it into the holder, whatever follows them. Less of them is
refused by the name of the type, and the holder stays as it is. -/
structure Takes (a : Argument ι) (bytes : Bytes) (h : Held ι) : Prop where
  whole (tail : Bytes) : a.decode (bytes ++ tail) = .ok { a with held := h }
  cut (front : Bytes) : front <+: bytes → front ≠ bytes →
    ∃ cause, a.decode front = .error (.decode a.typeName cause) ∧ a.refill front = a

theorem refill_of_error {a : Argument ι} {bytes : Bytes} {e : HolderError}
    (h : a.decode bytes = .error e) : a.refill bytes = a := by
  unfold refill
  rw [h]

/-- A holder takes bytes that its type reads to their end. -/
theorem takes_of_read {a : Argument ι} {bytes : Bytes} {v : a.declared.Carrier}
    (steady : Steady (Wire.read (α := a.declared.Carrier)))
    (h : ∀ rest, Wire.read (bytes ++ rest) = .ok (v, rest)) : a.Takes bytes ⟨a.declared, v⟩ where
  whole tail := by
    have hvalue : a.declared.decode (bytes ++ tail) = .ok v :=
      Wire.decode_eq_ok_iff.2 ⟨tail, h tail⟩
    unfold decode
    rw [hvalue]
  cut front before short := by
    obtain ⟨back, rfl⟩ := before
    have cut : back ≠ [] := fun none => short (by rw [none, List.append_nil])
    have full : Wire.read (front ++ back) = .ok (v, []) := by
      simpa only [List.append_nil] using h []
    obtain ⟨cause, failed⟩ := steady.error_of_cut full cut
    have hvalue : a.declared.decode front = .error cause := by
      unfold MessageType.decode Wire.decode
      rw [failed]
      rfl
    have refused : a.decode front = .error (.decode a.typeName cause) := by
      unfold decode
      rw [hvalue]
    exact ⟨cause, refused, refill_of_error refused⟩

end Argument

/-- A holder that the factory made, with what it holds now. -/
def Factory.holding {ι : Type} [MessageFamily ι] (f : Factory ι) (now : Held ι) : Argument ι :=
  { f.makeArgument with held := now }

/-- The holders of a factory take what its argument type reads. -/
theorem Factory.takes_of_read {ι : Type} [MessageFamily ι] (f : Factory ι) {h : Held ι}
    (type : f.argument = h.type) (now : Held ι) {bytes : Bytes}
    (steady : Steady (Wire.read (α := h.type.Carrier))) {v : h.type.Carrier}
    (hread : ∀ rest, Wire.read (bytes ++ rest) = .ok (v, rest)) :
    (f.holding now).Takes bytes ⟨h.type, v⟩ := by
  obtain ⟨argument, reply, passing, slotted⟩ := f
  cases type
  cases passing with
  | pointer | value | privileged => exact Argument.takes_of_read steady hread

/-- A reply holder of a value is encoded as the value is written. -/
theorem Reply.of_encode {ι : Type} [MessageFamily ι] {h : Held ι} {bytes : Bytes}
    (written : (Reply.ofHeld h).encode = .ok bytes) : h.type.encode h.value = .ok bytes := by
  unfold encode ofHeld at written
  dsimp only at written
  rw [Held.as?_self] at written
  dsimp only at written
  split at written
  · next x hx =>
    cases written
    exact hx
  · cases written

namespace Workbench

open Wire

/-! ## The sample types -/

/-- The lengths of the values of each sample type. -/
@[reducible] def Sample.measured : (s : Sample) → Measured s.Carrier
  | u8 => inferInstanceAs (Measured UInt8)
  | i8 => inferInstanceAs (Measured Int8)
  | u16 => inferInstanceAs (Measured UInt16)
  | u32 => inferInstanceAs (Measured UInt32)
  | i32 => inferInstanceAs (Measured Int32)
  | u64 => inferInstanceAs (Measured UInt64)
  | i64 => inferInstanceAs (Measured Int64)
  | char => inferInstanceAs (Measured Char)
  | text => inferInstanceAs (Measured String)
  | bytes => inferInstanceAs (Measured (List UInt8))
  | numbers => inferInstanceAs (Measured (List Int64))
  | texts => inferInstanceAs (Measured (List String))
  | optU32 => inferInstanceAs (Measured (Option UInt32))
  | optOptBool => inferInstanceAs (Measured (Option (Option Bool)))
  | triple => inferInstanceAs (Measured (UInt8 × String × Bool))
  | array => inferInstanceAs (Measured (Vector UInt16 3))
  | mapU32 => inferInstanceAs (Measured (KeyMap UInt32 UInt32))
  | mapText => inferInstanceAs (Measured (KeyMap String Int64))
  | tally => inferInstanceAs (Measured Tally)
  | pair => inferInstanceAs (Measured Pair)
  | hidden => inferInstanceAs (Measured Hidden)
  | wrapped => inferInstanceAs (Measured Wrapped)
  | optHidden => inferInstanceAs (Measured (Option Hidden))
  | hiddens => inferInstanceAs (Measured (List Hidden))
  | fillArgs => inferInstanceAs (Measured FillArgs)
  | holdArgs => inferInstanceAs (Measured HoldArgs)
  | person => inferInstanceAs (Measured Person)
  | shade => inferInstanceAs (Measured Shade)
  | tree => inferInstanceAs (Measured Tree)
  | unlucky => inferInstanceAs (Measured Unlucky)
  | probeArgs => inferInstanceAs (Measured ProbeArgs)
  | probeReply => inferInstanceAs (Measured ProbeReply)

end Workbench

namespace MessageType

open Wire Workbench

instance measured : (t : MessageType Sample) → Measured t.Carrier
  | unit => inferInstanceAs (Measured Unit)
  | bool => inferInstanceAs (Measured Bool)
  | cancelArgs => inferInstanceAs (Measured CancelArgs)
  | user s => s.measured

/-- The value without a pending table. -/
def bare : (t : MessageType Sample) → t.Carrier → t.Carrier
  | cancelArgs => fun (a : CancelArgs) => { a with pending := none }
  | user .probeArgs => fun (a : ProbeArgs) => ({ a with pending := none } : ProbeArgs)
  | _ => id

theorem carries_user : (s : Sample) → Carries (user s).Carrier (user s).bare
  | .u8 => Faithful.carries UInt8
  | .i8 => Faithful.carries Int8
  | .u16 => Faithful.carries UInt16
  | .u32 => Faithful.carries UInt32
  | .i32 => Faithful.carries Int32
  | .u64 => Faithful.carries UInt64
  | .i64 => Faithful.carries Int64
  | .char => Faithful.carries Char
  | .text => Faithful.carries String
  | .bytes => Faithful.carries (List UInt8)
  | .numbers => Faithful.carries (List Int64)
  | .texts => Faithful.carries (List String)
  | .optU32 => Faithful.carries (Option UInt32)
  | .optOptBool => Faithful.carries (Option (Option Bool))
  | .triple => Faithful.carries (UInt8 × String × Bool)
  | .array => Faithful.carries (Vector UInt16 3)
  | .mapU32 => Faithful.carries (KeyMap UInt32 UInt32)
  | .mapText => Faithful.carries (KeyMap String Int64)
  | .tally => Faithful.carries Tally
  | .pair => Faithful.carries Pair
  | .hidden => Faithful.carries Hidden
  | .wrapped => Faithful.carries Wrapped
  | .optHidden => Faithful.carries (Option Hidden)
  | .hiddens => Faithful.carries (List Hidden)
  | .fillArgs => Faithful.carries FillArgs
  | .holdArgs => Faithful.carries HoldArgs
  | .person => Faithful.carries Person
  | .shade => Faithful.carries Shade
  | .tree => Faithful.carries Tree
  | .unlucky => Faithful.carries Unlucky
  | .probeArgs => carries_via (fun a : ProbeArgs => (a.seq, a.cancel)) fun p => ⟨p.1, p.2, none⟩
  | .probeReply => Faithful.carries ProbeReply

/-- **Every sample type loses at most a pending table on the wire.** -/
theorem carries : (t : MessageType Sample) → Carries t.Carrier t.bare
  | unit => Faithful.carries Unit
  | bool => Faithful.carries Bool
  | cancelArgs => carries_via CancelArgs.seq fun seq => ⟨seq, none⟩
  | user s => carries_user s

end MessageType

namespace Held

open Workbench

/-- Every length in the value fits the 64 bits it is written in. -/
def Fits (h : Held Sample) : Prop := Measured.Fits h.value

/-- The held value without a pending table. -/
def bare (h : Held Sample) : Held Sample := ⟨h.type, h.type.bare h.value⟩

theorem pending?_bare (h : Held Sample) : h.bare.pending? = none := by
  obtain ⟨_ | _ | _ | s, value⟩ := h
  · rfl
  · rfl
  · rfl
  · cases s <;> rfl

end Held

namespace Factory

open Workbench

/-- **Holders carry values.** Take any value whose lengths fit, and any holder that was made by a
factory for its type, whatever it holds now. If a reply of the value can be encoded, the holder takes
the bytes for the value without its pending table; and if the value is a tally, also the bytes of its
entries in any other order. -/
theorem takes_encoded (f : Factory Sample) {h : Held Sample} (type : f.argument = h.type)
    (fits : h.Fits) (now : Held Sample) :
    h.bare.pending? = none ∧
      (∀ bytes, (Reply.ofHeld h).encode = .ok bytes → (f.holding now).Takes bytes h.bare) ∧
      ∀ (m : Tally) (es : List (String × UInt32)) (bytes : Bytes), h = ⟨.user .tally, m⟩ →
        es.Perm m.counts.entries → encodeCounted Wire.encode es = .ok bytes →
          (f.holding now).Takes bytes h := by
  have law := h.type.carries
  refine ⟨h.pending?_bare, fun bytes written => ?_, fun m es bytes same anyOrder written => ?_⟩
  · have hread := law.returns h.value fits bytes (Reply.of_encode written)
    exact f.takes_of_read type now law.steady hread
  · subst same
    exact f.takes_of_read type now law.steady (Tally.read_of_perm fits anyOrder written)

/-- The words `a` and `b`, counted once and twice. -/
def words : Tally := ⟨⟨[("a", 1), ("b", 2)], by decide +kernel⟩⟩

/-- A word of one byte and how often it was counted. -/
def wordBytes (word count : UInt8) : Bytes := leBytes 8 1 ++ [word, count, 0, 0, 0]

theorem fits_words : Held.Fits ⟨.user .tally, words⟩ := by
  have short (word : String) (h : word = "a" ∨ word = "b") : Measured.Fits word := by
    rcases h with rfl | rfl
    · exact (by decide +kernel : (Utf8.encode "a".toList).length < capacity 8)
    · exact (by decide +kernel : (Utf8.encode "b".toList).length < capacity 8)
  refine ⟨by decide, fun e he => ?_⟩
  simp only [words, List.mem_cons, List.not_mem_nil, or_false] at he
  rcases he with rfl | rfl
  · exact ⟨short "a" (.inl rfl), trivial⟩
  · exact ⟨short "b" (.inr rfl), trivial⟩

/-- A factory for methods that take a tally by value. -/
def tallying : Factory Sample where
  argument := .user .tally
  reply := .unit
  passing := .value

/-- Two counted words are taken in either order. -/
theorem takes_encoded_words :
    (Reply.ofHeld (ι := Sample) ⟨.user .tally, words⟩).encode =
      .ok (leBytes 8 2 ++ (wordBytes 97 1 ++ wordBytes 98 2)) ∧
    tallying.makeArgument.Takes (leBytes 8 2 ++ (wordBytes 97 1 ++ wordBytes 98 2))
      ⟨.user .tally, words⟩ ∧
    tallying.makeArgument.Takes (leBytes 8 2 ++ (wordBytes 98 2 ++ wordBytes 97 1))
      ⟨.user .tally, words⟩ := by
  have written : (Reply.ofHeld (ι := Sample) ⟨.user .tally, words⟩).encode =
      .ok (leBytes 8 2 ++ (wordBytes 97 1 ++ wordBytes 98 2)) := by decide +kernel
  obtain ⟨-, listed, swapped⟩ :=
    takes_encoded tallying (h := ⟨.user .tally, words⟩) rfl fits_words tallying.makeArgument.held
  exact ⟨written, listed _ written,
    swapped words [("b", 2), ("a", 1)] _ rfl (.swap _ _ []) (by decide +kernel)⟩

end Factory

end Switchboard
