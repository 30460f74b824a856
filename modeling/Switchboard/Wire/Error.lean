import Switchboard.Wire.Utf8

/-!
# Failures of the wire format

`WireError` has one constructor for each way in which bytes can fail to be a value, and one for a
value that refuses to be written.
-/

namespace Switchboard

/-- A byte string, first byte first. -/
abbrev Bytes := List UInt8

/-- Why bytes are no value, or a value has no bytes. -/
inductive WireError where
  /-- The bytes end before a field of fixed width, a length, a tag or an element does. -/
  | endOfInput
  /-- A text announces more bytes than there are. -/
  | overlong
  /-- A text is not UTF-8. -/
  | notText (fault : Utf8.Fault)
  /-- A truth value is neither 0 nor 1. -/
  | notBool (found : UInt8)
  /-- The tag of an optional value is neither 0 nor 1. -/
  | notTag (found : UInt8)
  /-- The bytes of a character are not UTF-8. -/
  | notChar
  /-- An alternative `found` of a type that has `count`. -/
  | notVariant (found count : Nat)
  /-- A frame ends before its lengths say. -/
  | truncated
  /-- A failure with a text of its own. -/
  | refused (reason : String)
  deriving DecidableEq, Repr

/-- The text of a wire error. -/
def WireError.message : WireError → String
  | .endOfInput => "io error: unexpected end of file"
  | .overlong => "io error: "
  | .notText fault => "string is not valid utf8: " ++ fault.message
  | .notBool n => "invalid u8 while decoding bool, expected 0 or 1, found " ++ toString n
  | .notTag n => "tag for enum is not valid, found " ++ toString n
  | .notChar => "char is not valid"
  | .notVariant n k =>
    "invalid value: integer `" ++ toString n ++ "`, expected variant index 0 <= i < " ++ toString k
  | .truncated => "truncated frame"
  | .refused reason => reason

end Switchboard
