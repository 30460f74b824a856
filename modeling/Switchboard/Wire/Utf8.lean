/-!
# UTF-8

Text on the wire is UTF-8. `encodeChar` and `decodeChar` go between a character and its one to four
bytes; `decode` reads a whole byte string as text or says where it stops being text:

* `Flaw.cut`: the bytes end inside a character that was fine so far;
* `Flaw.bad n`: the first `n` bytes from there on begin no character.

Results: `length_le_of_decodeChar` (a character takes nothing back), on which `decode` recurses.
-/

namespace Switchboard.Utf8

/-- What is wrong with the bytes at the place where decoding stops. -/
inductive Flaw where
  /-- They end inside a character. -/
  | cut
  /-- The first `length` of them begin no character. -/
  | bad (length : Nat)
  deriving DecidableEq, Repr

/-- Where a byte string stops being text, and why. -/
structure Fault where
  /-- How many bytes before it are text. -/
  index : Nat
  flaw : Flaw
  deriving DecidableEq, Repr

/-- The text of a fault. -/
def Fault.message (f : Fault) : String :=
  match f.flaw with
  | .cut => "incomplete utf-8 byte sequence from index " ++ toString f.index
  | .bad n =>
    "invalid utf-8 sequence of " ++ toString n ++ " bytes from index " ++ toString f.index

/-- The bytes of a character. -/
def encodeChar (c : Char) : List UInt8 :=
  let n := c.toNat
  if n < 0x80 then [.ofNat n]
  else if n < 0x800 then [.ofNat (0xC0 + n / 64), .ofNat (0x80 + n % 64)]
  else if n < 0x10000 then
    [.ofNat (0xE0 + n / 4096), .ofNat (0x80 + n / 64 % 64), .ofNat (0x80 + n % 64)]
  else
    [.ofNat (0xF0 + n / 262144), .ofNat (0x80 + n / 4096 % 64), .ofNat (0x80 + n / 64 % 64),
      .ofNat (0x80 + n % 64)]

/-- The bytes of a text. -/
def encode (cs : List Char) : List UInt8 := cs.flatMap encodeChar

/-- A byte that continues a character. -/
def isTail (b : UInt8) : Bool := 0x80 ≤ b && b ≤ 0xBF

/-- A byte that may follow the first byte `a` of a character of three or four: shorter spellings,
surrogates and code points beyond the last are kept out here. -/
def isSecond (a b : UInt8) : Bool :=
  if a = 0xE0 then 0xA0 ≤ b && b ≤ 0xBF
  else if a = 0xED then 0x80 ≤ b && b ≤ 0x9F
  else if a = 0xF0 then 0x90 ≤ b && b ≤ 0xBF
  else if a = 0xF4 then 0x80 ≤ b && b ≤ 0x8F
  else isTail b

/-- The low six bits of a continuation byte. -/
def tailBits (b : UInt8) : Nat := b.toNat - 0x80

/-- Reads the character that starts with the byte `a`, from `a` and the bytes after it. -/
def decodeChar (a : UInt8) (rest : List UInt8) : Except Flaw (Char × List UInt8) :=
  if a < 0x80 then .ok (Char.ofNat a.toNat, rest)
  else if 0xC2 ≤ a && a ≤ 0xDF then
    match rest with
    | [] => .error .cut
    | b :: rest =>
      if isTail b then .ok (Char.ofNat ((a.toNat - 0xC0) * 64 + tailBits b), rest)
      else .error (.bad 1)
  else if 0xE0 ≤ a && a ≤ 0xEF then
    match rest with
    | [] => .error .cut
    | b :: rest =>
      if !isSecond a b then .error (.bad 1)
      else match rest with
        | [] => .error .cut
        | c :: rest =>
          if isTail c then
            .ok (Char.ofNat ((a.toNat - 0xE0) * 4096 + tailBits b * 64 + tailBits c), rest)
          else .error (.bad 2)
  else if 0xF0 ≤ a && a ≤ 0xF4 then
    match rest with
    | [] => .error .cut
    | b :: rest =>
      if !isSecond a b then .error (.bad 1)
      else match rest with
        | [] => .error .cut
        | c :: rest =>
          if !isTail c then .error (.bad 2)
          else match rest with
            | [] => .error .cut
            | d :: rest =>
              if isTail d then
                .ok (Char.ofNat
                  ((a.toNat - 0xF0) * 262144 + tailBits b * 4096 + tailBits c * 64 + tailBits d),
                  rest)
              else .error (.bad 3)
  else .error (.bad 1)

/-- The bytes left after a character are among those after its first byte. -/
theorem length_le_of_decodeChar {a : UInt8} {rest r : List UInt8} {c : Char}
    (h : decodeChar a rest = .ok (c, r)) : r.length ≤ rest.length := by
  unfold decodeChar at h
  repeat' split at h
  all_goals
    first
    | contradiction
    | simp only [Except.ok.injEq, Prod.mk.injEq] at h
      simp only [← h.2, List.length_cons]
      omega

/-- Reads `bytes` as text; `index` bytes of text came before them. -/
def decodeFrom (index : Nat) (bytes : List UInt8) : Except Fault (List Char) :=
  match bytes with
  | [] => .ok []
  | a :: rest =>
    match _h : decodeChar a rest with
    | .error flaw => .error ⟨index, flaw⟩
    | .ok (c, rest') => (decodeFrom (index + c.utf8Size) rest').map (c :: ·)
termination_by bytes.length
decreasing_by
  have := length_le_of_decodeChar _h
  simp only [List.length_cons]
  omega

/-- Reads a byte string as text. -/
def decode (bytes : List UInt8) : Except Fault (List Char) := decodeFrom 0 bytes

end Switchboard.Utf8
