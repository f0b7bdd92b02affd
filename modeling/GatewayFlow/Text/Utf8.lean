/-!
# Text from bytes

Bytes are read as UTF-8: the shortest form of each character and no halves of pairs. The first fault
is reported with its position, the bytes that it spans and the reason.
-/
namespace GatewayFlow.Text

/-- Why bytes are no text: the faulty bytes from a position on. -/
structure EncodingError where
  position : Nat
  bytes : List Nat
  reason : String
deriving DecidableEq, Repr

namespace Utf8

/-- How many bytes a first byte announces after itself; none when no character starts with it. -/
def following? (lead : Nat) : Option Nat :=
  if lead < 0x80 then some 0
  else if 0xC2 ≤ lead ∧ lead ≤ 0xDF then some 1
  else if 0xE0 ≤ lead ∧ lead ≤ 0xEF then some 2
  else if 0xF0 ≤ lead ∧ lead ≤ 0xF4 then some 3
  else none

/-- The range of the second byte after a first one. -/
def secondRange (lead : Nat) : Nat × Nat :=
  if lead = 0xE0 then (0xA0, 0xBF)
  else if lead = 0xED then (0x80, 0x9F)
  else if lead = 0xF0 then (0x90, 0xBF)
  else if lead = 0xF4 then (0x80, 0x8F)
  else (0x80, 0xBF)

def leadBits (lead following : Nat) : Nat :=
  if following = 0 then lead else lead % Nat.pow 2 (6 - following)

/-- A character that is still being read: the bytes so far, newest first, its bits so far, the
number of bytes to come and the range of the next one. -/
structure Partial where
  bytes : List Nat
  bits : Nat
  missing : Nat
  range : Nat × Nat

/-- Reads on from a position, in the middle of a character or between two. -/
def decodeFrom (position : Nat) : Option Partial → List Nat → Except EncodingError (List Char)
  | none, [] => .ok []
  | some part, [] => .error ⟨position, part.bytes.reverse, "unexpected end of data"⟩
  | none, byte :: rest =>
    match following? byte with
    | none => .error ⟨position, [byte], "invalid start byte"⟩
    | some 0 => (decodeFrom (position + 1) none rest).map (Char.ofNat byte :: ·)
    | some n =>
      decodeFrom position (some ⟨[byte], leadBits byte n, n, secondRange byte⟩) rest
  | some part, byte :: rest =>
    if part.range.1 ≤ byte ∧ byte ≤ part.range.2 then
      let bytes := byte :: part.bytes
      let bits := part.bits * 64 + byte % 64
      if part.missing ≤ 1 then
        (decodeFrom (position + bytes.length) none rest).map (Char.ofNat bits :: ·)
      -- Only the second byte has a range of its own, which leaves out longer forms and surrogates.
      else decodeFrom position (some ⟨bytes, bits, part.missing - 1, (0x80, 0xBF)⟩) rest
    else .error ⟨position, part.bytes.reverse, "invalid continuation byte"⟩

def decode (bytes : List Nat) : Except EncodingError (List Char) :=
  decodeFrom 0 none bytes

end Utf8
end GatewayFlow.Text
