/-!
# UTF-8

`charBytes` is the UTF-8 form of a character, and `readBytes` reads bytes back;
`byteChars` is what a text looks like to a reader who takes every byte for a
character.
Bytes that no character is written with are shown by the replacement character,
one for each longest row of bytes that could have begun a character. The bytes
after the first are read by `readTail`, which never gives back more than it was
given; `readBytes` ends because of that.
-/

namespace RateLimit.Text

/-- The bytes of a character. -/
def charBytes (c : Char) : List UInt8 := (String.singleton c).toUTF8.toList

/-- A text with every byte of its characters as a character of its own. -/
def byteChars (cs : List Char) : List Char :=
  (cs.flatMap charBytes).map fun b => Char.ofNat b.toNat

/-- What the first byte of a character says: how many bytes follow, between which
bounds the next one lies, and the bits that it carries itself. The bounds keep
out forms that are too long, halves of characters and what lies beyond the last
character. -/
structure LeadByte where
  following : Nat
  low : Nat := 0x80
  high : Nat := 0xbf
  bits : Nat
  deriving DecidableEq, Repr

/-- The meaning of a byte outside ASCII as the first byte of a character. -/
def leadByte? (b : Nat) : Option LeadByte :=
  if 0xc2 ≤ b ∧ b ≤ 0xdf then some { following := 1, bits := b - 0xc0 }
  else if b = 0xe0 then some { following := 2, low := 0xa0, bits := 0 }
  else if b = 0xed then some { following := 2, high := 0x9f, bits := 0xd }
  else if 0xe1 ≤ b ∧ b ≤ 0xef then some { following := 2, bits := b - 0xe0 }
  else if b = 0xf0 then some { following := 3, low := 0x90, bits := 0 }
  else if 0xf1 ≤ b ∧ b ≤ 0xf3 then some { following := 3, bits := b - 0xf0 }
  else if b = 0xf4 then some { following := 3, high := 0x8f, bits := 4 }
  else none

/-- Reads the bytes after the first one: the code point, unless a byte is missing
or out of its bounds, and the bytes that are left. -/
def readTail : Nat → Nat → Nat → Nat → List UInt8 → Option Nat × List UInt8
  | 0, _, _, bits, bytes => (some bits, bytes)
  | _ + 1, _, _, _, [] => (none, [])
  | following + 1, low, high, bits, b :: bytes =>
    if low ≤ b.toNat ∧ b.toNat ≤ high then
      readTail following 0x80 0xbf (64 * bits + (b.toNat - 0x80)) bytes
    else (none, b :: bytes)

theorem length_readTail_le (following low high bits : Nat) (bytes : List UInt8) :
    (readTail following low high bits bytes).2.length ≤ bytes.length := by
  induction following generalizing low high bits bytes with
  | zero => simp [readTail]
  | succ n ih =>
    cases bytes with
    | nil => simp [readTail]
    | cons b bytes =>
      unfold readTail
      split
      · exact Nat.le_trans (ih ..) (Nat.le_succ _)
      · simp

/-- Reads bytes as UTF-8. -/
def readBytes : List UInt8 → List Char
  | [] => []
  | b :: bytes =>
    if b.toNat < 0x80 then Char.ofNat b.toNat :: readBytes bytes
    else
      match leadByte? b.toNat with
      | none => '\ufffd' :: readBytes bytes
      | some lead =>
        let result := readTail lead.following lead.low lead.high lead.bits bytes
        (result.1.map Char.ofNat).getD '\ufffd' :: readBytes result.2
termination_by bytes => bytes.length
decreasing_by
  · exact Nat.lt_succ_self _
  · exact Nat.lt_succ_self _
  · exact Nat.lt_succ_of_le (length_readTail_le ..)

end RateLimit.Text
