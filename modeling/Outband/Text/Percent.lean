import Outband.Text.Hex
/-! Percent-encoded text, as in the segments of a URL path. -/

namespace Outband.Text

/-- A percent sign with two hexadecimal digits stands for one byte. Any other byte, a lone percent
sign and the plus sign among them, stands for itself. -/
def percentBytes : Bytes → Bytes
  | 0x25 :: a :: b :: rest =>
    match hexDigit? (Char.ofNat a.toNat), hexDigit? (Char.ofNat b.toNat) with
    | some high, some low => UInt8.ofNat (16 * high + low) :: percentBytes rest
    | _, _ => 0x25 :: percentBytes (a :: b :: rest)
  | b :: rest => b :: percentBytes rest
  | [] => []

/-- The text of an encoded segment, if its bytes are well formed. -/
def percentDecode? (s : String) : Option String := decode? (percentBytes (bytesOf s))

end Outband.Text
