import DenseMedium.Text.Ascii

/-!
32-bit words as four bytes, the least significant first.
-/

namespace DenseMedium

namespace LittleEndian

def encode (w : UInt32) : Bytes :=
  let n := w.toNat
  [UInt8.ofNat n, UInt8.ofNat (n / 256), UInt8.ofNat (n / 65536), UInt8.ofNat (n / 16777216)]

def ofBytes (a b c d : UInt8) : UInt32 :=
  UInt32.ofNat (a.toNat + 256 * b.toNat + 65536 * c.toNat + 16777216 * d.toNat)

/-- The word at the front, and the bytes after it; nothing when fewer than four bytes are left. -/
def decode? : Bytes → Option (UInt32 × Bytes)
  | a :: b :: c :: d :: rest => some (ofBytes a b c d, rest)
  | _ => none

end LittleEndian

end DenseMedium
