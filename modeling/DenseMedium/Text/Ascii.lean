/-!
Byte strings and the ASCII bytes that documents are written with.
-/

namespace DenseMedium

abbrev Bytes := List UInt8

namespace Ascii

def newline : UInt8 := 0x0a
def space : UInt8 := 0x20
def quote : UInt8 := 0x22
def plus : UInt8 := 0x2b
def comma : UInt8 := 0x2c
def minus : UInt8 := 0x2d
def point : UInt8 := 0x2e
def slash : UInt8 := 0x2f
def zero : UInt8 := 0x30
def colon : UInt8 := 0x3a
def openList : UInt8 := 0x5b
def backslash : UInt8 := 0x5c
def closeList : UInt8 := 0x5d
def openObject : UInt8 := 0x7b
def closeObject : UInt8 := 0x7d

/-- The byte of a decimal digit. -/
def digit (d : Nat) : UInt8 := UInt8.ofNat (48 + d)

/-- The value of a byte that is a decimal digit. -/
def digit? (b : UInt8) : Option Nat :=
  if 48 ≤ b.toNat ∧ b.toNat ≤ 57 then some (b.toNat - 48) else none

/-- The value of a byte that is a hexadecimal digit of either case. -/
def hexDigit? (b : UInt8) : Option Nat :=
  let n := b.toNat
  if 48 ≤ n ∧ n ≤ 57 then some (n - 48)
  else if 97 ≤ n ∧ n ≤ 102 then some (n - 87)
  else if 65 ≤ n ∧ n ≤ 70 then some (n - 55)
  else none

/-- The bytes of an ASCII string. -/
def encode (s : String) : Bytes := s.toList.map fun c => UInt8.ofNat c.toNat

/-- The string of ASCII bytes. -/
def decode (b : Bytes) : String := String.ofList (b.map fun c => Char.ofNat c.toNat)

/-- A natural number in decimal, without leading zeros. -/
def decimal (n : Nat) : Bytes :=
  if n < 10 then [digit n] else decimal (n / 10) ++ [digit (n % 10)]

/-- An integer in decimal, with a minus sign in front of a negative one. -/
def signedDecimal (v : Int) : Bytes :=
  if v < 0 then minus :: decimal v.natAbs else decimal v.natAbs

end Ascii

end DenseMedium
