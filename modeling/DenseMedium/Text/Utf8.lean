import DenseMedium.Text.Ascii

/-!
Text in bytes that may not be well-formed UTF-8.

* `Utf8.text?` reads bytes that are well-formed as a whole.
* `Utf8.pieces` splits any bytes into characters and broken pieces. A broken piece is the longest
  start of a character that the bytes contain at that place, or one byte that starts no character.
* `Utf8.repaired` is the text in which each broken piece has become one replacement character.
-/

namespace DenseMedium

namespace Utf8

-- Powers of naturals are those of the core library, also where another instance is in scope.
attribute [local instance (2000)] instPowNat

/-- The bytes of a string. -/
def bytes (s : String) : Bytes := s.toByteArray.data.toList

/-- The string of well-formed bytes. -/
def text? (b : Bytes) : Option String := String.fromUTF8? ⟨b.toArray⟩

/-- What a first byte asks for: how many bytes follow, and the range of the first of them. -/
def following? (lead : Nat) : Option (Nat × Nat × Nat) :=
  if lead < 0xc2 then none
  else if lead ≤ 0xdf then some (1, 0x80, 0xbf)
  else if lead = 0xe0 then some (2, 0xa0, 0xbf)
  else if lead = 0xed then some (2, 0x80, 0x9f)
  else if lead ≤ 0xef then some (2, 0x80, 0xbf)
  else if lead = 0xf0 then some (3, 0x90, 0xbf)
  else if lead ≤ 0xf3 then some (3, 0x80, 0xbf)
  else if lead = 0xf4 then some (3, 0x80, 0x8f)
  else none

inductive Piece where
  | scalar (c : Char)
  | broken (bytes : Bytes)
  deriving Repr

/-- Collects `need` more continuation bytes after `taken`, the value so far being `value`; answers
with the piece and the number of bytes collected here. -/
def continuation (taken : Bytes) (value : Nat) : Nat → Bytes → Piece × Nat
  | 0, _ => (.scalar (Char.ofNat value), 0)
  | _ + 1, [] => (.broken taken, 0)
  | need + 1, b :: r =>
      if 0x80 ≤ b.toNat ∧ b.toNat ≤ 0xbf then
        let (p, n) := continuation (taken ++ [b]) (value * 64 + b.toNat % 64) need r
        (p, n + 1)
      else (.broken taken, 0)

/-- The bits of a first byte that belong to the character, when `need` bytes follow. -/
def leadValue (lead need : Nat) : Nat := lead % 2 ^ (6 - need)

/-- The piece that starts with the byte `b`, and how many bytes of `r` it takes. -/
def piece (b : UInt8) (r : Bytes) : Piece × Nat :=
  if b.toNat < 0x80 then (.scalar (Char.ofNat b.toNat), 0)
  else
    match following? b.toNat, r with
    | some (need, low, high), c :: r' =>
        if low ≤ c.toNat ∧ c.toNat ≤ high then
          let (p, n) :=
            continuation [b, c] (leadValue b.toNat need * 64 + c.toNat % 64) (need - 1) r'
          (p, n + 1)
        else (.broken [b], 0)
    | _, _ => (.broken [b], 0)

def pieces : Bytes → List Piece
  | [] => []
  | b :: r => (piece b r).1 :: pieces (r.drop (piece b r).2)
termination_by s => s.length
decreasing_by simp only [List.length_cons, List.length_drop]; omega

/-- The text with a replacement character for each broken piece. -/
def repaired (s : Bytes) : String :=
  String.ofList ((pieces s).map fun
    | .scalar c => c
    | .broken _ => Char.ofNat 0xfffd)

end Utf8

end DenseMedium
