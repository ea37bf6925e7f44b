import DenseMedium.Random.Words

/-!
The ChaCha stream with twelve rounds, as a source of words.

A block is a square of sixteen words, kept by columns: the constants in the first row, the key in
the second and third, the block number and the stream number zero in the fourth. The words of a
block come row by row, and the blocks in the order of their numbers.
-/

namespace DenseMedium

namespace ChaCha

/-- Four words that are stirred together. -/
structure Column where
  a : UInt32
  b : UInt32
  c : UInt32
  d : UInt32
  deriving DecidableEq, Repr

def rotateLeft (w amount : UInt32) : UInt32 := w <<< amount ||| w >>> (32 - amount)

def rotateRight (w amount : UInt32) : UInt32 := w >>> amount ||| w <<< (32 - amount)

namespace Column

/-- Adds the second word to the first and stirs the last, then the third and the second likewise. -/
def halfRound (q : Column) (first second : UInt32) : Column :=
  let a := q.a + q.b
  let d := rotateLeft (q.d ^^^ a) first
  let c := q.c + d
  ⟨a, rotateLeft (q.b ^^^ c) second, c, d⟩

def quarterRound (q : Column) : Column := (q.halfRound 16 12).halfRound 8 7

def add (q r : Column) : Column := ⟨q.a + r.a, q.b + r.b, q.c + r.c, q.d + r.d⟩

end Column

structure Block where
  first : Column
  second : Column
  third : Column
  fourth : Column
  deriving DecidableEq, Repr

namespace Block

def stir (x : Block) : Block :=
  ⟨x.first.quarterRound, x.second.quarterRound, x.third.quarterRound, x.fourth.quarterRound⟩

/-- The diagonals of a block as columns. -/
def diagonals (x : Block) : Block :=
  ⟨⟨x.first.a, x.second.b, x.third.c, x.fourth.d⟩, ⟨x.second.a, x.third.b, x.fourth.c, x.first.d⟩,
    ⟨x.third.a, x.fourth.b, x.first.c, x.second.d⟩, ⟨x.fourth.a, x.first.b, x.second.c, x.third.d⟩⟩

/-- The block whose diagonals are the columns of `x`. -/
def ofDiagonals (x : Block) : Block :=
  ⟨⟨x.first.a, x.fourth.b, x.third.c, x.second.d⟩, ⟨x.second.a, x.first.b, x.fourth.c, x.third.d⟩,
    ⟨x.third.a, x.second.b, x.first.c, x.fourth.d⟩, ⟨x.fourth.a, x.third.b, x.second.c, x.first.d⟩⟩

/-- A round on the columns and a round on the diagonals. -/
def doubleRound (x : Block) : Block := x.stir.diagonals.stir.ofDiagonals

def add (x y : Block) : Block :=
  ⟨x.first.add y.first, x.second.add y.second, x.third.add y.third, x.fourth.add y.fourth⟩

/-- Twelve rounds, added to the block they started from. -/
def mix (x : Block) : Block := (Nat.repeat doubleRound 6 x).add x

/-- The words row by row. -/
def words (x : Block) : List UInt32 :=
  let columns := [x.first, x.second, x.third, x.fourth]
  columns.map (·.a) ++ columns.map (·.b) ++ columns.map (·.c) ++ columns.map (·.d)

end Block

/-- The words of a key. -/
structure Key where
  words : List UInt32
  deriving DecidableEq, Repr

def Key.word (k : Key) (n : Nat) : UInt32 := k.words.getD n 0

/-- The block of a key with number `n`, before it is mixed. -/
def start (k : Key) (n : Nat) : Block :=
  ⟨⟨0x61707865, k.word 0, k.word 4, UInt32.ofNat n⟩,
    ⟨0x3320646e, k.word 1, k.word 5, UInt32.ofNat (n / 4294967296)⟩,
    ⟨0x79622d32, k.word 2, k.word 6, 0⟩,
    ⟨0x6b206574, k.word 3, k.word 7, 0⟩⟩

/-- The stream of a key. -/
def stream (k : Key) : WordSource := fun n => (start k (n / 16)).mix.words.getD (n % 16) 0

/-! ### Keys from seeds -/

/-- The linear congruential step of the seed. -/
def nextSeed (s : UInt64) : UInt64 := s * 6364136223846793005 + 11634580027462260723

/-- The key word of a seed: its upper bits folded, shifted and rotated by its uppermost ones. -/
def seedWord (s : UInt64) : UInt32 :=
  rotateRight (((s >>> 18) ^^^ s) >>> 27).toUInt32 (s >>> 59).toUInt32

/-- A key of `n` words from the seed `s`. -/
def seedWords (s : UInt64) : Nat → List UInt32
  | 0 => []
  | n + 1 => seedWord (nextSeed s) :: seedWords (nextSeed s) n

/-- The stream of a seed. -/
def ofSeed (s : UInt64) : WordSource := stream ⟨seedWords s 8⟩

end ChaCha

end DenseMedium
