import DenseMedium.Arithmetic
import DenseMedium.Json.Cursor

/-!
Number literals: their grammar and their value.

A literal without fraction and exponent is an integer if it fits 64 bits, unsigned or, after a minus
sign, signed; `-0` and what does not fit are real. The value of a real literal is not the nearest
double. It is computed in two steps:

1. `gather` collects digits into a significand below `2 ^ 64`. Once a digit does not fit, further
   integer digits only count toward the exponent and further fraction digits are dropped.
2. `scale` multiplies or divides the double nearest to the significand by the double nearest to a
   power of ten, in several divisions when the exponent lies far below the range.
-/

namespace DenseMedium.Json

-- Powers of naturals are those of the core library, also where another instance is in scope.
attribute [local instance (2000)] instPowNat

inductive Number where
  | integer (v : Int)
  | real (d : Double)
  deriving DecidableEq, Repr

/-- A literal taken apart, without its sign. -/
structure NumberParts where
  whole : List Nat
  fraction : List Nat
  /-- The written exponent: its sign and its digits. -/
  exponent : Option (Bool × List Nat)
  deriving DecidableEq, Repr

/-! ### Grammar -/

/-- The digits at the front and what follows them. -/
def digits : Bytes → List Nat × Bytes
  | [] => ([], [])
  | b :: r =>
      match Ascii.digit? b with
      | some d =>
          let others := digits r
          (d :: others.1, others.2)
      | none => ([], b :: r)

theorem length_digits_le (s : Bytes) : (digits s).2.length ≤ s.length := by
  fun_induction digits s with
  | case1 => exact Nat.le_refl _
  | case2 b r d _ others ih => exact Nat.le_succ_of_le ih
  | case3 b r _ => exact Nat.le_refl _

theorem length_digits_lt {s : Bytes} (h : (digits s).1 ≠ []) :
    (digits s).2.length < s.length := by
  fun_cases digits s with
  | case1 => exact absurd rfl h
  | case2 b r d hd others => exact Nat.lt_succ_of_le (length_digits_le r)
  | case3 b r hd =>
    unfold digits at h
    rw [hd] at h
    exact absurd rfl h

/-- One digit or more; `m` is the error where the bytes run out. -/
def someDigits (e : Ending) (m : Malformed) (s : Bytes) : Reading s (List Nat) :=
  if h : (digits s).1 = [] then
    if s = [] then stopped e m else breach .number
  else .ok ((digits s).1, ⟨(digits s).2, length_digits_lt h⟩)

/-- The integer digits: zero alone, or a sequence that does not start with zero. -/
def wholeDigits (e : Ending) (m : Malformed) (s : Bytes) : Reading s (List Nat) :=
  match someDigits e m s with
  | .error x => .error x
  | .ok (0 :: _ :: _, _) => breach .number
  | .ok found => .ok found

/-- The fraction, if a point follows. -/
def fractionDigits (e : Ending) (m : Malformed) (s : Bytes) :
    Except ReadError (List Nat × Rest s) :=
  match s with
  | [] => .ok ([], ⟨[], Nat.le_refl _⟩)
  | b :: r =>
      if b = Ascii.point then
        match someDigits e m r with
        | .error x => .error x
        | .ok (ds, rest) => .ok (ds, ⟨rest.1, Nat.le_succ_of_le (Nat.le_of_lt rest.2)⟩)
      else .ok ([], ⟨b :: r, Nat.le_refl _⟩)

/-- The sign of an exponent and what follows it. -/
def exponentSign (s : Bytes) : Bool × Rest s :=
  match s with
  | [] => (false, ⟨[], Nat.le_refl _⟩)
  | b :: r =>
      if b = Ascii.plus then (false, ⟨r, Nat.le_succ _⟩)
      else if b = Ascii.minus then (true, ⟨r, Nat.le_succ _⟩)
      else (false, ⟨b :: r, Nat.le_refl _⟩)

/-- The exponent, if an `e` of either case follows. -/
def exponentDigits (e : Ending) (m : Malformed) (s : Bytes) :
    Except ReadError (Option (Bool × List Nat) × Rest s) :=
  match s with
  | [] => .ok (none, ⟨[], Nat.le_refl _⟩)
  | b :: r =>
      if b = 0x65 ∨ b = 0x45 then
        match exponentSign r with
        | (isNegative, afterSign) =>
            match someDigits e m afterSign.1 with
            | .error x => .error x
            | .ok (ds, rest) =>
                .ok (some (isNegative, ds),
                  ⟨rest.1, Nat.le_succ_of_le (Nat.le_trans (Nat.le_of_lt rest.2) afterSign.2)⟩)
      else .ok (none, ⟨b :: r, Nat.le_refl _⟩)

/-- A literal without its sign. The error `m` is that of a literal which the end cuts short. -/
def numberParts (e : Ending) (m : Malformed) (s : Bytes) : Reading s NumberParts :=
  match wholeDigits e m s with
  | .error x => .error x
  | .ok (whole, afterWhole) =>
      match fractionDigits e m afterWhole.1 with
      | .error x => .error x
      | .ok (fraction, afterFraction) =>
          match exponentDigits e m afterFraction.1 with
          | .error x => .error x
          | .ok (exponent, rest) =>
              .ok (⟨whole, fraction, exponent⟩,
                ⟨rest.1, Nat.lt_of_le_of_lt (Nat.le_trans rest.2 afterFraction.2) afterWhole.2⟩)

/-! ### Value -/

/-- Appends digits to a significand while it stays below `2 ^ 64`; answers with the digits left. -/
def gather (significand : Nat) : List Nat → Nat × List Nat
  | [] => (significand, [])
  | d :: ds =>
      if significand * 10 + d < Size.bound then gather (significand * 10 + d) ds
      else (significand, d :: ds)

/-- The greatest power of ten that one multiplication or division applies. -/
def powerLimit : Nat := 308

def powerOfTen (k : Nat) : Nat := FloatFormat.double.ofNat (10 ^ k)

/-- The word `w` times `10 ^ exponent`; nothing when that is out of range. -/
def scale (w : Nat) (exponent : Int) : Option Nat :=
  if exponent.natAbs ≤ powerLimit then
    if 0 ≤ exponent then
      let scaled := FloatFormat.double.mul w (powerOfTen exponent.natAbs)
      if scaled = FloatFormat.double.infinity then none else some scaled
    else some (FloatFormat.double.div w (powerOfTen exponent.natAbs))
  else if w = 0 then some 0
  else if 0 ≤ exponent then none
  else scale (FloatFormat.double.div w (powerOfTen powerLimit)) (exponent + powerLimit)
termination_by exponent.natAbs
decreasing_by unfold powerLimit at *; omega

namespace NumberParts

/-- The digits of a written exponent as a number. -/
def exponentValue (ds : List Nat) : Nat := ds.foldl (fun n d => n * 10 + d) 0

/-- The greatest exponent that takes part in the computation. -/
def exponentLimit : Nat := 2147483647

/-- The significand, and the power of ten that the integer digits left out and the fraction digits
gathered stand for. -/
def significand (p : NumberParts) : Nat × Int :=
  let (whole, left) := gather 0 p.whole
  let (n, dropped) := gather whole p.fraction
  (n, (left.length : Int) - ((p.fraction.length : Int) - dropped.length))

/-- The value of a literal that is real by its form or its size. -/
def realWord (p : NumberParts) : Option Nat :=
  let (n, exponent) := p.significand
  match p.exponent with
  | none => scale (FloatFormat.double.ofNat n) exponent
  | some (isNegative, ds) =>
      let written := exponentValue ds
      if exponentLimit < written then
        if n = 0 ∨ isNegative then some 0 else none
      else
        scale (FloatFormat.double.ofNat n)
          (if isNegative then exponent - written else exponent + written)

/-- Whether the literal is written like an integer and its digits fit 64 bits. -/
def isInteger (p : NumberParts) : Bool :=
  p.fraction.isEmpty && p.exponent.isNone && (gather 0 p.whole).2.isEmpty

/-- The value of a literal; nothing when it is out of range. -/
def value (isNegative : Bool) (p : NumberParts) : Option Number :=
  let n := (gather 0 p.whole).1
  if p.isInteger then
    if !isNegative then some (.integer n)
    else if 0 < n ∧ n ≤ 9223372036854775808 then some (.integer (-(n : Int)))
    else some (.real ⟨true, FloatFormat.double.ofNat n⟩)
  else p.realWord.map fun w => .real ⟨isNegative, w⟩

/-- Whether the written exponent alone puts the literal out of range. -/
def isHopeless (p : NumberParts) : Bool :=
  match p.exponent with
  | some (false, ds) => exponentLimit < exponentValue ds && p.significand.1 ≠ 0
  | _ => false

end NumberParts

/-- A number whose sign, if any, is gone. A literal that reaches the end of a broken source is not
known to end there, unless its exponent has already put it out of range. -/
def number (isNegative : Bool) : Reader Number := fun e s =>
  match numberParts e .endInValue s with
  | .error x => .error x
  | .ok (p, rest) =>
      match rest.1, e with
      | [], .broken cause =>
          if p.isHopeless then breach .numberOutOfRange else .error (.source cause)
      | _, _ =>
          match p.value isNegative with
          | some v => .ok (v, rest)
          | none => breach .numberOutOfRange

/-- A number that is skipped, without its sign: only its form counts, and its end must be known. -/
def skipNumber : Reader Unit := fun e s =>
  match numberParts e .number s with
  | .error x => .error x
  | .ok (_, rest) =>
      match rest.1, e with
      | [], .broken cause => .error (.source cause)
      | _, _ => .ok ((), rest)

end DenseMedium.Json
