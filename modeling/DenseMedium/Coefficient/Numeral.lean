import DenseMedium.Coefficient.Decimal
import DenseMedium.Coefficient.Double
import DenseMedium.Text.Ascii

/-!
How decimals are spelled.

A spelling is positional or scientific, by the exponent of its leading digit. The three styles in
use differ only in that range and in whether a positional integer keeps a fraction.

* `document`: the components of a structured document and of the value forms.
* `found`: a number shown as what was found where something else was expected.
* `outOfRange`: a component that single precision cannot hold, always written out in full.
-/

namespace DenseMedium

structure NumeralStyle where
  /-- The exponents of the leading digit that are spelled positionally; all of them when absent. -/
  positional : Option (Int × Int)
  /-- Whether an integer is spelled with `.0`. -/
  keepsPoint : Bool
  deriving DecidableEq, Repr

namespace NumeralStyle

def document : NumeralStyle := ⟨some (-6, 12), true⟩

def found : NumeralStyle := ⟨some (-5, 15), true⟩

def outOfRange : NumeralStyle := ⟨none, false⟩

def isPositional (s : NumeralStyle) (lead : Int) : Bool :=
  match s.positional with
  | none => true
  | some (least, most) => least ≤ lead && lead ≤ most

end NumeralStyle

namespace Decimal

def zeros (n : Nat) : Bytes := List.replicate n Ascii.zero

/-- Digits with the point where `exponent` puts it. -/
def positional (style : NumeralStyle) (digits : Bytes) (exponent : Int) : Bytes :=
  if 0 ≤ exponent then
    digits ++ zeros exponent.toNat ++ (if style.keepsPoint then [Ascii.point, Ascii.zero] else [])
  else
    let fraction := exponent.natAbs
    if fraction < digits.length then
      digits.take (digits.length - fraction) ++
        Ascii.point :: digits.drop (digits.length - fraction)
    else
      Ascii.zero :: Ascii.point :: zeros (fraction - digits.length) ++ digits

/-- One digit, the others as a fraction if there are any, and the signed exponent. -/
def scientific (digits : Bytes) (lead : Int) : Bytes :=
  let fraction := match digits.drop 1 with
    | [] => []
    | rest => Ascii.point :: rest
  let sign := if lead < 0 then Ascii.minus else Ascii.plus
  digits.take 1 ++ fraction ++ 0x65 :: sign :: Ascii.decimal lead.natAbs

def spell (style : NumeralStyle) (d : Decimal) : Bytes :=
  let digits := Ascii.decimal d.digits
  let lead := d.exponent + digits.length - 1
  if style.isPositional lead then positional style digits d.exponent
  else scientific digits lead

end Decimal

/-- The spelling of a finite word with its sign. -/
def FloatFormat.spell (f : FloatFormat) (style : NumeralStyle) (negative : Bool) (w : Nat) :
    Bytes :=
  let unsigned := (Decimal.shortest f w).spell style
  if negative then Ascii.minus :: unsigned else unsigned

/-- The spelling of a finite coefficient in documents. -/
def Single.spell (c : Single) : Bytes :=
  FloatFormat.single.spell .document c.isNegative c.word

def Double.spell (style : NumeralStyle) (d : Double) : Bytes :=
  FloatFormat.double.spell style d.negative d.word

end DenseMedium
