import DenseMedium.Json.Object
import DenseMedium.Json.Skip
import DenseMedium.Json.Tree
import DenseMedium.Json.Value
import DenseMedium.Lattice.Extent
import DenseMedium.Medium.Voxel

/-!
The forms of single values.

Points and coefficients are lists of three numbers, extents and voxels objects or lists of their
fields in order; the emission of a voxel may be missing in both. Here a coefficient may be infinite:
its components are rounded to single precision without a range check, and one that is not finite is
written as `null`, which is not read back.
-/

namespace DenseMedium

open Json

/-- A value with a JSON form. -/
class Form (α : Type) where
  reader : Reader α
  tree : α → Tree

namespace Form

variable {α : Type} [Form α]

/-- The value that a text holds. -/
def read (text : String) : Except ReadError α := document reader .complete (Utf8.bytes text)

/-- The text of a value. -/
def write (v : α) : Bytes := (tree v).text .compact

end Form

/-! ### Points and extents -/

instance : Form Point where
  reader := triple Point.mk coordinate
  tree p := .list ([p.x, p.y, p.z].map fun c => .number (Ascii.signedDecimal c.toInt))

namespace Extent

structure Draft where
  minimum : Option Point
  shape : Option Point

def field (d : Draft) (key : String) : Except ReadError (Reader Draft) :=
  if key = "minimum" then once key d.minimum Form.reader fun v => { d with minimum := some v }
  else if key = "shape" then once key d.shape Form.reader fun v => { d with shape := some v }
  else .ok (skipValue.map fun _ => d)

def finish (d : Draft) : Except ReadError Extent := do
  let minimum ← required "minimum" d.minimum
  let shape ← required "shape" d.shape
  return ⟨minimum, shape⟩

def listName : String := "struct Extent3i with 2 elements"

def inOrder : Reader Extent :=
  (element Form.reader 0 listName).bind fun minimum =>
    (element Form.reader 1 listName).bind fun shape => closeList.map fun _ => ⟨minimum, shape⟩

end Extent

instance : Form Extent where
  reader := struct "struct Extent3i" Extent.inOrder
    (objectBody Extent.field ⟨none, none⟩ Extent.finish)
  tree e := .object [("minimum", Form.tree e.minimum), ("shape", Form.tree e.shape)]

/-! ### Coefficients and voxels -/

def Single.tree (c : Single) : Tree := if c.isFinite then .number c.spell else .null

instance : Form Rgb where
  reader := triple Rgb.mk single
  tree c := .list (c.toList.map Single.tree)

namespace Voxel

structure Draft where
  sigmaA : Option Rgb
  sigmaS : Option Rgb
  emission : Option Rgb

def field (d : Draft) (key : String) : Except ReadError (Reader Draft) :=
  if key = "sigma_a" then once key d.sigmaA Form.reader fun v => { d with sigmaA := some v }
  else if key = "sigma_s" then once key d.sigmaS Form.reader fun v => { d with sigmaS := some v }
  else if key = "emission" then
    once key d.emission Form.reader fun v => { d with emission := some v }
  else .ok (skipValue.map fun _ => d)

/-- Only the emission may be missing. -/
def finish (d : Draft) : Except ReadError Voxel := do
  let sigmaA ← required "sigma_a" d.sigmaA
  let sigmaS ← required "sigma_s" d.sigmaS
  return ⟨sigmaA, sigmaS, d.emission.getD Rgb.zero⟩

def listName : String := "struct Voxel with 3 elements"

def inOrder : Reader Voxel :=
  (element Form.reader 0 listName).bind fun sigmaA =>
    (element Form.reader 1 listName).bind fun sigmaS =>
      orEnd
        ((Form.reader : Reader Rgb).bind fun emission =>
          closeList.map fun _ => ⟨sigmaA, sigmaS, emission⟩)
        ⟨sigmaA, sigmaS, Rgb.zero⟩

end Voxel

instance : Form Voxel where
  reader := struct "struct Voxel" Voxel.inOrder
    (objectBody Voxel.field ⟨none, none, none⟩ Voxel.finish)
  tree v := .object [("sigma_a", Form.tree v.sigmaA), ("sigma_s", Form.tree v.sigmaS),
    ("emission", Form.tree v.emission)]

end DenseMedium
