import DenseMedium.Json.Object
import DenseMedium.Json.Skip
import DenseMedium.Json.Value
import DenseMedium.Lattice.Extent

/-!
The form of structured documents.

A document is an object with the members `width`, `height`, `depth` and `grid`, in any order and
with any company, or the list of those four values. The grid is a list of depth planes, a plane a
list of rows, a row a list of records, and a record a list of two or three `[r, g, b]` triples:
absorption, scattering and the optional emission.

Nothing here compares the declared dimensions with the nesting; components are kept in double
precision.
-/

namespace DenseMedium

namespace Structured

open Json

/-- The components of one coefficient, as they are read. -/
structure Components where
  r : Double
  g : Double
  b : Double
  deriving DecidableEq, Repr

structure RawRecord where
  sigmaA : Components
  sigmaS : Components
  emission : Components
  deriving DecidableEq, Repr

abbrev Row := List RawRecord

abbrev Plane := List Row

structure Document where
  width : UInt32
  height : UInt32
  depth : UInt32
  planes : List Plane
  deriving DecidableEq, Repr

def Components.zero : Components := ⟨.zero, .zero, .zero⟩

def components : Reader Components := triple Components.mk double

/-! ### Records -/

def recordName : String := "a voxel record of 2 or 3 [r, g, b] triples"

/-- The end of a record with three triples. A fourth element is read before it is refused. -/
def endOfRecord : Reader Unit := fun e s =>
  match nextItem e false s with
  | .error x => .error x
  | .ok none => closeList e s
  | .ok (some start) =>
      match skipValue e start.1 with
      | .error x => .error x
      | .ok _ => .error (.invalidLength 4 recordName)

/-- What follows the first two triples of a record. -/
def recordTail (sigmaA sigmaS : Components) : Reader RawRecord :=
  orEnd
    (components.bind fun emission => endOfRecord.map fun _ => ⟨sigmaA, sigmaS, emission⟩)
    ⟨sigmaA, sigmaS, .zero⟩

def recordBody : Reader RawRecord :=
  (element components 0 recordName).bind fun sigmaA =>
    (element components 1 recordName).bind fun sigmaS => recordTail sigmaA sigmaS

def record : Reader RawRecord := list recordName recordBody

def planes : Reader (List Plane) := sequence (sequence (sequence record))

/-! ### Documents -/

namespace Document

def name : String := "struct StructuredDocument"

def listName : String := "struct StructuredDocument with 4 elements"

/-- The members that have been read. -/
structure Draft where
  width : Option UInt32
  height : Option UInt32
  depth : Option UInt32
  planes : Option (List Plane)

namespace Draft

def empty : Draft := ⟨none, none, none, none⟩

/-- How the value of a key is read. The values of unknown keys are skipped. -/
def field (d : Draft) (key : String) : Except ReadError (Reader Draft) :=
  if key = "width" then once key d.width unsignedWord fun v => { d with width := some v }
  else if key = "height" then once key d.height unsignedWord fun v => { d with height := some v }
  else if key = "depth" then once key d.depth unsignedWord fun v => { d with depth := some v }
  else if key = "grid" then once key d.planes Structured.planes fun v => { d with planes := some v }
  else .ok (skipValue.map fun _ => d)

def finish (d : Draft) : Except ReadError Document := do
  let width ← required "width" d.width
  let height ← required "height" d.height
  let depth ← required "depth" d.depth
  let planes ← required "grid" d.planes
  return ⟨width, height, depth, planes⟩

end Draft

def byName : Reader Document := objectBody Draft.field Draft.empty Draft.finish

def inOrder : Reader Document :=
  (element unsignedWord 0 listName).bind fun width =>
    (element unsignedWord 1 listName).bind fun height =>
      (element unsignedWord 2 listName).bind fun depth =>
        (element Structured.planes 3 listName).bind fun planes =>
          closeList.map fun _ => ⟨width, height, depth, planes⟩

/-- The document in the bytes up to `e`. -/
def read (e : Ending) (b : Bytes) : Except ReadError Document :=
  document (struct name inOrder byName) e b

def dimensions (d : Document) : Dimensions := ⟨d.width, d.height, d.depth⟩

/-- All records, plane by plane and row by row. -/
def records (d : Document) : List RawRecord := d.planes.flatten.flatten

end Document

end Structured

end DenseMedium
