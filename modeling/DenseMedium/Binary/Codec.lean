import DenseMedium.Binary.Header
import DenseMedium.Binary.Record
import DenseMedium.Majorant
import DenseMedium.Stream.Source
import DenseMedium.Stream.Written

/-!
The binary form of grids: a header and the records of all cells in canonical order, nothing else.

`pieces` is the sequence of writes, `encode` their concatenation, and `write` what a sink that may
run full takes of them. `decode` takes a stream that holds exactly what its header declares and
anchors the grid at the origin.
-/

namespace DenseMedium

namespace Binary

variable {α : Type} [Record α]

/-- The writes of a grid, in order. -/
def pieces (g : Grid α) : List Bytes :=
  (Header.ofExtent g.extent).pieces ++ g.values.toList.flatMap Record.pieces

/-- The stream of a grid, when memory can hold it. -/
def encode (g : Grid α) : Checked Bytes := do
  let body ← Size.mul g.values.size (Record.size α)
  let length ← Size.add Header.size body
  Size.reserve length 1
  return (pieces g).flatten

def writing (g : Grid α) : Writing := ⟨pieces g, .ok ()⟩

/-- What a sink with room for `room` bytes takes of a grid. -/
def write (room : Nat) (g : Grid α) : Written := .ofPieces room (pieces g)

/-- The next `count` records. -/
def readRecords : Nat → Bytes → Option (List α)
  | 0, _ => some []
  | n + 1, b => do
      let (v, rest) ← Record.read? b
      let others ← readRecords n rest
      return v :: others

/-- The grid of a stream. -/
def decode [Cell α] (b : Bytes) : Outcome (Grid α) := do
  let (_, e) ← Header.readStream b (Record.size α)
  let count ← e.pointCount
  Size.reserve count (Cell.width α)
  match readRecords count (b.drop Header.size) with
  | some values => Grid.ofValues e values.toArray
  | none => refuse (.io .endOfInput)

/-- The grid that a source delivers. Everything is read before anything is decoded. -/
def read [Cell α] (s : Source) : Outcome (Grid α) :=
  match s.readToEnd with
  | .ok b => decode b
  | .error e => refuse (.io e)

/-- The stream of the majorants. The block size is not part of it. -/
def encodeMajorants (sv : SupervoxelGrid) : Checked Bytes := encode sv.majorants

def writeMajorants (room : Nat) (sv : SupervoxelGrid) : Written := write room sv.majorants

end Binary

end DenseMedium
