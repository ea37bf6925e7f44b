import DenseMedium.Grid.Voxels
import DenseMedium.Random.Words

/-!
Random media. The voxels are drawn in canonical order, and each takes the words of its coefficients
in channel order.
-/

namespace DenseMedium

namespace WordSource

variable {m : Type → Type} [Monad m]

/-- A coefficient with uniform channels; it takes three words. -/
def color (source : WordSource) : StateT Nat m Rgb :=
  return ⟨← source.uniform, ← source.uniform, ← source.uniform⟩

/-- A voxel that does not emit; it takes six words. -/
def scatterer (source : WordSource) : StateT Nat m Voxel :=
  return ⟨← source.color, ← source.color, Rgb.zero⟩

/-- A voxel that emits; it takes nine words. -/
def emitter (source : WordSource) : StateT Nat m Voxel :=
  return ⟨← source.color, ← source.color, ← source.color⟩

end WordSource

namespace VoxelGrid

/-- A grid of voxels that do not emit, and the number of words it took. Dimensions that are refused
take none. -/
def random (source : WordSource) (d : Dimensions) : Outcome VoxelGrid × Nat :=
  match zeroed d with
  | .error e => (.error e, 0)
  | .ok g =>
      let (values, taken) := StateT.run (m := Id) (g.values.toList.mapM fun _ => source.scatterer) 0
      (.ok ⟨g.extent, values.toArray⟩, taken)

/-- The filler of a grid of voxels that emit. -/
def randomFill (source : WordSource) (_ : Point) : StateT Nat Checked Voxel := source.emitter

end VoxelGrid

end DenseMedium
