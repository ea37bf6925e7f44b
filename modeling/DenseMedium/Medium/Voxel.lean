import DenseMedium.Medium.Rgb

/-!
Voxels: the optical properties of one cell of a participating medium. Extinction is not stored; it
is the sum of absorption and scattering.
-/

namespace DenseMedium

@[ext]
structure Voxel where
  /-- Absorption. -/
  sigmaA : Rgb
  /-- Scattering. -/
  sigmaS : Rgb
  /-- Emitted radiance, zero for a medium that does not emit. -/
  emission : Rgb
  deriving DecidableEq, Repr, Inhabited

namespace Voxel

def empty : Voxel := ⟨.zero, .zero, .zero⟩

/-- Extinction, channel by channel. -/
def sigmaT (v : Voxel) : Rgb := v.sigmaA.add v.sigmaS

/-- Numeric equality of every coefficient. -/
def equal (v w : Voxel) : Bool :=
  v.sigmaA.equal w.sigmaA && v.sigmaS.equal w.sigmaS && v.emission.equal w.emission

def isFinite (v : Voxel) : Bool := v.sigmaA.isFinite && v.sigmaS.isFinite && v.emission.isFinite

end Voxel

end DenseMedium
