import DenseMedium.Proofs.Majorant.Anywhere
import DenseMedium.Proofs.Structured.Encoding

/-!
Grids that some length of zero leaves without points.

A grid can be made over any extent without negative lengths. A document and a grid of majorants are
then cut into planes, and a document also into rows. Grids without planes are cut into nothing. Where
the planes themselves are empty there is no length to cut at, and both faults are met.

* `encode_cases`: what writing answers, by the number of voxels in a plane.
* `planes_decide`: writing and building end with a value or a refusal for every grid whose width and
  height are not zero, whatever its depth and wherever it lies, writing as far as memory goes. For the
  other grids writing faults always, and building for the sizes that it does not refuse.
-/

namespace DenseMedium

namespace Grid

/-- The grids that are made of values over an extent without negative lengths. -/
theorem full_of_ofValues {α : Type} {e : Extent} {values : Array α} {g : Grid α}
    (accepted : ofValues e values = .ok g) (nonnegative : e.Nonnegative)
    (bounded : ∃ top, e.leastUpperBound = .ok top) : g.Full ∧ g = ⟨e, values⟩ := by
  obtain ⟨counted, rfl⟩ := ofValues_eq_ok.mp accepted
  obtain ⟨few, size⟩ := (Extent.pointCount_eq_ok nonnegative).mp counted
  exact ⟨⟨bounded, size, size ▸ few⟩, rfl⟩

end Grid

namespace Structured

open Json
open Majorant (build Cuts)

variable {g : VoxelGrid}

theorem isCuttable_iff (nonnegative : g.extent.Nonnegative) :
    isCuttable g = true ↔ g.extent.width * g.extent.height ≠ 0 := by
  have width : g.dimensions.width.toNat = g.extent.width :=
    Coordinate.toNat_toUInt32 nonnegative.1
  have height : g.dimensions.height.toNat = g.extent.height :=
    Coordinate.toNat_toUInt32 nonnegative.2.1
  change decide (g.dimensions.width.toNat * g.dimensions.height.toNat ≠ 0) = true ↔ _
  rw [width, height, decide_eq_true_iff]

/-- What stands in a document before its planes. -/
def beforePlanes (l : Layout) (g : VoxelGrid) : Bytes :=
  (opening l (dimensionMembers g.dimensions) gridKey).flatten

/-- Whether writing a grid in a layout meets a fault. That is the fault of an empty piece where memory
holds the spaces of one level and what stands before the planes. -/
structure Faults (l : Layout) (g : VoxelGrid) : Prop where
  fault : ∃ x, (x = .emptyPiece ∨ x = .capacityOverflow) ∧ encode l g = .error (.fault x)
  emptyPiece : l.Fits → (beforePlanes l g).length ≤ Memory.assured →
    encode l g = .error (.fault .emptyPiece)

theorem faults_of_not_cuttable (finite : firstNonFinite? g = .ok none)
    (uncuttable : isCuttable g = false) (l : Layout) : Faults l g := by
  by_cases fits : l.Fits
  · have written : writing l g = ⟨opening l (dimensionMembers g.dimensions) gridKey,
        .error (.fault .emptyPiece)⟩ := by
      rw [writing_of_fits finite fits, uncuttable]
      rfl
    constructor
    · unfold encode
      rw [written]
      rcases Writing.collect_cases _ with reached | overflows
      · exact ⟨_, .inl rfl, reached⟩
      · exact ⟨_, .inr rfl, overflows⟩
    · intro _ short
      unfold encode
      rw [written]
      exact Writing.collect_of_short short
  · exact ⟨⟨_, .inr rfl, encode_of_not_fits finite fits⟩, fun held => absurd held fits⟩

/-- Writing a full grid makes its document or names a voxel that is not finite, if a plane has voxels.
Where planes are empty there is no voxel to name, and no document. -/
theorem encode_cases (hg : g.Full) (nonnegative : g.extent.Nonnegative) (l : Layout) :
    (g.extent.width * g.extent.height ≠ 0 →
        (∃ b, Encodes l g b) ∨ ∃ p, encode l g = refuse (.schema (.nonFinite p))) ∧
      (g.extent.width * g.extent.height = 0 → Faults l g) := by
  have cuttable := isCuttable_iff nonnegative
  refine ⟨fun planes => ?_, fun empty => ?_⟩
  · rcases firstNonFinite?_cases hg.bounded with ⟨p, found⟩ | finite
    · exact .inr ⟨p, encode_of_refused found l⟩
    · have document : HasDocument g := ⟨finite, cuttable.mpr planes⟩
      exact .inl ⟨_, document.encodes l⟩
  · have valueless : g.values = #[] := by
      rw [← Array.size_eq_zero_iff, hg.size_eq, Extent.volume_eq, empty, Nat.zero_mul]
    have finite : firstNonFinite? g = .ok none :=
      (firstNonFinite?_eq_none hg.size_eq).mpr ⟨hg.bounded, by simp [valueless]⟩
    have uncuttable : isCuttable g = false := by
      rw [← Bool.not_eq_true, cuttable, not_ne_iff]
      exact empty
    exact faults_of_not_cuttable finite uncuttable l

/-- **Only empty planes fault.** For a grid made of values over an extent without negative lengths
and with a bound that fits, the width and the height decide. If neither is zero, writing in any
layout ends with the document, as far as memory goes, or names a voxel, and building with any size ends
with majorants or names an axis. If one is zero, writing faults, and so does building unless it refuses
the size. -/
theorem planes_decide {e : Extent} {values : Array Voxel}
    (accepted : Grid.ofValues e values = .ok g) (nonnegative : e.Nonnegative)
    (bounded : ∃ top, e.leastUpperBound = .ok top) (room : 36 * values.size ≤ 2 ^ 63 - 1)
    (l : Layout) (s : UInt32) :
    (e.width ≠ 0 ∧ e.height ≠ 0 →
        ((∃ b, Encodes l g b) ∨ ∃ p, encode l g = refuse (.schema (.nonFinite p))) ∧
        ((∃ sv, build g s = .ok sv) ∨ ∃ axis, build g s =
          refuse (.indivisibleDimension axis (g.dimensions.along axis) s))) ∧
      (e.width = 0 ∨ e.height = 0 →
        Faults l g ∧
        (Cuts s e → build g s = .error (.fault .emptySlice)) ∧
        (¬ Cuts s e → ∃ axis, build g s =
          refuse (.indivisibleDimension axis (g.dimensions.along axis) s))) := by
  obtain ⟨full, rfl⟩ := Grid.full_of_ofValues accepted nonnegative bounded
  have fits : Cell.width Rgb * e.volume ≤ Size.maxBytes := by
    have size : values.size = e.volume := full.size_eq
    change 12 * e.volume ≤ 9223372036854775807
    omega
  obtain ⟨documents, noDocument⟩ := encode_cases full nonnegative l
  obtain ⟨refused, builds, faults⟩ := Majorant.build_cases full nonnegative fits s
  refine ⟨fun lengths => ?_, fun zero => ?_⟩
  · have planes : e.width * e.height ≠ 0 := Nat.mul_ne_zero lengths.1 lengths.2
    refine ⟨documents planes, ?_⟩
    by_cases cuts : Cuts s e
    · exact .inl (builds cuts planes)
    · exact .inr (refused cuts)
  · have empty : e.width * e.height = 0 := Nat.mul_eq_zero.mpr zero
    exact ⟨noDocument empty, fun cuts => faults cuts empty, refused⟩

/-- Rows of two voxels, but no plane of them, to the left of the origin. -/
def planeless : VoxelGrid := ⟨⟨⟨-3, 0, 0⟩, ⟨2, 1, 0⟩⟩, #[]⟩

/-- A grid without planes is written and built like any other. -/
theorem planes_decide_planeless :
    (Grid.ofValues planeless.extent planeless.values = .ok planeless ∧
      planeless.extent.Nonnegative ∧ (∃ top, planeless.extent.leastUpperBound = .ok top) ∧
      36 * planeless.values.size ≤ 2 ^ 63 - 1) ∧
    planeless.extent.width ≠ 0 ∧ planeless.extent.height ≠ 0 ∧
    ∀ l s, ((∃ b, Encodes l planeless b) ∨
        ∃ p, encode l planeless = refuse (.schema (.nonFinite p))) ∧
      ((∃ sv, build planeless s = .ok sv) ∨ ∃ axis, build planeless s =
        refuse (.indivisibleDimension axis (planeless.dimensions.along axis) s)) := by
  have accepted : Grid.ofValues planeless.extent planeless.values = .ok planeless := rfl
  have nonnegative : planeless.extent.Nonnegative := ⟨by decide, by decide, by decide⟩
  have bounded : ∃ top, planeless.extent.leastUpperBound = .ok top := ⟨⟨-1, 1, 0⟩, by decide⟩
  have room : 36 * planeless.values.size ≤ 2 ^ 63 - 1 := by decide
  refine ⟨⟨accepted, nonnegative, bounded, room⟩, by decide, by decide, fun l s => ?_⟩
  obtain ⟨answers, -⟩ := planes_decide accepted nonnegative bounded room l s
  exact answers ⟨by decide, by decide⟩

/-- One plane of one row, and nothing in the row. -/
def flat : VoxelGrid := ⟨Extent.ofShape ⟨0, 1, 1⟩, #[]⟩

/-- A grid without columns is made of values like any other. Writing it ends neither with a text nor
with a refusal, and neither does building its majorants with size one. -/
theorem flat_faults :
    (Grid.ofValues flat.extent flat.values = .ok flat ∧ flat.extent.Nonnegative ∧
      flat.extent.leastUpperBound = .ok ⟨0, 1, 1⟩) ∧
    (encode .compact flat = .error (.fault .emptyPiece) ∧
      (∀ b, encode .compact flat ≠ .ok b) ∧ ∀ x, encode .compact flat ≠ refuse x) ∧
    build flat 1 = .error (.fault .emptySlice) ∧
      (∀ sv, build flat 1 ≠ .ok sv) ∧ ∀ x, build flat 1 ≠ refuse x := by
  have writing : encode .compact flat = .error (.fault .emptyPiece) := by decide +kernel
  have building : build flat 1 = .error (.fault .emptySlice) := rfl
  rw [writing, building]
  exact ⟨⟨rfl, ⟨by decide, by decide, by decide⟩, by decide⟩, ⟨rfl, nofun, nofun⟩, rfl, nofun,
    nofun⟩

end Structured

end DenseMedium
