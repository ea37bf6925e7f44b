import DenseMedium.Proofs.Binary.RoundTrip
import DenseMedium.Proofs.Binary.Views
import DenseMedium.Proofs.Majorant.Bounds
import DenseMedium.Proofs.Structured.Framing

/-!
From a structured document to two mapped byte strings.

A document is decoded, its grid and the majorants of the grid are encoded, and both byte strings are
read in place. `mapped_dominates`: the majorant read at the block of a voxel dominates the extinction
of the voxel read, without an exception for values that are not numbers, because a decoded
coefficient is finite; and the voxel read is the decoded one.
-/

namespace DenseMedium

namespace Majorant

variable {α : Type} [Record α] [Cell α] [Record.Lawful α]

/-- The bytes of a full grid at the origin have a view, and it answers like the grid. -/
theorem exists_view_of_encode {g : Grid α} (origin : g.extent.minimum = Point.zero)
    (complete : g.Complete)
    (room : Header.size + Record.size α * g.extent.volume ≤ Size.maxBytes) :
    ∃ (b : Bytes) (v : View α), Binary.encode g = .ok b ∧ View.ofBytes b = .ok v ∧
      ∀ p, v.get p = g.get p := by
  rw [← complete.size_eq] at room
  have count : g.extent.pointCount = .ok g.values.size := by
    rw [complete.size_eq, complete.pointCount_eq_ok]
  have decoded := Binary.decode_stream room complete.positive count
  rw [Extent.ofShape, ← origin] at decoded
  have length : (Binary.stream g).length ≤ Size.maxBytes := by rwa [Binary.length_stream]
  obtain ⟨v, hv, -, same⟩ := View.exists_of_decode length decoded
  exact ⟨_, v, Binary.encode_eq_ok room, hv, same⟩

/-- The majorant of a cube dominates the extinction of each finite voxel in it. -/
theorem cubeMajorant_dominates {g : VoxelGrid} {k : Coordinate} {p : Point}
    (tiles : g.extent.Tiles k) (hp : p ∈ g.extent) (finite : (g.valueAt p).isFinite = true) :
    (cubeMajorant g k (p.quotient k)).dominates (g.valueAt p).sigmaT = true := by
  obtain ⟨hr, hg, hb⟩ := Voxel.isNaN_sigmaT finite
  have seen := (mem_extinctions tiles (tiles.quotient_mem hp)).mpr ⟨p, hp, rfl, rfl⟩
  have bound (channel : Rgb → Single) (hc : channel ∈ Rgb.channels) :=
    (isMaximum_cubeMajorant g k (p.quotient k) hc).bound _ (List.mem_map_of_mem seen)
  unfold Rgb.dominates
  rw [Bool.and_eq_true, Bool.and_eq_true]
  exact ⟨⟨bound Rgb.r (by simp [Rgb.channels]) hr, bound Rgb.g (by simp [Rgb.channels]) hg⟩,
    bound Rgb.b (by simp [Rgb.channels]) hb⟩

/-- What a renderer maps for a document that decodes: at every voxel, the majorant record of its
block dominates the extinction of the voxel record, which is the decoded voxel. -/
theorem mapped_dominates {text : String} {g : VoxelGrid} {s : UInt32}
    (decoded : Structured.decode text = .ok g) (room : 16 + 48 * g.extent.volume ≤ 2 ^ 63 - 1)
    (divides : s.toNat ∣ g.extent.width ∧ s.toNat ∣ g.extent.height ∧ s.toNat ∣ g.extent.depth) :
    ∃ (sv : SupervoxelGrid) (voxelBytes majorantBytes : Bytes) (voxels : View Voxel)
      (majorants : View Rgb),
      Binary.encode g = .ok voxelBytes ∧ View.ofBytes voxelBytes = .ok voxels ∧
      build g s = .ok sv ∧ Binary.encodeMajorants sv = .ok majorantBytes ∧
      View.ofBytes majorantBytes = .ok majorants ∧
      ∀ p ∈ g.extent, ∃ v block m, g.get p = .ok v ∧ voxels.get p = .ok v ∧
        p.div s.toInt32 = .ok block ∧ majorants.get block = .ok m ∧
        m.dominates v.sigmaT = true := by
  obtain ⟨origin, complete, finite⟩ := Structured.sound_of_decodeBytes decoded
  obtain ⟨edge, -, tiles⟩ := tiles_of_dvd origin complete.positive divides
  have cells : Cell.width Voxel * g.extent.volume ≤ Size.maxBytes := by
    change 36 * _ ≤ 9223372036854775807
    omega
  have built := build_eq_ok (s := s) complete (edge ▸ tiles) cells
  rw [edge] at built
  obtain ⟨voxelBytes, voxels, hencode, hview, hvoxels⟩ :=
    exists_view_of_encode origin complete room
  have fewer : Header.size + Record.size Rgb * (majorants g s.toInt32).extent.volume ≤
      Size.maxBytes := by
    have := tiles.volume_blocks_le
    change 16 + 16 * (g.extent.blocks s.toInt32).volume ≤ 9223372036854775807
    omega
  obtain ⟨majorantBytes, records, hencode', hview', hmajorants⟩ :=
    exists_view_of_encode rfl (complete_majorants tiles complete.volume_lt) fewer
  refine ⟨_, voxelBytes, majorantBytes, voxels, records, hencode, hview, built, hencode', hview',
    fun p hp => ?_⟩
  obtain ⟨⟨hx, -⟩, ⟨hy, -⟩, ⟨hz, -⟩⟩ := tiles.mem_iff.mp hp
  have value := Grid.get_eq_valueAt complete hp
  have stored := ((Grid.get_eq_ok complete).mp value).2
  refine ⟨_, _, _, value, (hvoxels p).trans value, tiles.div_eq_ok hx hy hz,
    (hmajorants _).trans (get_majorants tiles complete.volume_lt (tiles.quotient_mem hp)),
    cubeMajorant_dominates tiles hp (finite _ (Array.mem_of_getElem? stored))⟩

/-- A text with coefficients whose sums are infinite, cut into two blocks. -/
theorem mapped_dominates_infinite_sums : ∃ text : String,
    Structured.decode text = .ok Structured.leastAndGreatest ∧
    16 + 48 * Structured.leastAndGreatest.extent.volume ≤ 2 ^ 63 - 1 ∧
    ((2 : UInt32).toNat ∣ Structured.leastAndGreatest.extent.width ∧
      (2 : UInt32).toNat ∣ Structured.leastAndGreatest.extent.height ∧
      (2 : UInt32).toNat ∣ Structured.leastAndGreatest.extent.depth) ∧
    ∃ (sv : SupervoxelGrid) (voxels : View Voxel) (majorants : View Rgb),
      build Structured.leastAndGreatest 2 = .ok sv ∧
      ∀ p ∈ Structured.leastAndGreatest.extent, ∃ v block m, voxels.get p = .ok v ∧
        p.div 2 = .ok block ∧ majorants.get block = .ok m ∧ m.dominates v.sigmaT = true := by
  have sound := Structured.sound_leastAndGreatest
  obtain ⟨text, bytes⟩ := Structured.exists_text sound.finite .compact
  have decoded := Structured.decode_text sound bytes
  rw [Grid.map_eq_self fun v hv => Structured.RawRecord.narrow_asRead (sound.finite v hv)] at decoded
  have room : 16 + 48 * Structured.leastAndGreatest.extent.volume ≤ 2 ^ 63 - 1 := by decide
  have divides : (2 : UInt32).toNat ∣ Structured.leastAndGreatest.extent.width ∧
      (2 : UInt32).toNat ∣ Structured.leastAndGreatest.extent.height ∧
      (2 : UInt32).toNat ∣ Structured.leastAndGreatest.extent.depth := ⟨⟨2, rfl⟩, ⟨1, rfl⟩, ⟨1, rfl⟩⟩
  obtain ⟨sv, _, _, voxels, majorants, -, -, built, -, -, dominates⟩ :=
    mapped_dominates decoded room divides
  refine ⟨text, decoded, room, divides, sv, voxels, majorants, built, fun p hp => ?_⟩
  obtain ⟨v, block, m, -, voxel, quotient, majorant, bound⟩ := dominates p hp
  exact ⟨v, block, m, voxel, quotient, majorant, bound⟩

end Majorant

end DenseMedium
