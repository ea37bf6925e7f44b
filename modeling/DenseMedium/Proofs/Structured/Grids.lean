import DenseMedium.Structured.Decode
import DenseMedium.Proofs.Coefficient.Finite
import DenseMedium.Proofs.Grid.Access
import DenseMedium.Proofs.Lattice.Dimensions

/-!
The grid of a document that has been read.

`Document.toGrid_eq_ok`: a document makes a grid exactly when its dimensions stand for an extent, its
lists are nested as the dimensions say, and every component fits single precision. The grid lies at
the origin, and its values are the narrowed records in the order of the document. In particular every
coefficient of it is finite.
-/

namespace DenseMedium

theorem length_flatten_of_forall {α : Type} {n : Nat} :
    ∀ {xss : List (List α)}, (∀ xs ∈ xss, xs.length = n) → xss.flatten.length = xss.length * n
  | [], _ => (Nat.zero_mul n).symm
  | xs :: xss, h => by
      obtain ⟨hx, hxs⟩ := List.forall_mem_cons.mp h
      rw [List.flatten_cons, List.length_append, length_flatten_of_forall hxs, hx, List.length_cons,
        Nat.succ_mul, Nat.add_comm]

namespace Structured

/-! ### Coefficients -/

/-- A record in single precision. -/
def RawRecord.narrow (r : RawRecord) : Voxel :=
  ⟨r.sigmaA.narrow, r.sigmaS.narrow, r.emission.narrow⟩

theorem Components.outOfRange?_eq_none {c : Components} :
    c.outOfRange? = none ↔ c.narrow.isFinite = true := by
  unfold outOfRange?
  rw [List.find?_eq_none, Rgb.isFinite_iff]
  simp [narrow]

theorem coefficient_eq_ok {p : Point} {name : String} {c : Components} {v : Rgb} :
    coefficient p name c = .ok v ↔ c.narrow.isFinite = true ∧ v = c.narrow := by
  rw [← Components.outOfRange?_eq_none]
  unfold coefficient
  cases c.outOfRange? with
  | none => simp [eq_comm]
  | some d => simp [refuse]

theorem RawRecord.toVoxel_eq_ok {p : Point} {r : RawRecord} {v : Voxel} :
    r.toVoxel p = .ok v ↔ r.narrow.isFinite = true ∧ v = r.narrow := by
  unfold toVoxel
  simp only [bind_eq_ok, coefficient_eq_ok, pure_eq_ok, Except.ok.injEq, Voxel.isFinite_iff]
  constructor
  · rintro ⟨_, ⟨ha, rfl⟩, _, ⟨hs, rfl⟩, _, ⟨he, rfl⟩, rfl⟩
    exact ⟨⟨ha, hs, he⟩, rfl⟩
  · rintro ⟨⟨ha, hs, he⟩, rfl⟩
    exact ⟨_, ⟨ha, rfl⟩, _, ⟨hs, rfl⟩, _, ⟨he, rfl⟩, rfl⟩

/-- The conversion of a list of records does not depend on their points when it succeeds. -/
theorem mapM_toVoxel_eq_ok : ∀ {ps : List Point} {rs : List RawRecord} {vs : List Voxel},
    ps.length = rs.length →
      ((ps.zip rs).mapM (fun (p, r) => r.toVoxel p) = .ok vs ↔
        (∀ r ∈ rs, r.narrow.isFinite = true) ∧ vs = rs.map RawRecord.narrow)
  | [], [], vs, _ => by
      rw [List.zip_nil_left, List.mapM_nil, pure_eq_ok, Except.ok.injEq]
      exact ⟨fun h => ⟨fun _ hr => absurd hr List.not_mem_nil, h.symm⟩, fun h => h.2.symm⟩
  | p :: ps, r :: rs, vs, h => by
      have ih (us : List Voxel) := @mapM_toVoxel_eq_ok ps rs us (Nat.succ.inj h)
      simp only [List.zip_cons_cons, List.mapM_cons, bind_eq_ok, RawRecord.toVoxel_eq_ok, ih,
        pure_eq_ok, Except.ok.injEq, List.forall_mem_cons, List.map_cons]
      constructor
      · rintro ⟨_, ⟨hr, rfl⟩, _, ⟨hrs, rfl⟩, rfl⟩
        exact ⟨⟨hr, hrs⟩, rfl⟩
      · rintro ⟨⟨hr, hrs⟩, rfl⟩
        exact ⟨_, ⟨hr, rfl⟩, _, ⟨hrs, rfl⟩, rfl⟩

/-! ### Nesting -/

theorem checkLength_eq_ok {what : String} {expected actual : Nat} {u : Unit} :
    checkLength what expected actual = .ok u ↔ actual = expected := by
  unfold checkLength
  split <;> simp_all [refuse]

namespace Document

variable {d : Document} {g : VoxelGrid}

/-- Whether the lists of a document are nested as its dimensions say. -/
def Nested (d : Document) : Prop :=
  d.planes.length = d.depth.toNat ∧ ∀ plane ∈ d.planes, plane.length = d.height.toNat ∧
    ∀ row ∈ plane, row.length = d.width.toNat

theorem checkNesting_eq_ok {u : Unit} : d.checkNesting = .ok u ↔ d.Nested := by
  unfold checkNesting Nested
  simp only [bind_eq_ok, checkLength_eq_ok, forM_eq_ok]
  constructor
  · rintro ⟨_, planes, rows⟩
    exact ⟨planes, fun plane hp => (rows plane hp).elim fun _ h => h⟩
  · rintro ⟨planes, rows⟩
    exact ⟨(), planes, fun plane hp => ⟨(), rows plane hp⟩⟩

theorem Nested.length_records (h : d.Nested) : d.records.length = d.dimensions.cellCount := by
  have rows := length_flatten_of_forall fun plane hp => (h.2 plane hp).1
  have records : d.records.length = d.planes.flatten.length * d.width.toNat :=
    length_flatten_of_forall fun row hr => by
      obtain ⟨plane, hp, hrow⟩ := List.mem_flatten.mp hr
      exact (h.2 plane hp).2 row hrow
  rw [records, rows, h.1, Dimensions.cellCount]
  change d.depth.toNat * d.height.toNat * d.width.toNat =
    d.width.toNat * d.height.toNat * d.depth.toNat
  rw [Nat.mul_comm, Nat.mul_comm d.depth.toNat, Nat.mul_assoc]

/-- Which documents make a grid, and which grid. -/
theorem toGrid_eq_ok : d.toGrid = .ok g ↔ d.dimensions.Valid ∧ d.Nested ∧
    (∀ r ∈ d.records, r.narrow.isFinite = true) ∧
    g = ⟨d.dimensions.extent, (d.records.map RawRecord.narrow).toArray⟩ := by
  unfold toGrid
  by_cases valid : d.dimensions.Valid
  · rw [Extent.ofDimensions?_eq_some.mpr ⟨valid, rfl⟩]
    have bound := Dimensions.Valid.leastUpperBound d.dimensions
    simp only [valid.pointCount_eq_ok, Extent.points_eq_ok bound, lift_ok, ok_bind, bind_eq_ok,
      checkNesting_eq_ok, checkRecordCount, checkLength_eq_ok]
    have points : d.dimensions.extent.enumerate.length = d.dimensions.cellCount := by
      rw [Extent.length_enumerate, valid.volume_eq]
    constructor
    · rintro ⟨_, count, _, nested, vs, hvs, hg⟩
      obtain ⟨finite, rfl⟩ := (mapM_toVoxel_eq_ok (points.trans count.symm)).mp hvs
      unfold Grid.ofValues at hg
      rw [valid.pointCount_eq_ok, lift_ok, ok_bind, List.size_toArray, List.length_map, count,
        if_neg (fun h => h rfl), pure_eq_ok] at hg
      cases hg
      exact ⟨valid, nested, finite, rfl⟩
    · rintro ⟨-, nested, finite, rfl⟩
      have count := nested.length_records
      refine ⟨(), count, (), nested, _,
        (mapM_toVoxel_eq_ok (points.trans count.symm)).mpr ⟨finite, rfl⟩, ?_⟩
      unfold Grid.ofValues
      rw [valid.pointCount_eq_ok, lift_ok, ok_bind, List.size_toArray, List.length_map, count,
        if_neg (fun h => h rfl), pure_eq_ok]
  · rw [Extent.ofDimensions?_eq_none.mpr valid]
    simp [refuse, valid]

end Document

/-! ### Decoded grids -/

/-- What every decoded grid is: a full grid at the origin whose coefficients are finite. -/
structure Sound (g : VoxelGrid) : Prop where
  origin : g.extent.minimum = Point.zero
  complete : g.Complete
  finite : ∀ v ∈ g.values, v.isFinite = true

theorem Document.sound_of_toGrid {d : Document} {g : VoxelGrid} (h : d.toGrid = .ok g) :
    Sound g := by
  obtain ⟨valid, nested, finite, rfl⟩ := Document.toGrid_eq_ok.mp h
  have size : (d.records.map RawRecord.narrow).toArray.size = d.dimensions.cellCount := by
    rw [List.size_toArray, List.length_map, nested.length_records]
  refine ⟨rfl, ⟨valid.positive, ⟨_, Dimensions.Valid.leastUpperBound _⟩,
    size.trans valid.volume_eq.symm, size ▸ valid.2.2.2⟩, ?_⟩
  intro v hv
  obtain ⟨r, hr, rfl⟩ := List.mem_map.mp (List.mem_toArray.mp hv)
  exact finite r hr

theorem sound_of_decodeBytes {e : Ending} {b : Bytes} {g : VoxelGrid}
    (h : decodeBytes e b = .ok g) : Sound g := by
  unfold decodeBytes at h
  split at h
  · exact Document.sound_of_toGrid h
  · contradiction

end Structured

end DenseMedium
