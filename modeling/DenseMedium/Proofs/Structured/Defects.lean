import DenseMedium.Proofs.Lattice.Regions
import DenseMedium.Proofs.Structured.Grids

/-!
What is wrong with a document that makes no grid.

`Document.Defect d e`: the document `d` has the defect that the error `e` reports. The defects come
in an order: dimensions, number of records, nesting, components. Each one presupposes that there is
none of an earlier kind, and within a kind the first offender in the order of the document counts.
So a document has one defect at most.

* `Document.exists_defect`: a document without defects has dimensions that stand for an extent, is
  nested as they say, and holds no component out of range.
* `Document.toGrid_eq_error`: a document that makes no grid is refused with its defect.
* `Document.get_of_toGrid`: in the grid of a document, each record stands at its own place.
-/

namespace DenseMedium

/-- A list of lists of one length, by row and column. -/
theorem getElem?_flatten_of_forall {α : Type} {n i j : Nat} (hj : j < n) :
    ∀ {xss : List (List α)}, (∀ xs ∈ xss, xs.length = n) →
      xss.flatten[j + n * i]? = xss[i]?.bind fun xs => xs[j]?
  | [], _ => rfl
  | xs :: xss, h => by
      obtain ⟨hx, hxs⟩ := List.forall_mem_cons.mp h
      cases i with
      | zero =>
        rw [Nat.mul_zero, Nat.add_zero, List.flatten_cons, List.getElem?_append_left (hx ▸ hj)]
        rfl
      | succ i =>
        have skip : xs.length ≤ j + n * (i + 1) := by rw [hx, Nat.mul_succ]; omega
        have rest : j + n * (i + 1) - xs.length = j + n * i := by rw [hx, Nat.mul_succ]; omega
        rw [List.flatten_cons, List.getElem?_append_right skip, rest,
          getElem?_flatten_of_forall (i := i) hj hxs]
        rfl

namespace Structured

/-! ### Components -/

/-- The first component of a record that single precision does not hold, and the name of the
coefficient that it belongs to. -/
def RawRecord.outOfRange? (r : RawRecord) : Option (String × Double) :=
  (r.sigmaA.outOfRange?.map (Prod.mk "sigma_a")).or
    ((r.sigmaS.outOfRange?.map (Prod.mk "sigma_s")).or
      (r.emission.outOfRange?.map (Prod.mk "emission")))

section Records

variable {r : RawRecord} {p : Point} {name : String} {c : Double}

theorem coefficient_eq_error {cs : Components} (h : cs.outOfRange? = some c) :
    coefficient p name cs = refuse (.schema (.outOfRange p name c)) := by
  unfold coefficient
  rw [h]

theorem coefficient_of_none {cs : Components} (h : cs.outOfRange? = none) :
    coefficient p name cs = .ok cs.narrow := by
  unfold coefficient
  rw [h, pure_eq_ok]

theorem RawRecord.outOfRange?_eq_none : r.outOfRange? = none ↔ r.narrow.isFinite = true := by
  unfold outOfRange?
  rw [Option.or_eq_none_iff, Option.or_eq_none_iff, Option.map_eq_none_iff, Option.map_eq_none_iff,
    Option.map_eq_none_iff, Components.outOfRange?_eq_none, Components.outOfRange?_eq_none,
    Components.outOfRange?_eq_none, Voxel.isFinite_iff]
  rfl

/-- A record is refused with its first component that is out of range. -/
theorem RawRecord.toVoxel_eq_error (h : r.outOfRange? = some (name, c)) :
    r.toVoxel p = refuse (.schema (.outOfRange p name c)) := by
  unfold outOfRange? at h
  unfold toVoxel
  cases ha : r.sigmaA.outOfRange? with
  | some d =>
    rw [ha] at h
    cases h
    rw [coefficient_eq_error ha]
    rfl
  | none =>
    rw [ha] at h
    rw [coefficient_of_none ha, ok_bind]
    cases hs : r.sigmaS.outOfRange? with
    | some d =>
      rw [hs] at h
      cases h
      rw [coefficient_eq_error hs]
      rfl
    | none =>
      rw [hs] at h
      rw [coefficient_of_none hs, ok_bind]
      obtain ⟨d, he, hd⟩ := Option.map_eq_some_iff.mp h
      cases hd
      rw [coefficient_eq_error he]
      rfl

end Records

namespace Document

variable {d : Document} {e : GridError} {g : VoxelGrid} {p : Point}

/-! ### Places -/

/-- The record at a point: its plane by z, its row by y, its place in the row by x. -/
def recordAt (d : Document) (p : Point) : Option RawRecord := do
  let plane ← d.planes[p.z.toInt.toNat]?
  let row ← plane[p.y.toInt.toNat]?
  row[p.x.toInt.toNat]?

/-- The records of a document that is nested as it says stand in canonical order. -/
theorem recordAt_eq_getElem? (valid : d.dimensions.Valid) (nested : d.Nested)
    (hp : p ∈ d.dimensions.extent) : d.recordAt p = d.records[d.dimensions.extent.rank p]? := by
  obtain ⟨sx, sy, sz⟩ := valid.shape_toInt
  obtain ⟨⟨x0, x1⟩, ⟨y0, y1⟩, ⟨z0, z1⟩⟩ := Extent.mem_def.mp hp
  have origin : d.dimensions.extent.minimum.x.toInt = 0 ∧ d.dimensions.extent.minimum.y.toInt = 0 ∧
      d.dimensions.extent.minimum.z.toInt = 0 := ⟨rfl, rfl, rfl⟩
  obtain ⟨ox, oy, oz⟩ := origin
  have rank : d.dimensions.extent.rank p = p.x.toInt.toNat +
      d.width.toNat * (p.y.toInt.toNat + d.height.toNat * p.z.toInt.toNat) := by
    unfold Extent.rank
    rw [ox, oy, oz, Int.sub_zero, Int.sub_zero, Int.sub_zero, valid.width_eq, valid.height_eq]
    rfl
  have hx : p.x.toInt.toNat < d.width.toNat := by
    change _ < d.dimensions.width.toNat
    omega
  have hy : p.y.toInt.toNat < d.height.toNat := by
    change _ < d.dimensions.height.toNat
    omega
  have rows : ∀ row ∈ d.planes.flatten, row.length = d.width.toNat := by
    intro row hr
    obtain ⟨plane, hplane, hrow⟩ := List.mem_flatten.mp hr
    exact (nested.2 plane hplane).2 row hrow
  unfold recordAt records
  rw [rank, getElem?_flatten_of_forall hx rows,
    getElem?_flatten_of_forall hy fun plane hplane => (nested.2 plane hplane).1]
  simp only [Option.bind_eq_bind, Option.bind_assoc]

/-- In the grid of a document each record stands at its own place, in single precision. -/
theorem get_of_toGrid (h : d.toGrid = .ok g) (hp : p ∈ g.extent) :
    ∃ r, d.recordAt p = some r ∧ g.get p = .ok r.narrow := by
  have complete := (sound_of_toGrid h).complete
  obtain ⟨valid, nested, -, rfl⟩ := toGrid_eq_ok.mp h
  have place := recordAt_eq_getElem? valid nested hp
  have inside : d.dimensions.extent.rank p < d.records.length := by
    rw [nested.length_records, ← valid.volume_eq]
    exact Extent.rank_lt hp
  rw [List.getElem?_eq_getElem inside] at place
  refine ⟨_, place, (Grid.get_eq_ok complete).mpr ⟨hp, ?_⟩⟩
  rw [List.getElem?_toArray, List.getElem?_map, List.getElem?_eq_getElem inside, Option.map_some]

/-! ### Defects -/

/-- Whether a plane has as many rows, and its rows as many records, as the document says. -/
def FitsPlane (d : Document) (plane : Plane) : Prop :=
  plane.length = d.height.toNat ∧ ∀ row ∈ plane, row.length = d.width.toNat

/-- The defects of a document, and the errors that report them. -/
inductive Defect (d : Document) : GridError → Prop where
  | dimensions (invalid : ¬ d.dimensions.Valid) : Defect d (.schema (.dimensions d.dimensions))
  | records (valid : d.dimensions.Valid) (count : d.records.length ≠ d.dimensions.cellCount) :
      Defect d (.dimensionMismatch "voxel records" d.dimensions.cellCount d.records.length)
  | planes (valid : d.dimensions.Valid) (count : d.records.length = d.dimensions.cellCount)
      (wrong : d.planes.length ≠ d.depth.toNat) :
      Defect d (.dimensionMismatch "depth planes" d.depth.toNat d.planes.length)
  | rows {plane : Plane} (valid : d.dimensions.Valid)
      (count : d.records.length = d.dimensions.cellCount)
      (planes : d.planes.length = d.depth.toNat) (first : FirstNot d.FitsPlane plane d.planes)
      (wrong : plane.length ≠ d.height.toNat) :
      Defect d (.dimensionMismatch "rows per plane" d.height.toNat plane.length)
  | row {plane : Plane} {row : Row} (valid : d.dimensions.Valid)
      (count : d.records.length = d.dimensions.cellCount)
      (planes : d.planes.length = d.depth.toNat) (first : FirstNot d.FitsPlane plane d.planes)
      (rows : plane.length = d.height.toNat)
      (wrong : FirstNot (fun row : Row => row.length = d.width.toNat) row plane) :
      Defect d (.dimensionMismatch "voxels per row" d.width.toNat row.length)
  | component {p : Point} {r : RawRecord} {name : String} {c : Double}
      (valid : d.dimensions.Valid) (nested : d.Nested) (inside : p ∈ d.dimensions.extent)
      (place : d.recordAt p = some r)
      (earlier : ∀ q ∈ d.dimensions.extent, q.Before p →
        ∃ r', d.recordAt q = some r' ∧ r'.narrow.isFinite = true)
      (first : r.outOfRange? = some (name, c)) : Defect d (.schema (.outOfRange p name c))

theorem checkLength_of_ne {what : String} {expected actual : Nat} (h : actual ≠ expected) :
    checkLength what expected actual = refuse (.dimensionMismatch what expected actual) := if_neg h

/-- The checks of a plane. -/
def checkPlane (d : Document) (plane : Plane) : Outcome Unit := do
  checkLength "rows per plane" d.height.toNat plane.length
  plane.forM fun row => checkLength "voxels per row" d.width.toNat row.length

theorem checkPlane_eq_ok {plane : Plane} {u : Unit} :
    d.checkPlane plane = .ok u ↔ d.FitsPlane plane := by
  unfold checkPlane FitsPlane
  simp only [bind_eq_ok, checkLength_eq_ok, forM_eq_ok, exists_and_left, exists_const]

theorem checkPlane_of_length {plane : Plane} (wrong : plane.length ≠ d.height.toNat) :
    d.checkPlane plane =
      refuse (.dimensionMismatch "rows per plane" d.height.toNat plane.length) := by
  unfold checkPlane
  rw [checkLength_of_ne wrong]
  rfl

/-- A plane with the right number of rows is refused for its first row of a wrong length. -/
theorem checkPlane_eq_error {plane : Plane} {row : Row} (rows : plane.length = d.height.toNat)
    (first : FirstNot (fun row : Row => row.length = d.width.toNat) row plane) :
    d.checkPlane plane =
      refuse (.dimensionMismatch "voxels per row" d.width.toNat row.length) := by
  obtain ⟨before, after, hplane, earlier, wrong⟩ := first
  unfold checkPlane
  rw [(checkLength_eq_ok (u := ())).mpr rows, ok_bind]
  refine forM_eq_error (f := fun row : Row => checkLength "voxels per row" d.width.toNat row.length)
    (x := row) (checkLength_of_ne wrong) ⟨before, after, hplane, fun q hq => ?_, fun same => ?_⟩
  · exact checkLength_eq_ok.mpr (earlier q hq)
  · exact wrong (checkLength_eq_ok.mp same)

/-- The check of the nesting stops at the first plane that does not fit. -/
theorem checkNesting_eq_error {plane : Plane} {x : Failure}
    (planes : d.planes.length = d.depth.toNat) (first : FirstNot d.FitsPlane plane d.planes)
    (refused : d.checkPlane plane = .error x) : d.checkNesting = .error x := by
  obtain ⟨before, after, hplanes, earlier, notFits⟩ := first
  change (checkLength "depth planes" d.depth.toNat d.planes.length >>= fun _ =>
    d.planes.forM d.checkPlane) = _
  rw [(checkLength_eq_ok (u := ())).mpr planes, ok_bind]
  refine forM_eq_error refused ⟨before, after, hplanes, fun q hq => ?_, fun fits => ?_⟩
  · exact checkPlane_eq_ok.mpr (earlier q hq)
  · exact notFits (checkPlane_eq_ok.mp fits)

/-- The conversion of the records stops at the first one with a component out of range. -/
theorem mapM_toVoxel_eq_error {r : RawRecord} {name : String} {c : Double}
    (valid : d.dimensions.Valid) (nested : d.Nested) (inside : p ∈ d.dimensions.extent)
    (place : d.recordAt p = some r)
    (earlier : ∀ q ∈ d.dimensions.extent, q.Before p →
      ∃ r', d.recordAt q = some r' ∧ r'.narrow.isFinite = true)
    (first : r.outOfRange? = some (name, c)) :
    (d.dimensions.extent.enumerate.zip d.records).mapM (fun (p, r) => r.toVoxel p) =
      refuse (.schema (.outOfRange p name c)) := by
  have bound := Dimensions.Valid.leastUpperBound d.dimensions
  have count : d.dimensions.extent.volume = d.records.length :=
    valid.volume_eq.trans nested.length_records.symm
  rw [recordAt_eq_getElem? valid nested inside] at place
  have point : d.dimensions.extent.enumerate[d.dimensions.extent.rank p]? = some p := by
    rw [Extent.enumerate, List.getElem?_map, List.getElem?_range (Extent.rank_lt inside),
      Option.map_some, Extent.pointAt_rank inside]
  have pair : (d.dimensions.extent.enumerate.zip d.records)[d.dimensions.extent.rank p]? =
      some (p, r) := List.getElem?_zip_eq_some.mpr ⟨point, place⟩
  obtain ⟨hn, hpair⟩ := List.getElem?_eq_some_iff.mp pair
  rw [← List.take_append_drop (d.dimensions.extent.rank p)
    (d.dimensions.extent.enumerate.zip d.records), List.drop_eq_getElem_cons hn, hpair]
  refine mapM_eq_error (f := fun (p, r) => RawRecord.toVoxel p r) (x := (p, r))
    (RawRecord.toVoxel_eq_error first) fun y hy => ?_
  obtain ⟨i, hi, rfl⟩ := List.mem_take_iff_getElem.mp hy
  rw [Nat.lt_min] at hi
  have before : i < d.dimensions.extent.volume := Nat.lt_trans hi.1 (Extent.rank_lt inside)
  have member := Extent.pointAt_mem bound before
  have sooner : (d.dimensions.extent.pointAt i).Before p := by
    have := Extent.before_pointAt bound hi.1 (Extent.rank_lt inside)
    rwa [Extent.pointAt_rank inside] at this
  obtain ⟨r', place', finite⟩ := earlier _ member sooner
  rw [recordAt_eq_getElem? valid nested member, Extent.rank_pointAt bound before] at place'
  obtain ⟨_, rfl⟩ := List.getElem?_eq_some_iff.mp place'
  refine ⟨_, RawRecord.toVoxel_eq_ok.mpr ⟨?_, rfl⟩⟩
  change ((d.dimensions.extent.enumerate.zip d.records)[i]).2.narrow.isFinite = true
  rwa [List.getElem_zip]

/-- A document is refused with its defect. -/
theorem toGrid_of_defect (h : d.Defect e) : d.toGrid = refuse e := by
  have start (valid : d.dimensions.Valid) : d.toGrid = (do
      d.checkRecordCount d.dimensions.cellCount
      d.checkNesting
      let values ← (d.dimensions.extent.enumerate.zip d.records).mapM fun (p, r) => r.toVoxel p
      Grid.ofValues d.dimensions.extent values.toArray) := by
    have bound := Dimensions.Valid.leastUpperBound d.dimensions
    unfold toGrid
    rw [Extent.ofDimensions?_eq_some.mpr ⟨valid, rfl⟩]
    simp only [valid.pointCount_eq_ok, Extent.points_eq_ok bound, lift_ok, ok_bind]
  have counted (count : d.records.length = d.dimensions.cellCount) :
      d.checkRecordCount d.dimensions.cellCount = .ok () := checkLength_eq_ok.mpr count
  cases h with
  | dimensions invalid =>
    unfold toGrid
    rw [Extent.ofDimensions?_eq_none.mpr invalid]
  | records valid count =>
    rw [start valid, checkRecordCount, checkLength_of_ne count]
    rfl
  | planes valid count wrong =>
    rw [start valid, counted count, ok_bind, checkNesting, checkLength_of_ne wrong]
    rfl
  | rows valid count planes first wrong =>
    have refused := checkPlane_of_length wrong
    rw [start valid, counted count, ok_bind, checkNesting_eq_error planes first refused]
    rfl
  | row valid count planes first rows wrong =>
    have refused := checkPlane_eq_error rows wrong
    rw [start valid, counted count, ok_bind, checkNesting_eq_error planes first refused]
    rfl
  | component valid nested inside place earlier first =>
    have checked : d.checkNesting = .ok () := checkNesting_eq_ok.mpr nested
    rw [start valid, counted nested.length_records, ok_bind, checked, ok_bind,
      mapM_toVoxel_eq_error valid nested inside place earlier first]
    rfl

/-- A record out of range is preceded by none in canonical order, or by another one that is the
first. -/
theorem exists_component_defect (valid : d.dimensions.Valid) (nested : d.Nested)
    (infinite : ¬ ∀ r ∈ d.records, r.narrow.isFinite = true) :
    ∃ p name c, d.Defect (.schema (.outOfRange p name c)) := by
  have bound := Dimensions.Valid.leastUpperBound d.dimensions
  obtain ⟨r, before, after, hrecords, earlier, hr⟩ := exists_firstNot infinite
  have count : d.dimensions.extent.volume = d.records.length :=
    valid.volume_eq.trans nested.length_records.symm
  have inside : before.length < d.dimensions.extent.volume := by
    rw [count, hrecords, List.length_append, List.length_cons]
    omega
  have place {i : Nat} (hi : i < d.dimensions.extent.volume) :
      d.recordAt (d.dimensions.extent.pointAt i) = d.records[i]? := by
    rw [recordAt_eq_getElem? valid nested (Extent.pointAt_mem bound hi),
      Extent.rank_pointAt bound hi]
  have found : d.recordAt (d.dimensions.extent.pointAt before.length) = some r := by
    rw [place inside, hrecords, List.getElem?_append_right (Nat.le_refl _), Nat.sub_self]
    rfl
  cases first : r.outOfRange? with
  | none => exact absurd (RawRecord.outOfRange?_eq_none.mp first) hr
  | some x =>
    refine ⟨_, _, _, .component valid nested (Extent.pointAt_mem bound inside) found ?_ first⟩
    intro q hq sooner
    have rank : d.dimensions.extent.rank q < before.length := by
      refine Nat.lt_of_not_le fun later => ?_
      rcases Nat.lt_or_eq_of_le later with later | same
      · have := Extent.before_pointAt bound later (Extent.rank_lt hq)
        rw [Extent.pointAt_rank hq] at this
        exact this.asymm sooner
      · rw [same, Extent.pointAt_rank hq] at sooner
        exact sooner.ne rfl
    have member : before[d.dimensions.extent.rank q] ∈ before := List.getElem_mem rank
    refine ⟨_, ?_, earlier _ member⟩
    rw [recordAt_eq_getElem? valid nested hq, hrecords, List.getElem?_append_left rank,
      List.getElem?_eq_getElem rank]

/-- A document without defects makes a grid. -/
theorem exists_defect (h : ¬ (d.dimensions.Valid ∧ d.Nested ∧
    ∀ r ∈ d.records, r.narrow.isFinite = true)) : ∃ e, d.Defect e := by
  by_cases valid : d.dimensions.Valid
  · by_cases count : d.records.length = d.dimensions.cellCount
    · by_cases planes : d.planes.length = d.depth.toNat
      · by_cases fits : ∀ plane ∈ d.planes, d.FitsPlane plane
        · obtain ⟨_, _, _, defect⟩ := exists_component_defect valid ⟨planes, fits⟩ fun finite =>
            h ⟨valid, ⟨planes, fits⟩, finite⟩
          exact ⟨_, defect⟩
        · obtain ⟨plane, first⟩ := exists_firstNot fits
          obtain ⟨-, -, -, -, notFits⟩ := id first
          by_cases rows : plane.length = d.height.toNat
          · obtain ⟨row, wrong⟩ := exists_firstNot fun widths => notFits ⟨rows, widths⟩
            exact ⟨_, .row valid count planes first rows wrong⟩
          · exact ⟨_, .rows valid count planes first rows⟩
      · exact ⟨_, .planes valid count planes⟩
    · exact ⟨_, .records valid count⟩
  · exact ⟨_, .dimensions valid⟩

/-- The documents that make a grid. -/
theorem exists_toGrid_eq_ok : (∃ g, d.toGrid = .ok g) ↔ d.dimensions.Valid ∧ d.Nested ∧
    ∀ r ∈ d.records, r.narrow.isFinite = true := by
  simp only [toGrid_eq_ok]
  exact ⟨fun ⟨_, valid, nested, finite, _⟩ => ⟨valid, nested, finite⟩,
    fun ⟨valid, nested, finite⟩ => ⟨_, valid, nested, finite, rfl⟩⟩

/-- A document that makes no grid is refused with its defect. -/
theorem toGrid_eq_error {x : Failure} : d.toGrid = .error x ↔ ∃ e, d.Defect e ∧ x = .refused e := by
  constructor
  · intro h
    have none : ¬ ∃ g, d.toGrid = .ok g := by
      rintro ⟨g, hg⟩
      rw [h] at hg
      contradiction
    obtain ⟨e, defect⟩ := exists_defect (mt exists_toGrid_eq_ok.mpr none)
    rw [toGrid_of_defect defect] at h
    exact ⟨e, defect, (Except.error.inj h).symm⟩
  · rintro ⟨e, defect, rfl⟩
    exact toGrid_of_defect defect

end Document

end Structured

end DenseMedium
