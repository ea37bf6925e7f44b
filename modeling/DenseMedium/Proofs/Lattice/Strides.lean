import DenseMedium.Proofs.Lattice.Enumeration

/-!
Strides computed, inverted and counted up.

The stride of a point is computed in three places: by the formula, by its inverse, and step by step
in a walk. All three number the points of an array in the order in which `points` lists them.

* `Stride.ofLocal_eq_ok`, `Stride.toLocal_eq_ok`: for an array at the origin, the formula and its
  inverse compute `rank` and `pointAt`, and no product overflows.
* `exists_stride_of_getElem?`: the point that an extent lists at place `n` has stride `n`.
* `Inside.of_members`: a region with a point is inside an array when its points are points of the
  array. Its least point and its greatest decide.
* `Walk.run_eq_computed`: a walk calls its function with the listed points of the region, each with
  the stride that the formula gives.
-/

namespace DenseMedium

/-! ### The formula and its inverse -/

namespace Stride

open Extent

variable {shape p : Point}

/-- Whether `p` is a point of an array of the given shape, relative to the least point. -/
def IsLocal (shape p : Point) : Prop :=
  (0 ≤ p.x.toInt ∧ p.x.toInt < shape.x.toInt) ∧ (0 ≤ p.y.toInt ∧ p.y.toInt < shape.y.toInt) ∧
    (0 ≤ p.z.toInt ∧ p.z.toInt < shape.z.toInt)

instance (shape p : Point) : Decidable (IsLocal shape p) := inferInstanceAs (Decidable (_ ∧ _ ∧ _))

theorem isLocal_iff_mem : IsLocal shape p ↔ p ∈ ofShape shape :=
  (mem_of_origin (e := ofShape shape) rfl).symm

/-- The stride of a local point is its number in an array at the origin. -/
theorem ofLocal_eq_ok (few : (ofShape shape).volume < Size.bound) (hp : IsLocal shape p) :
    ofLocal shape p = .ok ((ofShape shape).rank p) := by
  have member := isLocal_iff_mem.mp hp
  exact ofLocal_eq_rank member few (Int.sub_zero _).symm (Int.sub_zero _).symm (Int.sub_zero _).symm

/-- The number of a local point, written out. -/
theorem rank_ofShape (hp : IsLocal shape p) : ((ofShape shape).rank p : Int) =
    p.x.toInt + shape.x.toInt * (p.y.toInt + shape.y.toInt * p.z.toInt) := by
  obtain ⟨⟨x0, x1⟩, ⟨y0, y1⟩, ⟨z0, z1⟩⟩ := hp
  have number : (ofShape shape).rank p = (p.x.toInt - 0).toNat +
      shape.x.toInt.toNat * ((p.y.toInt - 0).toNat +
        shape.y.toInt.toNat * (p.z.toInt - 0).toNat) := rfl
  rw [number, Int.sub_zero, Int.sub_zero, Int.sub_zero]
  push_cast
  rw [Int.toNat_of_nonneg x0, Int.toNat_of_nonneg y0, Int.toNat_of_nonneg z0,
    Int.toNat_of_nonneg (by omega), Int.toNat_of_nonneg (by omega)]

/-- The point of a stride is the point of that number in an array at the origin. -/
theorem toLocal_eq_ok (positive : (ofShape shape).Positive) (n : Nat) :
    toLocal shape n = .ok ((ofShape shape).pointAt n) := by
  obtain ⟨x, y, -⟩ := positive.nonnegative
  have row : 0 < (ofShape shape).width := positive.width_pos
  have plane : 0 < (ofShape shape).width * (ofShape shape).height :=
    Nat.mul_pos row positive.height_pos
  have sx : shape.x.toSize = (ofShape shape).width := Coordinate.toSize_of_nonneg x
  have sy : shape.y.toSize = (ofShape shape).height := Coordinate.toSize_of_nonneg y
  unfold toLocal
  simp only [sx, sy]
  rw [Size.mul_ok (ofShape shape).plane_lt, ok_bind, Size.div_ok plane, ok_bind, Size.div_ok row,
    ok_bind, pure_eq_ok, pointAt_ofShape]

end Stride

/-! ### Places in the list of points -/

namespace Extent

variable {e : Extent} {b p : Point} {n : Nat}

theorem getElem?_enumerate : e.enumerate[n]? = some p ↔ n < e.volume ∧ p = e.pointAt n := by
  unfold enumerate
  rw [List.getElem?_map, Option.map_eq_some_iff]
  constructor
  · rintro ⟨m, hm, rfl⟩
    obtain ⟨small, rfl⟩ := List.getElem?_eq_some_iff.mp hm
    rw [List.length_range] at small
    rw [List.getElem_range]
    exact ⟨small, rfl⟩
  · rintro ⟨small, rfl⟩
    exact ⟨n, List.getElem?_range small, rfl⟩

/-- The stride of a member, by the formula from its local point, is its number. -/
theorem exists_stride (few : e.volume < Size.bound) (hp : p ∈ e) :
    ∃ q, p.sub e.minimum = .ok q ∧ Stride.ofLocal e.shape q = .ok (e.rank p) := by
  obtain ⟨q, hq, x, y, z⟩ := sub_minimum hp
  exact ⟨q, hq, ofLocal_eq_rank hp few x y z⟩

/-- The point that an extent lists at a place has that place as its stride. -/
theorem exists_stride_of_getElem? (hb : e.leastUpperBound = .ok b) (few : e.volume < Size.bound)
    (hp : e.enumerate[n]? = some p) :
    ∃ q, p.sub e.minimum = .ok q ∧ Stride.ofLocal e.shape q = .ok n := by
  obtain ⟨small, rfl⟩ := getElem?_enumerate.mp hp
  have stride := exists_stride few (pointAt_mem hb small)
  rwa [rank_pointAt hb small] at stride

/-! ### Regions of an array -/

/-- The greatest point of an extent that has a point. -/
theorem exists_greatest (hb : e.leastUpperBound = .ok b) (positive : e.Positive) :
    ∃ p ∈ e, p.x.toInt = e.minimum.x.toInt + e.shape.x.toInt - 1 ∧
      p.y.toInt = e.minimum.y.toInt + e.shape.y.toInt - 1 ∧
      p.z.toInt = e.minimum.z.toInt + e.shape.z.toInt - 1 := by
  have last {length : Int} (h : 0 < length) : ((length.toNat - 1 : Nat) : Int) = length - 1 := by
    omega
  have x := Nat.sub_lt positive.width_pos Nat.one_pos
  have y := Nat.sub_lt positive.height_pos Nat.one_pos
  have z := Nat.sub_lt positive.depth_pos Nat.one_pos
  obtain ⟨px, py, pz⟩ := toInt_pointOf hb x y z
  refine ⟨_, pointOf_mem hb x y z, ?_, ?_, ?_⟩
  · rw [px, width, last positive.1, Int.add_sub_assoc]
  · rw [py, height, last positive.2.1, Int.add_sub_assoc]
  · rw [pz, depth, last positive.2.2, Int.add_sub_assoc]

/-- A region is inside an array when it has a point and all its points are points of the array. -/
theorem Inside.of_members {region whole : Extent} (hb : region.leastUpperBound = .ok b)
    (nonempty : ∃ p, p ∈ region) (contained : ∀ p ∈ region, p ∈ whole) : region.Inside whole := by
  obtain ⟨p, ⟨_, _⟩, ⟨_, _⟩, ⟨_, _⟩⟩ := nonempty
  have positive : region.Positive := ⟨by omega, by omega, by omega⟩
  have least : region.minimum ∈ region :=
    ⟨⟨by omega, by omega⟩, ⟨by omega, by omega⟩, ⟨by omega, by omega⟩⟩
  obtain ⟨greatest, member, _, _, _⟩ := exists_greatest hb positive
  obtain ⟨⟨_, _⟩, ⟨_, _⟩, ⟨_, _⟩⟩ := contained _ least
  obtain ⟨⟨_, _⟩, ⟨_, _⟩, ⟨_, _⟩⟩ := contained _ member
  exact ⟨positive, ⟨by omega, by omega⟩, ⟨by omega, by omega⟩, ⟨by omega, by omega⟩⟩

end Extent

/-! ### Walks -/

namespace Walk

/-- **A walk counts strides up.** In an array with positive lengths, whose points can be counted, and
for a region with a point, all of whose points are points of the array, a walk makes its calls for
the listed points of the region in their order, each with the stride that the formula computes from
the point. A fault of a call ends the walk, and there is no other: no offset overflows, although
each is moved once past its last row or plane. -/
theorem run_eq_computed {whole region : Extent} {b : Point}
    (positive : 0 < whole.shape.x.toInt ∧ 0 < whole.shape.y.toInt ∧ 0 < whole.shape.z.toInt)
    (few : whole.shape.x.toInt * whole.shape.y.toInt * whole.shape.z.toInt < 2 ^ 64)
    (bounded : region.leastUpperBound = .ok b) (nonempty : ∃ p, p ∈ region)
    (contained : ∀ p ∈ region, p ∈ whole) :
    ∃ calls : List (Point × Nat),
      region.points = .ok (calls.map Prod.fst) ∧
      (∀ call ∈ calls, ∃ q, call.1.sub whole.minimum = .ok q ∧
        Stride.ofLocal whole.shape q = .ok call.2) ∧
      (∀ (σ : Type) (visit : σ → Point → Nat → Checked σ) (s : σ),
        run whole region visit s = calls.foldlM (fun s call => visit s call.1 call.2) s) ∧
      (∀ (σ : Type) (visit : σ → Point → Nat → σ) (s : σ),
        run whole region (fun s p n => .ok (visit s p n)) s =
          .ok (calls.foldl (fun s call => visit s call.1 call.2) s)) ∧
      visits whole region = .ok calls := by
  have lengths : whole.Positive := positive
  have volume := lengths.nonnegative.volume_lt few
  have inside := Extent.Inside.of_members bounded nonempty contained
  have runs (σ : Type) (visit : σ → Point → Nat → Checked σ) (s : σ) :
      run whole region visit s = (region.enumerate.map fun p => (p, whole.rank p)).foldlM
        (fun s call => visit s call.1 call.2) s := by
    rw [run_eq bounded inside volume, List.foldlM_map]
  have total (σ : Type) (visit : σ → Point → Nat → σ) (s : σ) :
      run whole region (fun s p n => .ok (visit s p n)) s =
        .ok ((region.enumerate.map fun p => (p, whole.rank p)).foldl
          (fun s call => visit s call.1 call.2) s) := by
    rw [runs, foldlM_eq_ok_foldl fun _ _ _ => rfl]
  refine ⟨region.enumerate.map fun p => (p, whole.rank p), ?_, ?_, runs, total, ?_⟩
  · rw [List.map_map, Extent.points_eq_ok bounded]
    simp [Function.comp_def]
  · intro call member
    obtain ⟨p, hp, rfl⟩ := List.mem_map.mp member
    exact Extent.exists_stride volume (inside.mem ((Extent.mem_enumerate bounded).mp hp))
  · unfold visits
    simp only [pure_eq_ok]
    rw [total, ok_bind]
    simp

/-- The last two rows of an array with as many points as can be counted. Past its last row and its
last plane the offsets come to the greatest size. -/
theorem run_eq_computed_at_top :
    let whole : Extent := ⟨⟨-2147483648, -2147483648, 2147483642⟩, ⟨1722007169, 2142470067, 5⟩⟩
    let region : Extent := ⟨⟨-425476481, -5013583, 2147483646⟩, ⟨2, 2, 1⟩⟩
    let calls : List (Point × Nat) :=
      [(⟨-425476481, -5013583, 2147483646⟩, 18446744071987544444),
        (⟨-425476480, -5013583, 2147483646⟩, 18446744071987544445),
        (⟨-425476481, -5013582, 2147483646⟩, 18446744073709551613),
        (⟨-425476480, -5013582, 2147483646⟩, 18446744073709551614)]
    ((0 < whole.shape.x.toInt ∧ 0 < whole.shape.y.toInt ∧ 0 < whole.shape.z.toInt) ∧
        whole.shape.x.toInt * whole.shape.y.toInt * whole.shape.z.toInt < 2 ^ 64 ∧
        region.leastUpperBound = .ok ⟨-425476479, -5013581, 2147483647⟩ ∧
        (∃ p, p ∈ region) ∧ ∀ p ∈ region, p ∈ whole) ∧
      visits whole region = .ok calls ∧ region.points = .ok (calls.map Prod.fst) ∧
        ∀ call ∈ calls, ∃ q, call.1.sub whole.minimum = .ok q ∧
          Stride.ofLocal whole.shape q = .ok call.2 := by
  intro whole region calls
  have positive : 0 < whole.shape.x.toInt ∧ 0 < whole.shape.y.toInt ∧ 0 < whole.shape.z.toInt := by
    decide
  have few : whole.shape.x.toInt * whole.shape.y.toInt * whole.shape.z.toInt < 2 ^ 64 := by decide
  have bounded : region.leastUpperBound = .ok ⟨-425476479, -5013581, 2147483647⟩ := by decide
  have nonempty : ∃ p, p ∈ region := ⟨region.minimum, by decide⟩
  have inside : region.Inside whole :=
    ⟨⟨by decide, by decide, by decide⟩, by decide, by decide, by decide⟩
  have contained : ∀ p ∈ region, p ∈ whole := fun p => inside.mem
  have made : visits whole region = .ok calls := by decide +kernel
  obtain ⟨logged, points, strides, -, -, log⟩ :=
    run_eq_computed positive few bounded nonempty contained
  cases made.symm.trans log
  exact ⟨⟨positive, few, bounded, nonempty, contained⟩, made, points, strides⟩

end Walk

end DenseMedium
