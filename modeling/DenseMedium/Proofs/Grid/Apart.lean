import DenseMedium.Proofs.Grid.Visits

/-!
Regions apart from a grid.

A visit of a region that shares no point with a grid has nothing to do at the points. It still clips
the region, and finds out where the clipped region begins in the grid. These steps are what can stop
it.

* `Extent.Approaches`: the steps that must fit, namely the gaps between the two extents, the distance
  on each axis from the least point of the grid, and the cells in the planes before the region.
* `Walk.run_idle_of_room`: offsets that have room move along without a fault.
* `Full.reach_eq_ok_iff`: nothing else can stop a visit of a grid that memory holds.
* `intersection_exact`: intersections, and visits of regions that share no point with a grid.
-/

namespace DenseMedium

/-! ### Where a clipped region begins -/

/-- How far from the start of a range its common part with another range begins. -/
def lead (least least' : Int) : Int := max least least' - least'

/-- Whether the way from the least point of an array to a region fits. -/
structure Extent.Approaches (region whole : Extent) : Prop where
  near : region.Near whole
  x : lead region.minimum.x.toInt whole.minimum.x.toInt ≤ 2147483647
  y : lead region.minimum.y.toInt whole.minimum.y.toInt ≤ 2147483647
  z : lead region.minimum.z.toInt whole.minimum.z.toInt ≤ 2147483647
  planes : whole.width * whole.height *
    (lead region.minimum.z.toInt whole.minimum.z.toInt).toNat < Size.bound

namespace Extent

theorem toNat_length_le (c : Coordinate) : c.toInt.toNat ≤ 2147483647 := by
  have := (Coordinate.fits_toInt c).2
  omega

theorem width_le (e : Extent) : e.width ≤ 2147483647 := toNat_length_le _

theorem height_le (e : Extent) : e.height ≤ 2147483647 := toNat_length_le _

/-- A common part with an integer ends where the second range does or before. -/
theorem Overlap.end_le {least length least' length' start extent : Int}
    (h : Overlap least length least' length' start extent) (positive : 0 < extent.toNat) :
    (start - least').toNat + extent.toNat ≤ length'.toNat := by
  obtain ⟨rfl, rfl⟩ := h
  omega

end Extent

namespace Walk

section Room

variable {whole region common : Extent} {bound top last start : Point} {w : Walk}

/-- A walk that does nothing at the points, from offsets that have room to move on. -/
theorem run_idle_of_room (hb : common.leastUpperBound = .ok bound)
    (hstart : common.minimum.sub whole.minimum = .ok start)
    (hw : starting whole.shape start = .ok w)
    (planes : w.zStart + common.depth * w.planeStep < Size.bound)
    (rows : ∀ k < common.depth,
      w.zStart + k * w.planeStep + w.yStart + common.height * w.rowStep < Size.bound)
    (cells : ∀ k < common.depth, ∀ j < common.height,
      w.zStart + k * w.planeStep + w.yStart + j * w.rowStep + w.xStart + common.width < Size.bound) :
    run whole common idle () = .ok () := by
  rw [run_eq_planeBody hb hstart hw planes]
  refine foldlM_eq_ok_foldl (g := fun u _ => u) fun u k hk => ?_
  have hk := List.mem_range.mp hk
  rw [planeBody_eq hb w idle u _ _ (rows k hk)]
  refine foldlM_eq_ok_foldl (g := fun u _ => u) fun u j hj => ?_
  rw [rowBody_eq hb w idle _ u _ _ (cells k hk j (List.mem_range.mp hj))]
  exact foldlM_eq_ok_foldl (g := fun u _ => u) fun _ _ _ => rfl

/-- The way from the least point of an array to the part of a region in it. -/
theorem exists_starting (nonnegative : whole.Nonnegative) (hw : whole.leastUpperBound = .ok top)
    (hr : region.leastUpperBound = .ok last) (hc : region.intersection whole = .ok common)
    (approaches : region.Approaches whole) :
    ∃ start, common.minimum.sub whole.minimum = .ok start ∧
      starting whole.shape start = .ok (offsets whole common) := by
  obtain ⟨-, leadX, leadY, leadZ, planes⟩ := approaches
  obtain ⟨⟨x, -⟩, ⟨y, -⟩, ⟨z, -⟩⟩ := Extent.overlap_of_intersection hr hw hc
  have fits {least least' c : Coordinate} (hc : c.toInt = max least.toInt least'.toInt)
      (h : lead least.toInt least'.toInt ≤ 2147483647) :
      (Int32.ofInt (c.toInt - least'.toInt)).toInt = c.toInt - least'.toInt := by
    unfold lead at h
    exact Coordinate.toInt_ofInt ⟨by omega, by omega⟩
  have startX := fits x leadX
  have startY := fits y leadY
  have startZ := fits z leadZ
  refine ⟨⟨_, _, _⟩, Point.sub_eq_ok.mpr ⟨startX, startY, startZ⟩,
    starting_eq_offsets nonnegative ⟨by omega, by omega, by omega⟩ startX startY startZ ?_ ?_ ?_⟩
  · exact Nat.lt_of_le_of_lt (Nat.mul_le_mul (whole.width_le) (whole.height_le)) (by decide)
  · refine Nat.lt_of_le_of_lt (Nat.mul_le_mul_left _ (m := 2147483647) ?_)
      (Nat.lt_of_le_of_lt (Nat.mul_le_mul_right _ whole.width_le) (by decide))
    unfold lead at leadY
    omega
  · dsimp only [offsets]
    rw [z]
    exact planes

/-- A plane of the common part ends within the array. -/
theorem plane_end_le (hc : Extent.Overlap region.minimum.z.toInt region.shape.z.toInt
      whole.minimum.z.toInt whole.shape.z.toInt common.minimum.z.toInt common.shape.z.toInt)
    {k : Nat} (hk : k < common.depth) :
    (offsets whole common).zStart + k * (offsets whole common).planeStep +
      (offsets whole common).planeStep ≤ whole.volume := by
  have fit : (common.minimum.z.toInt - whole.minimum.z.toInt).toNat + common.depth ≤ whole.depth :=
    hc.end_le (Nat.zero_lt_of_lt hk)
  rw [Extent.volume_eq]
  dsimp only [offsets]
  calc _ = whole.width * whole.height *
        ((common.minimum.z.toInt - whole.minimum.z.toInt).toNat + k + 1) := by ring
    _ ≤ _ := Nat.mul_le_mul_left _ (by omega)

/-- A row of the common part ends within a plane. -/
theorem row_end_le_plane (hc : Extent.Overlap region.minimum.y.toInt region.shape.y.toInt
      whole.minimum.y.toInt whole.shape.y.toInt common.minimum.y.toInt common.shape.y.toInt)
    {j : Nat} (hj : j < common.height) :
    (offsets whole common).yStart + j * (offsets whole common).rowStep +
      (offsets whole common).rowStep ≤ (offsets whole common).planeStep := by
  have fit : (common.minimum.y.toInt - whole.minimum.y.toInt).toNat + common.height ≤ whole.height :=
    hc.end_le (Nat.zero_lt_of_lt hj)
  dsimp only [offsets]
  calc _ = whole.width * ((common.minimum.y.toInt - whole.minimum.y.toInt).toNat + j + 1) := by ring
    _ ≤ _ := Nat.mul_le_mul_left _ (by omega)

/-- The offsets of a clipped region have room in an array that memory holds. -/
theorem run_idle_of_approaches (nonnegative : whole.Nonnegative)
    (memory : whole.volume ≤ Size.maxBytes) (hw : whole.leastUpperBound = .ok top)
    (hr : region.leastUpperBound = .ok last) (hc : region.intersection whole = .ok common)
    (approaches : region.Approaches whole) : run whole common idle () = .ok () := by
  obtain ⟨bound, hb⟩ := Extent.leastUpperBound_intersection hr hw hc
  obtain ⟨start, hstart, hstarting⟩ := exists_starting nonnegative hw hr hc approaches
  obtain ⟨-, leadX, leadY, leadZ, planes⟩ := approaches
  obtain ⟨x, y, z⟩ := Extent.overlap_of_intersection hr hw hc
  -- Past the end of the array, an offset moves on by less than the other half of the sizes.
  have row : (offsets whole common).yStart ≤ 2147483647 * 2147483647 := by
    refine Nat.mul_le_mul whole.width_le ?_
    rw [y.1]
    exact Int.toNat_le.mpr leadY
  have column : (offsets whole common).xStart ≤ 2147483647 := by
    dsimp only [offsets]
    rw [x.1]
    exact Int.toNat_le.mpr leadX
  have width := common.width_le
  have before : (offsets whole common).zStart < Size.bound := by
    dsimp only [offsets]
    rw [z.1]
    exact planes
  have half : Size.maxBytes = 9223372036854775807 := rfl
  have sizes : Size.bound = 18446744073709551616 := rfl
  refine run_idle_of_room hb hstart hstarting ?_ ?_ ?_
  · cases depth : common.depth with
    | zero => simpa using before
    | succ n =>
      have last := plane_end_le z (k := n) (by omega)
      rw [Nat.succ_mul]
      omega
  · intro k hk
    have plane := plane_end_le z hk
    cases height : common.height with
    | zero =>
      rw [Nat.zero_mul]
      omega
    | succ n =>
      have last := row_end_le_plane y (j := n) (by omega)
      rw [Nat.succ_mul]
      omega
  · intro k hk j hj
    have plane := plane_end_le z hk
    have row := row_end_le_plane y hj
    omega

end Room

end Walk

namespace Grid

namespace Full

variable {α : Type} {g : Grid α} {region : Extent} {bound : Point}

/-- A visit that is not stopped has approached the region. -/
theorem approaches_of_reach (hg : g.Full) (nonnegative : g.extent.Nonnegative)
    (hr : region.leastUpperBound = .ok bound) (h : g.reach region = .ok ()) :
    region.Approaches g.extent := by
  obtain ⟨top, htop⟩ := hg.bounded
  obtain ⟨common, hcommon, h⟩ := bind_eq_ok.mp h
  obtain ⟨⟨x, -⟩, ⟨y, -⟩, ⟨z, -⟩⟩ := Extent.overlap_of_intersection hr htop hcommon
  obtain ⟨last, -, h⟩ := bind_eq_ok.mp h
  obtain ⟨start, hstart, h⟩ := bind_eq_ok.mp h
  obtain ⟨hx, hy, hz⟩ := Point.sub_eq_ok.mp hstart
  obtain ⟨w, hw, -⟩ := bind_eq_ok.mp h
  obtain ⟨planeStep, hplane, hw⟩ := bind_eq_ok.mp hw
  obtain ⟨yStart, -, hw⟩ := bind_eq_ok.mp hw
  obtain ⟨zStart, hzStart, -⟩ := bind_eq_ok.mp hw
  obtain ⟨-, rfl⟩ := Size.mul_eq_ok.mp hplane
  obtain ⟨planes, -⟩ := Size.mul_eq_ok.mp hzStart
  have high (c : Coordinate) : c.toInt ≤ 2147483647 := (Coordinate.fits_toInt c).2
  have leadX := high start.x
  have leadY := high start.y
  have leadZ := high start.z
  rw [hx, x] at leadX
  rw [hy, y] at leadY
  rw [hz, z] at leadZ
  refine ⟨(Extent.exists_intersection_iff hr htop).mp ⟨common, hcommon⟩, leadX, leadY, leadZ, ?_⟩
  rw [Coordinate.toSize_of_nonneg nonnegative.1, Coordinate.toSize_of_nonneg nonnegative.2.1,
    Coordinate.toSize_of_nonneg (by omega), hz, z] at planes
  exact planes

/-- What stops a visit of a grid that memory holds is only the way to the region. -/
theorem reach_eq_ok_iff (hg : g.Full) (nonnegative : g.extent.Nonnegative)
    (memory : g.values.size ≤ Size.maxBytes) (hr : region.leastUpperBound = .ok bound) :
    g.reach region = .ok () ↔ region.Approaches g.extent := by
  constructor
  · exact hg.approaches_of_reach nonnegative hr
  · intro approaches
    obtain ⟨top, htop⟩ := hg.bounded
    obtain ⟨common, hcommon⟩ := (Extent.exists_intersection_iff hr htop).mpr approaches.near
    rw [hg.size_eq] at memory
    unfold reach clip
    rw [hcommon, ok_bind, Walk.run_idle_of_approaches nonnegative memory htop hr hcommon approaches]

end Full

/-- **Intersections are exact where they are computed.** Two extents have an intersection if and only
if they are near each other; far apart, the difference of the bounds overflows before it is raised to
zero. The order of the extents does not matter. An intersection has no negative length, and it
contains the points that both contain. A visit of a region that shares no point with a grid ends with
nothing done if and only if the region approaches the grid, and faults otherwise. -/
theorem intersection_exact {a b : Extent} {topA topB : Point}
    (boundedA : a.leastUpperBound = .ok topA) (boundedB : b.leastUpperBound = .ok topB) :
    ((∃ c, a.intersection b = .ok c) ↔ a.Near b) ∧
      (¬ a.Near b → a.intersection b = .error .subOverflow) ∧
      b.intersection a = a.intersection b ∧
      (∀ c, a.intersection b = .ok c → c.Nonnegative ∧ (∃ top, c.leastUpperBound = .ok top) ∧
        ∀ p, c.contains p = .ok true ↔ a.contains p = .ok true ∧ b.contains p = .ok true) ∧
      ∀ (α : Type) (g : Grid α), g.extent = b → g.Full → b.Nonnegative →
        g.values.size ≤ Size.maxBytes →
        (∀ p, ¬ (a.contains p = .ok true ∧ b.contains p = .ok true)) →
        (a.Approaches b → ∀ σ : Type,
          (∀ (f : σ → Point → α → Checked σ) s, g.foldRegion a f s = .ok s) ∧
          ∀ (f : σ → Point → α → Checked (α × σ)) s, g.updateRegion a f s = .ok (g, s)) ∧
        (¬ a.Approaches b → ∃ fault, ∀ σ : Type,
          (∀ (f : σ → Point → α → Checked σ) s, g.foldRegion a f s = .error fault) ∧
          ∀ (f : σ → Point → α → Checked (α × σ)) s, g.updateRegion a f s = .error fault) := by
  refine ⟨Extent.exists_intersection_iff boundedA boundedB,
    Extent.intersection_of_not_near boundedA boundedB,
    Extent.intersection_comm boundedB boundedA, ?_, ?_⟩
  · intro c h
    exact ⟨Extent.nonnegative_intersection boundedA boundedB h,
      Extent.leastUpperBound_intersection boundedA boundedB h,
      Extent.contains_intersection boundedA boundedB h⟩
  · rintro α g rfl hg nonnegative memory apart
    have disjoint : ∀ p ∈ a, p ∉ g.extent := by
      intro p hp hp'
      exact apart p ⟨(Extent.contains_eq_true boundedA).mpr hp,
        (Extent.contains_eq_true boundedB).mpr hp'⟩
    have reach := hg.reach_eq_ok_iff nonnegative memory boundedA
    constructor
    · intro approaches σ
      have arrived := reach.mpr approaches
      constructor
      · intro f s
        rw [hg.foldRegion_eq_of_apart disjoint, arrived]
        rfl
      · intro f s
        rw [hg.updateRegion_eq_of_apart disjoint, arrived]
        rfl
    · intro far
      cases stopped : g.reach a with
      | ok _ => exact absurd (reach.mp stopped) far
      | error fault =>
        refine ⟨fault, ?_⟩
        intro σ
        constructor
        · intro f s
          rw [hg.foldRegion_eq_of_apart disjoint, stopped]
          rfl
        · intro f s
          rw [hg.updateRegion_eq_of_apart disjoint, stopped]
          rfl

/-- Extents at the greatest gap that still has an intersection. -/
theorem intersection_exact_at_limit :
    let a : Extent := ⟨⟨-2147483648, 0, 0⟩, ⟨1, 1, 1⟩⟩
    let g : Grid Nat := ⟨⟨⟨1, 0, 0⟩, ⟨1, 1, 1⟩⟩, #[7]⟩
    a.leastUpperBound = .ok ⟨-2147483647, 1, 1⟩ ∧ g.extent.leastUpperBound = .ok ⟨2, 1, 1⟩ ∧
      (∃ c, a.intersection g.extent = .ok c) ∧
      ∀ (f : Nat → Point → Nat → Checked Nat) s, g.foldRegion a f s = .ok s := by
  intro a g
  have boundedA : a.leastUpperBound = .ok ⟨-2147483647, 1, 1⟩ := by decide
  have boundedB : g.extent.leastUpperBound = .ok ⟨2, 1, 1⟩ := by decide
  have full : g.Full := ⟨⟨_, boundedB⟩, by decide, by decide⟩
  have near : a.Near g.extent := by decide
  have apart : ∀ p, ¬ (a.contains p = .ok true ∧ g.extent.contains p = .ok true) := by
    rintro p ⟨hp, hp'⟩
    obtain ⟨⟨_, left⟩, -⟩ := (Extent.contains_eq_true boundedA).mp hp
    obtain ⟨⟨right, _⟩, -⟩ := (Extent.contains_eq_true boundedB).mp hp'
    have least : a.minimum.x.toInt + a.shape.x.toInt = -2147483647 := rfl
    have start : g.extent.minimum.x.toInt = 1 := rfl
    omega
  obtain ⟨exists_iff, -, -, -, visits⟩ := intersection_exact boundedA boundedB
  obtain ⟨ends, -⟩ := visits Nat g rfl full ⟨by decide, by decide, by decide⟩ (by decide) apart
  exact ⟨boundedA, boundedB, exists_iff.mpr near,
    (ends ⟨near, by decide, by decide, by decide, by decide⟩ Nat).1⟩

/-- One step further apart there is no intersection, although the lengths are positive and the bounds
fit, and a visit does not end. -/
theorem intersection_overflows :
    let a : Extent := ⟨⟨-2147483648, 0, 0⟩, ⟨1, 1, 1⟩⟩
    let g : Grid Nat := ⟨⟨⟨2, 0, 0⟩, ⟨1, 1, 1⟩⟩, #[7]⟩
    a.Positive ∧ a.leastUpperBound = .ok ⟨-2147483647, 1, 1⟩ ∧
      g.extent.Positive ∧ g.extent.leastUpperBound = .ok ⟨3, 1, 1⟩ ∧
      a.intersection g.extent = .error .subOverflow ∧
      g.foldRegion a (fun n _ _ => .ok (n + 1)) 0 = .error .subOverflow := by
  intro a g
  exact ⟨⟨by decide, by decide, by decide⟩, by decide, ⟨by decide, by decide, by decide⟩, by decide,
    by decide, by decide⟩

end Grid

end DenseMedium
