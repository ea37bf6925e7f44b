import DenseMedium.Proofs.Grid.Contents
import DenseMedium.Proofs.Majorant.Bounds

/-!
Every majorant is the reduction of its own block.

The builder counts blocks through, finds the place of each from its number and reduces it on its own.
Here the grid lies anywhere. Its blocks need not be cubes of the grid: a least point that is no
multiple of the edge is divided toward zero, and then a block at the border holds fewer points.

* `made_of_build`: what the builder has made when it succeeds. Cell number `n` is the result of
  `cell`, and the blocks make a grid with one majorant for each.
* `Made.exists_region`: the majorant at a block coordinate is the reduction of the region that
  `blockExtent` names.
* `build_reduces_blocks`: so no majorant depends on the order in which the voxels of a block are
  visited, nor on the order in which the cells are worked on.
-/

namespace DenseMedium

namespace Extent

/-- The components of an extent of blocks are quotients, rounded toward zero. -/
theorem toInt_blockGrid {e blocks : Extent} {k : Coordinate} (hk : 0 < k.toInt)
    (h : Majorant.blockGrid e k = .ok blocks) :
    (blocks.minimum.x.toInt = e.minimum.x.toInt.tdiv k.toInt ∧
      blocks.minimum.y.toInt = e.minimum.y.toInt.tdiv k.toInt ∧
      blocks.minimum.z.toInt = e.minimum.z.toInt.tdiv k.toInt) ∧
    blocks.shape.x.toInt = e.shape.x.toInt.tdiv k.toInt ∧
      blocks.shape.y.toInt = e.shape.y.toInt.tdiv k.toInt ∧
      blocks.shape.z.toInt = e.shape.z.toInt.tdiv k.toInt := by
  have hk0 : k ≠ 0 := by
    rintro rfl
    exact absurd hk (by decide)
  obtain ⟨shape, hshape, h⟩ := bind_eq_ok.mp h
  obtain ⟨least, hleast, h⟩ := bind_eq_ok.mp h
  cases h
  exact ⟨(Point.div_eq_ok hk0).mp hleast, (Point.div_eq_ok hk0).mp hshape⟩

/-- The coordinates of the blocks of an extent make an extent whose bound fits. -/
theorem blockGrid_spec {e blocks : Extent} {k : Coordinate} (nonnegative : e.Nonnegative)
    (bounded : ∃ b, e.leastUpperBound = .ok b) (hk : 0 < k.toInt)
    (h : Majorant.blockGrid e k = .ok blocks) :
    blocks.Nonnegative ∧ ∃ b, blocks.leastUpperBound = .ok b := by
  obtain ⟨b, hb⟩ := bounded
  obtain ⟨bx, by', bz⟩ := leastUpperBound_eq_ok.mp hb
  obtain ⟨nx, ny, nz⟩ := nonnegative
  obtain ⟨⟨lx, ly, lz⟩, sx, sy, sz⟩ := toInt_blockGrid hk h
  have nonneg {length n : Coordinate} (h : 0 ≤ length.toInt)
      (hn : n.toInt = length.toInt.tdiv k.toInt) : 0 ≤ n.toInt :=
    hn ▸ Int.tdiv_nonneg h (Int.le_of_lt hk)
  -- A quotient lies between zero and the dividend.
  have axis {a length top m n : Coordinate} (htop : top.toInt = a.toInt + length.toInt)
      (hl : 0 ≤ length.toInt) (hm : m.toInt = a.toInt.tdiv k.toInt)
      (hn : n.toInt = length.toInt.tdiv k.toInt) :
      (Int32.ofInt (m.toInt + n.toInt)).toInt = m.toInt + n.toInt := by
    have sign := nonneg hl hn
    have small := Int.natAbs_tdiv_le_natAbs length.toInt k.toInt
    have small' := Int.natAbs_tdiv_le_natAbs a.toInt k.toInt
    have fits := Coordinate.fits_toInt top
    have fits' := Coordinate.fits_toInt length
    have fits'' := Coordinate.fits_toInt a
    unfold Coordinate.Fits at fits fits' fits''
    rw [← hn] at small
    rw [← hm] at small'
    rcases Int.le_total 0 a.toInt with ha | ha
    · have := nonneg ha hm
      exact Coordinate.toInt_ofInt ⟨by omega, by omega⟩
    · have : m.toInt ≤ 0 := by
        have := Int.tdiv_nonneg (a := -a.toInt) (by omega) (Int.le_of_lt hk)
        rw [Int.neg_tdiv] at this
        omega
      exact Coordinate.toInt_ofInt ⟨by omega, by omega⟩
  exact ⟨⟨nonneg nx sx, nonneg ny sy, nonneg nz sz⟩, ⟨_, _, _⟩, leastUpperBound_eq_ok.mpr
    ⟨axis bx nx lx sx, axis by' ny ly sy, axis bz nz lz sz⟩⟩

end Extent

namespace Majorant

variable {g : VoxelGrid} {s : UInt32} {sv : SupervoxelGrid}

/-! ### What the builder has made -/

/-- The builder refuses an edge of zero. So an edge that it takes is the block size. -/
theorem tilingEdge_of_tileable {e : Extent} (h : e.untileableAxis (tilingEdge s) = .ok none) :
    tilingEdge s = s.toInt32 ∧ 0 < s.toInt32.toInt := by
  have refused : ∀ {k : Coordinate}, k = 0 → e.untileableAxis k ≠ .ok none := by
    rintro k rfl h
    cases h
  by_cases small : s < 2147483648
  · have edge : tilingEdge s = s.toInt32 := if_pos small
    have value := Coordinate.toInt_toInt32 (UInt32.lt_iff_toNat_lt.mp small)
    refine ⟨edge, ?_⟩
    rw [value, Int.natCast_pos, Nat.pos_iff_ne_zero]
    intro zero
    refine refused ?_ h
    rw [edge]
    exact Coordinate.eq_of_toInt (by rw [value, zero]; rfl)
  · exact absurd h (refused (if_neg small))

/-- The steps of a builder that has finished. -/
theorem steps_of_build (h : build g s = .ok sv) :
    sv.blockSize = s ∧ 0 < s.toInt32.toInt ∧ g.extent.untileableAxis s.toInt32 = .ok none ∧
      blockGrid g.extent s.toInt32 = .ok sv.majorants.extent ∧
      ∃ slice count values,
        Size.mul sv.majorants.extent.shape.x.toSize sv.majorants.extent.shape.y.toSize = .ok slice ∧
        sv.majorants.extent.pointCount = .ok count ∧
        ((List.range count).mapM fun n =>
          (cell g sv.majorants.extent s.toInt32 slice n : Outcome Rgb)) = .ok values ∧
        Grid.ofValues sv.majorants.extent values.toArray = .ok sv.majorants := by
  unfold build at h
  obtain ⟨axis, haxis, h⟩ := bind_eq_ok.mp h
  cases axis with
  | some axis => cases h
  | none =>
    have tileable := lift_eq_ok.mp haxis
    obtain ⟨edge, edge_pos⟩ := tilingEdge_of_tileable tileable
    rw [edge] at tileable
    simp only [edge] at h
    obtain ⟨blocks, hblocks, h⟩ := bind_eq_ok.mp h
    obtain ⟨slice, hslice, h⟩ := bind_eq_ok.mp h
    obtain ⟨count, hcount, h⟩ := bind_eq_ok.mp h
    obtain ⟨-, -, h⟩ := bind_eq_ok.mp h
    have plane : slice ≠ 0 := by
      rintro rfl
      rw [if_pos rfl] at h
      cases h
    rw [if_neg plane] at h
    obtain ⟨values, hvalues, h⟩ := bind_eq_ok.mp h
    obtain ⟨majorants, hmajorants, h⟩ := bind_eq_ok.mp h
    cases h
    obtain ⟨-, rfl⟩ := Grid.ofValues_eq_ok.mp hmajorants
    exact ⟨rfl, edge_pos, tileable, lift_eq_ok.mp hblocks, slice, count, values,
      lift_eq_ok.mp hslice, lift_eq_ok.mp hcount, hvalues, hmajorants⟩

/-- What a finished grid of majorants is: one majorant for each block, and each the cell of its
number. -/
structure Made (g : VoxelGrid) (sv : SupervoxelGrid) : Prop where
  nonnegative : sv.majorants.extent.Nonnegative
  full : sv.majorants.Full
  cell_eq : ∀ n < sv.majorants.values.size, ∃ m, sv.majorants.values[n]? = some m ∧
    cell g sv.majorants.extent sv.edge
      (sv.majorants.extent.width * sv.majorants.extent.height) n = .ok m

theorem made_of_build (nonnegative : g.extent.Nonnegative)
    (bounded : ∃ b, g.extent.leastUpperBound = .ok b) (h : build g s = .ok sv) : Made g sv := by
  obtain ⟨rfl, edge_pos, -, hblocks, slice, count, values, hslice, hcount, hvalues, hmajorants⟩ :=
    steps_of_build h
  obtain ⟨hsize, made⟩ := Grid.ofValues_eq_ok.mp hmajorants
  have stored : sv.majorants.values = values.toArray := congrArg Grid.values made
  rw [← stored] at hsize
  obtain ⟨hn, hb⟩ := Extent.blockGrid_spec nonnegative bounded edge_pos hblocks
  obtain ⟨few, size⟩ := (Extent.pointCount_eq_ok hn).mp hsize
  obtain ⟨-, rfl⟩ := (Extent.pointCount_eq_ok hn).mp hcount
  obtain ⟨-, rfl⟩ := Size.mul_eq_ok.mp hslice
  rw [Coordinate.toSize_of_nonneg hn.1, Coordinate.toSize_of_nonneg hn.2.1] at hvalues
  refine ⟨hn, ⟨hb, size, size ▸ few⟩, ?_⟩
  intro n hlt
  have listed : (List.range sv.majorants.extent.volume)[n]? = some n :=
    List.getElem?_range (size ▸ hlt)
  obtain ⟨m, hm, hcell⟩ := getElem?_of_mapM hvalues listed
  exact ⟨m, by rwa [stored, List.getElem?_toArray], lift_eq_ok.mp hcell⟩

namespace Made

/-- The majorant at a block coordinate is the reduction of the region of that block. -/
theorem exists_region (made : Made g sv) {b : Point} (hb : b ∈ sv.majorants.extent) :
    ∃ region m, sv.blockExtent b = .ok region ∧ sv.majorants.get b = .ok m ∧
      blockMajorant g region = .ok m := by
  obtain ⟨top, htop⟩ := made.full.bounded
  obtain ⟨m, hm, hcell⟩ := made.cell_eq _ (made.full.rank_lt_size hb)
  unfold cell at hcell
  rw [Extent.add_localBlock made.nonnegative htop (Extent.rank_lt hb), ok_bind,
    Extent.pointAt_rank hb] at hcell
  obtain ⟨start, hstart, hmajorant⟩ := bind_eq_ok.mp hcell
  refine ⟨⟨start, Point.fill sv.edge⟩, m, ?_, made.full.get_eq_ok.mpr ⟨hb, hm⟩, hmajorant⟩
  unfold SupervoxelGrid.blockExtent
  rw [hstart, ok_bind, pure_eq_ok]

end Made

/-! ### Orders of work -/

theorem eq_maximum_of_blockMajorant (hg : g.Full) {region : Extent} {m : Rgb}
    (h : blockMajorant g region = .ok m) :
    m = Rgb.maximum ((g.extent.shared region).map fun p => (g.valueAt p).sigmaT) := by
  rw [blockMajorant_eq hg] at h
  obtain ⟨-, -, h⟩ := bind_eq_ok.mp h
  exact (Except.ok.inj h).symm

/-- A reduction is the maximum of the extinctions in any order of the voxels. One that takes a voxel
twice makes no difference either. -/
theorem equal_maximum_of_order (hg : g.Complete) {region : Extent} {m : Rgb}
    (h : blockMajorant g region = .ok m) {order : List Point}
    (visits : ∀ p, p ∈ order ↔ p ∈ g.extent ∧ p ∈ region) :
    ∃ vs, order.mapM g.get = .ok vs ∧ m.equal (Rgb.maximum (vs.map Voxel.sigmaT)) = true := by
  obtain ⟨b, hb⟩ := hg.bounded
  refine ⟨order.map g.valueAt, ?_, ?_⟩
  · apply mapM_eq_ok_map
    intro p hp
    exact Grid.get_eq_valueAt hg ((visits p).mp hp).1
  · rw [eq_maximum_of_blockMajorant hg.full h, List.map_map]
    apply Rgb.equal_maximum
    intro c
    simp only [List.mem_map, Function.comp_apply, Extent.mem_shared hb, visits]

/-- The cells of a grid of majorants, worked on in some order, each written into its place. -/
def cellsInOrder (g : VoxelGrid) (sv : SupervoxelGrid) (order : List Nat) : Checked (Array Rgb) :=
  order.foldlM (fun values n => do
      let m ← cell g sv.majorants.extent sv.edge
        (sv.majorants.extent.width * sv.majorants.extent.height) n
      return values.setIfInBounds n m)
    (Array.replicate sv.majorants.values.size Rgb.negativeInfinity)

/-- Writing the values of an array into their places, in some order, leaves what was there before
only at the places that are left out. -/
theorem getElem?_foldl_set {α : Type} {target : Array α} {f : Nat → α} :
    ∀ (order : List Nat) (init : Array α), init.size = target.size →
      (∀ n ∈ order, target[n]? = some (f n)) → ∀ i,
      (order.foldl (fun values n => values.setIfInBounds n (f n)) init)[i]? =
        if i ∈ order then target[i]? else init[i]? := by
  intro order
  induction order with
  | nil =>
    intro init _ _ i
    rw [if_neg List.not_mem_nil, List.foldl_nil]
  | cons n order ih =>
    intro init size values i
    obtain ⟨value, values⟩ := List.forall_mem_cons.mp values
    have size' : (init.setIfInBounds n (f n)).size = target.size := by
      rw [Array.size_setIfInBounds, size]
    rw [List.foldl_cons, ih _ size' values]
    by_cases hi : i ∈ order
    · rw [if_pos hi, if_pos (List.mem_cons_of_mem n hi)]
    · rw [if_neg hi, Array.getElem?_setIfInBounds]
      by_cases same : n = i
      · subst same
        obtain ⟨inside, -⟩ := Array.getElem?_eq_some_iff.mp value
        rw [if_pos rfl, if_pos (size ▸ inside), if_pos List.mem_cons_self, value]
      · have other : i ∉ n :: order := by
          rw [List.mem_cons, not_or]
          exact ⟨Ne.symm same, hi⟩
        rw [if_neg same, if_neg other]

theorem Made.cellsInOrder_eq_ok (made : Made g sv) {order : List Nat}
    (works : ∀ n, n ∈ order ↔ n < sv.majorants.values.size) :
    cellsInOrder g sv order = .ok sv.majorants.values := by
  have value {n : Nat} (hn : n ∈ order) :
      sv.majorants.values[n]? = some (sv.majorants.values.getD n default) := by
    have hlt := (works n).mp hn
    rw [Array.getD_eq_getD_getElem?, Array.getElem?_eq_getElem hlt, Option.getD_some]
  have step (values : Array Rgb) (n : Nat) (hn : n ∈ order) :
      (do let m ← cell g sv.majorants.extent sv.edge
            (sv.majorants.extent.width * sv.majorants.extent.height) n
          return values.setIfInBounds n m : Checked (Array Rgb)) =
        .ok (values.setIfInBounds n (sv.majorants.values.getD n default)) := by
    obtain ⟨m, hm, hcell⟩ := made.cell_eq n ((works n).mp hn)
    rw [hcell, ok_bind, pure_eq_ok, Option.some.inj (hm.symm.trans (value hn))]
  unfold cellsInOrder
  rw [foldlM_eq_ok_foldl step]
  refine congrArg Except.ok (Array.ext_getElem? fun i => ?_)
  rw [getElem?_foldl_set order _ Array.size_replicate fun n => value]
  by_cases hi : i ∈ order
  · rw [if_pos hi]
  · have outside := Nat.not_lt.mp (mt (works i).mpr hi)
    rw [if_neg hi, Array.getElem?_eq_none outside, Array.getElem?_eq_none]
    rwa [Array.size_replicate]

/-- Every majorant that the builder makes is the reduction of its own block, a number, and equal to
the maximum of the extinctions in whatever order the voxels of the block are taken. The cells too can
be worked on in any order. -/
theorem build_reduces_blocks (positive : g.extent.Positive)
    (counted : g.extent.pointCount = .ok g.values.size)
    (bounded : ∃ b, g.extent.leastUpperBound = .ok b) (built : build g s = .ok sv) :
    (∀ b ∈ sv.majorants.extent, ∃ region m, sv.blockExtent b = .ok region ∧
      sv.majorants.get b = .ok m ∧ blockMajorant g region = .ok m ∧
      (∀ channel ∈ Rgb.channels, (channel m).isNaN = false) ∧
      ∀ order : List Point, (∀ p, p ∈ order ↔ p ∈ g.extent ∧ p ∈ region) →
        ∃ vs, order.mapM g.get = .ok vs ∧
          m.equal (Rgb.maximum (vs.map Voxel.sigmaT)) = true) ∧
      ∀ order : List Nat, (∀ n, n ∈ order ↔ n < sv.majorants.values.size) →
        cellsInOrder g sv order = .ok sv.majorants.values := by
  obtain ⟨few, size⟩ := positive.pointCount_eq_ok.mp counted
  have complete : g.Complete := ⟨positive, bounded, size, size ▸ few⟩
  have made := made_of_build positive.nonnegative bounded built
  refine ⟨fun b hb => ?_, fun order => made.cellsInOrder_eq_ok⟩
  obtain ⟨region, m, hregion, hget, hmajorant⟩ := made.exists_region hb
  refine ⟨region, m, hregion, hget, hmajorant, fun channel hc => ?_, fun order visits => ?_⟩
  · rw [eq_maximum_of_blockMajorant complete.full hmajorant]
    exact Rgb.isNaN_maximum hc _
  · exact equal_maximum_of_order complete hmajorant visits

/-- A grid whose least point is no multiple of the edge. Its blocks begin at `(-2, 0, 0)`, and the
second of them reaches beyond the grid. -/
theorem build_reduces_blocks_unaligned :
    let g : VoxelGrid := ⟨⟨⟨-3, 0, 0⟩, ⟨4, 2, 2⟩⟩, twoCubes.values⟩
    (g.extent.Positive ∧ g.extent.pointCount = .ok g.values.size ∧
      ∃ b, g.extent.leastUpperBound = .ok b) ∧
      ∃ sv, build g 2 = .ok sv ∧ cellsInOrder g sv [1, 0] = .ok sv.majorants.values ∧
        ∃ region m vs, sv.blockExtent ⟨0, 0, 0⟩ = .ok region ∧
          sv.majorants.get ⟨0, 0, 0⟩ = .ok m ∧ m.r.isNaN = false ∧
          (g.extent.shared region).reverse.mapM g.get = .ok vs ∧
          m.equal (Rgb.maximum (vs.map Voxel.sigmaT)) = true := by
  intro g
  have positive : g.extent.Positive := ⟨by decide, by decide, by decide⟩
  have counted : g.extent.pointCount = .ok g.values.size := by decide
  have hb : g.extent.leastUpperBound = .ok ⟨1, 2, 2⟩ := by decide
  have shape : (build g 2).map (fun sv => (sv.majorants.extent, sv.majorants.values.size)) =
      .ok (⟨⟨-1, 0, 0⟩, ⟨2, 1, 1⟩⟩, 2) := by decide +kernel
  refine ⟨⟨positive, counted, _, hb⟩, ?_⟩
  cases built : build g 2 with
  | error x =>
    rw [built] at shape
    cases shape
  | ok sv =>
    rw [built] at shape
    obtain ⟨extent, size⟩ := Prod.mk.inj (Except.ok.inj shape)
    obtain ⟨blocks, cells⟩ := build_reduces_blocks positive counted ⟨_, hb⟩ built
    have inside : (⟨0, 0, 0⟩ : Point) ∈ sv.majorants.extent := by
      rw [extent]
      decide
    obtain ⟨region, m, hregion, hget, -, number, orders⟩ := blocks _ inside
    obtain ⟨vs, hvs, same⟩ := orders (g.extent.shared region).reverse fun p => by
      rw [List.mem_reverse, Extent.mem_shared hb]
    refine ⟨sv, rfl, cells [1, 0] fun n => ?_, region, m, vs, hregion, hget, ?_, hvs, same⟩
    · rw [size]
      simp only [List.mem_cons, List.not_mem_nil, or_false]
      omega
    · exact number Rgb.r List.mem_cons_self

end Majorant

end DenseMedium
