import DenseMedium.Lattice.Stride
import DenseMedium.Proofs.Lattice.Points
import Mathlib.Tactic.Ring

/-!
Strides and walks against the numbers of points.

* `ofLocal_eq_rank`: the stride of a member, computed from its local point, is its number.
* `Walk.run_eq`: a walk over a region inside an array is the loop over the region's points in
  canonical order, each with its number in the array. The running offsets never overflow when the
  number of cells of the array is a size, although each is moved once past its last cell.
-/

namespace DenseMedium

namespace Extent

variable {e : Extent} {p : Point}

/-- The local point of a member. -/
theorem sub_minimum (h : p ∈ e) :
    ∃ q, p.sub e.minimum = .ok q ∧ q.x.toInt = p.x.toInt - e.minimum.x.toInt ∧
      q.y.toInt = p.y.toInt - e.minimum.y.toInt ∧ q.z.toInt = p.z.toInt - e.minimum.z.toInt := by
  obtain ⟨⟨x1, x2⟩, ⟨y1, y2⟩, ⟨z1, z2⟩⟩ := h
  have value : ∀ {least length c : Coordinate}, least.toInt ≤ c.toInt →
      c.toInt < least.toInt + length.toInt →
      (Int32.ofInt (c.toInt - least.toInt)).toInt = c.toInt - least.toInt := by
    intro least length c h1 h2
    have := (Coordinate.fits_toInt length).2
    exact Coordinate.toInt_ofInt ⟨by omega, by omega⟩
  have hq := And.intro (value x1 x2) (And.intro (value y1 y2) (value z1 z2))
  exact ⟨⟨_, _, _⟩, Point.sub_eq_ok.mpr hq, hq⟩

/-- The stride of a member is its number. -/
theorem ofLocal_eq_rank (h : p ∈ e) (hv : e.volume < Size.bound) {q : Point}
    (hx : q.x.toInt = p.x.toInt - e.minimum.x.toInt)
    (hy : q.y.toInt = p.y.toInt - e.minimum.y.toInt)
    (hz : q.z.toInt = p.z.toInt - e.minimum.z.toInt) :
    Stride.ofLocal e.shape q = .ok (e.rank p) := by
  have hlt := Nat.lt_trans (rank_lt h) hv
  have hw : 0 < e.width := Nat.zero_lt_of_lt (local_lt h).1
  obtain ⟨⟨x1, x2⟩, ⟨y1, y2⟩, ⟨z1, z2⟩⟩ := h
  unfold Stride.ofLocal
  rw [Coordinate.toSize_of_nonneg (a := q.x) (by omega),
    Coordinate.toSize_of_nonneg (a := q.y) (by omega),
    Coordinate.toSize_of_nonneg (a := q.z) (by omega),
    Coordinate.toSize_of_nonneg (a := e.shape.x) (by omega),
    Coordinate.toSize_of_nonneg (a := e.shape.y) (by omega), hx, hy, hz]
  change (Size.mul e.height _ >>= fun column => Size.add _ column >>= fun row =>
    Size.mul e.width row >>= fun plane => Size.add _ plane) = _
  -- Every partial result is at most the whole, since the width is at least one.
  unfold rank at hlt ⊢
  have row_le := Nat.le_mul_of_pos_left ((p.y.toInt - e.minimum.y.toInt).toNat +
    e.height * (p.z.toInt - e.minimum.z.toInt).toNat) hw
  rw [Size.mul_ok (by omega), ok_bind, Size.add_ok (by omega), ok_bind, Size.mul_ok (by omega),
    ok_bind, Size.add_ok hlt]

end Extent

/-! ### Loops with a running offset -/

section Loops

variable {σ : Type}

/-- A loop that moves an offset by a fixed step, with the offset computed instead. -/
theorem foldlM_offset (body : σ → Nat → Nat → Checked σ) (step first : Nat) (s : σ) :
    ∀ n, first + n * step < Size.bound →
      (List.range n).foldlM (fun (t : σ × Nat) i => do
          let s ← body t.1 t.2 i
          let next ← Size.add t.2 step
          return (s, next)) (s, first) =
        ((List.range n).foldlM (fun s i => body s (first + i * step) i) s >>= fun s =>
          .ok (s, first + n * step))
  | 0, _ => by simp
  | n + 1, h => by
      rw [Nat.add_mul, Nat.one_mul] at h
      rw [List.range_succ, List.foldlM_append, List.foldlM_append,
        foldlM_offset body step first s n (by omega)]
      cases (List.range n).foldlM (fun s i => body s (first + i * step) i) s with
      | error e => rfl
      | ok t =>
        simp only [ok_bind, List.foldlM_cons, List.foldlM_nil, bind_pure]
        rw [Size.add_ok (by omega), Nat.add_mul, Nat.one_mul, Nat.add_assoc]
        rfl

theorem foldlM_flatMap {α β : Type} {m : Type → Type} [Monad m] [LawfulMonad m] (f : α → List β)
    (g : σ → β → m σ) :
    ∀ (xs : List α) (s : σ),
      (xs.flatMap f).foldlM g s = xs.foldlM (fun s x => (f x).foldlM g s) s
  | [], _ => rfl
  | x :: xs, s => by
      rw [List.flatMap_cons, List.foldlM_append, List.foldlM_cons]
      exact congrArg _ (funext fun s => foldlM_flatMap f g xs s)

end Loops

/-! ### Walks -/

namespace Extent

/-- Whether `e` has a point and lies inside `whole`. -/
structure Inside (e whole : Extent) : Prop where
  positive : e.Positive
  x : whole.minimum.x.toInt ≤ e.minimum.x.toInt ∧
    e.minimum.x.toInt + e.shape.x.toInt ≤ whole.minimum.x.toInt + whole.shape.x.toInt
  y : whole.minimum.y.toInt ≤ e.minimum.y.toInt ∧
    e.minimum.y.toInt + e.shape.y.toInt ≤ whole.minimum.y.toInt + whole.shape.y.toInt
  z : whole.minimum.z.toInt ≤ e.minimum.z.toInt ∧
    e.minimum.z.toInt + e.shape.z.toInt ≤ whole.minimum.z.toInt + whole.shape.z.toInt

namespace Inside

variable {e whole : Extent}

theorem mem (h : e.Inside whole) {p : Point} (hp : p ∈ e) : p ∈ whole := by
  obtain ⟨⟨_, _⟩, ⟨_, _⟩, ⟨_, _⟩⟩ := hp
  obtain ⟨-, ⟨_, _⟩, ⟨_, _⟩, ⟨_, _⟩⟩ := h
  exact ⟨⟨by omega, by omega⟩, ⟨by omega, by omega⟩, ⟨by omega, by omega⟩⟩

theorem minimum_mem_self (h : e.Inside whole) : e.minimum ∈ e := by
  obtain ⟨_, _, _⟩ := h.positive
  exact ⟨⟨by omega, by omega⟩, ⟨by omega, by omega⟩, ⟨by omega, by omega⟩⟩

theorem minimum_mem (h : e.Inside whole) : e.minimum ∈ whole := h.mem h.minimum_mem_self

end Inside

end Extent

namespace Walk

variable {σ : Type}

/-- What a row does with the state before the offset moves on. -/
def rowBody (w : Walk) (visit : σ → Point → Nat → Checked σ) (lo bound : Point) (z : Coordinate)
    (s : σ) (offset : Nat) (y : Coordinate) : Checked σ := do
  let first ← Size.add offset w.xStart
  let visited ← (interval lo.x bound.x).foldlM (cell visit y z) (s, first)
  return visited.1

/-- What a plane does with the state before the offset moves on. -/
def planeBody (w : Walk) (visit : σ → Point → Nat → Checked σ) (lo bound : Point)
    (s : σ) (offset : Nat) (z : Coordinate) : Checked σ := do
  let first ← Size.add offset w.yStart
  let visited ← (interval lo.y bound.y).foldlM (row w visit lo bound z) (s, first)
  return visited.1

theorem row_eq (w : Walk) (visit : σ → Point → Nat → Checked σ) (lo bound : Point) (z : Coordinate)
    (t : σ × Nat) (y : Coordinate) :
    row w visit lo bound z t y = (do
      let s ← rowBody w visit lo bound z t.1 t.2 y
      let next ← Size.add t.2 w.rowStep
      return (s, next)) := by
  simp only [row, rowBody, bind_assoc, pure_bind]

theorem plane_eq (w : Walk) (visit : σ → Point → Nat → Checked σ) (lo bound : Point)
    (t : σ × Nat) (z : Coordinate) :
    plane w visit lo bound t z = (do
      let s ← planeBody w visit lo bound t.1 t.2 z
      let next ← Size.add t.2 w.planeStep
      return (s, next)) := by
  simp only [plane, planeBody, bind_assoc, pure_bind]

section Region

variable {whole region : Extent} {bound : Point}

/-- The offsets at which a region inside an array starts. -/
def offsets (whole region : Extent) : Walk where
  rowStep := whole.width
  planeStep := whole.width * whole.height
  xStart := (region.minimum.x.toInt - whole.minimum.x.toInt).toNat
  yStart := whole.width * (region.minimum.y.toInt - whole.minimum.y.toInt).toNat
  zStart := whole.width * whole.height * (region.minimum.z.toInt - whole.minimum.z.toInt).toNat

/-- The region ends, on each axis, where the array does or before. -/
theorem end_le (h : region.Inside whole) :
    (region.minimum.x.toInt - whole.minimum.x.toInt).toNat + region.width ≤ whole.width ∧
      (region.minimum.y.toInt - whole.minimum.y.toInt).toNat + region.height ≤ whole.height ∧
      (region.minimum.z.toInt - whole.minimum.z.toInt).toNat + region.depth ≤ whole.depth := by
  obtain ⟨⟨_, _, _⟩, ⟨_, _⟩, ⟨_, _⟩, ⟨_, _⟩⟩ := h
  unfold Extent.width Extent.height Extent.depth
  exact ⟨by omega, by omega, by omega⟩

/-- The offsets of a region that does not start below the array, when they are sizes. -/
theorem starting_eq_offsets (nonnegative : whole.Nonnegative)
    (above : whole.minimum.x.toInt ≤ region.minimum.x.toInt ∧
      whole.minimum.y.toInt ≤ region.minimum.y.toInt ∧
      whole.minimum.z.toInt ≤ region.minimum.z.toInt) {start : Point}
    (hx : start.x.toInt = region.minimum.x.toInt - whole.minimum.x.toInt)
    (hy : start.y.toInt = region.minimum.y.toInt - whole.minimum.y.toInt)
    (hz : start.z.toInt = region.minimum.z.toInt - whole.minimum.z.toInt)
    (plane : (offsets whole region).planeStep < Size.bound)
    (row : (offsets whole region).yStart < Size.bound)
    (planes : (offsets whole region).zStart < Size.bound) :
    starting whole.shape start = .ok (offsets whole region) := by
  obtain ⟨_, _, _⟩ := nonnegative
  obtain ⟨_, _, _⟩ := above
  unfold starting
  rw [Coordinate.toSize_of_nonneg (a := start.x) (by omega),
    Coordinate.toSize_of_nonneg (a := start.y) (by omega),
    Coordinate.toSize_of_nonneg (a := start.z) (by omega),
    Coordinate.toSize_of_nonneg (a := whole.shape.x) (by omega),
    Coordinate.toSize_of_nonneg (a := whole.shape.y) (by omega), hx, hy, hz]
  change (Size.mul whole.width whole.height >>= fun planeStep => Size.mul whole.width _ >>=
    fun yStart => Size.mul planeStep _ >>= fun zStart => pure _) = _
  rw [Size.mul_ok plane, ok_bind, Size.mul_ok row, ok_bind, Size.mul_ok planes, ok_bind]
  rfl

theorem starting_eq_ok (h : region.Inside whole) (hv : whole.volume < Size.bound) {start : Point}
    (hx : start.x.toInt = region.minimum.x.toInt - whole.minimum.x.toInt)
    (hy : start.y.toInt = region.minimum.y.toInt - whole.minimum.y.toInt)
    (hz : start.z.toInt = region.minimum.z.toInt - whole.minimum.z.toInt) :
    starting whole.shape start = .ok (offsets whole region) := by
  obtain ⟨-, ey, ez⟩ := end_le h
  rw [Extent.volume_eq] at hv
  have hd : 0 < whole.depth := by have := h.positive.depth_pos; omega
  have plane_le := Nat.le_mul_of_pos_right (whole.width * whole.height) hd
  have y_le := Nat.mul_le_mul_left whole.width (Nat.le_of_add_right_le ey)
  have z_le := Nat.mul_le_mul_left (whole.width * whole.height) (Nat.le_of_add_right_le ez)
  obtain ⟨⟨_, _, _⟩, ⟨_, _⟩, ⟨_, _⟩, ⟨_, _⟩⟩ := h
  refine starting_eq_offsets ⟨by omega, by omega, by omega⟩ ⟨by omega, by omega, by omega⟩ hx hy hz
    ?_ ?_ ?_ <;>
  · dsimp only [offsets]
    omega

/-- A row, with the offsets computed. -/
theorem rowBody_eq (hb : region.leastUpperBound = .ok bound) (w : Walk)
    (visit : σ → Point → Nat → Checked σ) (z : Coordinate) (s : σ) (offset : Nat) (y : Coordinate)
    (h : offset + w.xStart + region.width < Size.bound) :
    rowBody w visit region.minimum bound z s offset y =
      (List.range region.width).foldlM (fun s i =>
        visit s ⟨Int32.ofInt (region.minimum.x.toInt + (i : Nat)), y, z⟩
          (offset + w.xStart + i)) s := by
  have loop := foldlM_offset (fun s o (i : Nat) =>
    visit s ⟨Int32.ofInt (region.minimum.x.toInt + i), y, z⟩ o) 1 (offset + w.xStart) s
    region.width (by rwa [Nat.mul_one])
  unfold rowBody
  rw [Size.add_ok (by omega), ok_bind, Extent.interval_eq (Extent.leastUpperBound_eq_ok.mp hb).1,
    List.foldlM_map]
  refine (congrArg (· >>= fun visited => pure visited.1) loop).trans ?_
  simp only [Nat.mul_one, bind_assoc, ok_bind]
  exact bind_pure _

/-- A plane, with the offsets of its rows computed. -/
theorem planeBody_eq (hb : region.leastUpperBound = .ok bound) (w : Walk)
    (visit : σ → Point → Nat → Checked σ) (s : σ) (offset : Nat) (z : Coordinate)
    (h : offset + w.yStart + region.height * w.rowStep < Size.bound) :
    planeBody w visit region.minimum bound s offset z =
      (List.range region.height).foldlM (fun s j =>
        rowBody w visit region.minimum bound z s (offset + w.yStart + j * w.rowStep)
          (Int32.ofInt (region.minimum.y.toInt + (j : Nat)))) s := by
  have loop := foldlM_offset (fun s o (j : Nat) =>
    rowBody w visit region.minimum bound z s o (Int32.ofInt (region.minimum.y.toInt + j)))
    w.rowStep (offset + w.yStart) s region.height h
  unfold planeBody
  rw [Size.add_ok (by omega), ok_bind, Extent.interval_eq (Extent.leastUpperBound_eq_ok.mp hb).2.1,
    List.foldlM_map]
  simp only [row_eq]
  refine (congrArg (· >>= fun visited => pure visited.1) loop).trans ?_
  simp only [bind_assoc, ok_bind]
  exact bind_pure _

/-- The number in the array of a point of the region, as the walk reaches it. -/
theorem offset_eq_rank (hb : region.leastUpperBound = .ok bound) (h : region.Inside whole)
    {i j k : Nat} (hi : i < region.width) (hj : j < region.height) (hk : k < region.depth) :
    (offsets whole region).zStart + k * (offsets whole region).planeStep +
        (offsets whole region).yStart + j * (offsets whole region).rowStep +
        (offsets whole region).xStart + i = whole.rank (region.pointOf i j k) := by
  obtain ⟨bx, by', bz⟩ := Extent.leastUpperBound_eq_ok.mp hb
  have value : ∀ {least length top : Coordinate} {n : Nat},
      top.toInt = least.toInt + length.toInt → n < length.toInt.toNat →
      (Int32.ofInt (least.toInt + n)).toInt = least.toInt + n := by
    intro least length top n htop hn
    have := (Coordinate.fits_toInt least).1
    have := (Coordinate.fits_toInt top).2
    exact Coordinate.toInt_ofInt ⟨by omega, by omega⟩
  have shift : ∀ {a b : Int} {n : Nat}, b ≤ a → (a + n - b).toNat = (a - b).toNat + n := by
    intro a b n hab
    omega
  unfold Extent.rank Extent.pointOf offsets
  rw [value bx hi, value by' hj, value bz hk, shift h.x.1, shift h.y.1, shift h.z.1]
  ring

/-- From the start of each plane of a region, a whole plane of the array can be counted. -/
theorem plane_end_lt (h : region.Inside whole) (hv : whole.volume < Size.bound) {k : Nat}
    (hk : k < region.depth) : (offsets whole region).zStart +
      k * (offsets whole region).planeStep + whole.width * whole.height < Size.bound := by
  obtain ⟨-, -, ez⟩ := end_le h
  rw [Extent.volume_eq] at hv
  have := Nat.mul_le_mul_left (whole.width * whole.height)
    (show (region.minimum.z.toInt - whole.minimum.z.toInt).toNat + k + 1 ≤ whole.depth by omega)
  unfold offsets
  simp only
  calc _ = whole.width * whole.height *
        ((region.minimum.z.toInt - whole.minimum.z.toInt).toNat + k + 1) := by ring
    _ < Size.bound := by omega

/-- The rows of a region start within a plane of the array. -/
theorem row_start_le (h : region.Inside whole) {j : Nat} (hj : j ≤ region.height) :
    (offsets whole region).yStart + j * (offsets whole region).rowStep ≤
      whole.width * whole.height := by
  obtain ⟨-, ey, -⟩ := end_le h
  have := Nat.mul_le_mul_left whole.width
    (show (region.minimum.y.toInt - whole.minimum.y.toInt).toNat + j ≤ whole.height by omega)
  unfold offsets
  simp only
  calc _ = whole.width * ((region.minimum.y.toInt - whole.minimum.y.toInt).toNat + j) := by ring
    _ ≤ _ := this

/-- The rows of a region end within a plane of the array. -/
theorem row_end_le (h : region.Inside whole) {j : Nat} (hj : j < region.height) :
    (offsets whole region).yStart + j * (offsets whole region).rowStep +
      (offsets whole region).xStart + region.width ≤ whole.width * whole.height := by
  have next := row_start_le h (Nat.succ_le_of_lt hj)
  rw [Nat.succ_mul] at next
  have : (offsets whole region).xStart + region.width ≤ (offsets whole region).rowStep :=
    (end_le h).1
  omega

/-- A walk, with the offsets of its planes computed. -/
theorem run_eq_planeBody (hb : region.leastUpperBound = .ok bound) {start : Point} {w : Walk}
    (hstart : region.minimum.sub whole.minimum = .ok start)
    (hw : starting whole.shape start = .ok w)
    (last : w.zStart + region.depth * w.planeStep < Size.bound)
    (visit : σ → Point → Nat → Checked σ) (s : σ) :
    run whole region visit s = (List.range region.depth).foldlM (fun s k =>
      planeBody w visit region.minimum bound s (w.zStart + k * w.planeStep)
        (Int32.ofInt (region.minimum.z.toInt + (k : Nat)))) s := by
  have loop := foldlM_offset (fun s o (k : Nat) =>
    planeBody w visit region.minimum bound s o (Int32.ofInt (region.minimum.z.toInt + k)))
    w.planeStep w.zStart s region.depth last
  unfold run
  rw [hb, ok_bind, hstart, ok_bind, hw, ok_bind,
    Extent.interval_eq (Extent.leastUpperBound_eq_ok.mp hb).2.2, List.foldlM_map]
  simp only [plane_eq]
  refine (congrArg (· >>= fun visited => pure visited.1) loop).trans ?_
  simp only [bind_assoc, ok_bind]
  exact bind_pure _

theorem run_eq_planes (hb : region.leastUpperBound = .ok bound) (h : region.Inside whole)
    (hv : whole.volume < Size.bound) (visit : σ → Point → Nat → Checked σ) (s : σ) :
    run whole region visit s = (List.range region.depth).foldlM (fun s k =>
      planeBody (offsets whole region) visit region.minimum bound s
        ((offsets whole region).zStart + k * (offsets whole region).planeStep)
        (Int32.ofInt (region.minimum.z.toInt + (k : Nat)))) s := by
  obtain ⟨start, hstart, hx, hy, hz⟩ := Extent.sub_minimum h.minimum_mem
  have last := plane_end_lt h hv (Nat.sub_lt h.positive.depth_pos Nat.one_pos)
  refine run_eq_planeBody hb hstart (starting_eq_ok h hv hx hy hz) ?_ visit s
  rw [← Nat.sub_add_cancel h.positive.depth_pos, Nat.succ_mul, ← Nat.add_assoc]
  exact last

/-- A walk over a region inside an array is the loop over the points of the region, each with its
number in the array. -/
theorem run_eq (hb : region.leastUpperBound = .ok bound) (h : region.Inside whole)
    (hv : whole.volume < Size.bound) (visit : σ → Point → Nat → Checked σ) (s : σ) :
    run whole region visit s =
      region.enumerate.foldlM (fun s p => visit s p (whole.rank p)) s := by
  rw [run_eq_planes hb h hv,
    Extent.enumerate_eq_flatMap h.positive.width_pos h.positive.height_pos, foldlM_flatMap]
  refine foldlM_congr fun s k hk => ?_
  have hk := List.mem_range.mp hk
  have plane := plane_end_lt h hv hk
  have rows := row_start_le h (Nat.le_refl region.height)
  rw [planeBody_eq hb _ visit s _ _ (by omega), foldlM_flatMap]
  refine foldlM_congr fun s j hj => ?_
  have hj := List.mem_range.mp hj
  have row := row_end_le h hj
  rw [rowBody_eq hb _ visit _ s _ _ (by omega), List.foldlM_map]
  refine foldlM_congr fun s i hi => ?_
  have hi := List.mem_range.mp hi
  rw [← offset_eq_rank hb h hi hj hk]
  rfl

end Region

end Walk

end DenseMedium
