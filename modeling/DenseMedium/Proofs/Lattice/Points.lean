import DenseMedium.Proofs.Steps
import Mathlib.Tactic.Tauto

/-!
The points of an extent, and their numbers.

An extent whose least upper bound fits has `volume` points. Three readings of its points agree:

* `points_eq_ok`: `Extent.points` gives `enumerate`, the points number `0, 1, …`, where point number
  `n` has the local components `n % width`, `n / width % height` and `n / (width * height)`.
* `rank_pointAt`, `pointAt_rank`: `Extent.rank`, the linear formula, is the inverse of that.
* `mem_enumerate`: the listed points are the members.
-/

namespace DenseMedium

/-! ### Arithmetic, component by component -/

namespace Point

variable {p q r : Point} {k : Coordinate}

theorem zipWith_eq_ok {f : Coordinate → Coordinate → Checked Coordinate} :
    zipWith f p q = .ok r ↔
      f p.x q.x = .ok r.x ∧ f p.y q.y = .ok r.y ∧ f p.z q.z = .ok r.z := by
  unfold zipWith
  constructor
  · intro h
    obtain ⟨x, hx, h⟩ := bind_eq_ok.mp h
    obtain ⟨y, hy, h⟩ := bind_eq_ok.mp h
    obtain ⟨z, hz, h⟩ := bind_eq_ok.mp h
    cases h
    exact ⟨hx, hy, hz⟩
  · rintro ⟨hx, hy, hz⟩
    rw [hx, ok_bind, hy, ok_bind, hz, ok_bind, pure_eq_ok]

/-- Components with one fault make a point, or that fault. -/
theorem zipWith_cases {f : Coordinate → Coordinate → Checked Coordinate} {fault : Fault}
    (step : ∀ a b, (∃ c, f a b = .ok c) ∨ f a b = .error fault) :
    (∃ r, zipWith f p q = .ok r) ∨ zipWith f p q = .error fault := by
  unfold zipWith
  rcases step p.x q.x with ⟨x, hx⟩ | hx
  · rcases step p.y q.y with ⟨y, hy⟩ | hy
    · rcases step p.z q.z with ⟨z, hz⟩ | hz
      · exact .inl ⟨⟨x, y, z⟩, by rw [hx, ok_bind, hy, ok_bind, hz, ok_bind, pure_eq_ok]⟩
      · exact .inr (by rw [hx, ok_bind, hy, ok_bind, hz, error_bind])
    · exact .inr (by rw [hx, ok_bind, hy, error_bind])
  · exact .inr (by rw [hx, error_bind])

theorem add_eq_ok : p.add q = .ok r ↔ r.x.toInt = p.x.toInt + q.x.toInt ∧
    r.y.toInt = p.y.toInt + q.y.toInt ∧ r.z.toInt = p.z.toInt + q.z.toInt := by
  unfold add
  rw [zipWith_eq_ok, Coordinate.add_eq_ok, Coordinate.add_eq_ok, Coordinate.add_eq_ok]

theorem sub_eq_ok : p.sub q = .ok r ↔ r.x.toInt = p.x.toInt - q.x.toInt ∧
    r.y.toInt = p.y.toInt - q.y.toInt ∧ r.z.toInt = p.z.toInt - q.z.toInt := by
  unfold sub
  rw [zipWith_eq_ok, Coordinate.sub_eq_ok, Coordinate.sub_eq_ok, Coordinate.sub_eq_ok]

theorem scale_eq_ok : p.scale k = .ok r ↔ r.x.toInt = p.x.toInt * k.toInt ∧
    r.y.toInt = p.y.toInt * k.toInt ∧ r.z.toInt = p.z.toInt * k.toInt := by
  unfold scale fill
  rw [zipWith_eq_ok, Coordinate.mul_eq_ok, Coordinate.mul_eq_ok, Coordinate.mul_eq_ok]

theorem div_eq_ok (hk : k ≠ 0) : p.div k = .ok r ↔ r.x.toInt = p.x.toInt.tdiv k.toInt ∧
    r.y.toInt = p.y.toInt.tdiv k.toInt ∧ r.z.toInt = p.z.toInt.tdiv k.toInt := by
  unfold div fill
  rw [zipWith_eq_ok, Coordinate.div_eq_ok hk, Coordinate.div_eq_ok hk, Coordinate.div_eq_ok hk]

end Point

/-! ### Membership, axis by axis -/

/-- Whether `v` is one of `length` integers from `least` on. -/
def Within (least length v : Int) : Prop := least ≤ v ∧ v < least + length

theorem within_add {least length : Int} {i : Nat} (h : i < length.toNat) :
    Within least length (least + i) := ⟨by omega, by omega⟩

namespace Extent

theorem mem_def {e : Extent} {p : Point} :
    p ∈ e ↔ Within e.minimum.x.toInt e.shape.x.toInt p.x.toInt ∧
      Within e.minimum.y.toInt e.shape.y.toInt p.y.toInt ∧
      Within e.minimum.z.toInt e.shape.z.toInt p.z.toInt := Iff.rfl

/-- The points of an extent at the origin. -/
theorem mem_of_origin {e : Extent} {p : Point} (h : e.minimum = Point.zero) :
    p ∈ e ↔ (0 ≤ p.x.toInt ∧ p.x.toInt < e.shape.x.toInt) ∧
      (0 ≤ p.y.toInt ∧ p.y.toInt < e.shape.y.toInt) ∧
      (0 ≤ p.z.toInt ∧ p.z.toInt < e.shape.z.toInt) := by
  obtain ⟨x0, y0, z0⟩ : e.minimum.x.toInt = 0 ∧ e.minimum.y.toInt = 0 ∧ e.minimum.z.toInt = 0 := by
    rw [h]
    exact ⟨rfl, rfl, rfl⟩
  simp only [mem_def, x0, y0, z0, Within, Int.zero_add]

instance (e : Extent) (p : Point) : Decidable (p ∈ e) :=
  inferInstanceAs (Decidable ((_ ∧ _) ∧ (_ ∧ _) ∧ (_ ∧ _)))

/-! ### Lengths -/

/-- The number of points on each axis; a negative length has none. -/
def width (e : Extent) : Nat := e.shape.x.toInt.toNat

def height (e : Extent) : Nat := e.shape.y.toInt.toNat

def depth (e : Extent) : Nat := e.shape.z.toInt.toNat

/-- The number of points. -/
def volume (e : Extent) : Nat := e.width * (e.height * e.depth)

theorem volume_eq (e : Extent) : e.volume = e.width * e.height * e.depth := (Nat.mul_assoc _ _ _).symm

/-- Whether every length is positive. -/
def Positive (e : Extent) : Prop :=
  0 < e.shape.x.toInt ∧ 0 < e.shape.y.toInt ∧ 0 < e.shape.z.toInt

namespace Positive

variable {e : Extent}

theorem width_pos (h : e.Positive) : 0 < e.width := by have := h.1; unfold width; omega

theorem height_pos (h : e.Positive) : 0 < e.height := by have := h.2.1; unfold height; omega

theorem depth_pos (h : e.Positive) : 0 < e.depth := by have := h.2.2; unfold depth; omega

theorem volume_pos (h : e.Positive) : 0 < e.volume :=
  Nat.mul_pos h.width_pos (Nat.mul_pos h.height_pos h.depth_pos)

end Positive

theorem leastUpperBound_eq_ok {e : Extent} {b : Point} :
    e.leastUpperBound = .ok b ↔
      b.x.toInt = e.minimum.x.toInt + e.shape.x.toInt ∧
      b.y.toInt = e.minimum.y.toInt + e.shape.y.toInt ∧
      b.z.toInt = e.minimum.z.toInt + e.shape.z.toInt :=
  Point.add_eq_ok

/-- An extent at the origin has its shape as least upper bound. -/
theorem leastUpperBound_of_origin {e : Extent} (h : e.minimum = Point.zero) :
    e.leastUpperBound = .ok e.shape := by
  refine leastUpperBound_eq_ok.mpr ?_
  rw [h]
  exact ⟨(Int.zero_add _).symm, (Int.zero_add _).symm, (Int.zero_add _).symm⟩

/-! ### Numbers of points -/

/-- The point with the given local components. -/
def pointOf (e : Extent) (x y z : Nat) : Point :=
  ⟨Int32.ofInt (e.minimum.x.toInt + x), Int32.ofInt (e.minimum.y.toInt + y),
    Int32.ofInt (e.minimum.z.toInt + z)⟩

/-- The point number `n` in canonical order. -/
def pointAt (e : Extent) (n : Nat) : Point :=
  e.pointOf (n % e.width) (n / e.width % e.height) (n / (e.width * e.height))

/-- The point number `n` of an extent at the origin, with the digits of `n` taken plane by plane. -/
theorem pointAt_ofShape (shape : Point) (n : Nat) : (ofShape shape).pointAt n =
    ⟨.ofSize (n % ((ofShape shape).width * (ofShape shape).height) % (ofShape shape).width),
      .ofSize (n % ((ofShape shape).width * (ofShape shape).height) / (ofShape shape).width),
      .ofSize (n / ((ofShape shape).width * (ofShape shape).height))⟩ := by
  have origin (c : Nat) : (ofShape shape).minimum.x.toInt + c = c := Int.zero_add _
  rw [Nat.mod_mul_right_mod, Nat.mod_mul_right_div_self]
  unfold pointAt pointOf Coordinate.ofSize
  exact Point.ext (congrArg Int32.ofInt (origin _)) (congrArg Int32.ofInt (origin _))
    (congrArg Int32.ofInt (origin _))

/-- The number of a member in canonical order. -/
def rank (e : Extent) (p : Point) : Nat :=
  (p.x.toInt - e.minimum.x.toInt).toNat +
    e.width * ((p.y.toInt - e.minimum.y.toInt).toNat +
      e.height * (p.z.toInt - e.minimum.z.toInt).toNat)

section Numbers

variable {e : Extent} {b p : Point} {n : Nat}

/-- The three digits of a number below the volume, and their ranges. -/
theorem digits_lt (h : n < e.volume) :
    n % e.width < e.width ∧ n / e.width % e.height < e.height ∧
      n / (e.width * e.height) < e.depth := by
  rw [volume_eq] at h
  have hw : 0 < e.width := Nat.pos_of_ne_zero fun h0 => by simp [h0] at h
  have hh : 0 < e.height := Nat.pos_of_ne_zero fun h0 => by simp [h0] at h
  exact ⟨Nat.mod_lt _ hw, Nat.mod_lt _ hh,
    (Nat.div_lt_iff_lt_mul (Nat.mul_pos hw hh)).mpr (by rwa [Nat.mul_comm])⟩

/-- Components of a point given by local ones: none wraps when the least upper bound fits. -/
theorem toInt_pointOf (hb : e.leastUpperBound = .ok b) {x y z : Nat} (hx : x < e.width)
    (hy : y < e.height) (hz : z < e.depth) :
    (e.pointOf x y z).x.toInt = e.minimum.x.toInt + x ∧
      (e.pointOf x y z).y.toInt = e.minimum.y.toInt + y ∧
      (e.pointOf x y z).z.toInt = e.minimum.z.toInt + z := by
  obtain ⟨bx, by', bz⟩ := leastUpperBound_eq_ok.mp hb
  have fits : ∀ {least length top : Coordinate} {i : Nat}, top.toInt = least.toInt + length.toInt →
      i < length.toInt.toNat → Coordinate.Fits (least.toInt + i) := by
    intro least length top i htop hi
    have := (Coordinate.fits_toInt least).1
    have := (Coordinate.fits_toInt top).2
    exact ⟨by omega, by omega⟩
  exact ⟨Coordinate.toInt_ofInt (fits bx hx), Coordinate.toInt_ofInt (fits by' hy),
    Coordinate.toInt_ofInt (fits bz hz)⟩

theorem pointOf_mem (hb : e.leastUpperBound = .ok b) {x y z : Nat} (hx : x < e.width)
    (hy : y < e.height) (hz : z < e.depth) : e.pointOf x y z ∈ e := by
  obtain ⟨px, py, pz⟩ := toInt_pointOf hb hx hy hz
  rw [mem_def, px, py, pz]
  exact ⟨within_add hx, within_add hy, within_add hz⟩

/-- The number of a point from its local components. -/
theorem rank_pointOf (hb : e.leastUpperBound = .ok b) {x y z : Nat} (hx : x < e.width)
    (hy : y < e.height) (hz : z < e.depth) :
    e.rank (e.pointOf x y z) = x + e.width * (y + e.height * z) := by
  obtain ⟨px, py, pz⟩ := toInt_pointOf hb hx hy hz
  have drop : ∀ (a : Int) (i : Nat), (a + i - a).toNat = i := fun a i => by omega
  unfold rank
  rw [px, py, pz, drop, drop, drop]

theorem toInt_pointAt (hb : e.leastUpperBound = .ok b) (h : n < e.volume) :
    (e.pointAt n).x.toInt = e.minimum.x.toInt + (n % e.width : Nat) ∧
      (e.pointAt n).y.toInt = e.minimum.y.toInt + (n / e.width % e.height : Nat) ∧
      (e.pointAt n).z.toInt = e.minimum.z.toInt + (n / (e.width * e.height) : Nat) := by
  obtain ⟨hx, hy, hz⟩ := digits_lt h
  exact toInt_pointOf hb hx hy hz

theorem pointAt_mem (hb : e.leastUpperBound = .ok b) (h : n < e.volume) : e.pointAt n ∈ e := by
  obtain ⟨hx, hy, hz⟩ := digits_lt h
  exact pointOf_mem hb hx hy hz

theorem rank_pointAt (hb : e.leastUpperBound = .ok b) (h : n < e.volume) :
    e.rank (e.pointAt n) = n := by
  obtain ⟨hx, hy, hz⟩ := digits_lt h
  unfold pointAt
  rw [rank_pointOf hb hx hy hz, ← Nat.div_div_eq_div_mul, Nat.mod_add_div, Nat.mod_add_div]

/-- Local components of a member, as naturals below the lengths. -/
theorem local_lt (h : p ∈ e) :
    (p.x.toInt - e.minimum.x.toInt).toNat < e.width ∧
      (p.y.toInt - e.minimum.y.toInt).toNat < e.height ∧
      (p.z.toInt - e.minimum.z.toInt).toNat < e.depth := by
  obtain ⟨⟨_, _⟩, ⟨_, _⟩, ⟨_, _⟩⟩ := h
  unfold width height depth
  exact ⟨by omega, by omega, by omega⟩

theorem rank_lt (h : p ∈ e) : e.rank p < e.volume := by
  obtain ⟨hx, hy, hz⟩ := local_lt h
  have row : (p.y.toInt - e.minimum.y.toInt).toNat + e.height *
      (p.z.toInt - e.minimum.z.toInt).toNat < e.height * e.depth :=
    calc _ < e.height * ((p.z.toInt - e.minimum.z.toInt).toNat + 1) := by rw [Nat.mul_succ]; omega
      _ ≤ e.height * e.depth := Nat.mul_le_mul_left _ hz
  calc e.rank p < e.width * ((p.y.toInt - e.minimum.y.toInt).toNat + e.height *
        (p.z.toInt - e.minimum.z.toInt).toNat + 1) := by unfold rank; rw [Nat.mul_succ]; omega
    _ ≤ e.volume := Nat.mul_le_mul_left _ row

theorem pointAt_rank (h : p ∈ e) : e.pointAt (e.rank p) = p := by
  obtain ⟨hx, hy, hz⟩ := local_lt h
  have hw : 0 < e.width := Nat.zero_lt_of_lt hx
  have hh : 0 < e.height := Nat.zero_lt_of_lt hy
  obtain ⟨⟨_, _⟩, ⟨_, _⟩, ⟨_, _⟩⟩ := h
  have back : ∀ {least c : Coordinate}, least.toInt ≤ c.toInt →
      Int32.ofInt (least.toInt + ((c.toInt - least.toInt).toNat : Nat)) = c := by
    intro least c hle
    rw [show least.toInt + ((c.toInt - least.toInt).toNat : Nat) = c.toInt by omega, Int32.ofInt_toInt]
  unfold pointAt pointOf rank
  rw [← Nat.div_div_eq_div_mul, Nat.add_mul_mod_self_left, Nat.mod_eq_of_lt hx,
    Nat.add_mul_div_left _ _ hw, Nat.div_eq_of_lt hx, Nat.zero_add, Nat.add_mul_mod_self_left,
    Nat.mod_eq_of_lt hy, Nat.add_mul_div_left _ _ hh, Nat.div_eq_of_lt hy, Nat.zero_add,
    back (by assumption), back (by assumption), back (by assumption)]

end Numbers

/-! ### The list of points -/

/-- A loop of `n` rounds of `m` steps, as one loop. -/
theorem flatMap_range_map {α : Type} (f : Nat → Nat → α) {m : Nat} (hm : 0 < m) (n : Nat) :
    ((List.range n).flatMap fun i => (List.range m).map (f i)) =
      (List.range (m * n)).map fun k => f (k / m) (k % m) := by
  induction n with
  | zero => rfl
  | succ n ih =>
    rw [List.range_succ, List.flatMap_append, ih, Nat.mul_succ, List.range_add, List.map_append,
      List.map_map, List.flatMap_singleton]
    refine congrArg _ (List.map_congr_left fun j hj => ?_)
    have hj := List.mem_range.mp hj
    rw [Function.comp_apply, Nat.mul_add_div hm, Nat.div_eq_of_lt hj, Nat.add_zero,
      Nat.mul_add_mod, Nat.mod_eq_of_lt hj]

/-- Three nested loops, as one loop over the number in canonical order. -/
theorem flatMap_flatMap_range_map {α : Type} (f : Nat → Nat → Nat → α) {w h : Nat} (hw : 0 < w)
    (hh : 0 < h) (d : Nat) :
    ((List.range d).flatMap fun z => (List.range h).flatMap fun y =>
        (List.range w).map fun x => f x y z) =
      (List.range (w * h * d)).map fun n => f (n % w) (n / w % h) (n / (w * h)) := by
  have plane : ∀ z, ((List.range h).flatMap fun y => (List.range w).map fun x => f x y z) =
      (List.range (w * h)).map fun k => f (k % w) (k / w) z :=
    fun z => flatMap_range_map (fun y x => f x y z) hw h
  simp only [plane]
  rw [flatMap_range_map (fun z k => f (k % w) (k / w) z) (Nat.mul_pos hw hh)]
  simp only [Nat.mod_mul_right_mod, Nat.mod_mul_right_div_self]

/-- The coordinates between the two ends of an axis. -/
theorem interval_eq {lo length hi : Coordinate} (h : hi.toInt = lo.toInt + length.toInt) :
    interval lo hi =
      (List.range length.toInt.toNat).map fun i : Nat => Int32.ofInt (lo.toInt + i) := by
  unfold interval
  rw [h, show lo.toInt + length.toInt - lo.toInt = length.toInt by omega]

/-- No coordinate lies between ends that meet or cross. -/
theorem interval_eq_nil {lo hi : Coordinate} (h : ¬ lo < hi) : interval lo hi = [] := by
  rw [Int32.lt_iff_toInt_lt] at h
  unfold interval
  rw [Int.toNat_of_nonpos (by omega)]
  rfl

/-- The points number `0`, `1`, … of an extent. -/
def enumerate (e : Extent) : List Point := (List.range e.volume).map e.pointAt

theorem length_enumerate (e : Extent) : e.enumerate.length = e.volume := by
  rw [enumerate, List.length_map, List.length_range]

/-- The enumeration as nested loops, planes outermost. -/
theorem enumerate_eq_flatMap {e : Extent} (hw : 0 < e.width) (hh : 0 < e.height) :
    e.enumerate = (List.range e.depth).flatMap fun z => (List.range e.height).flatMap fun y =>
      (List.range e.width).map fun x => e.pointOf x y z := by
  rw [flatMap_flatMap_range_map e.pointOf hw hh, ← volume_eq]
  rfl

theorem points_eq_ok {e : Extent} {b : Point} (hb : e.leastUpperBound = .ok b) :
    e.points = .ok e.enumerate := by
  obtain ⟨hx, hy, hz⟩ := leastUpperBound_eq_ok.mp hb
  unfold points
  rw [hb, ok_bind, pure_eq_ok, Except.ok.injEq]
  unfold box
  rw [interval_eq hx, interval_eq hy, interval_eq hz]
  split
  · rename_i hlt
    obtain ⟨ltx, lty, ltz⟩ := Point.lt_def.mp hlt
    rw [Int32.lt_iff_toInt_lt] at ltx lty ltz
    have hw : 0 < e.width := by unfold width; omega
    have hh : 0 < e.height := by unfold height; omega
    simp only [List.flatMap_map, List.map_map, Function.comp_def]
    exact (enumerate_eq_flatMap hw hh).symm
  · rename_i hlt
    have empty : e.volume = 0 := by
      refine Nat.eq_zero_of_not_pos fun hpos => hlt ?_
      obtain ⟨hnx, hny, hnz⟩ := digits_lt hpos
      have below : ∀ {lo length hi : Coordinate} {i : Nat}, hi.toInt = lo.toInt + length.toInt →
          i < length.toInt.toNat → lo < hi := by
        intro lo length hi i h hi
        rw [Int32.lt_iff_toInt_lt]
        omega
      exact Point.lt_def.mpr ⟨below hx hnx, below hy hny, below hz hnz⟩
    rw [enumerate, empty]
    rfl

/-- The listed points are the members. -/
theorem mem_enumerate {e : Extent} {b p : Point} (hb : e.leastUpperBound = .ok b) :
    p ∈ e.enumerate ↔ p ∈ e := by
  rw [enumerate, List.mem_map]
  constructor
  · rintro ⟨n, hn, rfl⟩
    exact pointAt_mem hb (List.mem_range.mp hn)
  · intro hp
    exact ⟨e.rank p, List.mem_range.mpr (rank_lt hp), pointAt_rank hp⟩

/-- `contains` decides membership. -/
theorem contains_eq_ok {e : Extent} {b : Point} (hb : e.leastUpperBound = .ok b) (p : Point) :
    e.contains p = .ok (decide (p ∈ e)) := by
  obtain ⟨hx, hy, hz⟩ := leastUpperBound_eq_ok.mp hb
  unfold contains
  rw [hb, ok_bind, pure_eq_ok, Except.ok.injEq, decide_eq_decide, mem_def, Point.le_def,
    Point.lt_def]
  simp only [Int32.le_iff_toInt_le, Int32.lt_iff_toInt_lt, hx, hy, hz, Within]
  tauto

theorem contains_eq_true {e : Extent} {b p : Point} (hb : e.leastUpperBound = .ok b) :
    e.contains p = .ok true ↔ p ∈ e := by
  rw [contains_eq_ok hb, Except.ok.injEq, decide_eq_true_eq]

/-- Whether no length is negative. -/
def Nonnegative (e : Extent) : Prop :=
  0 ≤ e.shape.x.toInt ∧ 0 ≤ e.shape.y.toInt ∧ 0 ≤ e.shape.z.toInt

theorem Positive.nonnegative {e : Extent} (h : e.Positive) : e.Nonnegative :=
  ⟨Int.le_of_lt h.1, Int.le_of_lt h.2.1, Int.le_of_lt h.2.2⟩

/-- A plane never has too many points to be counted. -/
theorem plane_lt (e : Extent) : e.width * e.height < Size.bound := by
  have length_le (c : Coordinate) : c.toInt.toNat ≤ 2147483647 := by
    have := (Coordinate.fits_toInt c).2
    omega
  exact Nat.lt_of_le_of_lt (Nat.mul_le_mul (length_le _) (length_le _)) (by decide)

/-- The points can be counted exactly when their number is a size. -/
theorem pointCount_eq_ok {e : Extent} (h : e.Nonnegative) {n : Nat} :
    e.pointCount = .ok n ↔ e.volume < Size.bound ∧ n = e.volume := by
  obtain ⟨hx, hy, hz⟩ := h
  rw [volume_eq]
  unfold pointCount
  rw [Coordinate.toSize_of_nonneg hx, Coordinate.toSize_of_nonneg hy,
    Coordinate.toSize_of_nonneg hz]
  change (Size.mul e.width e.height >>= fun plane => Size.mul plane e.depth) = _ ↔ _
  rw [Size.mul_ok e.plane_lt, ok_bind, Size.mul_eq_ok]

/-- The number of points, if it is a size. -/
theorem pointCount?_eq_some {e : Extent} (h : e.Nonnegative) {n : Nat} :
    e.pointCount? = some n ↔ e.volume < Size.bound ∧ n = e.volume := by
  obtain ⟨hx, hy, hz⟩ := h
  have plane : Size.mul? e.width e.height = some (e.width * e.height) :=
    Size.mul?_eq_some.mpr ⟨e.plane_lt, rfl⟩
  rw [volume_eq]
  unfold pointCount?
  rw [Coordinate.toSize_of_nonneg hx, Coordinate.toSize_of_nonneg hy,
    Coordinate.toSize_of_nonneg hz]
  change (Size.mul? e.width e.height >>= fun plane => Size.mul? plane e.depth) = _ ↔ _
  rw [plane, Option.bind_eq_bind, Option.bind_some, Size.mul?_eq_some]

end Extent

end DenseMedium
