import DenseMedium.Proofs.Lattice.Intersections

/-!
Regions that lie anywhere: inside an array, across its border or apart from it.

* `enumerate_sorted`: an extent lists its points in canonical order, so each of them once.
* `enumerate_intersection`: the intersection of two extents lists the points that they share.
* `Walk.run_eq_shared`: a walk over the intersection of a region with an array is the loop over the
  points that they share, each with its number in the array. Only where they share none can the
  offsets of the walk fault, and then they do so whatever a visit would have done.
-/

namespace DenseMedium

/-! ### Canonical order -/

/-- Whether `p` precedes `q` in canonical order. The plane decides first, then the row, then the
place in the row. -/
def Point.Before (p q : Point) : Prop :=
  p.z.toInt < q.z.toInt ∨ p.z.toInt = q.z.toInt ∧
    (p.y.toInt < q.y.toInt ∨ p.y.toInt = q.y.toInt ∧ p.x.toInt < q.x.toInt)

theorem Point.Before.asymm {p q : Point} (h : p.Before q) : ¬ q.Before p := by
  unfold Before at *
  omega

theorem Point.Before.ne {p q : Point} (h : p.Before q) : p ≠ q := by
  rintro rfl
  exact h.asymm h

namespace Extent

section Order

variable {e region : Extent} {b p : Point} {i j : Nat}

/-- Of two numbers, the greater has the greater quotient, or the same one and the greater rest. -/
theorem quotient_or_rest_lt {n : Nat} (h : i < j) :
    i / n < j / n ∨ i / n = j / n ∧ i % n < j % n := by
  rcases Nat.lt_or_eq_of_le (Nat.div_le_div_right (c := n) (Nat.le_of_lt h)) with less | same
  · exact .inl less
  · have hi := Nat.div_add_mod i n
    have hj := Nat.div_add_mod j n
    rw [same] at hi
    exact .inr ⟨same, by omega⟩

/-- Numbers of points follow the canonical order. -/
theorem before_pointAt (hb : e.leastUpperBound = .ok b) (hij : i < j) (hj : j < e.volume) :
    (e.pointAt i).Before (e.pointAt j) := by
  obtain ⟨xi, yi, zi⟩ := toInt_pointAt hb (Nat.lt_trans hij hj)
  obtain ⟨xj, yj, zj⟩ := toInt_pointAt hb hj
  unfold Point.Before
  rw [xi, yi, zi, xj, yj, zj, ← Nat.div_div_eq_div_mul, ← Nat.div_div_eq_div_mul]
  rcases quotient_or_rest_lt (n := e.width) hij with row | ⟨row, place⟩
  · rcases quotient_or_rest_lt (n := e.height) row with plane | ⟨plane, row⟩
    · exact .inl (by omega)
    · exact .inr ⟨by omega, .inl (by omega)⟩
  · rw [row]
    exact .inr ⟨rfl, .inr ⟨rfl, by omega⟩⟩

theorem enumerate_sorted (hb : e.leastUpperBound = .ok b) :
    e.enumerate.Pairwise Point.Before := by
  rw [enumerate, List.pairwise_map]
  refine List.Pairwise.imp_of_mem ?_ List.pairwise_lt_range
  intro i j _ hj hij
  exact before_pointAt hb hij (List.mem_range.mp hj)

theorem enumerate_nodup (hb : e.leastUpperBound = .ok b) : e.enumerate.Nodup :=
  (enumerate_sorted hb).imp Point.Before.ne

/-- The points of an extent that a region holds, in canonical order. -/
def shared (e region : Extent) : List Point := e.enumerate.filter (· ∈ region)

theorem mem_shared (hb : e.leastUpperBound = .ok b) : p ∈ e.shared region ↔ p ∈ e ∧ p ∈ region := by
  rw [shared, List.mem_filter, mem_enumerate hb, decide_eq_true_eq]

theorem shared_sorted (hb : e.leastUpperBound = .ok b) :
    (e.shared region).Pairwise Point.Before :=
  (enumerate_sorted hb).filter _

/-- Lists in canonical order with the same points are equal. -/
theorem eq_of_sorted {ps qs : List Point} (hps : ps.Pairwise Point.Before)
    (hqs : qs.Pairwise Point.Before) (same : ∀ p, p ∈ ps ↔ p ∈ qs) : ps = qs := by
  have perm : ps.Perm qs :=
    (List.perm_ext_iff_of_nodup (hps.imp Point.Before.ne) (hqs.imp Point.Before.ne)).mpr same
  exact perm.eq_of_pairwise (fun _ _ _ _ hpq hqp => absurd hqp hpq.asymm) hps hqs

/-- A region inside an extent shares all its points with it. -/
theorem shared_eq_enumerate (hb : e.leastUpperBound = .ok b)
    {top : Point} (hr : region.leastUpperBound = .ok top) (h : region.Inside e) :
    e.shared region = region.enumerate := by
  refine eq_of_sorted (shared_sorted hb) (enumerate_sorted hr) fun p => ?_
  rw [mem_shared hb, mem_enumerate hr]
  exact ⟨fun ⟨_, hp⟩ => hp, fun hp => ⟨h.mem hp, hp⟩⟩

end Order

section Intersection

variable {a b c : Extent} {topA topB : Point}

/-- The points of an intersection, listed as those of the second extent that the first holds. -/
theorem enumerate_intersection (ha : a.leastUpperBound = .ok topA)
    (hb : b.leastUpperBound = .ok topB) (h : a.intersection b = .ok c) :
    c.enumerate = b.shared a := by
  obtain ⟨top, htop⟩ := leastUpperBound_intersection ha hb h
  refine eq_of_sorted (enumerate_sorted htop) (shared_sorted hb) fun p => ?_
  rw [mem_enumerate htop, mem_shared hb, mem_intersection ha hb h, and_comm]

end Intersection

end Extent

/-! ### Walks over a region that lies anywhere -/

namespace Walk

variable {σ : Type}

/-- A visit that does nothing. -/
def idle : Unit → Point → Nat → Checked Unit := fun u _ _ => .ok u

theorem foldlM_idle_eq_ok (number : Point → Nat) (ps : List Point) :
    ps.foldlM (fun u p => idle u p (number p)) () = .ok () :=
  foldlM_eq_ok_foldl (g := fun u _ => u) fun _ _ _ => rfl

/-- A loop whose steps leave the state alone moves its offset as an idle one does. -/
theorem foldlM_idle {ι : Type} {f : σ × Nat → ι → Checked (σ × Nat)}
    {g : Unit × Nat → ι → Checked (Unit × Nat)}
    (step : ∀ s o i, f (s, o) i = (g ((), o) i >>= fun t => .ok (s, t.2))) :
    ∀ (xs : List ι) (s : σ) (o : Nat),
      xs.foldlM f (s, o) = (xs.foldlM g ((), o) >>= fun t => .ok (s, t.2))
  | [], _, _ => rfl
  | x :: xs, s, o => by
      rw [List.foldlM_cons, List.foldlM_cons, step]
      cases g ((), o) x with
      | error e => rfl
      | ok t => exact foldlM_idle step xs s t.2

section Empty

variable {w : Walk} {visit : σ → Point → Nat → Checked σ} {lo bound : Point}

theorem row_idle (empty : interval lo.x bound.x = []) (z : Coordinate) (s : σ) (o : Nat)
    (y : Coordinate) :
    row w visit lo bound z (s, o) y = (row w idle lo bound z ((), o) y >>= fun t => .ok (s, t.2)) := by
  simp only [row, empty, List.foldlM_nil, bind_assoc, pure_eq_ok, ok_bind]

theorem plane_idle (empty : interval lo.x bound.x = [] ∨ interval lo.y bound.y = []) (s : σ)
    (o : Nat) (z : Coordinate) :
    plane w visit lo bound (s, o) z =
      (plane w idle lo bound ((), o) z >>= fun t => .ok (s, t.2)) := by
  have rows (first : Nat) : (interval lo.y bound.y).foldlM (row w visit lo bound z) (s, first) =
      ((interval lo.y bound.y).foldlM (row w idle lo bound z) ((), first) >>= fun t =>
        .ok (s, t.2)) := by
    rcases empty with x | y
    · exact foldlM_idle (row_idle x z) _ s first
    · rw [y]
      rfl
  simp only [plane, rows, bind_assoc, pure_eq_ok, ok_bind]

/-- A walk over a region without a point visits nothing. What its offsets do does not depend on the
visits. -/
theorem run_idle {whole region : Extent} (hb : region.leastUpperBound = .ok bound)
    (empty : ¬ region.Positive) (s : σ) :
    run whole region visit s = (run whole region idle () >>= fun _ => .ok s) := by
  obtain ⟨bx, by', bz⟩ := Extent.leastUpperBound_eq_ok.mp hb
  have none {lo length hi : Coordinate} (h : hi.toInt = lo.toInt + length.toInt)
      (hlength : ¬ 0 < length.toInt) : interval lo hi = [] := by
    apply Extent.interval_eq_nil
    rw [Int32.lt_iff_toInt_lt]
    omega
  have axis : (interval region.minimum.x bound.x = [] ∨ interval region.minimum.y bound.y = []) ∨
      interval region.minimum.z bound.z = [] := by
    by_cases x : 0 < region.shape.x.toInt
    · by_cases y : 0 < region.shape.y.toInt
      · exact .inr (none bz fun z => empty ⟨x, y, z⟩)
      · exact .inl (.inr (none by' y))
    · exact .inl (.inl (none bx x))
  have planes (w : Walk) (first : Nat) :
      (interval region.minimum.z bound.z).foldlM (plane w visit region.minimum bound) (s, first) =
        ((interval region.minimum.z bound.z).foldlM (plane w idle region.minimum bound)
          ((), first) >>= fun t => .ok (s, t.2)) := by
    rcases axis with xy | z
    · exact foldlM_idle (plane_idle xy) _ s first
    · rw [z]
      rfl
  simp only [run, hb, planes, bind_assoc, pure_eq_ok, ok_bind]

end Empty

section Common

variable {whole region common : Extent} {top bound : Point}

/-- A walk over what a region shares with an array. -/
theorem run_eq_shared (hr : region.leastUpperBound = .ok bound)
    (hw : whole.leastUpperBound = .ok top) (hv : whole.volume < Size.bound)
    (h : region.intersection whole = .ok common) (visit : σ → Point → Nat → Checked σ) (s : σ) :
    run whole common visit s = (run whole common idle () >>= fun _ =>
      (whole.shared region).foldlM (fun s p => visit s p (whole.rank p)) s) := by
  obtain ⟨last, hlast⟩ := Extent.leastUpperBound_intersection hr hw h
  rw [← Extent.enumerate_intersection hr hw h]
  by_cases positive : common.Positive
  · have inside := Extent.inside_intersection hr hw h positive
    rw [run_eq hlast inside hv, run_eq hlast inside hv, foldlM_idle_eq_ok, ok_bind]
  · have none : common.enumerate = [] := by
      refine List.eq_nil_iff_forall_not_mem.mpr fun p hp => positive ?_
      obtain ⟨⟨_, _⟩, ⟨_, _⟩, ⟨_, _⟩⟩ := (Extent.mem_enumerate hlast).mp hp
      exact ⟨by omega, by omega, by omega⟩
    rw [run_idle hlast positive, none]
    rfl

/-- Where a point is shared, the offsets of the walk do not fault. -/
theorem run_idle_eq_ok (hr : region.leastUpperBound = .ok bound)
    (hw : whole.leastUpperBound = .ok top) (hv : whole.volume < Size.bound)
    (h : region.intersection whole = .ok common) {p : Point} (hp : p ∈ region) (hp' : p ∈ whole) :
    run whole common idle () = .ok () := by
  obtain ⟨last, hlast⟩ := Extent.leastUpperBound_intersection hr hw h
  obtain ⟨⟨_, _⟩, ⟨_, _⟩, ⟨_, _⟩⟩ := (Extent.mem_intersection hr hw h).mpr ⟨hp, hp'⟩
  have inside := Extent.inside_intersection hr hw h ⟨by omega, by omega, by omega⟩
  rw [run_eq hlast inside hv, foldlM_idle_eq_ok]

end Common

end Walk

end DenseMedium
