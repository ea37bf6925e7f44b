import DenseMedium.Grid.Basic
import DenseMedium.Proofs.Lattice.Regions

/-!
Reading grids.

`Grid.Full` is what every constructor of a grid ensures: one value for each point. With positive
lengths it is `Grid.Complete`. Under it every access goes through the number of the point:

* `get_eq_ok`: `get` answers exactly at the members, with the value at the number of the point.
* `Full.foldRegion_eq`, `Full.updateRegion_eq`: a visit of a region is the loop over the points that
  the region shares with the grid, each with its own cell. A region that shares none may fault, but
  then it does so whatever was to be done at a point, so no cell has been reached.
-/

namespace DenseMedium

namespace Grid

variable {α σ : Type}

/-- A grid over an extent whose bound fits, with one value for each point. -/
structure Full (g : Grid α) : Prop where
  bounded : ∃ b, g.extent.leastUpperBound = .ok b
  size_eq : g.values.size = g.extent.volume
  size_lt : g.values.size < Size.bound

/-- A grid over an extent with positive lengths whose bound fits, with one value for each point. -/
structure Complete (g : Grid α) : Prop where
  positive : g.extent.Positive
  bounded : ∃ b, g.extent.leastUpperBound = .ok b
  size_eq : g.values.size = g.extent.volume
  size_lt : g.values.size < Size.bound

namespace Complete

variable {g : Grid α}

theorem full (h : g.Complete) : g.Full := ⟨h.bounded, h.size_eq, h.size_lt⟩

theorem volume_lt (h : g.Complete) : g.extent.volume < Size.bound := h.size_eq ▸ h.size_lt

theorem pointCount_eq_ok (h : g.Complete) : g.extent.pointCount = .ok g.extent.volume :=
  (Extent.pointCount_eq_ok h.positive.nonnegative).mpr ⟨h.volume_lt, rfl⟩

end Complete

theorem at?_eq_ok {g : Grid α} {n : Nat} {v : α} : g.at? n = .ok v ↔ g.values[n]? = some v := by
  unfold at?
  cases g.values[n]? <;> simp

namespace Full

variable {g : Grid α} {p : Point}

theorem volume_lt (hg : g.Full) : g.extent.volume < Size.bound := hg.size_eq ▸ hg.size_lt

theorem rank_lt_size (hg : g.Full) (hp : p ∈ g.extent) : g.extent.rank p < g.values.size :=
  hg.size_eq ▸ Extent.rank_lt hp

/-- The stride of a member is its number. -/
theorem stride_eq_ok (hg : g.Full) (hp : p ∈ g.extent) : g.stride p = .ok (g.extent.rank p) := by
  obtain ⟨b, hb⟩ := hg.bounded
  obtain ⟨q, hq, hx, hy, hz⟩ := Extent.sub_minimum hp
  unfold stride stride? contains
  rw [Extent.contains_eq_ok hb, decide_eq_true hp]
  simp only [ok_bind, if_true, hq, Extent.ofLocal_eq_rank hp hg.volume_lt hx hy hz, pure_eq_ok,
    lift_ok]

theorem stride_of_not_mem (hg : g.Full) (hp : p ∉ g.extent) :
    g.stride p = refuse (.outOfBounds p g.dimensions) := by
  obtain ⟨b, hb⟩ := hg.bounded
  unfold stride stride? contains
  rw [Extent.contains_eq_ok hb, decide_eq_false hp]
  rfl

theorem get_of_not_mem (hg : g.Full) (hp : p ∉ g.extent) :
    g.get p = refuse (.outOfBounds p g.dimensions) := by
  unfold get
  rw [hg.stride_of_not_mem hp]
  rfl

/-- Reading succeeds exactly at the members, with the value at the number of the point. -/
theorem get_eq_ok (hg : g.Full) {v : α} :
    g.get p = .ok v ↔ p ∈ g.extent ∧ g.values[g.extent.rank p]? = some v := by
  by_cases hp : p ∈ g.extent
  · unfold get
    rw [hg.stride_eq_ok hp, ok_bind, lift_eq_ok, at?_eq_ok]
    exact ⟨fun h => ⟨hp, h⟩, fun ⟨_, h⟩ => h⟩
  · rw [hg.get_of_not_mem hp]
    exact ⟨fun h => (nomatch h), fun ⟨h, _⟩ => absurd h hp⟩

end Full

theorem stride_of_not_mem {g : Grid α} (hg : g.Complete) {p : Point} (hp : p ∉ g.extent) :
    g.stride p = refuse (.outOfBounds p g.dimensions) := hg.full.stride_of_not_mem hp

/-- Reading succeeds exactly at the members, with the value at the number of the point. -/
theorem get_eq_ok {g : Grid α} (hg : g.Complete) {p : Point} {v : α} :
    g.get p = .ok v ↔ p ∈ g.extent ∧ g.values[g.extent.rank p]? = some v := hg.full.get_eq_ok

/-- A mapped grid holds the mapped values at their places. -/
theorem get_map {β : Type} {g : Grid α} {p : Point} {v : α} (f : α → β) (h : g.get p = .ok v) :
    (g.map f).get p = .ok (f v) := by
  unfold get at h ⊢
  obtain ⟨n, hn, hv⟩ := bind_eq_ok.mp h
  have stride : (g.map f).stride p = .ok n := hn
  rw [stride, ok_bind, lift_eq_ok, at?_eq_ok, map, Array.getElem?_map,
    at?_eq_ok.mp (lift_eq_ok.mp hv), Option.map_some]

theorem map_eq_self {g : Grid α} {f : α → α} (h : ∀ v ∈ g.values, f v = v) : g.map f = g := by
  unfold map
  rw [Array.map_congr_left h, Array.map_id']

/-- The value of a member; elsewhere some value. -/
def valueAt [Inhabited α] (g : Grid α) (p : Point) : α := g.values.getD (g.extent.rank p) default

theorem Full.at?_rank [Inhabited α] {g : Grid α} (hg : g.Full) {p : Point} (hp : p ∈ g.extent) :
    g.at? (g.extent.rank p) = .ok (g.valueAt p) := by
  have hr := hg.rank_lt_size hp
  rw [at?_eq_ok, valueAt, Array.getD_eq_getD_getElem?, Array.getElem?_eq_getElem hr,
    Option.getD_some]

theorem get_eq_valueAt [Inhabited α] {g : Grid α} (hg : g.Complete) {p : Point}
    (hp : p ∈ g.extent) : g.get p = .ok (g.valueAt p) := by
  unfold get
  rw [hg.full.stride_eq_ok hp, ok_bind, hg.full.at?_rank hp, lift_ok]

/-- The values are those of the members, in canonical order. -/
theorem Full.values_eq [Inhabited α] {g : Grid α} (hg : g.Full) :
    g.values.toList = g.extent.enumerate.map g.valueAt := by
  obtain ⟨b, hb⟩ := hg.bounded
  refine List.ext_getElem ?_ fun n hn _ => ?_
  · rw [List.length_map, Extent.length_enumerate, Array.length_toList, hg.size_eq]
  · rw [Array.length_toList] at hn
    simp only [Extent.enumerate, List.getElem_map, List.getElem_range, Array.getElem_toList, valueAt,
      Extent.rank_pointAt hb (hg.size_eq ▸ hn), Array.getD_eq_getD_getElem?,
      Array.getElem?_eq_getElem hn, Option.getD_some]

/-! ### Regions -/

/-- What a visit of a region does besides its work at the points. -/
def reach (g : Grid α) (region : Extent) : Checked Unit := do
  let common ← g.clip region
  Walk.run g.extent common Walk.idle ()

namespace Full

variable {g : Grid α} {region : Extent} {bound p : Point}

/-- A region that shares a point with the grid is visited without a fault. -/
theorem reach_eq_ok (hg : g.Full) (hr : region.leastUpperBound = .ok bound) (hp : p ∈ region)
    (hp' : p ∈ g.extent) : g.reach region = .ok () := by
  obtain ⟨top, htop⟩ := hg.bounded
  obtain ⟨common, hc⟩ := Extent.exists_intersection hr htop hp hp'
  unfold reach clip
  rw [hc, ok_bind, Walk.run_idle_eq_ok hr htop hg.volume_lt hc hp hp']

/-- A walk over a clipped region, for any kind of visit. -/
theorem walk_eq (hg : g.Full) (region : Extent) (visit : σ → Point → Nat → Checked σ) (s : σ) :
    (g.clip region >>= fun common => Walk.run g.extent common visit s) =
      (g.reach region >>= fun _ =>
        (g.extent.shared region).foldlM (fun s p => visit s p (g.extent.rank p)) s) := by
  obtain ⟨top, htop⟩ := hg.bounded
  unfold reach
  cases hc : g.clip region with
  | error fault => rfl
  | ok common =>
    obtain ⟨bound, hr, -⟩ := bind_eq_ok.mp hc
    exact Walk.run_eq_shared hr htop hg.volume_lt hc visit s

theorem foldRegion_eq (hg : g.Full) (region : Extent) (f : σ → Point → α → Checked σ) (s : σ) :
    g.foldRegion region f s = (g.reach region >>= fun _ =>
      (g.extent.shared region).foldlM (fun s p => do f s p (← g.at? (g.extent.rank p))) s) :=
  hg.walk_eq region _ s

theorem updateRegion_eq (hg : g.Full) (region : Extent) (f : σ → Point → α → Checked (α × σ))
    (s : σ) :
    g.updateRegion region f s = (g.reach region >>= fun _ =>
      (g.extent.shared region).foldlM (fun (t : Grid α × σ) p => do
        let (v, state) ← f t.2 p (← t.1.at? (g.extent.rank p))
        return ({ t.1 with values := t.1.values.setIfInBounds (g.extent.rank p) v }, state))
        (g, s)) :=
  hg.walk_eq region _ (g, s)

/-- A fold over a region whose steps never fault. -/
theorem foldRegion_eq_foldl [Inhabited α] (hg : g.Full) (region : Extent)
    (f : σ → Point → α → σ) (s : σ) :
    g.foldRegion region (fun s p v => .ok (f s p v)) s = (g.reach region >>= fun _ =>
      .ok ((g.extent.shared region).foldl (fun s p => f s p (g.valueAt p)) s)) := by
  obtain ⟨top, htop⟩ := hg.bounded
  rw [hg.foldRegion_eq, foldlM_eq_ok_foldl fun s p hp => ?_]
  rw [hg.at?_rank ((Extent.mem_shared htop).mp hp).1, ok_bind]

end Full

end Grid

end DenseMedium
