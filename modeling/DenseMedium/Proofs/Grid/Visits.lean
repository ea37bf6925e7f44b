import DenseMedium.Proofs.Grid.Writes

/-!
Visits of regions.

A visit of a region clips the region to the grid and then moves three offsets along. It never looks
a point up. What it amounts to is said here in terms of the look-up alone:

* `Full.foldRegion_eq_visited`: reading a region is the loop over the entries of the grid whose
  points lie in the region, in the order of the entries.
* `Full.updateRegion_eq_modify`: updating a region is calling `modify` at one shared point after the
  other. A fault of the function that is called comes through, and there is no other.
* `keeps_of_foldlM_updatePoint`: a loop of such calls keeps the cells that it does not visit.
* `region_visits`: both of them for a region that shares a point with the grid. A region that shares
  none is left with nothing done, if it is left at all.
-/

namespace DenseMedium

namespace Grid

variable {α σ : Type}

/-! ### The entries of a region -/

/-- The entries whose points lie in a region. -/
def visited (entries : List (Point × α)) (region : Extent) : List (Point × α) :=
  entries.filter fun entry => entry.1 ∈ region

section Visited

variable {g : Grid α} {region : Extent} {es : List (Point × α)}

theorem map_fst_visited (points : es.map Prod.fst = g.extent.enumerate) :
    (visited es region).map Prod.fst = g.extent.shared region := by
  unfold visited Extent.shared
  rw [← points, List.filter_map]
  rfl

/-- Reading a region is a loop over its entries. -/
theorem Full.foldRegion_eq_visited (hg : g.Full) (reached : g.reach region = .ok ())
    (points : es.map Prod.fst = g.extent.enumerate)
    (values : ∀ entry ∈ es, g.contents entry.1 = some entry.2)
    (f : σ → Point → α → Checked σ) (s : σ) :
    g.foldRegion region f s =
      (visited es region).foldlM (fun s entry => f s entry.1 entry.2) s := by
  rw [hg.foldRegion_eq, reached, ok_bind, ← map_fst_visited points, List.foldlM_map]
  apply foldlM_congr
  intro s entry hentry
  have value := values entry (List.mem_filter.mp hentry).1
  rw [at?_of_contents value, ok_bind]

end Visited

/-! ### Point by point -/

/-- One call of `modify`, for a function that also has a state. -/
def updatePoint (f : σ → Point → α → Checked (α × σ)) (t : Grid α × σ) (p : Point) :
    Outcome (Grid α × σ) := do
  let (_, s) ← f t.2 p (← t.1.get p)
  let written ← t.1.modify p fun v => do return (← f t.2 p v).1
  return (written, s)

section Points

variable {g : Grid α} {p : Point} {v : α} {f : σ → Point → α → Checked (α × σ)}

theorem modify_eq (hg : g.Full) (hp : p ∈ g.extent) (hv : g.contents p = some v)
    (f : α → Checked α) :
    g.modify p f = liftM (f v >>= fun w => (.ok (g.write p w) : Checked (Grid α))) := by
  unfold modify modifyAt
  rw [hg.stride_eq_ok hp, ok_bind, Full.at?_of_contents hv, ok_bind]
  rfl

/-- A call at a member stores what the function makes of the value there. -/
theorem updatePoint_eq (hg : g.Full) (hp : p ∈ g.extent) (hv : g.contents p = some v) (s : σ) :
    updatePoint f (g, s) p =
      liftM (f s p v >>= fun made => (.ok (g.write p made.1, made.2) : Checked (Grid α × σ))) := by
  unfold updatePoint
  rw [hg.get_eq_ok_iff.mpr hv, ok_bind, modify_eq hg hp hv]
  cases f s p v with
  | error fault => rfl
  | ok made => rfl

/-- The loop of an update, with its offsets, is the loop of the calls. -/
theorem foldlM_updatePoint {e : Extent} : ∀ {ps : List Point} {g : Grid α} {s : σ},
    g.Full → g.extent = e → (∀ p ∈ ps, p ∈ e) →
      (liftM (ps.foldlM (fun (t : Grid α × σ) p => do
        let (v, state) ← f t.2 p (← t.1.at? (e.rank p))
        return ({ t.1 with values := t.1.values.setIfInBounds (e.rank p) v }, state)) (g, s)) :
          Outcome (Grid α × σ)) = ps.foldlM (updatePoint f) (g, s)
  | [], _, _, _, _, _ => rfl
  | p :: ps, g, s, hg, he, members => by
      subst he
      obtain ⟨hp, others⟩ := List.forall_mem_cons.mp members
      obtain ⟨v, hv⟩ := hg.exists_contents hp
      rw [List.foldlM_cons, List.foldlM_cons, updatePoint_eq hg hp hv, Full.at?_of_contents hv,
        ok_bind]
      cases f s p v with
      | error fault => rfl
      | ok made => exact foldlM_updatePoint (hg.write p made.1) rfl others

/-- A loop of calls keeps the grid full over its extent, and the values at all other points. -/
theorem keeps_of_foldlM_updatePoint : ∀ {ps : List Point} {g written : Grid α} {s s' : σ},
    g.Full → (∀ p ∈ ps, p ∈ g.extent) →
      ps.foldlM (updatePoint f) (g, s) = .ok (written, s') →
      written.Full ∧ written.extent = g.extent ∧ ∀ q, q ∉ ps → written.contents q = g.contents q
  | [], g, _, s, _, hg, _, h => by
      cases h
      exact ⟨hg, rfl, fun _ _ => rfl⟩
  | p :: ps, g, written, s, s', hg, members, h => by
      obtain ⟨hp, others⟩ := List.forall_mem_cons.mp members
      obtain ⟨v, hv⟩ := hg.exists_contents hp
      rw [List.foldlM_cons, updatePoint_eq hg hp hv] at h
      obtain ⟨made, call, h⟩ := bind_eq_ok.mp h
      obtain ⟨⟨w, t⟩, -, stored⟩ := bind_eq_ok.mp (lift_eq_ok.mp call)
      cases stored
      obtain ⟨full, extent, kept⟩ := keeps_of_foldlM_updatePoint (hg.write p w) others h
      refine ⟨full, extent, fun q hq => ?_⟩
      rw [List.mem_cons, not_or] at hq
      obtain ⟨other, notLater⟩ := hq
      rw [kept q notLater, hg.contents_write hp, if_neg other]

end Points

section Updates

variable {g written : Grid α} {region : Extent} {f : σ → Point → α → Checked (α × σ)} {s s' : σ}

/-- Updating a region is updating the shared points one by one. -/
theorem Full.updateRegion_eq_modify (hg : g.Full) (reached : g.reach region = .ok ())
    (f : σ → Point → α → Checked (α × σ)) (s : σ) :
    (liftM (g.updateRegion region f s) : Outcome (Grid α × σ)) =
      (g.extent.shared region).foldlM (updatePoint f) (g, s) := by
  obtain ⟨b, hb⟩ := hg.bounded
  rw [hg.updateRegion_eq, reached, ok_bind]
  exact foldlM_updatePoint hg rfl fun p hp => ((Extent.mem_shared hb).mp hp).1

/-- An update of a region keeps what lies outside the region. -/
theorem Full.keeps_of_updateRegion (hg : g.Full) (reached : g.reach region = .ok ())
    (h : g.updateRegion region f s = .ok (written, s')) :
    written.extent = g.extent ∧ ∀ q, q ∉ region → written.get q = g.get q := by
  obtain ⟨b, hb⟩ := hg.bounded
  have run := hg.updateRegion_eq_modify reached f s
  rw [h, lift_ok] at run
  obtain ⟨full, extent, kept⟩ := keeps_of_foldlM_updatePoint hg
    (fun p hp => ((Extent.mem_shared hb).mp hp).1) run.symm
  refine ⟨extent, ?_⟩
  intro q hq
  have outside : q ∉ g.extent.shared region := fun hp => hq ((Extent.mem_shared hb).mp hp).2
  rw [full.get_eq, hg.get_eq, kept q outside, dimensions, dimensions, extent]

/-! ### Regions apart from the grid -/

theorem Full.shared_of_apart (hg : g.Full) (apart : ∀ p ∈ region, p ∉ g.extent) :
    g.extent.shared region = [] := by
  obtain ⟨b, hb⟩ := hg.bounded
  apply List.eq_nil_iff_forall_not_mem.mpr
  intro p hp
  obtain ⟨inside, shared⟩ := (Extent.mem_shared hb).mp hp
  exact apart p shared inside

/-- Visits of a region that shares no point with a grid are their way there. -/
theorem Full.foldRegion_eq_of_apart (hg : g.Full) (apart : ∀ p ∈ region, p ∉ g.extent)
    (f : σ → Point → α → Checked σ) (s : σ) :
    g.foldRegion region f s = (g.reach region >>= fun _ => .ok s) := by
  rw [hg.foldRegion_eq, hg.shared_of_apart apart]
  rfl

theorem Full.updateRegion_eq_of_apart (hg : g.Full) (apart : ∀ p ∈ region, p ∉ g.extent)
    (f : σ → Point → α → Checked (α × σ)) (s : σ) :
    g.updateRegion region f s = (g.reach region >>= fun _ => .ok (g, s)) := by
  rw [hg.updateRegion_eq, hg.shared_of_apart apart]
  rfl

theorem Full.foldRegion_of_apart (hg : g.Full) (apart : ∀ p ∈ region, p ∉ g.extent)
    {f : σ → Point → α → Checked σ} (h : g.foldRegion region f s = .ok s') : s' = s := by
  rw [hg.foldRegion_eq_of_apart apart] at h
  obtain ⟨-, -, h⟩ := bind_eq_ok.mp h
  cases h
  rfl

theorem Full.updateRegion_of_apart (hg : g.Full) (apart : ∀ p ∈ region, p ∉ g.extent)
    (h : g.updateRegion region f s = .ok (written, s')) : written = g ∧ s' = s := by
  rw [hg.updateRegion_eq_of_apart apart] at h
  obtain ⟨-, -, h⟩ := bind_eq_ok.mp h
  cases h
  exact ⟨rfl, rfl⟩

end Updates

/-- **A visit of a region is a visit of the shared points.** Where a region shares a point with a
grid, the shared points are run through in canonical order, each once and each with its own cell:
reading them is a loop over their values, and updating them is calling `modify` at each. Neither
meets a fault that the called function did not make, and the cells outside the region stay as they
are. Where no point is shared, a visit that ends has called nothing and changed nothing. -/
theorem region_visits {g : Grid α} (hg : g.Full) {region : Extent}
    (bounded : ∃ b, region.leastUpperBound = .ok b) :
    ((∃ p ∈ region, p ∈ g.extent) → ∃ entries : List (Point × α),
      (entries.map Prod.fst).Pairwise Point.Before ∧
      (∀ p, p ∈ entries.map Prod.fst ↔ p ∈ g.extent ∧ p ∈ region) ∧
      (∀ entry ∈ entries, g.get entry.1 = .ok entry.2) ∧
      (∀ (σ : Type) (f : σ → Point → α → Checked σ) (s : σ),
        g.foldRegion region f s = entries.foldlM (fun s entry => f s entry.1 entry.2) s) ∧
      (∀ (σ : Type) (f : σ → Point → α → Checked (α × σ)) (s : σ),
        (liftM (g.updateRegion region f s) : Outcome (Grid α × σ)) =
          (entries.map Prod.fst).foldlM (updatePoint f) (g, s)) ∧
      (∀ (σ : Type) (f : σ → Point → α → α × σ) (s : σ), ∃ written s',
        g.updateRegion region (fun s p v => .ok (f s p v)) s = .ok (written, s')) ∧
      ∀ (σ : Type) (f : σ → Point → α → Checked (α × σ)) (s : σ) written s',
        g.updateRegion region f s = .ok (written, s') →
          written.extent = g.extent ∧ ∀ q, q ∉ region → written.get q = g.get q) ∧
    ((∀ p ∈ region, p ∉ g.extent) →
      (∀ (σ : Type) (f : σ → Point → α → Checked σ) (s s' : σ),
        g.foldRegion region f s = .ok s' → s' = s) ∧
      ∀ (σ : Type) (f : σ → Point → α → Checked (α × σ)) (s : σ) written s',
        g.updateRegion region f s = .ok (written, s') → written = g ∧ s' = s) := by
  obtain ⟨b, hb⟩ := hg.bounded
  obtain ⟨bound, hr⟩ := bounded
  constructor
  · rintro ⟨p, hp, hp'⟩
    have reached := hg.reach_eq_ok hr hp hp'
    obtain ⟨es, -, points, values⟩ := hg.entries_eq
    have shared : (visited es region).map Prod.fst = g.extent.shared region :=
      map_fst_visited points
    refine ⟨visited es region, ?_, ?_, ?_, ?_, ?_, ?_, ?_⟩
    · rw [shared]
      exact Extent.shared_sorted hb
    · intro q
      rw [shared]
      exact Extent.mem_shared hb
    · intro entry hentry
      exact hg.get_eq_ok_iff.mpr (values entry (List.mem_filter.mp hentry).1)
    · intro σ f s
      exact hg.foldRegion_eq_visited reached points values f s
    · intro σ f s
      rw [shared]
      exact hg.updateRegion_eq_modify reached f s
    · intro σ f s
      obtain ⟨written, s', ok, -⟩ := updateRegion_eq_ok hg reached f s
      exact ⟨written, s', ok⟩
    · intro σ f s written s' h
      exact hg.keeps_of_updateRegion reached h
  · intro apart
    constructor
    · intro σ f s s' h
      exact hg.foldRegion_of_apart apart h
    · intro σ f s written s' h
      exact hg.updateRegion_of_apart apart h

/-- A region that begins outside a grid below the origin and shares two of its four points. -/
theorem region_visits_clipped :
    let g : Grid Nat := ⟨⟨⟨-1, 2, 3⟩, ⟨2, 2, 1⟩⟩, #[10, 11, 12, 13]⟩
    let region : Extent := ⟨⟨0, -7, 3⟩, ⟨9, 11, 1⟩⟩
    let count : Nat → Point → Nat → Checked (Nat × Nat) := fun n _ v => .ok (v + n, n + 100)
    (g.Full ∧ (∃ b, region.leastUpperBound = .ok b) ∧ ∃ p ∈ region, p ∈ g.extent) ∧
      ∃ points : List Point, points.Pairwise Point.Before ∧
        (∀ p, p ∈ points ↔ p ∈ g.extent ∧ p ∈ region) ∧
        points.foldlM (updatePoint count) (g, 100) =
          .ok (⟨g.extent, #[10, 111, 12, 213]⟩, 300) := by
  intro g region count
  have full : g.Full := ⟨⟨⟨1, 4, 4⟩, by decide⟩, by decide, by decide⟩
  have bounded : ∃ b, region.leastUpperBound = .ok b := ⟨⟨9, 4, 4⟩, by decide⟩
  have shared : ∃ p ∈ region, p ∈ g.extent := ⟨⟨0, 2, 3⟩, by decide, by decide⟩
  have run : g.updateRegion region count 100 = .ok (⟨g.extent, #[10, 111, 12, 213]⟩, 300) := by
    decide +kernel
  obtain ⟨entries, sorted, members, -, -, update, -⟩ := (region_visits full bounded).1 shared
  refine ⟨⟨full, bounded, shared⟩, entries.map Prod.fst, sorted, members, ?_⟩
  rw [← update Nat count 100, run, lift_ok]

end Grid

end DenseMedium
