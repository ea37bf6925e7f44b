import DenseMedium.Proofs.Grid.Contents

/-!
Runs of writes.

A grid can be written to at a point, at a stride and over a region. The four calls find their cells
in different ways, and they agree on which cell belongs to which point:

* `Write.journal` says which points a call writes, and what, from the map of the grid alone.
* `Write.apply_of_misses`, `Write.apply_of_not_misses`: a call fails exactly when it has no cell to
  reach, and before it reaches one; otherwise the map of the grid afterwards is the map before,
  overlaid with the journal of the call.
* `run_finite_map`: so after any sequence of calls a grid answers at each of its points with the
  value written there last, or with the one it began with, and refuses all other points.
-/

namespace DenseMedium

namespace Grid

variable {α σ : Type}

/-! ### Maps and journals -/

/-- The value that a list of writes stores last at a point. -/
def lastWritten (entries : List (Point × α)) (p : Point) : Option α := entries.reverse.lookup p

/-- A map after a list of writes. -/
def overlay (m : Point → Option α) (entries : List (Point × α)) (p : Point) : Option α :=
  (lastWritten entries p).or (m p)

section Overlay

variable {m m' : Point → Option α} {entries : List (Point × α)} {p : Point}

theorem overlay_append (m : Point → Option α) (xs ys : List (Point × α)) :
    overlay m (xs ++ ys) = overlay (overlay m xs) ys := by
  funext p
  simp only [overlay, lastWritten, List.reverse_append, List.lookup_append, Option.or_assoc]

theorem overlay_singleton (m : Point → Option α) (q : Point) (v : α) (p : Point) :
    overlay m [(q, v)] p = if p = q then some v else m p := by
  unfold overlay lastWritten
  by_cases same : p = q
  · simp [same]
  · have other : (p == q) = false := beq_false_of_ne same
    simp [List.lookup_cons, other, same]

/-- A point that is not written keeps its value. -/
theorem overlay_of_not_mem (h : p ∉ entries.map Prod.fst) : overlay m entries p = m p := by
  have none : entries.reverse.lookup p = none := by
    rw [List.lookup_eq_none_iff]
    intro entry hentry
    rw [bne_iff_ne]
    rintro rfl
    exact h (List.mem_map_of_mem (List.mem_reverse.mp hentry))
  unfold overlay lastWritten
  rw [none, Option.none_or]

end Overlay

/-- The write at one point, which depends on the value there. -/
def writeAt (m : Point → Option α) (p : Point) (f : α → α) : List (Point × α) :=
  match m p with
  | some v => [(p, f v)]
  | none => []

/-- The writes of a visit of points, with the state that the visits share. No point is visited
twice, so each visit finds the value from before. -/
def visitWrites (m : Point → Option α) (f : σ → Point → α → α × σ) :
    σ → List Point → List (Point × α)
  | _, [] => []
  | s, p :: ps =>
      match m p with
      | some v => (p, (f s p v).1) :: visitWrites m f (f s p v).2 ps
      | none => visitWrites m f s ps

theorem visitWrites_congr {m m' : Point → Option α} {f : σ → Point → α → α × σ} :
    ∀ {ps : List Point} {s : σ}, (∀ p ∈ ps, m p = m' p) →
      visitWrites m f s ps = visitWrites m' f s ps
  | [], _, _ => rfl
  | p :: ps, s, same => by
      have others : ∀ q ∈ ps, m q = m' q := fun q hq => same q (List.mem_cons_of_mem p hq)
      unfold visitWrites
      rw [← same p List.mem_cons_self]
      cases m p with
      | none => exact visitWrites_congr others
      | some v => exact congrArg _ (visitWrites_congr others)

theorem mem_of_visitWrites {m : Point → Option α} {f : σ → Point → α → α × σ}
    {entry : Point × α} :
    ∀ {ps : List Point} {s : σ}, entry ∈ visitWrites m f s ps → entry.1 ∈ ps
  | [], _, h => absurd h List.not_mem_nil
  | p :: ps, s, h => by
      unfold visitWrites at h
      cases hv : m p with
      | none =>
        rw [hv] at h
        exact List.mem_cons_of_mem p (mem_of_visitWrites h)
      | some v =>
        rw [hv] at h
        rcases List.mem_cons.mp h with rfl | h
        · exact List.mem_cons_self
        · exact List.mem_cons_of_mem p (mem_of_visitWrites h)

/-! ### Calls -/

/-- One call that writes to a grid. What it writes may depend on the value it finds, and in the
visit of a region on a state that the visits share. -/
inductive Write (α : Type) : Type 1 where
  | set (p : Point) (v : α)
  | modify (p : Point) (f : α → α)
  | modifyAt (stride : Nat) (f : α → α)
  | updateRegion {σ : Type} (region : Extent) (f : σ → Point → α → α × σ) (s : σ)

namespace Write

def apply : Write α → Grid α → Outcome (Grid α)
  | .set p v, g => g.set p v
  | .modify p f, g => g.modify p fun v => .ok (f v)
  | .modifyAt n f, g => do g.modifyAt n fun v => .ok (f v)
  | .updateRegion region f s, g => do
      let (written, _) ← g.updateRegion region (fun s p v => .ok (f s p v)) s
      return written

/-- The grid after a call. A call that fails gives none, and the old one stays. -/
def settle (w : Write α) (g : Grid α) : Grid α :=
  match w.apply g with
  | .ok written => written
  | .error _ => g

/-- Whether a call is about a point. -/
def Reaches (e : Extent) : Write α → Point → Prop
  | .set q _, p => p = q
  | .modify q _, p => p = q
  | .modifyAt n _, p => e.rank p = n
  | .updateRegion region _ _, p => p ∈ region

/-- Whether a call fails before it reaches a cell. For a region: it fails in the same way whatever is
done at the points, a fault of its own at the first of them included. -/
def Misses (g : Grid α) : Write α → Prop
  | .set p _ => p ∉ g.extent
  | .modify p _ => p ∉ g.extent
  | .modifyAt n _ => g.values.size ≤ n
  | .updateRegion region _ _ => ∃ fault, ∀ (τ : Type) (f : τ → Point → α → Checked (α × τ)) (t : τ),
      g.updateRegion region f t = .error fault

/-- The points that a call writes, in order, with their new values, where `m` is the map before. -/
def journal (e : Extent) (m : Point → Option α) : Write α → List (Point × α)
  | .set p v => writeAt m p fun _ => v
  | .modify p f => writeAt m p f
  | .modifyAt n f => if n < e.volume then writeAt m (e.pointAt n) f else []
  | .updateRegion region f s =>
      match region.leastUpperBound with
      | .ok _ => visitWrites m f s (e.shared region)
      | .error _ => []

end Write

/-! ### What one call does -/

section Calls

variable {g : Grid α} {p : Point} {v : α}

theorem writeAt_of_not_mem (hp : p ∉ g.extent) (f : α → α) : writeAt g.contents p f = [] := by
  unfold writeAt
  rw [Full.contents_of_not_mem hp]

theorem writeAt_of_contents (hv : g.contents p = some v) (f : α → α) :
    writeAt g.contents p f = [(p, f v)] := by
  unfold writeAt
  rw [hv]

/-- Storing a value overlays the map with one write. -/
theorem contents_write_eq (hg : g.Full) (hp : p ∈ g.extent) (v : α) :
    (g.write p v).contents = overlay g.contents [(p, v)] := by
  funext q
  rw [hg.contents_write hp, overlay_singleton]

theorem modifyAt_eq_ok (hv : g.contents p = some v) (f : α → α) :
    g.modifyAt (g.extent.rank p) (fun v => .ok (f v)) = .ok (g.write p (f v)) := by
  unfold modifyAt
  rw [Full.at?_of_contents hv]
  rfl

theorem modify_eq_ok (hg : g.Full) (hp : p ∈ g.extent) (hv : g.contents p = some v) (f : α → α) :
    g.modify p (fun v => .ok (f v)) = .ok (g.write p (f v)) := by
  unfold modify
  rw [hg.stride_eq_ok hp, ok_bind, modifyAt_eq_ok hv, lift_ok]

theorem modify_of_not_mem (hg : g.Full) (hp : p ∉ g.extent) (f : α → Checked α) :
    g.modify p f = refuse (.outOfBounds p g.dimensions) := by
  unfold modify
  rw [hg.stride_of_not_mem hp]
  rfl

/-- The loop of a visit, point by point: each cell is found where the map has its value. -/
theorem foldlM_visit {e : Extent} (f : σ → Point → α → α × σ) :
    ∀ (ps : List Point) (g : Grid α) (s : σ), g.Full → g.extent = e → ps.Nodup →
      (∀ p ∈ ps, p ∈ e) →
      ∃ (written : Grid α) (s' : σ), ps.foldlM (fun (t : Grid α × σ) p => do
          let (v, state) ← (.ok (f t.2 p (← t.1.at? (e.rank p))) : Checked (α × σ))
          return ({ t.1 with values := t.1.values.setIfInBounds (e.rank p) v }, state)) (g, s) =
            .ok (written, s') ∧
        written.Full ∧ written.extent = e ∧
        written.contents = overlay g.contents (visitWrites g.contents f s ps)
  | [], g, s, hg, he, _, _ => ⟨g, s, rfl, hg, he, rfl⟩
  | p :: ps, g, s, hg, he, distinct, members => by
      subst he
      have hp := members p List.mem_cons_self
      obtain ⟨new, rest⟩ := List.nodup_cons.mp distinct
      obtain ⟨v, hv⟩ := hg.exists_contents hp
      obtain ⟨written, s', loop, full, extent, contents⟩ :=
        foldlM_visit f ps (g.write p (f s p v).1) (f s p v).2 (hg.write p _) rfl rest
          fun q hq => members q (List.mem_cons_of_mem p hq)
      refine ⟨written, s', ?_, full, extent, ?_⟩
      · rw [List.foldlM_cons, Full.at?_of_contents hv]
        exact loop
      · -- The write at `p` is not seen at the points that are still to be visited.
        have same : ∀ q ∈ ps, (g.write p (f s p v).1).contents q = g.contents q := by
          intro q hq
          rw [hg.contents_write hp, if_neg]
          rintro rfl
          exact new hq
        rw [contents, visitWrites_congr same, contents_write_eq hg hp, ← overlay_append]
        conv_rhs => rw [visitWrites, hv]
        rfl

theorem updateRegion_eq_ok (hg : g.Full) {region : Extent} (reached : g.reach region = .ok ())
    (f : σ → Point → α → α × σ) (s : σ) :
    ∃ (written : Grid α) (s' : σ),
      g.updateRegion region (fun s p v => .ok (f s p v)) s = .ok (written, s') ∧ written.Full ∧
      written.extent = g.extent ∧ written.contents = overlay g.contents
        (visitWrites g.contents f s (g.extent.shared region)) := by
  obtain ⟨b, hb⟩ := hg.bounded
  obtain ⟨written, s', loop, effect⟩ :=
    foldlM_visit f (g.extent.shared region) g s hg rfl
      ((Extent.shared_sorted hb).imp Point.Before.ne) fun p hp => ((Extent.mem_shared hb).mp hp).1
  refine ⟨written, s', ?_, effect⟩
  rw [hg.updateRegion_eq, reached, ok_bind]
  exact loop

/-- A region of which nothing can be reached shares no point with the grid. -/
theorem shared_eq_nil (hg : g.Full) {region : Extent} {bound : Point} {fault : Fault}
    (hr : region.leastUpperBound = .ok bound) (h : g.reach region = .error fault) :
    g.extent.shared region = [] := by
  obtain ⟨b, hb⟩ := hg.bounded
  refine List.eq_nil_iff_forall_not_mem.mpr fun p hp => ?_
  obtain ⟨hpe, hpr⟩ := (Extent.mem_shared hb).mp hp
  rw [hg.reach_eq_ok hr hpr hpe] at h
  cases h

end Calls

namespace Write

variable {g : Grid α} {w : Write α}

/-- A region is missed exactly when the way to its points faults. -/
theorem misses_updateRegion (hg : g.Full) {region : Extent} {f : σ → Point → α → α × σ} {s : σ} :
    (updateRegion region f s).Misses g ↔ ∃ fault, g.reach region = .error fault := by
  constructor
  · rintro ⟨fault, fails⟩
    cases hr : g.reach region with
    | error fault => exact ⟨fault, rfl⟩
    | ok _ =>
      obtain ⟨written, s', ok, -⟩ := updateRegion_eq_ok hg hr f s
      rw [fails σ _ s] at ok
      cases ok
  · rintro ⟨fault, hr⟩
    refine ⟨fault, fun τ f t => ?_⟩
    rw [hg.updateRegion_eq, hr, error_bind]

/-- A call that misses fails, and there is nothing in its journal. -/
theorem apply_of_misses (hg : g.Full) (h : w.Misses g) :
    (∃ x, w.apply g = .error x) ∧ w.journal g.extent g.contents = [] := by
  cases w with
  | set p v => exact ⟨⟨_, modify_of_not_mem hg h _⟩, writeAt_of_not_mem h _⟩
  | modify p f => exact ⟨⟨_, modify_of_not_mem hg h _⟩, writeAt_of_not_mem h _⟩
  | modifyAt n f =>
    have outside : ¬ n < g.extent.volume := by
      rw [← hg.size_eq]
      exact Nat.not_lt.mpr h
    refine ⟨⟨.fault (.indexOutOfBounds g.values.size n), ?_⟩, if_neg outside⟩
    simp only [apply, Grid.modifyAt, at?, Array.getElem?_eq_none h]
    rfl
  | updateRegion region f s =>
    obtain ⟨fault, hr⟩ := (misses_updateRegion hg).mp h
    constructor
    · refine ⟨.fault fault, ?_⟩
      simp only [apply, hg.updateRegion_eq, hr, error_bind]
      rfl
    · cases hb : region.leastUpperBound with
      | error _ => simp only [journal, hb]
      | ok bound => simp only [journal, hb, shared_eq_nil hg hb hr, visitWrites]

/-- Any other call succeeds and overlays the map with its journal. -/
theorem apply_of_not_misses (hg : g.Full) (h : ¬ w.Misses g) :
    ∃ written, w.apply g = .ok written ∧ written.Full ∧ written.extent = g.extent ∧
      written.contents = overlay g.contents (w.journal g.extent g.contents) := by
  have single {p : Point} (hp : p ∈ g.extent) (f : α → α) :
      ∃ v, g.contents p = some v ∧ (g.write p (f v)).Full ∧
        (g.write p (f v)).contents = overlay g.contents (writeAt g.contents p f) := by
    obtain ⟨v, hv⟩ := hg.exists_contents hp
    refine ⟨v, hv, hg.write p _, ?_⟩
    rw [writeAt_of_contents hv, contents_write_eq hg hp]
  cases w with
  | set p v =>
    have hp : p ∈ g.extent := not_not.mp h
    obtain ⟨old, hold, full, contents⟩ := single hp fun _ => v
    exact ⟨_, modify_eq_ok hg hp hold fun _ => v, full, rfl, contents⟩
  | modify p f =>
    have hp : p ∈ g.extent := not_not.mp h
    obtain ⟨old, hold, full, contents⟩ := single hp f
    exact ⟨_, modify_eq_ok hg hp hold f, full, rfl, contents⟩
  | modifyAt n f =>
    have small : n < g.extent.volume := by
      rw [← hg.size_eq]
      exact Nat.lt_of_not_le h
    obtain ⟨b, hb⟩ := hg.bounded
    have hp := Extent.pointAt_mem hb small
    obtain ⟨old, hold, full, contents⟩ := single hp f
    have step := modifyAt_eq_ok hold f
    rw [Extent.rank_pointAt hb small] at step
    refine ⟨_, lift_eq_ok.mpr step, full, rfl, ?_⟩
    rw [contents]
    simp only [journal, if_pos small]
  | updateRegion region f s =>
    cases hr : g.reach region with
    | error fault => exact absurd ((misses_updateRegion hg).mpr ⟨fault, hr⟩) h
    | ok _ =>
      obtain ⟨written, s', ok, full, extent, contents⟩ := updateRegion_eq_ok hg hr f s
      obtain ⟨common, hc, -⟩ := bind_eq_ok.mp hr
      obtain ⟨bound, hb, -⟩ := bind_eq_ok.mp hc
      refine ⟨written, ?_, full, extent, ?_⟩
      · simp only [apply, ok, lift_ok, ok_bind, pure_eq_ok]
      · rw [contents]
        simp only [journal, hb]

/-- A call fails exactly when it misses. -/
theorem apply_eq_error_iff (hg : g.Full) : (∃ x, w.apply g = .error x) ↔ w.Misses g := by
  constructor
  · rintro ⟨x, hx⟩
    by_contra h
    obtain ⟨written, ok, -⟩ := apply_of_not_misses hg h
    rw [hx] at ok
    cases ok
  · intro h
    exact (apply_of_misses hg h).1

/-- After a call, failed or not, the grid is full over the same extent, and its map is the map before
overlaid with the journal of the call. -/
theorem settle_spec (hg : g.Full) (w : Write α) :
    (w.settle g).Full ∧ (w.settle g).extent = g.extent ∧
      (w.settle g).contents = overlay g.contents (w.journal g.extent g.contents) := by
  unfold settle
  by_cases h : w.Misses g
  · obtain ⟨⟨x, hx⟩, nothing⟩ := apply_of_misses hg h
    rw [hx, nothing]
    exact ⟨hg, rfl, rfl⟩
  · obtain ⟨written, ok, full, extent, contents⟩ := apply_of_not_misses hg h
    rw [ok]
    exact ⟨full, extent, contents⟩

/-- A call writes only points that it is about. -/
theorem reaches_of_mem_journal {e : Extent} {b : Point} (hb : e.leastUpperBound = .ok b)
    {m : Point → Option α} {entry : Point × α} (h : entry ∈ w.journal e m) :
    w.Reaches e entry.1 := by
  have single {p : Point} {f : α → α} (h : entry ∈ writeAt m p f) : entry.1 = p := by
    unfold writeAt at h
    cases hv : m p with
    | none =>
      rw [hv] at h
      exact absurd h List.not_mem_nil
    | some v =>
      rw [hv] at h
      rw [List.mem_singleton.mp h]
  cases w with
  | set p v => exact single h
  | modify p f => exact single h
  | modifyAt n f =>
    by_cases small : n < e.volume
    · simp only [journal, if_pos small] at h
      change e.rank entry.1 = n
      rw [single h, Extent.rank_pointAt hb small]
    · simp only [journal, if_neg small] at h
      exact absurd h List.not_mem_nil
  | updateRegion region f s =>
    cases hr : region.leastUpperBound with
    | error _ =>
      simp only [journal, hr] at h
      exact absurd h List.not_mem_nil
    | ok _ =>
      simp only [journal, hr] at h
      exact ((Extent.mem_shared hb).mp (mem_of_visitWrites h)).2

/-- What a call is not about, it leaves as it is. -/
theorem get_settle (hg : g.Full) {p : Point} (h : ¬ w.Reaches g.extent p) :
    (w.settle g).get p = g.get p := by
  obtain ⟨b, hb⟩ := hg.bounded
  obtain ⟨full, extent, contents⟩ := settle_spec hg w
  have kept : (w.settle g).contents p = g.contents p := by
    rw [contents]
    refine overlay_of_not_mem fun hp => h ?_
    obtain ⟨entry, hentry, rfl⟩ := List.mem_map.mp hp
    exact reaches_of_mem_journal hb hentry
  rw [full.get_eq, hg.get_eq, kept, dimensions, dimensions, extent]

end Write

/-! ### Runs -/

/-- The grid after a sequence of calls. -/
def run (g : Grid α) (ws : List (Write α)) : Grid α := ws.foldl (fun g w => w.settle g) g

/-- All writes of a sequence of calls, from the map at its beginning. -/
def journal (e : Extent) (m : Point → Option α) : List (Write α) → List (Point × α)
  | [] => []
  | w :: ws => w.journal e m ++ journal e (overlay m (w.journal e m)) ws

/-- A run keeps the extent, one value for each point, and the map up to what is written. -/
theorem run_spec : ∀ (ws : List (Write α)) {g : Grid α}, g.Full →
    (g.run ws).Full ∧ (g.run ws).extent = g.extent ∧
      (g.run ws).contents = overlay g.contents (journal g.extent g.contents ws)
  | [], _, hg => ⟨hg, rfl, rfl⟩
  | w :: ws, g, hg => by
      obtain ⟨full, extent, contents⟩ := Write.settle_spec hg w
      obtain ⟨full', extent', contents'⟩ := run_spec ws full
      refine ⟨full', extent'.trans extent, ?_⟩
      rw [show g.run (w :: ws) = (w.settle g).run ws from rfl, contents', extent, contents,
        ← overlay_append]
      rfl

/-- A grid is a finite map over its extent under any run of writes. The extent stays, and with it the
number of values. A point of the extent has the value written there last, or else the one from the
beginning, and every other point is refused. One more call fails exactly when it misses, and then it
changes nothing; otherwise it changes only points that it is about. The entries are the points in
canonical order, each with the value that `get` answers. -/
theorem run_finite_map {e : Extent} {values : List α} {g : Grid α} (built : Built e values g)
    (nonnegative : e.Nonnegative) (bounded : ∃ b, e.leastUpperBound = .ok b)
    (few : e.volume < 2 ^ 63) (ws : List (Write α)) :
    (g.run ws).extent = e ∧ e.pointCount = .ok (g.run ws).values.size ∧
      (∀ p ∈ e, ∃ v, (g.run ws).get p = .ok v ∧
        (lastWritten (journal e (initial e values) ws) p).or values[e.rank p]? = some v) ∧
      (∀ p, p ∉ e → (g.run ws).get p = refuse (.outOfBounds p e.dimensions)) ∧
      (∀ w : Write α, ((∃ x, w.apply (g.run ws) = .error x) ↔ w.Misses (g.run ws)) ∧
        (w.Misses (g.run ws) → w.settle (g.run ws) = g.run ws) ∧
        ∀ p, ¬ w.Reaches e p → (w.settle (g.run ws)).get p = (g.run ws).get p) ∧
      ∃ es, (g.run ws).entries = .ok es ∧ (es.map Prod.fst).Pairwise Point.Before ∧
        (∀ p, p ∈ es.map Prod.fst ↔ p ∈ e) ∧
        ∀ entry ∈ es, (g.run ws).get entry.1 = .ok entry.2 := by
  have small : e.volume < Size.bound := Nat.lt_of_lt_of_le few (by decide)
  obtain ⟨hg, rfl⟩ := built.full nonnegative bounded small
  obtain ⟨full, extent, contents⟩ := run_spec ws hg
  rw [contents_toArray e values] at contents
  generalize run ⟨e, values.toArray⟩ ws = after at full extent contents
  change after.extent = e at extent
  obtain ⟨b, hb⟩ := bounded
  refine ⟨extent, ?_, ?_, ?_, ?_, ?_⟩
  · rw [Extent.pointCount_eq_ok nonnegative, full.size_eq, extent]
    exact ⟨small, rfl⟩
  · intro p hp
    have inside : p ∈ after.extent := by rwa [extent]
    obtain ⟨v, hv⟩ := full.exists_contents inside
    refine ⟨v, full.get_eq_ok_iff.mpr hv, ?_⟩
    rw [← hv, contents, overlay, initial, if_pos hp]
  · intro p hp
    rw [full.get_of_not_mem (by rwa [extent]), dimensions, extent]
  · intro w
    refine ⟨Write.apply_eq_error_iff full, fun misses => ?_, fun p hp => ?_⟩
    · obtain ⟨⟨x, hx⟩, -⟩ := Write.apply_of_misses full misses
      rw [Write.settle, hx]
    · exact Write.get_settle full (by rwa [extent])
  · obtain ⟨es, hes, points, values⟩ := full.entries_eq
    rw [extent] at points
    refine ⟨es, hes, ?_, ?_, ?_⟩
    · rw [points]
      exact Extent.enumerate_sorted hb
    · intro p
      rw [points, Extent.mem_enumerate hb]
    · intro entry hentry
      exact full.get_eq_ok_iff.mpr (values entry hentry)

/-- Four points, some with a negative component, and calls of every kind. The second, the fourth and the
sixth call have no cell to reach; the region of the fifth begins outside the grid. -/
theorem run_finite_map_every_write :
    let e : Extent := ⟨⟨-1, 2, 3⟩, ⟨2, 2, 1⟩⟩
    let ws : List (Write Nat) := [.set ⟨0, 2, 3⟩ 20, .set ⟨1, 2, 3⟩ 21, .modifyAt 2 (· + 30),
      .modifyAt 4 (· + 31),
      .updateRegion ⟨⟨0, -7, 3⟩, ⟨9, 11, 1⟩⟩ (fun (n : Nat) _ v => (v + n, n + 100)) 100,
      .updateRegion ⟨⟨2147483647, 0, 0⟩, ⟨1, 1, 1⟩⟩ (fun (n : Nat) _ _ => (n, n)) 50,
      .modify ⟨-1, 2, 3⟩ (· * 2)]
    (e.Nonnegative ∧ (∃ b, e.leastUpperBound = .ok b) ∧ e.volume < 2 ^ 63) ∧
      ∃ g, Grid.ofValues e #[10, 11, 12, 13] = .ok g ∧
        (g.run ws).get ⟨-1, 2, 3⟩ = .ok 20 ∧ (g.run ws).get ⟨0, 2, 3⟩ = .ok 120 ∧
        (g.run ws).get ⟨-1, 3, 3⟩ = .ok 42 ∧ (g.run ws).get ⟨0, 3, 3⟩ = .ok 213 ∧
        (g.run ws).get ⟨1, 2, 3⟩ = refuse (.outOfBounds ⟨1, 2, 3⟩ ⟨2, 2, 1⟩) := by
  intro e ws
  have nonnegative : e.Nonnegative := ⟨by decide, by decide, by decide⟩
  have bounded : ∃ b, e.leastUpperBound = .ok b := ⟨⟨1, 4, 4⟩, by decide⟩
  have few : e.volume < 2 ^ 63 := by decide
  have made : Grid.ofValues e #[10, 11, 12, 13] = .ok ⟨e, #[10, 11, 12, 13]⟩ := rfl
  obtain ⟨-, -, values, outside, -⟩ :=
    run_finite_map (.ofValues made) nonnegative bounded few ws
  have last {p : Point} (hp : p ∈ e) {v : Nat}
      (h : (lastWritten (journal e (initial e [10, 11, 12, 13]) ws) p).or
        [10, 11, 12, 13][e.rank p]? = some v) :
      (run ⟨e, #[10, 11, 12, 13]⟩ ws).get p = .ok v := by
    obtain ⟨w, get, hw⟩ := values p hp
    rw [get, Option.some.inj (hw.symm.trans h)]
  refine ⟨⟨nonnegative, bounded, few⟩, _, made, ?_, ?_, ?_, ?_, ?_⟩
  · exact last (by decide) (by decide +kernel)
  · exact last (by decide) (by decide +kernel)
  · exact last (by decide) (by decide +kernel)
  · exact last (by decide) (by decide +kernel)
  · exact outside _ (by decide)

end Grid

end DenseMedium
