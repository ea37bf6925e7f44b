import DenseMedium.Proofs.Grid.Access

/-!
Grids as finite maps.

`Grid.contents` is the map that a full grid is: a value for each point of the extent and none
elsewhere. The observations of a grid are those of its map:

* `Full.get_eq`: `get` answers with the value of the map, and refuses where there is none.
* `Full.entries_eq`: `entries` lists the points of the extent in canonical order with their values.
* `Built.full`: what each constructor makes is full, and holds its values in canonical order.
* `Full.contents_write`: storing a value at the number of a point changes the map there and nowhere
  else.
-/

namespace DenseMedium

namespace Grid

variable {α : Type}

/-- The map that a grid is. -/
def contents (g : Grid α) (p : Point) : Option α :=
  if p ∈ g.extent then g.values[g.extent.rank p]? else none

/-! ### Observations -/

namespace Full

variable {g : Grid α} {p : Point}

theorem exists_contents (hg : g.Full) (hp : p ∈ g.extent) : ∃ v, g.contents p = some v := by
  unfold contents
  rw [if_pos hp, Array.getElem?_eq_getElem (hg.rank_lt_size hp)]
  exact ⟨_, rfl⟩

theorem contents_of_not_mem (hp : p ∉ g.extent) : g.contents p = none := if_neg hp

theorem at?_of_contents {v : α} (hv : g.contents p = some v) :
    g.at? (g.extent.rank p) = .ok v := by
  unfold contents at hv
  split at hv
  · exact at?_eq_ok.mpr hv
  · cases hv

theorem get_eq_ok_iff (hg : g.Full) {v : α} : g.get p = .ok v ↔ g.contents p = some v := by
  rw [hg.get_eq_ok]
  unfold contents
  split <;> simp_all

/-- Reading is a look-up in the map. -/
theorem get_eq (hg : g.Full) (p : Point) : g.get p =
    match g.contents p with
    | some v => .ok v
    | none => refuse (.outOfBounds p g.dimensions) := by
  cases hv : g.contents p with
  | some v => exact hg.get_eq_ok_iff.mpr hv
  | none =>
    refine hg.get_of_not_mem fun hp => ?_
    obtain ⟨v, hv'⟩ := hg.exists_contents hp
    rw [hv] at hv'
    cases hv'

/-- Every point can be asked for. -/
theorem get_total (hg : g.Full) (p : Point) :
    (∃ v, g.get p = .ok v) ∨ g.get p = refuse (.outOfBounds p g.dimensions) := by
  rw [hg.get_eq]
  cases g.contents p with
  | some v => exact .inl ⟨v, rfl⟩
  | none => exact .inr rfl

/-- The entries are the points of the extent in canonical order, each with its value. -/
theorem entries_eq (hg : g.Full) : ∃ es, g.entries = .ok es ∧ es.map Prod.fst = g.extent.enumerate ∧
    ∀ entry ∈ es, g.contents entry.1 = some entry.2 := by
  obtain ⟨b, hb⟩ := hg.bounded
  refine ⟨g.extent.enumerate.zip g.values.toList, ?_, ?_, ?_⟩
  · unfold entries
    rw [Extent.points_eq_ok hb, ok_bind, pure_eq_ok]
  · refine List.map_fst_zip (Nat.le_of_eq ?_)
    rw [Extent.length_enumerate, Array.length_toList, hg.size_eq]
  · intro entry hentry
    obtain ⟨n, hn, rfl⟩ := List.mem_iff_getElem.mp hentry
    rw [List.getElem_zip]
    simp only [List.length_zip, Extent.length_enumerate] at hn
    have small : n < g.extent.volume := by omega
    simp only [Extent.enumerate, List.getElem_map, List.getElem_range, Array.getElem_toList]
    unfold contents
    rw [if_pos (Extent.pointAt_mem hb small), Extent.rank_pointAt hb small,
      Array.getElem?_eq_getElem]

end Full

/-! ### Construction -/

/-- The map of a list of values, one for each point in canonical order. -/
def initial (e : Extent) (values : List α) (p : Point) : Option α :=
  if p ∈ e then values[e.rank p]? else none

/-- The grids over an extent that the constructors make, with the values that they begin with in
canonical order. A filler is called once for each point. -/
inductive Built (e : Extent) : List α → Grid α → Prop where
  | ofValues {values : Array α} {g : Grid α} :
      Grid.ofValues e values = .ok g → Built e values.toList g
  | fill [Cell α] {v : α} {g : Grid α} :
      Grid.fill e v = .ok g → Built e (List.replicate e.volume v) g
  | fillWith {σ : Type} {filler : Point → StateT σ Checked α} {s s' : σ} {values : List α}
      {g : Grid α} : (e.enumerate.mapM filler).run s = .ok (values, s') →
      (Grid.fillWith e filler).run s = .ok (g, s') → Built e values g

theorem ofValues_eq_ok {e : Extent} {values : Array α} {g : Grid α} :
    ofValues e values = .ok g ↔ e.pointCount = .ok values.size ∧ g = ⟨e, values⟩ := by
  unfold ofValues
  rw [bind_eq_ok]
  constructor
  · rintro ⟨count, hcount, h⟩
    split at h
    · cases h
    · rename_i same
      cases h
      exact ⟨not_not.mp same ▸ lift_eq_ok.mp hcount, rfl⟩
  · rintro ⟨hcount, rfl⟩
    exact ⟨_, lift_eq_ok.mpr hcount, if_neg fun different => different rfl⟩

theorem fill_eq_ok [Cell α] {e : Extent} {v : α} {g : Grid α} (h : fill e v = .ok g) :
    ∃ count, e.pointCount = .ok count ∧ g = ⟨e, Array.replicate count v⟩ := by
  obtain ⟨count, hcount, h⟩ := bind_eq_ok.mp h
  obtain ⟨-, -, h⟩ := bind_eq_ok.mp h
  cases h
  exact ⟨count, hcount, rfl⟩

/-- One value comes of each call. -/
theorem length_of_mapM {σ β : Type} {f : β → StateT σ Checked α} {xs : List β} {s s' : σ}
    {ys : List α} (h : (xs.mapM f).run s = .ok (ys, s')) : ys.length = xs.length := by
  obtain ⟨state, values, -, ⟨complete, run⟩ | ⟨x, fault, -, -, run⟩⟩ := exists_calls f xs s
  · cases h.symm.trans run
    exact complete
  · cases h.symm.trans run

theorem fillWith_eq {σ : Type} {e : Extent} {b : Point} (hb : e.leastUpperBound = .ok b)
    (filler : Point → StateT σ Checked α) (s : σ) :
    (fillWith e filler).run s =
      ((e.enumerate.mapM filler).run s >>= fun made => .ok (⟨e, made.1.toArray⟩, made.2)) := by
  unfold fillWith
  rw [Extent.points_eq_ok hb]
  rfl

namespace Built

variable {e : Extent} {values : List α} {g : Grid α}

/-- Every constructor makes a full grid over its extent, of its values in canonical order. -/
theorem full (h : Built e values g) (nonnegative : e.Nonnegative)
    (bounded : ∃ b, e.leastUpperBound = .ok b) (few : e.volume < Size.bound) :
    g.Full ∧ g = ⟨e, values.toArray⟩ := by
  cases h with
  | ofValues h =>
    obtain ⟨hcount, rfl⟩ := ofValues_eq_ok.mp h
    obtain ⟨-, size⟩ := (Extent.pointCount_eq_ok nonnegative).mp hcount
    exact ⟨⟨bounded, size, size ▸ few⟩, by rw [Array.toArray_toList]⟩
  | @fill _ v _ h =>
    obtain ⟨count, hcount, rfl⟩ := fill_eq_ok h
    obtain ⟨-, rfl⟩ := (Extent.pointCount_eq_ok nonnegative).mp hcount
    have size : (Array.replicate e.volume v).size = e.volume := Array.size_replicate
    exact ⟨⟨bounded, size, size.symm ▸ few⟩, by rw [List.toArray_replicate]⟩
  | fillWith calls h =>
    obtain ⟨b, hb⟩ := bounded
    rw [fillWith_eq hb, calls, ok_bind] at h
    cases h
    have size : values.toArray.size = e.volume := by
      rw [List.size_toArray, length_of_mapM calls, Extent.length_enumerate]
    exact ⟨⟨⟨b, hb⟩, size, size.symm ▸ few⟩, rfl⟩

end Built

theorem contents_toArray (e : Extent) (values : List α) :
    contents ⟨e, values.toArray⟩ = initial e values := by
  funext p
  unfold contents initial
  rw [List.getElem?_toArray]

/-! ### Storing a value -/

/-- The grid with another value at a point. -/
def write (g : Grid α) (p : Point) (v : α) : Grid α :=
  { g with values := g.values.setIfInBounds (g.extent.rank p) v }

namespace Full

variable {g : Grid α} {p : Point}

theorem write (hg : g.Full) (p : Point) (v : α) : (g.write p v).Full where
  bounded := hg.bounded
  size_eq := by
    rw [Grid.write, Array.size_setIfInBounds]
    exact hg.size_eq
  size_lt := by
    rw [Grid.write, Array.size_setIfInBounds]
    exact hg.size_lt

/-- The stored value is found at its point; the map is the same at all others, because no two
points have one number. -/
theorem contents_write (hg : g.Full) (hp : p ∈ g.extent) (v : α) (q : Point) :
    (g.write p v).contents q = if q = p then some v else g.contents q := by
  unfold contents
  rw [show (g.write p v).extent = g.extent from rfl]
  by_cases hq : q ∈ g.extent
  · rw [if_pos hq, if_pos hq, Grid.write, Array.getElem?_setIfInBounds]
    by_cases same : q = p
    · subst same
      rw [if_pos rfl, if_pos rfl, if_pos (hg.rank_lt_size hq)]
    · have ranks : g.extent.rank p ≠ g.extent.rank q := by
        intro h
        apply same
        rw [← Extent.pointAt_rank hq, ← Extent.pointAt_rank hp, h]
      rw [if_neg ranks, if_neg same]
  · have other : q ≠ p := by
      rintro rfl
      exact hq hp
    rw [if_neg hq, if_neg hq, if_neg other]

end Full

end Grid

end DenseMedium
