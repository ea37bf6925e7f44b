import DenseMedium.Proofs.Coefficient.Uniform
import DenseMedium.Proofs.Grid.Zeroed
import DenseMedium.Proofs.Structured.Deliveries
import DenseMedium.Random.Grid

/-!
Random grids.

A drawing has one state, the number of words taken, so a loop of drawings is told by where it begins.
Six words go into a voxel, and the voxels follow one another in canonical order.

* `run_scatterers`: the voxels that a loop draws, and where it ends.
* `random_of_addressable`: the grid that comes of a source, as an equation.
* `random_words`: which words of the source the coefficients of each point are, and that nothing is
  drawn for dimensions that are refused. The document of a random grid is never refused either.
-/

namespace DenseMedium

open Dimensions

namespace WordSource

/-! ### Draws -/

/-- The coefficient that is drawn when `n` words have been taken. -/
def colorFrom (source : WordSource) (n : Nat) : Rgb :=
  ⟨.ofRandom (source n), .ofRandom (source (n + 1)), .ofRandom (source (n + 2))⟩

/-- The voxel that is drawn when `n` words have been taken. -/
def voxelFrom (source : WordSource) (n : Nat) : Voxel :=
  ⟨source.colorFrom n, source.colorFrom (n + 3), .zero⟩

variable (source : WordSource)

/-- One drawing takes six words. -/
theorem run_scatterer (taken : Nat) :
    StateT.run (m := Id) source.scatterer taken = (source.voxelFrom taken, taken + 6) := rfl

/-- The drawings that a loop makes in order, and the words taken at its end. -/
theorem run_scatterers_cons {α : Type} (x : α) (xs : List α) (taken : Nat) :
    StateT.run (m := Id) ((x :: xs).mapM fun _ => source.scatterer) taken =
      let rest := StateT.run (m := Id) (xs.mapM fun _ => source.scatterer) (taken + 6)
      (source.voxelFrom taken :: rest.1, rest.2) := by
  rw [List.mapM_cons, StateT.run_bind, run_scatterer]
  rfl

/-- A loop of drawings takes six words for each voxel, one voxel after another. -/
theorem run_scatterers {α : Type} (xs : List α) (taken : Nat) :
    StateT.run (m := Id) (xs.mapM fun _ => source.scatterer) taken =
      ((List.range xs.length).map fun n => source.voxelFrom (taken + 6 * n),
        taken + 6 * xs.length) := by
  induction xs generalizing taken with
  | nil => rfl
  | cons x xs ih =>
    have later (n : Nat) : taken + 6 + 6 * n = taken + 6 * (n + 1) := by omega
    rw [run_scatterers_cons, ih]
    simp only [List.length_cons, List.range_succ_eq_map, List.map_cons, List.map_map,
      Function.comp_def, later, Nat.mul_zero, Nat.add_zero, Nat.succ_eq_add_one]

theorem isUniform_colorFrom (n : Nat) :
    List.Forall₂ Single.IsUniform [source n, source (n + 1), source (n + 2)]
      (source.colorFrom n).toList :=
  .cons (Single.isUniform_ofRandom _) (.cons (Single.isUniform_ofRandom _)
    (.cons (Single.isUniform_ofRandom _) .nil))

theorem isFinite_colorFrom (n : Nat) : (source.colorFrom n).isFinite = true :=
  Rgb.isFinite_iff.mpr ⟨(Single.isUniform_ofRandom _).finite, (Single.isUniform_ofRandom _).finite,
    (Single.isUniform_ofRandom _).finite⟩

theorem isFinite_voxelFrom (n : Nat) : (source.voxelFrom n).isFinite = true :=
  Voxel.isFinite_iff.mpr ⟨source.isFinite_colorFrom n, source.isFinite_colorFrom (n + 3), rfl⟩

end WordSource

namespace Structured

/-- A voxel that does not emit has a record of two triples. -/
theorem triples_of_no_emission {v : Voxel} (h : v.emission = .zero) :
    triples v = [v.sigmaA, v.sigmaS] := by
  have none : ¬ ∃ s ∈ v.emission.toList, s.bits ≠ 0 := by
    rw [h]
    decide
  unfold triples
  rw [if_neg none, List.append_nil]

end Structured

namespace VoxelGrid

open Structured

variable {source : WordSource} {d : Dimensions}

/-! ### Grids -/

/-- The grid that is drawn for dimensions that are accepted. -/
def drawn (source : WordSource) (d : Dimensions) : VoxelGrid :=
  ⟨d.extent, ((List.range d.cellCount).map fun n => source.voxelFrom (6 * n)).toArray⟩

theorem random_of_addressable (source : WordSource) (h : d.Addressable) :
    random source d = (.ok (drawn source d), 6 * d.cellCount) := by
  unfold random
  rw [zeroed_of_addressable h]
  dsimp only
  rw [source.run_scatterers, Array.length_toList, Array.size_replicate, Nat.zero_add]
  simp only [Nat.zero_add]
  rfl

theorem random_of_error (source : WordSource) {e : Failure} (h : zeroed d = .error e) :
    random source d = (.error e, 0) := by
  unfold random
  rw [h]

theorem size_drawn (source : WordSource) (d : Dimensions) :
    (drawn source d).values.size = d.cellCount := by
  unfold drawn
  rw [List.size_toArray, List.length_map, List.length_range]

theorem complete_drawn (source : WordSource) (h : d.Addressable) : (drawn source d).Complete := by
  have valid := h.valid
  have size := size_drawn source d
  exact ⟨valid.positive, ⟨_, Valid.leastUpperBound d⟩, size.trans valid.volume_eq.symm,
    size ▸ valid.2.2.2⟩

theorem mem_drawn {v : Voxel} (h : v ∈ (drawn source d).values) : ∃ n, v = source.voxelFrom n := by
  obtain ⟨n, -, rfl⟩ := List.mem_map.mp (List.mem_toArray.mp h)
  exact ⟨_, rfl⟩

/-- The voxel at a point is the one with the number of the point. -/
theorem get_drawn (h : d.Addressable) {p : Point} (hp : p ∈ d.extent) :
    (drawn source d).get p = .ok (source.voxelFrom (6 * d.extent.rank p)) := by
  have inside := Extent.rank_lt hp
  rw [h.valid.volume_eq] at inside
  refine (Grid.get_eq_ok (complete_drawn source h)).mpr ⟨hp, ?_⟩
  change ((List.range d.cellCount).map _).toArray[d.extent.rank p]? = _
  rw [List.getElem?_toArray, List.getElem?_map, List.getElem?_range inside, Option.map_some]

/-- The document of a random grid is written in every layout, as far as memory goes and into any sink
that does not run full, and its records have two triples. -/
theorem written_drawn (source : WordSource) (h : d.Addressable) (l : Json.Layout) :
    ∃ (text : String) (planes : List (List (List Voxel))) (ending : Nat → Written),
      Encodes l (drawn source d) (Utf8.bytes text) ∧
      (∀ room, write room l (drawn source d) =
        if l.Fits then .ok (ending room) else .error .capacityOverflow) ∧
      CutAnywhere ((tree (drawn source d)).write l) (Utf8.bytes text) ending ∧
      DocumentText d.extent planes (Utf8.bytes text) ∧
      planes.flatten.flatten = (drawn source d).values.toList ∧
      ∀ v ∈ planes.flatten.flatten, triples v = [v.sigmaA, v.sigmaS] := by
  have complete := complete_drawn source h
  have finite : ∀ v ∈ (drawn source d).values, v.isFinite = true := by
    intro v hv
    obtain ⟨n, rfl⟩ := mem_drawn hv
    exact source.isFinite_voxelFrom n
  obtain ⟨text, encodes, written, cut⟩ := write_of_finite complete finite l
  have whole : (planesOf (drawn source d)).flatten.flatten = (drawn source d).values.toList :=
    flatten_cut _ _ _
  refine ⟨text, planesOf (drawn source d), _, encodes, written, cut, ?_, whole, ?_⟩
  · rw [encodes.text]
    exact documentText complete.positive finite l
  · intro v hv
    rw [whole, Array.mem_toList_iff] at hv
    obtain ⟨n, rfl⟩ := mem_drawn hv
    exact triples_of_no_emission rfl

/-- **A random grid takes its words in canonical order.** It fails exactly when the empty grid of
those dimensions does, in the same way and before a word is drawn. Otherwise six words are drawn for
each voxel: with `n` the number of a point in canonical order, words `6 * n` to `6 * n + 2` are the
absorption there and words `6 * n + 3` to `6 * n + 5` the scattering, channel by channel and without
rounding. Nothing is emitted, so the grid has a document in every layout, with records of two
triples. It is never refused, and it is written as far as memory goes. -/
theorem random_words (source : WordSource) (d : Dimensions) :
    (∀ e, (random source d).1 = .error e ↔ zeroed d = .error e) ∧
    (∀ e, zeroed d = .error e → random source d = (.error e, 0)) ∧
    ∀ g₀, zeroed d = .ok g₀ → ∃ g, random source d = (.ok g, 6 * d.cellCount) ∧
      g.extent = g₀.extent ∧ g.dimensions = d ∧
      (∀ x < d.width.toNat, ∀ y < d.height.toNat, ∀ z < d.depth.toNat,
        ∃ (n : Nat) (p : Point) (v : Voxel), n = x + d.width.toNat * (y + d.height.toNat * z) ∧
          (p.x.toInt = x ∧ p.y.toInt = y ∧ p.z.toInt = z) ∧ g.get p = .ok v ∧
          List.Forall₂ Single.IsUniform [source (6 * n), source (6 * n + 1), source (6 * n + 2)]
            v.sigmaA.toList ∧
          List.Forall₂ Single.IsUniform [source (6 * n + 3), source (6 * n + 4), source (6 * n + 5)]
            v.sigmaS.toList ∧
          v.emission = .zero) ∧
      ∀ l, ∃ (text : String) (planes : List (List (List Voxel))) (ending : Nat → Written),
        Encodes l g (Utf8.bytes text) ∧
        (∀ room, write room l g = if l.Fits then .ok (ending room) else .error .capacityOverflow) ∧
        CutAnywhere ((tree g).write l) (Utf8.bytes text) ending ∧
        DocumentText g.extent planes (Utf8.bytes text) ∧
        planes.flatten.flatten = g.values.toList ∧
        ∀ v ∈ planes.flatten.flatten, triples v = [v.sigmaA, v.sigmaS] := by
  refine ⟨?_, fun e refused => random_of_error source refused, ?_⟩
  · intro e
    cases made : zeroed d with
    | error e' => rw [random_of_error source made]
    | ok g₀ =>
      have addressable := (zeroed_iff_addressable d).1.mp ⟨g₀, made⟩
      rw [random_of_addressable source addressable]
      exact ⟨nofun, nofun⟩
  · intro g₀ made
    have addressable := (zeroed_iff_addressable d).1.mp ⟨g₀, made⟩
    have valid := addressable.valid
    rw [zeroed_of_addressable addressable] at made
    cases made
    refine ⟨drawn source d, random_of_addressable source addressable, rfl,
      Extent.dimensions_extent d, ?_, written_drawn source addressable⟩
    intro x hx y hy z hz
    rw [← valid.width_eq] at hx
    rw [← valid.height_eq] at hy
    rw [← valid.depth_eq] at hz
    have bound := Valid.leastUpperBound d
    have number := Extent.rank_pointOf bound hx hy hz
    have inside := Extent.pointOf_mem bound hx hy hz
    have value : (drawn source d).get _ = _ := get_drawn addressable inside
    obtain ⟨px, py, pz⟩ := Extent.toInt_pointOf bound hx hy hz
    have origin (c : Nat) : (0 : Coordinate).toInt + c = c := Int.zero_add _
    refine ⟨_, _, _, rfl, ⟨px.trans (origin x), py.trans (origin y), pz.trans (origin z)⟩, value, ?_⟩
    rw [number, valid.width_eq, valid.height_eq]
    exact ⟨source.isUniform_colorFrom _, source.isUniform_colorFrom _, rfl⟩

/-- The least word and the greatest in turn. -/
def extremes : WordSource := .cycle #[0, 0xffffffff]

/-- Two voxels take twelve words. The second begins with the seventh, which is the least. The greatest
word is not rounded up to one. -/
theorem random_words_extremes :
    ∃ (g : VoxelGrid) (v : Voxel), random extremes ⟨2, 1, 1⟩ = (.ok g, 12) ∧
      g.get ⟨1, 0, 0⟩ = .ok v ∧
      List.Forall₂ Single.IsUniform [0, 0xffffffff, 0] v.sigmaA.toList ∧
      Single.ofRandom 0xffffffff = ⟨0x3f7fffff⟩ ∧
      random extremes ⟨2, 0, 1⟩ = (refuse (.invalidSize 0), 0) := by
  have empty : zeroed ⟨2, 1, 1⟩ = .ok ⟨.ofShape ⟨2, 1, 1⟩, #[.empty, .empty]⟩ := by decide
  obtain ⟨-, -, grids⟩ := random_words extremes ⟨2, 1, 1⟩
  obtain ⟨g, made, -, -, voxels, -⟩ := grids _ empty
  obtain ⟨n, p, v, rfl, ⟨x, y, z⟩, value, absorption, -⟩ :=
    voxels 1 (by decide) 0 (by decide) 0 (by decide)
  have second : p = ⟨1, 0, 0⟩ :=
    Point.ext (Coordinate.eq_of_toInt x) (Coordinate.eq_of_toInt y) (Coordinate.eq_of_toInt z)
  rw [second] at value
  obtain ⟨-, refused, -⟩ := random_words extremes ⟨2, 0, 1⟩
  exact ⟨g, v, made, value, absorption, by decide, refused _ (by decide)⟩

end VoxelGrid

end DenseMedium
