import DenseMedium.Proofs.Coefficient.Spelling
import DenseMedium.Proofs.Stream.Sources
import DenseMedium.Proofs.Structured.Grids
import DenseMedium.Structured.Encode

/-!
Documents that were written.

The document of a full grid at the origin is accepted in every layout (`accepts_tree`): its planes,
rows and records are those of the grid in canonical order, and each component is what the number
reader makes of the spelling of that one component. So decoding the text of a grid narrows every
coefficient read, and nothing else happens to it (`decode_text`).
-/

namespace DenseMedium

/-! ### Runs -/

section Runs

variable {α : Type} {n k : Nat} {xs : List α}

/-- A multiple of the length is cut into runs of that length. -/
theorem runs_lengths (h : xs.length = k * (n + 1)) :
    (runs n xs).length = k ∧ ∀ run ∈ runs n xs, run.length = n + 1 := by
  induction k generalizing xs with
  | zero =>
    rw [Nat.zero_mul, List.length_eq_zero_iff] at h
    subst h
    unfold runs
    exact ⟨rfl, nofun⟩
  | succ k ih =>
    cases xs with
    | nil => simp at h
    | cons x rest =>
      rw [List.length_cons, Nat.succ_mul] at h
      obtain ⟨count, lengths⟩ := @ih (rest.drop n) (by rw [List.length_drop]; omega)
      unfold runs
      refine ⟨by rw [List.length_cons, count], List.forall_mem_cons.mpr ⟨?_, lengths⟩⟩
      rw [List.length_cons, List.length_take]
      omega

theorem mem_of_mem_runs {run : List α} {x : α} (hrun : run ∈ runs n xs) (hx : x ∈ run) : x ∈ xs := by
  rw [← flatten_runs n xs]
  exact List.mem_flatten.mpr ⟨run, hrun, hx⟩

/-- A list cut into planes of rows. -/
def cut (width height : Nat) (xs : List α) : List (List (List α)) :=
  (runs (width * height - 1) xs).map (runs (width - 1))

theorem flatten_cut (width height : Nat) (xs : List α) : (cut width height xs).flatten.flatten = xs := by
  have rows (plane : List α) : (runs (width - 1) plane).flatten = plane := flatten_runs _ plane
  unfold cut
  rw [List.flatten_flatten, List.map_map]
  calc ((runs (width * height - 1) xs).map (List.flatten ∘ runs (width - 1))).flatten
      = ((runs (width * height - 1) xs).map id).flatten :=
        congrArg List.flatten (List.map_congr_left fun plane _ => rows plane)
    _ = xs := by rw [List.map_id, flatten_runs]

/-- There are as many planes, rows and elements of a row as the lengths say. -/
theorem cut_lengths {width height depth : Nat} (hw : 0 < width) (hh : 0 < height)
    (size : xs.length = width * height * depth) :
    (cut width height xs).length = depth ∧ ∀ plane ∈ cut width height xs,
      plane.length = height ∧ ∀ row ∈ plane, row.length = width := by
  have area : width * height - 1 + 1 = width * height := Nat.sub_add_cancel (Nat.mul_pos hw hh)
  have length : width - 1 + 1 = width := Nat.sub_add_cancel hw
  obtain ⟨count, planes⟩ := @runs_lengths _ (width * height - 1) depth xs
    (by rw [size, area, Nat.mul_comm])
  unfold cut
  rw [List.length_map]
  refine ⟨count, List.forall_mem_map.mpr fun plane hplane => ?_⟩
  obtain ⟨count, rows⟩ := @runs_lengths _ (width - 1) height plane
    (by rw [planes plane hplane, area, length, Nat.mul_comm])
  refine ⟨count, fun row hrow => ?_⟩
  rw [rows row hrow, length]

end Runs

/-- Only `+0.0` in every channel is left out of a document. -/
theorem Rgb.eq_zero_of_isPositiveZero {c : Rgb} (h : c.isPositiveZero = true) : c = Rgb.zero := by
  have bits {s : Single} (hs : s.isPositiveZero = true) : s = Single.zero :=
    Single.ext (of_decide_eq_true hs)
  unfold isPositiveZero at h
  rw [Bool.and_eq_true, Bool.and_eq_true] at h
  obtain ⟨⟨hr, hg⟩, hb⟩ := h
  exact Rgb.ext (bits hr) (bits hg) (bits hb)

namespace Structured

open Json

/-! ### Records -/

/-- The components of a coefficient, as their spellings are read. -/
def Components.asRead (c : Rgb) : Components := ⟨c.r.asRead, c.g.asRead, c.b.asRead⟩

/-- The record of a voxel, as it is read. An emission that is left out reads as zeros. -/
def RawRecord.asRead (v : Voxel) : RawRecord where
  sigmaA := .asRead v.sigmaA
  sigmaS := .asRead v.sigmaS
  emission := if v.emission.isPositiveZero then .zero else .asRead v.emission

section Finite

variable {c : Rgb} {v : Voxel}

theorem Components.narrow_asRead (finite : c.isFinite = true) :
    (Components.asRead c).narrow = c := by
  obtain ⟨hr, hg, hb⟩ := Rgb.isFinite_iff.mp finite
  exact Rgb.ext (Single.spell_reads hr).2.2 (Single.spell_reads hg).2.2 (Single.spell_reads hb).2.2

theorem accepts_coefficient (finite : c.isFinite = true) :
    Accepts components (coefficientTree c) (.asRead c) := by
  obtain ⟨hr, hg, hb⟩ := Rgb.isFinite_iff.mp finite
  exact accepts_triple (Single.spell_reads hr).2.1 (Single.spell_reads hg).2.1
    (Single.spell_reads hb).2.1

theorem isAscii_coefficient (finite : c.isFinite = true) : (coefficientTree c).IsAscii := by
  obtain ⟨hr, hg, hb⟩ := Rgb.isFinite_iff.mp finite
  refine isAscii_list fun t ht => ?_
  simp only [Rgb.toList, List.map_cons, List.map_nil, List.mem_cons, List.not_mem_nil, or_false] at ht
  rcases ht with rfl | rfl | rfl
  · exact isAscii_number (Single.isAscii_spell hr)
  · exact isAscii_number (Single.isAscii_spell hg)
  · exact isAscii_number (Single.isAscii_spell hb)

theorem endOfRecord_yields {e : Ending} {s r : Bytes} (start : skipBlank s = Ascii.closeList :: r) :
    Yields (endOfRecord e s) () r := by
  unfold endOfRecord
  rw [nextItem_end start]
  exact closeList_yields start

/-- A record is read component by component, with zeros for an emission that was left out. -/
theorem accepts_record (finite : v.isFinite = true) :
    Accepts record (recordTree v) (.asRead v) := by
  obtain ⟨ha, hs, he⟩ := Voxel.isFinite_iff.mp finite
  have absorption := accepts_coefficient ha
  have scattering := accepts_coefficient hs
  have emission := accepts_coefficient he
  unfold recordTree RawRecord.asRead
  cases v.emission.isPositiveZero with
  | true =>
    rw [if_pos rfl, if_pos rfl]
    refine accepts_list fun l n e s => ?_
    have close := skipBlank_close l n s
    exact absorption.first.bind ((scattering.next 0 (follows_close l n s)).bind (orEnd_absent close))
  | false =>
    rw [if_neg Bool.false_ne_true, if_neg Bool.false_ne_true]
    refine accepts_list fun l n e s => ?_
    have close := skipBlank_close l n s
    have follows := follows_close (e := e) l n s
    have third : Yields (recordTail (.asRead v.sigmaA) (.asRead v.sigmaS) e
        (itemsText l (n + 1) [coefficientTree v.emission] ++ (l.lineText n ++ Ascii.closeList :: s)))
        ⟨.asRead v.sigmaA, .asRead v.sigmaS, .asRead v.emission⟩ s := by
      rw [itemsText_cons]
      exact orEnd_present (emission.nextItem false)
        ((emission.reads emission.skipBlank_text follows).bind (endOfRecord_yields close).map)
    exact absorption.first.bind ((scattering.next 0 follows).bind third)

theorem isAscii_record (finite : v.isFinite = true) : (recordTree v).IsAscii := by
  obtain ⟨ha, hs, he⟩ := Voxel.isFinite_iff.mp finite
  have two : ∀ t ∈ [coefficientTree v.sigmaA, coefficientTree v.sigmaS], t.IsAscii :=
    List.forall_mem_cons.mpr ⟨isAscii_coefficient ha, List.forall_mem_singleton.mpr
      (isAscii_coefficient hs)⟩
  unfold recordTree
  dsimp only
  split
  · exact isAscii_list two
  · exact isAscii_list (List.forall_mem_append.mpr
      ⟨two, List.forall_mem_singleton.mpr (isAscii_coefficient he)⟩)

theorem double_narrow_zero : Double.zero.narrow = Single.zero := by decide +kernel

/-- The zeros of an emission that is left out. -/
theorem Components.narrow_zero : Components.zero.narrow = Rgb.zero := by
  change Rgb.mk Double.zero.narrow Double.zero.narrow Double.zero.narrow = _
  rw [double_narrow_zero]
  rfl

theorem RawRecord.narrow_asRead (finite : v.isFinite = true) : (RawRecord.asRead v).narrow = v := by
  obtain ⟨ha, hs, he⟩ := Voxel.isFinite_iff.mp finite
  refine Voxel.ext (Components.narrow_asRead ha) (Components.narrow_asRead hs) ?_
  change (if v.emission.isPositiveZero then Components.zero else .asRead v.emission).narrow = _
  split
  · rename_i zero
    exact Components.narrow_zero.trans (Rgb.eq_zero_of_isPositiveZero zero).symm
  · exact Components.narrow_asRead he

end Finite

/-! ### Planes -/

/-- The planes of a grid, as they are read. -/
def planesAsRead (width height : Nat) (values : List Voxel) : List Plane :=
  (runs (width * height - 1) values).map fun plane =>
    (runs (width - 1) plane).map fun row => row.map .asRead

section Planes

variable {width height depth : Nat} {values : List Voxel}

theorem planesAsRead_eq (width height : Nat) (values : List Voxel) :
    planesAsRead width height values =
      (cut width height values).map fun plane => plane.map fun row => row.map .asRead := by
  unfold planesAsRead cut
  rw [List.map_map]
  rfl

theorem flatten_planesAsRead :
    (planesAsRead width height values).flatten.flatten = values.map .asRead := by
  rw [planesAsRead_eq, ← List.map_flatten, ← List.map_flatten, flatten_cut]

theorem accepts_planes (width height : Nat) (finite : ∀ v ∈ values, v.isFinite = true) :
    Accepts planes (planesTree width height values) (planesAsRead width height values) := by
  refine accepts_sequence fun plane hplane => accepts_sequence fun row hrow =>
    accepts_sequence fun v hv => accepts_record (finite v ?_)
  exact mem_of_mem_runs hplane (mem_of_mem_runs hrow hv)

theorem isAscii_planes (width height : Nat) (finite : ∀ v ∈ values, v.isFinite = true) :
    (planesTree width height values).IsAscii := by
  refine isAscii_list (List.forall_mem_map.mpr fun plane hplane =>
    isAscii_list (List.forall_mem_map.mpr fun row hrow =>
      isAscii_list (List.forall_mem_map.mpr fun v hv => isAscii_record (finite v ?_))))
  exact mem_of_mem_runs hplane (mem_of_mem_runs hrow hv)

/-- The planes of a grid are nested as its dimensions say. -/
theorem planesAsRead_lengths (hw : 0 < width) (hh : 0 < height)
    (size : values.length = width * height * depth) :
    (planesAsRead width height values).length = depth ∧
      ∀ plane ∈ planesAsRead width height values, plane.length = height ∧
        ∀ row ∈ plane, row.length = width := by
  obtain ⟨count, planes⟩ := cut_lengths hw hh size
  rw [planesAsRead_eq, List.length_map]
  refine ⟨count, List.forall_mem_map.mpr fun plane hplane => ?_⟩
  obtain ⟨count, rows⟩ := planes plane hplane
  rw [List.length_map]
  refine ⟨count, List.forall_mem_map.mpr fun row hrow => ?_⟩
  rw [List.length_map, rows row hrow]

end Planes

/-! ### Documents -/

/-- The document of a grid, as it is read. -/
def Document.asRead (g : VoxelGrid) : Document where
  width := g.dimensions.width
  height := g.dimensions.height
  depth := g.dimensions.depth
  planes := planesAsRead g.dimensions.width.toNat g.dimensions.height.toNat g.values.toList

section Documents

variable {g : VoxelGrid}

theorem plainName_width : PlainName "width" := .of_all (by decide) (by decide)

theorem plainName_height : PlainName "height" := .of_all (by decide) (by decide)

theorem plainName_depth : PlainName "depth" := .of_all (by decide) (by decide)

theorem plainName_grid : PlainName "grid" := .of_all (by decide) (by decide)

theorem tree_eq (g : VoxelGrid) : tree g = .object
    [("width", .number (Ascii.decimal g.dimensions.width.toNat)),
      ("height", .number (Ascii.decimal g.dimensions.height.toNat)),
      ("depth", .number (Ascii.decimal g.dimensions.depth.toNat)),
      ("grid", planesTree g.dimensions.width.toNat g.dimensions.height.toNat g.values.toList)] := rfl

/-- The tree of a grid is accepted as its document. -/
theorem accepts_tree (finite : ∀ v ∈ g.values, v.isFinite = true) :
    Accepts (struct Document.name Document.inOrder Document.byName) (tree g) (.asRead g) := by
  have grid := accepts_planes g.dimensions.width.toNat g.dimensions.height.toNat
    fun v hv => finite v (Array.mem_toList_iff.mp hv)
  rw [tree_eq]
  refine accepts_struct (.cons plainName_width rfl ((accepts_unsignedWord _).map _)
    (.cons plainName_height rfl ((accepts_unsignedWord _).map _)
      (.cons plainName_depth rfl ((accepts_unsignedWord _).map _)
        (.cons plainName_grid rfl (grid.map _) (.nil _))))) rfl

theorem isAscii_tree (finite : ∀ v ∈ g.values, v.isFinite = true) : (tree g).IsAscii := by
  have grid := isAscii_planes g.dimensions.width.toNat g.dimensions.height.toNat
    fun v hv => finite v (Array.mem_toList_iff.mp hv)
  have decimal (n : Nat) : (Tree.number (Ascii.decimal n)).IsAscii :=
    isAscii_number (naturalParts_text n ▸ (naturalParts_wellFormed n).isAscii false)
  rw [tree_eq]
  refine isAscii_object ?_
  simp only [List.forall_mem_cons]
  exact ⟨⟨plainName_width, decimal _⟩, ⟨plainName_height, decimal _⟩, ⟨plainName_depth, decimal _⟩,
    ⟨plainName_grid, grid⟩, nofun⟩

/-- The document of a grid that was written in any layout is read. -/
theorem read_text (finite : ∀ v ∈ g.values, v.isFinite = true) (l : Layout) :
    Document.read .complete ((tree g).text l) = .ok (.asRead g) :=
  document_text (accepts_tree finite) l

/-- The document of a grid makes a grid of the same shape with each voxel read by itself. -/
theorem toGrid_asRead (origin : g.extent.minimum = Point.zero) (complete : g.Complete)
    (fits : ∀ v ∈ g.values, (RawRecord.asRead v).narrow.isFinite = true) :
    (Document.asRead g).toGrid = .ok (g.map fun v => (RawRecord.asRead v).narrow) := by
  have count := Extent.cellCount_dimensions complete.positive
  have valid : g.dimensions.Valid :=
    Extent.dimensions_valid.mpr ⟨complete.positive, count ▸ complete.volume_lt⟩
  have size : g.values.toList.length = g.dimensions.width.toNat * g.dimensions.height.toNat *
      g.dimensions.depth.toNat := complete.size_eq.trans count.symm
  have records : (Document.asRead g).records = g.values.toList.map .asRead := flatten_planesAsRead
  refine Document.toGrid_eq_ok.mpr ⟨valid, planesAsRead_lengths valid.1.1 valid.2.1.1 size, ?_, ?_⟩
  · rw [records]
    exact List.forall_mem_map.mpr fun v hv => fits v (Array.mem_toList_iff.mp hv)
  · have anchored : g.dimensions.extent = g.extent := by
      change g.extent.dimensions.extent = g.extent
      rw [Extent.extent_dimensions, Extent.ofShape, ← origin]
    rw [records, List.map_map, ← List.map_toArray, Array.toArray_toList]
    change _ = (⟨g.dimensions.extent, _⟩ : VoxelGrid)
    rw [anchored]
    rfl

/-! ### Checks -/

theorem firstNonFinite?_eq_ok {top : Point} (bound : g.extent.leastUpperBound = .ok top) :
    firstNonFinite? g = .ok (((g.extent.enumerate.zip g.values.toList).find?
      fun (_, v) => !v.isFinite).map Prod.fst) := by
  unfold firstNonFinite? Grid.entries
  rw [Extent.points_eq_ok bound]
  rfl

theorem firstNonFinite?_eq_error {x : Fault} (bound : g.extent.leastUpperBound = .error x) :
    firstNonFinite? g = .error x := by
  unfold firstNonFinite? Grid.entries Extent.points
  rw [bound]
  rfl

/-- A bound that fits is all that the search takes. -/
theorem firstNonFinite?_cases (bounded : ∃ top, g.extent.leastUpperBound = .ok top) :
    (∃ p, firstNonFinite? g = .ok (some p)) ∨ firstNonFinite? g = .ok none := by
  obtain ⟨top, bound⟩ := bounded
  cases searched : firstNonFinite? g with
  | error x =>
    rw [firstNonFinite?_eq_ok bound] at searched
    cases searched
  | ok found =>
    cases found with
    | some p => exact .inl ⟨p, rfl⟩
    | none => exact .inr rfl

/-- No point is found exactly when every coefficient is finite. The points are listed first, which
takes a bound that fits. -/
theorem firstNonFinite?_eq_none (size : g.values.size = g.extent.volume) :
    firstNonFinite? g = .ok none ↔
      (∃ top, g.extent.leastUpperBound = .ok top) ∧ ∀ v ∈ g.values, v.isFinite = true := by
  have listed : g.values.toList.length ≤ g.extent.enumerate.length := by
    rw [Extent.length_enumerate, Array.length_toList, size]
  have values : (g.extent.enumerate.zip g.values.toList).map Prod.snd = g.values.toList :=
    List.map_snd_zip listed
  cases bound : g.extent.leastUpperBound with
  | error x =>
    rw [firstNonFinite?_eq_error bound]
    constructor
    · intro h
      cases h
    · rintro ⟨⟨_, h⟩, -⟩
      cases h
  | ok top =>
    rw [firstNonFinite?_eq_ok bound, Except.ok.injEq, Option.map_eq_none_iff, List.find?_eq_none]
    constructor
    · intro h
      refine ⟨⟨top, rfl⟩, fun v hv => ?_⟩
      rw [← Array.mem_toList_iff, ← values] at hv
      obtain ⟨entry, hentry, rfl⟩ := List.mem_map.mp hv
      simpa using h entry hentry
    · rintro ⟨-, finite⟩ entry hentry
      have hv : entry.2 ∈ g.values := Array.mem_toList_iff.mp (List.of_mem_zip hentry).2
      simp [finite entry.2 hv]

theorem isCuttable_of_positive (positive : g.extent.Positive) : isCuttable g = true := by
  have width : Dimensions.IsLength g.dimensions.width :=
    Dimensions.isLength_toUInt32.mpr positive.1
  have height : Dimensions.IsLength g.dimensions.height :=
    Dimensions.isLength_toUInt32.mpr positive.2.1
  unfold isCuttable
  exact decide_eq_true (Nat.pos_iff_ne_zero.mp (Nat.mul_pos width.1 height.1))

/-- A document of finite coefficients is a text. -/
theorem exists_text (finite : ∀ v ∈ g.values, v.isFinite = true) (l : Layout) : ∃ text : String,
    Utf8.bytes text = (tree g).text l :=
  ⟨_, Ascii.bytes_decode (isAscii_tree finite l 0)⟩

/-- What a text of a grid decodes to: the grid with each voxel read by itself. -/
theorem decode_text (sound : Sound g) {l : Layout} {text : String}
    (bytes : Utf8.bytes text = (tree g).text l) :
    decode text = .ok (g.map fun v => (RawRecord.asRead v).narrow) := by
  have fits (v : Voxel) (hv : v ∈ g.values) : (RawRecord.asRead v).narrow.isFinite = true := by
    rw [RawRecord.narrow_asRead (sound.finite v hv)]
    exact sound.finite v hv
  unfold decode decodeBytes
  rw [bytes, read_text sound.finite]
  exact toGrid_asRead sound.origin sound.complete fits

end Documents

/-! ### A grid with extreme coefficients -/

/-- Least and greatest coefficients of both signs, a negative zero, and a coefficient whose spelling
lies so close to a midpoint that the nearest double to it rounds to another coefficient. Every other
voxel does not emit, and some sums are infinite. -/
def leastAndGreatest : VoxelGrid :=
  ⟨Extent.ofShape ⟨4, 2, 2⟩, ((List.range 16).map fun n =>
    (⟨⟨⟨1⟩, ⟨0x80000001⟩, ⟨0x7f7fffff⟩⟩, ⟨⟨0x15ae43fd⟩, ⟨UInt32.ofNat (n * 100000000)⟩, ⟨0x7f7fffff⟩⟩,
      if n % 2 = 0 then .zero else ⟨⟨0x80000000⟩, ⟨0xff7fffff⟩, .zero⟩⟩ : Voxel)).toArray⟩

theorem sound_leastAndGreatest : Sound leastAndGreatest where
  origin := rfl
  complete := ⟨⟨by decide, by decide, by decide⟩, ⟨_, rfl⟩, by decide, by decide⟩
  finite := by decide

/-- The first two of its voxels. One does not emit, and both have the coefficient near a midpoint. -/
def nearMidpoint : VoxelGrid :=
  ⟨Extent.ofShape ⟨2, 1, 1⟩, ⟨leastAndGreatest.values.toList.take 2⟩⟩

theorem sound_nearMidpoint : Sound nearMidpoint where
  origin := rfl
  complete := ⟨⟨by decide, by decide, by decide⟩, ⟨_, rfl⟩, by decide, by decide⟩
  finite := by decide

end Structured

end DenseMedium
