import DenseMedium.Proofs.Json.Layouts
import DenseMedium.Proofs.Structured.Defects
import DenseMedium.Proofs.Structured.Encoding

/-!
Where the voxels of a grid stand in its document.

The encoder never looks at a point. It cuts the list of values into planes and rows. Here the
document is described by the grammar of texts alone, with `DocumentText`: an object of four members,
the last of which lists planes of rows of records of triples of numbers.

* `elementAt_cut`: the element of a cut list at a plane, a row and a place is the one with the
  number that the place has in canonical order.
* `elementAt_planesOf`: so the voxel at such a place is the one that `get` returns there, wherever
  the grid lies.
* `documentText`: what the encoder writes is such a document of the planes of the grid, in every
  layout. It is put together from `recordText` and `gridText`.
* `document_nesting`: the encoder answers for no other grids than those that have a document, and as
  far as memory goes with that document.
-/

namespace DenseMedium

/-! ### Places in a cut list -/

/-- An element of a cut list, by its plane, its row and its place in the row. -/
def elementAt {α : Type} (planes : List (List (List α))) (x y z : Nat) : Option α := do
  let plane ← planes[z]?
  let row ← plane[y]?
  row[x]?

theorem elementAt_cut {α : Type} {width height depth x y z : Nat} {xs : List α}
    (size : xs.length = width * height * depth) (hx : x < width) (hy : y < height) :
    elementAt (cut width height xs) x y z = xs[x + width * (y + height * z)]? := by
  obtain ⟨-, planes⟩ := cut_lengths (Nat.zero_lt_of_lt hx) (Nat.zero_lt_of_lt hy) size
  have rows : ∀ row ∈ (cut width height xs).flatten, row.length = width := by
    intro row hrow
    obtain ⟨plane, hplane, hrow⟩ := List.mem_flatten.mp hrow
    exact (planes plane hplane).2 row hrow
  have whole := flatten_cut width height xs
  unfold elementAt
  calc _ = (cut width height xs).flatten.flatten[x + width * (y + height * z)]? := by
        rw [getElem?_flatten_of_forall hx rows,
          getElem?_flatten_of_forall hy fun plane hplane => (planes plane hplane).1]
        simp only [Option.bind_eq_bind, Option.bind_assoc]
    _ = _ := by rw [whole]

namespace Structured

open Json

/-! ### The texts of a document -/

/-- A number with the given numeral. -/
def NumberText (numeral t : Bytes) : Prop :=
  t = numeral ∧ ∃ isNegative p, Spells (.number isNegative p) t

def CoefficientText (c : Rgb) : Bytes → Prop := ListOf (fun c => NumberText c.spell) c.toList

/-- The triples of a record. The last one is there if it is not `+0.0` in every component, bit for
bit. -/
def triples (v : Voxel) : List Rgb :=
  [v.sigmaA, v.sigmaS] ++ if ∃ c ∈ v.emission.toList, c.bits ≠ 0 then [v.emission] else []

def RecordText (v : Voxel) : Bytes → Prop := ListOf CoefficientText (triples v)

/-- Planes of rows of records. -/
def GridText : List (List (List Voxel)) → Bytes → Prop := ListOf (ListOf (ListOf RecordText))

/-- An object with the three lengths of an extent and with planes of voxels, in this order. -/
def DocumentText (e : Extent) (planes : List (List (List Voxel))) : Bytes → Prop :=
  ObjectOf [("width", NumberText (Ascii.decimal e.width)),
    ("height", NumberText (Ascii.decimal e.height)),
    ("depth", NumberText (Ascii.decimal e.depth)), ("grid", GridText planes)]

section Texts

variable {c : Rgb} {v : Voxel} {l : Layout} {n : Nat}

theorem numberText_decimal (k : Nat) : NumberText (Ascii.decimal k) (Ascii.decimal k) := by
  have text := naturalParts_text k
  refine ⟨rfl, false, naturalParts k, ?_⟩
  rw [← text]
  exact .number (naturalParts_wellFormed k) (naturalParts k).isText_text

theorem numberText_spell {c : Single} (finite : c.isFinite = true) :
    NumberText c.spell c.spell := by
  obtain ⟨p, -, text, wellFormed, -⟩ := Single.spell_literal finite
  refine ⟨rfl, c.isNegative, p, ?_⟩
  rw [text]
  exact .number wellFormed p.isText_text

theorem coefficientText (finite : c.isFinite = true) :
    CoefficientText c ((coefficientTree c).textAt l n) := by
  obtain ⟨hr, hg, hb⟩ := Rgb.isFinite_iff.mp finite
  refine listOf_textAt (f := fun s : Single => .number s.spell) fun s hs => ?_
  rw [textAt_number]
  unfold Rgb.toList at hs
  simp only [List.mem_cons, List.not_mem_nil, or_false] at hs
  rcases hs with rfl | rfl | rfl
  · exact numberText_spell hr
  · exact numberText_spell hg
  · exact numberText_spell hb

theorem emits_iff (c : Rgb) : (∃ s ∈ c.toList, s.bits ≠ 0) ↔ c.isPositiveZero = false := by
  unfold Rgb.isPositiveZero Rgb.toList Single.isPositiveZero
  simp only [List.mem_cons, List.not_mem_nil, or_false, exists_eq_or_imp, exists_eq_left,
    Bool.and_eq_false_iff, decide_eq_false_iff_not, ne_eq, or_assoc]

theorem recordTree_eq (v : Voxel) : recordTree v = .list ((triples v).map coefficientTree) := by
  unfold recordTree triples
  cases zero : v.emission.isPositiveZero with
  | true =>
    have none : ¬ ∃ s ∈ v.emission.toList, s.bits ≠ 0 := by
      rw [emits_iff, zero]
      exact Bool.noConfusion
    rw [if_neg none]
    rfl
  | false =>
    rw [if_pos ((emits_iff v.emission).mpr zero)]
    rfl

theorem recordText (finite : v.isFinite = true) : RecordText v ((recordTree v).textAt l n) := by
  obtain ⟨ha, hs, he⟩ := Voxel.isFinite_iff.mp finite
  rw [recordTree_eq]
  refine listOf_textAt fun c hc => coefficientText ?_
  unfold triples at hc
  rcases List.mem_append.mp hc with hc | hc
  · simp only [List.mem_cons, List.not_mem_nil, or_false] at hc
    rcases hc with rfl | rfl
    · exact ha
    · exact hs
  · split at hc
    · cases List.mem_singleton.mp hc
      exact he
    · cases hc

theorem planesTree_eq (width height : Nat) (values : List Voxel) :
    planesTree width height values = .list ((cut width height values).map fun plane =>
      .list (plane.map fun row => .list (row.map recordTree))) := by
  unfold planesTree cut
  rw [List.map_map]
  rfl

theorem gridText {width height : Nat} {values : List Voxel}
    (finite : ∀ v ∈ values, v.isFinite = true) :
    GridText (cut width height values) ((planesTree width height values).textAt l n) := by
  rw [planesTree_eq]
  refine listOf_textAt fun plane hplane => listOf_textAt fun row hrow =>
    listOf_textAt fun v hv => recordText (finite v ?_)
  rw [← flatten_cut width height values]
  exact List.mem_flatten.mpr ⟨row, List.mem_flatten.mpr ⟨plane, hplane, hrow⟩, hv⟩

end Texts

/-! ### The document of a grid -/

variable {g : VoxelGrid} {l : Layout} {b : Bytes}

/-- The planes of a grid, as the encoder cuts them. -/
def planesOf (g : VoxelGrid) : List (List (List Voxel)) :=
  cut g.extent.width g.extent.height g.values.toList

/-- The lengths of a grid are not changed by being words. -/
theorem toNat_dimensions (positive : g.extent.Positive) :
    g.dimensions.width.toNat = g.extent.width ∧ g.dimensions.height.toNat = g.extent.height ∧
      g.dimensions.depth.toNat = g.extent.depth := by
  obtain ⟨hx, hy, hz⟩ := positive
  exact ⟨Coordinate.toNat_toUInt32 (Int.le_of_lt hx), Coordinate.toNat_toUInt32 (Int.le_of_lt hy),
    Coordinate.toNat_toUInt32 (Int.le_of_lt hz)⟩

/-- What the encoder writes is a document of the planes of the grid. -/
theorem documentText (positive : g.extent.Positive) (finite : ∀ v ∈ g.values, v.isFinite = true)
    (l : Layout) : DocumentText g.extent (planesOf g) ((tree g).text l) := by
  obtain ⟨width, height, depth⟩ := toNat_dimensions positive
  rw [tree_eq, width, height, depth, ← Tree.textAt_zero]
  have number (name : String) (k : Nat) (plain : PlainName name) :
      Member.IsWritten l 1 ⟨name, .number (Ascii.decimal k), NumberText (Ascii.decimal k)⟩ := by
    refine ⟨plain, ?_⟩
    rw [textAt_number]
    exact numberText_decimal k
  have grid : Member.IsWritten l 1
      ⟨"grid", planesTree g.extent.width g.extent.height g.values.toList, GridText (planesOf g)⟩ := by
    refine ⟨plainName_grid, gridText fun v hv => finite v ?_⟩
    exact Array.mem_toList_iff.mp hv
  refine @objectOf_textAt l 0 ⟨"width", _, _⟩ [⟨"height", _, _⟩, ⟨"depth", _, _⟩, ⟨"grid", _, _⟩] ?_
  simp only [List.forall_mem_cons]
  exact ⟨number _ _ plainName_width, number _ _ plainName_height, number _ _ plainName_depth, grid,
    nofun⟩

/-- The voxel at a place of the planes is the one that `get` returns at the point with those local
components. -/
theorem elementAt_planesOf (complete : g.Complete) {x y z : Nat} (hx : x < g.extent.width)
    (hy : y < g.extent.height) (hz : z < g.extent.depth) :
    ∃ v, elementAt (planesOf g) x y z = some v ∧ g.get (g.extent.pointOf x y z) = .ok v := by
  obtain ⟨top, bound⟩ := complete.bounded
  have size : g.values.toList.length = g.extent.width * g.extent.height * g.extent.depth :=
    complete.size_eq.trans g.extent.volume_eq
  have member := Extent.pointOf_mem bound hx hy hz
  have value := Grid.get_eq_valueAt complete member
  obtain ⟨-, stored⟩ := (Grid.get_eq_ok complete).mp value
  refine ⟨_, ?_, value⟩
  unfold planesOf
  rw [elementAt_cut size hx hy, Array.getElem?_toList, ← Extent.rank_pointOf bound hx hy hz, stored]

/-- The document of a grid, wherever the grid lies. Only a grid whose bound fits and whose coefficients
are finite has one, and as far as memory goes every such grid has. It is an object with the lengths and
as many planes of rows of records as they say, and the record at a place is that of the voxel at the
point with those local components. A writer with room for the document takes all of it, once memory
holds the spaces of one level. -/
theorem document_nesting (positive : g.extent.Positive)
    (counted : g.extent.pointCount = .ok g.values.size) (l : Layout) :
    ((∃ b, encode l g = .ok b) →
      (∃ top, g.extent.leastUpperBound = .ok top) ∧ ∀ v ∈ g.values, v.isFinite = true) ∧
    ((∃ top, g.extent.leastUpperBound = .ok top) ∧ (∀ v ∈ g.values, v.isFinite = true) →
      ∃ (b : Bytes) (planes : List (List (List Voxel))), Encodes l g b ∧
        DocumentText g.extent planes b ∧ planes.length = g.extent.depth ∧
        (∀ plane ∈ planes, plane.length = g.extent.height ∧
          ∀ row ∈ plane, row.length = g.extent.width) ∧
        (∀ x < g.extent.width, ∀ y < g.extent.height, ∀ z < g.extent.depth,
          ∃ (p : Point) (v : Voxel),
            (p.x.toInt = g.extent.minimum.x.toInt + x ∧ p.y.toInt = g.extent.minimum.y.toInt + y ∧
              p.z.toInt = g.extent.minimum.z.toInt + z) ∧
            g.get p = .ok v ∧ elementAt planes x y z = some v) ∧
        ∀ room, b.length ≤ room → write room l g =
          if l.Fits then .ok ⟨b, .ok ()⟩ else .error .capacityOverflow) := by
  obtain ⟨few, size⟩ := positive.pointCount_eq_ok.mp counted
  constructor
  · rintro ⟨b, made⟩
    exact (hasDocument_iff positive size).mp (hasDocument_of_encode made).1
  · rintro ⟨⟨top, bound⟩, finite⟩
    have complete : g.Complete := ⟨positive, ⟨top, bound⟩, size, size ▸ few⟩
    have document := hasDocument_of_finite complete finite
    have count : g.values.toList.length = g.extent.width * g.extent.height * g.extent.depth :=
      size.trans g.extent.volume_eq
    obtain ⟨depth, rows⟩ := cut_lengths positive.width_pos positive.height_pos count
    refine ⟨_, planesOf g, document.encodes l, documentText positive finite l, depth, rows, ?_, ?_⟩
    · intro x hx y hy z hz
      obtain ⟨v, place, value⟩ := elementAt_planesOf complete hx hy hz
      exact ⟨_, v, Extent.toInt_pointOf bound hx hy hz, value, place⟩
    · intro room long
      rw [document.write_eq, Written.ofPieces_of_fits long]
      rfl

/-- A grid with three different lengths away from the origin. Its records have two triples or three,
with a negative zero in some. -/
def displaced : VoxelGrid :=
  ⟨⟨⟨-2, 5, 7⟩, ⟨1, 2, 3⟩⟩, ⟨leastAndGreatest.values.toList.take 6⟩⟩

theorem complete_displaced : displaced.Complete :=
  ⟨⟨by decide, by decide, by decide⟩, ⟨_, rfl⟩, by decide, by decide⟩

theorem hasDocument_displaced : HasDocument displaced :=
  hasDocument_of_finite complete_displaced (by decide)

theorem short_displaced : ((tree displaced).text .compact).length ≤ Memory.assured := by
  decide +kernel

/-- The last record of a document is that of the last point. -/
theorem document_nesting_displaced :
    (displaced.extent.Positive ∧ displaced.extent.pointCount = .ok displaced.values.size) ∧
    ∃ b planes v, encode .compact displaced = .ok b ∧ DocumentText displaced.extent planes b ∧
      planes.length = 3 ∧ elementAt planes 0 1 2 = some v ∧ displaced.get ⟨-2, 6, 9⟩ = .ok v ∧
      (triples v).length = 3 ∧ write b.length .compact displaced = .ok ⟨b, .ok ()⟩ := by
  have positive := complete_displaced.positive
  have counted : displaced.extent.pointCount = .ok displaced.values.size := by decide
  have finite : ∀ v ∈ displaced.values, v.isFinite = true := by decide
  obtain ⟨b, planes, encodes, text, depth, -, places, delivered⟩ :=
    (document_nesting positive counted .compact).2 ⟨complete_displaced.bounded, finite⟩
  obtain ⟨p, v, ⟨x, y, z⟩, value, place⟩ := places 0 (by decide) 1 (by decide) 2 (by decide)
  have last : p = ⟨-2, 6, 9⟩ :=
    Point.ext (Coordinate.eq_of_toInt x) (Coordinate.eq_of_toInt y) (Coordinate.eq_of_toInt z)
  rw [last] at value
  have emits : displaced.get ⟨-2, 6, 9⟩ = .ok v → (triples v).length = 3 := by
    intro h
    have same : displaced.get ⟨-2, 6, 9⟩ = .ok displaced.values.toList[5] := by decide
    cases Except.ok.inj (same.symm.trans h)
    decide
  exact ⟨⟨positive, counted⟩, b, planes, v, encodes.eq_ok trivial short_displaced, text, depth,
    place, value, emits value, delivered b.length (Nat.le_refl _)⟩

/-- The grid has a compact text. Without memory for the spaces of one level it has no indented one, in
memory or in a sink. -/
theorem document_nesting_overwide :
    (displaced.extent.Positive ∧ displaced.extent.pointCount = .ok displaced.values.size) ∧
      (∃ b, encode .compact displaced = .ok b) ∧
      (∀ b, encode .overwide displaced ≠ .ok b) ∧
      ∀ room w, write room .overwide displaced ≠ .ok w := by
  have document := hasDocument_displaced
  exact ⟨⟨complete_displaced.positive, by decide⟩,
    ⟨_, (document.encodes .compact).eq_ok trivial short_displaced⟩, document.encode_overwide,
    document.write_overwide⟩

end Structured

end DenseMedium
