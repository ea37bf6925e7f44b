import DenseMedium.Proofs.Structured.Encoding

/-!
Writing and decoding structured documents.

* `text_framing`: every layout of a grid decodes to one grid of the same extent, in which each
  coefficient is what the number reader makes of its own spelling, read alone. No voxel, channel or
  component is moved, dropped or influenced by another.
* `text_round_trip`: since a finite coefficient is reread to itself, that grid is the one that was
  written, bit for bit. Hence a decoded grid is also what its own text decodes to.

Both say of the texts that the encoder makes them as far as memory goes.
-/

namespace DenseMedium

/-! ### Voxels by themselves -/

/-- What the number reader makes of the spelling of a coefficient alone, in single precision. -/
def Single.reread (c : Single) : Except Json.ReadError Single :=
  (Json.document Json.double .complete c.spell).map Double.narrow

def Rgb.reread (c : Rgb) : Except Json.ReadError Rgb := do
  let r ← c.r.reread
  let g ← c.g.reread
  let b ← c.b.reread
  return ⟨r, g, b⟩

/-- A voxel whose coefficients are reread one by one. An emission that is left out reads as zeros. -/
def Voxel.reread (v : Voxel) : Except Json.ReadError Voxel := do
  let sigmaA ← v.sigmaA.reread
  let sigmaS ← v.sigmaS.reread
  let emission ← if v.emission.isPositiveZero then pure Rgb.zero else v.emission.reread
  return ⟨sigmaA, sigmaS, emission⟩

def Voxel.coefficients (v : Voxel) : List Single :=
  v.sigmaA.toList ++ v.sigmaS.toList ++ v.emission.toList

theorem Rgb.reread_eq_self {c : Rgb} (h : ∀ s ∈ c.toList, s.reread = .ok s) : c.reread = .ok c := by
  simp only [toList, List.forall_mem_cons] at h
  obtain ⟨hr, hg, hb, -⟩ := h
  unfold reread
  rw [hr, hg, hb]
  rfl

/-- A voxel is reread to itself when each of its coefficients is. -/
theorem Voxel.reread_eq_self {v : Voxel} (h : ∀ s ∈ v.coefficients, s.reread = .ok s) :
    v.reread = .ok v := by
  simp only [coefficients, List.forall_mem_append] at h
  obtain ⟨⟨ha, hs⟩, he⟩ := h
  unfold reread
  rw [Rgb.reread_eq_self ha, Rgb.reread_eq_self hs, Rgb.reread_eq_self he]
  split
  · rename_i zero
    rw [← Rgb.eq_zero_of_isPositiveZero zero]
    rfl
  · rfl

namespace Structured

theorem reread_eq_asRead {c : Rgb} (finite : c.isFinite = true) :
    c.reread = .ok (Components.asRead c).narrow := by
  obtain ⟨hr, hg, hb⟩ := Rgb.isFinite_iff.mp finite
  unfold Rgb.reread Single.reread
  rw [(Single.spell_reads hr).1, (Single.spell_reads hg).1, (Single.spell_reads hb).1]
  rfl

/-- The voxel that is read for a voxel of a document is the voxel reread by itself. -/
theorem voxel_reread_eq_asRead {v : Voxel} (finite : v.isFinite = true) :
    v.reread = .ok (RawRecord.asRead v).narrow := by
  obtain ⟨ha, hs, he⟩ := Voxel.isFinite_iff.mp finite
  unfold Voxel.reread RawRecord.asRead
  rw [reread_eq_asRead ha, reread_eq_asRead hs, reread_eq_asRead he]
  split
  · rw [← Components.narrow_zero]
    rfl
  · rfl

/-! ### Grids -/

variable {g : VoxelGrid}

/-- The two texts of the grid with a coefficient near a midpoint are not too long for memory. -/
theorem short_nearMidpoint :
    ((tree nearMidpoint).text .compact).length ≤ Memory.assured ∧
      ((tree nearMidpoint).text (.pretty 3)).length ≤ Memory.assured := by
  decide +kernel

/-- Every text of a full grid at the origin with finite coefficients decodes to one grid of the same
extent, in which each voxel is the one at its place reread by itself. It is the grid itself if every
coefficient is reread to itself. There is a text in every layout, as far as memory goes. -/
theorem text_framing (sound : Sound g) : ∃ g' : VoxelGrid, g'.extent = g.extent ∧
    (∀ l, ∃ text, Encodes l g (Utf8.bytes text) ∧ decode text = .ok g') ∧
    (∀ p ∈ g.extent, ∃ v v', g.get p = .ok v ∧ g'.get p = .ok v' ∧ v.reread = .ok v') ∧
    ((∀ v ∈ g.values, ∀ c ∈ v.coefficients, c.reread = .ok c) → g' = g) := by
  refine ⟨g.map fun v => (RawRecord.asRead v).narrow, rfl, ?_, ?_, ?_⟩
  · intro l
    obtain ⟨text, bytes⟩ := exists_text sound.finite l
    exact ⟨text, bytes ▸ (hasDocument_of_sound sound).encodes l, decode_text sound bytes⟩
  · intro p hp
    have value := Grid.get_eq_valueAt sound.complete hp
    have stored := ((Grid.get_eq_ok sound.complete).mp value).2
    exact ⟨_, _, value, Grid.get_map _ value,
      voxel_reread_eq_asRead (sound.finite _ (Array.mem_of_getElem? stored))⟩
  · intro same
    refine Grid.map_eq_self fun v hv => ?_
    have alone := voxel_reread_eq_asRead (sound.finite v hv)
    rw [Voxel.reread_eq_self (same v hv)] at alone
    exact (Except.ok.inj alone).symm

/-- A grid with an omitted and a negative zero emission, in compact and in indented layout. -/
theorem text_framing_both_layouts : Sound nearMidpoint ∧
    ∃ (g : VoxelGrid) (compact pretty : String),
      (encode .compact nearMidpoint = .ok (Utf8.bytes compact) ∧ decode compact = .ok g) ∧
      (encode (.pretty 3) nearMidpoint = .ok (Utf8.bytes pretty) ∧ decode pretty = .ok g) ∧
      ∀ p ∈ nearMidpoint.extent,
        ∃ v v', nearMidpoint.get p = .ok v ∧ g.get p = .ok v' ∧ v.reread = .ok v' := by
  obtain ⟨inline, indented⟩ := short_nearMidpoint
  obtain ⟨g, -, texts, voxels, -⟩ := text_framing sound_nearMidpoint
  obtain ⟨compact, encodes, decoded⟩ := texts .compact
  obtain ⟨pretty, encodes', decoded'⟩ := texts (.pretty 3)
  exact ⟨sound_nearMidpoint, g, compact, pretty, ⟨encodes.eq_ok trivial inline, decoded⟩,
    ⟨encodes'.eq_ok (by decide) indented, decoded'⟩, voxels⟩

/-- Without memory for the spaces of one level, a grid has no text that could be decoded. -/
theorem text_framing_overwide : Sound nearMidpoint ∧
    ¬ ∃ text g, encode .overwide nearMidpoint = .ok (Utf8.bytes text) ∧ decode text = .ok g := by
  refine ⟨sound_nearMidpoint, ?_⟩
  rintro ⟨text, g, made, -⟩
  exact (hasDocument_of_sound sound_nearMidpoint).encode_overwide _ made

/-- The structured form is exact: every text of a full grid at the origin with finite coefficients
decodes to the grid, bit for bit, and so a decoded grid is what each of its own texts decodes to. As
far as memory goes, there is one in every layout. -/
theorem text_round_trip (l : Json.Layout) :
    (∀ g : VoxelGrid, Sound g →
      ∃ text, Encodes l g (Utf8.bytes text) ∧ decode text = .ok g) ∧
    ∀ (text : String) (g : VoxelGrid), decode text = .ok g →
      ∃ text', Encodes l g (Utf8.bytes text') ∧ decode text' = .ok g := by
  have exactly (g : VoxelGrid) (sound : Sound g) :
      ∃ text, Encodes l g (Utf8.bytes text) ∧ decode text = .ok g := by
    obtain ⟨text, bytes⟩ := exists_text sound.finite l
    refine ⟨text, bytes ▸ (hasDocument_of_sound sound).encodes l, ?_⟩
    rw [decode_text sound bytes, Grid.map_eq_self fun v hv => RawRecord.narrow_asRead (sound.finite v hv)]
  exact ⟨exactly, fun text g decoded => exactly g (sound_of_decodeBytes decoded)⟩

/-- A coefficient whose spelling is nearest to a double that rounds to another coefficient comes back
from an indented text, and the grid of that text from a compact one. -/
theorem text_round_trip_near_midpoint : Sound nearMidpoint ∧ ∃ text,
    encode (.pretty 3) nearMidpoint = .ok (Utf8.bytes text) ∧ decode text = .ok nearMidpoint ∧
      ∃ text', encode .compact nearMidpoint = .ok (Utf8.bytes text') ∧
        decode text' = .ok nearMidpoint := by
  obtain ⟨inline, indented⟩ := short_nearMidpoint
  obtain ⟨text, encodes, decoded⟩ := (text_round_trip (.pretty 3)).1 _ sound_nearMidpoint
  obtain ⟨text', encodes', decoded'⟩ := (text_round_trip .compact).2 text _ decoded
  exact ⟨sound_nearMidpoint, text, encodes.eq_ok (by decide) indented, decoded,
    text', encodes'.eq_ok trivial inline, decoded'⟩

/-- A grid with finite coefficients is not written at an indentation that memory cannot hold. -/
theorem text_round_trip_overwide : Sound nearMidpoint ∧
    ¬ ∃ text, encode .overwide nearMidpoint = .ok (Utf8.bytes text) := by
  refine ⟨sound_nearMidpoint, ?_⟩
  rintro ⟨text, made⟩
  exact (hasDocument_of_sound sound_nearMidpoint).encode_overwide _ made

end Structured

end DenseMedium
