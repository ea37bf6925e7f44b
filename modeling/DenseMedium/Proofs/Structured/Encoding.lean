import DenseMedium.Proofs.Stream.Deliveries
import DenseMedium.Proofs.Stream.Memory
import DenseMedium.Proofs.Structured.Framing

/-!
What the writer of documents answers.

* `HasDocument`: a grid whose coefficients are finite and whose planes are not empty. `writing_eq`:
  all of its document is written, in every layout whose spaces fit in memory.
* `Encodes`: the document is made in memory as far as memory goes, and `HasDocument.encodes` says that
  it is. `HasDocument.write_eq`: a sink needs memory for the spaces of one level only.
* `hasDocument_of_encode`: no other grid has a document.
* `encode_of_refused`, `write_of_refused`: a voxel that is not finite is named before anything else.
-/

namespace DenseMedium

namespace Json.Layout

/-- Whether memory can hold the spaces of one level. -/
def Fits : Layout → Prop
  | .compact => True
  | .pretty indent => indent ≤ Size.maxBytes

instance : DecidablePred Fits
  | .compact => inferInstanceAs (Decidable True)
  | .pretty indent => inferInstanceAs (Decidable (indent ≤ Size.maxBytes))

theorem reserve_eq (l : Layout) :
    l.reserve = if l.Fits then .ok () else .error .capacityOverflow := by
  cases l with
  | compact => rfl
  | pretty indent =>
    change (if indent * 1 ≤ Size.maxBytes then _ else _) = if indent ≤ Size.maxBytes then _ else _
    rw [Nat.mul_one]

/-- A layout whose spaces of one level are one byte more than memory can hold. -/
def overwide : Layout := .pretty 9223372036854775808

theorem not_fits_overwide : ¬ overwide.Fits := by decide

end Json.Layout

namespace Structured

open Json

variable {g : VoxelGrid} {l : Layout} {b : Bytes} {p : Point}

/-- Whether `b` is the document of a grid and the encoder makes it as far as memory goes. It makes no
other and meets no other failure than that memory does not hold it. A buffer that doubles may ask for
more than the document takes: there is always room for `Memory.assured` bytes, and never for more
than one allocation holds. -/
structure Encodes (l : Layout) (g : VoxelGrid) (b : Bytes) : Prop where
  text : b = (tree g).text l
  made : l.Fits → b.length ≤ Memory.assured → encode l g = .ok b
  answer : encode l g = .ok b ∨ encode l g = .error (.fault .capacityOverflow)
  fits : encode l g = .ok b → l.Fits ∧ b.length ≤ Size.maxBytes

theorem Encodes.eq_ok (h : Encodes l g b) (fits : l.Fits)
    (short : ((tree g).text l).length ≤ Memory.assured) : encode l g = .ok b :=
  h.made fits (h.text ▸ short)

/-- Whether a grid passes the check of its coefficients and can be cut into planes and rows. -/
structure HasDocument (g : VoxelGrid) : Prop where
  finite : firstNonFinite? g = .ok none
  cuttable : isCuttable g = true

theorem hasDocument_iff (positive : g.extent.Positive) (size : g.values.size = g.extent.volume) :
    HasDocument g ↔
      (∃ top, g.extent.leastUpperBound = .ok top) ∧ ∀ v ∈ g.values, v.isFinite = true := by
  rw [← firstNonFinite?_eq_none size]
  exact ⟨HasDocument.finite, fun finite => ⟨finite, isCuttable_of_positive positive⟩⟩

/-- A complete grid with finite coefficients has a document. -/
theorem hasDocument_of_finite (complete : g.Complete) (finite : ∀ v ∈ g.values, v.isFinite = true) :
    HasDocument g :=
  (hasDocument_iff complete.positive complete.size_eq).mpr ⟨complete.bounded, finite⟩

theorem hasDocument_of_sound (sound : Sound g) : HasDocument g :=
  hasDocument_of_finite sound.complete sound.finite

/-! ### Writings -/

theorem prepare_of_finite (finite : firstNonFinite? g = .ok none) (l : Layout) :
    prepare l g = if l.Fits then .ok () else .error (.fault .capacityOverflow) := by
  unfold prepare
  rw [finite, lift_ok, ok_bind]
  dsimp only
  rw [Layout.reserve_eq]
  by_cases fits : l.Fits
  · rw [if_pos fits, if_pos fits, lift_ok]
  · rw [if_neg fits, if_neg fits]
    rfl

theorem writing_of_refused (refused : firstNonFinite? g = .ok (some p)) (l : Layout) :
    writing l g = .failed (.refused (.schema (.nonFinite p))) := by
  have unprepared : prepare l g = refuse (.schema (.nonFinite p)) := by
    unfold prepare
    rw [refused]
    rfl
  unfold writing
  rw [unprepared]
  rfl

theorem writing_of_not_fits (finite : firstNonFinite? g = .ok none) (large : ¬ l.Fits) :
    writing l g = .failed (.fault .capacityOverflow) := by
  unfold writing
  rw [prepare_of_finite finite, if_neg large]

theorem writing_of_fits (finite : firstNonFinite? g = .ok none) (fits : l.Fits) : writing l g =
    if isCuttable g then ⟨(tree g).write l, .ok ()⟩
    else ⟨opening l (dimensionMembers g.dimensions) gridKey, .error (.fault .emptyPiece)⟩ := by
  unfold writing
  rw [prepare_of_finite finite, if_pos fits]

theorem HasDocument.writing_eq (h : HasDocument g) (fits : l.Fits) :
    writing l g = ⟨(tree g).write l, .ok ()⟩ := by
  rw [writing_of_fits h.finite fits, if_pos h.cuttable]

/-- A writing that ends well is that of a whole document. -/
theorem hasDocument_of_ending (h : (writing l g).ending = .ok ()) : HasDocument g ∧ l.Fits := by
  cases checked : firstNonFinite? g with
  | error x =>
    unfold writing prepare at h
    rw [checked] at h
    cases h
  | ok found =>
    cases found with
    | some p =>
      rw [writing_of_refused checked] at h
      cases h
    | none =>
      by_cases fits : l.Fits
      · rw [writing_of_fits checked fits] at h
        cases cuttable : isCuttable g with
        | true => exact ⟨⟨checked, cuttable⟩, fits⟩
        | false =>
          rw [cuttable] at h
          cases h
      · rw [writing_of_not_fits checked fits] at h
        cases h

/-! ### Answers -/

/-- Only a grid that has a document is encoded, and as nothing else. -/
theorem hasDocument_of_encode (h : encode l g = .ok b) :
    HasDocument g ∧ l.Fits ∧ b = (tree g).text l ∧ b.length ≤ Size.maxBytes := by
  obtain ⟨ended, bytes, held⟩ := Writing.ending_of_collect h
  obtain ⟨document, fits⟩ := hasDocument_of_ending ended
  rw [document.writing_eq fits] at bytes
  exact ⟨document, fits, bytes, held⟩

theorem encode_of_not_fits (finite : firstNonFinite? g = .ok none) (large : ¬ l.Fits) :
    encode l g = .error (.fault .capacityOverflow) := by
  unfold encode
  rw [writing_of_not_fits finite large, Writing.collect_failed]

theorem HasDocument.encodes (h : HasDocument g) (l : Layout) : Encodes l g ((tree g).text l) := by
  have fits (made : encode l g = .ok ((tree g).text l)) :
      l.Fits ∧ ((tree g).text l).length ≤ Size.maxBytes := by
    obtain ⟨-, fits, -, held⟩ := hasDocument_of_encode made
    exact ⟨fits, held⟩
  by_cases room : l.Fits
  · refine ⟨rfl, fun _ short => ?_, ?_, fits⟩
    · unfold encode
      rw [h.writing_eq room]
      exact Writing.collect_of_short short
    · unfold encode
      rw [h.writing_eq room]
      exact Writing.collect_cases _
  · exact ⟨rfl, fun held => absurd held room, .inr (encode_of_not_fits h.finite room), fits⟩

theorem HasDocument.write_eq (h : HasDocument g) (room : Nat) (l : Layout) : write room l g =
    if l.Fits then .ok (.ofPieces room ((tree g).write l)) else .error .capacityOverflow := by
  unfold write
  by_cases fits : l.Fits
  · rw [if_pos fits, h.writing_eq fits, Writing.into_of_ok]
  · rw [if_neg fits, writing_of_not_fits h.finite fits, Writing.into_failed_fault]

/-- No document has levels wider than memory. -/
theorem HasDocument.encode_overwide (h : HasDocument g) (b : Bytes) : encode .overwide g ≠ .ok b := by
  rw [encode_of_not_fits h.finite Layout.not_fits_overwide]
  exact nofun

theorem HasDocument.write_overwide (h : HasDocument g) (room : Nat) (w : Written) :
    write room .overwide g ≠ .ok w := by
  rw [h.write_eq, if_neg Layout.not_fits_overwide]
  exact nofun

theorem encode_of_refused (refused : firstNonFinite? g = .ok (some p)) (l : Layout) :
    encode l g = refuse (.schema (.nonFinite p)) := by
  unfold encode
  rw [writing_of_refused refused, Writing.collect_failed]
  rfl

theorem write_of_refused (refused : firstNonFinite? g = .ok (some p)) (room : Nat) (l : Layout) :
    write room l g = .ok ⟨[], .error (.schema (.nonFinite p))⟩ := by
  unfold write
  rw [writing_of_refused refused, Writing.into_failed_refused]

end Structured

end DenseMedium
