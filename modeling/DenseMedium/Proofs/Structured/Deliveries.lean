import DenseMedium.Proofs.Grid.Contents
import DenseMedium.Proofs.Stream.Deliveries
import DenseMedium.Proofs.Structured.Nesting

/-!
Structured writing into a sink that runs full.

* `firstNonFinite_of_eq_ok`: the point that a refusal names is the first in canonical order with a
  coefficient that has no numeral.
* `write_checks_first`: a grid with such a coefficient is refused before a byte is written. Of every
  other grid a sink takes the front of the document, whatever room it has, and writing ends well
  exactly when the room is enough. That takes memory for the spaces of one level.
-/

namespace DenseMedium

namespace Structured

open Json

variable {g : VoxelGrid} {l : Layout} {p : Point}

/-- The first point in canonical order whose voxel has a coefficient that is not finite. -/
structure FirstNonFinite (g : VoxelGrid) (p : Point) : Prop where
  here : ∃ v, g.get p = .ok v ∧ v.isFinite = false
  earlier : ∀ q ∈ g.extent, q.Before p → ∃ v, g.get q = .ok v ∧ v.isFinite = true

theorem firstNonFinite_of_eq_ok (hg : g.Full) (h : firstNonFinite? g = .ok (some p)) :
    FirstNonFinite g p := by
  obtain ⟨top, bound⟩ := hg.bounded
  obtain ⟨entries, listed, points, values⟩ := hg.entries_eq
  have sorted : (entries.map Prod.fst).Pairwise Point.Before :=
    points ▸ Extent.enumerate_sorted bound
  unfold firstNonFinite? at h
  rw [listed, ok_bind, pure_eq_ok, Except.ok.injEq, Option.map_eq_some_iff] at h
  obtain ⟨⟨p, v⟩, first, rfl⟩ := h
  obtain ⟨infinite, before, after, rfl, finite⟩ := List.find?_eq_some_iff_append.mp first
  refine ⟨⟨v, hg.get_eq_ok_iff.mpr (values (_, v) ?_), ?_⟩, ?_⟩
  · exact List.mem_append_right _ List.mem_cons_self
  · simpa using infinite
  · intro q hq sooner
    have member : q ∈ (before ++ (p, v) :: after).map Prod.fst :=
      points ▸ (Extent.mem_enumerate bound).mpr hq
    obtain ⟨⟨q, w⟩, hw, rfl⟩ := List.mem_map.mp member
    refine ⟨w, hg.get_eq_ok_iff.mpr (values (_, w) hw), ?_⟩
    -- Only the entries before that of `p` lie before it in canonical order.
    rw [List.map_append, List.map_cons, List.pairwise_append, List.pairwise_cons] at sorted
    rcases List.mem_append.mp hw with hw | hw
    · simpa using finite _ hw
    · rcases List.mem_cons.mp hw with same | hw
      · obtain ⟨rfl, -⟩ := Prod.mk.inj same
        exact absurd rfl sooner.ne
      · have later := sorted.2.1.1 _ (List.mem_map_of_mem hw)
        exact absurd sooner later.asymm

/-- A grid that has a coefficient without a numeral is refused before a byte is written. -/
theorem write_of_not_finite (hg : g.Full) (infinite : ∃ v ∈ g.values, v.isFinite = false) :
    ∃ p, FirstNonFinite g p ∧ encode l g = refuse (.schema (.nonFinite p)) ∧
      ∀ room, write room l g = .ok ⟨[], .error (.schema (.nonFinite p))⟩ := by
  rcases firstNonFinite?_cases hg.bounded with ⟨p, found⟩ | finite
  · exact ⟨p, firstNonFinite_of_eq_ok hg found, encode_of_refused found l,
      fun room => write_of_refused found room l⟩
  · obtain ⟨v, hv, notFinite⟩ := infinite
    rw [((firstNonFinite?_eq_none hg.size_eq).mp finite).2 v hv] at notFinite
    contradiction

/-- A grid with finite coefficients has a document, and writing it can be cut anywhere. -/
theorem write_of_finite (hg : g.Complete) (finite : ∀ v ∈ g.values, v.isFinite = true) (l : Layout) :
    ∃ text : String, Encodes l g (Utf8.bytes text) ∧
      (∀ room, write room l g =
        if l.Fits then .ok (.ofPieces room ((tree g).write l)) else .error .capacityOverflow) ∧
      CutAnywhere ((tree g).write l) (Utf8.bytes text) (.ofPieces · ((tree g).write l)) := by
  have document := hasDocument_of_finite hg finite
  obtain ⟨text, bytes⟩ := exists_text finite l
  refine ⟨text, ?_, fun room => document.write_eq room l, ?_⟩
  · rw [bytes]
    exact document.encodes l
  · rw [bytes]
    exact cutAnywhere ((tree g).write l)

/-- Writing checks the whole grid first. If some coefficient is not finite, the first voxel with one
is named and no sink has taken a byte. Otherwise a sink with any room takes the front of the document
that there is room for, in whichever portions, and only a sink that runs full makes an error. The
document is the one that is made in memory, as far as memory goes. If memory cannot hold the spaces of
one level, no sink is written to. -/
theorem write_checks_first (hg : g.Complete) (l : Layout) :
    ((∃ v ∈ g.values, v.isFinite = false) →
      ∃ p, FirstNonFinite g p ∧ encode l g = refuse (.schema (.nonFinite p)) ∧
        ∀ room, write room l g = .ok ⟨[], .error (.schema (.nonFinite p))⟩) ∧
    ((∀ v ∈ g.values, v.isFinite = true) →
      ∃ (text : String) (ending : Nat → Written), Encodes l g (Utf8.bytes text) ∧
        (∀ room, write room l g =
          if l.Fits then .ok (ending room) else .error .capacityOverflow) ∧
        CutAnywhere ((tree g).write l) (Utf8.bytes text) ending) := by
  constructor
  · exact write_of_not_finite hg.full
  · intro finite
    obtain ⟨text, encodes, written, cut⟩ := write_of_finite hg finite l
    exact ⟨text, _, encodes, written, cut⟩

/-- A row of three voxels away from the origin. The second is not a number in one channel, and the
third is infinite in another. -/
def unwritable : VoxelGrid :=
  ⟨⟨⟨-1, 4, 0⟩, ⟨3, 1, 1⟩⟩,
    #[.empty, ⟨⟨.nan, ⟨1⟩, ⟨2⟩⟩, .zero, .zero⟩, ⟨.zero, .zero, ⟨⟨3⟩, .negativeInfinity, ⟨4⟩⟩⟩]⟩

/-- One voxel without a medium. -/
def blank : VoxelGrid := ⟨⟨⟨-1, 4, 0⟩, ⟨1, 1, 1⟩⟩, #[.empty]⟩

theorem complete_blank : blank.Complete :=
  ⟨⟨by decide, by decide, by decide⟩, ⟨_, rfl⟩, by decide, by decide⟩

/-- The second voxel is named. The document of a grid without a medium is cut inside a key by a sink
with room for eight bytes. -/
theorem write_checks_first_unwritable :
    unwritable.Complete ∧ blank.Complete ∧ FirstNonFinite unwritable ⟨0, 4, 0⟩ ∧
      write 1000 .compact unwritable = .ok ⟨[], .error (.schema (.nonFinite ⟨0, 4, 0⟩))⟩ ∧
      ∃ w, write 8 (.pretty 2) blank = .ok w ∧ w.taken = Ascii.encode "\x7b\n  \"wid" ∧
        ∃ e, w.result = .error (.io e) := by
  have complete : unwritable.Complete :=
    ⟨⟨by decide, by decide, by decide⟩, ⟨_, rfl⟩, by decide, by decide⟩
  obtain ⟨p, first, -, refused⟩ := (write_checks_first complete .compact).1 (by decide)
  have named : firstNonFinite? unwritable = .ok (some ⟨0, 4, 0⟩) := by decide
  cases (write_of_refused named 1000 .compact).symm.trans (refused 1000)
  obtain ⟨text, ending, encodes, written, cut⟩ :=
    (write_checks_first complete_blank (.pretty 2)).2 (by decide)
  refine ⟨complete, complete_blank, first, refused 1000, ending 8, written 8, ?_, ?_⟩
  · rw [(cut.cutAt 8).taken_eq, encodes.text]
    decide +kernel
  · apply (cut.cutAt 8).result_eq_error
    rw [encodes.text]
    decide +kernel

/-- Without memory for the spaces of one level, a grid with finite coefficients has no document, and no
sink is written to. -/
theorem write_checks_first_overwide :
    blank.Complete ∧ (∀ v ∈ blank.values, v.isFinite = true) ∧
      (∀ b, encode .overwide blank ≠ .ok b) ∧ ∀ room w, write room .overwide blank ≠ .ok w := by
  have finite : ∀ v ∈ blank.values, v.isFinite = true := by decide
  have document := hasDocument_of_finite complete_blank finite
  exact ⟨complete_blank, finite, document.encode_overwide, document.write_overwide⟩

end Structured

end DenseMedium
