import DenseMedium.Proofs.Json.Indentation
import DenseMedium.Proofs.Structured.Encoding

/-!
The two layouts of a document.

* `tidy_tree`: the tree of any grid is tidy. No numeral and no key holds a byte that a layout adds or
  that ends a line.
* `pretty_eq_compact`: whether a grid has a document does not depend on the layout, as far as memory
  goes. An indented document is the compact one with spaces and newlines between its bytes, and every
  line of it stands at the depth of its brackets.
-/

namespace DenseMedium

open Ascii Json

/-! ### Numerals -/

theorem isWord_digits {ds : List Nat} (h : ∀ d ∈ ds, d < 10) : IsWord (ds.map digit) := by
  have all : ∀ d < 10, isInk (digit d) = true ∧ IsInner (digit d) := by decide
  intro b hb
  obtain ⟨d, hd, rfl⟩ := List.mem_map.mp hb
  exact all d (h d hd)

theorem isWord_append {a b : Bytes} (ha : IsWord a) (hb : IsWord b) : IsWord (a ++ b) :=
  List.forall_mem_append.mpr ⟨ha, hb⟩

theorem isWord_cons {b : UInt8} {s : Bytes} (hb : isInk b = true ∧ IsInner b) (hs : IsWord s) :
    IsWord (b :: s) :=
  List.forall_mem_cons.mpr ⟨hb, hs⟩

/-- A literal is one word. -/
theorem Json.NumberParts.isWord_text {p : NumberParts} (whole : ∀ d ∈ p.whole, d < 10)
    (fraction : ∀ d ∈ p.fraction, d < 10)
    (exponent : ∀ x, p.exponent = some x → ∀ d ∈ x.2, d < 10) : IsWord p.text := by
  refine isWord_append (isWord_digits whole) (isWord_append ?_ ?_)
  · have digits := isWord_digits fraction
    cases hf : p.fraction with
    | nil => exact nofun
    | cons d ds => exact isWord_cons (by decide) (hf ▸ digits)
  · cases hx : p.exponent with
    | none => exact nofun
    | some x =>
      have digits := isWord_digits (exponent x hx)
      refine isWord_cons (by decide) (isWord_cons ?_ digits)
      cases x.1 <;> decide

/-- The digits of a literal that a decimal is spelled with are digits. -/
theorem Decimal.Literal.isWord_text {s : Decimal} {p : NumberParts} (h : Literal s p) :
    IsWord p.text := by
  have small := @lt_of_mem_digitList s.digits
  cases h with
  | integer k _ _ =>
    exact NumberParts.isWord_text (List.forall_mem_append.mpr ⟨small, zeros_lt⟩) (by simp) nofun
  | inside front back digits _ _ _ =>
    rw [digits, List.forall_mem_append] at small
    exact NumberParts.isWord_text small.1 small.2 nofun
  | below k _ =>
    exact NumberParts.isWord_text (by simp) (List.forall_mem_append.mpr ⟨zeros_lt, small⟩) nofun
  | scientific d ds digits lead _ =>
    rw [digits, List.forall_mem_cons] at small
    refine NumberParts.isWord_text (List.forall_mem_singleton.mpr small.1) small.2 ?_
    intro x hx
    cases hx
    exact lt_of_mem_digitList

theorem Decimal.Literal.text_ne_nil {s : Decimal} {p : NumberParts} (h : Literal s p) :
    p.text ≠ [] := by
  have whole : p.whole ≠ [] := by
    cases h with
    | integer k _ _ => exact List.append_ne_nil_of_left_ne_nil (digitList_ne_nil _) _
    | inside front back _ _ hfront _ => exact hfront
    | below k _ => exact List.cons_ne_nil _ _
    | scientific d ds _ lead _ => exact List.cons_ne_nil _ _
  exact List.append_ne_nil_of_left_ne_nil (mt List.map_eq_nil_iff.mp whole) _

namespace Structured

variable {g : VoxelGrid} {l : Layout} {b : Bytes}

theorem tidy_spell (c : Single) : (Tree.number c.spell).Tidy := by
  obtain ⟨p, literal, text⟩ := Decimal.spell_literal (Decimal.shortest FloatFormat.single c.word)
  have word := literal.isWord_text
  rw [Single.spell_eq, text]
  cases c.isNegative with
  | true => exact tidy_number nofun (isWord_cons (by decide) word)
  | false => exact tidy_number literal.text_ne_nil word

theorem tidy_decimal (n : Nat) : (Tree.number (decimal n)).Tidy := by
  rw [decimal_eq]
  refine tidy_number ?_ (isWord_digits lt_of_mem_digitList)
  rw [ne_eq, List.map_eq_nil_iff]
  exact digitList_ne_nil n

/-! ### Documents -/

theorem tidy_coefficient (c : Rgb) : (coefficientTree c).Tidy :=
  tidy_list (List.forall_mem_map.mpr fun s _ => tidy_spell s)

theorem tidy_record (v : Voxel) : (recordTree v).Tidy := by
  have two : ∀ t ∈ [coefficientTree v.sigmaA, coefficientTree v.sigmaS], t.Tidy :=
    List.forall_mem_cons.mpr ⟨tidy_coefficient _, List.forall_mem_singleton.mpr (tidy_coefficient _)⟩
  unfold recordTree
  dsimp only
  split
  · exact tidy_list two
  · exact tidy_list (List.forall_mem_append.mpr
      ⟨two, List.forall_mem_singleton.mpr (tidy_coefficient _)⟩)

theorem tidy_tree (g : VoxelGrid) : (tree g).Tidy := by
  have grid : (planesTree g.dimensions.width.toNat g.dimensions.height.toNat g.values.toList).Tidy :=
    tidy_list (List.forall_mem_map.mpr fun plane _ => tidy_list (List.forall_mem_map.mpr fun row _ =>
      tidy_list (List.forall_mem_map.mpr fun v _ => tidy_record v)))
  have keys : ∀ name ∈ ["width", "height", "depth", "grid"], IsWord (Ascii.encode name) := by decide
  rw [tree_eq]
  apply tidy_object
  simp only [List.forall_mem_cons] at keys ⊢
  obtain ⟨width, height, depth, planes, -⟩ := keys
  exact ⟨⟨width, tidy_decimal _⟩, ⟨height, tidy_decimal _⟩, ⟨depth, tidy_decimal _⟩,
    ⟨planes, grid⟩, nofun⟩

/-- The indented document of a grid is its compact one with spaces and newlines in between, and every
line of it starts with the spaces of its nesting depth. As far as memory goes, a grid that has a
document in one layout has both. -/
theorem pretty_eq_compact (h : encode l g = .ok b) (indent : Nat) : ∃ p c,
    Encodes (.pretty indent) g p ∧ Encodes .compact g c ∧ ink p = c ∧ IsIndented indent p := by
  have document := (hasDocument_of_encode h).1
  have tidy := tidy_tree g
  exact ⟨_, _, document.encodes (.pretty indent), document.encodes .compact,
    tidy.ink_eq indent 0 0, tidy.isIndented indent⟩

/-- One voxel that emits. -/
def lamp : VoxelGrid := ⟨⟨⟨-1, 4, 0⟩, ⟨1, 1, 1⟩⟩, #[⟨.zero, .zero, .splat ⟨0x3f800000⟩⟩]⟩

theorem hasDocument_lamp : HasDocument lamp :=
  hasDocument_of_finite ⟨⟨by decide, by decide, by decide⟩, ⟨_, rfl⟩, by decide, by decide⟩ (by decide)

/-- The first member of the indented document stands at depth one, and all its lines make the compact
document. -/
theorem pretty_eq_compact_lamp : ∃ b p c,
    encode (.pretty 2) lamp = .ok b ∧ encode (.pretty 3) lamp = .ok p ∧
      encode .compact lamp = .ok c ∧ ink p = c ∧ IsIndented 3 p ∧
      p.take 15 = Ascii.encode "\x7b\n   \"width\": 1" ∧
      c = Ascii.encode "\x7b\"width\":1,\"height\":1,\"depth\":1,\"grid\":" ++
        Ascii.encode "[[[[[0.0,0.0,0.0],[0.0,0.0,0.0],[1.0,1.0,1.0]]]]]\x7d" := by
  have written := (hasDocument_lamp.encodes (.pretty 2)).eq_ok (by decide) (by decide +kernel)
  obtain ⟨p, c, pretty, compact, same, indented⟩ := pretty_eq_compact written 3
  refine ⟨_, p, c, written, pretty.eq_ok (by decide) (by decide +kernel),
    compact.eq_ok trivial (by decide +kernel), same, indented, ?_, ?_⟩
  · rw [pretty.text]
    decide +kernel
  · rw [compact.text]
    decide +kernel

/-- A grid that has a compact document has none whose levels are wider than memory. -/
theorem pretty_eq_compact_overwide : ∃ c, encode .compact lamp = .ok c ∧
    ¬ ∃ p, encode (.pretty 9223372036854775808) lamp = .ok p ∧ ink p = c := by
  refine ⟨_, (hasDocument_lamp.encodes .compact).eq_ok trivial (by decide +kernel), ?_⟩
  rintro ⟨p, made, -⟩
  exact hasDocument_lamp.encode_overwide p made

end Structured

end DenseMedium
