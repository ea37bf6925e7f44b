import DenseMedium.Proofs.Coefficient.Reread
import DenseMedium.Proofs.Json.Ascii

/-!
The spelling of decimals as literals.

`Decimal.Literal` are the literals that a decimal is spelled with in documents: digits with their zeros
and a point, or one digit before the point and an exponent. `Single.spell_reads`: a finite coefficient
is read from its spelling as a double that rounds to the coefficient, whether the spelling stands alone
or anywhere in a document.
-/

namespace DenseMedium

open Ascii Json

/-! ### The value of a literal -/

namespace Json.NumberParts

variable {p : NumberParts} {n k : Nat}

/-- Digits that fit 64 bits all count. -/
theorem significand_eq (digits : accumulate 0 (p.whole ++ p.fraction) = n) (h : n < Size.bound) :
    p.significand = (n, -(p.fraction.length : Int)) := by
  rw [accumulate_append] at digits
  have whole := gather_eq (Nat.lt_of_le_of_lt (digits ▸ le_accumulate _ p.fraction) h)
  have fraction := gather_eq (digits ▸ h)
  unfold significand
  simp only [whole, fraction, digits]
  simp

theorem realWord_plain (digits : accumulate 0 (p.whole ++ p.fraction) = n) (h : n < Size.bound)
    (none : p.exponent = none) :
    p.realWord = scale (FloatFormat.double.ofNat n) (-(p.fraction.length : Int)) := by
  unfold realWord
  simp only [significand_eq digits h, none]

theorem realWord_exponent {isNegative : Bool}
    (digits : accumulate 0 (p.whole ++ p.fraction) = n) (h : n < Size.bound)
    (some : p.exponent = some (isNegative, digitList k)) (small : k ≤ exponentLimit) :
    p.realWord = scale (FloatFormat.double.ofNat n)
      (if isNegative then -(p.fraction.length : Int) - k else -(p.fraction.length : Int) + k) := by
  have written : exponentValue (digitList k) = k := accumulate_digitList k
  unfold realWord
  simp only [significand_eq digits h, some, written]
  rw [if_neg (Nat.not_lt.mpr small)]

theorem value_of_realWord {r : Nat} {isNegative : Bool} (real : p.isInteger = false)
    (word : p.realWord = some r) : p.value isNegative = some (.real ⟨isNegative, r⟩) := by
  unfold value
  simp [real, word]

end Json.NumberParts

namespace Decimal

open FloatFormat

variable {s : Decimal} {p : NumberParts} {w : Nat}

/-- The literals that decimals are spelled with in documents. -/
inductive Literal (s : Decimal) : NumberParts → Prop where
  /-- All digits before the point and a zero after it. -/
  | integer (k : Nat) (exponent : s.exponent = k) (small : k + (digitList s.digits).length ≤ 13) :
      Literal s ⟨digitList s.digits ++ List.replicate k 0, [0], none⟩
  /-- The point between the digits. -/
  | inside (front back : List Nat) (digits : digitList s.digits = front ++ back)
      (exponent : s.exponent = -(back.length : Int)) (hfront : front ≠ []) (hback : back ≠ []) :
      Literal s ⟨front, back, none⟩
  /-- All digits after the point. -/
  | below (k : Nat) (exponent : s.exponent = -((k + (digitList s.digits).length : Nat) : Int)) :
      Literal s ⟨[0], List.replicate k 0 ++ digitList s.digits, none⟩
  /-- One digit before the point, and an exponent. -/
  | scientific (d : Nat) (ds : List Nat) (digits : digitList s.digits = d :: ds) (lead : Int)
      (exponent : lead = s.exponent + ds.length) :
      Literal s ⟨[d], ds, some (lead < 0, digitList lead.natAbs)⟩

theorem fractionText_of_ne_nil {ds : List Nat} (h : ds ≠ []) :
    NumberParts.fractionText ds = point :: ds.map digit := by
  cases ds with
  | nil => contradiction
  | cons d ds => rfl

/-- A decimal whose leading digit is at a small exponent is spelled without an exponent. -/
theorem positional_literal (s : Decimal)
    (range : -6 ≤ s.exponent + (digitList s.digits).length - 1 ∧
      s.exponent + (digitList s.digits).length - 1 ≤ 12) :
    ∃ p, Literal s p ∧
      positional .document ((digitList s.digits).map digit) s.exponent = p.text := by
  have nonempty := digitList_ne_nil s.digits
  unfold positional
  split
  · refine ⟨_, .integer s.exponent.toNat (by omega) (by omega), ?_⟩
    simp [NumberParts.text, NumberParts.fractionText, NumberParts.exponentText, zeros,
      NumeralStyle.document, show digit 0 = zero from rfl]
  · simp only [List.length_map]
    split
    · have back : (digitList s.digits).drop
          ((digitList s.digits).length - s.exponent.natAbs) ≠ [] := by
        rw [ne_eq, List.drop_eq_nil_iff]
        omega
      refine ⟨_, .inside _ _ (List.take_append_drop _ _).symm ?_ ?_ back, ?_⟩
      · rw [List.length_drop]
        omega
      · rw [ne_eq, List.take_eq_nil_iff]
        rintro (none | none)
        · omega
        · exact nonempty none
      · simp [NumberParts.text, fractionText_of_ne_nil back, NumberParts.exponentText,
          List.map_take, List.map_drop]
    · refine ⟨_, .below (s.exponent.natAbs - (digitList s.digits).length) (by omega), ?_⟩
      have back : List.replicate (s.exponent.natAbs - (digitList s.digits).length) 0 ++
          digitList s.digits ≠ [] := List.append_ne_nil_of_right_ne_nil _ nonempty
      simp [NumberParts.text, fractionText_of_ne_nil back, NumberParts.exponentText, zeros,
        show digit 0 = zero from rfl]

/-- Any decimal can be spelled with an exponent. -/
theorem scientific_literal (s : Decimal) : ∃ p, Literal s p ∧
    scientific ((digitList s.digits).map digit)
      (s.exponent + (digitList s.digits).length - 1) = p.text := by
  obtain ⟨d, ds, digits⟩ := List.exists_cons_of_ne_nil (digitList_ne_nil s.digits)
  have lead : s.exponent + (digitList s.digits).length - 1 = s.exponent + ds.length := by
    rw [digits, List.length_cons]
    omega
  refine ⟨_, .scientific d ds digits _ rfl, ?_⟩
  rw [lead]
  unfold scientific
  rw [digits]
  cases ds with
  | nil => simp [NumberParts.text, NumberParts.fractionText, NumberParts.exponentText, decimal_eq]
  | cons d' ds =>
    simp [NumberParts.text, NumberParts.fractionText, NumberParts.exponentText, decimal_eq]

/-- Every decimal is spelled with one of these literals. -/
theorem spell_literal (s : Decimal) : ∃ p, Literal s p ∧ s.spell .document = p.text := by
  unfold spell
  simp only [decimal_eq, List.length_map]
  split
  · rename_i range
    refine positional_literal s ?_
    simpa [NumeralStyle.isPositional, NumeralStyle.document] using range
  · exact scientific_literal s

namespace Literal

theorem zeros_lt {k : Nat} : ∀ d ∈ List.replicate k 0, d < 10 := fun d hd => by
  rw [List.eq_of_mem_replicate hd]
  decide

/-- The literal of a decimal follows the grammar. -/
theorem wellFormed (h : Literal s p) (zero : s.digits = 0 → s.exponent = 0) : p.WellFormed := by
  have small := @lt_of_mem_digitList s.digits
  cases h with
  | integer k exponent _ =>
    refine ⟨?_, List.forall_mem_append.mpr ⟨small, zeros_lt⟩, fun front => ?_, by simp,
      fun x hx => by cases hx⟩
    · exact List.append_ne_nil_of_left_ne_nil (digitList_ne_nil _) _
    · rw [List.head?_append, Option.or_of_isSome
        (List.isSome_head?.mpr (digitList_ne_nil _))] at front
      have none := digitList_head front
      rw [show k = 0 by have := zero none; omega, none]
      decide +kernel
  | inside front back digits _ hfront hback =>
    rw [digits, List.forall_mem_append] at small
    refine ⟨hfront, small.1, fun first => ?_, small.2, fun x hx => by cases hx⟩
    have none : s.digits = 0 := digitList_head (by rw [digits, List.head?_append, first]; rfl)
    have single : (front ++ back).length = 1 := by
      rw [← digits, none, digitList, if_pos (by decide)]
      rfl
    have := List.length_pos_iff.mpr hfront
    have := List.length_pos_iff.mpr hback
    rw [List.length_append] at single
    omega
  | below k _ =>
    exact ⟨by simp, by simp, fun _ => rfl, List.forall_mem_append.mpr ⟨zeros_lt, small⟩,
      fun x hx => by cases hx⟩
  | scientific d ds digits lead _ =>
    rw [digits, List.forall_mem_cons] at small
    refine ⟨by simp, by simpa using small.1, fun first => ?_, small.2, fun x hx => ?_⟩
    · exact congrArg (fun d => [d]) (Option.some.inj first)
    · cases hx
      exact ⟨digitList_ne_nil _, lt_of_mem_digitList⟩

/-- A decimal is never spelled like an integer. -/
theorem isInteger (h : Literal s p) : p.isInteger = false := by
  cases h with
  | integer => rfl
  | inside front back _ _ _ hback => simp [NumberParts.isInteger, hback]
  | below => simp [NumberParts.isInteger, digitList_ne_nil]
  | scientific => simp [NumberParts.isInteger]

/-- The literal of a decimal that is safe to write is read to its word. -/
theorem reads (h : Literal s p) (safe : Rereads w s) :
    ∃ r, p.realWord = some r ∧ double.convert single r = w := by
  have fits : s.digits < Size.bound := Nat.lt_trans safe.digits_lt (by decide)
  have digits := accumulate_digitList s.digits
  cases h with
  | integer k exponent small =>
    have value : s.digits * 10 ^ k < 10 ^ 13 := by
      calc s.digits * 10 ^ k < 10 ^ (digitList s.digits).length * 10 ^ k :=
            Nat.mul_lt_mul_of_pos_right (lt_pow_length _) (Nat.pow_pos (by decide))
        _ ≤ 10 ^ 13 := by
            rw [← Nat.pow_add]
            exact Nat.pow_le_pow_right (by decide) (by omega)
    have all : accumulate 0 ((digitList s.digits ++ List.replicate k 0) ++ [0]) =
        s.digits * 10 ^ k * 10 := by
      simp [accumulate_append, digits, accumulate_zeros]
    rw [NumberParts.realWord_plain all (Nat.lt_of_lt_of_le (Nat.mul_lt_mul_of_pos_right value
      (by decide)) (by decide)) rfl]
    exact safe.reads_integer k exponent value
  | inside front back split exponent _ _ =>
    rw [NumberParts.realWord_plain (split ▸ digits) fits rfl, ← exponent]
    exact safe.reads
  | below k exponent =>
    have all : accumulate 0 ([0] ++ (List.replicate k 0 ++ digitList s.digits)) = s.digits := by
      simp [accumulate_append, digits, accumulate_zeros]
    rw [NumberParts.realWord_plain all fits rfl, List.length_append, List.length_replicate,
      ← exponent]
    exact safe.reads
  | scientific d ds split lead exponent =>
    have all : accumulate 0 ([d] ++ ds) = s.digits := by
      rw [List.singleton_append, ← split, digits]
    have length : (d :: ds).length ≤ 9 := split ▸ length_digitList_le safe.digits_lt
    have low := safe.exponent_ge
    have high := safe.exponent_le
    rw [List.length_cons] at length
    have limit : lead.natAbs ≤ NumberParts.exponentLimit := by
      unfold NumberParts.exponentLimit
      omega
    rw [NumberParts.realWord_exponent all fits rfl limit]
    have total : (if decide (lead < 0) = true then -(ds.length : Int) - lead.natAbs
        else -(ds.length : Int) + lead.natAbs) = s.exponent := by
      simp only [decide_eq_true_eq]
      split <;> omega
    rw [total]
    exact safe.reads

end Literal

end Decimal

/-! ### Coefficients -/

namespace Single

variable {c : Single}

/-- A coefficient is its sign and its word. -/
theorem ofWord_word (c : Single) : ofWord c.isNegative c.word = c := by
  have bits : (if c.isNegative then 2147483648 + c.word else c.word) = c.bits.toNat := by
    have := c.bits.toNat_lt
    unfold isNegative word
    simp only [decide_eq_true_eq]
    split <;> omega
  unfold ofWord
  rw [bits]
  exact Single.ext UInt32.ofNat_toNat

theorem spell_eq (c : Single) : c.spell =
    signed c.isNegative ((Decimal.shortest FloatFormat.single c.word).spell .document) := rfl

/-- A finite coefficient is spelled with a literal of the grammar whose double rounds to it. -/
theorem spell_literal (finite : c.isFinite = true) : ∃ (p : NumberParts) (d : Double),
    c.spell = signed c.isNegative p.text ∧ p.WellFormed ∧ p.value c.isNegative = some (.real d) ∧
      d.narrow = c := by
  have safe := Decimal.shortest_rereads (of_decide_eq_true finite)
  obtain ⟨p, literal, text⟩ := Decimal.spell_literal (Decimal.shortest FloatFormat.single c.word)
  obtain ⟨r, word, convert⟩ := literal.reads safe
  refine ⟨p, ⟨c.isNegative, r⟩, ?_, literal.wellFormed safe.zero,
    NumberParts.value_of_realWord literal.isInteger word, ?_⟩
  · rw [spell_eq, text]
  · unfold Double.narrow
    rw [convert]
    exact ofWord_word c

/-- The double that the spelling of a coefficient is read as, when it is read alone. -/
def asRead (c : Single) : Double :=
  match document double .complete c.spell with
  | .ok d => d
  | .error _ => .zero

/-- The spelling of a finite coefficient is read alone and anywhere in a document as one double, which
rounds to the coefficient. -/
theorem spell_reads (finite : c.isFinite = true) :
    document double .complete c.spell = .ok c.asRead ∧ Accepts double (.number c.spell) c.asRead ∧
      c.asRead.narrow = c := by
  obtain ⟨p, d, text, wellFormed, value, narrow⟩ := spell_literal finite
  have accepts : Accepts double (.number c.spell) d := by
    rw [text]
    exact accepts_number wellFormed value rfl
  have alone : document double .complete c.spell = .ok d := by
    have whole := document_text accepts .compact
    rwa [← Tree.textAt_zero, textAt_number] at whole
  have same : c.asRead = d := by
    unfold asRead
    rw [alone]
  rw [same]
  exact ⟨alone, accepts, narrow⟩

theorem isAscii_spell (finite : c.isFinite = true) : IsAscii c.spell := by
  obtain ⟨p, d, text, wellFormed, -⟩ := spell_literal finite
  rw [text]
  exact wellFormed.isAscii _

end Single

end DenseMedium
