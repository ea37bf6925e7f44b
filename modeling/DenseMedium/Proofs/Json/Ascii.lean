import DenseMedium.Proofs.Json.Objects

/-!
Documents are ASCII text.

Trees whose numerals and keys are ASCII have ASCII texts in every layout, and ASCII bytes are the bytes
of a string (`Ascii.bytes_decode`).
-/

namespace DenseMedium

namespace Ascii

variable {a b : Bytes}

/-- Whether all bytes are ASCII. -/
def IsAscii (b : Bytes) : Prop := ∀ c ∈ b, c.toNat < 0x80

instance (b : Bytes) : Decidable (IsAscii b) :=
  List.decidableBAll (fun c : UInt8 => c.toNat < 0x80) b

theorem isAscii_append : IsAscii (a ++ b) ↔ IsAscii a ∧ IsAscii b := List.forall_mem_append

theorem isAscii_cons {c : UInt8} : IsAscii (c :: b) ↔ c.toNat < 0x80 ∧ IsAscii b :=
  List.forall_mem_cons

theorem isAscii_nil : IsAscii [] := nofun

theorem utf8EncodeChar_ofNat {c : UInt8} (h : c.toNat < 0x80) :
    String.utf8EncodeChar (Char.ofNat c.toNat) = [c] := by
  have all : ∀ n < 0x80, String.utf8EncodeChar (Char.ofNat n) = [UInt8.ofNat n] := by decide
  rw [all _ h, UInt8.ofNat_toNat]

/-- ASCII bytes are the bytes of the string they stand for. -/
theorem bytes_decode (h : IsAscii b) : Utf8.bytes (decode b) = b := by
  unfold Utf8.bytes decode
  rw [String.toByteArray_ofList, List.utf8Encode, List.toList_data_toByteArray, List.flatMap_map]
  induction b with
  | nil => rfl
  | cons c b ih =>
    obtain ⟨hc, hb⟩ := isAscii_cons.mp h
    rw [List.flatMap_cons, ih hb, utf8EncodeChar_ofNat hc, List.singleton_append]

theorem isAscii_digits {ds : List Nat} (h : ∀ d ∈ ds, d < 10) : IsAscii (ds.map digit) := by
  have all : ∀ d < 10, (digit d).toNat < 0x80 := by decide
  intro c hc
  obtain ⟨d, hd, rfl⟩ := List.mem_map.mp hc
  exact all d (h d hd)

end Ascii

namespace Json

open Ascii

/-- A literal is ASCII. -/
theorem NumberParts.WellFormed.isAscii {p : NumberParts} (hp : p.WellFormed) (isNegative : Bool) :
    IsAscii (signed isNegative p.text) := by
  have fraction : IsAscii (fractionText p.fraction) := by
    have digits := isAscii_digits hp.fraction_lt
    cases hf : p.fraction with
    | nil => exact isAscii_nil
    | cons d ds => exact isAscii_cons.mpr ⟨by decide, hf ▸ digits⟩
  have exponent : IsAscii (exponentText p.exponent) := by
    cases hx : p.exponent with
    | none => exact isAscii_nil
    | some x =>
      have digits := isAscii_digits (hp.exponent x hx).2
      refine isAscii_cons.mpr ⟨by decide, isAscii_cons.mpr ⟨?_, digits⟩⟩
      cases x.1 <;> decide
  have text : IsAscii p.text := isAscii_append.mpr
    ⟨isAscii_digits hp.whole_lt, isAscii_append.mpr ⟨fraction, exponent⟩⟩
  cases isNegative with
  | true => exact isAscii_cons.mpr ⟨by decide, text⟩
  | false => exact text

/-- Whether the text of a tree is ASCII in every layout. -/
def Tree.IsAscii (t : Tree) : Prop := ∀ l n, Ascii.IsAscii (t.textAt l n)

theorem isAscii_number {numeral : Bytes} (h : Ascii.IsAscii numeral) :
    (Tree.number numeral).IsAscii := by
  intro l n
  rw [textAt_number]
  exact h

theorem isAscii_line (l : Layout) (n : Nat) : Ascii.IsAscii (l.lineText n) := by
  cases l with
  | compact => exact isAscii_nil
  | pretty indent =>
    intro c hc
    rw [lineText_pretty] at hc
    rcases List.mem_cons.mp hc with rfl | hc
    · decide
    · rw [List.eq_of_mem_replicate hc]
      decide

theorem isAscii_items {ts : List Tree} (h : ∀ t ∈ ts, t.IsAscii) (l : Layout) (n : Nat) :
    Ascii.IsAscii (itemsText l n ts) := by
  induction ts with
  | nil => exact isAscii_nil
  | cons t ts ih =>
    obtain ⟨ht, hts⟩ := List.forall_mem_cons.mp h
    have text := itemsText_cons (l := l) (n := n) (s := []) t ts
    rw [leadText_comma, List.append_nil, List.append_nil] at text
    rw [text]
    exact isAscii_cons.mpr ⟨by decide, isAscii_append.mpr ⟨isAscii_line l n,
      isAscii_append.mpr ⟨ht l n, ih hts⟩⟩⟩

theorem isAscii_list {ts : List Tree} (h : ∀ t ∈ ts, t.IsAscii) : (Tree.list ts).IsAscii := by
  intro l n
  have text := textAt_list (l := l) (n := n) (s := []) ts
  rw [List.append_nil] at text
  rw [text]
  refine isAscii_cons.mpr ⟨by decide, ?_⟩
  cases ts with
  | nil => exact isAscii_cons.mpr ⟨by decide, isAscii_nil⟩
  | cons t ts =>
    obtain ⟨ht, hts⟩ := List.forall_mem_cons.mp h
    have close : Ascii.IsAscii (l.lineText n ++ [Ascii.closeList]) :=
      isAscii_append.mpr ⟨isAscii_line l n, isAscii_cons.mpr ⟨by decide, isAscii_nil⟩⟩
    rw [insideText, leadText_first]
    exact isAscii_append.mpr ⟨isAscii_line l _, isAscii_append.mpr ⟨ht l _,
      isAscii_append.mpr ⟨isAscii_items hts l _, close⟩⟩⟩

/-- A key, its colon and its value. -/
theorem isAscii_key {name : String} {s : Bytes} (plain : PlainName name) (l : Layout)
    (h : Ascii.IsAscii s) : Ascii.IsAscii (quote :: l.keyText name s) := by
  have value : Ascii.IsAscii (l.afterColon s) := by
    cases l with
    | compact => exact h
    | pretty indent => exact isAscii_cons.mpr ⟨by decide, h⟩
  have letters : Ascii.IsAscii (encode name) := fun c hc => (plain.bytes c hc).2.2.2
  exact isAscii_cons.mpr ⟨by decide, isAscii_append.mpr ⟨letters, isAscii_cons.mpr ⟨by decide,
    isAscii_cons.mpr ⟨by decide, value⟩⟩⟩⟩

section Members

variable {m : String × Tree} {ms : List (String × Tree)}
  (h : ∀ m ∈ ms, PlainName m.1 ∧ m.2.IsAscii)

include h in
theorem isAscii_members (l : Layout) (n : Nat) : Ascii.IsAscii (membersText l n ms) := by
  induction ms with
  | nil => exact isAscii_nil
  | cons m ms ih =>
    obtain ⟨⟨plain, value⟩, others⟩ := List.forall_mem_cons.mp h
    have text := membersText_cons (l := l) (n := n) (s := []) m.1 m.2 ms
    rw [List.append_nil, List.append_nil] at text
    rw [text]
    exact isAscii_cons.mpr ⟨by decide, isAscii_append.mpr ⟨isAscii_line l n,
      isAscii_key plain l (isAscii_append.mpr ⟨value l n, ih others⟩)⟩⟩

theorem isAscii_object (h : ∀ x ∈ m :: ms, PlainName x.1 ∧ x.2.IsAscii) :
    (Tree.object (m :: ms)).IsAscii := by
  intro l n
  obtain ⟨⟨plain, value⟩, others⟩ := List.forall_mem_cons.mp h
  have text := textAt_object (l := l) (n := n) (s := []) m.1 m.2 ms
  rw [List.append_nil, leadText_first] at text
  rw [text]
  have close : Ascii.IsAscii (l.lineText n ++ [Ascii.closeObject]) :=
    isAscii_append.mpr ⟨isAscii_line l n, isAscii_cons.mpr ⟨by decide, isAscii_nil⟩⟩
  exact isAscii_cons.mpr ⟨by decide, isAscii_append.mpr ⟨isAscii_line l _,
    isAscii_key plain l (isAscii_append.mpr ⟨value l _,
      isAscii_append.mpr ⟨isAscii_members others l _, close⟩⟩)⟩⟩

end Members

end Json

end DenseMedium
