import DenseMedium.Binary.Codec
import DenseMedium.Proofs.Steps
import Mathlib.Data.List.Basic

/-!
Words, records and bodies as bytes.

Reading is described by what stands at the front of the bytes, so that each law is an equation of
byte strings and the readers are never opened again.

* `LittleEndian.decode?_eq_some`: a word is read exactly where its encoding stands. The encoding
  covers every four bytes, so no word and no byte is lost.
* `Record.Lawful` says the same of a record, up to the fourth word of each vector: `clearPadding`
  sets those words to zero, and a record is read exactly where bytes stand that become its encoding.
* `Binary.readRecords_eq_some`: a body is read as the values whose encodings make up its bytes with
  the padding cleared. `Binary.read?_of_readRecords`: record number `i` of it starts at `i` times the
  size of a record.
-/

namespace DenseMedium

/-! ### Words -/

namespace LittleEndian

variable {w : UInt32} {s rest : Bytes}

@[simp] theorem length_encode (w : UInt32) : (encode w).length = 4 := rfl

theorem toNat_ofBytes (a b c d : UInt8) :
    (ofBytes a b c d).toNat = a.toNat + 256 * b.toNat + 65536 * c.toNat + 16777216 * d.toNat := by
  have ha := a.toNat_lt
  have hb := b.toNat_lt
  have hc := c.toNat_lt
  have hd := d.toNat_lt
  unfold ofBytes
  rw [UInt32.toNat_ofNat', Nat.mod_eq_of_lt (by omega)]

theorem encode_ofBytes (a b c d : UInt8) : encode (ofBytes a b c d) = [a, b, c, d] := by
  have ha := a.toNat_lt
  have hb := b.toNat_lt
  have hc := c.toNat_lt
  have hd := d.toNat_lt
  unfold encode
  rw [toNat_ofBytes]
  simp only [List.cons.injEq, and_true, ← UInt8.toNat_inj, UInt8.toNat_ofNat']
  omega

theorem decode?_encode_append (w : UInt32) (rest : Bytes) :
    decode? (encode w ++ rest) = some (w, rest) := by
  have hw := w.toNat_lt
  change some (ofBytes _ _ _ _, rest) = some (w, rest)
  rw [Option.some.injEq, Prod.mk.injEq, ← UInt32.toNat_inj, toNat_ofBytes]
  simp only [UInt8.toNat_ofNat', and_true]
  omega

/-- A word is read exactly where its four bytes stand. -/
theorem decode?_eq_some : decode? s = some (w, rest) ↔ s = encode w ++ rest := by
  constructor
  · intro h
    unfold decode? at h
    split at h
    · rename_i a b c d r
      obtain ⟨rfl, rfl⟩ := Prod.mk.inj (Option.some.inj h)
      rw [encode_ofBytes]
      rfl
    · contradiction
  · rintro rfl
    exact decode?_encode_append w rest

/-- Four bytes are a word. -/
theorem exists_eq_encode_append (h : 4 ≤ s.length) : ∃ w rest, s = encode w ++ rest := by
  rcases s with _ | ⟨a, _ | ⟨b, _ | ⟨c, _ | ⟨d, rest⟩⟩⟩⟩
  · simp at h
  · simp at h
  · simp at h
  · simp at h
  · exact ⟨ofBytes a b c d, rest, by rw [encode_ofBytes]; rfl⟩

end LittleEndian

/-! ### Padding -/

/-- Whether the byte at an offset inside a body belongs to the fourth word of its vector. -/
def IsPadding (i : Nat) : Prop := 12 ≤ i % Rgb.vectorSize

instance (i : Nat) : Decidable (IsPadding i) := inferInstanceAs (Decidable (_ ≤ _))

/-- The bytes of a body with zeros for the fourth word of each vector. -/
def clearPadding (s : Bytes) : Bytes := s.mapIdx fun i c => if IsPadding i then 0 else c

@[simp] theorem length_clearPadding (s : Bytes) : (clearPadding s).length = s.length :=
  List.length_mapIdx

/-- Whole vectors in front leave the offsets inside a vector as they are. -/
theorem clearPadding_append {s : Bytes} (h : Rgb.vectorSize ∣ s.length) (t : Bytes) :
    clearPadding (s ++ t) = clearPadding s ++ clearPadding t := by
  obtain ⟨k, hk⟩ := h
  unfold clearPadding
  rw [List.mapIdx_append]
  have shift (i : Nat) : IsPadding (i + s.length) ↔ IsPadding i := by
    simp only [IsPadding, hk, Nat.add_mul_mod_self_left]
  simp only [shift]

/-- Bytes that become two strings, the first of whole vectors, are cut accordingly. -/
theorem exists_append_of_clearPadding_eq {s a b : Bytes} (ha : Rgb.vectorSize ∣ a.length)
    (h : clearPadding s = a ++ b) :
    ∃ front rest, s = front ++ rest ∧ clearPadding front = a ∧ clearPadding rest = b := by
  have len := congrArg List.length h
  rw [length_clearPadding, List.length_append] at len
  have front_length : (s.take a.length).length = a.length := by
    rw [List.length_take]
    omega
  refine ⟨s.take a.length, s.drop a.length, (List.take_append_drop _ _).symm, ?_⟩
  rw [← List.take_append_drop a.length s, clearPadding_append (by rwa [front_length])] at h
  exact List.append_inj h (by rw [length_clearPadding, front_length])

/-! ### Records -/

/-- A record whose encoding consists of whole vectors and is read back from any bytes that agree
with it outside the padding. In memory a cell takes no more room than its record. -/
class Record.Lawful (α : Type) [Record α] [Cell α] : Prop where
  size_pos : 0 < Record.size α
  vector_dvd_size : Rgb.vectorSize ∣ Record.size α
  width_le_size : Cell.width α ≤ Record.size α
  length_encode (v : α) : (Record.encode v).length = Record.size α
  clearPadding_encode (v : α) : clearPadding (Record.encode v) = Record.encode v
  read?_eq_some {s rest : Bytes} {v : α} : Record.read? s = some (v, rest) ↔
    ∃ front, s = front ++ rest ∧ clearPadding front = Record.encode v
  read?_eq_none {s : Bytes} : Record.read? (α := α) s = none ↔ s.length < Record.size α

namespace Rgb

variable {c : Rgb} {s rest : Bytes}

theorem encode_eq (c : Rgb) : Record.encode c = LittleEndian.encode c.r.bits ++
    (LittleEndian.encode c.g.bits ++ (LittleEndian.encode c.b.bits ++ LittleEndian.encode 0)) := rfl

/-- A vector is read exactly where its three words stand with any fourth one. -/
theorem read?_eq_some : read? s = some (c, rest) ↔ ∃ pad, s = LittleEndian.encode c.r.bits ++
    (LittleEndian.encode c.g.bits ++
      (LittleEndian.encode c.b.bits ++ (LittleEndian.encode pad ++ rest))) := by
  simp only [read?, Option.bind_eq_bind, Option.bind_eq_some_iff, Option.pure_def, Prod.exists,
    LittleEndian.decode?_eq_some, Option.some.injEq, Prod.mk.injEq]
  constructor
  · rintro ⟨r, _, rfl, g, _, rfl, b, _, rfl, pad, _, rfl, rfl, rfl⟩
    exact ⟨pad, rfl⟩
  · rintro ⟨pad, rfl⟩
    exact ⟨_, _, rfl, _, _, rfl, _, _, rfl, pad, _, rfl, rfl, rfl⟩

/-- Sixteen bytes are four words. -/
theorem exists_words (h : vectorSize ≤ s.length) : ∃ (c : Rgb) (pad : UInt32) (rest : Bytes),
    s = LittleEndian.encode c.r.bits ++ (LittleEndian.encode c.g.bits ++
      (LittleEndian.encode c.b.bits ++ (LittleEndian.encode pad ++ rest))) := by
  unfold vectorSize at h
  obtain ⟨r, s, rfl⟩ := LittleEndian.exists_eq_encode_append (s := s) (by omega)
  rw [List.length_append, LittleEndian.length_encode] at h
  obtain ⟨g, s, rfl⟩ := LittleEndian.exists_eq_encode_append (s := s) (by omega)
  rw [List.length_append, LittleEndian.length_encode] at h
  obtain ⟨b, s, rfl⟩ := LittleEndian.exists_eq_encode_append (s := s) (by omega)
  rw [List.length_append, LittleEndian.length_encode] at h
  obtain ⟨pad, rest, rfl⟩ := LittleEndian.exists_eq_encode_append (s := s) (by omega)
  exact ⟨⟨⟨r⟩, ⟨g⟩, ⟨b⟩⟩, pad, rest, rfl⟩

theorem read?_eq_none : read? s = none ↔ s.length < vectorSize := by
  constructor
  · intro h
    by_contra long
    obtain ⟨c, pad, rest, hs⟩ := exists_words (Nat.not_lt.mp long)
    have found := read?_eq_some.mpr ⟨pad, hs⟩
    rw [h] at found
    contradiction
  · intro h
    cases hs : read? s with
    | none => rfl
    | some found =>
      obtain ⟨pad, hs⟩ := read?_eq_some.mp hs
      have := congrArg List.length hs
      simp only [List.length_append, LittleEndian.length_encode] at this
      unfold vectorSize at h
      omega

/-- Clearing the padding of a vector clears its fourth word. -/
theorem clearPadding_words (r g b pad : UInt32) :
    clearPadding (LittleEndian.encode r ++ (LittleEndian.encode g ++
      (LittleEndian.encode b ++ LittleEndian.encode pad))) =
      LittleEndian.encode r ++ (LittleEndian.encode g ++
        (LittleEndian.encode b ++ LittleEndian.encode 0)) := by
  simp [clearPadding, LittleEndian.encode, IsPadding, vectorSize, List.mapIdx_cons]

instance : Record.Lawful Rgb where
  size_pos := by decide
  vector_dvd_size := Nat.dvd_refl _
  width_le_size := by decide
  length_encode _ := rfl
  clearPadding_encode c := clearPadding_words c.r.bits c.g.bits c.b.bits 0
  read?_eq_some := by
    intro s rest c
    refine read?_eq_some.trans ⟨?_, ?_⟩
    · rintro ⟨pad, rfl⟩
      refine ⟨LittleEndian.encode c.r.bits ++ (LittleEndian.encode c.g.bits ++
        (LittleEndian.encode c.b.bits ++ LittleEndian.encode pad)), ?_, clearPadding_words ..⟩
      simp only [List.append_assoc]
    · rintro ⟨front, rfl, hfront⟩
      -- A front of sixteen bytes is some vector, and clearing shows that it is this one.
      have long : front.length = vectorSize := by
        rw [← length_clearPadding, hfront]
        rfl
      obtain ⟨c', pad, rest', hwords⟩ := exists_words (Nat.le_of_eq long.symm)
      have empty : rest' = [] := by
        have := congrArg List.length hwords
        simp only [List.length_append, LittleEndian.length_encode, long, vectorSize] at this
        exact List.eq_nil_of_length_eq_zero (by omega)
      subst empty
      rw [List.append_nil] at hwords
      rw [hwords, clearPadding_words, encode_eq] at hfront
      have words := List.append_inj hfront rfl
      have words' := List.append_inj words.2 rfl
      have words'' := List.append_inj words'.2 rfl
      refine ⟨pad, ?_⟩
      rw [hwords, words.1, words'.1, words''.1]
      simp only [List.append_assoc]
  read?_eq_none := read?_eq_none

end Rgb

namespace Voxel

variable {v : Voxel} {s rest : Bytes}

theorem encode_eq (v : Voxel) : Record.encode v =
    Record.encode v.sigmaA ++ (Record.encode v.sigmaS ++ Record.encode v.emission) := rfl

/-- A voxel is read exactly where its three vectors are read one after the other. -/
theorem read?_eq_some : read? s = some (v, rest) ↔ ∃ afterA afterS,
    Rgb.read? s = some (v.sigmaA, afterA) ∧ Rgb.read? afterA = some (v.sigmaS, afterS) ∧
      Rgb.read? afterS = some (v.emission, rest) := by
  simp only [read?, Option.bind_eq_bind, Option.bind_eq_some_iff, Option.pure_def, Prod.exists,
    Option.some.injEq, Prod.mk.injEq]
  constructor
  · rintro ⟨_, afterA, hA, _, afterS, hS, _, _, hE, rfl, rfl⟩
    exact ⟨afterA, afterS, hA, hS, hE⟩
  · rintro ⟨afterA, afterS, hA, hS, hE⟩
    exact ⟨_, afterA, hA, _, afterS, hS, _, _, hE, rfl, rfl⟩

theorem read?_eq_none : read? s = none ↔ s.length < 3 * Rgb.vectorSize := by
  -- Each vector that is read leaves sixteen bytes fewer.
  have left {c : Rgb} {s rest : Bytes} (h : Rgb.read? s = some (c, rest)) :
      s.length = Rgb.vectorSize + rest.length := by
    obtain ⟨pad, rfl⟩ := Rgb.read?_eq_some.mp h
    simp only [List.length_append, LittleEndian.length_encode, Rgb.vectorSize]
    omega
  unfold read?
  cases hA : Rgb.read? s with
  | none =>
    have := Rgb.read?_eq_none.mp hA
    simp only [Option.bind_eq_bind, Option.bind_none, true_iff]
    omega
  | some first =>
    have lengthA := left hA
    cases hS : Rgb.read? first.2 with
    | none =>
      have := Rgb.read?_eq_none.mp hS
      simp only [Option.bind_eq_bind, Option.bind_some, hS, Option.bind_none, true_iff]
      omega
    | some second =>
      have lengthS := left hS
      cases hE : Rgb.read? second.2 with
      | none =>
        have := Rgb.read?_eq_none.mp hE
        simp only [Option.bind_eq_bind, Option.bind_some, hS, hE, Option.bind_none, true_iff]
        omega
      | some third =>
        have lengthE := left hE
        simp only [Option.bind_eq_bind, Option.bind_some, hS, hE, Option.pure_def, reduceCtorEq,
          false_iff]
        omega

instance : Record.Lawful Voxel where
  size_pos := by decide
  vector_dvd_size := ⟨3, rfl⟩
  width_le_size := by decide
  length_encode _ := rfl
  clearPadding_encode v := by
    rw [encode_eq, clearPadding_append (Nat.dvd_refl _), clearPadding_append (Nat.dvd_refl _)]
    simp only [Record.Lawful.clearPadding_encode]
  read?_eq_some := by
    intro s rest v
    have vector {c : Rgb} {s rest : Bytes} : Rgb.read? s = some (c, rest) ↔
        ∃ front, s = front ++ rest ∧ clearPadding front = Record.encode c :=
      Record.Lawful.read?_eq_some (α := Rgb)
    have whole {front : Bytes} {c : Rgb} (h : clearPadding front = Record.encode c) :
        Rgb.vectorSize ∣ front.length := by
      rw [← length_clearPadding, h]
      exact Nat.dvd_refl _
    refine read?_eq_some.trans ⟨?_, ?_⟩
    · rintro ⟨afterA, afterS, hA, hS, hE⟩
      obtain ⟨frontA, rfl, clearA⟩ := vector.mp hA
      obtain ⟨frontS, rfl, clearS⟩ := vector.mp hS
      obtain ⟨frontE, rfl, clearE⟩ := vector.mp hE
      refine ⟨frontA ++ (frontS ++ frontE), by simp only [List.append_assoc], ?_⟩
      rw [clearPadding_append (whole clearA), clearPadding_append (whole clearS), clearA, clearS,
        clearE, encode_eq]
    · rintro ⟨front, rfl, hfront⟩
      rw [encode_eq] at hfront
      obtain ⟨frontA, frontSE, rfl, clearA, clearSE⟩ :=
        exists_append_of_clearPadding_eq (Nat.dvd_refl _) hfront
      obtain ⟨frontS, frontE, rfl, clearS, clearE⟩ :=
        exists_append_of_clearPadding_eq (Nat.dvd_refl _) clearSE
      refine ⟨frontS ++ (frontE ++ rest), frontE ++ rest, vector.mpr ⟨frontA, ?_, clearA⟩,
        vector.mpr ⟨frontS, rfl, clearS⟩, vector.mpr ⟨frontE, rfl, clearE⟩⟩
      simp only [List.append_assoc]
  read?_eq_none := read?_eq_none

end Voxel

namespace Record

variable {α : Type} [Record α] [Cell α] [Lawful α] {v : α} {s rest : Bytes}

/-- A record that is read takes its size from the front. -/
theorem length_of_read? (h : read? s = some (v, rest)) : s.length = size α + rest.length := by
  obtain ⟨front, rfl, hfront⟩ := Lawful.read?_eq_some.mp h
  have := congrArg List.length hfront
  rw [length_clearPadding, Lawful.length_encode] at this
  rw [List.length_append, this]

/-- The bytes of a record that is read, alone, read as that record. -/
theorem read?_take (h : read? s = some (v, rest)) : read? (s.take (size α)) = some (v, []) := by
  have len := length_of_read? h
  obtain ⟨front, rfl, hfront⟩ := Lawful.read?_eq_some.mp h
  rw [List.length_append] at len
  rw [show size α = front.length by omega, List.take_left]
  exact Lawful.read?_eq_some.mpr ⟨front, (List.append_nil _).symm, hfront⟩

theorem drop_of_read? (h : read? s = some (v, rest)) : s.drop (size α) = rest := by
  have len := length_of_read? h
  obtain ⟨front, rfl, -⟩ := Lawful.read?_eq_some.mp h
  rw [List.length_append] at len
  rw [show size α = front.length by omega, List.drop_left]

theorem exists_read? (h : size α ≤ s.length) : ∃ (v : α) (rest : Bytes), read? s = some (v, rest) := by
  obtain ⟨⟨v, rest⟩, hs⟩ := Option.ne_none_iff_exists'.mp
    (mt Lawful.read?_eq_none.mp (Nat.not_lt.mpr h))
  exact ⟨v, rest, hs⟩

/-- Records with one encoding are one record. -/
theorem encode_injective : Function.Injective (encode (α := α)) := by
  intro v w h
  have hv : read? (encode v) = some (v, []) :=
    Lawful.read?_eq_some.mpr ⟨_, (List.append_nil _).symm, Lawful.clearPadding_encode v⟩
  have hw : read? (encode v) = some (w, []) :=
    Lawful.read?_eq_some.mpr ⟨_, (List.append_nil _).symm, (Lawful.clearPadding_encode v).trans h⟩
  rw [hv] at hw
  exact (Prod.mk.inj (Option.some.inj hw)).1

end Record

/-! ### Bodies -/

namespace Binary

/-- Vectors behind a header, each with a NaN that carries a payload, a negative zero, an infinity
and a fourth word that is not zero: bytes whose every bit matters. -/
def padded (d : Dimensions) (vectors : Nat) : Bytes :=
  [d.width, d.height, d.depth, 0].flatMap LittleEndian.encode ++
    (List.replicate vectors
      ([0x7fc00001, 0x80000000, 0x7f800000, 0xdeadbeef].flatMap LittleEndian.encode)).flatten

variable {α : Type} [Record α]

/-- The bytes of a sequence of values. -/
def body (vs : List α) : Bytes := vs.flatMap Record.encode

@[simp] theorem body_cons (v : α) (vs : List α) : body (v :: vs) = Record.encode v ++ body vs := rfl

variable [Cell α] [Record.Lawful α]

theorem length_body (vs : List α) : (body vs).length = vs.length * Record.size α := by
  induction vs with
  | nil => simp [body]
  | cons v vs ih =>
    rw [body_cons, List.length_append, Record.Lawful.length_encode, ih, List.length_cons,
      Nat.succ_mul, Nat.add_comm]

theorem clearPadding_body (vs : List α) : clearPadding (body vs) = body vs := by
  induction vs with
  | nil => rfl
  | cons v vs ih =>
    have whole : Rgb.vectorSize ∣ (Record.encode v).length := by
      rw [Record.Lawful.length_encode]
      exact Record.Lawful.vector_dvd_size
    rw [body_cons, clearPadding_append whole, Record.Lawful.clearPadding_encode, ih]

/-- A body determines its values. -/
theorem body_injective : Function.Injective (body (α := α)) := by
  intro vs
  induction vs with
  | nil =>
    intro ws h
    have := congrArg List.length h
    rw [length_body, length_body, List.length_nil, Nat.zero_mul] at this
    have empty : ws.length = 0 :=
      (Nat.mul_eq_zero.mp this.symm).resolve_right (Nat.pos_iff_ne_zero.mp Record.Lawful.size_pos)
    exact (List.eq_nil_of_length_eq_zero empty).symm
  | cons v vs ih =>
    intro ws h
    cases ws with
    | nil =>
      have := congrArg List.length h
      rw [body_cons, List.length_append, Record.Lawful.length_encode] at this
      have size_pos := Record.Lawful.size_pos (α := α)
      change _ = 0 at this
      omega
    | cons w ws =>
      rw [body_cons, body_cons] at h
      obtain ⟨first, others⟩ := List.append_inj h (by simp only [Record.Lawful.length_encode])
      rw [Record.encode_injective first, ih others]

/-- A body is read as the values whose bytes it consists of, up to padding. -/
theorem readRecords_eq_some {n : Nat} {s : Bytes} {vs : List α} :
    readRecords n s = some vs ↔
      vs.length = n ∧ ∃ front rest, s = front ++ rest ∧ clearPadding front = body vs := by
  induction n generalizing s vs with
  | zero =>
    rw [readRecords, Option.some.injEq]
    constructor
    · rintro rfl
      exact ⟨rfl, [], s, rfl, rfl⟩
    · rintro ⟨hlength, -⟩
      exact (List.eq_nil_of_length_eq_zero hlength).symm
  | succ n ih =>
    simp only [readRecords, Option.bind_eq_bind, Option.bind_eq_some_iff, Option.pure_def,
      Prod.exists, Option.some.injEq]
    constructor
    · rintro ⟨v, afterV, hv, others, hothers, rfl⟩
      obtain ⟨front, rfl, hfront⟩ := Record.Lawful.read?_eq_some.mp hv
      obtain ⟨rfl, front', rest, rfl, hfront'⟩ := ih.mp hothers
      refine ⟨rfl, front ++ front', rest, (List.append_assoc _ _ _).symm, ?_⟩
      rw [clearPadding_append, hfront, hfront', body_cons]
      rw [← length_clearPadding, hfront, Record.Lawful.length_encode]
      exact Record.Lawful.vector_dvd_size
    · rintro ⟨hlength, front, rest, rfl, hfront⟩
      cases vs with
      | nil => contradiction
      | cons v vs =>
        have whole : Rgb.vectorSize ∣ (Record.encode v).length := by
          rw [Record.Lawful.length_encode]
          exact Record.Lawful.vector_dvd_size
        obtain ⟨first, front, rfl, hfirst, hfront⟩ :=
          exists_append_of_clearPadding_eq whole hfront
        refine ⟨v, front ++ rest, Record.Lawful.read?_eq_some.mpr ⟨first, ?_, hfirst⟩, vs,
          ih.mpr ⟨Nat.succ.inj hlength, front, rest, rfl, hfront⟩, rfl⟩
        rw [List.append_assoc]

/-- A body that is long enough is read. -/
theorem exists_readRecords {n : Nat} {s : Bytes} (h : n * Record.size α ≤ s.length) :
    ∃ vs : List α, readRecords n s = some vs := by
  induction n generalizing s with
  | zero => exact ⟨[], rfl⟩
  | succ n ih =>
    rw [Nat.succ_mul] at h
    obtain ⟨v, rest, hv⟩ := Record.exists_read? (α := α) (s := s) (by omega)
    have len := Record.length_of_read? hv
    obtain ⟨vs, hvs⟩ := ih (s := rest) (by omega)
    exact ⟨v :: vs, by simp [readRecords, hv, hvs]⟩

/-- The record number `i` of a body starts at `i` times the size of a record. -/
theorem read?_of_readRecords {n : Nat} {s : Bytes} {vs : List α} (h : readRecords n s = some vs)
    {i : Nat} {v : α} (hi : vs[i]? = some v) :
    Record.read? ((s.drop (i * Record.size α)).take (Record.size α)) = some (v, []) := by
  induction n generalizing s vs i with
  | zero =>
    cases Option.some.inj h
    simp at hi
  | succ n ih =>
    simp only [readRecords, Option.bind_eq_bind, Option.bind_eq_some_iff, Option.pure_def,
      Prod.exists, Option.some.injEq] at h
    obtain ⟨first, rest, hfirst, others, hothers, rfl⟩ := h
    cases i with
    | zero =>
      cases Option.some.inj hi
      rw [Nat.zero_mul, List.drop_zero]
      exact Record.read?_take hfirst
    | succ i =>
      rw [Nat.succ_mul, Nat.add_comm, ← List.drop_drop, Record.drop_of_read? hfirst]
      exact ih hothers hi

end Binary

end DenseMedium
