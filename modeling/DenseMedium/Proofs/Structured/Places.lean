import DenseMedium.Proofs.Coefficient.Range
import DenseMedium.Proofs.Json.Unambiguous
import DenseMedium.Proofs.Structured.Safety

/-!
One record of a document, and what may stand in its place.

A record has a form: two or three lists of three numbers. What is put in the place of a record of a
document is looked at alone.

* `Value.IsRecord`: the form of records, of numbers whose doubles have a property. `isRecord_finite`
  and `isRecord_fitsSingle` say which values are read as records, and which of these fit single
  precision.
* `Value.recordAt?`, `Value.withRecord`: the place of a record, and a value put into it.
* `exists_record_of_document?`: in what describes a document every record is read as one.
* `document?_withRecord`: with a record in the place, what describes a document describes it with
  another record there.
* `withRecord_decides`: a document that is accepted stays so exactly when the new record has the form
  and fits single precision, and what has not the form is refused wherever it stands.
-/

namespace DenseMedium

/-- Whether a double is finite and remains so in single precision. -/
def Double.FitsSingle (d : Double) : Prop := d.IsFinite ∧ d.narrow.isFinite = true

namespace Structured

/-- What all components of a coefficient have in common. -/
def Components.All (Q : Double → Prop) (c : Components) : Prop := Q c.r ∧ Q c.g ∧ Q c.b

def RawRecord.All (Q : Double → Prop) (r : RawRecord) : Prop :=
  r.sigmaA.All Q ∧ r.sigmaS.All Q ∧ r.emission.All Q

theorem RawRecord.all_iff {r : RawRecord} :
    (r.All fun d => d.narrow.isFinite = true) ↔ r.narrow.isFinite = true := by
  rw [Voxel.isFinite_iff, Rgb.isFinite_iff, Rgb.isFinite_iff, Rgb.isFinite_iff]
  rfl

/-- The document with another record in a place. -/
def Document.withRecord (x y z : Nat) (d : Document) (r : RawRecord) : Document :=
  { d with
    planes := d.planes.modify z fun plane => plane.modify y fun row => row.modify x fun _ => r }

end Structured

namespace Json.Value

open Structured

/-! ### The form of records -/

section Form

variable {Q : Double → Prop} {v : Value}

/-- Whether a value is a number that is read as a double with a property. -/
def IsNumber (Q : Double → Prop) : Value → Prop
  | .number isNegative p => ∃ x, p.value isNegative = some x ∧ Q x.toDouble
  | _ => False

/-- Whether a value is a list with one of some lengths, of items with a property. -/
def IsListOf (length : Nat → Prop) (item : Value → Prop) : Value → Prop
  | .list vs => length vs.length ∧ ∀ v ∈ vs, item v
  | _ => False

def IsTriple (Q : Double → Prop) : Value → Prop := IsListOf (· = 3) (IsNumber Q)

def IsRecord (Q : Double → Prop) : Value → Prop := IsListOf (fun n => n = 2 ∨ n = 3) (IsTriple Q)

theorem double?_number {isNegative : Bool} {p : NumberParts} :
    (number isNegative p).double? = (p.value isNegative).map Number.toDouble := by
  rw [double?, numeric?]
  cases p.value isNegative with
  | none => rfl
  | some x => cases x <;> rfl

theorem isNumber_iff : v.IsNumber Q ↔ ∃ d, v.double? = some d ∧ Q d := by
  cases v with
  | number isNegative p =>
    rw [IsNumber, double?_number]
    simp only [Option.map_eq_some_iff]
    constructor
    · rintro ⟨x, value, holds⟩
      exact ⟨_, ⟨x, value, rfl⟩, holds⟩
    · rintro ⟨_, ⟨x, value, rfl⟩, holds⟩
      exact ⟨x, value, holds⟩
  | null | boolean | string | list | object =>
    constructor
    · exact False.elim
    · rintro ⟨_, read, -⟩
      cases read

/-- The triples are the values that are read as three components. -/
theorem isTriple_iff : v.IsTriple Q ↔ ∃ c, v.components? = some c ∧ c.All Q := by
  constructor
  · intro triple
    cases v with
    | list vs =>
      obtain ⟨length, numbers⟩ := triple
      obtain ⟨r, g, b, rfl⟩ := List.length_eq_three.mp length
      simp only [List.forall_mem_cons, isNumber_iff] at numbers
      obtain ⟨⟨x, hx, first⟩, ⟨y, hy, second⟩, ⟨z, hz, third⟩, -⟩ := numbers
      refine ⟨⟨x, y, z⟩, ?_, first, second, third⟩
      simp [components?, hx, hy, hz]
    | null | boolean | number | string | object => exact triple.elim
  · rintro ⟨c, read, first, second, third⟩
    unfold components? at read
    split at read
    · obtain ⟨x, hx, read⟩ := Option.bind_eq_some_iff.mp read
      obtain ⟨y, hy, read⟩ := Option.bind_eq_some_iff.mp read
      obtain ⟨z, hz, read⟩ := Option.bind_eq_some_iff.mp read
      cases read
      refine ⟨rfl, ?_⟩
      simp only [List.forall_mem_cons, isNumber_iff]
      exact ⟨⟨x, hx, first⟩, ⟨y, hy, second⟩, ⟨z, hz, third⟩, List.forall_mem_nil _⟩
    · contradiction

/-- The values of the form of records are those that are read as records. -/
theorem isRecord_iff (zero : Q .zero) :
    v.IsRecord Q ↔ ∃ r, v.record? = some r ∧ r.All Q := by
  constructor
  · intro record
    cases v with
    | list vs =>
      obtain ⟨length | length, triples⟩ := record
      · obtain ⟨a, s, rfl⟩ := List.length_eq_two.mp length
        simp only [List.forall_mem_cons, isTriple_iff] at triples
        obtain ⟨⟨x, hx, first⟩, ⟨y, hy, second⟩, -⟩ := triples
        refine ⟨⟨x, y, .zero⟩, ?_, first, second, zero, zero, zero⟩
        simp [record?, hx, hy]
      · obtain ⟨a, s, e, rfl⟩ := List.length_eq_three.mp length
        simp only [List.forall_mem_cons, isTriple_iff] at triples
        obtain ⟨⟨x, hx, first⟩, ⟨y, hy, second⟩, ⟨z, hz, third⟩, -⟩ := triples
        refine ⟨⟨x, y, z⟩, ?_, first, second, third⟩
        simp [record?, hx, hy, hz]
    | null | boolean | number | string | object => exact record.elim
  · rintro ⟨r, read, first, second, third⟩
    unfold record? at read
    split at read
    · obtain ⟨x, hx, read⟩ := Option.bind_eq_some_iff.mp read
      obtain ⟨y, hy, read⟩ := Option.bind_eq_some_iff.mp read
      cases read
      refine ⟨.inl rfl, ?_⟩
      simp only [List.forall_mem_cons, isTriple_iff]
      exact ⟨⟨x, hx, first⟩, ⟨y, hy, second⟩, List.forall_mem_nil _⟩
    · obtain ⟨x, hx, read⟩ := Option.bind_eq_some_iff.mp read
      obtain ⟨y, hy, read⟩ := Option.bind_eq_some_iff.mp read
      obtain ⟨z, hz, read⟩ := Option.bind_eq_some_iff.mp read
      cases read
      refine ⟨.inr rfl, ?_⟩
      simp only [List.forall_mem_cons, isTriple_iff]
      exact ⟨⟨x, hx, first⟩, ⟨y, hy, second⟩, ⟨z, hz, third⟩, List.forall_mem_nil _⟩
    · contradiction

/-- A number that is read at all is a finite double. -/
theorem isNumber_and_isFinite (Q : Double → Prop) :
    IsNumber (fun d => d.IsFinite ∧ Q d) = IsNumber Q := by
  funext v
  cases v with
  | number isNegative p =>
    refine propext ⟨fun ⟨x, value, _, holds⟩ => ⟨x, value, holds⟩, fun ⟨x, value, holds⟩ => ?_⟩
    exact ⟨x, value, NumberParts.isFinite_value value, holds⟩
  | null | boolean | string | list | object => rfl

theorem isRecord_and_isFinite (Q : Double → Prop) :
    IsRecord (fun d => d.IsFinite ∧ Q d) = IsRecord Q := by
  unfold IsRecord IsTriple
  rw [isNumber_and_isFinite]

/-- Records of finite doubles are what is read as a record. -/
theorem isRecord_finite : v.IsRecord Double.IsFinite ↔ ∃ r, v.record? = some r := by
  have form : IsRecord Double.IsFinite = IsRecord fun _ => True := by
    rw [← isRecord_and_isFinite fun _ => True]
    simp only [and_true]
  have all (c : Components) : c.All fun _ => True := ⟨trivial, trivial, trivial⟩
  rw [form, isRecord_iff trivial]
  exact exists_congr fun r => and_iff_left ⟨all _, all _, all _⟩

/-- Records of components in the range are what is read as a record that single precision holds. -/
theorem isRecord_fitsSingle :
    v.IsRecord Double.FitsSingle ↔ ∃ r, v.record? = some r ∧ r.narrow.isFinite = true := by
  have form : IsRecord Double.FitsSingle = IsRecord fun d => d.narrow.isFinite = true :=
    isRecord_and_isFinite _
  have zero : Double.zero.narrow.isFinite = true := by
    rw [double_narrow_zero]
    decide
  rw [form, isRecord_iff zero]
  simp only [RawRecord.all_iff]

end Form

/-! ### Items of lists -/

section Items

variable {α β : Type} {parse : Value → Option α} {v w : Value} {n : Nat} {f g : Value → Value}

/-- The item of a list at an index. -/
def item? (n : Nat) : Value → Option Value
  | .list vs => vs[n]?
  | _ => none

/-- A list with another item at an index. -/
def modifyItem (n : Nat) (f : Value → Value) : Value → Value
  | .list vs => .list (vs.modify n f)
  | v => v

theorem item?_modifyItem (h : v.item? n = some w) : (v.modifyItem n f).item? n = some (f w) := by
  cases v with
  | list vs =>
    rw [modifyItem, item?, List.getElem?_modify_eq]
    exact congrArg (Option.map f) h
  | null | boolean | number | string | object => cases h

theorem mapM_getElem? : ∀ {vs : List Value} {xs : List α} {n : Nat}, vs.mapM parse = some xs →
    vs[n]? = some w → ∃ x, parse w = some x ∧ xs[n]? = some x
  | v :: vs, xs, n, values, item => by
      rw [List.mapM_cons] at values
      obtain ⟨x, hx, values⟩ := Option.bind_eq_some_iff.mp values
      obtain ⟨xs, hxs, values⟩ := Option.bind_eq_some_iff.mp values
      cases values
      cases n with
      | zero =>
        cases item
        exact ⟨x, hx, rfl⟩
      | succ n => exact mapM_getElem? (n := n) hxs item

/-- The items of a list are read one by one. -/
theorem items?_item {xs : List α} (values : v.items? parse = some xs) (item : v.item? n = some w) :
    ∃ x, parse w = some x ∧ xs[n]? = some x := by
  cases v with
  | list vs => exact mapM_getElem? values item
  | null | boolean | number | string | object => cases item

theorem mapM_modify {made : Option β} {put : β → α → α} :
    ∀ {vs : List Value} {xs : List α} {n : Nat}, vs.mapM parse = some xs → vs[n]? = some w →
      (∀ x, parse w = some x → parse (f w) = made.map (put · x)) →
      (vs.modify n f).mapM parse = made.map fun b => xs.modify n (put b)
  | v :: vs, xs, n, values, item, item' => by
      rw [List.mapM_cons] at values
      obtain ⟨x, hx, values⟩ := Option.bind_eq_some_iff.mp values
      obtain ⟨xs, hxs, values⟩ := Option.bind_eq_some_iff.mp values
      cases values
      cases n with
      | zero =>
        cases item
        rw [List.modify_zero_cons, List.mapM_cons, item' x hx, hxs]
        cases made <;> rfl
      | succ n =>
        rw [List.modify_succ_cons, List.mapM_cons, hx, mapM_modify hxs item item']
        cases made <;> rfl

/-- With another item, a list is read with another item. -/
theorem items?_modifyItem {xs : List α} {made : Option β} {put : β → α → α}
    (values : v.items? parse = some xs) (item : v.item? n = some w)
    (item' : ∀ x, parse w = some x → parse (f w) = made.map (put · x)) :
    (v.modifyItem n f).items? parse = made.map fun b => xs.modify n (put b) := by
  cases v with
  | list vs => exact mapM_modify values item item'
  | null | boolean | number | string | object => cases item

/-- How an item is read is all that matters of it. -/
theorem items?_modifyItem_congr (same : ∀ w, parse (f w) = parse (g w)) (v : Value) :
    (v.modifyItem n f).items? parse = (v.modifyItem n g).items? parse := by
  cases v with
  | list vs =>
    change (vs.modify n f).mapM parse = (vs.modify n g).mapM parse
    induction vs generalizing n with
    | nil => rw [List.modify_nil, List.modify_nil]
    | cons w ws ih =>
      cases n with
      | zero => simp only [List.modify_zero_cons, List.mapM_cons, same]
      | succ n => simp only [List.modify_succ_cons, List.mapM_cons, ih]
  | null | boolean | number | string | object => rfl

end Items

/-! ### The place of the grid -/

section Grid

variable {v w : Value} {f g : Value → Value} {name other : String} {ms : List (Bytes × Value)}

/-- The value of the grid: the last one of a list of four, or the only one with its name. -/
def grid? : Value → Option Value
  | .list [_, _, _, grid] => some grid
  | .object ms => only? "grid" ms
  | _ => none

def modifyNamed (name : String) (f : Value → Value) (ms : List (Bytes × Value)) :
    List (Bytes × Value) :=
  ms.map fun m => if keyName? m.1 = some name then (m.1, f m.2) else m

/-- What has another value in the place of its grid. -/
def modifyGrid (f : Value → Value) : Value → Value
  | .list [width, height, depth, grid] => .list [width, height, depth, f grid]
  | .object ms => .object (modifyNamed "grid" f ms)
  | v => v

/-- The dimensions that stand beside a grid. -/
def dimensions? : Value → Option Dimensions
  | .list [width, height, depth, _] => do return ⟨← width.word?, ← height.word?, ← depth.word?⟩
  | .object ms => do
      guard (∀ m ∈ ms, (keyName? m.1).isSome)
      return ⟨← (only? "width" ms).bind word?, ← (only? "height" ms).bind word?,
        ← (only? "depth" ms).bind word?⟩
  | _ => none

/-- A document is its dimensions and its grid. -/
theorem document?_eq (v : Value) : v.document? =
    v.dimensions?.bind fun s => (v.grid?.bind planes?).map fun ps =>
      ⟨s.width, s.height, s.depth, ps⟩ := by
  unfold document? dimensions? grid?
  split <;> simp [Option.bind_assoc, Option.map_eq_bind]

theorem named_modifyNamed_of_mem (made : ∀ m ∈ ms, keyName? m.1 = some other →
    (if keyName? m.1 = some name then (m.1, f m.2) else m).2 = g m.2) :
    named other (modifyNamed name f ms) = (named other ms).map g := by
  induction ms with
  | nil => rfl
  | cons m ms ih =>
    obtain ⟨first, rest⟩ := List.forall_mem_cons.mp made
    have ih := ih rest
    have key : (if keyName? m.1 = some name then (m.1, f m.2) else m).1 = m.1 := by split <;> rfl
    unfold named modifyNamed at ih ⊢
    by_cases spelled : keyName? m.1 = some other
    · rw [List.map_cons, List.filter_cons_of_pos (by simpa [key] using spelled),
        List.filter_cons_of_pos (by simpa using spelled), List.map_cons, List.map_cons,
        List.map_cons, ih, first spelled]
    · rw [List.map_cons, List.filter_cons_of_neg (by simpa [key] using spelled),
        List.filter_cons_of_neg (by simpa using spelled), ih]

/-- The members with the name have other values. -/
theorem named_modifyNamed : named name (modifyNamed name f ms) = (named name ms).map f :=
  named_modifyNamed_of_mem fun m _ spelled => by rw [if_pos spelled]

/-- The members with other names have not. -/
theorem named_modifyNamed_of_ne (ne : other ≠ name) :
    named other (modifyNamed name f ms) = named other ms := by
  rw [named_modifyNamed_of_mem fun m _ spelled => ?_, List.map_id]
  have notNamed : keyName? m.1 ≠ some name := by
    rw [spelled]
    exact fun same => ne (Option.some.inj same)
  rw [if_neg notNamed, id]

theorem only?_modifyNamed : only? name (modifyNamed name f ms) = (only? name ms).map f := by
  unfold only?
  rw [named_modifyNamed]
  rcases named name ms with _ | ⟨v, _ | ⟨w, vs⟩⟩ <;> rfl

theorem only?_modifyNamed_of_ne (ne : other ≠ name) :
    only? other (modifyNamed name f ms) = only? other ms := by
  unfold only?
  rw [named_modifyNamed_of_ne ne]

theorem grid?_modifyGrid (f : Value → Value) (v : Value) :
    (v.modifyGrid f).grid? = v.grid?.map f := by
  unfold modifyGrid
  split
  · rfl
  · exact only?_modifyNamed
  · rename_i notFour notObject
    unfold grid?
    split
    · exact absurd rfl (notFour _ _ _ _)
    · exact absurd rfl (notObject _)
    · rfl

/-- Another grid leaves the dimensions as they are. -/
theorem dimensions?_modifyGrid (f : Value → Value) (v : Value) :
    (v.modifyGrid f).dimensions? = v.dimensions? := by
  unfold modifyGrid
  split
  · rfl
  · rename_i ms
    have keys : (∀ m ∈ modifyNamed "grid" f ms, (keyName? m.1).isSome) ↔
        ∀ m ∈ ms, (keyName? m.1).isSome := by
      unfold modifyNamed
      rw [List.forall_mem_map]
      refine forall₂_congr fun m _ => ?_
      split <;> rfl
    simp only [dimensions?, keys, only?_modifyNamed_of_ne (by decide : "width" ≠ "grid"),
      only?_modifyNamed_of_ne (by decide : "height" ≠ "grid"),
      only?_modifyNamed_of_ne (by decide : "depth" ≠ "grid")]
  · rfl

end Grid

/-! ### The place of a record -/

section Record

variable {v old r r' : Value} {x y z : Nat} {d : Document}

/-- The record at a place: its plane by z, its row by y, its place in the row by x. -/
def recordAt? (x y z : Nat) (v : Value) : Option Value := do
  let grid ← v.grid?
  let plane ← grid.item? z
  let row ← plane.item? y
  row.item? x

/-- What has a value in the place of a record. -/
def withRecord (x y z : Nat) (v r : Value) : Value :=
  v.modifyGrid (modifyItem z (modifyItem y (modifyItem x fun _ => r)))

theorem recordAt?_eq_some : v.recordAt? x y z = some r ↔ ∃ grid plane row, v.grid? = some grid ∧
    grid.item? z = some plane ∧ plane.item? y = some row ∧ row.item? x = some r := by
  simp [recordAt?, Option.bind_eq_some_iff]

theorem recordAt?_withRecord (place : v.recordAt? x y z = some old) :
    (v.withRecord x y z r).recordAt? x y z = some r := by
  obtain ⟨grid, plane, row, hgrid, hplane, hrow, hold⟩ := recordAt?_eq_some.mp place
  refine recordAt?_eq_some.mpr ⟨_, _, _, ?_, item?_modifyItem hplane, item?_modifyItem hrow,
    item?_modifyItem (f := fun _ => r) hold⟩
  rw [withRecord, grid?_modifyGrid, hgrid]
  rfl

/-- In what describes a document every record is read as one. -/
theorem exists_record_of_document? (h : v.document? = some d) (place : v.recordAt? x y z = some r) :
    ∃ rec ∈ d.records, r.record? = some rec := by
  obtain ⟨grid, plane, row, hgrid, hplane, hrow, hr⟩ := recordAt?_eq_some.mp place
  rw [document?_eq, hgrid] at h
  obtain ⟨s, -, h⟩ := Option.bind_eq_some_iff.mp h
  obtain ⟨ps, hps, rfl⟩ := Option.map_eq_some_iff.mp h
  obtain ⟨p, hp, atZ⟩ := items?_item hps hplane
  obtain ⟨l, hl, atY⟩ := items?_item hp hrow
  obtain ⟨rec, hrec, atX⟩ := items?_item hl hr
  exact ⟨rec, List.mem_flatten_of_mem (List.mem_flatten_of_mem (List.mem_of_getElem? atZ)
    (List.mem_of_getElem? atY)) (List.mem_of_getElem? atX), hrec⟩

/-- How the record is read is all that matters of it. -/
theorem document?_withRecord_congr (same : r.record? = r'.record?) :
    (v.withRecord x y z r).document? = (v.withRecord x y z r').document? := by
  have grids (grid : Value) := items?_modifyItem_congr (n := z)
    (items?_modifyItem_congr (n := y) (items?_modifyItem_congr (n := x) (fun _ => same))) grid
  unfold withRecord
  rw [document?_eq, document?_eq, dimensions?_modifyGrid, dimensions?_modifyGrid, grid?_modifyGrid,
    grid?_modifyGrid, Option.bind_map, Option.bind_map]
  have read : planes? ∘ modifyItem z (modifyItem y (modifyItem x fun _ => r)) =
      planes? ∘ modifyItem z (modifyItem y (modifyItem x fun _ => r')) := funext grids
  rw [read]

/-- With another record, what describes a document describes the document with that record. -/
theorem document?_withRecord (h : v.document? = some d) (place : v.recordAt? x y z = some old) :
    (v.withRecord x y z r).document? = r.record?.map (d.withRecord x y z) := by
  obtain ⟨grid, plane, row, hgrid, hplane, hrow, hold⟩ := recordAt?_eq_some.mp place
  rw [document?_eq, hgrid] at h
  obtain ⟨s, hs, h⟩ := Option.bind_eq_some_iff.mp h
  obtain ⟨ps, hps, rfl⟩ := Option.map_eq_some_iff.mp h
  have planes : (modifyItem z (modifyItem y (modifyItem x fun _ => r)) grid).planes? =
      r.record?.map fun rec => ps.modify z fun p => p.modify y fun l => l.modify x fun _ => rec :=
    items?_modifyItem hps hplane fun _ hp => items?_modifyItem hp hrow fun _ hl =>
      items?_modifyItem hl hold fun _ _ => Option.map_id'.symm
  rw [withRecord, document?_eq, dimensions?_modifyGrid, grid?_modifyGrid, hs, hgrid]
  change Option.map _ (planes? _) = _
  rw [planes, Option.map_map]
  rfl

end Record

end Json.Value

namespace Structured

open Json

/-! ### Documents with another record -/

namespace Document

variable {d : Document} {rec : RawRecord} {x y z : Nat}

theorem forall_mem_modify {α : Type} {P : α → Prop} {f : α → α} {xs : List α} {n : Nat}
    (h : ∀ a ∈ xs, P a) (hf : ∀ a, P a → P (f a)) : ∀ a ∈ xs.modify n f, P a := by
  intro a ha
  obtain ⟨i, hi⟩ := List.getElem?_of_mem ha
  rw [List.getElem?_modify] at hi
  obtain ⟨b, hb, rfl⟩ := Option.map_eq_some_iff.mp hi
  have member := h b (List.mem_of_getElem? hb)
  split
  · exact hf b member
  · exact member

theorem Nested.withRecord (h : d.Nested) : (d.withRecord x y z rec).Nested := by
  refine ⟨(List.length_modify _ _ _).trans h.1, forall_mem_modify h.2 ?_⟩
  rintro plane ⟨rows, widths⟩
  refine ⟨(List.length_modify _ _ _).trans rows, forall_mem_modify widths ?_⟩
  intro row width
  exact (List.length_modify _ _ _).trans width

/-- What the other records have in common with the new one, all records have in common. -/
theorem forall_records_withRecord {P : RawRecord → Prop} (h : ∀ r ∈ d.records, P r) (new : P rec) :
    ∀ r ∈ (d.withRecord x y z rec).records, P r := by
  unfold records at h ⊢
  simp only [List.forall_mem_flatten] at h ⊢
  exact forall_mem_modify h fun _ plane => forall_mem_modify plane fun _ row =>
    forall_mem_modify row fun _ _ => new

theorem isText_iff {v : Value} {b : Bytes} (h : v.IsDocument b) :
    d.IsText b ↔ v.document? = some d := by
  constructor
  · rintro ⟨w, described, h'⟩
    exact h.unique h' ▸ described
  · exact fun described => ⟨v, described, h⟩

end Document

/-! ### Decoding -/

section Decoding

variable {v r : Value} {d : Document} {text : String} {g : VoxelGrid}

theorem decode_eq_ok_iff (isText : v.IsDocument (Utf8.bytes text)) :
    decode text = .ok g ↔ ∃ d, v.document? = some d ∧ d.toGrid = .ok g := by
  rw [decode_eq_ok]
  simp only [Document.isText_iff isText]

theorem decode_of_document?_eq_none (isText : v.IsDocument (Utf8.bytes text))
    (none : v.document? = none) : ∃ x, decode text = refuse (.schema (.unreadable x)) := by
  refine decode_of_not_isText fun d h => ?_
  rw [Document.isText_iff isText, none] at h
  contradiction

end Decoding

/-- The emission of a record that does not emit, written out. -/
def zeroTriple : Value := .list [digitValue 0, digitValue 0, digitValue 0]

theorem record?_zeroTriple (a s : Value) :
    (Value.list [a, s, zeroTriple]).record? = (Value.list [a, s]).record? := by
  have zero : zeroTriple.components? = some .zero := by decide +kernel
  simp [Value.record?, zero]

section Place

variable {doc old r : Value} {x y z : Nat} {text : String}

/-- What is not of the form of a record is refused in the place of a record, whatever the document is
like. -/
theorem decode_of_not_isRecord (place : doc.recordAt? x y z = some old)
    (isText : (doc.withRecord x y z r).IsDocument (Utf8.bytes text))
    (form : ¬ r.IsRecord Double.IsFinite) :
    ∃ x, decode text = refuse (.schema (.unreadable x)) := by
  apply decode_of_document?_eq_none isText
  refine Option.eq_none_iff_forall_ne_some.mpr fun d described => form ?_
  obtain ⟨rec, -, hrec⟩ :=
    Value.exists_record_of_document? described (Value.recordAt?_withRecord place)
  exact Value.isRecord_finite.mpr ⟨rec, hrec⟩

/-- In a document that is accepted, a record of the form is accepted exactly when single precision
holds it, and otherwise refused for a component. -/
theorem decode_withRecord {text₀ : String} {g₀ : VoxelGrid}
    (place : doc.recordAt? x y z = some old)
    (isText : (doc.withRecord x y z r).IsDocument (Utf8.bytes text))
    (isText₀ : doc.IsDocument (Utf8.bytes text₀)) (accepted : decode text₀ = .ok g₀)
    {rec : RawRecord} (hrec : r.record? = some rec) :
    ((∃ g, decode text = .ok g) ↔ rec.narrow.isFinite = true) ∧
      (rec.narrow.isFinite ≠ true → ∃ cause, decode text = refuse (.schema cause)) := by
  obtain ⟨d, described, made⟩ := (decode_eq_ok_iff isText₀).mp accepted
  obtain ⟨valid, nested, finite, -⟩ := Document.toGrid_eq_ok.mp made
  have valid' : (d.withRecord x y z rec).dimensions.Valid := valid
  have nested' : (d.withRecord x y z rec).Nested := nested.withRecord
  have described' : (doc.withRecord x y z r).document? = some (d.withRecord x y z rec) := by
    rw [Value.document?_withRecord described place, hrec]
    rfl
  obtain ⟨rec', member, hrec'⟩ :=
    Value.exists_record_of_document? described' (Value.recordAt?_withRecord place)
  cases hrec.symm.trans hrec'
  have all : (∀ r ∈ (d.withRecord x y z rec).records, r.narrow.isFinite = true) ↔
      rec.narrow.isFinite = true :=
    ⟨fun h => h rec member, Document.forall_records_withRecord finite⟩
  rw [decode_eq_toGrid ((Document.isText_iff isText).mpr described'), Document.exists_toGrid_eq_ok]
  constructor
  · rw [all]
    exact ⟨fun h => h.2.2, fun h => ⟨valid', nested', h⟩⟩
  · intro infinite
    obtain ⟨_, _, _, defect⟩ :=
      Document.exists_component_defect valid' nested' (mt all.mp infinite)
    exact ⟨_, Document.toGrid_of_defect defect⟩

/-- A record is accepted exactly when it has the form and fits single precision, and what has not the
form is refused wherever it stands. An emission of zeros may be left out. -/
theorem withRecord_decides (place : doc.recordAt? x y z = some old)
    (isText : (doc.withRecord x y z r).IsDocument (Utf8.bytes text)) :
    (∀ text₀ g₀, doc.IsDocument (Utf8.bytes text₀) → decode text₀ = .ok g₀ →
      ((∃ g, decode text = .ok g) ↔ r.IsRecord Double.FitsSingle) ∧
      (¬ r.IsRecord Double.FitsSingle → ∃ cause, decode text = refuse (.schema cause))) ∧
    (¬ r.IsRecord Double.IsFinite → ∃ x, decode text = refuse (.schema (.unreadable x))) ∧
    ∀ a s text', r = .list [a, s] →
      (doc.withRecord x y z (.list [a, s, zeroTriple])).IsDocument (Utf8.bytes text') →
      ∀ g, decode text = .ok g ↔ decode text' = .ok g := by
  refine ⟨?_, decode_of_not_isRecord place isText, ?_⟩
  · intro text₀ g₀ isText₀ accepted
    cases hrec : r.record? with
    | none =>
      have form : ¬ r.IsRecord Double.IsFinite := by
        rw [Value.isRecord_finite, hrec]
        exact fun ⟨_, h⟩ => nomatch h
      have fits : ¬ r.IsRecord Double.FitsSingle := by
        rw [Value.isRecord_fitsSingle, hrec]
        exact fun ⟨_, h, _⟩ => nomatch h
      obtain ⟨cause, refused⟩ := decode_of_not_isRecord place isText form
      refine ⟨iff_of_false (fun ⟨g, decoded⟩ => ?_) fits, fun _ => ⟨_, refused⟩⟩
      rw [refused] at decoded
      contradiction
    | some rec =>
      have fits : r.IsRecord Double.FitsSingle ↔ rec.narrow.isFinite = true := by
        rw [Value.isRecord_fitsSingle, hrec]
        simp
      rw [fits]
      exact decode_withRecord place isText isText₀ accepted hrec
  · rintro a s text' rfl isText' g
    rw [decode_eq_ok_iff isText, decode_eq_ok_iff isText',
      Value.document?_withRecord_congr (record?_zeroTriple a s)]

end Place

/-- A text of `plain` with another second voxel. -/
def plainWith (r : Value) : String := Ascii.decode (plain.withRecord 1 0 0 r).text

theorem isDocument_plainWith (vs : List Value) (wellFormed : Value.WellFormedItems vs)
    (ascii : Ascii.IsAscii (plain.withRecord 1 0 0 (.list vs)).text) :
    (plain.withRecord 1 0 0 (.list vs)).IsDocument (Utf8.bytes (plainWith (.list vs))) := by
  refine isDocument_decode ?_ ascii
  simp [plain, Value.withRecord, Value.modifyGrid, Value.modifyItem, greyRecord, Value.WellFormed,
    Value.WellFormedItems, digitValue_wellFormed, wellFormed]

/-- A black voxel is accepted with its emission and without it, and nothing is accepted behind the
emission. -/
theorem withRecord_decides_plain :
    (∃ g, decode (plainWith (.list [zeroTriple, zeroTriple])) = .ok g ∧
      decode (plainWith (.list [zeroTriple, zeroTriple, zeroTriple])) = .ok g) ∧
    ∃ x, decode (plainWith (.list [zeroTriple, zeroTriple, zeroTriple, .null])) =
      refuse (.schema (.unreadable x)) := by
  have place : plain.recordAt? 1 0 0 = some (greyRecord 2) := rfl
  have triple : zeroTriple.WellFormed := by
    simp [zeroTriple, Value.WellFormed, Value.WellFormedItems, digitValue_wellFormed]
  have two := isDocument_plainWith [zeroTriple, zeroTriple]
    (by simp [Value.WellFormedItems, triple]) (by decide +kernel)
  have three := isDocument_plainWith [zeroTriple, zeroTriple, zeroTriple]
    (by simp [Value.WellFormedItems, triple]) (by decide +kernel)
  have four := isDocument_plainWith [zeroTriple, zeroTriple, zeroTriple, .null]
    (by simp [Value.WellFormed, Value.WellFormedItems, triple]) (by decide +kernel)
  constructor
  · obtain ⟨decides, -, same⟩ := withRecord_decides place two
    obtain ⟨_, accepted⟩ := plain_decodes
    have form : (Value.list [zeroTriple, zeroTriple]).IsRecord Double.FitsSingle := by
      exact Value.isRecord_fitsSingle.mpr ⟨grey 0, by decide +kernel, by decide +kernel⟩
    obtain ⟨g, decoded⟩ := (decides _ _ plain_isDocument accepted).1.mpr form
    exact ⟨g, decoded, (same _ _ _ rfl three g).mp decoded⟩
  · apply (withRecord_decides place four).2.1
    intro form
    rcases form.1 with length | length <;> contradiction

end Structured

end DenseMedium
