import DenseMedium.Proofs.Json.Spelled
import DenseMedium.Proofs.Structured.Framing
import Mathlib.Data.Option.Basic

/-!
The documents that JSON values describe.

`Value.document?` says which values have the form of a document, and which document each of them
describes: an object in which each of the names `width`, `height`, `depth` and `grid` occurs once,
or the list of those four values. Other members may stand between them. A record is a list of two
or three triples of numbers; without a third triple it does not emit.

* `takes_record`, `takes_planes`: the parts of a document are read as they are described.
* `Document.document?_eq_some`: an object describes a document exactly when its members hold all
  that is due for the empty draft.
* `Document.read_text_eq_ok`: every text of a value that describes a document is read as that
  document.
-/

namespace DenseMedium

namespace Json.Value

open Structured

/-! ### Descriptions -/

/-- What is made of a number by the value of its literal. Literals out of range have none. -/
def numeric? {α : Type} (make : Number → Option α) : Value → Option α
  | .number isNegative p => (p.value isNegative).bind make
  | _ => none

def double? : Value → Option Double :=
  numeric? fun
    | .integer v => some (Double.ofInt v)
    | .real d => some d

def word? : Value → Option UInt32 :=
  numeric? fun
    | .integer v => if 0 ≤ v ∧ v ≤ 4294967295 then some (UInt32.ofInt v) else none
    | .real _ => none

def components? : Value → Option Components
  | .list [r, g, b] => do return ⟨← r.double?, ← g.double?, ← b.double?⟩
  | _ => none

/-- A record of two or three triples. An emission that is left out is zero. -/
def record? : Value → Option RawRecord
  | .list [a, s] => do return ⟨← a.components?, ← s.components?, .zero⟩
  | .list [a, s, e] => do return ⟨← a.components?, ← s.components?, ← e.components?⟩
  | _ => none

def items? {α : Type} (item : Value → Option α) : Value → Option (List α)
  | .list vs => vs.mapM item
  | _ => none

def planes? : Value → Option (List Plane) := items? (items? (items? record?))

/-- The values of the members with a name. -/
def named (name : String) (ms : List (Bytes × Value)) : List Value :=
  (ms.filter fun m => keyName? m.1 = some name).map Prod.snd

/-- The value of the only member with a name. -/
def only? (name : String) (ms : List (Bytes × Value)) : Option Value :=
  match named name ms with
  | [v] => some v
  | _ => none

/-- The document that a value describes. In an object every key must spell a text. -/
def document? : Value → Option Document
  | .list [width, height, depth, grid] => do
      return ⟨← width.word?, ← height.word?, ← depth.word?, ← grid.planes?⟩
  | .object ms => do
      guard (∀ m ∈ ms, (keyName? m.1).isSome)
      let width ← (only? "width" ms).bind word?
      let height ← (only? "height" ms).bind word?
      let depth ← (only? "depth" ms).bind word?
      let planes ← (only? "grid" ms).bind planes?
      return ⟨width, height, depth, planes⟩
  | _ => none

end Json.Value

namespace Structured

open Json

/-! ### Parts -/

section Parts

variable {v : Value}

theorem takes_double {d : Double} (h : v.double? = some d) : Takes double v d := by
  unfold Value.double? Value.numeric? at h
  split at h
  · obtain ⟨n, value, made⟩ := Option.bind_eq_some_iff.mp h
    refine takes_numeric value ?_
    cases n <;> exact congrArg Except.ok (Option.some.inj made)
  · contradiction

theorem takes_unsignedWord {n : UInt32} (h : v.word? = some n) : Takes unsignedWord v n := by
  unfold Value.word? Value.numeric? at h
  split at h
  · obtain ⟨x, value, made⟩ := Option.bind_eq_some_iff.mp h
    refine takes_numeric value ?_
    cases x with
    | integer i =>
      dsimp only at made ⊢
      split at made
      · rename_i range
        rw [if_pos range]
        exact congrArg Except.ok (Option.some.inj made)
      · contradiction
    | real d => contradiction
  · contradiction

theorem takes_components {c : Components} (h : v.components? = some c) : Takes components v c := by
  unfold Value.components? at h
  split at h
  · obtain ⟨r, hr, h⟩ := Option.bind_eq_some_iff.mp h
    obtain ⟨g, hg, h⟩ := Option.bind_eq_some_iff.mp h
    obtain ⟨b, hb, h⟩ := Option.bind_eq_some_iff.mp h
    cases h
    exact takes_triple (takes_double hr) (takes_double hg) (takes_double hb)
  · contradiction

/-- A record is read with two triples or with three. -/
theorem takes_record {r : RawRecord} (h : v.record? = some r) : Takes record v r := by
  unfold Value.record? at h
  split at h
  · obtain ⟨sigmaA, ha, h⟩ := Option.bind_eq_some_iff.mp h
    obtain ⟨sigmaS, hs, h⟩ := Option.bind_eq_some_iff.mp h
    cases h
    refine takes_list fun text e s => ?_
    obtain ⟨_, text, first⟩ := (takes_components ha).first text
    obtain ⟨_, text, second⟩ := (takes_components hs).next 0 text
    exact (first e s).bind ((second e s).bind (orEnd_absent text.skipBlank_nil))
  · obtain ⟨sigmaA, ha, h⟩ := Option.bind_eq_some_iff.mp h
    obtain ⟨sigmaS, hs, h⟩ := Option.bind_eq_some_iff.mp h
    obtain ⟨emission, he, h⟩ := Option.bind_eq_some_iff.mp h
    cases h
    refine takes_list fun text e s => ?_
    obtain ⟨_, text, first⟩ := (takes_components ha).first text
    obtain ⟨_, text, second⟩ := (takes_components hs).next 0 text
    refine (first e s).bind ((second e s).bind ?_)
    cases text with
    | item separated text others =>
      rw [List.append_assoc, List.append_assoc]
      have third :=
        (takes_components he).yields text text.skipBlank_eq (others.follows (e := e) (s := s))
      exact orEnd_present (separated.nextItem text)
        (third.bind (endOfRecord_yields others.skipBlank_nil).map)
  · contradiction

theorem takes_items {α : Type} {item : Reader α} {parse : Value → Option α} {xs : List α}
    (h : ∀ {v x}, parse v = some x → Takes item v x) (values : v.items? parse = some xs) :
    Takes (sequence item) v xs := by
  unfold Value.items? at values
  split at values
  · exact takes_sequence h values
  · contradiction

theorem takes_planes {ps : List Plane} (h : v.planes? = some ps) : Takes planes v ps :=
  takes_items (fun plane => takes_items (fun row => takes_items takes_record row) plane) h

end Parts

/-! ### Documents -/

namespace Document

open Value

/-- What the members still to be read hold for a field: either it has been read and there is no
member for it, or it has not and there is one. -/
def Due {α : Type} (name : String) (parse : Value → Option α) (current : Option α) (target : α)
    (ms : List (Bytes × Value)) : Prop :=
  current = some target ∧ named name ms = [] ∨
    current = none ∧ (only? name ms).bind parse = some target

section Due

variable {α : Type} {name other : String} {parse : Value → Option α} {current : Option α}
  {target : α} {key : Bytes} {v : Value} {ms : List (Bytes × Value)}

theorem named_cons_of_ne (spelled : keyName? key = some other) (h : other ≠ name) :
    named name ((key, v) :: ms) = named name ms := by
  have skipped : ¬ (keyName? key = some name) := by
    rw [spelled, Option.some.injEq]
    exact h
  unfold named
  rw [List.filter_cons_of_neg (by simpa using skipped)]

theorem named_cons (spelled : keyName? key = some name) :
    named name ((key, v) :: ms) = v :: named name ms := by
  unfold named
  rw [List.filter_cons_of_pos (by simpa using spelled), List.map_cons]

/-- A member with another name leaves a field as it is. -/
theorem Due.of_ne (h : Due name parse current target ((key, v) :: ms))
    (spelled : keyName? key = some other) (ne : other ≠ name) :
    Due name parse current target ms := by
  unfold Due only? at h ⊢
  rwa [named_cons_of_ne spelled ne] at h

/-- A member with the name of a field that is due is the only one and has the value of the
field. -/
theorem Due.of_eq (h : Due name parse current target ((key, v) :: ms))
    (spelled : keyName? key = some name) :
    current = none ∧ parse v = some target ∧ Due name parse (some target) target ms := by
  unfold Due only? at h
  rw [named_cons spelled] at h
  rcases h with ⟨-, absurd⟩ | ⟨unread, value⟩
  · contradiction
  · cases rest : named name ms with
    | nil =>
      rw [rest] at value
      exact ⟨unread, value, .inl ⟨rfl, rest⟩⟩
    | cons w ws =>
      rw [rest] at value
      contradiction

theorem Due.of_nil (h : Due name parse current target []) : current = some target := by
  rcases h with ⟨read, -⟩ | ⟨-, value⟩
  · exact read
  · contradiction

end Due

/-- What the members still to be read hold for a draft of a document. -/
structure Pending (d : Document) (draft : Draft) (ms : List (Bytes × Value)) : Prop where
  spelled : ∀ m ∈ ms, (keyName? m.1).isSome
  width : Due "width" word? draft.width d.width ms
  height : Due "height" word? draft.height d.height ms
  depth : Due "depth" word? draft.depth d.depth ms
  planes : Due "grid" planes? draft.planes d.planes ms

theorem Due.value {α : Type} {name : String} {parse : Value → Option α} {target : α}
    {ms : List (Bytes × Value)} (h : Due name parse none target ms) :
    (only? name ms).bind parse = some target := by
  rcases h with ⟨absurd, -⟩ | ⟨-, value⟩
  · contradiction
  · exact value

/-- An object describes a document exactly when its members hold all that is due. -/
theorem document?_eq_some {d : Document} {ms : List (Bytes × Value)} :
    (Value.object ms).document? = some d ↔ Pending d .empty ms := by
  unfold Value.document?
  constructor
  · intro h
    obtain ⟨_, hkeys, h⟩ := Option.bind_eq_some_iff.mp h
    obtain ⟨w, hw, h⟩ := Option.bind_eq_some_iff.mp h
    obtain ⟨l, hl, h⟩ := Option.bind_eq_some_iff.mp h
    obtain ⟨n, hn, h⟩ := Option.bind_eq_some_iff.mp h
    obtain ⟨ps, hp, h⟩ := Option.bind_eq_some_iff.mp h
    cases h
    exact ⟨(Option.guard_eq_some' ()).mp hkeys, .inr ⟨rfl, hw⟩, .inr ⟨rfl, hl⟩, .inr ⟨rfl, hn⟩,
      .inr ⟨rfl, hp⟩⟩
  · rintro ⟨keys, width, height, depth, planes⟩
    have spelled := (Option.guard_eq_some' ()).mpr keys
    simp [spelled, width.value, height.value, depth.value, planes.value]

/-- The draft of a document that has been read. -/
def Draft.full (d : Document) : Draft := ⟨some d.width, some d.height, some d.depth, some d.planes⟩

/-- A member is read into the draft when its field is due, and skipped when it is no field. -/
theorem Pending.field {d : Document} {draft : Draft} {key : Bytes} {v : Value}
    {ms : List (Bytes × Value)} {name : String} (h : Pending d draft ((key, v) :: ms))
    (spelled : keyName? key = some name) :
    ∃ reader next, draft.field name = .ok reader ∧ Takes reader v next ∧ Pending d next ms := by
  have others := (List.forall_mem_cons.mp h.spelled).2
  unfold Draft.field
  split
  · rename_i isWidth
    subst isWidth
    obtain ⟨unread, value, rest⟩ := h.width.of_eq spelled
    rw [unread]
    exact ⟨_, { draft with width := some d.width }, rfl,
      (takes_unsignedWord value).map fun w => { draft with width := some w },
      others, rest, h.height.of_ne spelled (by decide), h.depth.of_ne spelled (by decide),
      h.planes.of_ne spelled (by decide)⟩
  rename_i notWidth
  split
  · rename_i isHeight
    subst isHeight
    obtain ⟨unread, value, rest⟩ := h.height.of_eq spelled
    rw [unread]
    exact ⟨_, { draft with height := some d.height }, rfl,
      (takes_unsignedWord value).map fun w => { draft with height := some w },
      others, h.width.of_ne spelled notWidth, rest, h.depth.of_ne spelled (by decide),
      h.planes.of_ne spelled (by decide)⟩
  rename_i notHeight
  split
  · rename_i isDepth
    subst isDepth
    obtain ⟨unread, value, rest⟩ := h.depth.of_eq spelled
    rw [unread]
    exact ⟨_, { draft with depth := some d.depth }, rfl,
      (takes_unsignedWord value).map fun w => { draft with depth := some w },
      others, h.width.of_ne spelled notWidth, h.height.of_ne spelled notHeight, rest,
      h.planes.of_ne spelled (by decide)⟩
  rename_i notDepth
  split
  · rename_i isGrid
    subst isGrid
    obtain ⟨unread, value, rest⟩ := h.planes.of_eq spelled
    rw [unread]
    exact ⟨_, { draft with planes := some d.planes }, rfl,
      (takes_planes value).map fun ps => { draft with planes := some ps },
      others, h.width.of_ne spelled notWidth, h.height.of_ne spelled notHeight,
      h.depth.of_ne spelled notDepth, rest⟩
  · rename_i notGrid
    exact ⟨_, draft, rfl, (takes_skipValue v).map fun _ => draft, others,
      h.width.of_ne spelled notWidth, h.height.of_ne spelled notHeight,
      h.depth.of_ne spelled notDepth, h.planes.of_ne spelled notGrid⟩

/-- The members fill the draft. -/
theorem Pending.takesMembers {d : Document} {ms : List (Bytes × Value)} {draft : Draft}
    (h : Pending d draft ms) : TakesMembers Draft.field draft ms (.full d) := by
  induction ms generalizing draft with
  | nil =>
    have same : draft = .full d := by
      cases draft
      exact congr (congr (congr (congrArg Draft.mk h.width.of_nil) h.height.of_nil) h.depth.of_nil)
        h.planes.of_nil
    exact same ▸ .nil _
  | cons m ms ih =>
    obtain ⟨key, v⟩ := m
    obtain ⟨name, spelled⟩ :=
      Option.isSome_iff_exists.mp (List.forall_mem_cons.mp h.spelled).1
    obtain ⟨reader, next, reads, takes, pending⟩ := h.field spelled
    exact .cons spelled reads takes (ih pending)

/-- The fields of a document may be listed in order. -/
theorem takes_inOrder {width height depth grid : Value} {w h l : UInt32} {ps : List Plane}
    (hw : width.word? = some w) (hh : height.word? = some h) (hl : depth.word? = some l)
    (hp : grid.planes? = some ps) :
    Takes (struct name inOrder byName) (.list [width, height, depth, grid]) ⟨w, h, l, ps⟩ := by
  refine takes_struct_list fun text e s => ?_
  obtain ⟨_, text, first⟩ := (takes_unsignedWord hw).first text
  obtain ⟨_, text, second⟩ := (takes_unsignedWord hh).next 0 text
  obtain ⟨_, text, third⟩ := (takes_unsignedWord hl).next 1 text
  obtain ⟨_, text, fourth⟩ := (takes_planes hp).next 2 text
  exact (first e s).bind ((second e s).bind ((third e s).bind ((fourth e s).bind
    (closeList_yields text.skipBlank_nil).map)))

/-- Whether a text consists of a value that describes the document. -/
def IsText (d : Document) (b : Bytes) : Prop := ∃ v : Value, v.document? = some d ∧ v.IsDocument b

/-- The text of a value that describes a document is read as that document. -/
theorem read_text_eq_ok {d : Document} {b : Bytes} (h : d.IsText b) : read .complete b = .ok d := by
  obtain ⟨v, h, text⟩ := h
  refine document_takes ?_ text
  cases v with
  | object ms => exact takes_object (document?_eq_some.mp h).takesMembers rfl
  | list vs =>
    unfold Value.document? at h
    split at h
    · rename_i fields
      cases fields
      obtain ⟨w, hw, h⟩ := Option.bind_eq_some_iff.mp h
      obtain ⟨l, hl, h⟩ := Option.bind_eq_some_iff.mp h
      obtain ⟨n, hn, h⟩ := Option.bind_eq_some_iff.mp h
      obtain ⟨ps, hp, h⟩ := Option.bind_eq_some_iff.mp h
      cases h
      exact takes_inOrder hw hl hn hp
    · contradiction
    · contradiction
  | null | boolean | number | string => cases h

end Document

end Structured

end DenseMedium
