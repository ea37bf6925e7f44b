import DenseMedium.Proofs.Json.Refused
import DenseMedium.Proofs.Structured.Places

/-!
The members of a document, in any order and with company.

What an object describes depends on which values its members of each name have, and not on where they
stand. Members that no field has the name of do not count at all.

* `Pending.perm`, `Pending.append`: what is due for a draft stays due in another order and in company.
* `Pending.reads`: some members may be read and the others left for later.
* `Pending.finish_eq_error`, `Pending.field_eq_error`: what is missing before the last field is read,
  and what is too much once a field has been read.
* `document_members`: a document that is accepted stays so, as the same grid, in any order and company.
  Without one of its fields, or with one of them twice, it is refused, and by name.
-/

namespace DenseMedium

namespace Structured

open Json

namespace Document

open Value

/-- The names that a document must have a member of. -/
def fieldNames : List String := ["width", "height", "depth", "grid"]

/-- Whether the members have names, none of which is that of a field. -/
def Company (ms : List (Bytes × Value)) : Prop :=
  ∀ m ∈ ms, ∃ name, keyName? m.1 = some name ∧ name ∉ fieldNames

/-! ### Members by name -/

section Named

variable {name : String} {m : Bytes × Value} {v : Value} {ms ns extra : List (Bytes × Value)}

theorem named_append (name : String) (ms ns : List (Bytes × Value)) :
    named name (ms ++ ns) = named name ms ++ named name ns := by
  unfold named
  rw [List.filter_append, List.map_append]

theorem named_perm (same : ms.Perm ns) : (named name ms).Perm (named name ns) :=
  (same.filter _).map _

theorem mem_named (h : m ∈ ms) (spelled : keyName? m.1 = some name) : m.2 ∈ named name ms :=
  List.mem_map_of_mem (List.mem_filter.mpr ⟨h, decide_eq_true spelled⟩)

theorem named_company (company : Company ms) (field : name ∈ fieldNames) : named name ms = [] := by
  unfold named
  rw [List.map_eq_nil_iff, List.filter_eq_nil_iff]
  intro m hm
  obtain ⟨other, spelled, noField⟩ := company m hm
  rw [spelled, decide_eq_true_eq, Option.some.injEq]
  rintro rfl
  exact noField field

theorem only?_eq_some : only? name ms = some v ↔ named name ms = [v] := by
  unfold only?
  split
  · rename_i single
    rw [single]
    simp
  · rename_i several
    exact iff_of_false nofun (several v)

/-- The only value with a name is the same in any order. -/
theorem only?_perm (same : ms.Perm ns) : only? name ms = only? name ns := by
  ext v
  rw [only?_eq_some, only?_eq_some, ← List.perm_singleton, ← List.perm_singleton]
  exact ⟨(named_perm same).symm.trans, (named_perm same).trans⟩

end Named

/-! ### What is due -/

section Due

variable {α : Type} {name : String} {parse : Value → Option α} {current : Option α} {target : α}
  {ms ns : List (Bytes × Value)}

theorem Due.perm (h : Due name parse current target ms) (same : ms.Perm ns) :
    Due name parse current target ns := by
  refine h.imp (And.imp_right fun none => ?_) (And.imp_right fun value => ?_)
  · exact List.perm_nil.mp (none ▸ (named_perm same).symm)
  · rw [← only?_perm same]
    exact value

theorem Due.append {extra : List (Bytes × Value)} (h : Due name parse current target ms)
    (none : named name extra = []) : Due name parse current target (ms ++ extra) := by
  unfold Due only? at h ⊢
  rwa [named_append, none, List.append_nil]

/-- A field without a member has been read. -/
theorem Due.read (h : Due name parse current target ms) (none : named name ms = []) :
    current = some target := by
  rcases h with ⟨read, -⟩ | ⟨-, value⟩
  · exact read
  · unfold only? at value
    rw [none] at value
    contradiction

/-- A field that has not been read has one member. -/
theorem Due.exists_named (h : Due name parse none target ms) : ∃ v, named name ms = [v] := by
  obtain ⟨v, only, -⟩ := Option.bind_eq_some_iff.mp h.value
  exact ⟨v, only?_eq_some.mp only⟩

end Due

namespace Pending

variable {d : Document} {draft : Draft} {name : String} {ms ns : List (Bytes × Value)}

/-- What is due does not depend on the order of the members. -/
theorem perm (h : Pending d draft ms) (same : ms.Perm ns) : Pending d draft ns where
  spelled m hm := h.spelled m (same.mem_iff.mpr hm)
  width := h.width.perm same
  height := h.height.perm same
  depth := h.depth.perm same
  planes := h.planes.perm same

/-- Members with other names do not count. -/
theorem append {extra : List (Bytes × Value)} (h : Pending d draft ms) (company : Company extra) :
    Pending d draft (ms ++ extra) where
  spelled m hm := by
    rcases List.mem_append.mp hm with hm | hm
    · exact h.spelled m hm
    · obtain ⟨name, spelled, -⟩ := company m hm
      exact Option.isSome_of_eq_some spelled
  width := h.width.append (named_company company (by decide))
  height := h.height.append (named_company company (by decide))
  depth := h.depth.append (named_company company (by decide))
  planes := h.planes.append (named_company company (by decide))

/-- The first members are read, and what is due then is in the others. -/
theorem reads (h : Pending d draft (ms ++ ns)) :
    ∃ next, TakesMembers Draft.field draft ms next ∧ Pending d next ns := by
  induction ms generalizing draft with
  | nil => exact ⟨draft, .nil draft, h⟩
  | cons m ms ih =>
    obtain ⟨key, v⟩ := m
    obtain ⟨name, spelled⟩ := Option.isSome_iff_exists.mp (h.spelled (key, v) List.mem_cons_self)
    obtain ⟨reader, next, found, takes, pending⟩ := h.field spelled
    obtain ⟨last, others, due⟩ := ih pending
    exact ⟨last, .cons spelled found takes others, due⟩

/-- An object that describes a document has one member for each field. -/
theorem exists_named (h : Pending d .empty ms) (field : name ∈ fieldNames) :
    ∃ v, named name ms = [v] := by
  unfold fieldNames at field
  simp only [List.mem_cons, List.not_mem_nil, or_false] at field
  rcases field with rfl | rfl | rfl | rfl
  · exact h.width.exists_named
  · exact h.height.exists_named
  · exact h.depth.exists_named
  · exact h.planes.exists_named

/-- Before its last field is read, a draft cannot be finished. -/
theorem finish_eq_error {m : Bytes × Value} (h : Pending d draft [m])
    (spelled : keyName? m.1 = some name) (field : name ∈ fieldNames) :
    draft.finish = .error (.missingField name) := by
  obtain ⟨-, width, height, depth, planes⟩ := h
  unfold fieldNames at field
  simp only [List.mem_cons, List.not_mem_nil, or_false] at field
  unfold Draft.finish
  rcases field with rfl | rfl | rfl | rfl
  · rw [(width.of_eq spelled).1]
    rfl
  · rw [(width.of_ne spelled (by decide)).of_nil, (height.of_eq spelled).1]
    rfl
  · rw [(width.of_ne spelled (by decide)).of_nil, (height.of_ne spelled (by decide)).of_nil,
      (depth.of_eq spelled).1]
    rfl
  · rw [(width.of_ne spelled (by decide)).of_nil, (height.of_ne spelled (by decide)).of_nil,
      (depth.of_ne spelled (by decide)).of_nil, (planes.of_eq spelled).1]
    rfl

/-- A field that has been read has no room for another value. -/
theorem field_eq_error (h : Pending d draft ms) (field : name ∈ fieldNames)
    (none : named name ms = []) : draft.field name = .error (.duplicateField name) := by
  unfold fieldNames at field
  simp only [List.mem_cons, List.not_mem_nil, or_false] at field
  unfold Draft.field
  rcases field with rfl | rfl | rfl | rfl
  · rw [h.width.read none]
    rfl
  · rw [h.height.read none]
    rfl
  · rw [h.depth.read none]
    rfl
  · rw [h.planes.read none]
    rfl

end Pending

/-! ### Objects without a field, or with one twice -/

section Refused

variable {d : Document} {m : Bytes × Value} {name : String} {ms rest : List (Bytes × Value)}
  {b : Bytes}

/-- Without one of its fields an object is refused for that field. -/
theorem read_without (h : Pending d .empty (m :: ms)) (spelled : keyName? m.1 = some name)
    (field : name ∈ fieldNames) (isText : (Value.object ms).IsDocument b) :
    read .complete b = .error (.missingField name) := by
  have last : (m :: ms).Perm (ms ++ [m]) := (List.perm_append_singleton m ms).symm
  obtain ⟨draft, fills, due⟩ := (h.perm last).reads
  exact document_refuses
    (refuses_object_unfinished fills (due.finish_eq_error spelled field)) isText

/-- With one of its members twice an object is refused for the second, wherever the two stand. -/
theorem read_repeated (h : Pending d .empty ms) (member : m ∈ ms)
    (spelled : keyName? m.1 = some name) (field : name ∈ fieldNames) (twice : rest.Perm (m :: ms))
    (isText : (Value.object rest).IsDocument b) :
    read .complete b = .error (.duplicateField name) := by
  obtain ⟨before, others, rfl, unseen⟩ :=
    List.eq_append_cons_of_mem (twice.mem_iff.mpr List.mem_cons_self)
  have once : (before ++ others).Perm ms := (List.perm_middle.symm.trans twice).cons_inv
  have again : m ∈ others := (List.mem_append.mp (once.mem_iff.mpr member)).resolve_left unseen
  obtain ⟨between, after, rfl⟩ := List.append_of_mem again
  -- What stands before the second is an object without it, as far as it goes.
  have whole : (before ++ m :: between ++ after).Perm ms := by
    refine List.Perm.trans ?_ once
    rw [List.append_assoc, List.cons_append]
    exact (List.perm_middle.symm).append_left before
  have pending := h.perm whole.symm
  obtain ⟨draft, fills, due⟩ := pending.reads
  obtain ⟨v, only⟩ := pending.exists_named field
  have first : m.2 ∈ named name (before ++ m :: between) :=
    mem_named (List.mem_append_right _ List.mem_cons_self) spelled
  have none : named name after = [] := by
    rw [named_append] at only
    have count := congrArg List.length only
    have positive := List.length_pos_of_mem first
    rw [List.length_append, List.length_singleton] at count
    exact List.length_eq_zero_iff.mp (by omega)
  have text : before ++ m :: (between ++ m :: after) = before ++ m :: between ++ m :: after := by
    rw [List.append_assoc, List.cons_append]
  rw [text] at isText
  exact document_refuses (refuses_object_key fills spelled (due.field_eq_error field none)) isText

/-- An object with two members of the name of a field describes nothing. -/
theorem document?_repeated (h : Pending d .empty ms) (spelled : keyName? m.1 = some name)
    (field : name ∈ fieldNames) (twice : rest.Perm (m :: ms)) :
    (Value.object rest).document? = none := by
  refine Option.eq_none_iff_forall_ne_some.mpr fun d' described => ?_
  obtain ⟨v, only⟩ := h.exists_named field
  obtain ⟨w, only'⟩ := (document?_eq_some.mp described).exists_named field
  have moved : (named name rest).Perm (named name (m :: ms)) := named_perm twice
  have count := moved.length_eq
  rw [named_cons spelled, only, only'] at count
  simp at count

end Refused

end Document

/-! ### Decoding -/

open Document

theorem decode_of_read_eq_error {text : String} {x : ReadError}
    (h : Document.read .complete (Utf8.bytes text) = .error x) :
    decode text = refuse (readError x) := by
  unfold decode decodeBytes
  rw [h]

/-- **The members of a document may stand in any order and in company.** An object text that is
accepted has one member for each field. With its members in another order, and with others among them
that no field has the name of, it is accepted as the same grid. Without one of the fields it is
refused for that field. With two members for one field it is refused too, and if the second is a
repetition of the first, for being one. -/
theorem document_members {ms extra : List (Bytes × Value)} {text : String} {g : VoxelGrid}
    (isText : (Value.object ms).IsDocument (Utf8.bytes text)) (accepted : decode text = .ok g)
    (company : Company extra) :
    (∀ ms' text', ms'.Perm (ms ++ extra) → (Value.object ms').IsDocument (Utf8.bytes text') →
      decode text' = .ok g) ∧
    ∀ name ∈ fieldNames,
      (∃ v, Value.named name ms = [v]) ∧
      (∀ m rest ms' text', keyName? m.1 = some name → ms.Perm (m :: rest) →
        ms'.Perm (rest ++ extra) → (Value.object ms').IsDocument (Utf8.bytes text') →
        decode text' = refuse (.schema (.unreadable (.missingField name)))) ∧
      ∀ m ms' text', keyName? m.1 = some name → ms'.Perm (m :: (ms ++ extra)) →
        (Value.object ms').IsDocument (Utf8.bytes text') →
        ∃ x, decode text' = refuse (.schema (.unreadable x)) ∧ (m ∈ ms → x = .duplicateField name) := by
  obtain ⟨d, described, made⟩ := (decode_eq_ok_iff isText).mp accepted
  have alone := document?_eq_some.mp described
  have pending := alone.append company
  refine ⟨?_, fun name field => ⟨alone.exists_named field, ?_, ?_⟩⟩
  · intro ms' text' same isText'
    exact (decode_eq_ok_iff isText').mpr
      ⟨d, document?_eq_some.mpr (pending.perm same.symm), made⟩
  · intro m rest ms' text' spelled split same isText'
    have before : (ms ++ extra).Perm (m :: ms') :=
      (split.append_right extra).trans (same.symm.cons m)
    exact decode_of_read_eq_error (read_without (pending.perm before) spelled field isText')
  · intro m ms' text' spelled twice isText'
    by_cases member : m ∈ ms
    · have refused :=
        read_repeated pending (List.mem_append_left extra member) spelled field twice isText'
      exact ⟨_, decode_of_read_eq_error refused, fun _ => rfl⟩
    · obtain ⟨x, refused⟩ := decode_of_document?_eq_none isText'
        (document?_repeated pending spelled field twice)
      exact ⟨x, refused, fun h => absurd h member⟩

/-! ### A document by names -/

/-- A member of a document by its name. -/
def plainMember (name : String) (v : Value) : Bytes × Value := (Ascii.encode name, v)

/-- The members of the document of `plain` but for its width. -/
def plainOthers : List (Bytes × Value) :=
  [plainMember "height" (digitValue 1), plainMember "depth" (digitValue 1),
    plainMember "grid" (.list [.list [.list [greyRecord 1, greyRecord 2]]])]

def plainWidth : Bytes × Value := plainMember "width" (digitValue 2)

/-- A member that no field has the name of, with a string that is no text for its value. -/
def note : Bytes × Value := plainMember "note" (.string (Ascii.encode "\\ud800"))

def plainMembers : List (Bytes × Value) := note :: plainWidth :: plainOthers

/-- A text of an object of some of these members. -/
def textOf (ms : List (Bytes × Value)) : String := Ascii.decode (Value.object ms).text

theorem isDocument_textOf {ms : List (Bytes × Value)} (members : ms ⊆ plainMembers)
    (ascii : Ascii.IsAscii (Value.object ms).text) :
    (Value.object ms).IsDocument (Utf8.bytes (textOf ms)) := by
  have other : PlainName "note" := .of_all (by decide) (by decide)
  have lone : IsString (Ascii.encode "\\ud800") := .unicode (by decide) .nil
  refine isDocument_decode ?_ ascii
  rw [Value.WellFormed]
  clear ascii
  induction ms with
  | nil =>
    rw [Value.WellFormedMembers]
    trivial
  | cons m ms ih =>
    obtain ⟨head, tail⟩ := List.cons_subset.mp members
    rw [Value.WellFormedMembers]
    refine ⟨?_, ?_, ih tail⟩ <;>
    · simp only [plainMembers, plainOthers, List.mem_cons, List.not_mem_nil, or_false] at head
      rcases head with rfl | rfl | rfl | rfl | rfl <;>
        simp [note, plainWidth, plainMember, greyRecord, Value.WellFormed, Value.WellFormedItems,
          digitValue_wellFormed, plainName_width.isString, plainName_height.isString,
          plainName_depth.isString, plainName_grid.isString, other.isString, lone]

/-- The width may come last, behind a member that only the skipper takes. It may neither be left out
nor be repeated. -/
theorem document_members_plain :
    ∃ g, decode (textOf (plainWidth :: plainOthers)) = .ok g ∧
      decode (textOf (plainOthers ++ [note, plainWidth])) = .ok g ∧
      decode (textOf (note :: plainOthers)) =
        refuse (.schema (.unreadable (.missingField "width"))) ∧
      decode (textOf (plainWidth :: plainWidth :: note :: plainOthers)) =
        refuse (.schema (.unreadable (.duplicateField "width"))) := by
  have isText : (Value.object (plainWidth :: plainOthers)).IsDocument
      (Utf8.bytes (textOf (plainWidth :: plainOthers))) :=
    isDocument_textOf (List.subset_cons_self _ _) (by decide +kernel)
  obtain ⟨g, decoded⟩ := plain_decodes
  obtain ⟨d, described, made⟩ := (decode_eq_ok_iff plain_isDocument).mp decoded
  have accepted : decode (textOf (plainWidth :: plainOthers)) = .ok g :=
    (decode_eq_ok_iff isText).mpr ⟨d, described ▸ by decide +kernel, made⟩
  have company : Company [note] :=
    List.forall_mem_singleton.mpr ⟨"note", by decide +kernel, by decide⟩
  have width : keyName? plainWidth.1 = some "width" := by decide +kernel
  obtain ⟨same, fields⟩ := document_members isText accepted company
  obtain ⟨-, without, repeated⟩ := fields "width" (by decide)
  have last : (plainOthers ++ [note, plainWidth]).Perm (plainWidth :: plainOthers ++ [note]) :=
    List.perm_append_singleton plainWidth (plainOthers ++ [note])
  have noted : (note :: plainOthers).Perm (plainOthers ++ [note]) :=
    (List.perm_append_singleton note plainOthers).symm
  have hasNote : note ∈ plainMembers := List.mem_cons_self
  have hasWidth : plainWidth ∈ plainMembers := List.mem_cons_of_mem _ List.mem_cons_self
  have hasOthers : plainOthers ⊆ plainMembers := fun m hm => .tail _ (.tail _ hm)
  have noteAndOthers := List.cons_subset.mpr ⟨hasNote, hasOthers⟩
  have lastText := isDocument_textOf (List.append_subset.mpr ⟨hasOthers, List.cons_subset.mpr
    ⟨hasNote, List.cons_subset.mpr ⟨hasWidth, List.nil_subset _⟩⟩⟩) (by decide +kernel)
  have shortText := isDocument_textOf noteAndOthers (by decide +kernel)
  have longText := isDocument_textOf (List.cons_subset.mpr
    ⟨hasWidth, List.cons_subset.mpr ⟨hasWidth, noteAndOthers⟩⟩) (by decide +kernel)
  obtain ⟨x, refused, twice⟩ :=
    repeated plainWidth _ _ width ((noted.cons plainWidth).cons plainWidth) longText
  refine ⟨g, accepted, same _ _ last lastText, without _ _ _ _ width (.refl _) noted shortText, ?_⟩
  rw [refused, twice List.mem_cons_self]

end Structured

end DenseMedium
