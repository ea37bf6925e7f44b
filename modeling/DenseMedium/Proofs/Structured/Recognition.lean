import DenseMedium.Proofs.Json.Recognized
import DenseMedium.Proofs.Structured.Descriptions

/-!
Documents are read from the texts that describe them, and from no others.

* `reads_record`, `reads_planes`: what is read as a part of a document is a text of a value that
  describes it.
* `Document.pending_of_fill`: members that make a document out of the empty draft are those of an
  object that describes it.
* `Document.read_eq_ok`: a text is read as a document exactly when it is a text of that document.
-/

namespace DenseMedium

namespace Structured

open Json

/-! ### Parts -/

theorem reads_double : Reads double Value.double? := by
  refine reads_numeric fun {isNegative p n x} value accepted => ?_
  cases n with
  | integer i =>
    cases accepted
    simp [Value.double?, Value.numeric?, value]
  | real d =>
    cases accepted
    simp [Value.double?, Value.numeric?, value]

theorem reads_unsignedWord : Reads unsignedWord Value.word? := by
  refine reads_numeric fun {isNegative p n x} value accepted => ?_
  cases n with
  | integer i =>
    dsimp only at accepted
    split at accepted
    · rename_i range
      cases accepted
      simp [Value.word?, Value.numeric?, value, range]
    · contradiction
  | real d => contradiction

theorem reads_components : Reads components Value.components? := by
  refine reads_list (readsItems_triple Components.mk reads_double) fun {vs c} values => ?_
  match vs with
  | [] | [_] | [_, _] => simp [head?] at values
  | [r, g, b] => simpa [head?, nil?, Value.components?] using values
  | _ :: _ :: _ :: _ :: _ => simp [head?, nil?] at values

/-- The end of a record takes nothing but the closing bracket. -/
theorem endOfRecord_spelled {e : Ending} {s : Bytes} {r : Shorter s}
    (h : endOfRecord e s = .ok ((), r)) : closeList e s = .ok ((), r) := by
  unfold endOfRecord at h
  split at h
  · contradiction
  · exact h
  · split at h <;> contradiction

/-- What may follow the first two triples of a record. -/
def recordTail? (sigmaA sigmaS : Components) : List Value → Option RawRecord
  | [] => some ⟨sigmaA, sigmaS, .zero⟩
  | [v] => v.components?.bind fun emission => some ⟨sigmaA, sigmaS, emission⟩
  | _ => none

theorem readsItems_recordTail (sigmaA sigmaS : Components) :
    ReadsItems (recordTail sigmaA sigmaS) false (recordTail? sigmaA sigmaS) where
  spelled found := by
    unfold recordTail orEnd at found
    split at found
    · contradiction
    · obtain ⟨_, closing, rfl⟩ := Reader.map_eq_ok found
      obtain ⟨w, blanks, text⟩ := closeList_spelled closing
      exact ⟨[], _, text, .close blanks, rfl⟩
    · rename_i start next
      obtain ⟨unblanked, lead, separated, text⟩ := nextItem_spelled next
      obtain ⟨r', reading, same⟩ := within_eq_ok found
      obtain ⟨emission, afterItem, item, r'', last, same'⟩ := Reader.bind_eq_ok reading
      obtain ⟨_, closing, rfl⟩ := Reader.map_eq_ok last
      obtain ⟨w, blanks, close⟩ := closeList_spelled (endOfRecord_spelled closing)
      obtain ⟨v, t, itemText, spells, value⟩ := reads_components.spelled item
      rw [unblanked] at itemText
      refine ⟨[v], lead ++ (t ++ (w ++ [Ascii.closeList])), text.trans ?_,
        .item separated spells (.close blanks), ?_⟩
      · simp [itemText, close, same', same]
      · simp [recordTail?, value]

theorem reads_record : Reads record Value.record? := by
  have body : ReadsItems recordBody true
      (head? Value.components? fun a => head? Value.components? (recordTail? a)) :=
    readsItems_element reads_components 0 _ fun a =>
      readsItems_element reads_components 1 _ (readsItems_recordTail a)
  refine reads_list body fun {vs c} values => ?_
  match vs with
  | [] | [_] => simp [head?] at values
  | [a, s] => simpa [head?, recordTail?, Value.record?] using values
  | [a, s, e] => simpa [head?, recordTail?, Value.record?] using values
  | _ :: _ :: _ :: _ :: _ => simp [head?, recordTail?] at values

theorem reads_items {α : Type} {item : Reader α} {parse : Value → Option α}
    (h : Reads item parse) : Reads (sequence item) (Value.items? parse) :=
  reads_sequence h fun values => values

theorem reads_planes : Reads planes Value.planes? :=
  reads_items (reads_items (reads_items reads_record))

/-! ### Documents -/

namespace Document

open Value

/-- Puts the value of a field that must not be there yet. -/
def putOnce {α : Type} (current : Option α) (parse : Value → Option α) (make : α → Draft)
    (v : Value) : Option Draft :=
  if current.isSome then none else (parse v).map make

/-- What a member does to a draft. Members with other names do nothing. -/
def Draft.put (draft : Draft) (name : String) : Value → Option Draft :=
  if name = "width" then putOnce draft.width word? fun w => { draft with width := some w }
  else if name = "height" then putOnce draft.height word? fun h => { draft with height := some h }
  else if name = "depth" then putOnce draft.depth word? fun l => { draft with depth := some l }
  else if name = "grid" then putOnce draft.planes planes? fun ps => { draft with planes := some ps }
  else fun _ => some draft

section Once

variable {α : Type} {current : Option α} {parse : Value → Option α} {make : α → Draft}

theorem reads_of_once {name : String} {value : Reader α} {reader : Reader Draft}
    (found : once name current value make = .ok reader) (h : Reads value parse) :
    Reads reader (putOnce current parse make) := by
  unfold once at found
  split at found
  · contradiction
  · rename_i unread
    cases found
    unfold putOnce
    simpa [unread] using h.map make

theorem putOnce_eq_some {v : Value} {draft : Draft}
    (h : putOnce current parse make v = some draft) :
    current = none ∧ ∃ x, parse v = some x ∧ draft = make x := by
  unfold putOnce at h
  split at h
  · contradiction
  · rename_i unread
    obtain ⟨x, value, rfl⟩ := Option.map_eq_some_iff.mp h
    exact ⟨Option.not_isSome_iff_eq_none.mp unread, x, value, rfl⟩

end Once

theorem reads_field {draft : Draft} {name : String} {reader : Reader Draft}
    (found : draft.field name = .ok reader) : Reads reader (draft.put name) := by
  unfold Draft.field at found
  unfold Draft.put
  split at found
  · rename_i isWidth
    rw [if_pos isWidth]
    exact reads_of_once found reads_unsignedWord
  rename_i notWidth
  rw [if_neg notWidth]
  split at found
  · rename_i isHeight
    rw [if_pos isHeight]
    exact reads_of_once found reads_unsignedWord
  rename_i notHeight
  rw [if_neg notHeight]
  split at found
  · rename_i isDepth
    rw [if_pos isDepth]
    exact reads_of_once found reads_unsignedWord
  rename_i notDepth
  rw [if_neg notDepth]
  split at found
  · rename_i isGrid
    rw [if_pos isGrid]
    exact reads_of_once found reads_planes
  · rename_i notGrid
    rw [if_neg notGrid]
    cases found
    exact reads_skipValue.map fun _ => draft

section Due

variable {α : Type} {name other : String} {parse : Value → Option α} {current : Option α}
  {target x : α} {key : Bytes} {v : Value} {ms : List (Bytes × Value)}

theorem Due.cons_of_ne (h : Due name parse current target ms) (spelled : keyName? key = some other)
    (ne : other ≠ name) : Due name parse current target ((key, v) :: ms) := by
  unfold Due only? at h ⊢
  rwa [named_cons_of_ne spelled ne]

/-- A field that has been read was due before its member was read. -/
theorem Due.cons_of_eq (h : Due name parse (some x) target ms) (spelled : keyName? key = some name)
    (value : parse v = some x) : Due name parse none target ((key, v) :: ms) := by
  rcases h with ⟨read, none⟩ | ⟨absurd, -⟩
  · cases read
    refine .inr ⟨rfl, ?_⟩
    unfold only?
    rw [named_cons spelled, none]
    exact value
  · contradiction

end Due

/-- Members that fill a draft hold what is due for it. -/
theorem pending_of_fill {d : Document} {draft : Draft} {ms : List (Bytes × Value)}
    (h : fill? Draft.put draft ms = some (.full d)) : Pending d draft ms := by
  induction ms generalizing draft with
  | nil =>
    cases h
    exact ⟨nofun, .inl ⟨rfl, rfl⟩, .inl ⟨rfl, rfl⟩, .inl ⟨rfl, rfl⟩, .inl ⟨rfl, rfl⟩⟩
  | cons m ms ih =>
    obtain ⟨key, v⟩ := m
    obtain ⟨name, spelled, h⟩ := Option.bind_eq_some_iff.mp h
    obtain ⟨next, put, h⟩ := Option.bind_eq_some_iff.mp h
    obtain ⟨keys, width, height, depth, planes⟩ := ih h
    have keys : ∀ m ∈ (key, v) :: ms, (keyName? m.1).isSome :=
      List.forall_mem_cons.mpr ⟨Option.isSome_of_eq_some spelled, keys⟩
    unfold Draft.put at put
    split at put
    · rename_i isWidth
      subst isWidth
      obtain ⟨unread, w, value, rfl⟩ := putOnce_eq_some put
      exact ⟨keys, unread ▸ width.cons_of_eq spelled value,
        height.cons_of_ne spelled (by decide), depth.cons_of_ne spelled (by decide),
        planes.cons_of_ne spelled (by decide)⟩
    rename_i notWidth
    split at put
    · rename_i isHeight
      subst isHeight
      obtain ⟨unread, w, value, rfl⟩ := putOnce_eq_some put
      exact ⟨keys, width.cons_of_ne spelled notWidth, unread ▸ height.cons_of_eq spelled value,
        depth.cons_of_ne spelled (by decide), planes.cons_of_ne spelled (by decide)⟩
    rename_i notHeight
    split at put
    · rename_i isDepth
      subst isDepth
      obtain ⟨unread, w, value, rfl⟩ := putOnce_eq_some put
      exact ⟨keys, width.cons_of_ne spelled notWidth, height.cons_of_ne spelled notHeight,
        unread ▸ depth.cons_of_eq spelled value, planes.cons_of_ne spelled (by decide)⟩
    rename_i notDepth
    split at put
    · rename_i isGrid
      subst isGrid
      obtain ⟨unread, w, value, rfl⟩ := putOnce_eq_some put
      exact ⟨keys, width.cons_of_ne spelled notWidth, height.cons_of_ne spelled notHeight,
        depth.cons_of_ne spelled notDepth, unread ▸ planes.cons_of_eq spelled value⟩
    · rename_i notGrid
      cases put
      exact ⟨keys, width.cons_of_ne spelled notWidth, height.cons_of_ne spelled notHeight,
        depth.cons_of_ne spelled notDepth, planes.cons_of_ne spelled notGrid⟩

theorem finish_eq_ok {draft : Draft} {d : Document} (h : draft.finish = .ok d) :
    draft = .full d := by
  obtain ⟨width, height, depth, planes⟩ := draft
  cases width <;> cases height <;> cases depth <;> cases planes <;> cases h
  rfl

/-- The four fields in a list. -/
def listed? : List Value → Option Document :=
  head? word? fun width => head? word? fun height => head? word? fun depth =>
    head? planes? fun planes => nil? ⟨width, height, depth, planes⟩

theorem readsItems_inOrder : ReadsItems inOrder true listed? :=
  readsItems_element reads_unsignedWord 0 _ fun width =>
    readsItems_element reads_unsignedWord 1 _ fun height =>
      readsItems_element reads_unsignedWord 2 _ fun depth =>
        readsItems_element reads_planes 3 _ fun planes =>
          readsItems_close (⟨width, height, depth, planes⟩ : Document)

theorem document?_of_listed {vs : List Value} {d : Document} (h : listed? vs = some d) :
    (Value.list vs).document? = some d := by
  match vs with
  | [] | [_] | [_, _] | [_, _, _] => simp [listed?, head?] at h
  | [_, _, _, _] => simpa [listed?, head?, nil?, Value.document?] using h
  | _ :: _ :: _ :: _ :: _ :: _ => simp [listed?, head?, nil?] at h

/-- What is read as a document is a text that describes it. -/
theorem reads_document : Reads (struct name inOrder byName) Value.document? := by
  refine reads_struct readsItems_inOrder reads_field document?_of_listed fun filled finished => ?_
  rw [finish_eq_ok finished] at filled
  exact document?_eq_some.mpr (pending_of_fill filled)

/-- A text is read as a document exactly when it is a text of that document. -/
theorem read_eq_ok {d : Document} {b : Bytes} : read .complete b = .ok d ↔ d.IsText b := by
  constructor
  · intro h
    obtain ⟨v, text, described⟩ := document_spelled reads_document h
    exact ⟨v, described, text⟩
  · exact read_text_eq_ok

end Document

end Structured

end DenseMedium
