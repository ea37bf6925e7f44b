import DenseMedium.Proofs.Json.Spelled

/-!
Objects that are refused for their members.

Members are read in order, so an object is refused for the first member that the draft does not want,
or else for what the draft still lacks behind the last one. In both cases the members before have been
read in full, and what stands behind does not matter.

* `members_refused`: the key of a member is refused before its value is looked at.
* `refuses_object_key`, `refuses_object_unfinished`: the two ways in which an object is refused.
* `document_refuses`: what is refused is refused as a whole document.
-/

namespace DenseMedium.Json

open Ascii

variable {α σ : Type} {e : Ending} {s t u : Bytes} {x : ReadError}

/-- Whether the reader refuses every text of a value with `x`. -/
structure Refuses (reader : Reader α) (v : Value) (x : ReadError) : Prop where
  fails {e : Ending} {s t u : Bytes} (text : Spells v t) (start : skipBlank u = t ++ s) :
    reader e u = .error x

/-- What is refused is refused as a whole document. -/
theorem document_refuses {reader : Reader α} {v : Value} {b : Bytes} (h : Refuses reader v x)
    (text : v.IsDocument b) : document reader .complete b = .error x := by
  obtain ⟨before, t, after, blanks, spelled, -, rfl⟩ := text
  have start := (skipBlank_blanks blanks).trans (spelled.skipBlank_eq (s := after))
  unfold document
  rw [h.fails spelled start]

/-! ### Members -/

section Members

variable {field : σ → String → Except ReadError (Reader σ)} {draft next last : σ} {name : String}
  {isFirst : Bool}

/-- The key of a member is refused before its colon. -/
theorem member_refused (key : Yields (stringContent e s) name t)
    (refused : field draft name = .error x) : member field draft e s = .error x := by
  obtain ⟨_, found⟩ := key
  unfold member Reader.bind
  rw [found]
  simp only [refused]
  rfl

theorem members_of_member_error (start : Starts (nextKey e isFirst s) t)
    (refused : member field draft e t = .error x) : members field e isFirst draft s = .error x := by
  obtain ⟨_, found⟩ := start
  rw [members, found]
  simp only [refused]

theorem members_of_others_error (start : Starts (nextKey e isFirst s) t)
    (reading : Yields (member field draft e t) next u)
    (refused : members field e false next u = .error x) :
    members field e isFirst draft s = .error x := by
  obtain ⟨_, key⟩ := start
  obtain ⟨_, found⟩ := reading
  rw [members, key]
  simp only [found, refused]

/-- Members are refused for the first key that the draft does not want, whatever follows it. -/
theorem members_refused {key : Bytes} {v : Value} {before after : List (Bytes × Value)}
    (fills : TakesMembers field draft before last) (named : keyName? key = some name)
    (refused : field last name = .error x)
    (text : MembersText Spells isFirst (before ++ (key, v) :: after) t) :
    members field e isFirst draft (t ++ s) = .error x := by
  induction fills generalizing isFirst t with
  | nil draft =>
    cases text with
    | member separated quoted blanks between text others =>
      rw [List.append_assoc, keyText_append]
      exact members_of_member_error separated.nextKey
        (member_refused (stringContent_keyName named) refused)
  | cons named' reads takes _ ih =>
    cases text with
    | @member _ lead key before after t rest _ _ separated quoted blanks between text others =>
      have colon : skipBlank (before ++ Ascii.colon :: (after ++ (t ++ (rest ++ s)))) =
          Ascii.colon :: (after ++ (t ++ (rest ++ s))) :=
        (skipBlank_blanks blanks).trans (skipBlank_of_head (by decide))
      have value := takes.yields text ((skipBlank_blanks between).trans text.skipBlank_eq)
        (others.follows (e := e) (s := s))
      rw [List.append_assoc, keyText_append, List.append_assoc]
      exact members_of_others_error separated.nextKey
        (member_yields (stringContent_keyName named') reads colon value) (ih refused others)

end Members

/-! ### Objects -/

section Objects

variable {field : σ → String → Except ReadError (Reader σ)} {empty last : σ}
  {finish : σ → Except ReadError α} {expected : String} {inOrder : Reader α}

theorem objectBody_of_members_error (refused : members field e true empty s = .error x) :
    objectBody field empty finish e s = .error x := by
  unfold objectBody
  rw [refused]

theorem objectBody_of_finish_error (reading : Yields (members field e true empty s) last t)
    (unfinished : finish last = .error x) : objectBody field empty finish e s = .error x := by
  obtain ⟨_, found⟩ := reading
  unfold objectBody
  rw [found]
  simp only [unfinished]

theorem struct_of_object_error {byName : Reader α} (start : skipBlank s = openObject :: t)
    (refused : byName e t = .error x) : struct expected inOrder byName e s = .error x := by
  rw [struct_object start, refused]
  rfl

/-- An object is refused for a key that the members before it leave no room for. -/
theorem refuses_object_key {key : Bytes} {v : Value} {name : String}
    {before after : List (Bytes × Value)} (fills : TakesMembers field empty before last)
    (named : keyName? key = some name) (refused : field last name = .error x) :
    Refuses (struct expected inOrder (objectBody field empty finish))
      (.object (before ++ (key, v) :: after)) x where
  fails text start := by
    cases text with
    | object members =>
      exact struct_of_object_error start
        (objectBody_of_members_error (members_refused fills named refused members))

/-- An object is refused for what its members leave undone. -/
theorem refuses_object_unfinished {ms : List (Bytes × Value)}
    (fills : TakesMembers field empty ms last) (unfinished : finish last = .error x) :
    Refuses (struct expected inOrder (objectBody field empty finish)) (.object ms) x where
  fails {e s _ _} text start := by
    cases text with
    | object members =>
      obtain ⟨_, -, reading⟩ := members_takes (e := e) (s := s) fills members
      exact struct_of_object_error start (objectBody_of_finish_error reading unfinished)

end Objects

end DenseMedium.Json
