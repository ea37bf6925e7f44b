import DenseMedium.Json.StringLiteral

/-!
The inside of objects.

An object is read member by member into a draft. For each key, `field` says how the value is to be
read into the draft, or refuses the key before its colon is looked at. Keys may come in any order.
-/

namespace DenseMedium.Json

variable {σ : Type}

/-- The bytes after the opening quote of the next key; nothing at the closing brace, which stays. -/
def nextKey (e : Ending) (isFirst : Bool) (s : Bytes) : Except ReadError (Option (Rest s)) :=
  match _ : skipBlank s with
  | [] => stopped e .endInObject
  | b :: r =>
      if b = Ascii.closeObject then .ok none
      else if isFirst then
        if b = Ascii.quote then
          .ok (some ⟨r, Nat.le_of_lt (length_lt_of_skipBlank ‹skipBlank s = _›)⟩)
        else breach .keyNotString
      else if b = Ascii.comma then
        match _ : skipBlank r with
        | [] => stopped e .endInValue
        | c :: t =>
            if c = Ascii.quote then
              .ok (some ⟨t, Nat.le_trans (Nat.le_of_lt (length_lt_of_skipBlank ‹skipBlank r = _›))
                (Nat.le_of_lt (length_lt_of_skipBlank ‹skipBlank s = _›))⟩)
            else if c = Ascii.closeObject then breach .trailingComma
            else breach .keyNotString
      else breach .objectCommaOrEndExpected

/-- The colon after a key. -/
def colon : Reader Unit := fun e s =>
  match _ : skipBlank s with
  | [] => stopped e .endInObject
  | b :: r =>
      if b = Ascii.colon then .ok ((), ⟨r, length_lt_of_skipBlank ‹skipBlank s = _›⟩)
      else breach .colonExpected

/-- A member whose opening quote is gone. -/
def member (field : σ → String → Except ReadError (Reader σ)) (draft : σ) : Reader σ :=
  stringContent.bind fun key e s =>
    match field draft key with
    | .error x => .error x
    | .ok value => (colon.bind fun _ => value) e s

/-- All members up to the closing brace, which stays. -/
def members (field : σ → String → Except ReadError (Reader σ)) (e : Ending) (isFirst : Bool)
    (draft : σ) (s : Bytes) : Except ReadError (σ × Rest s) :=
  match nextKey e isFirst s with
  | .error x => .error x
  | .ok none => .ok (draft, ⟨s, Nat.le_refl _⟩)
  | .ok (some start) =>
      match member field draft e start.1 with
      | .error x => .error x
      | .ok (draft, afterMember) =>
          match members field e false draft afterMember.1 with
          | .error x => .error x
          | .ok (draft, rest) =>
              .ok (draft,
                ⟨rest.1, Nat.le_trans rest.2 (Nat.le_trans (Nat.le_of_lt afterMember.2) start.2)⟩)
termination_by s.length
decreasing_by exact Nat.lt_of_lt_of_le afterMember.2 start.2

/-- The closing brace of an object whose members have all been read. -/
def closeObject : Reader Unit := fun e s =>
  match _ : skipBlank s with
  | [] => stopped e .endInObject
  | b :: r =>
      if b = Ascii.closeObject then .ok ((), ⟨r, length_lt_of_skipBlank ‹skipBlank s = _›⟩)
      else breach .trailingCharacters

/-- The inside of an object. The finished draft is looked at before the brace is taken. -/
def objectBody {α : Type} (field : σ → String → Except ReadError (Reader σ)) (empty : σ)
    (finish : σ → Except ReadError α) : Reader α := fun e s =>
  match members field e true empty s with
  | .error x => .error x
  | .ok (draft, rest) =>
      match finish draft with
      | .error x => .error x
      | .ok v => ((closeObject.map fun _ => v) e rest.1).within rest.length_le

theorem objectBody_eq_ok {α : Type} {field : σ → String → Except ReadError (Reader σ)} {empty : σ}
    {finish : σ → Except ReadError α} {e : Ending} {s : Bytes} {v : α} {r : Shorter s}
    (h : objectBody field empty finish e s = .ok (v, r)) :
    ∃ draft rest, members field e true empty s = .ok (draft, rest) ∧ finish draft = .ok v ∧
      ∃ r', closeObject e rest.1 = .ok ((), r') ∧ r'.1 = r.1 := by
  unfold objectBody at h
  split at h
  · contradiction
  · rename_i draft rest reading
    split at h
    · contradiction
    · rename_i v' finished
      obtain ⟨r', last, same⟩ := within_eq_ok h
      obtain ⟨_, closing, rfl⟩ := Reader.map_eq_ok last
      exact ⟨draft, rest, reading, finished, r', closing, same⟩

/-- The value of a field that must be there. -/
def required {α : Type} (name : String) (v : Option α) : Except ReadError α :=
  match v with
  | some v => .ok v
  | none => .error (.missingField name)

/-- Reads the value of a field that must not be there yet, and puts it into the draft. -/
def once {α : Type} (name : String) (current : Option α) (value : Reader α) (put : α → σ) :
    Except ReadError (Reader σ) :=
  if current.isSome then .error (.duplicateField name) else .ok (value.map put)

end DenseMedium.Json
