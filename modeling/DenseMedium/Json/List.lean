import DenseMedium.Json.Cursor

/-!
The inside of lists.

A list is read item by item. `nextItem` finds the next item or the end of the list, `items` reads as
many items as there are, `element` the item at a given place of a list whose length is fixed. The
reader of a list consumes the closing bracket last, and complains differently about what stands
there once it wants no more items.
-/

namespace DenseMedium.Json

variable {α : Type}

/-- Where the next item starts; nothing at the closing bracket, which stays. -/
def nextItem (e : Ending) (isFirst : Bool) (s : Bytes) : Except ReadError (Option (Rest s)) :=
  match _ : skipBlank s with
  | [] => stopped e .endInList
  | b :: r =>
      if b = Ascii.closeList then .ok none
      else if isFirst then
        .ok (some ⟨b :: r, length_lt_of_skipBlank ‹skipBlank s = _›⟩)
      else if b = Ascii.comma then
        match _ : skipBlank r with
        | [] => stopped e .endInValue
        | c :: t =>
            if c = Ascii.closeList then breach .trailingComma
            else .ok (some ⟨c :: t, Nat.le_trans (length_lt_of_skipBlank ‹skipBlank r = _›)
              (Nat.le_of_lt (length_lt_of_skipBlank ‹skipBlank s = _›))⟩)
      else breach .listCommaOrEndExpected

/-- All items up to the closing bracket, which stays. -/
def items (item : Reader α) (e : Ending) (isFirst : Bool) (s : Bytes) :
    Except ReadError (List α × Rest s) :=
  match nextItem e isFirst s with
  | .error x => .error x
  | .ok none => .ok ([], ⟨s, Nat.le_refl _⟩)
  | .ok (some start) =>
      match item e start.1 with
      | .error x => .error x
      | .ok (v, afterItem) =>
          match items item e false afterItem.1 with
          | .error x => .error x
          | .ok (vs, rest) =>
              .ok (v :: vs,
                ⟨rest.1, Nat.le_trans rest.2 (Nat.le_trans (Nat.le_of_lt afterItem.2) start.2)⟩)
termination_by s.length
decreasing_by exact Nat.lt_of_lt_of_le afterItem.2 start.2

/-- The item after `count` others in a list whose length is fixed. -/
def element (item : Reader α) (count : Nat) (expected : String) : Reader α := fun e s =>
  match nextItem e (count == 0) s with
  | .error x => .error x
  | .ok none => .error (.invalidLength count expected)
  | .ok (some start) => (item e start.1).within start.2

/-- The closing bracket of a list that has all its items. -/
def closeList : Reader Unit := fun e s =>
  match _ : skipBlank s with
  | [] => stopped e .endInList
  | b :: r =>
      if b = Ascii.closeList then .ok ((), ⟨r, length_lt_of_skipBlank ‹skipBlank s = _›⟩)
      else if b = Ascii.comma ∧ (skipBlank r).head? = some Ascii.closeList then
        breach .trailingComma
      else breach .trailingCharacters

/-- The rest of a list that may end here: `present` reads a last item and the end of the list, and
`absent` is the value when there is no such item. -/
def orEnd (present : Reader α) (absent : α) : Reader α := fun e s =>
  match nextItem e false s with
  | .error x => .error x
  | .ok none => (closeList.map fun _ => absent) e s
  | .ok (some start) => (present e start.1).within start.2

/-- The inside of a list of any length. -/
def listBody (item : Reader α) : Reader (List α) := fun e s =>
  match items item e true s with
  | .error x => .error x
  | .ok (vs, rest) => ((closeList.map fun _ => vs) e rest.1).within rest.2

theorem listBody_eq_ok {item : Reader α} {e : Ending} {s : Bytes} {vs : List α} {r : Shorter s}
    (h : listBody item e s = .ok (vs, r)) : ∃ rest, items item e true s = .ok (vs, rest) ∧
      ∃ r', closeList e rest.1 = .ok ((), r') ∧ r'.1 = r.1 := by
  unfold listBody at h
  split at h
  · contradiction
  · rename_i vs' rest reading
    obtain ⟨r', last, same⟩ := within_eq_ok h
    obtain ⟨_, closing, rfl⟩ := Reader.map_eq_ok last
    exact ⟨rest, reading, r', closing, same⟩

/-! ### Triples -/

def tripleName : String := "an array of length 3"

/-- The inside of a list of three items, which `make` puts together. -/
def tripleBody {β : Type} (make : α → α → α → β) (item : Reader α) : Reader β :=
  (element item 0 tripleName).bind fun a =>
    (element item 1 tripleName).bind fun b =>
      (element item 2 tripleName).bind fun c =>
        closeList.map fun _ => make a b c

end DenseMedium.Json
