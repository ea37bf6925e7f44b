import DenseMedium.Json.NumberLiteral
import DenseMedium.Json.StringLiteral

/-!
Skipping a value of any kind.

The skipper checks syntax only: the form of a number and not its size, the escapes of a string and
not its text. It keeps the brackets that are open, innermost first, so nesting has no limit, and it
is always at one of four places: before a value, just after an opening bracket, before a key, or
after a value.
-/

namespace DenseMedium.Json

inductive Bracket where
  | list
  | object
  deriving DecidableEq, Repr

namespace Bracket

def opening? (b : UInt8) : Option Bracket :=
  if b = Ascii.openList then some .list
  else if b = Ascii.openObject then some .object
  else none

def closing : Bracket → UInt8
  | .list => Ascii.closeList
  | .object => Ascii.closeObject

/-- The error where the bytes run out inside the bracket. -/
def unclosed : Bracket → Malformed
  | .list => .endInList
  | .object => .endInObject

/-- The error where an item is followed by neither a comma nor the closing bracket. -/
def separatorExpected : Bracket → Malformed
  | .list => .listCommaOrEndExpected
  | .object => .objectCommaOrEndExpected

end Bracket

/-- A place inside a value. The brackets that are open there come innermost first. -/
inductive Place where
  | beforeValue (brackets : List Bracket)
  | opened (innermost : Bracket) (outer : List Bracket)
  /-- Inside an object that is not among the brackets. -/
  | beforeKey (outer : List Bracket)
  | afterValue (brackets : List Bracket)
  deriving DecidableEq, Repr

namespace Place

/-- Where the items of a bracket start. -/
def item (k : Bracket) (outer : List Bracket) : Place :=
  match k with
  | .list => .beforeValue (.list :: outer)
  | .object => .beforeKey outer

/-- Places that hand over to another without taking a byte come after it. -/
def rank : Place → Nat
  | .opened .. => 1
  | _ => 0

theorem rank_item (k : Bracket) (outer : List Bracket) : (item k outer).rank = 0 := by
  cases k <;> rfl

end Place

/-- A literal word, a string or a number that starts with `b`. -/
def skipScalar (e : Ending) (b : UInt8) (r : Bytes) : Reading (b :: r) Unit :=
  if b = 0x6e then Reading.ended () (letters e nullTail r)
  else if b = 0x74 then Reading.ended () (letters e trueTail r)
  else if b = 0x66 then Reading.ended () (letters e falseTail r)
  else if b = Ascii.quote then (skipString e r).within (Nat.le_succ _)
  else if b = Ascii.minus then (skipNumber e r).within (Nat.le_succ _)
  else if (Ascii.digit? b).isSome then skipNumber e (b :: r)
  else breach .valueExpected

/-- Skips from a place to the end of the outermost value; answers with what follows it. -/
def skipFrom (e : Ending) (place : Place) (s : Bytes) : Except ReadError Bytes :=
  match place with
  | .beforeValue brackets =>
      match _ : skipBlank s with
      | [] => stopped e .endInValue
      | b :: r =>
          match Bracket.opening? b with
          | some k => skipFrom e (.opened k brackets) r
          | none =>
              match skipScalar e b r with
              | .error x => .error x
              | .ok (_, rest) => skipFrom e (.afterValue brackets) rest.1
  | .opened k outer =>
      match _ : skipBlank s with
      | [] => stopped e k.unclosed
      | b :: r =>
          if b = k.closing then skipFrom e (.afterValue outer) r
          else skipFrom e (.item k outer) (b :: r)
  | .beforeKey outer =>
      match _ : skipBlank s with
      | [] => stopped e .endInObject
      | b :: r =>
          if b = Ascii.quote then
            match skipString e r with
            | .error x => .error x
            | .ok (_, afterKey) =>
                match _ : skipBlank afterKey.1 with
                | [] => stopped e .endInObject
                | c :: t =>
                    if c = Ascii.colon then skipFrom e (.beforeValue (.object :: outer)) t
                    else breach .colonExpected
          else breach .keyNotString
  | .afterValue [] => .ok s
  | .afterValue (k :: outer) =>
      match _ : skipBlank s with
      | [] => stopped e k.unclosed
      | b :: r =>
          if b = Ascii.comma then skipFrom e (.item k outer) r
          else if b = k.closing then skipFrom e (.afterValue outer) r
          else breach k.separatorExpected
termination_by (s.length, place.rank)
decreasing_by
  · exact Prod.Lex.left _ _ (length_lt_of_skipBlank ‹skipBlank s = _›)
  · have := rest.2
    have := length_lt_of_skipBlank ‹skipBlank s = _›
    simp only [List.length_cons] at *
    exact Prod.Lex.left _ _ (by omega)
  · exact Prod.Lex.left _ _ (length_lt_of_skipBlank ‹skipBlank s = _›)
  · have := length_lt_of_skipBlank ‹skipBlank s = _›
    rw [Place.rank_item]
    exact Prod.Lex.right' _ (by simp only [List.length_cons]; omega) Nat.one_pos
  · have := afterKey.2
    have := length_lt_of_skipBlank ‹skipBlank s = _›
    have := length_lt_of_skipBlank ‹skipBlank afterKey.1 = _›
    exact Prod.Lex.left _ _ (by omega)
  · exact Prod.Lex.left _ _ (length_lt_of_skipBlank ‹skipBlank s = _›)
  · exact Prod.Lex.left _ _ (length_lt_of_skipBlank ‹skipBlank s = _›)

theorem length_skipFrom_le {e : Ending} {place : Place} {s r : Bytes}
    (h : skipFrom e place s = .ok r) : r.length ≤ s.length := by
  fun_induction skipFrom e place s generalizing r with
  | case1 | case5 | case8 | case10 | case15 => exact absurd h (stopped_ne_ok _ _ _)
  | case3 | case9 => contradiction
  | case12 | case13 | case18 => exact absurd h (breach_ne_ok _ _)
  | case2 _ _ _ _ hs _ _ ih => exact Nat.le_trans (ih h) (Nat.le_of_lt (length_lt_of_skipBlank hs))
  | case4 s _ b t hs _ _ rest _ ih =>
    have := ih h
    have := rest.2
    have := length_lt_of_skipBlank hs
    simp only [List.length_cons] at *
    omega
  | case6 _ _ _ _ hs ih => exact Nat.le_trans (ih h) (Nat.le_of_lt (length_lt_of_skipBlank hs))
  | case7 _ _ _ _ _ hs _ ih => exact Nat.le_trans (ih h) (length_lt_of_skipBlank hs)
  | case11 _ _ _ _ afterKey _ _ hs hc ih =>
    have := ih h
    have := afterKey.2
    have := length_lt_of_skipBlank hs
    have := length_lt_of_skipBlank hc
    omega
  | case14 => exact Nat.le_of_eq (congrArg List.length (Except.ok.inj h)).symm
  | case16 _ _ _ _ hs ih => exact Nat.le_trans (ih h) (Nat.le_of_lt (length_lt_of_skipBlank hs))
  | case17 _ _ _ _ hs _ ih => exact Nat.le_trans (ih h) (Nat.le_of_lt (length_lt_of_skipBlank hs))

/-- A skipped value takes at least one byte. -/
theorem length_skipFrom_beforeValue_lt {e : Ending} {brackets : List Bracket} {s r : Bytes}
    (h : skipFrom e (.beforeValue brackets) s = .ok r) : r.length < s.length := by
  unfold skipFrom at h
  split at h
  · exact absurd h (stopped_ne_ok _ _ _)
  · rename_i b t hs
    split at h
    · exact Nat.lt_of_le_of_lt (length_skipFrom_le h) (length_lt_of_skipBlank hs)
    · split at h
      · contradiction
      · rename_i rest _
        have := length_skipFrom_le h
        have := rest.2
        have := length_lt_of_skipBlank hs
        simp only [List.length_cons] at *
        omega

/-- A value of any kind. -/
def skipValue : Reader Unit := fun e s =>
  match h : skipFrom e (.beforeValue []) s with
  | .error x => .error x
  | .ok rest => .ok ((), ⟨rest, length_skipFrom_beforeValue_lt h⟩)

end DenseMedium.Json
