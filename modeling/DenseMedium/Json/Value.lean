import DenseMedium.Json.NumberLiteral
import DenseMedium.Json.StringLiteral
import DenseMedium.Json.List

/-!
Values of an expected form.

The first byte of a value decides what it is. A value of another form than the expected one is an
error that names both; a scalar is read to its end before it is reported, so a breach of the grammar
inside it is reported instead.
-/

namespace DenseMedium.Json

variable {α : Type}

/-- The scalar, list or object that starts with `b`, for a report. -/
def found (e : Ending) (b : UInt8) (r : Bytes) : Except ReadError Found :=
  let numeric : Number → Found
    | .integer v => .integer v
    | .real d => .real d
  if b = 0x6e then (letters e nullTail r).map fun _ => .null
  else if b = 0x74 then (letters e trueTail r).map fun _ => .boolean true
  else if b = 0x66 then (letters e falseTail r).map fun _ => .boolean false
  else if b = Ascii.minus then (number true e r).map fun v => numeric v.1
  else if (Ascii.digit? b).isSome then (number false e (b :: r)).map fun v => numeric v.1
  else if b = Ascii.quote then (stringContent e r).map fun v => .string v.1
  else if b = Ascii.openList then .ok .list
  else if b = Ascii.openObject then .ok .object
  else breach .valueExpected

/-- Ends the reading of a value that is not of the expected form. -/
def unexpected (expected : String) (e : Ending) (b : UInt8) (r : Bytes) : Except ReadError α :=
  match found e b r with
  | .error x => .error x
  | .ok f => .error (.invalidType f expected)

theorem unexpected_ne_ok {expected : String} {e : Ending} {b : UInt8} {r : Bytes} {v : α} :
    unexpected expected e b r ≠ .ok v := by
  unfold unexpected
  split <;> nofun

/-! ### Numbers -/

/-- A number that `accept` takes. -/
def numeric (expected : String) (accept : Number → Except ReadError α) : Reader α := fun e s =>
  match _ : skipBlank s with
  | [] => stopped e .endInValue
  | b :: r =>
      let reading : Reading (b :: r) Number :=
        if b = Ascii.minus then (number true e r).within (length_le_cons b r)
        else if (Ascii.digit? b).isSome then number false e (b :: r)
        else unexpected expected e b r
      match reading with
      | .error x => .error x
      | .ok (v, rest) =>
          match accept v with
          | .error x => .error x
          | .ok v => .ok (v, ⟨rest.1,
              Nat.lt_of_lt_of_le rest.2 (length_lt_of_skipBlank ‹skipBlank s = _›)⟩)

/-- An integer from `least` to `most`. -/
def integer (expected : String) (least most : Int) (make : Int → α) : Reader α :=
  numeric expected fun
    | .integer v =>
        if least ≤ v ∧ v ≤ most then .ok (make v) else .error (.invalidValue v expected)
    | .real d => .error (.invalidType (.real d) expected)

def unsignedWord : Reader UInt32 := integer "u32" 0 4294967295 UInt32.ofInt

def coordinate : Reader Int32 := integer "i32" (-2147483648) 2147483647 Int32.ofInt

/-- A number in double precision. -/
def double : Reader Double :=
  numeric "f64" fun
    | .integer v => .ok (Double.ofInt v)
    | .real d => .ok d

/-- A number in single precision. One that is real by its literal is rounded twice. -/
def single : Reader Single :=
  numeric "f32" fun
    | .integer v => .ok (Single.ofInt v)
    | .real d => .ok d.narrow

/-! ### Lists and objects -/

/-- A list, by its inside. -/
def list (expected : String) (body : Reader α) : Reader α := fun e s =>
  match _ : skipBlank s with
  | [] => stopped e .endInValue
  | b :: r =>
      if b = Ascii.openList then
        (body e r).within (length_le_of_skipBlank ‹skipBlank s = _›)
      else unexpected expected e b r

/-- A structure: an object, or a list of its fields in order. -/
def struct (expected : String) (inOrder byName : Reader α) : Reader α := fun e s =>
  match _ : skipBlank s with
  | [] => stopped e .endInValue
  | b :: r =>
      if b = Ascii.openList then
        (inOrder e r).within (length_le_of_skipBlank ‹skipBlank s = _›)
      else if b = Ascii.openObject then
        (byName e r).within (length_le_of_skipBlank ‹skipBlank s = _›)
      else unexpected expected e b r

/-- A list of any number of items. -/
def sequence (item : Reader α) : Reader (List α) := list "a sequence" (listBody item)

/-- A list of three items, which `make` puts together. -/
def triple {β : Type} (make : α → α → α → β) (item : Reader α) : Reader β :=
  list tripleName (tripleBody make item)

/-- A whole document: one value, with nothing but blanks around it. -/
def document (value : Reader α) (e : Ending) (s : Bytes) : Except ReadError α :=
  match value e s with
  | .error x => .error x
  | .ok (v, rest) =>
      match endOfDocument e rest.1 with
      | .error x => .error x
      | .ok () => .ok v

end DenseMedium.Json
