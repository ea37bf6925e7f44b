import DenseMedium.Json.Error
import DenseMedium.Stream.Source

/-!
Reading from the front of the bytes that are left.

A reader takes what it recognises from the front and answers with a value and the bytes after it.
Every value takes at least one byte, and the result says so in its type, which is why the readers of
lists, objects and skipped values end. Where the bytes run out the answer depends on what follows
them: the end of the document is a breach of the grammar, a broken source is an error of the source.
-/

namespace DenseMedium.Json

/-- What is left of `s` after at least one byte was taken. -/
abbrev Shorter (s : Bytes) := {r : Bytes // r.length < s.length}

/-- What is left of `s` after any number of bytes was taken. -/
abbrev Rest (s : Bytes) := {r : Bytes // r.length ≤ s.length}

theorem Rest.length_le {s : Bytes} (rest : Rest s) : rest.1.length ≤ s.length := rest.2

theorem length_le_cons (b : UInt8) (r : Bytes) : r.length ≤ (b :: r).length := Nat.le_succ _

/-- A value from the front of `s` and what is left. -/
abbrev Reading (s : Bytes) (α : Type) := Except ReadError (α × Shorter s)

abbrev Reader (α : Type) := Ending → (s : Bytes) → Reading s α

variable {α β : Type}

/-- A value from the front of `s`, seen from bytes that `s` was left of. -/
def Reading.within {s t : Bytes} (r : Reading s α) (h : s.length ≤ t.length) : Reading t α :=
  match r with
  | .ok (v, rest) => .ok (v, ⟨rest.1, Nat.lt_of_lt_of_le rest.2 h⟩)
  | .error e => .error e

/-- The value `v` for a byte and what was taken after it. -/
def Reading.ended {b : UInt8} {r : Bytes} (v : α) (taken : Except ReadError (Rest r)) :
    Reading (b :: r) α :=
  match taken with
  | .ok rest => .ok (v, ⟨rest.1, Nat.lt_succ_of_le rest.2⟩)
  | .error e => .error e

theorem within_eq_ok {s t : Bytes} {reading : Reading s α} {le : s.length ≤ t.length} {v : α}
    {r : Shorter t} (h : reading.within le = .ok (v, r)) :
    ∃ r', reading = .ok (v, r') ∧ r'.1 = r.1 := by
  cases reading with
  | error x => contradiction
  | ok taken =>
    cases h
    exact ⟨_, rfl, rfl⟩

namespace Reader

/-- One value, and after it another that may depend on it. -/
def bind (first : Reader α) (next : α → Reader β) : Reader β := fun e s =>
  match first e s with
  | .ok (v, rest) => (next v e rest.1).within (Nat.le_of_lt rest.2)
  | .error x => .error x

def map (f : α → β) (reader : Reader α) : Reader β := fun e s =>
  match reader e s with
  | .ok (v, rest) => .ok (f v, rest)
  | .error x => .error x

section

variable {e : Ending} {s : Bytes} {first : Reader α} {w : β} {r : Shorter s}

theorem bind_eq_ok {next : α → Reader β} (h : (first.bind next) e s = .ok (w, r)) :
    ∃ v r', first e s = .ok (v, r') ∧ ∃ r'', next v e r'.1 = .ok (w, r'') ∧ r''.1 = r.1 := by
  unfold bind at h
  split at h
  · rename_i v r' found
    exact ⟨v, r', found, within_eq_ok h⟩
  · contradiction

theorem map_eq_ok {f : α → β} (h : (first.map f) e s = .ok (w, r)) :
    ∃ v, first e s = .ok (v, r) ∧ f v = w := by
  unfold map at h
  split at h
  · rename_i v r' found
    cases h
    exact ⟨v, found, rfl⟩
  · contradiction

end

end Reader

def breach (m : Malformed) : Except ReadError α := .error (.malformed m)

/-- The error where the bytes run out: `m`, unless the source broke there. -/
def stopped (e : Ending) (m : Malformed) : Except ReadError α :=
  match e with
  | .complete => breach m
  | .broken cause => .error (.source cause)

theorem breach_ne_ok (m : Malformed) (v : α) : breach m ≠ .ok v := nofun

theorem stopped_ne_ok (e : Ending) (m : Malformed) (v : α) : stopped e m ≠ .ok v := by
  cases e <;> nofun

/-! ### Blanks -/

def isBlank (b : UInt8) : Bool := b = 0x20 || b = 0x0a || b = 0x09 || b = 0x0d

def skipBlank : Bytes → Bytes
  | [] => []
  | b :: r => if isBlank b then skipBlank r else b :: r

theorem length_skipBlank_le (s : Bytes) : (skipBlank s).length ≤ s.length := by
  induction s with
  | nil => simp [skipBlank]
  | cons b r ih =>
    unfold skipBlank
    split
    · simp only [List.length_cons]; omega
    · exact Nat.le_refl _

/-- What follows the blanks is no longer than what they precede. -/
theorem length_lt_of_skipBlank {s r : Bytes} {b : UInt8} (h : skipBlank s = b :: r) :
    r.length < s.length := by
  have := length_skipBlank_le s
  rw [h, List.length_cons] at this
  omega

theorem length_le_of_skipBlank {s r : Bytes} {b : UInt8} (h : skipBlank s = b :: r) :
    r.length ≤ s.length := Nat.le_of_lt (length_lt_of_skipBlank h)

section First

variable {s r : Bytes} {b : UInt8}

/-- A reader that looks past the blanks goes on from the byte that stands there. Its answer depends
on where it looked, so the byte cannot be rewritten in place. -/
theorem match_skipBlank {nothing : skipBlank s = [] → α}
    {first : (b : UInt8) → (r : Bytes) → skipBlank s = b :: r → α} (start : skipBlank s = b :: r) :
    (match h : skipBlank s with
      | [] => nothing h
      | b :: r => first b r h) = first b r start := by
  split
  · rename_i none
    rw [start] at none
    contradiction
  · rename_i some
    cases start.symm.trans some
    rfl

/-- A reader that looks past the blanks and answers has found a byte there. -/
theorem exists_first_of_ok {e : Ending} {m : Malformed} {v : α}
    {first : (b : UInt8) → (r : Bytes) → skipBlank s = b :: r → Except ReadError α}
    (h : (match h : skipBlank s with
      | [] => stopped e m
      | b :: r => first b r h) = .ok v) :
    ∃ b r, ∃ start : skipBlank s = b :: r, first b r start = .ok v := by
  split at h
  · exact absurd h (stopped_ne_ok _ _ _)
  · rename_i b r start
    exact ⟨b, r, start, h⟩

end First

/-- The end of a document: blanks and nothing else. -/
def endOfDocument (e : Ending) (s : Bytes) : Except ReadError Unit :=
  match skipBlank s, e with
  | [], .complete => .ok ()
  | [], .broken cause => .error (.source cause)
  | _ :: _, _ => breach .trailingCharacters

/-! ### Literal words

The letters after the first of each literal word. -/

def nullTail : Bytes := Ascii.encode "ull"

def trueTail : Bytes := Ascii.encode "rue"

def falseTail : Bytes := Ascii.encode "alse"

/-- The rest of a literal word whose first letter is gone. -/
def letters (e : Ending) : (word : Bytes) → (s : Bytes) → Except ReadError (Rest s)
  | [], s => .ok ⟨s, Nat.le_refl _⟩
  | _ :: _, [] => stopped e .endInValue
  | c :: word, b :: r =>
      if b = c then
        match letters e word r with
        | .ok rest => .ok ⟨rest.1, Nat.le_succ_of_le rest.2⟩
        | .error x => .error x
      else breach .literalExpected

end DenseMedium.Json
