import DenseMedium.Proofs.Json.Spelled
import Mathlib.Data.List.Basic

/-!
Literals taken apart.

What the readers of numbers and strings have taken is a text of the literal that they answer with:

* `number_spelled`, `skipNumber_spelled`: the parts of a number literal are well formed, and the
  bytes are a text of them.
* `stringContent_spelled`, `skipString_spelled`: the bytes up to the closing quote may stand between
  quotes. What a key spells does not depend on what follows it.
-/

namespace DenseMedium.Json

open Ascii

variable {e : Ending} {s u : Bytes}

/-! ### Blanks taken apart -/

theorem exists_blanks (s : Bytes) : ∃ w, Blanks w ∧ s = w ++ skipBlank s := by
  induction s with
  | nil => exact ⟨[], blanks_nil, rfl⟩
  | cons b r ih =>
    unfold skipBlank
    split
    · rename_i blank
      obtain ⟨w, blanks, hr⟩ := ih
      exact ⟨b :: w, List.forall_mem_cons.mpr ⟨blank, blanks⟩, congrArg (b :: ·) hr⟩
    · exact ⟨[], blanks_nil, rfl⟩

theorem exists_blanks_of_skipBlank {b : UInt8} {r : Bytes} (h : skipBlank s = b :: r) :
    ∃ w, Blanks w ∧ s = w ++ b :: r := h ▸ exists_blanks s

theorem skipBlank_skipBlank (s : Bytes) : skipBlank (skipBlank s) = skipBlank s := by
  obtain ⟨w, blanks, hs⟩ := exists_blanks s
  have := skipBlank_blanks (s := skipBlank s) blanks
  rw [← hs] at this
  exact this.symm

/-! ### Numbers -/

theorem digit_of_digit? {b : UInt8} {d : Nat} (h : digit? b = some d) : d < 10 ∧ b = digit d := by
  unfold digit? at h
  split at h
  · rename_i range
    cases h
    refine ⟨by omega, ?_⟩
    unfold digit
    rw [Nat.add_sub_cancel' range.1, UInt8.ofNat_toNat]
  · contradiction

theorem digits_spelled (s : Bytes) :
    s = (digits s).1.map digit ++ (digits s).2 ∧ ∀ d ∈ (digits s).1, d < 10 := by
  fun_induction digits s with
  | case1 => exact ⟨rfl, List.forall_mem_nil _⟩
  | case2 b r d found others ih =>
    obtain ⟨small, rfl⟩ := digit_of_digit? found
    exact ⟨congrArg (digit d :: ·) ih.1, List.forall_mem_cons.mpr ⟨small, ih.2⟩⟩
  | case3 b r _ => exact ⟨rfl, List.forall_mem_nil _⟩

theorem someDigits_spelled {m : Malformed} {ds : List Nat} {r : Shorter s}
    (h : someDigits e m s = .ok (ds, r)) :
    s = ds.map digit ++ r.1 ∧ ds ≠ [] ∧ ∀ d ∈ ds, d < 10 := by
  unfold someDigits at h
  split at h
  · split at h
    · exact absurd h (stopped_ne_ok _ _ _)
    · exact absurd h (breach_ne_ok _ _)
  · rename_i some
    cases h
    obtain ⟨text, small⟩ := digits_spelled s
    exact ⟨text, some, small⟩

theorem wholeDigits_spelled {m : Malformed} {ds : List Nat} {r : Shorter s}
    (h : wholeDigits e m s = .ok (ds, r)) : s = ds.map digit ++ r.1 ∧ ds ≠ [] ∧
      (∀ d ∈ ds, d < 10) ∧ (ds.head? = some 0 → ds = [0]) := by
  unfold wholeDigits at h
  split at h
  · contradiction
  · exact absurd h (breach_ne_ok _ _)
  · rename_i found notLeading reading
    cases h
    obtain ⟨text, some, small⟩ := someDigits_spelled reading
    refine ⟨text, some, small, fun zero => ?_⟩
    match ds, zero with
    | [0], _ => rfl
    | 0 :: d :: ds, _ => exact absurd rfl (notLeading _ _ _)

namespace NumberParts

variable {m : Malformed}

theorem fractionDigits_spelled {ds : List Nat} {r : Rest s}
    (h : fractionDigits e m s = .ok (ds, r)) :
    s = fractionText ds ++ r.1 ∧ ∀ d ∈ ds, d < 10 := by
  unfold fractionDigits at h
  split at h
  · cases h
    exact ⟨rfl, List.forall_mem_nil _⟩
  · split at h
    · rename_i isPoint
      subst isPoint
      split at h
      · contradiction
      · rename_i found rest reading
        cases h
        obtain ⟨text, some, small⟩ := someDigits_spelled reading
        obtain ⟨d, ds, rfl⟩ := List.exists_cons_of_ne_nil some
        exact ⟨congrArg (point :: ·) text, small⟩
    · cases h
      exact ⟨rfl, List.forall_mem_nil _⟩

theorem exponentSign_spelled (s : Bytes) :
    ∃ sign, s = sign ++ (exponentSign s).2.1 ∧ IsSign (exponentSign s).1 sign := by
  cases s with
  | nil => exact ⟨[], rfl, .none⟩
  | cons b r =>
    unfold exponentSign
    dsimp only
    split
    · rename_i isPlus
      exact ⟨[plus], congrArg (· :: r) isPlus, .plus⟩
    · split
      · rename_i isMinus
        exact ⟨[minus], congrArg (· :: r) isMinus, .minus⟩
      · exact ⟨[], rfl, .none⟩

theorem exponentDigits_spelled {x : Option (Bool × List Nat)} {r : Rest s}
    (h : exponentDigits e m s = .ok (x, r)) : ∃ t, s = t ++ r.1 ∧ IsExponent x t ∧
      ∀ y ∈ x, y.2 ≠ [] ∧ ∀ d ∈ y.2, d < 10 := by
  unfold exponentDigits at h
  split at h
  · cases h
    exact ⟨[], rfl, .none, by simp⟩
  · rename_i b r'
    split at h
    · rename_i letter
      obtain ⟨sign, signText, isSign⟩ := exponentSign_spelled r'
      dsimp only at h
      split at h
      · contradiction
      · rename_i ds rest reading
        cases h
        obtain ⟨text, some, small⟩ := someDigits_spelled reading
        refine ⟨b :: (sign ++ ds.map digit), ?_, .some letter isSign, ?_⟩
        · rw [List.cons_append, List.append_assoc, ← text, ← signText]
        · rintro y ⟨⟩
          exact ⟨some, small⟩
    · cases h
      exact ⟨[], rfl, .none, by simp⟩

/-- A literal is taken apart into parts that it is a text of. -/
theorem numberParts_spelled {p : NumberParts} {r : Shorter s}
    (h : numberParts e m s = .ok (p, r)) :
    ∃ t, s = t ++ r.1 ∧ p.WellFormed ∧ p.IsText t := by
  unfold numberParts at h
  split at h
  · contradiction
  · rename_i whole afterWhole wholeReading
    split at h
    · contradiction
    · rename_i fraction afterFraction fractionReading
      split at h
      · contradiction
      · rename_i exponent rest exponentReading
        cases h
        obtain ⟨wholeText, some, wholeSmall, leading⟩ := wholeDigits_spelled wholeReading
        obtain ⟨fractionText, fractionSmall⟩ := fractionDigits_spelled fractionReading
        obtain ⟨t, exponentText, isExponent, exponentSmall⟩ :=
          exponentDigits_spelled exponentReading
        refine ⟨_, ?_, ⟨some, wholeSmall, leading, fractionSmall, exponentSmall⟩,
          ⟨t, isExponent, rfl⟩⟩
        rw [List.append_assoc, List.append_assoc, ← exponentText, ← fractionText, ← wholeText]

end NumberParts

/-- A number is a literal with a value. -/
theorem number_spelled {isNegative : Bool} {n : Number} {r : Shorter s}
    (h : number isNegative e s = .ok (n, r)) : ∃ (p : NumberParts) (t : Bytes),
      s = t ++ r.1 ∧ p.WellFormed ∧ p.IsText t ∧ p.value isNegative = some n := by
  unfold number at h
  split at h
  · contradiction
  · rename_i p rest reading
    obtain ⟨t, text, wellFormed, isText⟩ := NumberParts.numberParts_spelled reading
    split at h
    · split at h
      · exact absurd h (breach_ne_ok _ _)
      · contradiction
    · split at h
      · rename_i value
        cases h
        exact ⟨p, t, text, wellFormed, isText, value⟩
      · exact absurd h (breach_ne_ok _ _)

theorem skipNumber_spelled {r : Shorter s} (h : skipNumber e s = .ok ((), r)) :
    ∃ (p : NumberParts) (t : Bytes), s = t ++ r.1 ∧ p.WellFormed ∧ p.IsText t := by
  unfold skipNumber at h
  split at h
  · contradiction
  · rename_i p rest reading
    obtain ⟨t, text, wellFormed, isText⟩ := NumberParts.numberParts_spelled reading
    split at h
    · contradiction
    · cases h
      exact ⟨p, t, text, wellFormed, isText⟩

/-! ### Strings -/

/-- The bytes of an escape that the scanner is inside of. Of a surrogate that waits for its partner
nothing is left to be said. -/
def StringState.unfinished : StringState → Bytes
  | .plain | .backslashDue _ => []
  | .afterBackslash | .letterDue _ => [backslash]
  | .inEscape digits _ => backslash :: 0x75 :: digits

/-- An escape that the scanner is inside of has not got its fourth digit yet. -/
def StringState.IsOpen : StringState → Prop
  | .inEscape digits _ => digits.length ≤ 3
  | _ => True

theorem plain_isOpen : StringState.plain.IsOpen := trivial

section Strings

variable {isStrict : Bool} {b : UInt8} {state next : StringState} {content found : Bytes}

theorem unicodeStep_eq_ok {high : Option Nat} {n : Nat} {step : StringStep}
    (h : unicodeStep isStrict high n = .ok step) : ∃ state content,
      step = .next state content ∧ state.unfinished = [] ∧ state.IsOpen := by
  unfold unicodeStep at h
  repeat' split at h
  all_goals first
    | exact absurd h (breach_ne_ok _ _)
    | cases h; exact ⟨_, _, rfl, rfl, trivial⟩

theorem stringStep_done (h : stringStep isStrict b state = .ok .done) :
    state = .plain ∧ b = quote := by
  cases state with
  | plain =>
    dsimp only [stringStep] at h
    split at h
    · exact ⟨rfl, ‹_›⟩
    · repeat' split at h
      all_goals first | contradiction | cases h
  | inEscape digits high =>
    dsimp only [stringStep] at h
    split at h
    · cases h
    · split at h
      · obtain ⟨_, _, next, -⟩ := unicodeStep_eq_ok h
        contradiction
      · exact absurd h (breach_ne_ok _ _)
  | afterBackslash | backslashDue | letterDue =>
    dsimp only [stringStep] at h
    repeat' split at h
    all_goals first | contradiction | cases h

/-- One byte that does not end a string continues what may stand between quotes. -/
theorem stringStep_next (isOpen : state.IsOpen)
    (h : stringStep isStrict b state = .ok (.next next content)) :
    next.IsOpen ∧ ∀ r, IsString (next.unfinished ++ r) → IsString (state.unfinished ++ b :: r) := by
  cases state with
  | plain =>
    dsimp only [stringStep] at h
    split at h
    · cases h
    · split at h
      · rename_i isBackslash
        subst isBackslash
        cases h
        exact ⟨trivial, fun _ others => others⟩
      · split at h
        · exact absurd h (breach_ne_ok _ _)
        · cases h
          exact ⟨trivial, fun _ others => .plain ‹_› ‹_› (Nat.le_of_not_lt ‹_›) others⟩
  | afterBackslash =>
    dsimp only [stringStep] at h
    split at h
    · rename_i isLetter
      subst isLetter
      cases h
      exact ⟨Nat.zero_le _, fun _ others => others⟩
    · split at h
      · rename_i c escaped
        cases h
        exact ⟨trivial, fun _ others => .escape (Option.isSome_of_eq_some escaped) others⟩
      · exact absurd h (breach_ne_ok _ _)
  | inEscape digits high =>
    dsimp only [stringStep] at h
    split at h
    · rename_i few
      cases h
      refine ⟨?_, fun r others => ?_⟩
      · simp [StringState.IsOpen]
        omega
      · simpa [StringState.unfinished] using others
    · rename_i many
      split at h
      · rename_i n value
        obtain ⟨state, content', same, finished, isOpen'⟩ := unicodeStep_eq_ok h
        cases same
        refine ⟨isOpen', fun r others => ?_⟩
        rw [finished, List.nil_append] at others
        obtain ⟨x, y, z, rfl⟩ :=
          List.length_eq_three.mp (Nat.le_antisymm isOpen (Nat.le_of_not_lt many))
        exact .unicode (Option.isSome_of_eq_some value) others
      · exact absurd h (breach_ne_ok _ _)
  | backslashDue high =>
    dsimp only [stringStep] at h
    split at h
    · rename_i isBackslash
      subst isBackslash
      cases h
      exact ⟨trivial, fun _ others => others⟩
    · exact absurd h (breach_ne_ok _ _)
  | letterDue high =>
    dsimp only [stringStep] at h
    split at h
    · rename_i isLetter
      subst isLetter
      cases h
      exact ⟨Nat.zero_le _, fun _ others => others⟩
    · exact absurd h (breach_ne_ok _ _)

/-- A scan takes what may stand between quotes, and would take the same if nothing followed. -/
theorem scanString_spelled (isOpen : state.IsOpen) {r : Bytes}
    (h : scanString isStrict e state found s = .ok (content, r)) :
    ∃ literal, s = literal ++ quote :: r ∧ IsString (state.unfinished ++ literal) ∧
      scanString isStrict .complete state found (literal ++ [quote]) = .ok (content, []) := by
  induction s generalizing state found with
  | nil => exact absurd h (stopped_ne_ok _ _ _)
  | cons b s ih =>
    rw [scanString] at h
    cases step : stringStep isStrict b state with
    | error x =>
      rw [step] at h
      contradiction
    | ok next =>
      rw [step] at h
      cases next with
      | done =>
        obtain ⟨rfl, rfl⟩ := stringStep_done step
        cases h
        refine ⟨[], rfl, .nil, ?_⟩
        rw [List.nil_append, scanString, step]
      | next state' content' =>
        obtain ⟨isOpen', continues⟩ := stringStep_next isOpen step
        obtain ⟨literal, text, isString, again⟩ := ih isOpen' h
        refine ⟨b :: literal, congrArg (b :: ·) text, continues _ isString, ?_⟩
        rw [List.cons_append, scanString, step]
        exact again

theorem skipString_spelled {r : Shorter s} (h : skipString e s = .ok ((), r)) :
    ∃ literal, s = literal ++ quote :: r.1 ∧ IsString literal := by
  obtain ⟨content, reading, -⟩ := Reader.map_eq_ok h
  obtain ⟨literal, text, isString, -⟩ :=
    scanString_spelled plain_isOpen (stringBytes_eq_ok reading)
  exact ⟨literal, text, isString⟩

/-- The text of a key is the name that it spells. -/
theorem stringContent_spelled {name : String} {r : Shorter s}
    (h : stringContent e s = .ok (name, r)) :
    ∃ key, s = key ++ quote :: r.1 ∧ IsString key ∧ keyName? key = some name := by
  unfold stringContent at h
  split at h
  · contradiction
  · rename_i content rest reading
    split at h
    · rename_i text decoded
      cases h
      obtain ⟨key, text, isString, alone⟩ :=
        scanString_spelled plain_isOpen (stringBytes_eq_ok reading)
      refine ⟨key, text, isString, ?_⟩
      unfold keyName?
      rw [alone]
      exact decoded
    · exact absurd h (breach_ne_ok _ _)

end Strings

end DenseMedium.Json
