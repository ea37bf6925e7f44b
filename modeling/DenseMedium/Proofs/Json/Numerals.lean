import DenseMedium.Json.Value
import Mathlib.Algebra.Group.Nat.Defs

/-!
Number literals that were written.

`Ascii.digitList` are the digits that `Ascii.decimal` writes. `NumberParts.text` is the text that is
written for a literal, `NumberParts.IsText` holds of every spelling of it, and `number_text` says
that the reader of numbers takes such a text apart again, whatever follows, as long as it does not
go on like a number.
-/

namespace DenseMedium

/-! ### Digits -/

namespace Ascii

variable {n k : Nat}

/-- The digits of a natural number, without leading zeros. -/
def digitList (n : Nat) : List Nat :=
  if n < 10 then [n] else digitList (n / 10) ++ [n % 10]

theorem decimal_eq (n : Nat) : decimal n = (digitList n).map digit := by
  fun_induction digitList n with
  | case1 n small =>
    unfold decimal
    rw [if_pos small, List.map_singleton]
  | case2 n large ih =>
    unfold decimal
    rw [if_neg large, ih, List.map_append, List.map_singleton]

theorem digitList_ne_nil (n : Nat) : digitList n ≠ [] := by
  unfold digitList
  split <;> simp

theorem lt_of_mem_digitList : ∀ d ∈ digitList n, d < 10 := by
  fun_induction digitList n with
  | case1 n small => simpa using small
  | case2 n _ ih =>
    intro d hd
    rcases List.mem_append.mp hd with front | last
    · exact ih d front
    · rw [List.mem_singleton.mp last]
      exact Nat.mod_lt _ (by decide)

/-- Only zero is written with a zero in front. -/
theorem digitList_head (h : (digitList n).head? = some 0) : n = 0 := by
  fun_induction digitList n with
  | case1 n _ => simpa using h
  | case2 n large ih =>
    have front : (digitList (n / 10)).head? = some 0 := by
      rwa [List.head?_append, Option.or_of_isSome] at h
      exact List.isSome_head?.mpr (digitList_ne_nil _)
    have := ih front
    omega

theorem lt_pow_length (n : Nat) : n < 10 ^ (digitList n).length := by
  fun_induction digitList n with
  | case1 n small => simpa using small
  | case2 n _ ih =>
    rw [List.length_append, List.length_singleton, Nat.pow_succ]
    exact (Nat.div_lt_iff_lt_mul (by decide)).mp ih

theorem length_digitList_le (h : n < 10 ^ (k + 1)) : (digitList n).length ≤ k + 1 := by
  induction k generalizing n with
  | zero =>
    unfold digitList
    rw [if_pos (by simpa using h)]
    exact Nat.le_refl 1
  | succ k ih =>
    unfold digitList
    split
    · simp
    · rw [List.length_append, List.length_singleton]
      refine Nat.succ_le_succ (ih ?_)
      rw [Nat.div_lt_iff_lt_mul (by decide), ← Nat.pow_succ]
      exact h

theorem digit?_digit {d : Nat} (h : d < 10) : digit? (digit d) = some d := by
  revert h
  revert d
  decide

end Ascii

namespace Json

open Ascii

/-- Digits appended to a number. -/
def accumulate (n : Nat) (ds : List Nat) : Nat := ds.foldl (fun n d => n * 10 + d) n

@[simp]
theorem accumulate_nil (n : Nat) : accumulate n [] = n := rfl

@[simp]
theorem accumulate_cons (n d : Nat) (ds : List Nat) :
    accumulate n (d :: ds) = accumulate (n * 10 + d) ds := rfl

theorem accumulate_append (n : Nat) (ds es : List Nat) :
    accumulate n (ds ++ es) = accumulate (accumulate n ds) es := List.foldl_append

theorem accumulate_digitList (n : Nat) : accumulate 0 (digitList n) = n := by
  fun_induction digitList n with
  | case1 n _ => simp
  | case2 n _ ih =>
    rw [accumulate_append, ih, accumulate_cons, accumulate_nil]
    exact Nat.div_add_mod' n 10

theorem accumulate_zeros (n k : Nat) : accumulate n (List.replicate k 0) = n * 10 ^ k := by
  induction k generalizing n with
  | zero => simp
  | succ k ih =>
    rw [List.replicate_succ, accumulate_cons, ih, Nat.add_zero, Nat.pow_succ, Nat.mul_assoc,
      Nat.mul_comm 10]

theorem le_accumulate (n : Nat) (ds : List Nat) : n ≤ accumulate n ds := by
  induction ds generalizing n with
  | nil => exact Nat.le_refl n
  | cons d ds ih => exact Nat.le_trans (by omega) (ih (n * 10 + d))

/-- A number that fits 64 bits takes all its digits. -/
theorem gather_eq {n : Nat} {ds : List Nat} (h : accumulate n ds < Size.bound) :
    gather n ds = (accumulate n ds, []) := by
  induction ds generalizing n with
  | nil => rfl
  | cons d ds ih =>
    have fits := Nat.lt_of_le_of_lt (le_accumulate (n * 10 + d) ds) h
    rw [gather, if_pos fits]
    exact ih h

/-! ### Readings -/

variable {α β : Type} {e : Ending} {s t u : Bytes}

/-- A reading that succeeds with `v` and leaves `t`. -/
def Yields {P : Bytes → Prop} (r : Except ReadError (α × {t : Bytes // P t})) (v : α) (t : Bytes) :
    Prop :=
  ∃ h, r = .ok (v, ⟨t, h⟩)

theorem Yields.within {r : Reading s α} {v : α} {h : s.length ≤ u.length} (y : Yields r v t) :
    Yields (r.within h) v t := by
  obtain ⟨lt, rfl⟩ := y
  exact ⟨Nat.lt_of_lt_of_le lt h, rfl⟩

theorem Yields.bind {first : Reader α} {next : α → Reader β} {a : α} {b : β}
    (ya : Yields (first e s) a t) (yb : Yields (next a e t) b u) :
    Yields ((first.bind next) e s) b u := by
  obtain ⟨_, ha⟩ := ya
  unfold Reader.bind
  rw [ha]
  exact yb.within

theorem Yields.map {reader : Reader α} {f : α → β} {a : α} (y : Yields (reader e s) a t) :
    Yields ((reader.map f) e s) (f a) t := by
  obtain ⟨h, ha⟩ := y
  unfold Reader.map
  rw [ha]
  exact ⟨h, rfl⟩

/-! ### What follows a value -/

/-- Whether a byte cannot belong to a number literal. -/
structure EndsNumber (b : UInt8) : Prop where
  digit : digit? b = none
  point : b ≠ Ascii.point
  exponent : ¬(b = 0x65 ∨ b = 0x45)

/-- What may follow a value: nothing at the end of a document, or a byte that ends a number. -/
structure Follows (e : Ending) (s : Bytes) : Prop where
  ending : s = [] → e = .complete
  head : ∀ b ∈ s.head?, EndsNumber b

theorem follows_nil : Follows .complete [] := ⟨fun _ => rfl, nofun⟩

theorem follows_cons {b : UInt8} (h : EndsNumber b) : Follows e (b :: s) :=
  ⟨nofun, fun c hc => by
    cases hc
    exact h⟩

/-! ### The parts of a literal -/

theorem digits_text {ds : List Nat} (hds : ∀ d ∈ ds, d < 10)
    (stop : ∀ b ∈ s.head?, digit? b = none) : digits (ds.map digit ++ s) = (ds, s) := by
  induction ds with
  | nil =>
    cases s with
    | nil => rfl
    | cons b r => simp [digits, stop b rfl]
  | cons d ds ih =>
    obtain ⟨hd, hrest⟩ := List.forall_mem_cons.mp hds
    simp [digits, digit?_digit hd, ih hrest]

theorem someDigits_text {m : Malformed} {ds : List Nat} (hne : ds ≠ []) (hds : ∀ d ∈ ds, d < 10)
    (stop : ∀ b ∈ s.head?, digit? b = none) : Yields (someDigits e m (ds.map digit ++ s)) ds s := by
  have found := digits_text hds stop
  have some : (digits (ds.map digit ++ s)).1 ≠ [] := by rwa [found]
  unfold someDigits
  rw [dif_neg some]
  refine ⟨by simpa [found] using length_digits_lt some, ?_⟩
  simp only [found]

namespace NumberParts

variable {p : NumberParts} {m : Malformed}

def fractionText (ds : List Nat) : Bytes :=
  match ds with
  | [] => []
  | d :: ds => point :: (d :: ds).map digit

def exponentText (x : Option (Bool × List Nat)) : Bytes :=
  match x with
  | none => []
  | some (isNegative, ds) => 0x65 :: (if isNegative then minus else plus) :: ds.map digit

/-- The literal that is written for the parts, without its sign. -/
def text (p : NumberParts) : Bytes :=
  p.whole.map digit ++ (fractionText p.fraction ++ exponentText p.exponent)

/-- The sign of an exponent. A plus sign may be left out. -/
inductive IsSign : Bool → Bytes → Prop where
  | none : IsSign false []
  | plus : IsSign false [Ascii.plus]
  | minus : IsSign true [Ascii.minus]

/-- An exponent, after an `e` of either case. -/
inductive IsExponent : Option (Bool × List Nat) → Bytes → Prop where
  | none : IsExponent none []
  | some {mark : UInt8} {isNegative : Bool} {sign : Bytes} {ds : List Nat}
      (letter : mark = 0x65 ∨ mark = 0x45) (signed : IsSign isNegative sign) :
      IsExponent (some (isNegative, ds)) (mark :: (sign ++ ds.map digit))

/-- Whether a literal without a sign has the parts. -/
def IsText (p : NumberParts) (t : Bytes) : Prop :=
  ∃ x, IsExponent p.exponent x ∧ t = p.whole.map digit ++ (fractionText p.fraction ++ x)

theorem isExponent_exponentText (x : Option (Bool × List Nat)) : IsExponent x (exponentText x) := by
  rcases x with _ | ⟨isNegative, ds⟩
  · exact .none
  · cases isNegative with
    | true => exact .some (.inl rfl) .minus
    | false => exact .some (.inl rfl) .plus

theorem isText_text (p : NumberParts) : p.IsText p.text := ⟨_, isExponent_exponentText _, rfl⟩

/-- What the grammar asks of the parts of a literal. -/
structure WellFormed (p : NumberParts) : Prop where
  whole : p.whole ≠ []
  whole_lt : ∀ d ∈ p.whole, d < 10
  /-- A zero in front stands alone. -/
  leading : p.whole.head? = some 0 → p.whole = [0]
  fraction_lt : ∀ d ∈ p.fraction, d < 10
  exponent : ∀ x ∈ p.exponent, x.2 ≠ [] ∧ ∀ d ∈ x.2, d < 10

theorem wholeDigits_text (hp : p.WellFormed) (stop : ∀ b ∈ s.head?, digit? b = none) :
    Yields (wholeDigits e m (p.whole.map digit ++ s)) p.whole s := by
  obtain ⟨h, found⟩ := someDigits_text (e := e) (m := m) hp.whole hp.whole_lt stop
  refine ⟨h, ?_⟩
  unfold wholeDigits
  rw [found]
  split
  · contradiction
  · rename_i d ds rest heq
    have zeros : p.whole = 0 :: d :: ds := congrArg Prod.fst (Except.ok.inj heq)
    have alone := hp.leading (by rw [zeros]; rfl)
    simp [zeros] at alone
  · rename_i heq
    exact heq.symm

theorem fractionDigits_point {ds : List Nat} (y : Yields (someDigits e m s) ds t) :
    Yields (fractionDigits e m (point :: s)) ds t := by
  obtain ⟨h, found⟩ := y
  refine ⟨Nat.le_succ_of_le (Nat.le_of_lt h), ?_⟩
  unfold fractionDigits
  simp only [found, if_true]

theorem fractionDigits_text {ds : List Nat} (hds : ∀ d ∈ ds, d < 10)
    (stop : ∀ b ∈ s.head?, digit? b = none ∧ b ≠ point) :
    Yields (fractionDigits e m (fractionText ds ++ s)) ds s := by
  cases ds with
  | nil =>
    cases s with
    | nil => exact ⟨Nat.le_refl _, rfl⟩
    | cons b r =>
      refine ⟨Nat.le_refl _, ?_⟩
      unfold fractionText fractionDigits
      simp [(stop b rfl).2]
  | cons d ds =>
    exact fractionDigits_point
      (someDigits_text (List.cons_ne_nil d ds) hds fun b hb => (stop b hb).1)

theorem exponentSign_text {isNegative : Bool} {sign : Bytes} {d : Nat} (h : IsSign isNegative sign)
    (hd : d < 10) : ∃ bound, exponentSign (sign ++ digit d :: s) =
      (isNegative, ⟨digit d :: s, bound⟩) := by
  have unsigned : digit d ≠ plus ∧ digit d ≠ minus := by
    revert hd
    revert d
    decide
  cases h with
  | none =>
    refine ⟨Nat.le_refl _, ?_⟩
    unfold exponentSign
    simp [unsigned.1, unsigned.2]
  | plus => exact ⟨Nat.le_succ _, rfl⟩
  | minus => exact ⟨Nat.le_succ _, rfl⟩

theorem exponentDigits_text {x : Option (Bool × List Nat)} (hx : IsExponent x t)
    (digits : ∀ y ∈ x, y.2 ≠ [] ∧ ∀ d ∈ y.2, d < 10) (stop : ∀ b ∈ s.head?, EndsNumber b) :
    Yields (exponentDigits e m (t ++ s)) x s := by
  cases hx with
  | none =>
    cases s with
    | nil => exact ⟨Nat.le_refl _, rfl⟩
    | cons b r =>
      refine ⟨Nat.le_refl _, ?_⟩
      unfold exponentDigits
      simp [(stop b rfl).exponent]
  | @some mark isNegative sign ds letter signed =>
    obtain ⟨hne, hds⟩ := digits _ rfl
    obtain ⟨h, found⟩ := someDigits_text (e := e) (m := m) hne hds fun b hb => (stop b hb).digit
    obtain ⟨d, rest, rfl⟩ := List.exists_cons_of_ne_nil hne
    obtain ⟨bound, afterSign⟩ := exponentSign_text (s := rest.map digit ++ s) signed
      (hds d List.mem_cons_self)
    change someDigits e m (digit d :: (rest.map digit ++ s)) = _ at found
    have text : mark :: (sign ++ (d :: rest).map digit) ++ s =
        mark :: (sign ++ digit d :: (rest.map digit ++ s)) := by simp
    rw [text]
    refine ⟨Nat.le_succ_of_le (Nat.le_trans (Nat.le_of_lt h) bound), ?_⟩
    unfold exponentDigits
    simp only [if_pos letter]
    generalize exponentSign _ = found' at afterSign ⊢
    subst afterSign
    simp only [found]

/-- An exponent does not go on with a digit or a point, and neither does what follows a literal. -/
theorem ends_of_isExponent {x : Option (Bool × List Nat)} (hx : IsExponent x t)
    (stop : ∀ b ∈ s.head?, EndsNumber b) : ∀ b ∈ (t ++ s).head?, digit? b = none ∧ b ≠ point := by
  cases hx with
  | none => exact fun b hb => ⟨(stop b hb).digit, (stop b hb).point⟩
  | some letter _ =>
    intro b hb
    cases hb
    rcases letter with rfl | rfl <;> decide

/-- The parts of a literal are found again in its text. -/
theorem numberParts_text (hp : p.WellFormed) (ht : p.IsText t)
    (stop : ∀ b ∈ s.head?, EndsNumber b) : Yields (numberParts e m (t ++ s)) p s := by
  obtain ⟨x, hx, rfl⟩ := ht
  have afterFraction := ends_of_isExponent hx stop
  have afterWhole : ∀ b ∈ (fractionText p.fraction ++ (x ++ s)).head?, digit? b = none := by
    cases p.fraction with
    | nil => exact fun b hb => (afterFraction b hb).1
    | cons d ds =>
      intro b hb
      cases hb
      decide
  obtain ⟨h, whole⟩ := wholeDigits_text (e := e) (m := m) hp afterWhole
  obtain ⟨h', fraction⟩ := fractionDigits_text (e := e) (m := m) hp.fraction_lt afterFraction
  obtain ⟨h'', exponent⟩ := exponentDigits_text (e := e) (m := m) hx hp.exponent stop
  rw [List.append_assoc, List.append_assoc]
  refine ⟨Nat.lt_of_le_of_lt (Nat.le_trans h'' h') h, ?_⟩
  unfold numberParts
  simp only [whole, fraction, exponent]

end NumberParts

open NumberParts in
/-- A literal is read to its value. -/
theorem number_text {p : NumberParts} {isNegative : Bool} {v : Number} (hp : p.WellFormed)
    (ht : p.IsText t) (value : p.value isNegative = some v) (follows : Follows e s) :
    Yields (number isNegative e (t ++ s)) v s := by
  obtain ⟨h, found⟩ := numberParts_text (e := e) (m := .endInValue) hp ht follows.head
  refine ⟨h, ?_⟩
  unfold number
  rw [found]
  cases s with
  | nil =>
    rw [follows.ending rfl]
    simp only [value]
  | cons b r => simp only [value]

/-! ### Numbers as values -/

/-- A literal with its sign. -/
def signed (isNegative : Bool) (text : Bytes) : Bytes :=
  if isNegative then minus :: text else text

theorem isBlank_digit {d : Nat} (h : d < 10) : isBlank (digit d) = false ∧ digit d ≠ minus ∧
    (digit? (digit d)).isSome = true ∧ digit d ≠ Ascii.closeList := by
  revert h
  revert d
  decide

/-- A number is read by its literal. -/
theorem numeric_yields {expected : String} {accept : Number → Except ReadError α} {b : UInt8}
    {r : Bytes} {n : Number} {v : α} (start : skipBlank s = b :: r)
    (reading : Yields
      (if b = minus then (number true e r).within (Nat.le_succ _)
        else if (digit? b).isSome then number false e (b :: r)
        else unexpected expected e b r : Reading (b :: r) Number) n t)
    (accepted : accept n = .ok v) : Yields (numeric expected accept e s) v t := by
  obtain ⟨h, found⟩ := reading
  refine ⟨Nat.lt_of_lt_of_le h (length_lt_of_skipBlank start), ?_⟩
  unfold numeric
  refine (match_skipBlank start).trans ?_
  simp only [found, accepted]

/-- The first byte of a literal. -/
theorem NumberParts.WellFormed.text_eq_cons {p : NumberParts} (hp : p.WellFormed)
    (ht : p.IsText t) : ∃ d r, d < 10 ∧ t = digit d :: r := by
  obtain ⟨x, -, rfl⟩ := ht
  obtain ⟨d, ds, whole⟩ := List.exists_cons_of_ne_nil hp.whole
  refine ⟨d, ds.map digit ++ (fractionText p.fraction ++ x), hp.whole_lt d ?_, ?_⟩
  · exact whole ▸ List.mem_cons_self
  · rw [whole]
    rfl

/-- A literal is read to what is made of its value, whatever blanks stand before it. -/
theorem numeric_text {expected : String} {accept : Number → Except ReadError α}
    {p : NumberParts} {isNegative : Bool} {n : Number} {v : α} (hp : p.WellFormed)
    (ht : p.IsText t) (value : p.value isNegative = some n) (accepted : accept n = .ok v)
    (start : skipBlank s = signed isNegative t ++ u) (follows : Follows e u) :
    Yields (numeric expected accept e s) v u := by
  have reads := number_text hp ht value follows
  cases isNegative with
  | true =>
    refine numeric_yields start ?_ accepted
    rw [if_pos rfl]
    exact reads.within
  | false =>
    obtain ⟨d, r, hd, rfl⟩ := hp.text_eq_cons ht
    obtain ⟨-, unsigned, isDigit, -⟩ := isBlank_digit hd
    refine numeric_yields start ?_ accepted
    rwa [if_neg unsigned, if_pos isDigit]

/-! ### Integers -/

/-- The parts of a natural number. -/
def naturalParts (n : Nat) : NumberParts := ⟨digitList n, [], none⟩

theorem naturalParts_text (n : Nat) : (naturalParts n).text = decimal n := by
  rw [decimal_eq]
  exact List.append_nil _

theorem naturalParts_wellFormed (n : Nat) : (naturalParts n).WellFormed where
  whole := digitList_ne_nil n
  whole_lt := lt_of_mem_digitList
  leading h := by
    rw [naturalParts, digitList_head h, digitList, if_pos (by decide)]
  fraction_lt := nofun
  exponent := nofun

theorem naturalParts_value {n : Nat} (h : n < Size.bound) :
    (naturalParts n).value false = some (.integer n) := by
  have all : gather 0 (digitList n) = (n, []) := by
    rw [gather_eq (by rwa [accumulate_digitList]), accumulate_digitList]
  simp [NumberParts.value, NumberParts.isInteger, naturalParts, all]

end Json

end DenseMedium
