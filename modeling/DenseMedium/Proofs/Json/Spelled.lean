import DenseMedium.Proofs.Json.Grammar

/-!
Reading the texts of JSON values.

`Takes reader v x`: the reader takes every text of the value `v` for `x`, whatever blanks stand
before it and whatever follows.

* `takes_numeric`, `takes_list`, `takes_sequence`, `takes_triple`: numbers by the value of their
  literal, lists item by item.
* `takes_skipValue`: a value of any form can be skipped.
* `takes_object`: an object is taken when its members, read one after another, fill the empty draft.
* `document_takes`: what is taken is read as a whole document.
-/

namespace DenseMedium.Json

open Ascii

variable {α β σ : Type} {e : Ending} {r s t u : Bytes}

/-- Whether the reader takes every text of a value for `x`. -/
structure Takes (reader : Reader α) (v : Value) (x : α) : Prop where
  yields {e : Ending} {s t u : Bytes} (text : Spells v t) (start : skipBlank u = t ++ s)
    (follows : Follows e s) : Yields (reader e u) x s

theorem Takes.map {reader : Reader α} {v : Value} {x : α} (h : Takes reader v x) (f : α → β) :
    Takes (reader.map f) v (f x) where
  yields text start follows := (h.yields text start follows).map

/-! ### Numbers -/

/-- A number is taken for what is made of the value of its literal. -/
theorem takes_numeric {expected : String} {accept : Number → Except ReadError α}
    {isNegative : Bool} {p : NumberParts} {n : Number} {x : α} (value : p.value isNegative = some n)
    (accepted : accept n = .ok x) : Takes (numeric expected accept) (.number isNegative p) x := by
  constructor
  intro e s t u text start follows
  cases text with
  | number wellFormed text => exact numeric_text wellFormed text value accepted start follows

/-! ### Lists -/

theorem IsLead.nextItem {isFirst : Bool} {lead : Bytes} {v : Value} (h : IsLead isFirst lead)
    (text : Spells v t) : Starts (nextItem e isFirst (lead ++ (t ++ s))) (t ++ s) := by
  have blanks' := text.skipBlank_eq (s := s)
  obtain ⟨b, r, rfl, -, notEnd⟩ := text.starts
  cases h with
  | first blanks => exact nextItem_first ((skipBlank_blanks blanks).trans blanks') notEnd
  | next blanks between =>
    rw [List.append_assoc]
    exact nextItem_comma ((skipBlank_blanks blanks).trans (skipBlank_of_head (by decide)))
      ((skipBlank_blanks between).trans blanks') notEnd

/-- The closing bracket of a list whose items have all been read. -/
theorem skipBlank_closeList {before : Bytes} (blanks : Blanks before) :
    skipBlank (before ++ [Ascii.closeList] ++ s) = Ascii.closeList :: s := by
  rw [List.append_assoc, skipBlank_blanks blanks]
  exact skipBlank_of_head (by decide)

theorem skipBlank_closeObject {before : Bytes} (blanks : Blanks before) :
    skipBlank (before ++ [Ascii.closeObject] ++ s) = Ascii.closeObject :: s := by
  rw [List.append_assoc, skipBlank_blanks blanks]
  exact skipBlank_of_head (by decide)

theorem ListText.skipBlank_nil {isFirst : Bool} (h : ListText Spells isFirst [] t) :
    skipBlank (t ++ s) = Ascii.closeList :: s := by
  cases h with
  | close blanks => exact skipBlank_closeList blanks

section Elements

variable {item : Reader α} {v : Value} {x : α} {vs : List Value} {expected : String}

theorem Takes.element (h : Takes item v x) (count : Nat)
    (text : ListText Spells (count == 0) (v :: vs) t) : ∃ rest, ListText Spells false vs rest ∧
      ∀ e s, Yields (element item count expected e (t ++ s)) x (rest ++ s) := by
  generalize place : (count == 0) = isFirst at text
  cases text with
  | @item _ lead t rest _ _ separated text others =>
    refine ⟨rest, others, fun e s => ?_⟩
    rw [List.append_assoc, List.append_assoc]
    subst place
    exact element_yields (separated.nextItem text) (h.yields text text.skipBlank_eq others.follows)

/-- The first item of a list of a fixed length. -/
theorem Takes.first (h : Takes item v x) (text : ListText Spells true (v :: vs) t) :
    ∃ rest, ListText Spells false vs rest ∧
      ∀ e s, Yields (Json.element item 0 expected e (t ++ s)) x (rest ++ s) := h.element 0 text

/-- A further item of a list of a fixed length. -/
theorem Takes.next (h : Takes item v x) (count : Nat) (text : ListText Spells false (v :: vs) t) :
    ∃ rest, ListText Spells false vs rest ∧
      ∀ e s, Yields (Json.element item (count + 1) expected e (t ++ s)) x (rest ++ s) :=
  h.element (count + 1) text

end Elements

theorem takes_list {expected : String} {body : Reader α} {vs : List Value} {x : α}
    (inside : ∀ {t}, ListText Spells true vs t → ∀ e s, Yields (body e (t ++ s)) x s) :
    Takes (list expected body) (.list vs) x := by
  constructor
  intro e s t u text start _
  cases text with
  | list items => exact list_yields start (inside items e s)

section Sequences

variable {item : Reader α} {parse : Value → Option α} {vs : List Value} {xs : List α}

/-- All items, up to the closing bracket. -/
theorem items_takes (h : ∀ {v x}, parse v = some x → Takes item v x) {isFirst : Bool}
    (text : ListText Spells isFirst vs t) (values : vs.mapM parse = some xs) :
    ∃ rest, skipBlank (rest ++ s) = Ascii.closeList :: s ∧
      Yields (items item e isFirst (t ++ s)) xs (rest ++ s) := by
  induction text generalizing xs with
  | close blanks =>
    cases values
    have close := skipBlank_closeList (s := s) blanks
    exact ⟨_, close, items_end close⟩
  | @item isFirst lead t rest v vs separated text others ih =>
    rw [List.mapM_cons] at values
    obtain ⟨x, hx, values⟩ := Option.bind_eq_some_iff.mp values
    obtain ⟨ys, hys, values⟩ := Option.bind_eq_some_iff.mp values
    cases values
    obtain ⟨last, close, reading⟩ := ih hys
    refine ⟨last, close, ?_⟩
    rw [List.append_assoc, List.append_assoc]
    exact items_next (separated.nextItem text) ((h hx).yields text text.skipBlank_eq others.follows)
      reading

/-- A list of any length. -/
theorem takes_sequence (h : ∀ {v x}, parse v = some x → Takes item v x)
    (values : vs.mapM parse = some xs) : Takes (sequence item) (.list vs) xs := by
  refine takes_list fun text e s => ?_
  obtain ⟨rest, close, _, reading⟩ := items_takes (e := e) (s := s) h text values
  unfold listBody
  rw [reading]
  exact (closeList_yields close).map.within

end Sequences

/-- A list of three. -/
theorem takes_triple {make : α → α → α → β} {item : Reader α} {v₁ v₂ v₃ : Value} {x₁ x₂ x₃ : α}
    (h₁ : Takes item v₁ x₁) (h₂ : Takes item v₂ x₂) (h₃ : Takes item v₃ x₃) :
    Takes (triple make item) (.list [v₁, v₂, v₃]) (make x₁ x₂ x₃) := by
  refine takes_list fun text e s => ?_
  obtain ⟨_, text, first⟩ := h₁.first text
  obtain ⟨_, text, second⟩ := h₂.next 0 text
  obtain ⟨_, text, third⟩ := h₃.next 1 text
  exact (first e s).bind ((second e s).bind ((third e s).bind
    (closeList_yields text.skipBlank_nil).map))

/-! ### Skipped values -/

theorem letters_text (word : Bytes) : ∃ h, letters e word (word ++ s) = .ok ⟨s, h⟩ := by
  induction word with
  | nil => exact ⟨Nat.le_refl _, rfl⟩
  | cons c word ih =>
    obtain ⟨h, found⟩ := ih
    refine ⟨Nat.le_succ_of_le h, ?_⟩
    change letters e (c :: word) (c :: (word ++ s)) = _
    rw [letters, if_pos rfl, found]

/-- A string is skipped to its closing quote. -/
theorem scanString_skips {literal : Bytes} (h : IsString literal) (found : Bytes) :
    ∃ content, scanString false e .plain found (literal ++ quote :: r) = .ok (content, r) := by
  induction h generalizing found with
  | nil => exact ⟨_, rfl⟩
  | @plain b _ notQuote notBackslash printable _ ih =>
    obtain ⟨content, rest⟩ := ih ([b].reverse ++ found)
    refine ⟨content, ?_⟩
    have step : stringStep false b .plain = .ok (.next .plain [b]) := by
      unfold stringStep
      rw [if_neg notQuote, if_neg notBackslash, if_neg (Nat.not_lt.mpr printable)]
    rw [List.cons_append, scanString, step]
    exact rest
  | @escape b _ letter _ ih =>
    obtain ⟨c, hc⟩ := Option.isSome_iff_exists.mp letter
    obtain ⟨content, rest⟩ := ih ([c].reverse ++ found)
    refine ⟨content, ?_⟩
    have notUnicode : b ≠ 0x75 := by
      rintro rfl
      exact absurd letter (by decide)
    have step : stringStep false b .afterBackslash = .ok (.next .plain [c]) := by
      unfold stringStep
      rw [if_neg notUnicode, hc]
    change scanString false e .afterBackslash found (b :: (_ ++ quote :: r)) = _
    rw [scanString, step]
    exact rest
  | @unicode a b c d _ digits _ ih =>
    obtain ⟨n, hn⟩ := Option.isSome_iff_exists.mp digits
    obtain ⟨content, rest⟩ := ih found
    refine ⟨content, ?_⟩
    have step : stringStep false d (.inEscape [a, b, c] none) = .ok (.next .plain []) := by
      simp [stringStep, hn, unicodeStep]
    change scanString false e (.inEscape [a, b, c] none) found (d :: (_ ++ quote :: r)) = _
    rw [scanString, step]
    exact rest

theorem skipString_text {literal : Bytes} (h : IsString literal) :
    Yields (skipString e (literal ++ quote :: r)) () r := by
  obtain ⟨content, scanned⟩ := scanString_skips (e := e) (r := r) h []
  exact (stringBytes_yields scanned).map

theorem skipNumber_text {p : NumberParts} (wellFormed : p.WellFormed) (text : p.IsText t)
    (follows : Follows e s) : Yields (skipNumber e (t ++ s)) () s := by
  obtain ⟨h, found⟩ :=
    NumberParts.numberParts_text (e := e) (m := .number) wellFormed text follows.head
  refine ⟨h, ?_⟩
  unfold skipNumber
  rw [found]
  cases s with
  | nil => rw [follows.ending rfl]
  | cons b r => rfl

section Places

variable {k : Bracket} {outer brackets : List Bracket} {b : UInt8}

theorem skipFrom_open (start : skipBlank u = b :: r) (opening : Bracket.opening? b = some k) :
    skipFrom e (.beforeValue brackets) u = skipFrom e (.opened k brackets) r := by
  rw [skipFrom]
  refine (match_skipBlank start).trans ?_
  rw [opening]

theorem skipFrom_scalar (start : skipBlank u = b :: r) (scalar : Bracket.opening? b = none)
    (reading : Yields (skipScalar e b r) () s) :
    skipFrom e (.beforeValue brackets) u = skipFrom e (.afterValue brackets) s := by
  obtain ⟨_, found⟩ := reading
  rw [skipFrom]
  refine (match_skipBlank start).trans ?_
  rw [scalar]
  simp only [found]

theorem skipFrom_opened_close (start : skipBlank u = k.closing :: r) :
    skipFrom e (.opened k outer) u = skipFrom e (.afterValue outer) r := by
  rw [skipFrom]
  exact (match_skipBlank start).trans (if_pos rfl)

theorem skipFrom_opened_item (start : skipBlank u = b :: r) (notEnd : b ≠ k.closing) :
    skipFrom e (.opened k outer) u = skipFrom e (.item k outer) (b :: r) := by
  rw [skipFrom]
  exact (match_skipBlank start).trans (if_neg notEnd)

theorem skipFrom_key (start : skipBlank u = quote :: r) (key : Yields (skipString e r) () s)
    (colon : skipBlank s = Ascii.colon :: t) :
    skipFrom e (.beforeKey outer) u = skipFrom e (.beforeValue (.object :: outer)) t := by
  obtain ⟨_, found⟩ := key
  conv => lhs; rw [skipFrom]
  refine (match_skipBlank start).trans ?_
  rw [if_pos rfl]
  simp only [found]
  exact (match_skipBlank colon).trans (if_pos rfl)

theorem skipFrom_comma (start : skipBlank u = comma :: r) :
    skipFrom e (.afterValue (k :: outer)) u = skipFrom e (.item k outer) r := by
  rw [skipFrom]
  exact (match_skipBlank start).trans (if_pos rfl)

theorem skipFrom_close (start : skipBlank u = k.closing :: r) :
    skipFrom e (.afterValue (k :: outer)) u = skipFrom e (.afterValue outer) r := by
  rw [skipFrom]
  refine (match_skipBlank start).trans ?_
  have notComma : k.closing ≠ comma := by cases k <;> decide
  rw [if_neg notComma, if_pos rfl]

end Places

/-- Where the skipper stands inside a bracket, before an item or a member. -/
def Place.within (k : Bracket) (outer : List Bracket) (isFirst : Bool) : Place :=
  if isFirst then .opened k outer else .afterValue (k :: outer)

section Within

variable {k : Bracket} {outer : List Bracket} {isFirst : Bool} {b : UInt8}

theorem skipFrom_within_close (start : skipBlank u = k.closing :: r) :
    skipFrom e (.within k outer isFirst) u = skipFrom e (.afterValue outer) r := by
  cases isFirst with
  | true => exact skipFrom_opened_close start
  | false => exact skipFrom_close start

/-- What stands before an item or a member leads to the place where it starts. -/
theorem skipFrom_within_item (outer : List Bracket) {lead : Bytes} (separated : IsLead isFirst lead)
    (start : skipBlank (b :: s) = b :: s) (notEnd : b ≠ k.closing) : ∃ u, skipBlank u = b :: s ∧
      skipFrom e (.within k outer isFirst) (lead ++ b :: s) = skipFrom e (.item k outer) u := by
  cases separated with
  | first blanks =>
    exact ⟨_, start, skipFrom_opened_item ((skipBlank_blanks blanks).trans start) notEnd⟩
  | @next before after blanks between =>
    refine ⟨after ++ b :: s, (skipBlank_blanks between).trans start, ?_⟩
    rw [List.append_assoc]
    exact skipFrom_comma ((skipBlank_blanks blanks).trans (skipBlank_of_head (by decide)))

/-- A key leads to the place before its value. -/
theorem skipFrom_within_member {lead key before after : Bytes} (separated : IsLead isFirst lead)
    (quoted : IsString key) (blanks : Blanks before) :
    skipFrom e (.within .object outer isFirst) (lead ++ keyText key before after s) =
      skipFrom e (.beforeValue (.object :: outer)) (after ++ s) := by
  have quoteFirst : skipBlank (keyText key before after s) = keyText key before after s :=
    skipBlank_of_head (by decide)
  obtain ⟨u, start, place⟩ :=
    skipFrom_within_item (e := e) (k := .object) outer separated quoteFirst (by decide)
  have colon : skipBlank (before ++ Ascii.colon :: (after ++ s)) = Ascii.colon :: (after ++ s) :=
    (skipBlank_blanks blanks).trans (skipBlank_of_head (by decide))
  exact place.trans (skipFrom_key start (skipString_text quoted) colon)

end Within

/-- A number is skipped with its sign. -/
theorem skipScalar_number {isNegative : Bool} {p : NumberParts} (wellFormed : p.WellFormed)
    (text : p.IsText t) (follows : Follows e s) :
    ∃ b r, signed isNegative t ++ s = b :: r ∧ Bracket.opening? b = none ∧
      Yields (skipScalar e b r) () s := by
  have reads := skipNumber_text wellFormed text follows
  cases isNegative with
  | true => exact ⟨minus, t ++ s, rfl, rfl, reads.within (h := Nat.le_succ _)⟩
  | false =>
    obtain ⟨d, r, hd, rfl⟩ := wellFormed.text_eq_cons text
    refine ⟨digit d, r ++ s, rfl, ?_⟩
    have scalar : Bracket.opening? (digit d) = none ∧ ∀ r, skipScalar e (digit d) r =
        skipNumber e (digit d :: r) := by
      have all : ∀ d < 10, Bracket.opening? (digit d) = none ∧ digit d ≠ 0x6e ∧ digit d ≠ 0x74 ∧
          digit d ≠ 0x66 ∧ digit d ≠ quote ∧ digit d ≠ minus ∧ (digit? (digit d)).isSome := by
        decide
      obtain ⟨opening, n, t, f, q, m, isDigit⟩ := all d hd
      refine ⟨opening, fun r => ?_⟩
      unfold skipScalar
      rw [if_neg n, if_neg t, if_neg f, if_neg q, if_neg m, if_pos isDigit]
    exact ⟨scalar.1, (scalar.2 (r ++ s)).symm ▸ reads⟩

/-- A literal word is skipped letter by letter. -/
theorem skips_word {b : UInt8} {brackets : List Bracket} (word : Bytes)
    (start : skipBlank u = t ++ s) (text : t = b :: word) (scalar : Bracket.opening? b = none)
    (reading : skipScalar e b (word ++ s) = Reading.ended () (letters e word (word ++ s))) :
    skipFrom e (.beforeValue brackets) u = skipFrom e (.afterValue brackets) s := by
  subst text
  obtain ⟨h, found⟩ := letters_text (e := e) (s := s) word
  refine skipFrom_scalar start scalar ⟨Nat.lt_succ_of_le h, ?_⟩
  change skipScalar e b (word ++ s) = _
  rw [reading, found]
  rfl

mutual

/-- A text of a value is skipped. -/
theorem Spells.skips {v : Value} {t : Bytes} (h : Spells v t) {e : Ending} {brackets : List Bracket}
    {s u : Bytes} (start : skipBlank u = t ++ s) (follows : Follows e s) :
    skipFrom e (.beforeValue brackets) u = skipFrom e (.afterValue brackets) s := by
  cases h with
  | null => exact skips_word (b := 0x6e) nullTail start (by decide) rfl rfl
  | true => exact skips_word (b := 0x74) trueTail start (by decide) rfl rfl
  | false => exact skips_word (b := 0x66) falseTail start (by decide) rfl rfl
  | number wellFormed text =>
    obtain ⟨b, r, first, scalar, reading⟩ := skipScalar_number wellFormed text follows
    exact skipFrom_scalar (start.trans first) scalar reading
  | @string literal isString =>
    have reading := skipString_text (e := e) (r := s) isString
    have text : quote :: (literal ++ [quote]) ++ s = quote :: (literal ++ quote :: s) := by simp
    exact skipFrom_scalar (start.trans text) rfl (reading.within (h := Nat.le_succ _))
  | list items =>
    rw [skipFrom_open start rfl]
    exact items.skips Bool.true
  | object members =>
    rw [skipFrom_open start rfl]
    exact members.skips Bool.true

theorem ListText.skips (isFirst : Bool) {vs : List Value} {t : Bytes}
    (h : ListText Spells isFirst vs t) {e : Ending} {outer : List Bracket} {s : Bytes} :
    skipFrom e (.within .list outer isFirst) (t ++ s) = skipFrom e (.afterValue outer) s := by
  cases h with
  | close blanks => exact skipFrom_within_close (skipBlank_closeList blanks)
  | item separated text others =>
    obtain ⟨b, r, rfl, -, notEnd⟩ := text.starts
    rw [List.append_assoc, List.append_assoc]
    obtain ⟨u, start, item⟩ :=
      skipFrom_within_item (k := .list) outer separated text.skipBlank_eq notEnd
    refine item.trans ((text.skips start others.follows).trans ?_)
    exact others.skips Bool.false

theorem MembersText.skips (isFirst : Bool) {ms : List (Bytes × Value)} {t : Bytes}
    (h : MembersText Spells isFirst ms t) {e : Ending} {outer : List Bracket} {s : Bytes} :
    skipFrom e (.within .object outer isFirst) (t ++ s) = skipFrom e (.afterValue outer) s := by
  cases h with
  | close blanks => exact skipFrom_within_close (skipBlank_closeObject blanks)
  | member separated quoted blanks between text others =>
    rw [List.append_assoc, keyText_append, List.append_assoc]
    refine (skipFrom_within_member separated quoted blanks).trans ((text.skips
      ((skipBlank_blanks between).trans text.skipBlank_eq) others.follows).trans ?_)
    exact others.skips Bool.false

end

/-- A value of any form is skipped. -/
theorem takes_skipValue (v : Value) : Takes skipValue v () := by
  constructor
  intro e s t u text start follows
  have skipped : skipFrom e (.beforeValue []) u = .ok s := by
    rw [text.skips start follows, skipFrom]
  refine ⟨length_skipFrom_beforeValue_lt skipped, ?_⟩
  unfold skipValue
  split
  · rename_i failed
    rw [skipped] at failed
    contradiction
  · rename_i found
    cases skipped.symm.trans found
    rfl

/-! ### Objects -/

/-- The name that a key spells, read by itself. -/
def keyName? (key : Bytes) : Option String :=
  match scanString true .complete .plain [] (key ++ [quote]) with
  | .ok (content, []) => Utf8.text? content
  | _ => none

/-- What a scan has taken does not depend on what follows. -/
theorem scanString_append {isStrict : Bool} {state : StringState} {found content : Bytes}
    (h : scanString isStrict e state found s = .ok (content, r)) (e' : Ending) (t : Bytes) :
    scanString isStrict e' state found (s ++ t) = .ok (content, r ++ t) := by
  induction s generalizing state found with
  | nil => exact absurd h (stopped_ne_ok _ _ _)
  | cons b s ih =>
    rw [scanString] at h
    rw [List.cons_append, scanString]
    cases step : stringStep isStrict b state with
    | error x =>
      rw [step] at h
      contradiction
    | ok next =>
      rw [step] at h
      cases next with
      | done =>
        cases h
        rfl
      | next state content' => exact ih h

theorem stringContent_keyName {key : Bytes} {name : String} (h : keyName? key = some name) :
    Yields (stringContent e (key ++ quote :: s)) name s := by
  unfold keyName? at h
  split at h
  · rename_i content scanned
    refine stringContent_yields ?_ h
    have := scanString_append scanned e s
    rwa [List.append_assoc] at this
  · contradiction

/-- The members, read in order, turn one draft into another. -/
inductive TakesMembers (field : σ → String → Except ReadError (Reader σ)) :
    σ → List (Bytes × Value) → σ → Prop where
  | nil (draft : σ) : TakesMembers field draft [] draft
  | cons {draft next last : σ} {key : Bytes} {name : String} {v : Value}
      {ms : List (Bytes × Value)} {reader : Reader σ} (named : keyName? key = some name)
      (reads : field draft name = .ok reader) (takes : Takes reader v next)
      (others : TakesMembers field next ms last) :
      TakesMembers field draft ((key, v) :: ms) last

section Members

variable {field : σ → String → Except ReadError (Reader σ)} {draft last : σ}
  {ms : List (Bytes × Value)}

theorem IsLead.nextKey {isFirst : Bool} {lead key before after : Bytes}
    (h : IsLead isFirst lead) :
    Starts (nextKey e isFirst (lead ++ keyText key before after s))
      (key ++ quote :: (before ++ Ascii.colon :: (after ++ s))) := by
  have quoteFirst : skipBlank (keyText key before after s) = keyText key before after s :=
    skipBlank_of_head (by decide)
  cases h with
  | first blanks => exact nextKey_first ((skipBlank_blanks blanks).trans quoteFirst)
  | next blanks between =>
    rw [List.append_assoc]
    exact nextKey_comma ((skipBlank_blanks blanks).trans (skipBlank_of_head (by decide)))
      ((skipBlank_blanks between).trans quoteFirst)

/-- All members, up to the closing brace. -/
theorem members_takes (fills : TakesMembers field draft ms last) {isFirst : Bool} {t : Bytes}
    (text : MembersText Spells isFirst ms t) :
    ∃ rest, skipBlank (rest ++ s) = Ascii.closeObject :: s ∧
      Yields (members field e isFirst draft (t ++ s)) last (rest ++ s) := by
  induction fills generalizing isFirst t with
  | nil draft =>
    cases text with
    | close blanks =>
      have close := skipBlank_closeObject (s := s) blanks
      exact ⟨_, close, members_end close⟩
  | cons named reads takes others ih =>
    cases text with
    | @member _ lead key before after t rest _ _ separated quoted blanks between text members =>
      obtain ⟨final, close, reading⟩ := ih members
      have colon : skipBlank (before ++ Ascii.colon :: (after ++ (t ++ (rest ++ s)))) =
          Ascii.colon :: (after ++ (t ++ (rest ++ s))) :=
        (skipBlank_blanks blanks).trans (skipBlank_of_head (by decide))
      have value := takes.yields text ((skipBlank_blanks between).trans text.skipBlank_eq)
        (members.follows (e := e) (s := s))
      refine ⟨final, close, ?_⟩
      rw [List.append_assoc, keyText_append, List.append_assoc]
      exact members_next separated.nextKey
        (member_yields (stringContent_keyName named) reads colon value) reading

/-- An object is taken when its members fill the empty draft. -/
theorem takes_object {expected : String} {inOrder : Reader α} {empty : σ}
    {finish : σ → Except ReadError α} {x : α} (fills : TakesMembers field empty ms last)
    (finished : finish last = .ok x) :
    Takes (struct expected inOrder (objectBody field empty finish)) (.object ms) x := by
  constructor
  intro e s t u text start _
  cases text with
  | object members =>
    obtain ⟨rest, close, reading⟩ := members_takes (e := e) (s := s) fills members
    exact struct_yields start (objectBody_yields reading finished close)

end Members

/-- A structure may be written as the list of its fields. -/
theorem takes_struct_list {expected : String} {inOrder byName : Reader α} {vs : List Value} {x : α}
    (inside : ∀ {t}, ListText Spells true vs t → ∀ e s, Yields (inOrder e (t ++ s)) x s) :
    Takes (struct expected inOrder byName) (.list vs) x := by
  constructor
  intro e s t u text start _
  cases text with
  | list items =>
    rw [struct_list start]
    exact (inside items e s).within

/-- What is taken is read as a whole document. -/
theorem document_takes {reader : Reader α} {v : Value} {x : α} {b : Bytes} (h : Takes reader v x)
    (text : v.IsDocument b) : document reader .complete b = .ok x := by
  obtain ⟨before, t, after, blanks, spelled, blanks', rfl⟩ := text
  have follows := follows_of_blanks blanks'
  have start := (skipBlank_blanks blanks).trans (spelled.skipBlank_eq (s := after))
  obtain ⟨_, found⟩ := h.yields spelled start follows
  have nothing : skipBlank after = [] := by
    have := skipBlank_blanks (s := []) blanks'
    rwa [List.append_nil] at this
  unfold document
  rw [found]
  simp only [endOfDocument, nothing]

end DenseMedium.Json
