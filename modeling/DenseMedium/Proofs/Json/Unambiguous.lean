import DenseMedium.Proofs.Json.Spelled

/-!
A text is the text of one value.

* `Spells.cut`: where a text ends does not depend on the value it is a text of, since readers stop
  at the same place.
* `Spells.unique`: two values with a text in common are equal, item by item and member by member.
* `Value.IsDocument.unique`: so a document is that of one value only.
-/

namespace DenseMedium.Json

open Ascii

variable {α : Type} {s s' t t' : Bytes} {v w : Value}

/-! ### Where texts end -/

theorem Yields.unique {P : Bytes → Prop} {r : Except ReadError (α × {t : Bytes // P t})} {x y : α}
    (h : Yields r x t) (h' : Yields r y t') : x = y ∧ t = t' := by
  obtain ⟨_, found⟩ := h
  obtain ⟨_, found'⟩ := h'
  rw [found] at found'
  cases found'
  exact ⟨rfl, rfl⟩

theorem Starts.unique {r : Except ReadError (Option (Rest s))} (h : Starts r t)
    (h' : Starts r t') : t = t' := by
  obtain ⟨_, found⟩ := h
  obtain ⟨_, found'⟩ := h'
  rw [found] at found'
  cases found'
  rfl

/-- Texts with the same start that are followed as values are have one length. -/
theorem Spells.cut (h : Spells v t) (h' : Spells w t') (follows : Follows .complete s)
    (follows' : Follows .complete s') (same : t ++ s = t' ++ s') : t = t' ∧ s = s' := by
  have rest : s = s' := by
    have skipped := (takes_skipValue v).yields h h.skipBlank_eq follows
    have skipped' := (takes_skipValue w).yields h' h'.skipBlank_eq follows'
    rw [same] at skipped
    exact (skipped.unique skipped').2
  subst rest
  exact ⟨List.append_cancel_right same, rfl⟩

theorem IsString.cut {key key' : Bytes} (h : IsString key) (h' : IsString key')
    (same : key ++ quote :: s = key' ++ quote :: s') : key = key' ∧ s = s' := by
  have rest : s = s' := by
    have skipped := skipString_text (e := .complete) (r := s) h
    have skipped' := skipString_text (e := .complete) (r := s') h'
    rw [same] at skipped
    exact (skipped.unique skipped').2
  subst rest
  exact ⟨List.append_cancel_right same, rfl⟩

/-- The sign of a number is a minus, and the parts of its literal are those that it is taken apart
into. -/
theorem signed_injective {isNegative isNegative' : Bool} {p p' : NumberParts}
    (wellFormed : p.WellFormed) (wellFormed' : p'.WellFormed) (text : p.IsText t)
    (text' : p'.IsText t') (same : signed isNegative t = signed isNegative' t') :
    isNegative = isNegative' ∧ p = p' := by
  have parts (same : t = t') : p = p' := by
    subst same
    have found := NumberParts.numberParts_text (s := []) (e := .complete) (m := .number) wellFormed
      text nofun
    have found' := NumberParts.numberParts_text (s := []) (e := .complete) (m := .number) wellFormed'
      text' nofun
    exact (found.unique found').1
  have unsigned {p : NumberParts} {t r : Bytes} (wellFormed : p.WellFormed) (text : p.IsText t) :
      t ≠ minus :: r := by
    obtain ⟨d, r, hd, rfl⟩ := wellFormed.text_eq_cons text
    intro same
    exact (isBlank_digit hd).2.1 (List.cons.inj same).1
  cases isNegative <;> cases isNegative'
  · exact ⟨rfl, parts same⟩
  · exact absurd same (unsigned wellFormed text)
  · exact absurd same.symm (unsigned wellFormed' text')
  · exact ⟨rfl, parts (List.cons.inj same).2⟩

/-! ### Kinds of values -/

/-- What the first byte of a text says of its value. -/
inductive Kind where
  | null
  | boolean (b : Bool)
  | number
  | string
  | list
  | object
  deriving DecidableEq

def Value.kind : Value → Kind
  | .null => .null
  | .boolean b => .boolean b
  | .number _ _ => .number
  | .string _ => .string
  | .list _ => .list
  | .object _ => .object

/-- The kind of the values whose texts start with a byte. -/
def kindOf (b : UInt8) : Kind :=
  if b = 0x6e then .null
  else if b = 0x74 then .boolean true
  else if b = 0x66 then .boolean false
  else if b = quote then .string
  else if b = openList then .list
  else if b = openObject then .object
  else .number

theorem Spells.kind_eq (h : Spells v t) : ∃ b r, t = b :: r ∧ kindOf b = v.kind := by
  cases h with
  | null => exact ⟨_, _, rfl, rfl⟩
  | true => exact ⟨_, _, rfl, rfl⟩
  | false => exact ⟨_, _, rfl, rfl⟩
  | @number isNegative p t wellFormed text =>
    cases isNegative with
    | true => exact ⟨minus, t, rfl, rfl⟩
    | false =>
      have all : ∀ d < 10, kindOf (digit d) = .number := by decide
      obtain ⟨d, r, hd, rfl⟩ := wellFormed.text_eq_cons text
      exact ⟨digit d, r, rfl, all d hd⟩
  | string => exact ⟨_, _, rfl, rfl⟩
  | list => exact ⟨_, _, rfl, rfl⟩
  | object => exact ⟨_, _, rfl, rfl⟩

/-- Values with a text in common are of one kind. -/
theorem Spells.kind_unique (h : Spells v t) (h' : Spells w t) : v.kind = w.kind := by
  obtain ⟨b, r, rfl, kind⟩ := h.kind_eq
  obtain ⟨b', r', same, kind'⟩ := h'.kind_eq
  rw [← kind, ← kind', (List.cons.inj same).1]

/-! ### One value -/

/-- A list has no further item where its text ends. -/
theorem ListText.not_close_item {isFirst : Bool} {before lead rest : Bytes} (blanks : Blanks before)
    (separated : IsLead isFirst lead) (text : Spells v t) :
    before ++ [Ascii.closeList] ≠ lead ++ (t ++ rest) := by
  intro same
  have ended : nextItem .complete isFirst (before ++ [Ascii.closeList] ++ []) = .ok none :=
    nextItem_end (skipBlank_closeList blanks)
  obtain ⟨_, found⟩ := separated.nextItem (e := .complete) (s := rest) text
  rw [List.append_nil, same, found] at ended
  cases Except.ok.inj ended

theorem MembersText.not_close_member {isFirst : Bool} {before lead key colon after rest : Bytes}
    (blanks : Blanks before) (separated : IsLead isFirst lead) :
    before ++ [Ascii.closeObject] ≠ lead ++ keyText key colon after rest := by
  intro same
  have ended : nextKey .complete isFirst (before ++ [Ascii.closeObject] ++ []) = .ok none :=
    nextKey_end (skipBlank_closeObject blanks)
  have next : Starts (nextKey .complete isFirst (lead ++ keyText key colon after rest)) _ :=
    separated.nextKey
  obtain ⟨_, found⟩ := next
  rw [List.append_nil, same, found] at ended
  cases Except.ok.inj ended

/-- The value of a member starts at one place. -/
theorem MembersText.behind_colon {before before' after after' rest rest' : Bytes}
    (blanks : Blanks before) (blanks' : Blanks before') (between : Blanks after)
    (between' : Blanks after') (text : Spells v t) (text' : Spells w t')
    (same : before ++ Ascii.colon :: (after ++ (t ++ rest)) =
      before' ++ Ascii.colon :: (after' ++ (t' ++ rest'))) : t ++ rest = t' ++ rest' := by
  have colon := congrArg skipBlank same
  rw [skipBlank_blanks blanks, skipBlank_blanks blanks', skipBlank_of_head (by decide),
    skipBlank_of_head (by decide)] at colon
  have value := congrArg skipBlank (List.cons.inj colon).2
  rwa [skipBlank_blanks between, skipBlank_blanks between', text.skipBlank_eq,
    text'.skipBlank_eq] at value

mutual

/-- Two values with a text in common are equal. -/
theorem Spells.unique {v w : Value} {t : Bytes} (h : Spells v t) (h' : Spells w t) : v = w := by
  have same := h.kind_unique h'
  cases h with
  | null =>
    cases w with
    | null => rfl
    | boolean | number | string | list | object => cases same
  | true =>
    cases w with
    | boolean b =>
      cases same
      rfl
    | null | number | string | list | object => cases same
  | false =>
    cases w with
    | boolean b =>
      cases same
      rfl
    | null | number | string | list | object => cases same
  | @number isNegative p t wellFormed text =>
    cases w with
    | number isNegative' p' =>
      generalize written : signed isNegative t = u at h'
      cases h' with
      | number wellFormed' text' =>
        obtain ⟨rfl, rfl⟩ := signed_injective wellFormed wellFormed' text text' written
        rfl
    | null | boolean | string | list | object => cases same
  | @string literal isString =>
    cases w with
    | string literal' =>
      generalize written : quote :: (literal ++ [quote]) = u at h'
      cases h' with
      | string isString' => rw [(isString.cut isString' (List.cons.inj written).2).1]
    | null | boolean | number | list | object => cases same
  | list items =>
    cases w with
    | list ws =>
      cases h' with
      | list items' => rw [items.unique Bool.true items' rfl]
    | null | boolean | number | string | object => cases same
  | object members =>
    cases w with
    | object ns =>
      cases h' with
      | object members' => rw [members.unique Bool.true members' rfl]
    | null | boolean | number | string | list => cases same

theorem ListText.unique (isFirst : Bool) {vs ws : List Value} {t t' : Bytes}
    (h : ListText Spells isFirst vs t) (h' : ListText Spells isFirst ws t') (same : t = t') :
    vs = ws := by
  cases h with
  | close blanks =>
    cases h' with
    | close _ => rfl
    | item separated text _ => exact absurd same (ListText.not_close_item blanks separated text)
  | @item _ lead t rest v vs separated text others =>
    cases h' with
    | close blanks => exact absurd same.symm (ListText.not_close_item blanks separated text)
    | @item _ lead' t' rest' w ws separated' text' others' =>
      have start := separated.nextItem (e := .complete) (s := rest) text
      have start' := separated'.nextItem (e := .complete) (s := rest') text'
      rw [same] at start
      have follows := others.follows (e := .complete) (s := [])
      have follows' := others'.follows (e := .complete) (s := [])
      rw [List.append_nil] at follows follows'
      obtain ⟨rfl, rfl⟩ := text.cut text' follows follows' (start.unique start')
      rw [text.unique text', others.unique Bool.false others' rfl]

theorem MembersText.unique (isFirst : Bool) {ms ns : List (Bytes × Value)} {t t' : Bytes}
    (h : MembersText Spells isFirst ms t) (h' : MembersText Spells isFirst ns t') (same : t = t') :
    ms = ns := by
  cases h with
  | close blanks =>
    cases h' with
    | close _ => rfl
    | member separated _ _ _ _ _ => exact absurd same (MembersText.not_close_member blanks separated)
  | @member _ lead key before after t rest v ms separated quoted blanks between text others =>
    cases h' with
    | close blanks => exact absurd same.symm (MembersText.not_close_member blanks separated)
    | @member _ lead' key' before' after' t' rest' w ns separated' quoted' blanks' between' text'
        others' =>
      have start : Starts (nextKey .complete isFirst
          (lead ++ keyText key before after (t ++ rest))) _ := separated.nextKey
      have start' : Starts (nextKey .complete isFirst
          (lead' ++ keyText key' before' after' (t' ++ rest'))) _ := separated'.nextKey
      rw [same] at start
      obtain ⟨rfl, colon⟩ := quoted.cut quoted' (start.unique start')
      have behind := MembersText.behind_colon blanks blanks' between between' text text' colon
      have follows := others.follows (e := .complete) (s := [])
      have follows' := others'.follows (e := .complete) (s := [])
      rw [List.append_nil] at follows follows'
      obtain ⟨rfl, rfl⟩ := text.cut text' follows follows' behind
      rw [text.unique text', others.unique Bool.false others' rfl]

end

/-- A document is that of one value. -/
theorem Value.IsDocument.unique {b : Bytes} (h : v.IsDocument b) (h' : w.IsDocument b) : v = w := by
  obtain ⟨before, t, after, blanks, text, blanksAfter, rfl⟩ := h
  obtain ⟨before', t', after', blanks', text', blanksAfter', same⟩ := h'
  have start := congrArg skipBlank same
  rw [skipBlank_blanks blanks, skipBlank_blanks blanks', text.skipBlank_eq,
    text'.skipBlank_eq] at start
  obtain ⟨rfl, -⟩ :=
    text.cut text' (follows_of_blanks blanksAfter) (follows_of_blanks blanksAfter') start
  exact text.unique text'

end DenseMedium.Json
