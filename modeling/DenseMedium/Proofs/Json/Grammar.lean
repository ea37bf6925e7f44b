import DenseMedium.Json.Skip
import DenseMedium.Proofs.Json.Objects

/-!
The texts of JSON values.

`Value` is a value of any form. Numbers are kept as the parts of their literals, and strings and
keys as what stands between their quotes. `Spells v t` says that `t` is a text of `v`, from its
first byte to its last: blanks may stand around every item and member, strings may be escaped, and
literals may be spelled in every way that the grammar allows. Nothing here refers to a reader.

* `Spells.starts`: a text starts with a byte that is no blank and closes no list.
* `ListText.follows`, `MembersText.follows`: what comes after an item or the value of a member ends
  a number.
* `spells_text`: every value whose literals are well formed has a text, its compact one.
-/

namespace DenseMedium.Json

open Ascii

variable {α : Type} {e : Ending} {s t : Bytes}

/-! ### Values -/

/-- A value of any form. -/
inductive Value where
  | null
  | boolean (b : Bool)
  /-- A number by its sign and the parts of its literal. -/
  | number (isNegative : Bool) (parts : NumberParts)
  /-- A string by what stands between its quotes. -/
  | string (literal : Bytes)
  | list (items : List Value)
  /-- An object by its members, in order. Keys may occur twice. -/
  | object (members : List (Bytes × Value))

/-! ### Texts -/

def Blanks (s : Bytes) : Prop := ∀ b ∈ s, isBlank b = true

/-- Whether the bytes may stand between quotes. -/
inductive IsString : Bytes → Prop where
  | nil : IsString []
  | plain {b : UInt8} {r : Bytes} (notQuote : b ≠ quote) (notBackslash : b ≠ backslash)
      (printable : 0x20 ≤ b.toNat) (others : IsString r) : IsString (b :: r)
  | escape {b : UInt8} {r : Bytes} (letter : (escaped? b).isSome) (others : IsString r) :
      IsString (backslash :: b :: r)
  | unicode {a b c d : UInt8} {r : Bytes} (digits : (hexValue? [a, b, c, d]).isSome)
      (others : IsString r) : IsString (backslash :: 0x75 :: a :: b :: c :: d :: r)

/-- What stands before an item or a member: a comma, unless it is the first, and blanks. -/
inductive IsLead : Bool → Bytes → Prop where
  | first {before : Bytes} (blanks : Blanks before) : IsLead true before
  | next {before after : Bytes} (blanks : Blanks before) (blanks' : Blanks after) :
      IsLead false (before ++ comma :: after)

/-- The items of a list with the closing bracket, by the texts of the items. -/
inductive ListText (Text : α → Bytes → Prop) : Bool → List α → Bytes → Prop where
  | close {isFirst : Bool} {before : Bytes} (blanks : Blanks before) :
      ListText Text isFirst [] (before ++ [Ascii.closeList])
  | item {isFirst : Bool} {lead t rest : Bytes} {v : α} {vs : List α}
      (separated : IsLead isFirst lead) (text : Text v t) (others : ListText Text false vs rest) :
      ListText Text isFirst (v :: vs) (lead ++ (t ++ rest))

/-- A key with its quotes and its colon, before a value and what follows. -/
def keyText (key before after s : Bytes) : Bytes :=
  quote :: (key ++ quote :: (before ++ Ascii.colon :: (after ++ s)))

theorem keyText_append (key before after s t : Bytes) :
    keyText key before after s ++ t = keyText key before after (s ++ t) := by
  simp [keyText]

/-- The members of an object with the closing brace, by the texts of the values. -/
inductive MembersText (Text : α → Bytes → Prop) : Bool → List (Bytes × α) → Bytes → Prop where
  | close {isFirst : Bool} {before : Bytes} (blanks : Blanks before) :
      MembersText Text isFirst [] (before ++ [Ascii.closeObject])
  | member {isFirst : Bool} {lead key before after t rest : Bytes} {v : α}
      {ms : List (Bytes × α)} (separated : IsLead isFirst lead) (quoted : IsString key)
      (blanks : Blanks before) (blanks' : Blanks after) (text : Text v t)
      (others : MembersText Text false ms rest) :
      MembersText Text isFirst ((key, v) :: ms) (lead ++ keyText key before after (t ++ rest))

/-- The texts of a value, without blanks around them. -/
inductive Spells : Value → Bytes → Prop where
  | null : Spells .null (encode "null")
  | true : Spells (.boolean true) (encode "true")
  | false : Spells (.boolean false) (encode "false")
  | number {isNegative : Bool} {p : NumberParts} {t : Bytes} (wellFormed : p.WellFormed)
      (text : p.IsText t) : Spells (.number isNegative p) (signed isNegative t)
  | string {literal : Bytes} (isString : IsString literal) :
      Spells (.string literal) (quote :: (literal ++ [quote]))
  | list {vs : List Value} {t : Bytes} (items : ListText Spells true vs t) :
      Spells (.list vs) (openList :: t)
  | object {ms : List (Bytes × Value)} {t : Bytes} (members : MembersText Spells true ms t) :
      Spells (.object ms) (openObject :: t)

/-- Whether a text consists of a value with blanks around it. -/
def Value.IsDocument (v : Value) (b : Bytes) : Prop :=
  ∃ before t after, Blanks before ∧ Spells v t ∧ Blanks after ∧ b = before ++ (t ++ after)

/-! ### First bytes -/

theorem skipBlank_blanks {w : Bytes} (h : Blanks w) : skipBlank (w ++ s) = skipBlank s := by
  induction w with
  | nil => rfl
  | cons b w ih =>
    obtain ⟨blank, others⟩ := List.forall_mem_cons.mp h
    rw [List.cons_append, skipBlank, if_pos blank, ih others]

/-- A text starts with a byte that is no blank and closes no list. -/
theorem Spells.starts {v : Value} (h : Spells v t) :
    ∃ b r, t = b :: r ∧ isBlank b = Bool.false ∧ b ≠ Ascii.closeList := by
  cases h with
  | null => exact ⟨_, _, rfl, by decide, by decide⟩
  | true => exact ⟨_, _, rfl, by decide, by decide⟩
  | false => exact ⟨_, _, rfl, by decide, by decide⟩
  | @number isNegative p t wellFormed text =>
    cases isNegative with
    | true => exact ⟨minus, t, rfl, by decide, by decide⟩
    | false =>
      obtain ⟨d, r, hd, rfl⟩ := wellFormed.text_eq_cons text
      obtain ⟨blank, -, -, notEnd⟩ := isBlank_digit hd
      exact ⟨digit d, r, rfl, blank, notEnd⟩
  | string => exact ⟨_, _, rfl, by decide, by decide⟩
  | list => exact ⟨_, _, rfl, by decide, by decide⟩
  | object => exact ⟨_, _, rfl, by decide, by decide⟩

theorem Spells.skipBlank_eq {v : Value} (h : Spells v t) : skipBlank (t ++ s) = t ++ s := by
  obtain ⟨b, r, rfl, blank, -⟩ := h.starts
  exact skipBlank_of_head blank

/-! ### What follows an item -/

/-- Blanks end a number. -/
theorem endsNumber_of_isBlank {b : UInt8} (h : isBlank b = true) : EndsNumber b := by
  simp only [isBlank, Bool.or_eq_true, decide_eq_true_eq] at h
  rcases h with ((rfl | rfl) | rfl) | rfl <;> exact ⟨by decide, by decide, by decide⟩

theorem follows_blanks {w : Bytes} {b : UInt8} (h : Blanks w) (hb : EndsNumber b) :
    Follows e (w ++ b :: s) := by
  cases w with
  | nil => exact follows_cons hb
  | cons c w => exact follows_cons (endsNumber_of_isBlank (h c List.mem_cons_self))

/-- Nothing but blanks may follow a whole document. -/
theorem follows_of_blanks {w : Bytes} (h : Blanks w) : Follows .complete w := by
  cases w with
  | nil => exact follows_nil
  | cons c w => exact follows_cons (endsNumber_of_isBlank (h c List.mem_cons_self))

theorem IsLead.follows {lead : Bytes} (h : IsLead false lead) : Follows e (lead ++ s) := by
  cases h with
  | next blanks _ =>
    rw [List.append_assoc]
    exact follows_blanks blanks endsNumber_comma

variable {Text : α → Bytes → Prop}

theorem ListText.follows {vs : List α} (h : ListText Text false vs t) : Follows e (t ++ s) := by
  cases h with
  | close blanks =>
    rw [List.append_assoc]
    exact follows_blanks blanks ⟨by decide, by decide, by decide⟩
  | item separated _ _ =>
    rw [List.append_assoc]
    exact separated.follows

theorem MembersText.follows {ms : List (Bytes × α)} (h : MembersText Text false ms t) :
    Follows e (t ++ s) := by
  cases h with
  | close blanks =>
    rw [List.append_assoc]
    exact follows_blanks blanks ⟨by decide, by decide, by decide⟩
  | member separated _ _ _ _ _ =>
    rw [List.append_assoc]
    exact separated.follows

/-! ### Compact texts -/

namespace Value

/-- What stands before an item or a member when there are no blanks. -/
def lead (isFirst : Bool) : Bytes := if isFirst then [] else [comma]

mutual

/-- The text of a value without blanks. -/
def text : Value → Bytes
  | .null => encode "null"
  | .boolean Bool.true => encode "true"
  | .boolean Bool.false => encode "false"
  | .number isNegative p => signed isNegative p.text
  | .string literal => quote :: (literal ++ [quote])
  | .list vs => openList :: itemsText Bool.true vs
  | .object ms => openObject :: membersText Bool.true ms

def itemsText (isFirst : Bool) : List Value → Bytes
  | [] => [Ascii.closeList]
  | v :: vs => lead isFirst ++ (v.text ++ itemsText Bool.false vs)

def membersText (isFirst : Bool) : List (Bytes × Value) → Bytes
  | [] => [Ascii.closeObject]
  | (key, v) :: ms => lead isFirst ++ keyText key [] [] (v.text ++ membersText Bool.false ms)

end

mutual

/-- Whether the literals of a value are well formed. -/
def WellFormed : Value → Prop
  | .null | .boolean _ => True
  | .number _ p => p.WellFormed
  | .string literal => IsString literal
  | .list vs => WellFormedItems vs
  | .object ms => WellFormedMembers ms

def WellFormedItems : List Value → Prop
  | [] => True
  | v :: vs => v.WellFormed ∧ WellFormedItems vs

def WellFormedMembers : List (Bytes × Value) → Prop
  | [] => True
  | (key, v) :: ms => IsString key ∧ v.WellFormed ∧ WellFormedMembers ms

end

end Value

theorem blanks_nil : Blanks [] := nofun

theorem isLead_lead (isFirst : Bool) : IsLead isFirst (Value.lead isFirst) := by
  cases isFirst with
  | true => exact .first blanks_nil
  | false => exact .next blanks_nil blanks_nil

mutual

/-- The compact text of a value spells it. -/
theorem spells_text : ∀ {v : Value}, v.WellFormed → Spells v v.text
  | .null, _ => by
      rw [Value.text]
      exact .null
  | .boolean Bool.true, _ => by
      rw [Value.text]
      exact .true
  | .boolean Bool.false, _ => by
      rw [Value.text]
      exact .false
  | .number _ p, h => by
      rw [Value.text]
      exact .number (by rwa [Value.WellFormed] at h) p.isText_text
  | .string _, h => by
      rw [Value.text]
      exact .string (by rwa [Value.WellFormed] at h)
  | .list _, h => by
      rw [Value.text]
      exact .list (listText_itemsText Bool.true (by rwa [Value.WellFormed] at h))
  | .object _, h => by
      rw [Value.text]
      exact .object (membersText_membersText Bool.true (by rwa [Value.WellFormed] at h))

theorem listText_itemsText (isFirst : Bool) : ∀ {vs : List Value}, Value.WellFormedItems vs →
    ListText Spells isFirst vs (Value.itemsText isFirst vs)
  | [], _ => by
      rw [Value.itemsText]
      exact .close blanks_nil
  | v :: vs, h => by
      rw [Value.WellFormedItems] at h
      rw [Value.itemsText]
      exact .item (isLead_lead isFirst) (spells_text h.1) (listText_itemsText Bool.false h.2)

theorem membersText_membersText (isFirst : Bool) : ∀ {ms : List (Bytes × Value)},
    Value.WellFormedMembers ms → MembersText Spells isFirst ms (Value.membersText isFirst ms)
  | [], _ => by
      rw [Value.membersText]
      exact .close blanks_nil
  | (key, v) :: ms, h => by
      rw [Value.WellFormedMembers] at h
      rw [Value.membersText]
      exact .member (isLead_lead isFirst) h.1 blanks_nil blanks_nil (spells_text h.2.1)
        (membersText_membersText Bool.false h.2.2)

end

theorem isDocument_text {v : Value} (h : v.WellFormed) : v.IsDocument v.text :=
  ⟨[], _, [], blanks_nil, spells_text h, blanks_nil, (List.append_nil _).symm⟩

/-- Characters that need no escape make a string. -/
theorem isString_of_plain {literal : Bytes}
    (h : ∀ b ∈ literal, b ≠ quote ∧ b ≠ backslash ∧ 0x20 ≤ b.toNat) : IsString literal := by
  induction literal with
  | nil => exact .nil
  | cons b r ih =>
    obtain ⟨⟨notQuote, notBackslash, printable⟩, others⟩ := List.forall_mem_cons.mp h
    exact .plain notQuote notBackslash printable (ih others)

theorem PlainName.isString {name : String} (plain : PlainName name) :
    IsString (Ascii.encode name) := by
  refine isString_of_plain fun b hb => ?_
  obtain ⟨notQuote, notBackslash, printable, -⟩ := plain.bytes b hb
  exact ⟨notQuote, notBackslash, printable⟩

end DenseMedium.Json
