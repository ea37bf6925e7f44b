import DenseMedium.Proofs.Json.Grammar

/-!
What is written, in the grammar of texts.

The writer of trees and the grammar of texts were made apart: one says which pieces are written, the
other which texts a list or an object has. Here they meet. A layout only chooses among the blanks
that the grammar allows.

* `ListOf`, `ObjectOf`: the texts of a whole list or object, by the texts of its items or of the
  values of its members.
* `listOf_textAt`, `objectOf_textAt`: the tree of a list or of an object has a text of that kind in
  every layout, at every depth, as soon as its parts have theirs one level down.
-/

namespace DenseMedium.Json

open Ascii

variable {α : Type} {l : Layout} {n : Nat} {s t : Bytes}

/-! ### Whole lists and objects -/

/-- The texts of a list, from its opening bracket to its closing one. -/
def ListOf (Text : α → Bytes → Prop) (xs : List α) (t : Bytes) : Prop :=
  ∃ inside, ListText Text true xs inside ∧ t = openList :: inside

/-- The texts of members and of the closing brace. Each key comes with what may stand for its
value. -/
def MembersOf (isFirst : Bool) (members : List (String × (Bytes → Prop))) : Bytes → Prop :=
  MembersText (fun (IsText : Bytes → Prop) t => IsText t) isFirst
    (members.map fun m => (encode m.1, m.2))

/-- The texts of an object, from its opening brace to its closing one. -/
def ObjectOf (members : List (String × (Bytes → Prop))) (t : Bytes) : Prop :=
  ∃ inside, MembersOf true members inside ∧ t = openObject :: inside

/-! ### Blanks of a layout -/

theorem blanks_lineText (l : Layout) (n : Nat) : Blanks (l.lineText n) := by
  intro b hb
  cases l with
  | compact => exact absurd hb List.not_mem_nil
  | pretty indent =>
    rw [lineText_pretty] at hb
    rcases List.mem_cons.mp hb with rfl | hb
    · rfl
    · rw [List.eq_of_mem_replicate hb]
      rfl

theorem isLead_leadText (l : Layout) (n : Nat) (isFirst : Bool) :
    IsLead isFirst (l.leadText n isFirst) := by
  have blanks := blanks_lineText l n
  cases isFirst with
  | true =>
    rw [leadText_first]
    exact .first blanks
  | false =>
    have text := leadText_comma (s := []) l n
    rw [List.append_nil, List.append_nil] at text
    rw [text]
    exact .next blanks_nil blanks

/-- After the colon there is nothing or one space. -/
theorem afterColon_blanks (l : Layout) :
    ∃ after, Blanks after ∧ ∀ s, l.afterColon s = after ++ s := by
  cases l with
  | compact => exact ⟨[], blanks_nil, fun s => rfl⟩
  | pretty indent => exact ⟨[space], List.forall_mem_singleton.mpr rfl, fun s => rfl⟩

/-! ### Lists -/

section Lists

variable {Text : α → Bytes → Prop} {f : α → Tree} {xs : List α}

/-- The items after the first, up to the closing bracket. -/
theorem listText_textAt (h : ∀ x ∈ xs, Text x ((f x).textAt l n)) (close : Blanks s) :
    ListText Text false xs (itemsText l n (xs.map f) ++ (s ++ [Ascii.closeList])) := by
  induction xs with
  | nil => exact .close close
  | cons x xs ih =>
    obtain ⟨hx, hxs⟩ := List.forall_mem_cons.mp h
    rw [List.map_cons, itemsText_cons]
    exact .item (isLead_leadText l n false) hx (ih hxs)

/-- A list is written as its items, one level down. -/
theorem listOf_textAt (h : ∀ x ∈ xs, Text x ((f x).textAt l (n + 1))) :
    ListOf Text xs ((Tree.list (xs.map f)).textAt l n) := by
  have text := textAt_list (l := l) (n := n) (s := []) (xs.map f)
  rw [List.append_nil] at text
  refine ⟨_, ?_, text⟩
  cases xs with
  | nil => exact .close blanks_nil
  | cons x xs =>
    obtain ⟨hx, hxs⟩ := List.forall_mem_cons.mp h
    have others := listText_textAt hxs (blanks_lineText l n)
    exact .item (isLead_leadText l (n + 1) true) hx others

end Lists

/-! ### Objects -/

section Objects

/-- After the quoted name of a key come the colon and blanks. -/
theorem keyText_eq (l : Layout) (name : String) : ∃ after, Blanks after ∧
    ∀ s, quote :: l.keyText name s = keyText (encode name) [] after s := by
  obtain ⟨after, blanks, text⟩ := afterColon_blanks l
  refine ⟨after, blanks, fun s => ?_⟩
  unfold Layout.keyText keyText
  rw [text]
  rfl

/-- A member to be written, and what its value should be written as. -/
structure Member where
  name : String
  value : Tree
  IsText : Bytes → Prop

namespace Member

/-- Whether a member is written as it should be, at a nesting depth. -/
def IsWritten (l : Layout) (n : Nat) (m : Member) : Prop :=
  PlainName m.name ∧ m.IsText (m.value.textAt l n)

def written (m : Member) : String × Tree := (m.name, m.value)

def wanted (m : Member) : String × (Bytes → Prop) := (m.name, m.IsText)

end Member

/-- One member and those after it. -/
theorem membersOf_cons {m : Member} {ms : List Member} {isFirst : Bool} (h : m.IsWritten l n)
    (others : MembersOf false (ms.map Member.wanted) s) :
    MembersOf isFirst ((m :: ms).map Member.wanted) (l.leadText n isFirst ++
      (quote :: l.keyText m.name (m.value.textAt l n ++ s))) := by
  obtain ⟨plain, text⟩ := h
  obtain ⟨after, blanks, key⟩ := keyText_eq l m.name
  rw [key]
  exact .member (isLead_leadText l n isFirst) plain.isString blanks_nil blanks text others

/-- The members after the first, up to the closing brace. -/
theorem membersOf_textAt {ms : List Member} (h : ∀ m ∈ ms, m.IsWritten l n) (close : Blanks s) :
    MembersOf false (ms.map Member.wanted)
      (membersText l n (ms.map Member.written) ++ (s ++ [Ascii.closeObject])) := by
  induction ms with
  | nil => exact .close close
  | cons m ms ih =>
    obtain ⟨hm, hms⟩ := List.forall_mem_cons.mp h
    have text := membersText_cons (l := l) (n := n) (s := s ++ [Ascii.closeObject]) m.name m.value
      (ms.map Member.written)
    rw [← leadText_comma] at text
    exact text ▸ membersOf_cons hm (ih hms)

/-- An object is written as its members, one level down. -/
theorem objectOf_textAt {m : Member} {ms : List Member}
    (h : ∀ m' ∈ m :: ms, m'.IsWritten l (n + 1)) :
    ObjectOf ((m :: ms).map Member.wanted)
      ((Tree.object ((m :: ms).map Member.written)).textAt l n) := by
  obtain ⟨hm, hms⟩ := List.forall_mem_cons.mp h
  have text := textAt_object (l := l) (n := n) (s := []) m.name m.value (ms.map Member.written)
  rw [List.append_nil] at text
  exact ⟨_, membersOf_cons hm (membersOf_textAt hms (blanks_lineText l n)), text⟩

end Objects

end DenseMedium.Json
