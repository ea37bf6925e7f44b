import DenseMedium.Proofs.Json.Ascii

/-!
Indented texts.

* `Lines`: a text that is broken into lines after every comma and every bracket that is not closed at
  once, and in which every line is indented by the brackets that stand open.
* `Lines.line`, `Lines.endsLine`: what that says of a line, and of a byte after which one starts.
* `Tree.Tidy`: the indented text of a tree is broken into lines so, and is the compact text with
  spaces and newlines between its bytes. It holds of lists and objects as soon as it holds of their
  parts.
-/

namespace DenseMedium

namespace Ascii

/-- Whether a byte opens a list or an object. -/
def opens (b : UInt8) : Bool := b == openList || b == openObject

/-- Whether a byte closes a list or an object. -/
def closes (b : UInt8) : Bool := b == closeList || b == closeObject

/-- Whether a byte is not one of those that an indented layout adds. -/
def isInk (b : UInt8) : Bool := b != space && b != newline

/-- A text without its spaces and newlines. -/
def ink (s : Bytes) : Bytes := s.filter isInk

/-- Whether a byte stands inside a line, and neither opens nor closes anything. -/
def IsInner (b : UInt8) : Prop :=
  b ≠ newline ∧ b ≠ comma ∧ opens b = false ∧ closes b = false

instance (b : UInt8) : Decidable (IsInner b) := inferInstanceAs (Decidable (_ ∧ _))

theorem not_closes_of_opens {b : UInt8} (h : opens b = true) : b ≠ newline ∧ closes b = false := by
  simp only [opens, Bool.or_eq_true, beq_iff_eq] at h
  rcases h with rfl | rfl <;> decide

theorem not_opens_of_closes {b : UInt8} (h : closes b = true) :
    b ≠ newline ∧ b ≠ comma ∧ opens b = false := by
  simp only [closes, Bool.or_eq_true, beq_iff_eq] at h
  rcases h with rfl | rfl <;> decide

theorem isInk_of_closes {b : UInt8} (h : closes b = true) : isInk b = true := by
  simp only [closes, Bool.or_eq_true, beq_iff_eq] at h
  rcases h with rfl | rfl <;> decide

end Ascii

namespace Json

open Ascii

variable {indent depth : Nat} {s t : Bytes} {b c : UInt8}

/-! ### Lines -/

/-- The front of a line at a nesting depth. A line that starts with a closing bracket stands at the
depth outside of it, so there is one more bracket open. -/
def IsLine (indent opened : Nat) (s : Bytes) : Prop :=
  ∃ depth c r, s = List.replicate (depth * indent) space ++ c :: r ∧ isInk c = true ∧
    opened = depth + (closes c).toNat

/-- Whether a line ends behind a byte: at once, or behind the bracket that it opens and the next byte
closes. -/
def EndsLine (b : UInt8) (s : Bytes) : Prop :=
  ∃ c r, s = c :: r ∧ (c = newline ∨ opens b = true ∧ closes c = true)

/-- The rest of an indented text, after `opened` brackets that are not closed yet. -/
inductive Lines (indent : Nat) : Nat → Bytes → Prop where
  | done : Lines indent 0 []
  | byte {opened opened' : Nat} {b : UInt8} {s : Bytes} (rest : Lines indent opened' s)
      (count : opened + (opens b).toNat = opened' + (closes b).toNat)
      (line : b = newline → IsLine indent opened' s)
      (last : b = comma ∨ opens b = true → EndsLine b s) : Lines indent opened (b :: s)

namespace Lines

variable {opened : Nat} {before rest : Bytes}

theorem countP_cons_toNat (p : UInt8 → Bool) (b : UInt8) (s : Bytes) :
    (b :: s).countP p = s.countP p + (p b).toNat := by
  rw [List.countP_cons]
  cases p b <;> rfl

/-- The rest behind some bytes, and the brackets that they leave open. -/
theorem drop (h : Lines indent opened (before ++ rest)) : ∃ opened', Lines indent opened' rest ∧
    opened + before.countP opens = opened' + before.countP closes := by
  induction before generalizing opened with
  | nil => exact ⟨opened, h, rfl⟩
  | cons b before ih =>
    obtain - | ⟨others, count, -, -⟩ := h
    obtain ⟨opened', found, balance⟩ := ih others
    refine ⟨opened', found, ?_⟩
    rw [countP_cons_toNat, countP_cons_toNat]
    omega

/-- Every line is indented by the brackets that stand open before it. -/
theorem line (h : Lines indent opened (before ++ newline :: rest)) :
    ∃ here, IsLine indent here rest ∧
      opened + before.countP opens = here + before.countP closes := by
  obtain ⟨opened', found, balance⟩ := h.drop
  obtain - | ⟨-, count, line, -⟩ := found
  exact ⟨_, line rfl, balance.trans (congrArg (· + _) count)⟩

/-- Lines end where they should. -/
theorem endsLine (h : Lines indent opened (before ++ b :: rest))
    (last : b = comma ∨ opens b = true) : EndsLine b rest := by
  obtain ⟨_, found, -⟩ := h.drop
  obtain - | ⟨-, -, -, ends⟩ := found
  exact ends last

/-! ### Making lines -/

/-- Bytes inside a line. -/
theorem inner (inside : ∀ b ∈ before, IsInner b) (h : Lines indent opened s) :
    Lines indent opened (before ++ s) := by
  induction before with
  | nil => exact h
  | cons b before ih =>
    obtain ⟨⟨notLine, notComma, notOpen, notClose⟩, others⟩ := List.forall_mem_cons.mp inside
    refine .byte (ih others) ?_ (fun same => absurd same notLine) ?_
    · rw [notOpen, notClose]
    · rintro (same | bracket)
      · exact absurd same notComma
      · rw [notOpen] at bracket
        contradiction

/-- The break before a line. -/
theorem newLine {ends : Bool} (visible : isInk c = true) (bracket : closes c = ends)
    (h : Lines indent (depth + ends.toNat) (c :: s)) :
    Lines indent (depth + ends.toNat) ((Layout.pretty indent).lineText depth ++ c :: s) := by
  subst bracket
  have spaces : ∀ b ∈ List.replicate (depth * indent) space, IsInner b := by
    intro b hb
    rw [List.eq_of_mem_replicate hb]
    decide
  rw [lineText_pretty, List.cons_append]
  refine .byte (h.inner spaces) rfl (fun _ => ⟨depth, c, s, rfl, visible, rfl⟩) ?_
  rintro (same | bracket) <;> contradiction

theorem comma (h : Lines indent opened (newline :: s)) :
    Lines indent opened (Ascii.comma :: newline :: s) :=
  .byte h rfl nofun fun _ => ⟨newline, s, rfl, .inl rfl⟩

/-- A bracket that is not closed at once opens before a line, any other before its closing one. -/
theorem opening (bracket : opens b = true) (next : c = newline ∨ closes c = true)
    (h : Lines indent (opened + 1) (c :: s)) : Lines indent opened (b :: c :: s) := by
  obtain ⟨notLine, notClose⟩ := not_closes_of_opens bracket
  refine .byte h ?_ (fun same => absurd same notLine) fun _ => ⟨c, s, rfl, ?_⟩
  · rw [bracket, notClose]
    rfl
  · exact next.imp_right fun closed => ⟨bracket, closed⟩

theorem closing (bracket : closes b = true) (h : Lines indent opened s) :
    Lines indent (opened + 1) (b :: s) := by
  obtain ⟨notLine, notComma, notOpen⟩ := not_opens_of_closes bracket
  refine .byte h ?_ (fun same => absurd same notLine) ?_
  · rw [bracket, notOpen]
    rfl
  · rintro (same | opening)
    · exact absurd same notComma
    · rw [notOpen] at opening
      contradiction

/-- A closing bracket on a line of its own. -/
theorem closingLine (bracket : closes b = true) (h : Lines indent depth s) :
    Lines indent (depth + 1) ((Layout.pretty indent).lineText depth ++ b :: s) := by
  exact newLine (isInk_of_closes bracket) bracket (closing bracket h)

end Lines

/-! ### Tidy trees -/

theorem ink_append (s t : Bytes) : ink (s ++ t) = ink s ++ ink t := List.filter_append s t

theorem ink_lineText (indent n : Nat) : ink ((Layout.pretty indent).lineText n) = [] := by
  rw [lineText_pretty]
  refine List.filter_eq_nil_iff.mpr fun b hb => ?_
  rcases List.mem_cons.mp hb with rfl | hb
  · decide
  · rw [List.eq_of_mem_replicate hb]
    decide

/-- A tree whose indented text is broken into lines as it should be, and consists of the bytes of its
compact text. -/
structure Tree.Tidy (t : Tree) : Prop where
  /-- It starts inside a line, and not with a closing bracket. -/
  starts (indent depth : Nat) :
    ∃ b r, t.textAt (.pretty indent) depth = b :: r ∧ isInk b = true ∧ closes b = false
  lines {indent depth : Nat} {s : Bytes} (rest : Lines indent depth s) :
    Lines indent depth (t.textAt (.pretty indent) depth ++ s)
  ink_eq (indent depth depth' : Nat) :
    ink (t.textAt (.pretty indent) depth) = t.textAt .compact depth'

namespace Tree.Tidy

variable {tree : Tree} {ts : List Tree}

/-- An item on a line of its own. -/
theorem line (h : tree.Tidy) (rest : Lines indent depth s) :
    Lines indent depth ((Layout.pretty indent).lineText depth ++
      (tree.textAt (.pretty indent) depth ++ s)) := by
  obtain ⟨b, r, text, visible, notClose⟩ := h.starts indent depth
  have item := h.lines rest
  rw [text, List.cons_append] at item ⊢
  exact Lines.newLine visible notClose item

theorem lines_items (h : ∀ t ∈ ts, t.Tidy) (rest : Lines indent depth s) :
    Lines indent depth (itemsText (.pretty indent) depth ts ++ s) := by
  induction ts with
  | nil => exact rest
  | cons t ts ih =>
    obtain ⟨ht, hts⟩ := List.forall_mem_cons.mp h
    rw [itemsText_cons, leadText_comma]
    have line := ht.line (ih hts)
    rw [lineText_pretty] at line ⊢
    exact line.comma

/-- The items after the first, compact. -/
theorem ink_items (h : ∀ t ∈ ts, t.Tidy) (depth' : Nat) :
    ink (itemsText (.pretty indent) depth ts) = itemsText .compact depth' ts := by
  induction ts with
  | nil => rfl
  | cons t ts ih =>
    obtain ⟨ht, hts⟩ := List.forall_mem_cons.mp h
    have text (l : Layout) (n : Nat) := itemsText_cons (l := l) (n := n) (s := []) t ts
    simp only [leadText_comma, List.append_nil] at text
    rw [text, text, ← ih hts, ← ht.ink_eq indent depth depth', ← ink_append]
    change comma :: ink _ = _
    rw [ink_append, ink_lineText]
    rfl

end Tree.Tidy

theorem tidy_list {ts : List Tree} (h : ∀ t ∈ ts, t.Tidy) : (Tree.list ts).Tidy where
  starts indent depth := by
    have text := textAt_list (l := .pretty indent) (n := depth) (s := []) ts
    rw [List.append_nil] at text
    exact ⟨openList, _, text, by decide, by decide⟩
  lines {indent depth s} rest := by
    have close := Lines.closing (b := Ascii.closeList) (by decide) rest
    rw [textAt_list]
    cases ts with
    | nil => exact Lines.opening (by decide) (.inr (by decide)) close
    | cons t ts =>
      obtain ⟨ht, hts⟩ := List.forall_mem_cons.mp h
      have close := Lines.closingLine (b := Ascii.closeList) (by decide) rest
      have line := ht.line (Tree.Tidy.lines_items hts close)
      rw [insideText, leadText_first]
      rw [lineText_pretty] at line ⊢
      exact Lines.opening (by decide) (.inl rfl) line
  ink_eq indent depth depth' := by
    have text (l : Layout) (n : Nat) := textAt_list (l := l) (n := n) (s := []) ts
    simp only [List.append_nil] at text
    rw [text, text]
    cases ts with
    | nil => rfl
    | cons t ts =>
      obtain ⟨ht, hts⟩ := List.forall_mem_cons.mp h
      change openList :: ink _ = _
      rw [insideText, insideText, leadText_first, leadText_first, ink_append, ink_append, ink_append,
        ink_append, ink_lineText, ink_lineText, ht.ink_eq _ _ (depth' + 1),
        Tree.Tidy.ink_items hts (depth' + 1)]
      rfl

/-! ### Numerals and keys -/

/-- Bytes that belong together: a layout adds none of them, and no line ends among them. -/
def IsWord (word : Bytes) : Prop := ∀ b ∈ word, isInk b = true ∧ IsInner b

instance (word : Bytes) : Decidable (IsWord word) :=
  List.decidableBAll (fun b => isInk b = true ∧ IsInner b) word

theorem IsWord.ink_eq {word : Bytes} (h : IsWord word) : ink word = word :=
  List.filter_eq_self.mpr fun b hb => (h b hb).1

theorem IsWord.lines {word : Bytes} {opened : Nat} (h : IsWord word)
    (rest : Lines indent opened s) : Lines indent opened (word ++ s) :=
  rest.inner fun b hb => (h b hb).2

theorem tidy_number {numeral : Bytes} (nonempty : numeral ≠ []) (word : IsWord numeral) :
    (Tree.number numeral).Tidy where
  starts indent depth := by
    obtain ⟨b, r, rfl⟩ := List.exists_cons_of_ne_nil nonempty
    obtain ⟨visible, -, -, -, notClose⟩ := word b List.mem_cons_self
    exact ⟨b, r, textAt_number _, visible, notClose⟩
  lines rest := by
    rw [textAt_number]
    exact word.lines rest
  ink_eq indent depth depth' := by
    rw [textAt_number, textAt_number, word.ink_eq]

section Members

variable {name : String} {m : String × Tree} {ms : List (String × Tree)}

/-- A key, its colon and the value behind it. -/
theorem lines_key {opened : Nat} (word : IsWord (encode name)) (rest : Lines indent opened s) :
    Lines indent opened (quote :: (Layout.pretty indent).keyText name s) := by
  have isInner : IsInner quote ∧ IsInner Ascii.colon ∧ IsInner space := by decide
  have colon : ∀ b ∈ [quote, Ascii.colon, space], IsInner b := by simp [isInner]
  have first : ∀ b ∈ [quote], IsInner b := by simp [isInner]
  exact (word.lines (rest.inner colon)).inner first

theorem ink_key (word : IsWord (encode name)) (s : Bytes) :
    ink (quote :: (Layout.pretty indent).keyText name s) =
      quote :: Layout.compact.keyText name (ink s) := by
  change quote :: ink (encode name ++ quote :: Ascii.colon :: space :: s) = _
  rw [ink_append, word.ink_eq]
  rfl

/-- A member on a line of its own. -/
theorem lines_member (word : IsWord (encode name)) {value : Tree} (tidy : value.Tidy)
    (rest : Lines indent depth s) : Lines indent depth ((Layout.pretty indent).lineText depth ++
      (quote :: (Layout.pretty indent).keyText name (value.textAt (.pretty indent) depth ++ s))) := by
  have notClose : closes quote = false := by decide
  exact Lines.newLine (by decide) notClose (lines_key word (tidy.lines rest))

variable (h : ∀ m ∈ ms, IsWord (encode m.1) ∧ m.2.Tidy)

include h in
theorem lines_members (rest : Lines indent depth s) :
    Lines indent depth (membersText (.pretty indent) depth ms ++ s) := by
  induction ms with
  | nil => exact rest
  | cons m ms ih =>
    obtain ⟨⟨word, tidy⟩, others⟩ := List.forall_mem_cons.mp h
    rw [membersText_cons]
    have line := lines_member word tidy (ih others)
    rw [lineText_pretty] at line ⊢
    exact line.comma

include h in
/-- The members after the first, compact. -/
theorem ink_membersText (depth' : Nat) : ink (membersText (.pretty indent) depth ms) =
    membersText .compact depth' ms := by
  induction ms with
  | nil => rfl
  | cons m ms ih =>
    obtain ⟨⟨word, tidy⟩, others⟩ := List.forall_mem_cons.mp h
    have text (l : Layout) (n : Nat) := membersText_cons (l := l) (n := n) (s := []) m.1 m.2 ms
    simp only [List.append_nil] at text
    rw [text, text, ← ih others, ← tidy.ink_eq indent depth depth', ← ink_append]
    change comma :: ink _ = _
    rw [ink_append, ink_lineText, ink_key word]
    rfl

theorem tidy_object (h : ∀ x ∈ m :: ms, IsWord (encode x.1) ∧ x.2.Tidy) :
    (Tree.object (m :: ms)).Tidy where
  starts indent depth := by
    have text := textAt_object (l := .pretty indent) (n := depth) (s := []) m.1 m.2 ms
    rw [List.append_nil] at text
    exact ⟨openObject, _, text, by decide, by decide⟩
  lines {indent depth s} rest := by
    obtain ⟨⟨word, tidy⟩, others⟩ := List.forall_mem_cons.mp h
    have close := Lines.closingLine (b := Ascii.closeObject) (by decide) rest
    have line := lines_member word tidy (lines_members others close)
    rw [textAt_object, leadText_first]
    rw [lineText_pretty] at line ⊢
    exact Lines.opening (by decide) (.inl rfl) line
  ink_eq indent depth depth' := by
    obtain ⟨⟨word, tidy⟩, others⟩ := List.forall_mem_cons.mp h
    have text (l : Layout) (n : Nat) := textAt_object (l := l) (n := n) (s := []) m.1 m.2 ms
    simp only [List.append_nil, leadText_first] at text
    rw [text, text]
    change openObject :: ink _ = _
    rw [ink_append, ink_lineText, ink_key word, ink_append, ink_append, ink_append, ink_lineText,
      tidy.ink_eq _ _ (depth' + 1), ink_membersText others (depth' + 1)]
    rfl

end Members

/-! ### Whole documents -/

/-- An indented document. Every line of it starts with `indent` spaces for each bracket that stands
open before the line and is not the one that the line closes first, and goes on with something else.
A line ends behind every comma, and behind every bracket that is not closed at once. -/
structure IsIndented (indent : Nat) (p : Bytes) : Prop where
  line {before rest : Bytes} (split : p = before ++ rest)
    (starts : before = [] ∨ before.getLast? = some newline) :
    ∃ depth c r, rest = List.replicate (indent * depth) space ++ c :: r ∧ c ≠ space ∧ c ≠ newline ∧
      before.countP opens = before.countP closes + depth + (closes c).toNat
  ends {before rest : Bytes} {b : UInt8} (split : p = before ++ b :: rest)
    (last : b = comma ∨ opens b = true) :
    rest.head? = some newline ∨ opens b = true ∧ rest.head?.any closes = true

theorem isInk_iff : isInk c = true ↔ c ≠ space ∧ c ≠ newline := by
  simp [isInk]

/-- The indented text of a tidy tree. -/
theorem Tree.Tidy.isIndented {tree : Tree} (h : tree.Tidy) (indent : Nat) :
    IsIndented indent (tree.text (.pretty indent)) := by
  have lines : Lines indent 0 (tree.textAt (.pretty indent) 0 ++ []) := h.lines .done
  rw [List.append_nil, Tree.textAt_zero] at lines
  constructor
  · rintro before rest split (rfl | last)
    · obtain ⟨c, r, text, visible, notClose⟩ := h.starts indent 0
      obtain ⟨notSpace, notLine⟩ := isInk_iff.mp visible
      rw [Tree.textAt_zero] at text
      refine ⟨0, c, r, ?_, notSpace, notLine, ?_⟩
      · exact split.symm.trans text
      · rw [notClose]
        rfl
    · obtain ⟨front, rfl⟩ := List.getLast?_eq_some_iff.mp last
      rw [split, List.append_assoc, List.singleton_append] at lines
      obtain ⟨here, ⟨depth, c, r, text, visible, open_eq⟩, count⟩ := lines.line
      obtain ⟨notSpace, notLine⟩ := isInk_iff.mp visible
      refine ⟨depth, c, r, ?_, notSpace, notLine, ?_⟩
      · rw [text, Nat.mul_comm]
      · have none : [newline].countP opens = 0 ∧ [newline].countP closes = 0 := by decide
        rw [List.countP_append, List.countP_append, none.1, none.2]
        omega
  · intro before rest b split last
    rw [split] at lines
    obtain ⟨c, r, rfl, ends⟩ := lines.endsLine last
    exact ends.imp (congrArg some) id

end Json

end DenseMedium
