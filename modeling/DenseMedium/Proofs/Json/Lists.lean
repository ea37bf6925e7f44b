import DenseMedium.Json.Tree
import DenseMedium.Proofs.Json.Numerals

/-!
Lists that were written.

`Accepts reader t v`: the reader takes the text of the tree `t` for the value `v`, in every layout, at
every nesting depth, whatever blanks stand before it and whatever follows. It holds of a list as soon
as it holds of the items: `accepts_sequence` for lists of any length, `accepts_triple` for triples.
-/

namespace DenseMedium.Json

open Ascii

variable {α β : Type} {e : Ending} {l : Layout} {n : Nat} {r s t u : Bytes} {b c : UInt8}

/-! ### Texts -/

/-- The text of a tree whose first line stands at a nesting depth. -/
def Tree.textAt (l : Layout) (n : Nat) (t : Tree) : Bytes := (t.pieces l n).flatten

theorem Tree.textAt_zero (l : Layout) (t : Tree) : t.textAt l 0 = t.text l := rfl

/-- The text of the items after the first, with their commas. -/
def itemsText (l : Layout) (n : Nat) (ts : List Tree) : Bytes := (itemPieces l n ts).flatten

def Layout.lineText (l : Layout) (n : Nat) : Bytes := (l.line n).flatten

def Layout.leadText (l : Layout) (n : Nat) (isFirst : Bool) : Bytes := (l.lead n isFirst).flatten

/-- The text of a list after its opening bracket, up to what follows the list. -/
def insideText (l : Layout) (n : Nat) (ts : List Tree) (s : Bytes) : Bytes :=
  match ts with
  | [] => Ascii.closeList :: s
  | t :: ts => l.leadText (n + 1) true ++ (t.textAt l (n + 1) ++
      (itemsText l (n + 1) ts ++ (l.lineText n ++ Ascii.closeList :: s)))

theorem textAt_list (ts : List Tree) :
    (Tree.list ts).textAt l n ++ s = openList :: insideText l n ts s := by
  cases ts with
  | nil => rfl
  | cons t ts =>
    simp [Tree.textAt, Tree.pieces, insideText, Layout.leadText, itemsText, Layout.lineText]

theorem itemsText_cons (t : Tree) (ts : List Tree) :
    itemsText l n (t :: ts) ++ s = l.leadText n false ++ (t.textAt l n ++ (itemsText l n ts ++ s)) := by
  simp [itemsText, itemPieces, Layout.leadText, Tree.textAt]

theorem leadText_comma (l : Layout) (n : Nat) :
    l.leadText n false ++ s = comma :: (l.lineText n ++ s) := by
  cases l with
  | compact => rfl
  | pretty indent => simp [Layout.leadText, Layout.lead, Layout.lineText, Layout.line]

theorem leadText_first (l : Layout) (n : Nat) : l.leadText n true = l.lineText n := by
  cases l with
  | compact => rfl
  | pretty indent => rfl

/-- A new line of an indented text. -/
theorem lineText_pretty (indent n : Nat) : (Layout.pretty indent).lineText n =
    newline :: List.replicate (n * indent) space := by
  simp [Layout.lineText, Layout.line, Layout.levels]

/-! ### Blanks -/

theorem skipBlank_of_head (h : isBlank b = false) : skipBlank (b :: s) = b :: s := by
  unfold skipBlank
  rw [h]
  rfl

theorem skipBlank_spaces (k : Nat) (s : Bytes) :
    skipBlank (List.replicate k space ++ s) = skipBlank s := by
  induction k with
  | zero => rfl
  | succ k ih => exact ih

/-- A new line is blank. -/
theorem skipBlank_line (l : Layout) (n : Nat) (s : Bytes) :
    skipBlank (l.lineText n ++ s) = skipBlank s := by
  cases l with
  | compact => rfl
  | pretty indent =>
    rw [lineText_pretty]
    exact skipBlank_spaces _ s

theorem endsNumber_newline : EndsNumber newline := ⟨by decide, by decide, by decide⟩

theorem endsNumber_comma : EndsNumber comma := ⟨by decide, by decide, by decide⟩

/-- A new line and a byte that ends a number may follow a value. -/
theorem follows_line (h : EndsNumber b) : Follows e (l.lineText n ++ b :: s) := by
  cases l with
  | compact => exact follows_cons h
  | pretty indent =>
    rw [lineText_pretty]
    exact follows_cons endsNumber_newline

/-- More items may follow an item. -/
theorem follows_items (ts : List Tree) (h : Follows e s) : Follows e (itemsText l n ts ++ s) := by
  cases ts with
  | nil => exact h
  | cons t ts =>
    rw [itemsText_cons, leadText_comma]
    exact follows_cons endsNumber_comma

/-! ### The cursor in a list -/

/-- Where an item starts. -/
def Starts (r : Except ReadError (Option (Rest s))) (t : Bytes) : Prop := ∃ h, r = .ok (some ⟨t, h⟩)

theorem nextItem_end {isFirst : Bool} (start : skipBlank s = Ascii.closeList :: r) :
    nextItem e isFirst s = .ok none := by
  unfold nextItem
  exact (match_skipBlank start).trans rfl

theorem nextItem_first (start : skipBlank s = b :: r) (h : b ≠ Ascii.closeList) :
    Starts (nextItem e true s) (b :: r) := by
  refine ⟨start ▸ length_skipBlank_le s, ?_⟩
  unfold nextItem
  refine (match_skipBlank start).trans ?_
  rw [if_neg h, if_pos rfl]

theorem nextItem_comma (start : skipBlank s = comma :: r) (next : skipBlank r = c :: t)
    (h : c ≠ Ascii.closeList) : Starts (nextItem e false s) (c :: t) := by
  have bound := length_skipBlank_le r
  have shorter := length_lt_of_skipBlank start
  refine ⟨next ▸ Nat.le_trans bound (Nat.le_of_lt shorter), ?_⟩
  unfold nextItem
  refine (match_skipBlank start).trans ?_
  rw [if_neg (by decide), if_neg Bool.false_ne_true, if_pos rfl]
  exact (match_skipBlank next).trans (if_neg h)

theorem closeList_yields (start : skipBlank s = Ascii.closeList :: r) :
    Yields (closeList e s) () r := by
  refine ⟨length_lt_of_skipBlank start, ?_⟩
  unfold closeList
  exact (match_skipBlank start).trans rfl

theorem element_yields {item : Reader α} {count : Nat} {expected : String} {v : α}
    (start : Starts (nextItem e (count == 0) s) t) (reading : Yields (item e t) v u) :
    Yields (element item count expected e s) v u := by
  obtain ⟨h, found⟩ := start
  unfold element
  rw [found]
  exact reading.within

theorem list_eq {expected : String} {body : Reader α} (start : skipBlank s = openList :: r) :
    list expected body e s = (body e r).within (length_le_of_skipBlank start) := by
  unfold list
  exact (match_skipBlank start).trans (if_pos rfl)

theorem list_yields {expected : String} {body : Reader α} {v : α}
    (start : skipBlank s = openList :: r) (reading : Yields (body e r) v t) :
    Yields (list expected body e s) v t := by
  rw [list_eq start]
  exact reading.within

/-- A list that ends where it may. -/
theorem orEnd_absent {present : Reader α} {absent : α} (start : skipBlank s = Ascii.closeList :: r) :
    Yields (orEnd present absent e s) absent r := by
  unfold orEnd
  rw [nextItem_end start]
  exact (closeList_yields start).map

theorem orEnd_present {present : Reader α} {absent v : α} (start : Starts (nextItem e false s) t)
    (reading : Yields (present e t) v u) : Yields (orEnd present absent e s) v u := by
  obtain ⟨h, found⟩ := start
  unfold orEnd
  rw [found]
  exact reading.within

theorem items_end {item : Reader α} {isFirst : Bool} (start : skipBlank s = Ascii.closeList :: r) :
    Yields (items item e isFirst s) [] s := by
  refine ⟨Nat.le_refl _, ?_⟩
  unfold items
  rw [nextItem_end start]

theorem items_next {item : Reader α} {isFirst : Bool} {v : α} {vs : List α}
    (start : Starts (nextItem e isFirst s) t) (reading : Yields (item e t) v u)
    (others : Yields (items item e false u) vs r) : Yields (items item e isFirst s) (v :: vs) r := by
  obtain ⟨hs, next⟩ := start
  obtain ⟨hi, found⟩ := reading
  obtain ⟨hr, rest⟩ := others
  refine ⟨Nat.le_trans hr (Nat.le_trans (Nat.le_of_lt hi) hs), ?_⟩
  rw [items, next]
  simp only [found, rest]

/-! ### Accepted trees -/

/-- The reader takes the text of the tree for the value. -/
structure Accepts (reader : Reader α) (t : Tree) (v : α) : Prop where
  starts (l : Layout) (n : Nat) :
    ∃ b r, t.textAt l n = b :: r ∧ isBlank b = false ∧ b ≠ Ascii.closeList
  reads {l : Layout} {n : Nat} {e : Ending} {s u : Bytes} (start : skipBlank u = t.textAt l n ++ s)
    (follows : Follows e s) : Yields (reader e u) v s

namespace Accepts

variable {item : Reader α} {tree : Tree} {v : α}

theorem skipBlank_text (h : Accepts item tree v) :
    skipBlank (tree.textAt l n ++ s) = tree.textAt l n ++ s := by
  obtain ⟨b, r, text, blank, -⟩ := h.starts l n
  rw [text, List.cons_append]
  exact skipBlank_of_head blank

/-- The first item or a further one is found where it starts. -/
theorem nextItem (h : Accepts item tree v) (isFirst : Bool) :
    Starts (nextItem e isFirst (l.leadText n isFirst ++ (tree.textAt l n ++ s)))
      (tree.textAt l n ++ s) := by
  have blanks := h.skipBlank_text (l := l) (n := n) (s := s)
  obtain ⟨b, r, text, -, notEnd⟩ := h.starts l n
  rw [text, List.cons_append] at blanks ⊢
  cases isFirst with
  | true =>
    rw [leadText_first]
    exact nextItem_first ((skipBlank_line l n _).trans blanks) notEnd
  | false =>
    rw [leadText_comma]
    exact nextItem_comma (skipBlank_of_head (by decide)) ((skipBlank_line l n _).trans blanks) notEnd

end Accepts

theorem textAt_number (numeral : Bytes) : (Tree.number numeral).textAt l n = numeral := by
  simp [Tree.textAt, Tree.pieces]

/-- A number is accepted by its literal. -/
theorem accepts_number {expected : String} {accept : Number → Except ReadError α}
    {p : NumberParts} {isNegative : Bool} {x : Number} {v : α} (hp : p.WellFormed)
    (value : p.value isNegative = some x) (accepted : accept x = .ok v) :
    Accepts (numeric expected accept) (.number (signed isNegative p.text)) v where
  starts l n := by
    rw [textAt_number]
    cases isNegative with
    | true => exact ⟨minus, p.text, rfl, by decide, by decide⟩
    | false =>
      obtain ⟨d, r, hd, text⟩ := hp.text_eq_cons p.isText_text
      obtain ⟨blank, -, -, notEnd⟩ := isBlank_digit hd
      exact ⟨digit d, r, text, blank, notEnd⟩
  reads start follows := by
    rw [textAt_number] at start
    exact numeric_text hp p.isText_text value accepted start follows

/-- A word is accepted by its decimal. -/
theorem accepts_unsignedWord (n : UInt32) :
    Accepts unsignedWord (.number (decimal n.toNat)) n := by
  have small := n.toNat_lt
  have accepted : (if 0 ≤ (n.toNat : Int) ∧ (n.toNat : Int) ≤ 4294967295 then
      Except.ok (UInt32.ofInt n.toNat) else
        (.error (.invalidValue n.toNat "u32") : Except ReadError UInt32)) = .ok n := by
    rw [if_pos ⟨by omega, by omega⟩, UInt32.ofInt]
    congr 1
    rw [← UInt32.toNat_inj, UInt32.toNat_ofNat']
    omega
  rw [← naturalParts_text]
  exact accepts_number (naturalParts_wellFormed _)
    (naturalParts_value (Nat.lt_trans small (by decide))) accepted

theorem skipBlank_close (l : Layout) (n : Nat) (s : Bytes) :
    skipBlank (l.lineText n ++ Ascii.closeList :: s) = Ascii.closeList :: s :=
  (skipBlank_line l n _).trans (skipBlank_of_head (by decide))

theorem follows_close (l : Layout) (n : Nat) (s : Bytes) :
    Follows e (l.lineText n ++ Ascii.closeList :: s) :=
  follows_line ⟨by decide, by decide, by decide⟩

namespace Accepts

variable {item : Reader α} {tree : Tree} {v : α} {ts : List Tree} {expected : String}

/-- Making something of a value does not change what is accepted. -/
theorem map (h : Accepts item tree v) (f : α → β) : Accepts (item.map f) tree (f v) where
  starts := h.starts
  reads start follows := (h.reads start follows).map

/-- The first item of a list. -/
theorem first (h : Accepts item tree v) : Yields (element item 0 expected e
    (insideText l n (tree :: ts) s)) v
      (itemsText l (n + 1) ts ++ (l.lineText n ++ Ascii.closeList :: s)) :=
  element_yields (h.nextItem true) (h.reads h.skipBlank_text (follows_items ts (follows_close l n s)))

/-- A further item of a list. -/
theorem next (h : Accepts item tree v) (count : Nat) (follows : Follows e s) :
    Yields (element item (count + 1) expected e (itemsText l n (tree :: ts) ++ s)) v
      (itemsText l n ts ++ s) := by
  rw [itemsText_cons]
  exact element_yields (h.nextItem false) (h.reads h.skipBlank_text (follows_items ts follows))

end Accepts

/-- A list is accepted when its inside is. -/
theorem accepts_list {expected : String} {body : Reader α} {ts : List Tree} {v : α}
    (inside : ∀ l n e s, Yields (body e (insideText l n ts s)) v s) :
    Accepts (list expected body) (.list ts) v where
  starts l n := by
    have text := textAt_list (l := l) (n := n) (s := []) ts
    rw [List.append_nil] at text
    exact ⟨openList, _, text, by decide, by decide⟩
  reads start _ := list_yields (start.trans (textAt_list ts)) (inside _ _ _ _)

section Items

variable {item : Reader α} {f : β → Tree} {g : β → α} {xs : List β}

/-- The items after the first. -/
theorem items_text (h : ∀ x ∈ xs, Accepts item (f x) (g x)) (close : skipBlank s = Ascii.closeList :: r)
    (follows : Follows e s) :
    Yields (items item e false (itemsText l n (xs.map f) ++ s)) (xs.map g) s := by
  induction xs with
  | nil => exact items_end close
  | cons x xs ih =>
    obtain ⟨hx, hxs⟩ := List.forall_mem_cons.mp h
    rw [List.map_cons, itemsText_cons]
    exact items_next (hx.nextItem false) (hx.reads hx.skipBlank_text (follows_items _ follows))
      (ih hxs)

/-- A list of any length. -/
theorem accepts_sequence (h : ∀ x ∈ xs, Accepts item (f x) (g x)) :
    Accepts (sequence item) (.list (xs.map f)) (xs.map g) := by
  refine accepts_list fun l n e s => ?_
  have body {rest : Bytes} {inside : Bytes} (reading : Yields (items item e true inside) (xs.map g) rest)
      (close : skipBlank rest = Ascii.closeList :: s) :
      Yields (listBody item e inside) (xs.map g) s := by
    obtain ⟨_, found⟩ := reading
    unfold listBody
    rw [found]
    exact (closeList_yields close).map.within
  cases xs with
  | nil => exact body (items_end (skipBlank_of_head (by decide))) (skipBlank_of_head (by decide))
  | cons x xs =>
    obtain ⟨hx, hxs⟩ := List.forall_mem_cons.mp h
    have close := skipBlank_close l n s
    have follows := follows_close (e := e) l n s
    exact body (items_next (hx.nextItem true)
      (hx.reads hx.skipBlank_text (follows_items _ follows)) (items_text hxs close follows)) close

end Items

/-- A list of three. -/
theorem accepts_triple {item : Reader α} {make : α → α → α → β} {t₁ t₂ t₃ : Tree} {v₁ v₂ v₃ : α}
    (h₁ : Accepts item t₁ v₁) (h₂ : Accepts item t₂ v₂) (h₃ : Accepts item t₃ v₃) :
    Accepts (triple make item) (.list [t₁, t₂, t₃]) (make v₁ v₂ v₃) := by
  refine accepts_list fun l n e s => ?_
  have follows := follows_close (e := e) l n s
  exact h₁.first.bind ((h₂.next 0 follows).bind ((h₃.next 1 follows).bind
    (closeList_yields (skipBlank_close l n s)).map))

end DenseMedium.Json
