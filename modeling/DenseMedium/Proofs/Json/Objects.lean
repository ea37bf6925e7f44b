import DenseMedium.Json.Object
import DenseMedium.Proofs.Json.Lists

/-!
Objects and documents that were written.

`Fills field d ms d'`: reading the members `ms` one after another turns the draft `d` into `d'`. An
object is accepted when its members fill the empty draft (`accepts_struct`), and what is accepted is
read as a whole document (`document_text`).
-/

namespace DenseMedium.Json

open Ascii

variable {α β σ : Type} {e : Ending} {l : Layout} {n : Nat} {r s t u : Bytes} {b c : UInt8}

/-! ### Keys -/

/-- A name that a string literal spells as it is. -/
structure PlainName (name : String) : Prop where
  bytes : ∀ b ∈ encode name, b ≠ quote ∧ b ≠ backslash ∧ 0x20 ≤ b.toNat ∧ b.toNat < 0x80
  text : Utf8.text? (encode name) = some name

/-- Names can be checked byte by byte. -/
theorem PlainName.of_all {name : String} (bytes : ((encode name).all fun b =>
      decide (b ≠ quote ∧ b ≠ backslash ∧ 0x20 ≤ b.toNat ∧ b.toNat < 0x80)) = true)
    (text : Utf8.text? (encode name) = some name) : PlainName name :=
  ⟨fun b hb => of_decide_eq_true (List.all_eq_true.mp bytes b hb), text⟩

/-- Bytes that are neither a quote nor an escape are taken as they are. -/
theorem scanString_text {content : Bytes} (found : Bytes)
    (h : ∀ b ∈ content, b ≠ quote ∧ b ≠ backslash ∧ 0x20 ≤ b.toNat ∧ b.toNat < 0x80) :
    scanString true e .plain found (content ++ quote :: r) = .ok (found.reverse ++ content, r) := by
  induction content generalizing found with
  | nil =>
    rw [List.append_nil]
    rfl
  | cons b content ih =>
    obtain ⟨⟨notQuote, notBackslash, printable, -⟩, others⟩ := List.forall_mem_cons.mp h
    have step : stringStep true b .plain = .ok (.next .plain [b]) := by
      unfold stringStep
      rw [if_neg notQuote, if_neg notBackslash, if_neg (Nat.not_lt.mpr printable)]
    rw [List.cons_append, scanString, step]
    simp only [ih _ others]
    simp

theorem stringBytes_yields {isStrict : Bool} {content : Bytes}
    (scanned : scanString isStrict e .plain [] s = .ok (content, r)) :
    Yields (stringBytes isStrict e s) content r := by
  refine ⟨length_scanString_lt scanned, ?_⟩
  unfold stringBytes
  split
  · rename_i failed
    rw [scanned] at failed
    contradiction
  · rename_i found
    cases scanned.symm.trans found
    rfl

theorem stringContent_yields {content : Bytes} {name : String}
    (scanned : scanString true e .plain [] s = .ok (content, r))
    (text : Utf8.text? content = some name) : Yields (stringContent e s) name r := by
  obtain ⟨h, found⟩ := stringBytes_yields scanned
  refine ⟨h, ?_⟩
  unfold stringContent
  rw [found]
  simp only [text]

theorem stringContent_text {name : String} (plain : PlainName name) :
    Yields (stringContent e (encode name ++ quote :: r)) name r :=
  stringContent_yields (scanString_text [] plain.bytes) plain.text

/-! ### The cursor in an object -/

theorem nextKey_end {isFirst : Bool} (start : skipBlank s = Ascii.closeObject :: r) :
    nextKey e isFirst s = .ok none := by
  unfold nextKey
  exact (match_skipBlank start).trans rfl

theorem nextKey_first (start : skipBlank s = quote :: r) : Starts (nextKey e true s) r := by
  refine ⟨Nat.le_of_lt (length_lt_of_skipBlank start), ?_⟩
  unfold nextKey
  exact (match_skipBlank start).trans rfl

theorem nextKey_comma (start : skipBlank s = comma :: r) (next : skipBlank r = quote :: t) :
    Starts (nextKey e false s) t := by
  have shorter := length_lt_of_skipBlank start
  have shortest := length_lt_of_skipBlank next
  refine ⟨by omega, ?_⟩
  unfold nextKey
  refine (match_skipBlank start).trans ?_
  rw [if_neg (by decide), if_neg Bool.false_ne_true, if_pos rfl]
  exact (match_skipBlank next).trans rfl

theorem colon_yields (start : skipBlank s = Ascii.colon :: r) : Yields (colon e s) () r := by
  refine ⟨length_lt_of_skipBlank start, ?_⟩
  unfold colon
  exact (match_skipBlank start).trans rfl

theorem closeObject_yields (start : skipBlank s = Ascii.closeObject :: r) :
    Yields (closeObject e s) () r := by
  refine ⟨length_lt_of_skipBlank start, ?_⟩
  unfold closeObject
  exact (match_skipBlank start).trans rfl

section Members

variable {field : σ → String → Except ReadError (Reader σ)} {draft draft' : σ} {reader : Reader σ}
  {name : String}

theorem member_yields (key : Yields (stringContent e s) name t)
    (value : field draft name = .ok reader) (start : skipBlank t = Ascii.colon :: u)
    (reading : Yields (reader e u) draft' r) : Yields (member field draft e s) draft' r := by
  refine key.bind ?_
  simp only [value]
  exact (colon_yields start).bind reading

theorem members_end {isFirst : Bool} (start : skipBlank s = Ascii.closeObject :: r) :
    Yields (members field e isFirst draft s) draft s := by
  refine ⟨Nat.le_refl _, ?_⟩
  unfold members
  rw [nextKey_end start]

theorem members_next {isFirst : Bool} {last : σ} (start : Starts (nextKey e isFirst s) t)
    (reading : Yields (member field draft e t) draft' u)
    (others : Yields (members field e false draft' u) last r) :
    Yields (members field e isFirst draft s) last r := by
  obtain ⟨hs, next⟩ := start
  obtain ⟨hi, found⟩ := reading
  obtain ⟨hr, rest⟩ := others
  refine ⟨Nat.le_trans hr (Nat.le_trans (Nat.le_of_lt hi) hs), ?_⟩
  rw [members, next]
  simp only [found, rest]

/-! ### Texts -/

/-- What stands between the colon of a key and what follows. -/
def Layout.afterColon (l : Layout) (s : Bytes) : Bytes :=
  match l with
  | .compact => s
  | .pretty _ => space :: s

theorem skipBlank_afterColon (l : Layout) (s : Bytes) : skipBlank (l.afterColon s) = skipBlank s := by
  cases l <;> rfl

/-- What stands after the opening quote of a key, up to the value. -/
def Layout.keyText (l : Layout) (name : String) (s : Bytes) : Bytes :=
  encode name ++ quote :: Ascii.colon :: l.afterColon s

/-- The text of the members after the first, with their commas. -/
def membersText (l : Layout) (n : Nat) (ms : List (String × Tree)) : Bytes :=
  (memberPieces l n ms).flatten

theorem key_flatten (l : Layout) (name : String) (s : Bytes) :
    (l.key name).flatten ++ s = quote :: l.keyText name s := by
  cases l <;> simp [Layout.key, Layout.keyText, Layout.afterColon]

theorem textAt_object (name : String) (value : Tree) (ms : List (String × Tree)) :
    (Tree.object ((name, value) :: ms)).textAt l n ++ s =
      openObject :: (l.leadText (n + 1) true ++ (quote :: l.keyText name
        (value.textAt l (n + 1) ++ (membersText l (n + 1) ms ++
          (l.lineText n ++ Ascii.closeObject :: s))))) := by
  rw [← key_flatten]
  simp [Tree.textAt, Tree.pieces, Layout.leadText, membersText, Layout.lineText]

theorem membersText_cons (name : String) (value : Tree) (ms : List (String × Tree)) :
    membersText l n ((name, value) :: ms) ++ s =
      comma :: (l.lineText n ++ (quote :: l.keyText name
        (value.textAt l n ++ (membersText l n ms ++ s)))) := by
  rw [← leadText_comma, ← key_flatten]
  simp [membersText, memberPieces, Layout.leadText, Tree.textAt]

/-- More members may follow a value. -/
theorem follows_members (ms : List (String × Tree)) (h : Follows e s) :
    Follows e (membersText l n ms ++ s) := by
  cases ms with
  | nil => exact h
  | cons m ms =>
    rw [membersText_cons]
    exact follows_cons endsNumber_comma

/-- The members, read in order, turn one draft into another. -/
inductive Fills (field : σ → String → Except ReadError (Reader σ)) :
    σ → List (String × Tree) → σ → Prop where
  | nil (draft : σ) : Fills field draft [] draft
  | cons {draft next last : σ} {name : String} {value : Tree} {ms : List (String × Tree)}
      {reader : Reader σ} (plain : PlainName name) (reads : field draft name = .ok reader)
      (accepts : Accepts reader value next) (others : Fills field next ms last) :
      Fills field draft ((name, value) :: ms) last

/-- A member whose opening quote is gone. -/
theorem member_text {value : Tree} (plain : PlainName name) (reads : field draft name = .ok reader)
    (accepts : Accepts reader value draft') (l : Layout) (n : Nat) (follows : Follows e s) :
    Yields (member field draft e (l.keyText name (value.textAt l n ++ s))) draft' s := by
  exact member_yields (stringContent_text plain) reads (skipBlank_of_head (by decide))
    (accepts.reads ((skipBlank_afterColon l _).trans accepts.skipBlank_text) follows)

/-- The members after the first. -/
theorem members_text {ms : List (String × Tree)} (fills : Fills field draft ms draft')
    (close : skipBlank s = Ascii.closeObject :: r) (follows : Follows e s) :
    Yields (members field e false draft (membersText l n ms ++ s)) draft' s := by
  induction fills with
  | nil draft => exact members_end close
  | cons plain reads accepts others ih =>
    rw [membersText_cons]
    refine members_next (nextKey_comma (skipBlank_of_head (by decide))
      ((skipBlank_line l n _).trans (skipBlank_of_head (by decide)))) ?_ ih
    exact member_text plain reads accepts l n (follows_members _ follows)

/-- All members of an object. -/
theorem members_first {value : Tree} {ms : List (String × Tree)}
    (fills : Fills field draft ((name, value) :: ms) draft')
    (close : skipBlank s = Ascii.closeObject :: r) (follows : Follows e s) :
    Yields (members field e true draft (l.leadText n true ++
      (quote :: l.keyText name (value.textAt l n ++ (membersText l n ms ++ s))))) draft' s := by
  rw [leadText_first]
  cases fills with
  | cons plain reads accepts others =>
    exact members_next
      (nextKey_first ((skipBlank_line l n _).trans (skipBlank_of_head (by decide))))
      (member_text plain reads accepts l n (follows_members ms follows))
      (members_text others close follows)

end Members

/-! ### Objects -/

section Objects

variable {field : σ → String → Except ReadError (Reader σ)} {empty draft : σ}
  {finish : σ → Except ReadError α} {v : α}

theorem objectBody_yields (reading : Yields (members field e true empty s) draft t)
    (finished : finish draft = .ok v) (close : skipBlank t = Ascii.closeObject :: r) :
    Yields (objectBody field empty finish e s) v r := by
  obtain ⟨_, found⟩ := reading
  unfold objectBody
  rw [found]
  simp only [finished]
  exact (closeObject_yields close).map.within

theorem struct_list {expected : String} {inOrder byName : Reader α}
    (start : skipBlank s = openList :: r) : struct expected inOrder byName e s =
      (inOrder e r).within (length_le_of_skipBlank start) := by
  unfold struct
  exact (match_skipBlank start).trans (if_pos rfl)

theorem struct_object {expected : String} {inOrder byName : Reader α}
    (start : skipBlank s = openObject :: r) : struct expected inOrder byName e s =
      (byName e r).within (length_le_of_skipBlank start) := by
  unfold struct
  refine (match_skipBlank start).trans ?_
  rw [if_neg (by decide), if_pos rfl]

theorem struct_yields {expected : String} {inOrder byName : Reader α}
    (start : skipBlank s = openObject :: r) (reading : Yields (byName e r) v t) :
    Yields (struct expected inOrder byName e s) v t := by
  rw [struct_object start]
  exact reading.within

/-- An object of one member or more is accepted when its members fill the empty draft. -/
theorem accepts_struct {expected : String} {inOrder : Reader α} {m : String × Tree}
    {ms : List (String × Tree)} (fills : Fills field empty (m :: ms) draft)
    (finished : finish draft = .ok v) :
    Accepts (struct expected inOrder (objectBody field empty finish)) (.object (m :: ms)) v where
  starts l n := by
    have text := textAt_object (l := l) (n := n) (s := []) m.1 m.2 ms
    rw [List.append_nil] at text
    exact ⟨openObject, _, text, by decide, by decide⟩
  reads {l n e s u} start _ := by
    have close : skipBlank (l.lineText n ++ Ascii.closeObject :: s) = Ascii.closeObject :: s :=
      (skipBlank_line l n _).trans (skipBlank_of_head (by decide))
    have follows : Follows e (l.lineText n ++ Ascii.closeObject :: s) :=
      follows_line ⟨by decide, by decide, by decide⟩
    exact struct_yields (start.trans (textAt_object m.1 m.2 ms))
      (objectBody_yields (members_first fills close follows) finished close)

end Objects

/-- What is accepted is read as a whole document. -/
theorem document_text {reader : Reader α} {tree : Tree} {v : α} (h : Accepts reader tree v)
    (l : Layout) : document reader .complete (tree.text l) = .ok v := by
  have text : skipBlank (tree.text l) = tree.textAt l 0 ++ [] := by
    have := h.skipBlank_text (l := l) (n := 0) (s := [])
    rwa [List.append_nil] at this ⊢
  obtain ⟨_, found⟩ := h.reads text follows_nil
  unfold document
  rw [found]
  rfl

end DenseMedium.Json
