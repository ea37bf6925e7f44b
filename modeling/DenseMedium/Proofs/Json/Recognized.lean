import DenseMedium.Proofs.Json.Literals

/-!
Readers take nothing but texts of values.

`Reads reader parse`: whatever the reader has taken is a text of a value, after blanks, and the
answer is what `parse` makes of the value. With `Takes` this pins a reader down: it takes the texts
of those values that `parse` accepts, and no other bytes.

* `reads_numeric`, `reads_list`, `reads_sequence`, `reads_struct`: numbers, lists and objects. The
  inside of a list of a fixed length is read item by item, `ReadsItems`.
* `reads_skipValue`: what is skipped is a text of some value. What the brackets that are open ask of
  the bytes that follow is `Closes`.
* `document_spelled`: a document that is read is a text of a value.
-/

namespace DenseMedium.Json

open Ascii

variable {α β σ : Type} {e : Ending} {s t u : Bytes}

/-! ### Readers -/

/-- Whether a reader takes nothing but texts of values, each for what `parse` makes of it. -/
structure Reads (reader : Reader α) (parse : Value → Option α) : Prop where
  spelled {e : Ending} {s : Bytes} {x : α} {r : Shorter s} (found : reader e s = .ok (x, r)) :
    ∃ v t, skipBlank s = t ++ r.1 ∧ Spells v t ∧ parse v = some x

theorem Reads.map {reader : Reader α} {parse : Value → Option α} (h : Reads reader parse)
    (f : α → β) : Reads (reader.map f) fun v => (parse v).map f where
  spelled found := by
    obtain ⟨x, reading, rfl⟩ := Reader.map_eq_ok found
    obtain ⟨v, t, text, spells, value⟩ := h.spelled reading
    exact ⟨v, t, text, spells, congrArg (Option.map f) value⟩

/-- A number that is read has a value that was accepted. -/
theorem reads_numeric {expected : String} {accept : Number → Except ReadError α}
    {parse : Value → Option α} (h : ∀ {isNegative : Bool} {p : NumberParts} {n : Number} {x : α},
      p.value isNegative = some n → accept n = .ok x → parse (.number isNegative p) = some x) :
    Reads (numeric expected accept) parse where
  spelled {e s x r} found := by
    unfold numeric at found
    obtain ⟨b, r', start, taken⟩ := exists_first_of_ok found
    dsimp only at taken
    split at taken
    · contradiction
    · rename_i n rest reading
      split at taken
      · contradiction
      · rename_i x accepted
        cases taken
        split at reading
        · rename_i isMinus
          subst isMinus
          obtain ⟨r'', reading, same⟩ := within_eq_ok reading
          obtain ⟨p, t, text, wellFormed, isText, value⟩ := number_spelled reading
          rw [same] at text
          exact ⟨.number true p, signed true t, start.trans (congrArg (minus :: ·) text),
            .number wellFormed isText, h value accepted⟩
        · split at reading
          · obtain ⟨p, t, text, wellFormed, isText, value⟩ := number_spelled reading
            exact ⟨.number false p, signed false t, start.trans text,
              .number wellFormed isText, h value accepted⟩
          · exact absurd reading unexpected_ne_ok

/-! ### Lists -/

/-- What stands before the next item is a lead, and the item starts right after it. -/
theorem nextItem_spelled {isFirst : Bool} {start : Rest s}
    (h : nextItem e isFirst s = .ok (some start)) :
    skipBlank start.1 = start.1 ∧ ∃ lead, IsLead isFirst lead ∧ s = lead ++ start.1 := by
  unfold nextItem at h
  obtain ⟨b, r, found, taken⟩ := exists_first_of_ok h
  obtain ⟨w, blanks, text⟩ := exists_blanks_of_skipBlank found
  have again : skipBlank (b :: r) = b :: r := found ▸ skipBlank_skipBlank s
  split at taken
  · cases taken
  · split at taken
    · rename_i first
      subst first
      cases taken
      exact ⟨again, w, .first blanks, text⟩
    · rename_i later
      obtain rfl := eq_false_of_ne_true later
      split at taken
      · rename_i isComma
        subst isComma
        obtain ⟨c, r', found', taken'⟩ := exists_first_of_ok taken
        obtain ⟨w', blanks', text'⟩ := exists_blanks_of_skipBlank found'
        have again' : skipBlank (c :: r') = c :: r' := found' ▸ skipBlank_skipBlank r
        split at taken'
        · exact absurd taken' (breach_ne_ok _ _)
        · cases taken'
          refine ⟨again', w ++ comma :: w', .next blanks blanks', ?_⟩
          simp [text, text']
      · exact absurd taken (breach_ne_ok _ _)

theorem closeList_spelled {r : Shorter s} (h : closeList e s = .ok ((), r)) :
    ∃ w, Blanks w ∧ s = (w ++ [Ascii.closeList]) ++ r.1 := by
  unfold closeList at h
  obtain ⟨b, r', found, taken⟩ := exists_first_of_ok h
  obtain ⟨w, blanks, text⟩ := exists_blanks_of_skipBlank found
  split at taken
  · rename_i isClose
    subst isClose
    cases taken
    exact ⟨w, blanks, text.trans (List.append_cons _ _ _)⟩
  · split at taken <;> exact absurd taken (breach_ne_ok _ _)

/-- Whether a reader takes nothing but the items of a list with its closing bracket. -/
structure ReadsItems (reader : Reader α) (isFirst : Bool) (parse : List Value → Option α) :
    Prop where
  spelled {e : Ending} {s : Bytes} {x : α} {r : Shorter s} (found : reader e s = .ok (x, r)) :
    ∃ vs t, s = t ++ r.1 ∧ ListText Spells isFirst vs t ∧ parse vs = some x

/-- The items of a list by the first one and what `others` makes of the rest. -/
def head? (parse : Value → Option α) (others : α → List Value → Option β) :
    List Value → Option β
  | [] => none
  | v :: vs => (parse v).bind fun x => others x vs

/-- No item. -/
def nil? (x : α) : List Value → Option α
  | [] => some x
  | _ :: _ => none

/-- No more items. -/
theorem readsItems_close {isFirst : Bool} (x : α) :
    ReadsItems (closeList.map fun _ => x) isFirst (nil? x) where
  spelled found := by
    obtain ⟨_, reading, rfl⟩ := Reader.map_eq_ok found
    obtain ⟨w, blanks, text⟩ := closeList_spelled reading
    exact ⟨[], _, text, .close blanks, rfl⟩

section Elements

variable {item : Reader α} {parse : Value → Option α}

theorem Reads.element (h : Reads item parse) {count : Nat} {expected : String} {x : α}
    {r : Shorter s} (found : Json.element item count expected e s = .ok (x, r)) :
    ∃ v lead t, s = lead ++ (t ++ r.1) ∧ IsLead (count == 0) lead ∧ Spells v t ∧
      parse v = some x := by
  unfold Json.element at found
  split at found
  · contradiction
  · contradiction
  · rename_i start next
    obtain ⟨unblanked, lead, separated, text⟩ := nextItem_spelled next
    obtain ⟨r', reading, same⟩ := within_eq_ok found
    obtain ⟨v, t, itemText, spells, value⟩ := h.spelled reading
    rw [unblanked, same] at itemText
    exact ⟨v, lead, t, itemText ▸ text, separated, spells, value⟩

/-- An item of a list of a fixed length, and those after it. -/
theorem readsItems_element (h : Reads item parse) (count : Nat) (expected : String)
    {next : α → Reader β} {others : α → List Value → Option β}
    (h' : ∀ x, ReadsItems (next x) false (others x)) :
    ReadsItems ((element item count expected).bind next) (count == 0) (head? parse others) where
  spelled found := by
    obtain ⟨x, r', first, r'', reading, same⟩ := Reader.bind_eq_ok found
    obtain ⟨v, lead, t, text, separated, spells, value⟩ := h.element first
    obtain ⟨vs, t', rest, items, values⟩ := (h' x).spelled reading
    refine ⟨v :: vs, lead ++ (t ++ t'), text.trans ?_, .item separated spells items, ?_⟩
    · rw [rest, same, List.append_assoc, List.append_assoc]
    · rw [head?, value, Option.bind_some, values]

end Elements

/-- What is read behind an opening bracket is a list with that bracket. -/
theorem ReadsItems.opened {body : Reader α} {inside : List Value → Option α}
    (h : ReadsItems body true inside) {le : t.length ≤ s.length} {x : α} {r : Shorter s}
    (start : skipBlank s = openList :: t) (found : (body e t).within le = .ok (x, r)) :
    ∃ vs u, skipBlank s = u ++ r.1 ∧ Spells (.list vs) u ∧ inside vs = some x := by
  obtain ⟨r', reading, same⟩ := within_eq_ok found
  obtain ⟨vs, u, text, items, values⟩ := h.spelled reading
  rw [same] at text
  exact ⟨vs, openList :: u, start.trans (congrArg (openList :: ·) text), .list items, values⟩

theorem reads_list {expected : String} {body : Reader α} {parse : Value → Option α}
    {inside : List Value → Option α} (h : ReadsItems body true inside)
    (agree : ∀ {vs x}, inside vs = some x → parse (.list vs) = some x) :
    Reads (list expected body) parse where
  spelled found := by
    unfold list at found
    obtain ⟨b, r', start, taken⟩ := exists_first_of_ok found
    split at taken
    · rename_i isOpen
      subst isOpen
      obtain ⟨vs, t, text, spells, values⟩ := h.opened start taken
      exact ⟨.list vs, t, text, spells, agree values⟩
    · exact absurd taken unexpected_ne_ok

section Sequences

variable {item : Reader α} {parse : Value → Option α}

/-- All items that were read, and what was left before the closing bracket. -/
theorem items_spelled (h : Reads item parse) {isFirst : Bool} {xs : List α} {rest : Rest s}
    (found : items item e isFirst s = .ok (xs, rest)) {w : Bytes} (blanks : Blanks w)
    (close : rest.1 = (w ++ [Ascii.closeList]) ++ u) :
    ∃ vs t, s = t ++ u ∧ ListText Spells isFirst vs t ∧ vs.mapM parse = some xs := by
  fun_induction items item e isFirst s generalizing xs with
  | case1 | case3 | case4 => contradiction
  | case2 isFirst s =>
    cases found
    exact ⟨[], _, close, .close blanks, rfl⟩
  | case5 _ s start next x afterItem reading xs rest others ih =>
    cases found
    obtain ⟨unblanked, lead, separated, text⟩ := nextItem_spelled next
    obtain ⟨v, t, itemText, spells, value⟩ := h.spelled reading
    obtain ⟨vs, t', othersText, items, values⟩ := ih others close
    rw [unblanked] at itemText
    refine ⟨v :: vs, lead ++ (t ++ t'), ?_, .item separated spells items, ?_⟩
    · rw [text, itemText, othersText, List.append_assoc, List.append_assoc]
    · simp [value, values]

theorem readsItems_listBody (h : Reads item parse) :
    ReadsItems (listBody item) true fun vs => vs.mapM parse where
  spelled found := by
    obtain ⟨rest, reading, r', closing, same⟩ := listBody_eq_ok found
    obtain ⟨w, blanks, close⟩ := closeList_spelled closing
    rw [same] at close
    exact items_spelled h reading blanks close

theorem reads_sequence {parse' : Value → Option (List α)} (h : Reads item parse)
    (agree : ∀ {vs xs}, vs.mapM parse = some xs → parse' (.list vs) = some xs) :
    Reads (sequence item) parse' :=
  reads_list (readsItems_listBody h) agree

end Sequences

/-- A list of three items. -/
theorem readsItems_triple (make : α → α → α → β) {item : Reader α} {parse : Value → Option α}
    (h : Reads item parse) : ReadsItems (tripleBody make item) true
      (head? parse fun x => head? parse fun y => head? parse fun z => nil? (make x y z)) :=
  readsItems_element h 0 _ fun x => readsItems_element h 1 _ fun y =>
    readsItems_element h 2 _ fun z => readsItems_close (make x y z)

/-! ### Objects -/

theorem nextKey_spelled {isFirst : Bool} {start : Rest s}
    (h : nextKey e isFirst s = .ok (some start)) :
    ∃ lead, IsLead isFirst lead ∧ s = lead ++ quote :: start.1 := by
  unfold nextKey at h
  obtain ⟨b, r, found, taken⟩ := exists_first_of_ok h
  obtain ⟨w, blanks, text⟩ := exists_blanks_of_skipBlank found
  split at taken
  · cases taken
  · split at taken
    · rename_i first
      subst first
      split at taken
      · rename_i isQuote
        subst isQuote
        cases taken
        exact ⟨w, .first blanks, text⟩
      · exact absurd taken (breach_ne_ok _ _)
    · rename_i later
      obtain rfl := eq_false_of_ne_true later
      split at taken
      · rename_i isComma
        subst isComma
        obtain ⟨c, r', found', taken'⟩ := exists_first_of_ok taken
        obtain ⟨w', blanks', text'⟩ := exists_blanks_of_skipBlank found'
        split at taken'
        · rename_i isQuote
          subst isQuote
          cases taken'
          refine ⟨w ++ comma :: w', .next blanks blanks', ?_⟩
          simp [text, text']
        · split at taken' <;> exact absurd taken' (breach_ne_ok _ _)
      · exact absurd taken (breach_ne_ok _ _)

theorem colon_spelled {r : Shorter s} (h : colon e s = .ok ((), r)) :
    ∃ w, Blanks w ∧ s = w ++ Ascii.colon :: r.1 := by
  unfold colon at h
  obtain ⟨b, r', found, taken⟩ := exists_first_of_ok h
  obtain ⟨w, blanks, text⟩ := exists_blanks_of_skipBlank found
  split at taken
  · rename_i isColon
    subst isColon
    cases taken
    exact ⟨w, blanks, text⟩
  · exact absurd taken (breach_ne_ok _ _)

theorem closeObject_spelled {r : Shorter s} (h : closeObject e s = .ok ((), r)) :
    ∃ w, Blanks w ∧ s = (w ++ [Ascii.closeObject]) ++ r.1 := by
  unfold closeObject at h
  obtain ⟨b, r', found, taken⟩ := exists_first_of_ok h
  obtain ⟨w, blanks, text⟩ := exists_blanks_of_skipBlank found
  split at taken
  · rename_i isClose
    subst isClose
    cases taken
    exact ⟨w, blanks, text.trans (List.append_cons _ _ _)⟩
  · exact absurd taken (breach_ne_ok _ _)

/-- The members, put into a draft one after another. -/
def fill? (put : σ → String → Value → Option σ) : σ → List (Bytes × Value) → Option σ
  | draft, [] => some draft
  | draft, (key, v) :: ms =>
      (keyName? key).bind fun name => (put draft name v).bind fun next => fill? put next ms

section Objects

variable {field : σ → String → Except ReadError (Reader σ)} {put : σ → String → Value → Option σ}

/-- A member is a key with a colon and a value that was put into the draft. -/
theorem member_spelled (h : ∀ {draft name reader}, field draft name = .ok reader →
    Reads reader (put draft name)) {draft next : σ} {r : Shorter s}
    (found : member field draft e s = .ok (next, r)) :
    ∃ key before after v t, quote :: s = keyText key before after (t ++ r.1) ∧ IsString key ∧
      Blanks before ∧ Blanks after ∧ Spells v t ∧
      ∃ name, keyName? key = some name ∧ put draft name v = some next := by
  obtain ⟨name, afterKey, keyReading, r', found, same⟩ := Reader.bind_eq_ok found
  obtain ⟨key, text, isString, named⟩ := stringContent_spelled keyReading
  split at found
  · contradiction
  · rename_i reader reads
    obtain ⟨_, afterColon, colonReading, r'', reading, same'⟩ := Reader.bind_eq_ok found
    obtain ⟨before, blanks, colonText⟩ := colon_spelled colonReading
    obtain ⟨v, t, valueText, spells, value⟩ := (h reads).spelled reading
    obtain ⟨after, blanks', afterText⟩ := exists_blanks afterColon.1
    rw [valueText, same', same] at afterText
    refine ⟨key, before, after, v, t, congrArg (quote :: ·) (text.trans ?_), isString, blanks,
      blanks', spells, name, named, value⟩
    rw [colonText, afterText]

/-- All members that were read, and what was left before the closing brace. -/
theorem members_spelled (h : ∀ {draft name reader}, field draft name = .ok reader →
    Reads reader (put draft name)) {isFirst : Bool} {draft last : σ} {rest : Rest s}
    (found : members field e isFirst draft s = .ok (last, rest)) {w : Bytes} (blanks : Blanks w)
    (close : rest.1 = (w ++ [Ascii.closeObject]) ++ u) :
    ∃ ms t, s = t ++ u ∧ MembersText Spells isFirst ms t ∧ fill? put draft ms = some last := by
  fun_induction members field e isFirst draft s generalizing last with
  | case1 | case3 | case4 => contradiction
  | case2 isFirst draft s =>
    cases found
    exact ⟨[], _, close, .close blanks, rfl⟩
  | case5 _ draft s start next draft' afterMember reading last rest others ih =>
    cases found
    obtain ⟨lead, separated, text⟩ := nextKey_spelled next
    obtain ⟨key, before, after, v, t, memberText, isString, blanks', blanks'', spells, name, named,
      value⟩ := member_spelled h reading
    obtain ⟨ms, t', othersText, members, filled⟩ := ih others close
    refine ⟨(key, v) :: ms, lead ++ keyText key before after (t ++ t'), ?_,
      .member separated isString blanks' blanks'' spells members, ?_⟩
    · rw [text, memberText, othersText, List.append_assoc, keyText_append, List.append_assoc]
    · simp [fill?, named, value, filled]

/-- The inside of an object is its members with the closing brace. -/
theorem objectBody_spelled {empty : σ} {finish : σ → Except ReadError α}
    (h : ∀ {draft name reader}, field draft name = .ok reader → Reads reader (put draft name))
    {x : α} {r : Shorter s} (found : objectBody field empty finish e s = .ok (x, r)) :
    ∃ ms t last, s = t ++ r.1 ∧ MembersText Spells true ms t ∧ fill? put empty ms = some last ∧
      finish last = .ok x := by
  obtain ⟨last, rest, reading, finished, r', closing, same⟩ := objectBody_eq_ok found
  obtain ⟨w, blanks, close⟩ := closeObject_spelled closing
  rw [same] at close
  obtain ⟨ms, t, text, members, filled⟩ := members_spelled h reading blanks close
  exact ⟨ms, t, last, text, members, filled, finished⟩

/-- A structure is an object whose members fill the empty draft, or a list of the fields. -/
theorem reads_struct {expected : String} {inOrder : Reader α} {empty : σ}
    {finish : σ → Except ReadError α} {inside : List Value → Option α} {parse : Value → Option α}
    (h : ReadsItems inOrder true inside)
    (h' : ∀ {draft name reader}, field draft name = .ok reader → Reads reader (put draft name))
    (agreeList : ∀ {vs x}, inside vs = some x → parse (.list vs) = some x)
    (agreeObject : ∀ {ms last x}, fill? put empty ms = some last → finish last = .ok x →
      parse (.object ms) = some x) :
    Reads (struct expected inOrder (objectBody field empty finish)) parse where
  spelled found := by
    unfold struct at found
    obtain ⟨b, r', start, taken⟩ := exists_first_of_ok found
    split at taken
    · rename_i isOpen
      subst isOpen
      obtain ⟨vs, t, text, spells, values⟩ := h.opened start taken
      exact ⟨.list vs, t, text, spells, agreeList values⟩
    · split at taken
      · rename_i isOpen
        subst isOpen
        obtain ⟨r'', reading, same⟩ := within_eq_ok taken
        obtain ⟨ms, t, last, text, members, filled, finished⟩ := objectBody_spelled h' reading
        rw [same] at text
        exact ⟨.object ms, openObject :: t, start.trans (congrArg (openObject :: ·) text),
          .object members, agreeObject filled finished⟩
      · exact absurd taken unexpected_ne_ok

end Objects

/-! ### Skipped values -/

theorem letters_spelled {word : Bytes} {r : Rest s} (h : letters e word s = .ok r) :
    s = word ++ r.1 := by
  induction word generalizing s with
  | nil =>
    cases s <;> cases h <;> rfl
  | cons c word ih =>
    cases s with
    | nil => exact absurd h (stopped_ne_ok _ _ _)
    | cons b s =>
      unfold letters at h
      split at h
      · rename_i same
        subst same
        split at h
        · rename_i rest reading
          cases h
          exact congrArg (b :: ·) (ih reading)
        · contradiction
      · exact absurd h (breach_ne_ok _ _)

theorem ended_eq_ok {b : UInt8} {taken : Except ReadError (Rest s)} {x y : α}
    {r : Shorter (b :: s)} (h : Reading.ended (b := b) x taken = .ok (y, r)) :
    ∃ r', taken = .ok r' ∧ r'.1 = r.1 := by
  cases taken with
  | error z => contradiction
  | ok r' =>
    cases h
    exact ⟨r', rfl, rfl⟩

/-- A scalar that is skipped is a text of a value. -/
theorem skipScalar_spelled {b : UInt8} {r : Shorter (b :: s)}
    (h : skipScalar e b s = .ok ((), r)) : ∃ v t, b :: s = t ++ r.1 ∧ Spells v t := by
  unfold skipScalar at h
  split at h
  · rename_i isNull
    subst isNull
    obtain ⟨r', reading, same⟩ := ended_eq_ok h
    exact ⟨.null, _, congrArg (_ :: ·) (same ▸ letters_spelled reading), .null⟩
  split at h
  · rename_i isTrue
    subst isTrue
    obtain ⟨r', reading, same⟩ := ended_eq_ok h
    exact ⟨.boolean true, _, congrArg (_ :: ·) (same ▸ letters_spelled reading), .true⟩
  split at h
  · rename_i isFalse
    subst isFalse
    obtain ⟨r', reading, same⟩ := ended_eq_ok h
    exact ⟨.boolean false, _, congrArg (_ :: ·) (same ▸ letters_spelled reading), .false⟩
  split at h
  · rename_i isQuote
    subst isQuote
    obtain ⟨r', reading, same⟩ := within_eq_ok h
    obtain ⟨literal, text, isString⟩ := skipString_spelled reading
    rw [same] at text
    exact ⟨.string literal, _, by simp [text], .string isString⟩
  split at h
  · rename_i isMinus
    subst isMinus
    obtain ⟨r', reading, same⟩ := within_eq_ok h
    obtain ⟨p, t, text, wellFormed, isText⟩ := skipNumber_spelled reading
    rw [same] at text
    exact ⟨.number true p, signed true t, congrArg (minus :: ·) text, .number wellFormed isText⟩
  split at h
  · obtain ⟨p, t, text, wellFormed, isText⟩ := skipNumber_spelled h
    exact ⟨.number false p, signed false t, text, .number wellFormed isText⟩
  · exact absurd h (breach_ne_ok _ _)

/-- What is inside a bracket, up to where it is closed. -/
def Bracket.Inside (isFirst : Bool) (t : Bytes) : Bracket → Prop
  | .list => ∃ vs, ListText Spells isFirst vs t
  | .object => ∃ ms, MembersText Spells isFirst ms t

/-- Whether bytes close all brackets that are open after a value, and leave `r`. -/
def Closes (r : Bytes) : List Bracket → Bytes → Prop
  | [], s => s = r
  | k :: outer, s => ∃ t rest, k.Inside false t ∧ s = t ++ rest ∧ Closes r outer rest

/-- Whether bytes are what is still to be read at a place, and leave `r`. -/
def Place.Completes (r : Bytes) : Place → Bytes → Prop
  | .beforeValue brackets, s =>
      ∃ v t rest, skipBlank s = t ++ rest ∧ Spells v t ∧ Closes r brackets rest
  | .opened k outer, s => ∃ t rest, k.Inside true t ∧ s = t ++ rest ∧ Closes r outer rest
  | .beforeKey outer, s => ∃ key before after v t rest,
      skipBlank s = keyText key before after (t ++ rest) ∧ IsString key ∧ Blanks before ∧
        Blanks after ∧ Spells v t ∧ Closes r (.object :: outer) rest
  | .afterValue brackets, s => Closes r brackets s

section Skipping

variable {k : Bracket} {outer : List Bracket} {isFirst : Bool} {r : Bytes}

/-- An item or a member and what is after it make up the inside of a bracket. -/
theorem Place.Completes.inside (h : (Place.item k outer).Completes r s) {lead : Bytes}
    (separated : IsLead isFirst lead) (text : u = lead ++ skipBlank s) :
    ∃ t rest, k.Inside isFirst t ∧ u = t ++ rest ∧ Closes r outer rest := by
  cases k with
  | list =>
    obtain ⟨v, t, _, item, spells, t', rest, ⟨vs, others⟩, rfl, closes⟩ := h
    refine ⟨lead ++ (t ++ t'), rest, ⟨v :: vs, .item separated spells others⟩, ?_, closes⟩
    simp [text, item]
  | object =>
    obtain ⟨key, before, after, v, t, _, member, isString, blanks, blanks', spells, t', rest,
      ⟨ms, others⟩, rfl, closes⟩ := h
    refine ⟨lead ++ keyText key before after (t ++ t'), rest,
      ⟨(key, v) :: ms, .member separated isString blanks blanks' spells others⟩, ?_, closes⟩
    rw [text, member, List.append_assoc, keyText_append, List.append_assoc]

theorem Bracket.inside_close {w : Bytes} (blanks : Blanks w) :
    k.Inside isFirst (w ++ [k.closing]) := by
  cases k with
  | list => exact ⟨[], .close blanks⟩
  | object => exact ⟨[], .close blanks⟩

theorem Bracket.spells_of_inside {b : UInt8} (h : Bracket.opening? b = some k)
    (inside : k.Inside true t) : ∃ v, Spells v (b :: t) := by
  unfold Bracket.opening? at h
  split at h
  · rename_i isOpen
    cases h
    obtain ⟨vs, items⟩ := inside
    exact ⟨.list vs, isOpen ▸ .list items⟩
  · split at h
    · rename_i isOpen
      cases h
      obtain ⟨ms, members⟩ := inside
      exact ⟨.object ms, isOpen ▸ .object members⟩
    · contradiction

/-- What is skipped from a place is what was still to be read there. -/
theorem skipFrom_spelled {place : Place} (h : skipFrom e place s = .ok r) :
    place.Completes r s := by
  fun_induction skipFrom e place s with
  | case1 | case5 | case8 | case10 | case15 => exact absurd h (stopped_ne_ok _ _ _)
  | case3 | case9 => contradiction
  | case12 | case13 | case18 => exact absurd h (breach_ne_ok _ _)
  | case2 s brackets b r' start k opening ih =>
    obtain ⟨t, rest, inside, text, closes⟩ := ih h
    obtain ⟨v, spells⟩ := Bracket.spells_of_inside opening inside
    exact ⟨v, b :: t, rest, start.trans (congrArg (b :: ·) text), spells, closes⟩
  | case4 s brackets b r' start scalar u rest reading ih =>
    obtain ⟨v, t, text, spells⟩ := skipScalar_spelled reading
    exact ⟨v, t, rest.1, start.trans text, spells, ih h⟩
  | case6 s k outer r' start ih =>
    obtain ⟨w, blanks, text⟩ := exists_blanks_of_skipBlank start
    exact ⟨_, r', Bracket.inside_close blanks, text.trans (List.append_cons _ _ _), ih h⟩
  | case7 s k outer b r' start notEnd ih =>
    obtain ⟨w, blanks, text⟩ := exists_blanks_of_skipBlank start
    have again : skipBlank (b :: r') = b :: r' := start ▸ skipBlank_skipBlank s
    exact (ih h).inside (.first blanks) (text.trans (congrArg (w ++ ·) again.symm))
  | case11 s outer r' _ afterKey reading s' start start' ih =>
    obtain ⟨key, keyEnd, isString⟩ := skipString_spelled reading
    obtain ⟨before, blanks, colonText⟩ := exists_blanks_of_skipBlank start'
    obtain ⟨after, blanks', valueText⟩ := exists_blanks s'
    obtain ⟨v, t, rest, text, spells, closes⟩ := ih h
    refine ⟨key, before, after, v, t, rest, start.trans (congrArg (quote :: ·) ?_), isString,
      blanks, blanks', spells, closes⟩
    rw [← text, ← valueText, ← colonText]
    exact keyEnd
  | case14 => exact Except.ok.inj h
  | case16 s k outer r' start ih =>
    obtain ⟨w, blanks, text⟩ := exists_blanks_of_skipBlank start
    obtain ⟨w', blanks', text'⟩ := exists_blanks r'
    refine (ih h).inside (.next blanks blanks') ?_
    rw [text, List.append_assoc]
    exact congrArg (w ++ comma :: ·) text'
  | case17 s k outer r' start notComma ih =>
    obtain ⟨w, blanks, text⟩ := exists_blanks_of_skipBlank start
    exact ⟨_, r', Bracket.inside_close blanks, text.trans (List.append_cons _ _ _), ih h⟩

end Skipping

/-- What is skipped is a text of some value. -/
theorem reads_skipValue : Reads skipValue fun _ => some () where
  spelled found := by
    unfold skipValue at found
    split at found
    · contradiction
    · rename_i skipped
      cases found
      obtain ⟨v, t, rest, text, spells, closes⟩ := skipFrom_spelled skipped
      exact ⟨v, t, closes ▸ text, spells, rfl⟩

/-! ### Documents -/

/-- A document that is read is a text of a value. -/
theorem document_spelled {reader : Reader α} {parse : Value → Option α} (h : Reads reader parse)
    {x : α} (found : document reader e s = .ok x) :
    ∃ v : Value, v.IsDocument s ∧ parse v = some x := by
  unfold document at found
  split at found
  · contradiction
  · rename_i rest reading
    split at found
    · contradiction
    · rename_i ended
      cases found
      obtain ⟨v, t, text, spells, value⟩ := h.spelled reading
      obtain ⟨before, blanks, whole⟩ := exists_blanks s
      obtain ⟨after, blanks', nothing⟩ := exists_blanks rest.1
      refine ⟨v, ⟨before, t, rest.1, blanks, spells, ?_, whole.trans (congrArg _ text)⟩, value⟩
      unfold endOfDocument at ended
      split at ended
      · rename_i empty
        rw [empty, List.append_nil] at nothing
        exact nothing ▸ blanks'
      · contradiction
      · exact absurd ended (breach_ne_ok _ _)

end DenseMedium.Json
