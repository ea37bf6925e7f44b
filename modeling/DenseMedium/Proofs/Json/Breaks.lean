import DenseMedium.Json.Object
import DenseMedium.Json.Skip
import DenseMedium.Json.Value

/-!
Documents whose source breaks.

A reader over a source that breaks sees the same bytes as over a complete document that stops where
the source breaks. It may not take the break for the end of the document, and it may not find
anything wrong that is not wrong with the bytes:

* `Alike`: a result over a broken source that is blamed on the break, or is the result over the same
  bytes when they are complete. `Steady`: a reader all of whose results are like that.
* Numbers, strings, lists, objects and skipped values are steady when their parts are. The one
  number that a break does not make uncertain is one that its exponent puts out of range already
  (`value_of_isHopeless`).
* `document_alike`: so is a document.
-/

namespace DenseMedium.Json

variable {α β σ : Type} {s : Bytes} {cause : StreamError}

/-! ### Results -/

/-- Whether the result `broken` is blamed on the break, or is the result `complete`. -/
def Alike (cause : StreamError) (broken complete : Except ReadError α) : Prop :=
  broken = .error (.source cause) ∨ broken = complete

theorem Alike.same (x : Except ReadError α) : Alike cause x x := .inr rfl

theorem Alike.blamed (x : Except ReadError α) : Alike cause (.error (.source cause)) x := .inl rfl

/-- What passes the blame on may be looked at as if nothing had broken. -/
@[elab_as_elim]
theorem Alike.elim {motive : Except ReadError α → Prop} {x y : Except ReadError α}
    (h : Alike cause x y) (blamed : motive (.error (.source cause))) (same : motive y) :
    motive x := by
  rcases h with rfl | rfl
  · exact blamed
  · exact same

theorem alike_stopped (m : Malformed) :
    Alike cause (stopped (.broken cause) m : Except ReadError α) (stopped .complete m) := .inl rfl

theorem Alike.map {x y : Except ReadError α} (h : Alike cause x y) (f : α → β) :
    Alike cause (x.map f) (y.map f) := by
  rcases h with rfl | rfl
  · exact .blamed _
  · exact .same _

/-- Results are alike if what tells them apart is. -/
theorem Alike.of_map {f : α → β} (injective : Function.Injective f) {x y : Except ReadError α}
    (h : Alike cause (x.map f) (y.map f)) : Alike cause x y := by
  rcases h with blamed | same
  · left
    cases x with
    | error e =>
      cases blamed
      rfl
    | ok v => cases blamed
  · right
    cases x with
    | error e =>
      cases y with
      | error e' =>
        cases same
        rfl
      | ok v' => cases same
    | ok v =>
      cases y with
      | error e' => cases same
      | ok v' => rw [injective (Except.ok.inj same)]

theorem Alike.within {t : Bytes} {x y : Reading s α} (h : Alike cause x y)
    (le : s.length ≤ t.length) : Alike cause (x.within le) (y.within le) := by
  rcases h with rfl | rfl
  · exact .blamed _
  · exact .same _

theorem Alike.ended {b : UInt8} {v : α} {x y : Except ReadError (Rest s)} (h : Alike cause x y) :
    Alike cause (Reading.ended (b := b) v x) (Reading.ended v y) := by
  rcases h with rfl | rfl
  · exact .blamed _
  · exact .same _

/-- Readers that look past the blanks are alike if they are from the byte that stands there. -/
theorem alike_first {m : Malformed}
    {first first' : (b : UInt8) → (r : Bytes) → skipBlank s = b :: r → Except ReadError α}
    (h : ∀ b r start, Alike cause (first b r start) (first' b r start)) :
    Alike cause
      (match h : skipBlank s with
        | [] => stopped (.broken cause) m
        | b :: r => first b r h)
      (match h : skipBlank s with
        | [] => stopped .complete m
        | b :: r => first' b r h) := by
  split
  · exact alike_stopped m
  · rename_i b r start
    exact h b r start

/-- Whether the results of a reader over broken sources are like those over complete bytes. -/
def Steady (reader : Reader α) : Prop :=
  ∀ cause s, Alike cause (reader (.broken cause) s) (reader .complete s)

theorem Steady.bind {first : Reader α} {next : α → Reader β} (h : Steady first)
    (h' : ∀ v, Steady (next v)) : Steady (first.bind next) := by
  intro cause s
  unfold Reader.bind
  refine (h cause s).elim (.blamed _) ?_
  split
  · exact (h' _ _ _).within _
  · exact .same _

theorem Steady.map {reader : Reader α} (h : Steady reader) (f : α → β) :
    Steady (reader.map f) := by
  intro cause s
  unfold Reader.map
  exact (h cause s).elim (.blamed _) (.same _)

/-! ### Words and numbers -/

theorem letters_alike (word s : Bytes) :
    Alike cause (letters (.broken cause) word s) (letters .complete word s) := by
  induction word generalizing s with
  | nil => exact .same _
  | cons c word ih =>
    cases s with
    | nil => exact alike_stopped _
    | cons b r =>
      unfold letters
      split
      · exact (ih r).elim (.blamed _) (.same _)
      · exact .same _

theorem someDigits_alike (m : Malformed) (s : Bytes) :
    Alike cause (someDigits (.broken cause) m s) (someDigits .complete m s) := by
  unfold someDigits
  split
  · split
    · exact alike_stopped _
    · exact .same _
  · exact .same _

theorem wholeDigits_alike (m : Malformed) (s : Bytes) :
    Alike cause (wholeDigits (.broken cause) m s) (wholeDigits .complete m s) := by
  unfold wholeDigits
  exact (someDigits_alike m s).elim (.blamed _) (.same _)

theorem fractionDigits_alike (m : Malformed) (s : Bytes) :
    Alike cause (fractionDigits (.broken cause) m s) (fractionDigits .complete m s) := by
  unfold fractionDigits
  split
  · exact .same _
  · rename_i b r
    split
    · exact (someDigits_alike m r).elim (.blamed _) (.same _)
    · exact .same _

theorem exponentDigits_alike (m : Malformed) (s : Bytes) :
    Alike cause (exponentDigits (.broken cause) m s) (exponentDigits .complete m s) := by
  unfold exponentDigits
  split
  · exact .same _
  · rename_i b r
    split
    · dsimp only
      exact (someDigits_alike m (exponentSign r).2.1).elim (.blamed _) (.same _)
    · exact .same _

theorem numberParts_alike (m : Malformed) (s : Bytes) :
    Alike cause (numberParts (.broken cause) m s) (numberParts .complete m s) := by
  unfold numberParts
  refine (wholeDigits_alike m s).elim (.blamed _) ?_
  split
  · exact .same _
  · rename_i whole afterWhole _
    refine (fractionDigits_alike m afterWhole.1).elim (.blamed _) ?_
    split
    · exact .same _
    · rename_i fraction afterFraction _
      exact (exponentDigits_alike m afterFraction.1).elim (.blamed _) (.same _)

/-- An exponent that puts a literal out of range leaves it without a value. -/
theorem value_of_isHopeless {p : NumberParts} (h : p.isHopeless = true) (isNegative : Bool) :
    p.value isNegative = none := by
  unfold NumberParts.isHopeless at h
  split at h
  · rename_i ds written
    simp only [Bool.and_eq_true, decide_eq_true_eq, ne_eq] at h
    obtain ⟨large, nonzero⟩ := h
    have real : p.isInteger = false := by simp [NumberParts.isInteger, written]
    unfold NumberParts.value NumberParts.realWord
    simp [real, written, large, nonzero]
  · cases h

theorem steady_number (isNegative : Bool) : Steady (number isNegative) := by
  intro cause s
  unfold number
  refine (numberParts_alike .endInValue s).elim (.blamed _) ?_
  split
  · exact .same _
  · rename_i p rest _
    obtain ⟨_ | ⟨b, r⟩, short⟩ := rest
    · dsimp only
      by_cases hopeless : p.isHopeless = true
      · rw [if_pos hopeless, value_of_isHopeless hopeless]
        exact .same _
      · rw [if_neg hopeless]
        exact .blamed _
    · exact .same _

theorem steady_skipNumber : Steady skipNumber := by
  intro cause s
  unfold skipNumber
  refine (numberParts_alike .number s).elim (.blamed _) ?_
  split
  · exact .same _
  · rename_i rest _
    obtain ⟨_ | ⟨b, r⟩, short⟩ := rest
    · exact .blamed _
    · exact .same _

/-! ### Strings -/

theorem scanString_alike (isStrict : Bool) (state : StringState) (found s : Bytes) :
    Alike cause (scanString isStrict (.broken cause) state found s)
      (scanString isStrict .complete state found s) := by
  induction s generalizing state found with
  | nil => exact alike_stopped _
  | cons b r ih =>
    unfold scanString
    split
    · exact .same _
    · exact .same _
    · exact ih _ _

theorem steady_stringBytes (isStrict : Bool) : Steady (stringBytes isStrict) := by
  intro cause s
  refine Alike.of_map (f := Prod.map id Subtype.val) ?_ ?_
  · rintro ⟨content, rest⟩ ⟨content', rest'⟩ same
    obtain ⟨rfl, left⟩ := Prod.mk.inj same
    exact Prod.ext rfl (Subtype.ext left)
  · rw [stringBytes_bare, stringBytes_bare]
    exact scanString_alike isStrict .plain [] s

theorem steady_stringContent : Steady stringContent := by
  intro cause s
  unfold stringContent
  exact (steady_stringBytes true cause s).elim (.blamed _) (.same _)

theorem steady_skipString : Steady skipString := (steady_stringBytes false).map _

/-! ### Values of an expected form -/

theorem found_alike (b : UInt8) (r : Bytes) :
    Alike cause (found (.broken cause) b r) (found .complete b r) := by
  unfold found
  dsimp only
  repeat' split
  · exact (letters_alike _ r).map _
  · exact (letters_alike _ r).map _
  · exact (letters_alike _ r).map _
  · exact (steady_number _ _ _).map _
  · exact (steady_number _ _ _).map _
  · exact (steady_stringContent _ _).map _
  · exact .same _
  · exact .same _
  · exact .same _

theorem unexpected_alike (expected : String) (b : UInt8) (r : Bytes) :
    Alike cause (unexpected expected (.broken cause) b r : Except ReadError α)
      (unexpected expected .complete b r) := by
  unfold unexpected
  exact (found_alike b r).elim (.blamed _) (.same _)

theorem steady_numeric {expected : String} {accept : Number → Except ReadError α} :
    Steady (numeric expected accept) := by
  intro cause s
  unfold numeric
  refine alike_first fun b r _ => ?_
  by_cases minus : b = Ascii.minus
  · simp only [if_pos minus]
    exact ((steady_number true cause r).within (length_le_cons b r)).elim (.blamed _) (.same _)
  · simp only [if_neg minus]
    by_cases digit : (Ascii.digit? b).isSome = true
    · simp only [if_pos digit]
      exact (steady_number false cause (b :: r)).elim (.blamed _) (.same _)
    · simp only [if_neg digit]
      exact (unexpected_alike expected b r).elim (.blamed _) (.same _)

theorem steady_list {expected : String} {body : Reader α} (h : Steady body) :
    Steady (list expected body) := by
  intro cause s
  unfold list
  refine alike_first fun b r _ => ?_
  split
  · exact (h _ _).within _
  · exact unexpected_alike _ _ _

theorem steady_struct {expected : String} {inOrder byName : Reader α} (h : Steady inOrder)
    (h' : Steady byName) : Steady (struct expected inOrder byName) := by
  intro cause s
  unfold struct
  refine alike_first fun b r _ => ?_
  split
  · exact (h _ _).within _
  · split
    · exact (h' _ _).within _
    · exact unexpected_alike _ _ _

/-! ### The inside of lists -/

theorem nextItem_alike (isFirst : Bool) (s : Bytes) :
    Alike cause (nextItem (.broken cause) isFirst s) (nextItem .complete isFirst s) := by
  unfold nextItem
  repeat' split
  all_goals first | exact .same _ | exact alike_stopped _

theorem steady_closeList : Steady closeList := by
  intro cause s
  unfold closeList
  repeat' split
  all_goals first | exact .same _ | exact alike_stopped _

/-- The induction follows the list item by item, as the reader does. -/
theorem items_alike {item : Reader α} (h : Steady item) (isFirst : Bool) (s : Bytes) :
    Alike cause (items item (.broken cause) isFirst s) (items item .complete isFirst s) := by
  unfold items
  refine (nextItem_alike isFirst s).elim (.blamed _) ?_
  split
  · exact .same _
  · exact .same _
  · rename_i start _
    refine (h cause start.1).elim (.blamed _) ?_
    split
    · exact .same _
    · rename_i afterItem _
      have shorter := Nat.lt_of_lt_of_le afterItem.2 start.2
      exact (items_alike h false afterItem.1).elim (.blamed _) (.same _)
termination_by s.length
decreasing_by assumption

theorem steady_listBody {item : Reader α} (h : Steady item) : Steady (listBody item) := by
  intro cause s
  unfold listBody
  refine (items_alike h true s).elim (.blamed _) ?_
  split
  · exact .same _
  · exact (steady_closeList.map _ _ _).within _

theorem steady_sequence {item : Reader α} (h : Steady item) : Steady (sequence item) :=
  steady_list (steady_listBody h)

theorem steady_element {item : Reader α} (h : Steady item) (count : Nat) (expected : String) :
    Steady (element item count expected) := by
  intro cause s
  unfold element
  refine (nextItem_alike (count == 0) s).elim (.blamed _) ?_
  split
  · exact .same _
  · exact .same _
  · exact (h _ _).within _

theorem steady_orEnd {present : Reader α} {absent : α} (h : Steady present) :
    Steady (orEnd present absent) := by
  intro cause s
  unfold orEnd
  refine (nextItem_alike false s).elim (.blamed _) ?_
  split
  · exact .same _
  · exact steady_closeList.map _ _ _
  · exact (h _ _).within _

theorem steady_triple {make : α → α → α → β} {item : Reader α} (h : Steady item) :
    Steady (triple make item) :=
  steady_list ((steady_element h 0 _).bind fun _ => (steady_element h 1 _).bind fun _ =>
    (steady_element h 2 _).bind fun _ => steady_closeList.map _)

/-! ### The inside of objects -/

theorem nextKey_alike (isFirst : Bool) (s : Bytes) :
    Alike cause (nextKey (.broken cause) isFirst s) (nextKey .complete isFirst s) := by
  unfold nextKey
  repeat' split
  all_goals first | exact .same _ | exact alike_stopped _

theorem steady_colon : Steady colon := by
  intro cause s
  unfold colon
  repeat' split
  all_goals first | exact .same _ | exact alike_stopped _

theorem steady_closeObject : Steady closeObject := by
  intro cause s
  unfold closeObject
  repeat' split
  all_goals first | exact .same _ | exact alike_stopped _

section Objects

variable {field : σ → String → Except ReadError (Reader σ)}

/-- Whether the values of an object are read steadily, whatever the key and the draft. -/
def SteadyFields (field : σ → String → Except ReadError (Reader σ)) : Prop :=
  ∀ draft key reader, field draft key = .ok reader → Steady reader

theorem steady_member (h : SteadyFields field) (draft : σ) : Steady (member field draft) := by
  refine steady_stringContent.bind fun key cause s => ?_
  split
  · exact .same _
  · rename_i value reads
    exact (steady_colon.bind fun _ => h _ _ _ reads) cause s

theorem members_alike (h : SteadyFields field) (isFirst : Bool) (draft : σ) (s : Bytes) :
    Alike cause (members field (.broken cause) isFirst draft s)
      (members field .complete isFirst draft s) := by
  unfold members
  refine (nextKey_alike isFirst s).elim (.blamed _) ?_
  split
  · exact .same _
  · exact .same _
  · rename_i start _
    refine (steady_member h draft cause start.1).elim (.blamed _) ?_
    split
    · exact .same _
    · rename_i draft' afterMember _
      have shorter := Nat.lt_of_lt_of_le afterMember.2 start.2
      exact (members_alike h false draft' afterMember.1).elim (.blamed _) (.same _)
termination_by s.length
decreasing_by assumption

theorem steady_objectBody {empty : σ} {finish : σ → Except ReadError α} (h : SteadyFields field) :
    Steady (objectBody field empty finish) := by
  intro cause s
  unfold objectBody
  refine (members_alike h true empty s).elim (.blamed _) ?_
  split
  · exact .same _
  · split
    · exact .same _
    · exact (steady_closeObject.map _ _ _).within _

end Objects

theorem steady_of_once {name : String} {current : Option α} {value : Reader α} {put : α → σ}
    {reader : Reader σ} (h : Steady value) (reads : once name current value put = .ok reader) :
    Steady reader := by
  unfold once at reads
  split at reads
  · contradiction
  · cases reads
    exact h.map put

/-! ### Skipped values -/

theorem skipScalar_alike (b : UInt8) (r : Bytes) :
    Alike cause (skipScalar (.broken cause) b r) (skipScalar .complete b r) := by
  unfold skipScalar
  repeat' split
  · exact (letters_alike _ r).ended
  · exact (letters_alike _ r).ended
  · exact (letters_alike _ r).ended
  · exact (steady_skipString cause r).within _
  · exact (steady_skipNumber cause r).within _
  · exact steady_skipNumber cause _
  · exact .same _

/-- The induction follows the skipper from place to place. -/
theorem skipFrom_alike (place : Place) (s : Bytes) :
    Alike cause (skipFrom (.broken cause) place s) (skipFrom .complete place s) := by
  unfold skipFrom
  cases place with
  | beforeValue brackets =>
    refine alike_first fun b r start => ?_
    have shorter := length_lt_of_skipBlank start
    split
    · exact skipFrom_alike _ r
    · refine (skipScalar_alike b r).elim (.blamed _) ?_
      split
      · exact .same _
      · rename_i rest _
        have shorter' := rest.2
        exact skipFrom_alike _ rest.1
  | opened k outer =>
    refine alike_first fun b r start => ?_
    have shorter := length_lt_of_skipBlank start
    split
    · exact skipFrom_alike _ r
    · exact skipFrom_alike _ (b :: r)
  | beforeKey outer =>
    refine alike_first fun b r start => ?_
    have shorter := length_lt_of_skipBlank start
    split
    · refine (steady_skipString cause r).elim (.blamed _) ?_
      split
      · exact .same _
      · rename_i afterKey _
        have shorter' := afterKey.2
        refine alike_first fun c t start' => ?_
        have shorter'' := length_lt_of_skipBlank start'
        split
        · exact skipFrom_alike _ t
        · exact .same _
    · exact .same _
  | afterValue brackets =>
    cases brackets with
    | nil => exact .same _
    | cons k outer =>
      refine alike_first fun b r start => ?_
      have shorter := length_lt_of_skipBlank start
      split
      · exact skipFrom_alike _ r
      · split
        · exact skipFrom_alike _ r
        · exact .same _
termination_by 2 * s.length + place.rank
decreasing_by
  all_goals
    try rw [Place.rank_item]
    simp only [List.length_cons, Place.rank] at *
    omega

/-- What a skipped value leaves is what the skipper leaves. -/
theorem skipValue_bare (e : Ending) (s : Bytes) :
    (skipValue e s).map (fun skipped => skipped.2.1) = skipFrom e (.beforeValue []) s := by
  unfold skipValue
  split
  · rename_i failed
    exact failed.symm
  · rename_i done
    exact done.symm

theorem steady_skipValue : Steady skipValue := by
  intro cause s
  refine Alike.of_map (f := fun skipped => skipped.2.1) ?_ ?_
  · rintro ⟨_, rest⟩ ⟨_, rest'⟩ left
    exact Prod.ext rfl (Subtype.ext left)
  · rw [skipValue_bare, skipValue_bare]
    exact skipFrom_alike (.beforeValue []) s

/-! ### Documents -/

/-- A document over a broken source is refused because of the break or as its bytes are. -/
theorem document_alike {value : Reader α} (h : Steady value) (s : Bytes) :
    Alike cause (document value (.broken cause) s) (document value .complete s) := by
  unfold document
  refine (h cause s).elim (.blamed _) ?_
  split
  · exact .same _
  · rename_i v rest _
    unfold endOfDocument
    cases skipBlank rest.1 with
    | nil => exact .blamed _
    | cons b r => exact .same _

end DenseMedium.Json
