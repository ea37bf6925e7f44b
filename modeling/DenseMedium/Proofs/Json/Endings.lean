import DenseMedium.Json.Object
import DenseMedium.Json.Skip
import DenseMedium.Json.Value

/-!
Errors where nothing but the end of the document follows.

A reader blames the source only where the bytes run out and the source is broken there. So what it
says about a complete document is about the document:

* `Unblamed`: a result whose error, if it has one, does not come from the source.
* `Settled`: a reader whose results over complete documents are unblamed. Numbers, lists, objects
  and skipped values are settled when their parts are.
* `document_unblamed`: a complete document is never unreadable because of its source.
* `document_of_broken`: a document whose source breaks is never read, wherever its value ends.
-/

namespace DenseMedium.Json

variable {α β σ : Type} {s : Bytes}

/-! ### Results -/

/-- Whether the error of a result, if it has one, does not come from the source. -/
def Unblamed (x : Except ReadError α) : Prop := ∀ cause, x ≠ .error (.source cause)

theorem unblamed_ok (v : α) : Unblamed (.ok v) := nofun

theorem unblamed_breach (m : Malformed) : Unblamed (breach m : Except ReadError α) := nofun

theorem unblamed_stopped (m : Malformed) : Unblamed (stopped .complete m : Except ReadError α) :=
  nofun

theorem unblamed_invalidType (f : Found) (expected : String) :
    Unblamed (.error (.invalidType f expected) : Except ReadError α) := nofun

theorem unblamed_invalidValue (v : Int) (expected : String) :
    Unblamed (.error (.invalidValue v expected) : Except ReadError α) := nofun

theorem unblamed_invalidLength (n : Nat) (expected : String) :
    Unblamed (.error (.invalidLength n expected) : Except ReadError α) := nofun

/-- An error that is passed on. -/
theorem Unblamed.error {x : Except ReadError α} {y : ReadError} (h : Unblamed x)
    (hx : x = .error y) : Unblamed (.error y : Except ReadError β) := by
  rintro cause same
  cases same
  exact h cause hx

theorem Unblamed.map {x : Except ReadError α} (h : Unblamed x) (f : α → β) :
    Unblamed (x.map f) := by
  cases x with
  | ok v => exact unblamed_ok _
  | error y => exact h.error rfl

theorem Unblamed.bind {x : Except ReadError α} {f : α → Except ReadError β} (h : Unblamed x)
    (h' : ∀ v, Unblamed (f v)) : Unblamed (x >>= f) := by
  cases x with
  | ok v => exact h' v
  | error y => exact h.error rfl

theorem Unblamed.within {t : Bytes} {r : Reading s α} (h : Unblamed r) (le : s.length ≤ t.length) :
    Unblamed (r.within le) := by
  cases r with
  | ok v => exact unblamed_ok _
  | error y => exact h.error rfl

theorem Unblamed.ended {b : UInt8} {v : α} {taken : Except ReadError (Rest s)}
    (h : Unblamed taken) : Unblamed (Reading.ended (b := b) v taken) := by
  cases taken with
  | ok rest => exact unblamed_ok _
  | error y => exact h.error rfl

/-- Whether the results of a reader over complete documents are unblamed. -/
def Settled (reader : Reader α) : Prop := ∀ s, Unblamed (reader .complete s)

theorem Settled.bind {first : Reader α} {next : α → Reader β} (h : Settled first)
    (h' : ∀ v, Settled (next v)) : Settled (first.bind next) := by
  intro s
  unfold Reader.bind
  split
  · exact (h' _ _).within _
  · rename_i failed
    exact (h s).error failed

theorem Settled.map {reader : Reader α} (h : Settled reader) (f : α → β) :
    Settled (reader.map f) := by
  intro s
  unfold Reader.map
  split
  · exact unblamed_ok _
  · rename_i failed
    exact (h s).error failed

/-! ### Words and numbers -/

theorem letters_unblamed (word s : Bytes) : Unblamed (letters .complete word s) := by
  induction word generalizing s with
  | nil => exact unblamed_ok _
  | cons c word ih =>
    cases s with
    | nil => exact unblamed_stopped _
    | cons b r =>
      unfold letters
      split
      · split
        · exact unblamed_ok _
        · rename_i failed
          exact (ih r).error failed
      · exact unblamed_breach _

theorem someDigits_unblamed (m : Malformed) (s : Bytes) : Unblamed (someDigits .complete m s) := by
  unfold someDigits
  split
  · split
    · exact unblamed_stopped _
    · exact unblamed_breach _
  · exact unblamed_ok _

theorem wholeDigits_unblamed (m : Malformed) (s : Bytes) :
    Unblamed (wholeDigits .complete m s) := by
  unfold wholeDigits
  split
  · rename_i failed
    exact (someDigits_unblamed m s).error failed
  · exact unblamed_breach _
  · exact unblamed_ok _

theorem fractionDigits_unblamed (m : Malformed) (s : Bytes) :
    Unblamed (fractionDigits .complete m s) := by
  unfold fractionDigits
  split
  · exact unblamed_ok _
  · split
    · split
      · rename_i failed
        exact (someDigits_unblamed m _).error failed
      · exact unblamed_ok _
    · exact unblamed_ok _

theorem exponentDigits_unblamed (m : Malformed) (s : Bytes) :
    Unblamed (exponentDigits .complete m s) := by
  unfold exponentDigits
  split
  · exact unblamed_ok _
  · split
    · dsimp only
      split
      · rename_i failed
        exact (someDigits_unblamed m _).error failed
      · exact unblamed_ok _
    · exact unblamed_ok _

theorem numberParts_unblamed (m : Malformed) (s : Bytes) :
    Unblamed (numberParts .complete m s) := by
  unfold numberParts
  split
  · rename_i failed
    exact (wholeDigits_unblamed m s).error failed
  · split
    · rename_i failed
      exact (fractionDigits_unblamed m _).error failed
    · split
      · rename_i failed
        exact (exponentDigits_unblamed m _).error failed
      · exact unblamed_ok _

theorem settled_number (isNegative : Bool) : Settled (number isNegative) := by
  intro s
  unfold number
  split
  · rename_i failed
    exact (numberParts_unblamed _ s).error failed
  · split
    · contradiction
    · split
      · exact unblamed_ok _
      · exact unblamed_breach _

theorem settled_skipNumber : Settled skipNumber := by
  intro s
  unfold skipNumber
  split
  · rename_i failed
    exact (numberParts_unblamed _ s).error failed
  · split
    · contradiction
    · exact unblamed_ok _

/-! ### Strings -/

theorem unicodeStep_unblamed (isStrict : Bool) (high : Option Nat) (n : Nat) :
    Unblamed (unicodeStep isStrict high n) := by
  unfold unicodeStep
  repeat' split
  all_goals first | exact unblamed_ok _ | exact unblamed_breach _

theorem stringStep_unblamed (isStrict : Bool) (b : UInt8) (state : StringState) :
    Unblamed (stringStep isStrict b state) := by
  unfold stringStep
  repeat' split
  all_goals first | exact unblamed_ok _ | exact unblamed_breach _ | exact unicodeStep_unblamed _ _ _

theorem scanString_unblamed (isStrict : Bool) (state : StringState) (found s : Bytes) :
    Unblamed (scanString isStrict .complete state found s) := by
  induction s generalizing state found with
  | nil => exact unblamed_stopped _
  | cons b r ih =>
    unfold scanString
    split
    · rename_i failed
      exact (stringStep_unblamed isStrict b state).error failed
    · exact unblamed_ok _
    · exact ih _ _

theorem settled_stringBytes (isStrict : Bool) : Settled (stringBytes isStrict) := by
  intro s
  unfold stringBytes
  split
  · rename_i failed
    exact (scanString_unblamed isStrict _ _ s).error failed
  · exact unblamed_ok _

theorem settled_stringContent : Settled stringContent := by
  intro s
  unfold stringContent
  split
  · rename_i failed
    exact (settled_stringBytes true s).error failed
  · split
    · exact unblamed_ok _
    · exact unblamed_breach _

theorem settled_skipString : Settled skipString := (settled_stringBytes false).map _

/-! ### Values of an expected form -/

theorem found_unblamed (b : UInt8) (r : Bytes) : Unblamed (found .complete b r) := by
  unfold found
  dsimp only
  repeat' split
  · exact (letters_unblamed _ r).map _
  · exact (letters_unblamed _ r).map _
  · exact (letters_unblamed _ r).map _
  · exact (settled_number _ _).map _
  · exact (settled_number _ _).map _
  · exact (settled_stringContent _).map _
  · exact unblamed_ok _
  · exact unblamed_ok _
  · exact unblamed_breach _

theorem unexpected_unblamed (expected : String) (b : UInt8) (r : Bytes) :
    Unblamed (unexpected expected .complete b r : Except ReadError α) := by
  unfold unexpected
  split
  · rename_i failed
    exact (found_unblamed b r).error failed
  · exact unblamed_invalidType _ _

/-- A number is settled when its value is. -/
theorem settled_numeric {expected : String} {accept : Number → Except ReadError α}
    (h : ∀ v, Unblamed (accept v)) : Settled (numeric expected accept) := by
  intro s
  unfold numeric
  split
  · exact unblamed_stopped _
  · rename_i b r _
    dsimp only
    split
    · rename_i failed
      refine Unblamed.error ?_ failed
      split
      · exact (settled_number _ _).within _
      · split
        · exact settled_number _ _
        · exact unexpected_unblamed _ _ _
    · split
      · rename_i failed
        exact (h _).error failed
      · exact unblamed_ok _

theorem settled_double : Settled double :=
  settled_numeric fun v => by cases v <;> exact unblamed_ok _

theorem settled_unsignedWord : Settled unsignedWord :=
  settled_numeric fun v => by
    cases v with
    | integer v =>
      dsimp only
      split
      · exact unblamed_ok _
      · exact unblamed_invalidValue _ _
    | real d => exact unblamed_invalidType _ _

theorem settled_list {expected : String} {body : Reader α} (h : Settled body) :
    Settled (list expected body) := by
  intro s
  unfold list
  split
  · exact unblamed_stopped _
  · split
    · exact (h _).within _
    · exact unexpected_unblamed _ _ _

theorem settled_struct {expected : String} {inOrder byName : Reader α} (h : Settled inOrder)
    (h' : Settled byName) : Settled (struct expected inOrder byName) := by
  intro s
  unfold struct
  split
  · exact unblamed_stopped _
  · split
    · exact (h _).within _
    · split
      · exact (h' _).within _
      · exact unexpected_unblamed _ _ _

/-! ### The inside of lists -/

theorem nextItem_unblamed (isFirst : Bool) (s : Bytes) :
    Unblamed (nextItem .complete isFirst s) := by
  unfold nextItem
  repeat' split
  all_goals first | exact unblamed_ok _ | exact unblamed_breach _

theorem settled_closeList : Settled closeList := by
  intro s
  unfold closeList
  repeat' split
  all_goals first | exact unblamed_ok _ | exact unblamed_breach _

theorem items_unblamed {item : Reader α} (h : Settled item) (isFirst : Bool) (s : Bytes) :
    Unblamed (items item .complete isFirst s) := by
  fun_induction items item .complete isFirst s with
  | case1 _ s _ failed => exact (nextItem_unblamed _ s).error failed
  | case2 => exact unblamed_ok _
  | case3 _ _ start _ _ failed => exact (h start.1).error failed
  | case4 _ _ _ _ _ _ _ _ failed ih => exact ih.error failed
  | case5 => exact unblamed_ok _

theorem settled_listBody {item : Reader α} (h : Settled item) : Settled (listBody item) := by
  intro s
  unfold listBody
  split
  · rename_i failed
    exact (items_unblamed h true s).error failed
  · exact (settled_closeList.map _ _).within _

theorem settled_sequence {item : Reader α} (h : Settled item) : Settled (sequence item) :=
  settled_list (settled_listBody h)

theorem settled_element {item : Reader α} (h : Settled item) (count : Nat) (expected : String) :
    Settled (element item count expected) := by
  intro s
  unfold element
  split
  · rename_i failed
    exact (nextItem_unblamed _ s).error failed
  · exact unblamed_invalidLength _ _
  · exact (h _).within _

theorem settled_orEnd {present : Reader α} {absent : α} (h : Settled present) :
    Settled (orEnd present absent) := by
  intro s
  unfold orEnd
  split
  · rename_i failed
    exact (nextItem_unblamed _ s).error failed
  · exact settled_closeList.map _ _
  · exact (h _).within _

theorem settled_triple {make : α → α → α → β} {item : Reader α} (h : Settled item) :
    Settled (triple make item) :=
  settled_list ((settled_element h 0 _).bind fun _ => (settled_element h 1 _).bind fun _ =>
    (settled_element h 2 _).bind fun _ => settled_closeList.map _)

/-! ### The inside of objects -/

theorem nextKey_unblamed (isFirst : Bool) (s : Bytes) : Unblamed (nextKey .complete isFirst s) := by
  unfold nextKey
  repeat' split
  all_goals first | exact unblamed_ok _ | exact unblamed_breach _

theorem settled_colon : Settled colon := by
  intro s
  unfold colon
  repeat' split
  all_goals first | exact unblamed_ok _ | exact unblamed_breach _

theorem settled_closeObject : Settled closeObject := by
  intro s
  unfold closeObject
  repeat' split
  all_goals first | exact unblamed_ok _ | exact unblamed_breach _

/-- Whether the keys of an object are refused, and their values read, without blame. -/
structure SettledFields (field : σ → String → Except ReadError (Reader σ)) : Prop where
  refused : ∀ draft key, Unblamed (field draft key)
  reads : ∀ {draft key reader}, field draft key = .ok reader → Settled reader

section Objects

variable {field : σ → String → Except ReadError (Reader σ)}

theorem settled_member (h : SettledFields field) (draft : σ) : Settled (member field draft) := by
  refine settled_stringContent.bind fun key s => ?_
  split
  · rename_i failed
    exact (h.refused draft key).error failed
  · rename_i value reads
    exact (settled_colon.bind fun _ => h.reads reads) s

theorem members_unblamed (h : SettledFields field) (isFirst : Bool) (draft : σ) (s : Bytes) :
    Unblamed (members field .complete isFirst draft s) := by
  fun_induction members field .complete isFirst draft s with
  | case1 _ _ s _ failed => exact (nextKey_unblamed _ s).error failed
  | case2 => exact unblamed_ok _
  | case3 _ draft _ start _ _ failed => exact (settled_member h draft start.1).error failed
  | case4 _ _ _ _ _ _ _ _ _ failed ih => exact ih.error failed
  | case5 => exact unblamed_ok _

theorem settled_objectBody {empty : σ} {finish : σ → Except ReadError α} (h : SettledFields field)
    (h' : ∀ draft, Unblamed (finish draft)) : Settled (objectBody field empty finish) := by
  intro s
  unfold objectBody
  split
  · rename_i failed
    exact (members_unblamed h true empty s).error failed
  · split
    · rename_i failed
      exact (h' _).error failed
    · exact (settled_closeObject.map _ _).within _

end Objects

theorem required_unblamed (name : String) (v : Option α) : Unblamed (required name v) := by
  cases v <;> nofun

theorem once_unblamed {name : String} {current : Option α} {value : Reader α} {put : α → σ} :
    Unblamed (once name current value put) := by
  unfold once
  split <;> nofun

theorem settled_of_once {name : String} {current : Option α} {value : Reader α} {put : α → σ}
    {reader : Reader σ} (h : Settled value) (reads : once name current value put = .ok reader) :
    Settled reader := by
  unfold once at reads
  split at reads
  · contradiction
  · cases reads
    exact h.map put

/-! ### Skipped values -/

theorem skipScalar_unblamed (b : UInt8) (r : Bytes) : Unblamed (skipScalar .complete b r) := by
  unfold skipScalar
  repeat' split
  · exact (letters_unblamed _ r).ended
  · exact (letters_unblamed _ r).ended
  · exact (letters_unblamed _ r).ended
  · exact (settled_skipString r).within _
  · exact (settled_skipNumber r).within _
  · exact settled_skipNumber _
  · exact unblamed_breach _

theorem skipFrom_unblamed (place : Place) (s : Bytes) : Unblamed (skipFrom .complete place s) := by
  fun_induction skipFrom .complete place s with
  | case1 | case5 | case8 | case10 | case15 => exact unblamed_stopped _
  | case12 | case13 | case18 => exact unblamed_breach _
  | case3 _ _ b r _ _ _ failed => exact (skipScalar_unblamed b r).error failed
  | case9 _ _ r _ failed _ => exact (settled_skipString r).error failed
  | case2 | case4 | case6 | case7 | case11 | case16 | case17 => assumption
  | case14 => exact unblamed_ok _

theorem settled_skipValue : Settled skipValue := by
  intro s
  unfold skipValue
  split
  · rename_i failed
    exact (skipFrom_unblamed _ s).error failed
  · exact unblamed_ok _

/-! ### Documents -/

/-- A complete document is never unreadable because of its source. -/
theorem document_unblamed {value : Reader α} (h : Settled value) (s : Bytes) :
    Unblamed (document value .complete s) := by
  unfold document
  split
  · rename_i failed
    exact (h s).error failed
  · split
    · rename_i failed
      refine Unblamed.error ?_ failed
      unfold endOfDocument
      split
      · exact unblamed_ok _
      · contradiction
      · exact unblamed_breach _
    · exact unblamed_ok _

/-- A document is read to its end, so its source has one. -/
theorem document_of_broken {value : Reader α} {cause : StreamError} {v : α} :
    document value (.broken cause) s ≠ .ok v := by
  intro h
  unfold document at h
  split at h
  · cases h
  · split at h
    · cases h
    · rename_i ended
      unfold endOfDocument at ended
      split at ended
      · contradiction
      · cases ended
      · cases ended

end DenseMedium.Json
