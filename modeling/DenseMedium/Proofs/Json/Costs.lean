import DenseMedium.Json.Object
import DenseMedium.Json.Value

/-!
How many bytes a value takes.

`Costs reader cost`: a value `v` from the reader has taken at least `cost v` bytes. Each value takes
one byte, an opening bracket takes one of its own, and what a list or an object has taken is what
its items and members have taken together. So the size of what is read is bounded by the size of
the text.

`document_costs`: a whole document is at least as long as its value costs.
-/

namespace DenseMedium.Json

variable {α β σ : Type} {e : Ending} {s : Bytes}

/-- Whether every value from the reader has taken as many bytes as it costs. -/
structure Costs (reader : Reader α) (cost : α → Nat) : Prop where
  paid {e : Ending} {s : Bytes} {v : α} {r : Shorter s} (found : reader e s = .ok (v, r)) :
    r.1.length + cost v ≤ s.length

/-- Every value takes a byte. -/
theorem costs_one (reader : Reader α) : Costs reader fun _ => 1 where
  paid {_ _ _ r} _ := r.2

theorem Costs.mono {reader : Reader α} {cost cost' : α → Nat} (h : Costs reader cost)
    (le : ∀ v, cost' v ≤ cost v) : Costs reader cost' where
  paid found := Nat.le_trans (Nat.add_le_add_left (le _) _) (h.paid found)

/-- What a value costs need not be known. -/
theorem costs_zero (reader : Reader α) : Costs reader fun _ => 0 :=
  (costs_one reader).mono fun _ => Nat.zero_le _

theorem Costs.map {reader : Reader α} {cost : β → Nat} (f : α → β)
    (h : Costs reader fun v => cost (f v)) : Costs (reader.map f) cost where
  paid found := by
    obtain ⟨_, reading, rfl⟩ := Reader.map_eq_ok found
    exact h.paid reading

/-- What was taken after other bytes. -/
theorem Costs.within {reader : Reader α} {cost : α → Nat} (h : Costs reader cost) {t : Bytes}
    {le : s.length ≤ t.length} {v : α} {r : Shorter t}
    (found : (reader e s).within le = .ok (v, r)) : r.1.length + cost v ≤ s.length := by
  obtain ⟨r', reading, same⟩ := within_eq_ok found
  exact same ▸ h.paid reading

/-- What a second value costs is what the first one leaves to be paid. -/
theorem Costs.bind {first : Reader α} {next : α → Reader β} {cost : α → Nat} {cost' : β → Nat}
    (h : Costs first cost) (h' : ∀ v, Costs (next v) fun w => cost' w - cost v) :
    Costs (first.bind next) cost' where
  paid {_ _ w r} found := by
    obtain ⟨v, rest, reading, r', following, same⟩ := Reader.bind_eq_ok found
    have before := h.paid reading
    have after : r.1.length + (cost' w - cost v) ≤ rest.1.length :=
      same ▸ (h' v).paid following
    omega

/-- The last byte of a value that has been paid. -/
theorem costs_last (reader : Reader Unit) (v : α) (cost : α → Nat) :
    Costs (reader.map fun _ => v) fun w => cost w - cost v :=
  ((costs_one reader).mono fun _ => by omega).map _

/-! ### Lists -/

theorem costs_element {item : Reader α} {cost : α → Nat} (h : Costs item cost) (count : Nat)
    (expected : String) : Costs (element item count expected) cost where
  paid found := by
    unfold element at found
    split at found
    · contradiction
    · contradiction
    · rename_i start _
      exact Nat.le_trans (h.within found) start.2

theorem costs_list {expected : String} {body : Reader α} {cost : α → Nat} (h : Costs body cost) :
    Costs (list expected body) fun v => cost v + 1 where
  paid found := by
    unfold list at found
    obtain ⟨b, r', start, opened⟩ := exists_first_of_ok found
    split at opened
    · have inside := h.within opened
      have opening := length_lt_of_skipBlank start
      omega
    · exact absurd opened unexpected_ne_ok

section Sequences

variable {item : Reader α} {cost : α → Nat} {total : List α → Nat}

theorem items_costs (h : Costs item cost) (nil : total [] = 0)
    (cons : ∀ v vs, total (v :: vs) = cost v + total vs) {isFirst : Bool} {vs : List α}
    {rest : Rest s} (found : items item e isFirst s = .ok (vs, rest)) :
    rest.1.length + total vs ≤ s.length := by
  fun_induction items item e isFirst s generalizing vs with
  | case1 | case3 | case4 => contradiction
  | case2 s =>
    cases found
    rw [nil]
    exact Nat.le_refl _
  | case5 _ _ start _ v afterItem reading _ _ others ih =>
    cases found
    have first := h.paid reading
    have rest := ih others
    have := start.2
    rw [cons]
    dsimp only
    omega

/-- A sequence costs what its items cost together. -/
theorem costs_sequence (h : Costs item cost) (nil : total [] = 0)
    (cons : ∀ v vs, total (v :: vs) = cost v + total vs) : Costs (sequence item) total := by
  have body : Costs (listBody item) total := by
    constructor
    intro e s vs r found
    obtain ⟨rest, reading, r', _, same⟩ := listBody_eq_ok found
    have inside := items_costs h nil cons reading
    have close : r.1.length < rest.1.length := same ▸ r'.2
    omega
  exact (costs_list body).mono fun vs => Nat.le_succ _

end Sequences

/-- A triple costs its items and its brackets. -/
theorem costs_triple (make : α → α → α → β) (item : Reader α) :
    Costs (triple make item) fun _ => 5 := by
  have one (count : Nat) := costs_element (costs_one item) count tripleName
  have body : Costs (tripleBody make item) fun _ => 4 :=
    (one 0).bind fun x => (one 1).bind fun y => (one 2).bind fun z =>
      (costs_one closeList).map fun _ => make x y z
  exact costs_list body

/-! ### Objects -/

section Objects

variable {field : σ → String → Except ReadError (Reader σ)} {worth : σ → Nat}

theorem costs_member (h : ∀ {draft key reader}, field draft key = .ok reader →
    Costs reader fun last => worth last - worth draft) (draft : σ) :
    Costs (member field draft) fun last => worth last - worth draft := by
  refine (costs_zero stringContent).bind fun key => ?_
  constructor
  intro e s v r found
  split at found
  · contradiction
  · rename_i reads
    exact ((costs_zero colon).bind fun _ => h reads).paid found

theorem members_costs (h : ∀ {draft key reader}, field draft key = .ok reader →
    Costs reader fun last => worth last - worth draft) {isFirst : Bool} {draft last : σ}
    {rest : Rest s} (found : members field e isFirst draft s = .ok (last, rest)) :
    rest.1.length + (worth last - worth draft) ≤ s.length := by
  fun_induction members field e isFirst draft s generalizing last with
  | case1 | case3 | case4 => contradiction
  | case2 _ draft s =>
    cases found
    rw [Nat.sub_self]
    exact Nat.le_refl _
  | case5 _ draft _ start _ next afterMember reading _ _ others ih =>
    cases found
    have first : afterMember.1.length + (worth next - worth draft) ≤ start.1.length :=
      (costs_member h draft).paid reading
    have rest := ih others
    have := start.2
    dsimp only
    omega

/-- An object is worth what its draft has become worth. -/
theorem costs_objectBody {empty : σ} {finish : σ → Except ReadError α} {cost : α → Nat}
    (h : ∀ {draft key reader}, field draft key = .ok reader →
      Costs reader fun last => worth last - worth draft) (nothing : worth empty = 0)
    (finished : ∀ {draft v}, finish draft = .ok v → worth draft = cost v) :
    Costs (objectBody field empty finish) cost where
  paid {e s w r} found := by
    obtain ⟨last, rest, reading, last_eq, r', _, same⟩ := objectBody_eq_ok found
    have inside := members_costs h reading
    have close : r.1.length < rest.1.length := same ▸ r'.2
    have := finished last_eq
    omega

theorem costs_of_once {name : String} {current : Option α} {value : Reader α} {put : α → σ}
    {reader : Reader σ} {cost : α → Nat} {cost' : σ → Nat}
    (found : once name current value put = .ok reader) (h : Costs value cost)
    (le : current = none → ∀ v, cost' (put v) ≤ cost v) : Costs reader cost' := by
  unfold once at found
  split at found
  · contradiction
  · rename_i unread
    cases found
    exact (h.mono (le (Option.not_isSome_iff_eq_none.mp unread))).map put

theorem costs_struct {expected : String} {inOrder byName : Reader α} {cost : α → Nat}
    (h : Costs inOrder cost) (h' : Costs byName cost) :
    Costs (struct expected inOrder byName) cost where
  paid found := by
    unfold struct at found
    obtain ⟨b, r', start, opened⟩ := exists_first_of_ok found
    have opening := length_le_of_skipBlank start
    split at opened
    · exact Nat.le_trans (h.within opened) opening
    · split at opened
      · exact Nat.le_trans (h'.within opened) opening
      · exact absurd opened unexpected_ne_ok

end Objects

/-- A whole document is at least as long as its value costs. -/
theorem document_costs {value : Reader α} {cost : α → Nat} (h : Costs value cost) {v : α}
    (found : document value e s = .ok v) : cost v ≤ s.length := by
  unfold document at found
  split at found
  · contradiction
  · rename_i reading
    split at found
    · contradiction
    · cases found
      exact Nat.le_trans (Nat.le_add_left _ _) (h.paid reading)

end DenseMedium.Json
