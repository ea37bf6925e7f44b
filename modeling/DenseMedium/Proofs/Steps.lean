import DenseMedium.Failure

/-!
Laws of steps that may stop.

Every operation of the library is a chain of steps in `Except`. The laws here say when a step
succeeds and with what, so that later proofs read a chain from the front and never open a step.

* `Except` chains: a step that succeeded hands its value on, also when it is lifted from `Checked`
  into `Outcome`; loops over a list whose steps all succeed are the loops without failure.
* `exists_calls`: a loop with a state goes through all its calls, or it ends with the first fault.
* `Coordinate.*_eq_ok`: a step on coordinates gives `c` exactly when `c` has the mathematical value.
* `Size.*_eq_ok`: likewise for sizes, with the bound.
-/

namespace DenseMedium

/-! ### Chains -/

section Chains

variable {ε α β σ : Type}

@[simp] theorem ok_bind (a : α) (f : α → Except ε β) : (Except.ok a >>= f) = f a := rfl

@[simp] theorem error_bind (e : ε) (f : α → Except ε β) : (Except.error e >>= f) = .error e := rfl

@[simp] theorem pure_eq_ok (a : α) : (pure a : Except ε α) = .ok a := rfl

@[simp] theorem lift_ok (a : α) : (liftM (Except.ok a : Checked α) : Outcome α) = .ok a := rfl

/-- A chain succeeds when its first step does and the rest does on its value. -/
theorem bind_eq_ok {x : Except ε α} {f : α → Except ε β} {b : β} :
    (x >>= f) = .ok b ↔ ∃ a, x = .ok a ∧ f a = .ok b := by
  cases x with
  | error e => simp
  | ok a => simp

theorem lift_eq_ok {x : Checked α} {a : α} : (liftM x : Outcome α) = .ok a ↔ x = .ok a := by
  cases x with
  | error e => exact ⟨nofun, nofun⟩
  | ok b => simp

theorem mapM_eq_ok_map {f : α → Except ε β} {g : α → β} :
    ∀ {xs : List α}, (∀ x ∈ xs, f x = .ok (g x)) → xs.mapM f = .ok (xs.map g)
  | [], _ => rfl
  | x :: xs, h => by
      have hx := h x List.mem_cons_self
      have ih := mapM_eq_ok_map fun y hy => h y (List.mem_cons_of_mem x hy)
      rw [List.mapM_cons, hx, ok_bind, ih, ok_bind, pure_eq_ok, List.map_cons]

/-- The results of a loop that succeeded, one by one. -/
theorem getElem?_of_mapM {f : α → Except ε β} :
    ∀ {xs : List α} {ys : List β} {i : Nat} {x : α}, xs.mapM f = .ok ys → xs[i]? = some x →
      ∃ y, ys[i]? = some y ∧ f x = .ok y
  | [], _, _, _, _, h => by cases h
  | x :: xs, ys, i, _, h, hi => by
      rw [List.mapM_cons] at h
      obtain ⟨y, hy, h⟩ := bind_eq_ok.mp h
      obtain ⟨rest, hrest, h⟩ := bind_eq_ok.mp h
      cases h
      cases i with
      | zero =>
        cases hi
        exact ⟨y, rfl, hy⟩
      | succ i =>
        rw [List.getElem?_cons_succ] at hi
        obtain ⟨z, hz, hx⟩ := getElem?_of_mapM hrest hi
        exact ⟨z, hz, hx⟩

/-- A loop without results succeeds when every step does. -/
theorem forM_eq_ok {f : α → Except ε PUnit.{1}} {u : PUnit.{1}} :
    ∀ {xs : List α}, xs.forM f = .ok u ↔ ∀ x ∈ xs, f x = .ok u
  | [] => ⟨fun _ _ hx => absurd hx List.not_mem_nil, fun _ => rfl⟩
  | x :: xs => by
      change (f x >>= fun _ => xs.forM f) = .ok u ↔ _
      rw [bind_eq_ok, List.forall_mem_cons, ← forM_eq_ok]
      exact ⟨fun ⟨_, hx, hxs⟩ => ⟨hx, hxs⟩, fun ⟨hx, hxs⟩ => ⟨_, hx, hxs⟩⟩

theorem foldlM_eq_ok_foldl {f : σ → α → Except ε σ} {g : σ → α → σ} :
    ∀ {xs : List α} {s : σ}, (∀ s, ∀ x ∈ xs, f s x = .ok (g s x)) →
      xs.foldlM f s = .ok (xs.foldl g s)
  | [], _, _ => rfl
  | x :: xs, s, h => by
      have hx := h s x List.mem_cons_self
      rw [List.foldlM_cons, hx, ok_bind, List.foldl_cons]
      exact foldlM_eq_ok_foldl fun s y hy => h s y (List.mem_cons_of_mem x hy)

theorem foldlM_congr {f g : σ → α → Except ε σ} :
    ∀ {xs : List α} {s : σ}, (∀ s, ∀ x ∈ xs, f s x = g s x) → xs.foldlM f s = xs.foldlM g s
  | [], _, _ => rfl
  | x :: xs, s, h => by
      rw [List.foldlM_cons, List.foldlM_cons, h s x List.mem_cons_self]
      exact congrArg _ (funext fun s => foldlM_congr fun s y hy => h s y (List.mem_cons_of_mem x hy))

/-- Whether `x` is the first of a list that is not `good`. -/
def FirstNot (good : α → Prop) (x : α) (xs : List α) : Prop :=
  ∃ before after, xs = before ++ x :: after ∧ (∀ y ∈ before, good y) ∧ ¬ good x

theorem exists_firstNot {good : α → Prop} :
    ∀ {xs : List α}, (¬ ∀ x ∈ xs, good x) → ∃ x, FirstNot good x xs
  | [], h => absurd (fun _ hx => absurd hx List.not_mem_nil) h
  | x :: xs, h => by
      by_cases hx : good x
      · have others : ¬ ∀ y ∈ xs, good y := fun hxs => h (List.forall_mem_cons.mpr ⟨hx, hxs⟩)
        obtain ⟨y, before, after, rfl, earlier, hy⟩ := exists_firstNot others
        exact ⟨y, x :: before, after, rfl, List.forall_mem_cons.mpr ⟨hx, earlier⟩, hy⟩
      · exact ⟨x, [], xs, rfl, nofun, hx⟩

/-- A loop stops at the first step that does not succeed. -/
theorem mapM_eq_error {f : α → Except ε β} {x : α} {e : ε} {after : List α} (hx : f x = .error e) :
    ∀ {before : List α}, (∀ y ∈ before, ∃ b, f y = .ok b) →
      (before ++ x :: after).mapM f = .error e
  | [], _ => by rw [List.nil_append, List.mapM_cons, hx, error_bind]
  | y :: before, h => by
      obtain ⟨⟨b, hy⟩, earlier⟩ := List.forall_mem_cons.mp h
      rw [List.cons_append, List.mapM_cons, hy, ok_bind, mapM_eq_error hx earlier, error_bind]

/-- A loop without results stops at the first step that does not succeed. -/
theorem forM_eq_error {f : α → Except ε PUnit.{1}} {x : α} {e : ε} (hx : f x = .error e) :
    ∀ {xs : List α}, FirstNot (fun y => f y = .ok ()) x xs → xs.forM f = .error e
  | _, ⟨[], _, rfl, _, _⟩ => by
      change (f x >>= fun _ => _) = _
      rw [hx, error_bind]
  | _, ⟨y :: before, after, rfl, earlier, notOk⟩ => by
      obtain ⟨hy, earlier⟩ := List.forall_mem_cons.mp earlier
      change (f y >>= fun _ => (before ++ x :: after).forM f) = _
      rw [hy, ok_bind]
      exact forM_eq_error hx ⟨before, after, rfl, earlier, notOk⟩

end Chains

/-! ### Loops with a state -/

section Calls

variable {α β σ : Type}

/-- The first calls of a loop over `xs` that begins in the state `s`. Call number `n` is for the
element of that number, takes the state from `state n` to `state (n + 1)`, and makes the value of
that number. -/
structure Calls (f : β → StateT σ Checked α) (xs : List β) (s : σ) (state : Nat → σ)
    (values : List α) : Prop where
  start : state 0 = s
  call : ∀ n v, values[n]? = some v →
    ∃ x, xs[n]? = some x ∧ (f x).run (state n) = .ok (v, state (n + 1))

namespace Calls

variable {f : β → StateT σ Checked α} {x : β} {xs : List β} {s t : σ} {state : Nat → σ}
  {values : List α} {v : α}

/-- No call has been made. -/
theorem nil (f : β → StateT σ Checked α) (xs : List β) (s : σ) : Calls f xs s (fun _ => s) [] :=
  ⟨rfl, nofun⟩

/-- The states of a loop with one more call in front. -/
def before (s : σ) (state : Nat → σ) : Nat → σ
  | 0 => s
  | n + 1 => state n

/-- One call, and the others from the state that it leaves. -/
theorem cons (first : (f x).run s = .ok (v, t)) (rest : Calls f xs t state values) :
    Calls f (x :: xs) s (before s state) (v :: values) where
  start := rfl
  call := by
    intro n w hw
    cases n with
    | zero =>
      rw [List.getElem?_cons_zero] at hw
      cases hw
      refine ⟨x, List.getElem?_cons_zero, ?_⟩
      change (f x).run s = .ok (v, state 0)
      rw [rest.start, first]
    | succ n =>
      rw [List.getElem?_cons_succ] at hw
      obtain ⟨y, hy, run⟩ := rest.call n w hw
      exact ⟨y, List.getElem?_cons_succ.trans hy, run⟩

end Calls

/-- A loop makes all its calls and gives their values, or it makes some and ends with the fault of
the next one. -/
theorem exists_calls (f : β → StateT σ Checked α) : ∀ (xs : List β) (s : σ),
    ∃ (state : Nat → σ) (values : List α), Calls f xs s state values ∧
      (values.length = xs.length ∧ (xs.mapM f).run s = .ok (values, state xs.length) ∨
        ∃ x fault, xs[values.length]? = some x ∧
          (f x).run (state values.length) = .error fault ∧ (xs.mapM f).run s = .error fault)
  | [], s => ⟨_, [], Calls.nil f [] s, .inl ⟨rfl, rfl⟩⟩
  | x :: xs, s => by
      rw [List.mapM_cons]
      cases first : (f x).run s with
      | error fault =>
        refine ⟨_, [], Calls.nil f (x :: xs) s, .inr ⟨x, fault, rfl, first, ?_⟩⟩
        rw [StateT.run_bind, first, error_bind]
      | ok made =>
        obtain ⟨v, t⟩ := made
        obtain ⟨state, values, calls, loop⟩ := exists_calls f xs t
        refine ⟨_, v :: values, calls.cons first, ?_⟩
        rw [StateT.run_bind, first, ok_bind, StateT.run_bind]
        rcases loop with ⟨complete, run⟩ | ⟨y, fault, hy, last, run⟩
        · rw [run, List.length_cons, List.length_cons, complete]
          exact .inl ⟨rfl, rfl⟩
        · rw [run]
          exact .inr ⟨y, fault, List.getElem?_cons_succ.trans hy, last, rfl⟩

end Calls

/-! ### Coordinates -/

namespace Coordinate

/-- Whether 32 bits hold an integer. -/
def Fits (v : Int) : Prop := -2147483648 ≤ v ∧ v ≤ 2147483647

theorem fits_toInt (a : Coordinate) : Fits a.toInt := by
  have low := a.le_toInt
  have high := a.toInt_lt
  exact ⟨by omega, by omega⟩

theorem toInt_ofInt {v : Int} (h : Fits v) : (Int32.ofInt v).toInt = v :=
  Int32.toInt_ofInt_of_le (by have := h.1; omega) (by have := h.2; omega)

theorem eq_of_toInt {a b : Coordinate} (h : a.toInt = b.toInt) : a = b := Int32.toInt_inj.mp h

theorem toInt_zero : (0 : Coordinate).toInt = 0 := rfl

/-- The step gives `c` exactly when `c` is the exact value. -/
theorem ofInt_eq_ok {fault : Fault} {v : Int} {c : Coordinate} :
    ofInt fault v = .ok c ↔ c.toInt = v := by
  unfold ofInt
  constructor
  · intro h
    split at h
    · rename_i hv
      cases h
      exact toInt_ofInt hv
    · contradiction
  · intro h
    have hv : -2147483648 ≤ v ∧ v ≤ 2147483647 := h ▸ fits_toInt c
    rw [if_pos hv, ← h, Int32.ofInt_toInt]

/-- A step gives a coordinate, or its one fault. -/
theorem ofInt_cases (fault : Fault) (v : Int) :
    (∃ c, ofInt fault v = .ok c) ∨ ofInt fault v = .error fault := by
  unfold ofInt
  split
  · exact .inl ⟨_, rfl⟩
  · exact .inr rfl

theorem add_eq_ok {a b c : Coordinate} : add a b = .ok c ↔ c.toInt = a.toInt + b.toInt :=
  ofInt_eq_ok

theorem sub_eq_ok {a b c : Coordinate} : sub a b = .ok c ↔ c.toInt = a.toInt - b.toInt :=
  ofInt_eq_ok

theorem mul_eq_ok {a b c : Coordinate} : mul a b = .ok c ↔ c.toInt = a.toInt * b.toInt :=
  ofInt_eq_ok

theorem div_eq_ok {a b c : Coordinate} (hb : b ≠ 0) :
    div a b = .ok c ↔ c.toInt = a.toInt.tdiv b.toInt := by
  unfold div
  rw [if_neg hb, ofInt_eq_ok]

theorem isMultiple_of_pos {a b : Coordinate} (hb : 0 < b.toInt) :
    isMultiple a b = .ok (decide (b.toInt ∣ a.toInt)) := by
  have hb0 : b ≠ 0 := by rintro rfl; exact absurd hb (by decide)
  have ha := fits_toInt a
  have hquot : a.toInt.tdiv b.toInt ≠ 2147483648 := by
    intro h
    have hle := Int.natAbs_tdiv_le_natAbs a.toInt b.toInt
    have ha' := ha.1
    have ha'' := ha.2
    have : a.toInt = -2147483648 := by omega
    rw [this] at h
    have hneg : Int.tdiv (-2147483648) b.toInt ≤ 0 := by
      rw [Int.neg_tdiv]
      have := Int.tdiv_nonneg (a := 2147483648) (by decide) (Int.le_of_lt hb)
      omega
    omega
  unfold isMultiple
  rw [if_neg hb0, if_neg hquot]
  simp only [Int.dvd_iff_tmod_eq_zero]

theorem toInt_max (a b : Coordinate) : (max a b).toInt = max a.toInt b.toInt := by
  change (if a ≤ b then b else a).toInt = _
  split <;> rename_i h <;> rw [Int32.le_iff_toInt_le] at h <;> omega

theorem toInt_min (a b : Coordinate) : (min a b).toInt = min a.toInt b.toInt := by
  change (if a ≤ b then a else b).toInt = _
  split <;> rename_i h <;> rw [Int32.le_iff_toInt_le] at h <;> omega

theorem toSize_of_nonneg {a : Coordinate} (h : 0 ≤ a.toInt) : a.toSize = a.toInt.toNat := by
  have := (fits_toInt a).2
  unfold toSize
  rw [Int.emod_eq_of_lt h (by omega)]

theorem toNat_toUInt32 {a : Coordinate} (h : 0 ≤ a.toInt) : a.toUInt32.toNat = a.toInt.toNat := by
  rw [Int32.toNat_toUInt32_of_le (Int32.le_iff_toInt_le.mpr h)]
  rfl

theorem toInt_toInt32 {n : UInt32} (h : n.toNat < 2147483648) : n.toInt32.toInt = n.toNat := by
  rw [← UInt32.ofNat_toNat (x := n), UInt32.toInt32_ofNat',
    Int32.toInt_ofNat_of_lt (by simpa using h)]
  simp

end Coordinate

/-! ### Sizes -/

namespace Size

theorem fit_eq_ok {fault : Fault} {n m : Nat} : fit fault n = .ok m ↔ n < bound ∧ m = n := by
  unfold fit
  constructor
  · intro h
    split at h
    · rename_i hn
      exact ⟨hn, (Except.ok.inj h).symm⟩
    · contradiction
  · rintro ⟨hn, rfl⟩
    rw [if_pos hn]

theorem add_eq_ok {a b c : Nat} : add a b = .ok c ↔ a + b < bound ∧ c = a + b := fit_eq_ok

theorem mul_eq_ok {a b c : Nat} : mul a b = .ok c ↔ a * b < bound ∧ c = a * b := fit_eq_ok

theorem add_ok {a b : Nat} (h : a + b < bound) : add a b = .ok (a + b) := add_eq_ok.mpr ⟨h, rfl⟩

theorem mul_ok {a b : Nat} (h : a * b < bound) : mul a b = .ok (a * b) := mul_eq_ok.mpr ⟨h, rfl⟩

theorem div_ok {a b : Nat} (h : 0 < b) : div a b = .ok (a / b) := if_neg (Nat.ne_of_gt h)

theorem mul?_eq_some {a b c : Nat} : mul? a b = some c ↔ a * b < bound ∧ c = a * b := by
  unfold mul?
  rw [Option.ite_none_right_eq_some, Option.some.injEq, @eq_comm _ c]

theorem add?_eq_some {a b c : Nat} : add? a b = some c ↔ a + b < bound ∧ c = a + b := by
  unfold add?
  rw [Option.ite_none_right_eq_some, Option.some.injEq, @eq_comm _ c]

theorem reserve_eq_ok {count width : Nat} :
    reserve count width = .ok () ↔ count * width ≤ maxBytes := by
  unfold reserve
  split <;> simp_all

end Size

end DenseMedium
