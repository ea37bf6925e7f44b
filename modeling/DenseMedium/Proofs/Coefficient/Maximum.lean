import DenseMedium.Medium.Voxel
import DenseMedium.Proofs.Steps
import Mathlib.Tactic.Push

/-!
Maxima of coefficients.

`Single.max` leaves out a side that is not a number. So a maximum that starts at `-inf` is always a
number, bounds every number it has seen, and is one of them unless there was none:

* `Single.IsMaximum` is that relation between a sequence and its maximum, told by `le` and `equal`.
* `Rgb.isMaximum_channel`: each channel of `Rgb.maximum` is the maximum of that channel.
* `Rgb.equal_maximum`, `Rgb.equal_maximum_map`: so the maximum does not depend on the order of a
  sequence, nor on whether it is taken in one go or over the maxima of parts.

The last two are about numeric equality. Which of two equal zeros a maximum returns is not promised.
-/

namespace DenseMedium

namespace Single

variable {a b c : Single}

/-! ### Order -/

theorem le_iff : a.le b = true ↔ a.isNaN = false ∧ b.isNaN = false ∧ a.key ≤ b.key := by
  unfold le
  rw [Bool.and_eq_true, Bool.and_eq_true, Bool.not_eq_true', Bool.not_eq_true', decide_eq_true_eq,
    and_assoc]

theorem equal_iff : a.equal b = true ↔ a.isNaN = false ∧ b.isNaN = false ∧ a.key = b.key := by
  unfold equal
  rw [Bool.and_eq_true, Bool.and_eq_true, Bool.not_eq_true', Bool.not_eq_true', decide_eq_true_eq,
    and_assoc]

theorem le_refl (h : a.isNaN = false) : a.le a = true := le_iff.mpr ⟨h, h, Int.le_refl _⟩

theorem le_trans (hab : a.le b = true) (hbc : b.le c = true) : a.le c = true := by
  obtain ⟨ha, -, hab⟩ := le_iff.mp hab
  obtain ⟨-, hc, hbc⟩ := le_iff.mp hbc
  exact le_iff.mpr ⟨ha, hc, Int.le_trans hab hbc⟩

theorem equal_of_le_of_le (hab : a.le b = true) (hba : b.le a = true) : a.equal b = true := by
  obtain ⟨ha, hb, hab⟩ := le_iff.mp hab
  obtain ⟨-, -, hba⟩ := le_iff.mp hba
  exact equal_iff.mpr ⟨ha, hb, Int.le_antisymm hab hba⟩

theorem isNaN_eq_false : a.isNaN = false ↔ a.word ≤ FloatFormat.single.infinity := by
  unfold isNaN
  rw [decide_eq_false_iff_not, Nat.not_lt]

theorem isNaN_negativeInfinity : negativeInfinity.isNaN = false := by decide

theorem negativeInfinity_le (h : a.isNaN = false) : negativeInfinity.le a = true := by
  have word_le := isNaN_eq_false.mp h
  have least : negativeInfinity.key = -(FloatFormat.single.infinity : Int) := by decide
  refine le_iff.mpr ⟨isNaN_negativeInfinity, h, ?_⟩
  rw [least]
  unfold key
  split <;> omega

/-! ### The maximum of two -/

theorem max_eq_or (a b : Single) : a.max b = a ∨ a.max b = b := by
  unfold max
  split
  · exact .inr rfl
  · split
    · exact .inl rfl
    · split
      · exact .inr rfl
      · exact .inl rfl

theorem le_max_left (ha : a.isNaN = false) : a.le (a.max b) = true := by
  unfold max
  rw [ha, if_neg Bool.false_ne_true]
  by_cases hb : b.isNaN = true
  · rw [if_pos hb]
    exact le_refl ha
  · rw [if_neg hb]
    split
    · rename_i hlt
      exact le_iff.mpr ⟨ha, Bool.eq_false_iff.mpr hb, Int.le_of_lt hlt⟩
    · exact le_refl ha

theorem le_max_right (ha : a.isNaN = false) (hb : b.isNaN = false) : b.le (a.max b) = true := by
  unfold max
  rw [ha, hb, if_neg Bool.false_ne_true, if_neg Bool.false_ne_true]
  split
  · exact le_refl hb
  · rename_i hlt
    exact le_iff.mpr ⟨hb, ha, Int.not_lt.mp hlt⟩

theorem isNaN_max (ha : a.isNaN = false) : (a.max b).isNaN = false :=
  (le_iff.mp (le_max_left ha)).2.1

/-! ### The maximum of a sequence -/

/-- What the maximum `m` of a sequence is: a number that bounds the numbers of the sequence and is
equal to one of them, or `-inf` when there is none. -/
structure IsMaximum (cs : List Single) (m : Single) : Prop where
  number : m.isNaN = false
  bound : ∀ c ∈ cs, c.isNaN = false → c.le m = true
  attained : (∃ c ∈ cs, m.equal c = true) ∨ (m = negativeInfinity ∧ ∀ c ∈ cs, c.isNaN = true)

theorem le_foldl_max : ∀ {cs : List Single} {a : Single}, a.isNaN = false →
    a.le (cs.foldl max a) = true ∧ ∀ c ∈ cs, c.isNaN = false → c.le (cs.foldl max a) = true
  | [], a, ha => ⟨le_refl ha, fun _ hc => absurd hc List.not_mem_nil⟩
  | b :: cs, a, ha => by
      obtain ⟨start, rest⟩ := @le_foldl_max cs _ (isNaN_max (b := b) ha)
      refine ⟨le_trans (le_max_left ha) start, fun c hc hn => ?_⟩
      rcases List.mem_cons.mp hc with rfl | hc
      · exact le_trans (le_max_right ha hn) start
      · exact rest c hc hn

theorem foldl_max_eq_or_mem : ∀ (cs : List Single) (a : Single),
    cs.foldl max a = a ∨ cs.foldl max a ∈ cs
  | [], _ => .inl rfl
  | b :: cs, a => by
      rw [List.foldl_cons]
      rcases foldl_max_eq_or_mem cs (a.max b) with h | h
      · rw [h]
        rcases max_eq_or a b with hm | hm
        · exact .inl hm
        · right
          rw [hm]
          exact List.mem_cons_self
      · exact .inr (List.mem_cons_of_mem b h)

theorem isMaximum_foldl (cs : List Single) : IsMaximum cs (cs.foldl max negativeInfinity) := by
  obtain ⟨start, bound⟩ := @le_foldl_max cs _ isNaN_negativeInfinity
  have number := (le_iff.mp start).2.1
  refine ⟨number, bound, ?_⟩
  rcases foldl_max_eq_or_mem cs negativeInfinity with least | mem
  · by_cases none : ∀ c ∈ cs, c.isNaN = true
    · exact .inr ⟨least, none⟩
    · -- A number bounded by `-inf` is equal to it.
      push Not at none
      obtain ⟨c, hc, hn⟩ := none
      have hn := Bool.eq_false_iff.mpr hn
      rw [least] at bound ⊢
      exact .inl ⟨c, hc, equal_of_le_of_le (negativeInfinity_le hn) (bound c hc hn)⟩
  · exact .inl ⟨_, mem, equal_iff.mpr ⟨number, number, rfl⟩⟩

/-- A maximum is at most any number that bounds the numbers of its sequence. -/
theorem IsMaximum.le_of_bound {cs : List Single} {m n : Single} (h : IsMaximum cs m)
    (hn : n.isNaN = false) (bound : ∀ c ∈ cs, c.isNaN = false → c.le n = true) :
    m.le n = true := by
  rcases h.attained with ⟨c, hc, heq⟩ | ⟨rfl, -⟩
  · obtain ⟨hm, hc', key⟩ := equal_iff.mp heq
    exact le_trans (le_iff.mpr ⟨hm, hc', Int.le_of_eq key⟩) (bound c hc hc')
  · exact negativeInfinity_le hn

/-- More values do not lower a maximum. -/
theorem IsMaximum.le_of_subset {cs ds : List Single} {m n : Single} (hm : IsMaximum cs m)
    (hn : IsMaximum ds n) (subset : ∀ c ∈ cs, c ∈ ds) : m.le n = true :=
  hm.le_of_bound hn.number fun c hc => hn.bound c (subset c hc)

end Single

namespace Rgb

/-- The channels red, green and blue. -/
def channels : List (Rgb → Single) := [Rgb.r, Rgb.g, Rgb.b]

theorem channel_foldl_max {channel : Rgb → Single} (h : channel ∈ channels) :
    ∀ (cs : List Rgb) (a : Rgb),
      channel (cs.foldl max a) = (cs.map channel).foldl Single.max (channel a)
  | [], _ => rfl
  | c :: cs, a => by
      have step : channel (a.max c) = (channel a).max (channel c) := by
        simp only [channels, List.mem_cons, List.not_mem_nil, or_false] at h
        rcases h with rfl | rfl | rfl <;> rfl
      rw [List.foldl_cons, channel_foldl_max h cs, step, List.map_cons, List.foldl_cons]

theorem isMaximum_channel {channel : Rgb → Single} (h : channel ∈ channels) (cs : List Rgb) :
    Single.IsMaximum (cs.map channel) (channel (maximum cs)) := by
  have start : channel negativeInfinity = Single.negativeInfinity := by
    simp only [channels, List.mem_cons, List.not_mem_nil, or_false] at h
    rcases h with rfl | rfl | rfl <;> rfl
  unfold maximum
  rw [channel_foldl_max h, start]
  exact Single.isMaximum_foldl _

/-! ### Sequences with equal maxima -/

variable {a b : Rgb}

theorem equal_iff :
    a.equal b = true ↔ ∀ channel ∈ channels, (channel a).equal (channel b) = true := by
  simp [equal, channels, and_assoc]

theorem dominates_iff :
    a.dominates b = true ↔ ∀ channel ∈ channels, (channel b).le (channel a) = true := by
  simp [dominates, channels, and_assoc]

theorem equal_of_dominates (hab : a.dominates b = true) (hba : b.dominates a = true) :
    a.equal b = true := by
  rw [equal_iff]
  intro channel hc
  exact Single.equal_of_le_of_le (dominates_iff.mp hba channel hc) (dominates_iff.mp hab channel hc)

theorem equal_symm (h : a.equal b = true) : b.equal a = true := by
  rw [equal_iff] at h ⊢
  intro channel hc
  obtain ⟨ha, hb, key⟩ := Single.equal_iff.mp (h channel hc)
  exact Single.equal_iff.mpr ⟨hb, ha, key.symm⟩

theorem equal_trans {c : Rgb} (hab : a.equal b = true) (hbc : b.equal c = true) :
    a.equal c = true := by
  rw [equal_iff] at hab hbc ⊢
  intro channel hc
  obtain ⟨ha, -, keyAB⟩ := Single.equal_iff.mp (hab channel hc)
  obtain ⟨-, hc', keyBC⟩ := Single.equal_iff.mp (hbc channel hc)
  exact Single.equal_iff.mpr ⟨ha, hc', keyAB.trans keyBC⟩

/-- No channel of a maximum is a NaN. -/
theorem isNaN_maximum {channel : Rgb → Single} (h : channel ∈ channels) (cs : List Rgb) :
    (channel (maximum cs)).isNaN = false := (isMaximum_channel h cs).number

theorem dominates_of_subset {cs ds : List Rgb} (subset : ∀ c ∈ cs, c ∈ ds) :
    (maximum ds).dominates (maximum cs) = true := by
  rw [dominates_iff]
  intro channel hc
  refine (isMaximum_channel hc cs).le_of_subset (isMaximum_channel hc ds) fun v hv => ?_
  obtain ⟨c, hcs, rfl⟩ := List.mem_map.mp hv
  exact List.mem_map_of_mem (subset c hcs)

/-- The maximum depends on the members of a sequence alone. -/
theorem equal_maximum {cs ds : List Rgb} (same : ∀ c, c ∈ cs ↔ c ∈ ds) :
    (maximum cs).equal (maximum ds) = true :=
  equal_of_dominates (dominates_of_subset fun c => (same c).mpr)
    (dominates_of_subset fun c => (same c).mp)

/-- The maximum of a sequence is the maximum over the maxima of parts that make it up. -/
theorem equal_maximum_map {parts : List (List Rgb)} {cs : List Rgb}
    (cover : ∀ c, c ∈ cs ↔ ∃ ds ∈ parts, c ∈ ds) :
    (maximum cs).equal (maximum (parts.map maximum)) = true := by
  refine equal_of_dominates (dominates_iff.mpr fun channel hc => ?_)
    (dominates_iff.mpr fun channel hc => ?_)
  · -- Each part has a maximum of at most the whole.
    refine (isMaximum_channel hc _).le_of_bound (isNaN_maximum hc cs) fun v hv _ => ?_
    rw [List.map_map] at hv
    obtain ⟨ds, hds, rfl⟩ := List.mem_map.mp hv
    have part := dominates_of_subset fun c hcd => (cover c).mpr ⟨ds, hds, hcd⟩
    exact dominates_iff.mp part channel hc
  · -- Each value is bounded by the maximum of its part.
    refine (isMaximum_channel hc cs).le_of_bound (isNaN_maximum hc _) fun v hv number => ?_
    obtain ⟨c, hcs, rfl⟩ := List.mem_map.mp hv
    obtain ⟨ds, hds, hcd⟩ := (cover c).mp hcs
    have inner := (isMaximum_channel hc ds).bound _ (List.mem_map_of_mem hcd) number
    have outer := (isMaximum_channel hc (parts.map maximum)).bound _
      (List.mem_map_of_mem (List.mem_map_of_mem hds)) (isNaN_maximum hc ds)
    exact Single.le_trans inner outer

end Rgb

end DenseMedium
