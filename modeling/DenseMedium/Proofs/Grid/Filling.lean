import DenseMedium.Proofs.Grid.Contents
import DenseMedium.Proofs.Lattice.Strides

/-!
Strides as a numbering, and grids filled in its order.

* `Grid.fillWith_calls`: a filled grid holds the value of each call at the place of the call.
* `Stride.canonical_order`: strides and local points are inverse to each other, the points of an
  extent are listed by their strides, and so are the calls of a filler.
-/

namespace DenseMedium

/-! ### Filled grids -/

namespace Grid

variable {α σ : Type}

/-- A filled grid holds the value of each call at the place of the call. Filling fails only as a
call does. -/
theorem fillWith_calls {e : Extent} {b : Point} (hb : e.leastUpperBound = .ok b)
    (filler : Point → StateT σ Checked α) (s : σ) :
    ∃ (state : Nat → σ) (values : List α), Calls filler e.enumerate s state values ∧
      ((values.length = e.volume ∧ ∃ g, (fillWith e filler).run s = .ok (g, state e.volume) ∧
          g.extent = e ∧ g.values.size = e.volume ∧
          ∀ n v, g.at? n = .ok v ↔ values[n]? = some v) ∨
        ∃ p fault, e.enumerate[values.length]? = some p ∧
          (filler p).run (state values.length) = .error fault ∧
          (fillWith e filler).run s = .error fault) := by
  obtain ⟨state, values, calls, loop⟩ := exists_calls filler e.enumerate s
  rw [Extent.length_enumerate] at loop
  refine ⟨state, values, calls, ?_⟩
  rw [fillWith_eq hb]
  rcases loop with ⟨complete, run⟩ | ⟨p, fault, hp, last, run⟩
  · rw [run, ok_bind]
    refine .inl ⟨complete, _, rfl, rfl, complete, ?_⟩
    intro n v
    rw [at?_eq_ok, List.getElem?_toArray]
  · rw [run, error_bind]
    exact .inr ⟨p, fault, hp, last, rfl⟩

end Grid

/-! ### The canonical order -/

namespace Stride

open Extent

/-- **Strides number the points in canonical order.** For a shape of positive lengths whose product
is a size, the strides of local points are the numbers below the product, each of one point, and the
point of a stride is found again; no step overflows. Wherever an extent of that shape lies, the
point that it lists at place `n`, taken relative to the least point, has stride `n`. A filled grid
therefore holds the value of call `n` at stride `n`, and filling fails only as a call does. -/
theorem canonical_order {shape : Point}
    (positive : 0 < shape.x.toInt ∧ 0 < shape.y.toInt ∧ 0 < shape.z.toInt)
    (few : shape.x.toInt * shape.y.toInt * shape.z.toInt < 2 ^ 64) :
    (∀ p, IsLocal shape p → ∃ n : Nat, ofLocal shape p = .ok n ∧
      (n : Int) = p.x.toInt + shape.x.toInt * (p.y.toInt + shape.y.toInt * p.z.toInt) ∧
      (n : Int) < shape.x.toInt * shape.y.toInt * shape.z.toInt ∧ toLocal shape n = .ok p) ∧
    (∀ n : Nat, (n : Int) < shape.x.toInt * shape.y.toInt * shape.z.toInt →
      ∃ p, toLocal shape n = .ok p ∧ IsLocal shape p ∧ ofLocal shape p = .ok n) ∧
    ∀ least b : Point, (⟨least, shape⟩ : Extent).leastUpperBound = .ok b →
      ∃ ps, (⟨least, shape⟩ : Extent).points = .ok ps ∧
        (ps.length : Int) = shape.x.toInt * shape.y.toInt * shape.z.toInt ∧
        (∀ n p, ps[n]? = some p → ∃ q, p.sub least = .ok q ∧ ofLocal shape q = .ok n) ∧
        ∀ (α σ : Type) (filler : Point → StateT σ Checked α) (s : σ),
          ∃ (state : Nat → σ) (values : List α), Calls filler ps s state values ∧
            ((values.length = ps.length ∧ ∃ g,
                (Grid.fillWith ⟨least, shape⟩ filler).run s = .ok (g, state ps.length) ∧
                g.extent = ⟨least, shape⟩ ∧ g.values.size = ps.length ∧
                ∀ n v, g.at? n = .ok v ↔ values[n]? = some v) ∨
              ∃ p fault, ps[values.length]? = some p ∧
                (filler p).run (state values.length) = .error fault ∧
                (Grid.fillWith ⟨least, shape⟩ filler).run s = .error fault) := by
  have lengths : (ofShape shape).Positive := positive
  have product : ((ofShape shape).volume : Int) = _ := lengths.nonnegative.volume_toInt
  have volume : (ofShape shape).volume < Size.bound := lengths.nonnegative.volume_lt few
  have top : (ofShape shape).leastUpperBound = .ok shape := leastUpperBound_of_origin rfl
  change _ = shape.x.toInt * shape.y.toInt * shape.z.toInt at product
  rw [← product]
  refine ⟨?_, ?_, ?_⟩
  · intro p hp
    have member := isLocal_iff_mem.mp hp
    refine ⟨_, ofLocal_eq_ok volume hp, rank_ofShape hp, ?_, ?_⟩
    · exact Int.ofNat_lt.mpr (rank_lt member)
    · rw [toLocal_eq_ok lengths, pointAt_rank member]
  · intro n small
    have small := Int.ofNat_lt.mp small
    have hp := isLocal_iff_mem.mpr (pointAt_mem top small)
    refine ⟨_, toLocal_eq_ok lengths n, hp, ?_⟩
    rw [ofLocal_eq_ok volume hp, rank_pointAt top small]
  · intro least b bounded
    refine ⟨_, points_eq_ok bounded, congrArg Nat.cast (length_enumerate _), ?_, ?_⟩
    · intro n p
      exact exists_stride_of_getElem? bounded volume
    · intro α σ filler s
      rw [length_enumerate]
      exact Grid.fillWith_calls bounded filler s

/-- The last cell of an array with as many cells as can be counted, and a grid at the limits of the
coordinates that is filled by counting. -/
theorem canonical_order_counted :
    let shape : Point := ⟨1722007169, 2142470067, 5⟩
    let last : Point := ⟨1722007168, 2142470066, 4⟩
    let e : Extent := ⟨⟨2147483645, -1, -2147483648⟩, ⟨2, 1, 2⟩⟩
    let count : Point → StateT Nat Checked Nat := fun _ n => .ok (n, n + 1)
    let g : Grid Nat := ⟨e, #[0, 1, 2, 3]⟩
    ((0 < shape.x.toInt ∧ 0 < shape.y.toInt ∧ 0 < shape.z.toInt) ∧
        shape.x.toInt * shape.y.toInt * shape.z.toInt < 2 ^ 64) ∧
      (ofLocal shape last = .ok 18446744073709551614 ∧
        toLocal shape 18446744073709551614 = .ok last) ∧
      ((0 < e.shape.x.toInt ∧ 0 < e.shape.y.toInt ∧ 0 < e.shape.z.toInt) ∧
        e.shape.x.toInt * e.shape.y.toInt * e.shape.z.toInt < 2 ^ 64 ∧
        e.leastUpperBound = .ok ⟨2147483647, 0, -2147483646⟩) ∧
      (Grid.fillWith e count).run 0 = .ok (g, 4) ∧
      ∃ (ps : List Point) (state : Nat → Nat), e.points = .ok ps ∧ state 0 = 0 ∧ state 4 = 4 ∧
        ∀ n v, g.at? n = .ok v → ∃ p q, ps[n]? = some p ∧
          (count p).run (state n) = .ok (v, state (n + 1)) ∧
          p.sub e.minimum = .ok q ∧ ofLocal e.shape q = .ok n := by
  intro shape last e count g
  have positive : 0 < shape.x.toInt ∧ 0 < shape.y.toInt ∧ 0 < shape.z.toInt := by decide
  have few : shape.x.toInt * shape.y.toInt * shape.z.toInt < 2 ^ 64 := by decide
  have small : 0 < e.shape.x.toInt ∧ 0 < e.shape.y.toInt ∧ 0 < e.shape.z.toInt := by decide
  have fewer : e.shape.x.toInt * e.shape.y.toInt * e.shape.z.toInt < 2 ^ 64 := by decide
  have bounded : e.leastUpperBound = .ok ⟨2147483647, 0, -2147483646⟩ := by decide
  have filled : (Grid.fillWith e count).run 0 = .ok (g, 4) := by decide
  refine ⟨⟨positive, few⟩, ?_, ⟨small, fewer, bounded⟩, filled, ?_⟩
  · obtain ⟨stride, -, -⟩ := canonical_order positive few
    obtain ⟨n, there, number, -, back⟩ := stride last (by decide)
    have number : (n : Int) = 18446744073709551614 := number.trans (by decide)
    obtain rfl : n = 18446744073709551614 := by omega
    exact ⟨there, back⟩
  · obtain ⟨-, -, extents⟩ := canonical_order small fewer
    obtain ⟨ps, points, size, strides, fill⟩ := extents e.minimum _ bounded
    have size : (ps.length : Int) = 4 := size
    have four : ps.length = 4 := by omega
    obtain ⟨state, values, calls, ⟨-, made, run, -, -, stored⟩ | ⟨p, fault, -, fails, -⟩⟩ :=
      fill Nat Nat count 0
    · obtain ⟨same, final⟩ := Prod.mk.inj (Except.ok.inj (filled.symm.trans run))
      refine ⟨ps, state, points, calls.start, four ▸ final.symm, ?_⟩
      intro n v hv
      rw [same, stored] at hv
      obtain ⟨p, hp, call⟩ := calls.call n v hv
      obtain ⟨q, hq, stride⟩ := strides n p hp
      exact ⟨p, q, hp, call, hq, stride⟩
    · cases fails

end Stride

end DenseMedium
