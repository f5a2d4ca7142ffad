import Mathlib.Algebra.Order.Floor.Semiring
import Mathlib.Order.Monotone.Basic
import Mathlib.Tactic.Linarith

/-!
# Linear interpolation

The values of a sequence at ranks that need not be whole. Between two neighbours of a sequence
that does not fall the interpolated value lies between theirs, and it grows with the rank.
-/
namespace Interpolation

variable {K : Type} [Field K] [LinearOrder K] [IsStrictOrderedRing K] [FloorSemiring K]

/-- The value at the rank `x`, from the ones at its floor and its ceiling. -/
def interpolate (s : ℕ → K) (x : K) : K :=
  s ⌊x⌋₊ + (s ⌈x⌉₊ - s ⌊x⌋₊) * (x - ⌊x⌋₊)

variable {s : ℕ → K} {n : ℕ} {x y : K}

theorem floor_le_last (within : x ≤ n) : ⌊x⌋₊ ≤ n :=
  (Nat.floor_mono within).trans_eq (Nat.floor_natCast n)

/-- How far the rank stands behind its floor. -/
theorem fraction_bounds (nonneg : 0 ≤ x) : 0 ≤ x - ⌊x⌋₊ ∧ x - ⌊x⌋₊ ≤ 1 := by
  have below := Nat.floor_le nonneg
  have above := (Nat.lt_floor_add_one x).le
  constructor
  · linarith
  · linarith

theorem interpolate_natCast (s : ℕ → K) (k : ℕ) : interpolate s (k : K) = s k := by
  simp [interpolate]

theorem floor_value_le_ceil_value (rising : MonotoneOn s (Set.Iic n)) (within : x ≤ n) :
    s ⌊x⌋₊ ≤ s ⌈x⌉₊ :=
  rising (floor_le_last within) (Nat.ceil_le.mpr within) (Nat.floor_le_ceil x)

/-- The interpolated value lies between the two it is made of. -/
theorem interpolate_bounds (rising : MonotoneOn s (Set.Iic n)) (nonneg : 0 ≤ x)
    (within : x ≤ n) :
    s ⌊x⌋₊ ≤ interpolate s x ∧ interpolate s x ≤ s ⌈x⌉₊ := by
  have step := sub_nonneg.mpr (floor_value_le_ceil_value rising within)
  obtain ⟨behind, before⟩ := fraction_bounds nonneg
  have least := mul_nonneg step behind
  have most := mul_le_of_le_one_right step before
  rw [interpolate]
  constructor
  · linarith
  · linarith

/-- The interpolated value grows with the rank, also across the whole ranks. -/
theorem interpolate_mono (rising : MonotoneOn s (Set.Iic n)) (nonneg : 0 ≤ x) (le : x ≤ y)
    (within : y ≤ n) : interpolate s x ≤ interpolate s y := by
  have xWithin := le.trans within
  have yNonneg := nonneg.trans le
  rcases (Nat.floor_mono le).lt_or_eq with apart | together
  · -- A whole rank separates the two.
    have between : ⌈x⌉₊ ≤ ⌊y⌋₊ := (Nat.ceil_le_floor_add_one x).trans apart
    calc interpolate s x ≤ s ⌈x⌉₊ := (interpolate_bounds rising nonneg xWithin).2
      _ ≤ s ⌊y⌋₊ := rising (Nat.ceil_le.mpr xWithin) (floor_le_last within) between
      _ ≤ interpolate s y := (interpolate_bounds rising yNonneg within).1
  · by_cases whole : x = ⌊x⌋₊
    · -- Nothing is interpolated at a whole rank.
      rw [whole, interpolate_natCast, together]
      exact (interpolate_bounds rising yNonneg within).1
    · -- Both stand on the same segment, which does not fall.
      have behindFloor : (⌊x⌋₊ : K) < x := lt_of_le_of_ne (Nat.floor_le nonneg) (Ne.symm whole)
      have xCeil : ⌈x⌉₊ = ⌊x⌋₊ + 1 :=
        le_antisymm (Nat.ceil_le_floor_add_one x) (Nat.lt_ceil.mpr behindFloor)
      have yCeil : ⌈y⌉₊ = ⌊y⌋₊ + 1 :=
        le_antisymm (Nat.ceil_le_floor_add_one y)
          (Nat.lt_ceil.mpr (together ▸ behindFloor.trans_le le))
      have slope := sub_nonneg.mpr (floor_value_le_ceil_value rising within)
      have further := mul_le_mul_of_nonneg_left (sub_le_sub_right le (⌊y⌋₊ : K)) slope
      rw [interpolate, interpolate, xCeil, together, ← yCeil]
      linarith

end Interpolation
