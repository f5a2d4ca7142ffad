import Mathlib.Algebra.CharP.Two
import Mathlib.Algebra.Field.ZMod
import Mathlib.Algebra.Polynomial.Div
import Mathlib.Tactic.Ring
import V4l2Capture.Library.ShiftRegister

/-!
# Cyclic redundancy checks

A checksum of `w` bits is the remainder of a polynomial over the field of two elements. The
checksum is defined from the division, with no register in sight; `registerPolynomial_run` says
that a feedback shift register computes it.
-/
namespace CyclicCode

open Polynomial ShiftRegister

variable {w : Nat}

/-- The polynomial of a word, bit `i` in front of `X ^ i`. -/
noncomputable def wordPolynomial (s : BitVec w) : (ZMod 2)[X] :=
  ∑ i ∈ Finset.range w, if s.getLsbD i then X ^ i else 0

/-- The polynomial of a message, whose first bit has the highest power. -/
noncomputable def bitsPolynomial : List Bool → (ZMod 2)[X]
  | [] => 0
  | b :: bits => (if b then X ^ bits.length else 0) + bitsPolynomial bits

/-- The word of the powers below `X ^ w`. -/
noncomputable def polynomialWord (w : Nat) (p : (ZMod 2)[X]) : BitVec w :=
  ofBits ((List.range w).map fun i => decide (p.coeff i = 1))

/-- The divisor, whose leading power is not part of its word. -/
noncomputable def generator (poly : BitVec w) : (ZMod 2)[X] :=
  X ^ w + wordPolynomial poly

/-- The message makes room for the checksum, its first `w` bits meet the initial content. -/
noncomputable def remainder (poly init : BitVec w) (bits : List Bool) : (ZMod 2)[X] :=
  (X ^ w * bitsPolynomial bits + X ^ bits.length * wordPolynomial init) %ₘ generator poly

/-- What distinguishes the usual checksums of one width. -/
structure Parameters (w : Nat) where
  poly : BitVec w
  init : BitVec w
  reflectIn : Bool
  reflectOut : Bool
  xorOut : BitVec w

/-- The bits of a byte in the order in which they are divided. -/
def Parameters.byteBits (code : Parameters w) (byte : UInt8) : List Bool :=
  (List.range 8).map fun i =>
    if code.reflectIn then byte.toBitVec.getLsbD i else byte.toBitVec.getMsbD i

noncomputable def Parameters.checksum (code : Parameters w) (data : List UInt8) : BitVec w :=
  let word := polynomialWord w (remainder code.poly code.init (data.flatMap code.byteBits))
  (if code.reflectOut then word.reverse else word) ^^^ code.xorOut

/-! ### Words and polynomials -/

theorem bit_add (b c : Bool) : ((if b then 1 else 0) + (if c then 1 else 0) : ZMod 2) =
    if b ^^ c then 1 else 0 := by
  cases b <;> cases c <;> decide

theorem coeff_wordPolynomial (s : BitVec w) (i : Nat) :
    (wordPolynomial s).coeff i = if s.getLsbD i then 1 else 0 := by
  rw [wordPolynomial, finsetSum_coeff]
  have each (j : Nat) : (if s.getLsbD j then (X : (ZMod 2)[X]) ^ j else 0).coeff i =
      if j = i then (if s.getLsbD i then 1 else 0) else 0 := by
    by_cases same : j = i
    · subst same
      by_cases set : s.getLsbD j = true
      · simp [set]
      · simp [set]
    · have other : ¬i = j := fun equal => same equal.symm
      by_cases set : s.getLsbD j = true
      · simp [set, same, other, coeff_X_pow]
      · simp [set, same]
  simp only [each, Finset.sum_ite_eq', Finset.mem_range]
  by_cases inside : i < w
  · rw [if_pos inside]
  · rw [if_neg inside, BitVec.getLsbD_of_ge s i (by omega)]
    rfl

theorem degree_wordPolynomial_lt (s : BitVec w) : (wordPolynomial s).degree < w := by
  refine (degree_lt_iff_coeff_zero _ _).mpr fun i above => ?_
  rw [coeff_wordPolynomial, BitVec.getLsbD_of_ge s i above]
  rfl

theorem polynomialWord_wordPolynomial (s : BitVec w) :
    polynomialWord w (wordPolynomial s) = s := by
  apply BitVec.eq_of_getLsbD_eq
  intro i inside
  rw [polynomialWord, getLsbD_ofBits _ _ inside,
    List.getD_eq_getElem _ _ (by simpa using inside), List.getElem_map, List.getElem_range,
    coeff_wordPolynomial]
  cases s.getLsbD i <;> simp

theorem coeff_generator (poly : BitVec w) (i : Nat) :
    (generator poly).coeff i = if decide (i = w) ^^ poly.getLsbD i then 1 else 0 := by
  rw [generator, coeff_add, coeff_X_pow, coeff_wordPolynomial, ← bit_add]
  congr 1
  simp

theorem generator_monic (poly : BitVec w) : (generator poly).Monic :=
  monic_X_pow_add (degree_wordPolynomial_lt poly)

theorem degree_generator (poly : BitVec w) : (generator poly).degree = w := by
  rw [generator, degree_add_eq_left_of_degree_lt, degree_X_pow]
  rw [degree_X_pow]
  exact degree_wordPolynomial_lt poly

/-! ### The register divides -/

/-- The content of a register that shifts down: its lowest place has the highest power. -/
noncomputable def registerPolynomial (s : BitVec w) : (ZMod 2)[X] :=
  wordPolynomial s.reverse

theorem coeff_registerPolynomial (s : BitVec w) (i : Nat) :
    (registerPolynomial s).coeff i = if s.getMsbD i then 1 else 0 := by
  rw [registerPolynomial, coeff_wordPolynomial, BitVec.getLsbD_reverse]

theorem registerPolynomial_xor (s t : BitVec w) :
    registerPolynomial (s ^^^ t) = registerPolynomial s + registerPolynomial t := by
  ext i
  rw [coeff_add, coeff_registerPolynomial, coeff_registerPolynomial, coeff_registerPolynomial,
    bit_add, BitVec.getMsbD_xor]

/-- An input bit meets the highest power. -/
theorem registerPolynomial_lowBit (positive : 0 < w) (b : Bool) :
    registerPolynomial (lowBit b : BitVec w) = if b then X ^ (w - 1) else 0 := by
  ext i
  rw [coeff_registerPolynomial, BitVec.getMsbD_eq_getLsbD, getLsbD_lowBit]
  cases b with
  | false => simp
  | true =>
    have place : (decide (i < w) && (true && decide (w - 1 - i = 0 ∧ 0 < w))) =
        decide (i = w - 1) := by
      rw [Bool.true_and, ← Bool.decide_and, decide_eq_decide]
      omega
    rw [place, if_pos rfl, coeff_X_pow]
    simp

/-- Shifting multiplies by `X`; what leaves the register is taken off by the divisor. -/
theorem registerPolynomial_shift (positive : 0 < w) (poly s : BitVec w) :
    X * registerPolynomial s = registerPolynomial (shift poly.reverse s) +
      if s.getLsbD 0 then generator poly else 0 := by
  ext i
  have last : s.getLsbD 0 = s.getMsbD (w - 1) := by
    rw [BitVec.getMsbD_eq_getLsbD, decide_eq_true (show w - 1 < w by omega), Bool.true_and,
      Nat.sub_self]
  have moved : (s >>> 1).getMsbD i = (decide (0 < i ∧ i < w) && s.getMsbD (i - 1)) := by
    rw [BitVec.getMsbD_ushiftRight, ← Bool.and_assoc]
    congr 1
    rw [Bool.eq_iff_iff]
    simp
    omega
  -- The coefficient of `X * registerPolynomial s`, without the division.
  have product : (X * registerPolynomial s).coeff i =
      if (decide (0 < i ∧ i ≤ w) && s.getMsbD (i - 1)) then 1 else 0 := by
    cases i with
    | zero => simp
    | succ i =>
      rw [coeff_X_mul, coeff_registerPolynomial, Nat.add_sub_cancel]
      by_cases inside : i < w
      · rw [decide_eq_true (by omega), Bool.true_and]
      · rw [BitVec.getMsbD_of_ge s i (by omega), Bool.and_false]
  have split : (decide (0 < i ∧ i ≤ w) && s.getMsbD (i - 1)) =
      ((decide (0 < i ∧ i < w) && s.getMsbD (i - 1)) ^^ (decide (i = w) && s.getLsbD 0)) := by
    by_cases same : i = w
    · subst same
      rw [last]
      simp [positive]
    · have strict : i ≤ w ↔ i < w := by omega
      simp [same, strict]
  rw [product, split, coeff_add, coeff_registerPolynomial, shift]
  cases s.getLsbD 0 with
  | false => simp [moved]
  | true =>
    -- The word of the divisor is added twice, by the register and with the divisor.
    have twice (a b c : Bool) : ((a ^^ c) ^^ (b ^^ c)) = (a ^^ b) := by
      cases a <;> cases b <;> cases c <;> rfl
    rw [if_pos rfl, if_pos rfl, coeff_generator, bit_add, BitVec.getMsbD_xor, moved,
      BitVec.getMsbD_reverse, twice, Bool.and_true]

theorem registerPolynomial_feed (positive : 0 < w) (poly s : BitVec w) (b : Bool) :
    ∃ carry : (ZMod 2)[X], X * registerPolynomial s + (if b then X ^ w else 0) =
      registerPolynomial (feed poly.reverse s b) + generator poly * carry := by
  refine ⟨if (s ^^^ lowBit b).getLsbD 0 then 1 else 0, ?_⟩
  have shifted := registerPolynomial_shift positive poly (s ^^^ lowBit b)
  rw [registerPolynomial_xor, registerPolynomial_lowBit positive, mul_add, mul_ite, mul_zero,
    ← pow_succ', Nat.sub_add_cancel positive] at shifted
  rw [shifted, feed, mul_ite, mul_one, mul_zero]

/-- The register holds what is left of its content and the message behind it. -/
theorem registerPolynomial_run (positive : 0 < w) (poly s : BitVec w) (bits : List Bool) :
    ∃ quotient : (ZMod 2)[X],
      X ^ w * bitsPolynomial bits + X ^ bits.length * registerPolynomial s =
        registerPolynomial (run poly.reverse s bits) + generator poly * quotient := by
  induction bits generalizing s with
  | nil => exact ⟨0, by simp [bitsPolynomial, run]⟩
  | cons b bits ih =>
    obtain ⟨carry, fed⟩ := registerPolynomial_feed positive poly s b
    obtain ⟨quotient, divided⟩ := ih (feed poly.reverse s b)
    refine ⟨quotient + X ^ bits.length * carry, ?_⟩
    calc X ^ w * bitsPolynomial (b :: bits) + X ^ (b :: bits).length * registerPolynomial s
        = X ^ w * bitsPolynomial bits + X ^ bits.length *
            (X * registerPolynomial s + if b then X ^ w else 0) := by
          rw [bitsPolynomial, List.length_cons]
          split <;> ring
      _ = X ^ w * bitsPolynomial bits +
            X ^ bits.length * registerPolynomial (feed poly.reverse s b) +
            X ^ bits.length * (generator poly * carry) := by
          rw [fed]
          ring
      _ = registerPolynomial (run poly.reverse s (b :: bits)) +
            generator poly * (quotient + X ^ bits.length * carry) := by
          rw [divided, run, run, List.foldl_cons]
          ring

/-- A register with the reflected polynomial, started with the reflected initial content, ends
with the reflected remainder. -/
theorem run_eq_remainder (positive : 0 < w) (poly init : BitVec w) (bits : List Bool) :
    (polynomialWord w (remainder poly init bits)).reverse =
      run poly.reverse init.reverse bits := by
  obtain ⟨quotient, divided⟩ := registerPolynomial_run positive poly init.reverse bits
  rw [registerPolynomial, BitVec.reverse_reverse_eq] at divided
  have small : (registerPolynomial (run poly.reverse init.reverse bits)).degree <
      (generator poly).degree := by
    rw [degree_generator]
    exact degree_wordPolynomial_lt _
  have unique := div_modByMonic_unique quotient _ (generator_monic poly) ⟨divided.symm, small⟩
  rw [remainder, unique.2, registerPolynomial, polynomialWord_wordPolynomial,
    BitVec.reverse_reverse_eq]

end CyclicCode
