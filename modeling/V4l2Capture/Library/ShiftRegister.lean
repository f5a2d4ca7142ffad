import Mathlib.Data.List.GetD
import Mathlib.Data.BitVec

/-!
# Feedback shift registers

A register of `w` bits that is shifted down by one place; when the bit shifted out is set,
a polynomial is added. Adding is exclusive or, so the register is linear in its content and
its input. With the top bit of the polynomial set a shift loses nothing, and two inputs
that differ only inside `w` consecutive bits leave different contents (`run_ne_of_window`).
-/
namespace ShiftRegister

variable {w : Nat}

/-- A register that holds one input bit in its lowest place. -/
def lowBit (b : Bool) : BitVec w :=
  if b then 1#w else 0#w

section
variable (poly : BitVec w)

def shift (s : BitVec w) : BitVec w :=
  if s.getLsbD 0 then (s >>> 1) ^^^ poly else s >>> 1

def shifts : Nat → BitVec w → BitVec w
  | 0, s => s
  | n + 1, s => shifts n (shift poly s)

/-- One input bit is added to the lowest place before the shift. -/
def feed (s : BitVec w) (b : Bool) : BitVec w :=
  shift poly (s ^^^ lowBit b)

def run (s : BitVec w) (bits : List Bool) : BitVec w :=
  bits.foldl (feed poly) s

/-! ### Linearity -/

theorem xor_xor_cancel (a b c : BitVec w) : (a ^^^ c) ^^^ (b ^^^ c) = a ^^^ b := by
  rw [BitVec.xor_assoc, BitVec.xor_comm b c, ← BitVec.xor_assoc c c b, BitVec.xor_self,
    BitVec.zero_xor]

theorem shift_xor (a b : BitVec w) : shift poly (a ^^^ b) = shift poly a ^^^ shift poly b := by
  simp only [shift, BitVec.getLsbD_xor, BitVec.ushiftRight_xor_distrib]
  cases a.getLsbD 0 <;> cases b.getLsbD 0 <;>
    simp only [Bool.xor_false, Bool.xor_true, Bool.not_false, Bool.not_true, if_true, if_false,
      Bool.false_eq_true]
  · rw [BitVec.xor_assoc]
  · rw [BitVec.xor_assoc, BitVec.xor_comm (b >>> 1) poly, BitVec.xor_assoc]
  · exact (xor_xor_cancel _ _ _).symm

theorem lowBit_xor (b c : Bool) : (lowBit (b ^^ c) : BitVec w) = lowBit b ^^^ lowBit c := by
  cases b <;> cases c <;> simp [lowBit]

theorem feed_xor (s t : BitVec w) (b c : Bool) :
    feed poly (s ^^^ t) (b ^^ c) = feed poly s b ^^^ feed poly t c := by
  rw [feed, feed, feed, ← shift_xor, lowBit_xor]
  congr 1
  ac_rfl

/-- The sum of two inputs leaves the sum of what each leaves. -/
theorem run_xor (s t : BitVec w) (xs ys : List Bool) (same : xs.length = ys.length) :
    run poly (s ^^^ t) (List.zipWith xor xs ys) = run poly s xs ^^^ run poly t ys := by
  induction xs generalizing s t ys with
  | nil =>
    cases ys with
    | nil => rfl
    | cons y ys => cases same
  | cons x xs ih =>
    cases ys with
    | nil => cases same
    | cons y ys =>
      have lengths : xs.length = ys.length := Nat.succ.inj same
      rw [run, List.zipWith_cons_cons, List.foldl_cons, feed_xor]
      exact ih _ _ ys lengths

theorem run_append (s : BitVec w) (xs ys : List Bool) :
    run poly s (xs ++ ys) = run poly (run poly s xs) ys :=
  List.foldl_append

/-- Input bits that are not set only shift the register. -/
theorem run_replicate_false (n : Nat) (s : BitVec w) :
    run poly s (List.replicate n false) = shifts poly n s := by
  induction n generalizing s with
  | zero => rfl
  | succ n ih =>
    have idle : feed poly s false = shift poly s := by simp [feed, lowBit]
    rw [List.replicate_succ, run, List.foldl_cons, idle]
    exact ih _

theorem shift_zero : shift poly 0#w = 0#w := by
  simp [shift]

theorem shifts_zero (n : Nat) : shifts poly n 0#w = 0#w := by
  induction n with
  | zero => rfl
  | succ n ih => rw [shifts, shift_zero, ih]

/-! ### Nothing is lost -/

/-- A shift that gives zero started from zero: the polynomial sets the top bit, and the shift
itself leaves it clear. -/
theorem eq_zero_of_shift_eq_zero (top : poly.getLsbD (w - 1) = true) {s : BitVec w}
    (zero : shift poly s = 0#w) : s = 0#w := by
  have positive : 0 < w := by
    by_contra none
    have width : w = 0 := by omega
    subst width
    simp at top
  rw [shift] at zero
  by_cases low : s.getLsbD 0 = true
  · rw [if_pos low] at zero
    have bit := congrArg (fun t => t.getLsbD (w - 1)) zero
    simp only [BitVec.getLsbD_xor, BitVec.getLsbD_ushiftRight, top, BitVec.getLsbD_zero] at bit
    rw [BitVec.getLsbD_of_ge s _ (by omega)] at bit
    simp at bit
  · rw [if_neg low] at zero
    apply BitVec.eq_of_getLsbD_eq
    intro i bound
    rw [BitVec.getLsbD_zero]
    cases i with
    | zero => simpa using low
    | succ i =>
      have bit := congrArg (fun t => t.getLsbD i) zero
      simpa only [BitVec.getLsbD_ushiftRight, BitVec.getLsbD_zero, Nat.add_comm 1 i] using bit

theorem eq_zero_of_shifts_eq_zero (top : poly.getLsbD (w - 1) = true) (n : Nat) {s : BitVec w}
    (zero : shifts poly n s = 0#w) : s = 0#w := by
  induction n generalizing s with
  | zero => exact zero
  | succ n ih => exact eq_zero_of_shift_eq_zero poly top (ih zero)

end

/-! ### Inputs no longer than the register -/

/-- The register that holds the given bits, the first one in the lowest place. -/
def ofBits : List Bool → BitVec w
  | [] => 0#w
  | b :: bits => lowBit b ^^^ (ofBits bits <<< 1)

theorem getLsbD_lowBit (b : Bool) (i : Nat) :
    (lowBit b : BitVec w).getLsbD i = (b && decide (i = 0 ∧ 0 < w)) := by
  cases b with
  | false => simp [lowBit]
  | true =>
    rw [lowBit, if_pos rfl, BitVec.getLsbD_one, Bool.true_and, Bool.decide_and, Bool.and_comm]

theorem getLsbD_ofBits (bits : List Bool) (i : Nat) (inside : i < w) :
    (ofBits bits : BitVec w).getLsbD i = bits.getD i false := by
  induction bits generalizing i with
  | nil => simp [ofBits]
  | cons b bits ih =>
    rw [ofBits, BitVec.getLsbD_xor, BitVec.getLsbD_shiftLeft, getLsbD_lowBit]
    cases i with
    | zero => simp [inside]
    | succ i => simp [inside, ih i (by omega)]

/-- Moving up and shifting down again is nothing, as long as the top bit stays clear. -/
theorem shift_shiftLeft_one (poly : BitVec w) {s : BitVec w} (clear : s.getLsbD (w - 1) = false) :
    shift poly (s <<< 1) = s := by
  have low : (s <<< 1).getLsbD 0 = false := by simp
  rw [shift, low, if_neg Bool.false_ne_true]
  apply BitVec.eq_of_getLsbD_eq
  intro i bound
  rw [BitVec.getLsbD_ushiftRight, BitVec.getLsbD_shiftLeft]
  by_cases last : i = w - 1
  · subst last
    rw [clear]
    simp
    omega
  · have inside : 1 + i < w := by omega
    simp [inside]

/-- An input of at most `w` bits can as well be added to the register all at once. -/
theorem run_eq_shifts (poly : BitVec w) (bits : List Bool) (short : bits.length ≤ w)
    (s : BitVec w) : run poly s bits = shifts poly bits.length (s ^^^ ofBits bits) := by
  induction bits generalizing s with
  | nil => simp [run, shifts, ofBits]
  | cons b bits ih =>
    rw [List.length_cons] at short
    -- The bits still to come leave the top place free.
    have clear : (ofBits bits : BitVec w).getLsbD (w - 1) = false := by
      rw [getLsbD_ofBits bits _ (by omega), List.getD_eq_default]
      omega
    have gathered : feed poly s b ^^^ ofBits bits =
        shift poly (s ^^^ (lowBit b ^^^ (ofBits bits <<< 1))) := by
      rw [← BitVec.xor_assoc, shift_xor, shift_shiftLeft_one poly clear, feed]
    rw [run, List.foldl_cons, ← run, ih (by omega), gathered, List.length_cons, shifts, ofBits]

/-! ### Bursts -/

theorem eq_replicate_of_getD {bits : List Bool} (clear : ∀ i, bits.getD i false = false) :
    bits = List.replicate bits.length false := by
  apply List.eq_replicate_of_mem
  intro b member
  obtain ⟨i, bound, here⟩ := List.mem_iff_getElem.mp member
  have bit := clear i
  rwa [List.getD_eq_getElem _ _ bound, here] at bit

/-- From the zero register, an input whose set bits lie within `w` consecutive positions leads
back to zero only if none is set. -/
theorem run_zero_ne_zero (poly : BitVec w) (top : poly.getLsbD (w - 1) = true) {bits : List Bool}
    {start : Nat} (window : ∀ i, bits.getD i false = true → start ≤ i ∧ i < start + w)
    (nonzero : true ∈ bits) : run poly 0#w bits ≠ 0#w := by
  intro zero
  have outside (i : Nat) (away : i < start ∨ start + w ≤ i) : bits.getD i false = false := by
    by_contra set
    have := window i (by simpa using set)
    omega
  -- The input consists of unset bits, the window, and unset bits again.
  have before : bits.take start = List.replicate (bits.take start).length false := by
    apply eq_replicate_of_getD
    intro i
    by_cases bound : i < start
    · rw [List.getD_eq_getElem?_getD, List.getElem?_take_of_lt bound,
        ← List.getD_eq_getElem?_getD]
      exact outside i (.inl bound)
    · rw [List.getD_eq_default]
      rw [List.length_take]
      omega
  have behind : bits.drop (start + w) = List.replicate (bits.drop (start + w)).length false := by
    apply eq_replicate_of_getD
    intro i
    rw [List.getD_eq_getElem?_getD, List.getElem?_drop, ← List.getD_eq_getElem?_getD]
    exact outside _ (.inr (Nat.le_add_right _ _))
  have split : bits = bits.take start ++ ((bits.drop start).take w ++ bits.drop (start + w)) := by
    rw [← List.drop_drop, List.take_append_drop, List.take_append_drop]
  have short : ((bits.drop start).take w).length ≤ w := List.length_take_le _ _
  rw [split, run_append, run_append, before, behind, run_replicate_false, run_replicate_false,
    shifts_zero, run_eq_shifts poly _ short, BitVec.zero_xor] at zero
  have content := eq_zero_of_shifts_eq_zero poly top _ (eq_zero_of_shifts_eq_zero poly top _ zero)
  -- The register held the window, so the window is unset as well.
  obtain ⟨i, bound, here⟩ := List.mem_iff_getElem.mp nonzero
  have set : bits.getD i false = true := by rw [List.getD_eq_getElem _ _ bound, here]
  obtain ⟨from_start, within⟩ := window i set
  have bit := congrArg (fun t => t.getLsbD (i - start)) content
  simp only [BitVec.getLsbD_zero] at bit
  rw [getLsbD_ofBits _ _ (by omega), List.getD_eq_getElem?_getD,
    List.getElem?_take_of_lt (by omega), List.getElem?_drop, Nat.add_sub_cancel' from_start,
    ← List.getD_eq_getElem?_getD, set] at bit
  cases bit

/-- Two inputs of one length that differ, and only within `w` consecutive positions, leave
different registers behind. -/
theorem run_ne_of_window (poly : BitVec w) (top : poly.getLsbD (w - 1) = true) (s : BitVec w)
    {xs ys : List Bool} (same : xs.length = ys.length) (differ : xs ≠ ys) {start : Nat}
    (window : ∀ i, xs.getD i false ≠ ys.getD i false → start ≤ i ∧ i < start + w) :
    run poly s xs ≠ run poly s ys := by
  intro equal
  have difference (i : Nat) : (List.zipWith xor xs ys).getD i false =
      (xs.getD i false ^^ ys.getD i false) := by
    by_cases bound : i < xs.length
    · have bound' : i < ys.length := by omega
      rw [List.getD_eq_getElem _ _ (by rw [List.length_zipWith]; omega), List.getElem_zipWith,
        List.getD_eq_getElem _ _ bound, List.getD_eq_getElem _ _ bound']
    · rw [List.getD_eq_default _ _ (by rw [List.length_zipWith]; omega),
        List.getD_eq_default _ _ (by omega), List.getD_eq_default _ _ (by omega)]
      rfl
  have nonzero : true ∈ List.zipWith xor xs ys := by
    by_contra none
    apply differ
    apply List.ext_getElem same
    intro i bound bound'
    have there : i < (List.zipWith xor xs ys).length := by
      rw [List.length_zipWith]
      omega
    have unset : (List.zipWith xor xs ys).getD i false = false := by
      rw [List.getD_eq_getElem _ _ there]
      cases bit : (List.zipWith xor xs ys)[i] with
      | false => rfl
      | true => exact absurd (bit ▸ List.getElem_mem there) none
    rw [difference, List.getD_eq_getElem _ _ bound, List.getD_eq_getElem _ _ bound'] at unset
    simpa using unset
  have zero : run poly 0#w (List.zipWith xor xs ys) = 0#w := by
    have sum := run_xor poly s s xs ys same
    rwa [BitVec.xor_self, equal, BitVec.xor_self] at sum
  have inside (i : Nat) (set : (List.zipWith xor xs ys).getD i false = true) :
      start ≤ i ∧ i < start + w := by
    apply window
    intro agree
    rw [difference, agree, Bool.xor_self] at set
    cases set
  exact run_zero_ne_zero poly top inside nonzero zero

end ShiftRegister
