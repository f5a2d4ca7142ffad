import Mathlib.Data.Nat.Digits.Lemmas
import Mathlib.Data.Rat.Floor
import Mathlib.Tactic.FieldSimp

/-!
# Decimal numerals as bytes

`decimal` prints a natural number and `fixedPoint` an exact rational with a fixed number of
places, as output streams do: rounded to the nearest, and in a tie to the even one.
`valueOf` reads digits by their positions.
-/
namespace Decimals

def digitByte (d : Nat) : UInt8 := UInt8.ofNat (0x30 + d)

def isDigit (b : UInt8) : Bool := 0x30 ≤ b && b ≤ 0x39

def digitValue (b : UInt8) : Nat := b.toNat - 0x30

def valueOf (digits : List UInt8) : Nat :=
  Nat.ofDigits 10 (digits.reverse.map digitValue)

def decimal (n : Nat) : List UInt8 :=
  if n = 0 then [digitByte 0] else (Nat.digits 10 n).reverse.map digitByte

def integer (n : Int) : List UInt8 :=
  if n < 0 then 0x2D :: decimal n.natAbs else decimal n.natAbs

/-- The last digits of a number, with zeros in front where it has fewer. -/
def padded : Nat → Nat → List UInt8
  | 0, _ => []
  | places + 1, n => padded places (n / 10) ++ [digitByte (n % 10)]

def roundHalfEven (q : ℚ) : Nat :=
  let n := ⌊q⌋₊
  if q - n < 1 / 2 ∨ q - n = 1 / 2 ∧ n % 2 = 0 then n else n + 1

/-- How many units of the last place are printed. -/
def units (places : Nat) (q : ℚ) : Nat := roundHalfEven (|q| * 10 ^ places)

def fixedPoint (places : Nat) (q : ℚ) : List UInt8 :=
  (if q < 0 then [0x2D] else []) ++
    (decimal (units places q / 10 ^ places) ++ 0x2E :: padded places (units places q))

/-- The number that `fixedPoint` prints. -/
def fixedValue (places : Nat) (q : ℚ) : ℚ :=
  (if q < 0 then -1 else 1) * ((units places q : ℚ) / 10 ^ places)

example : fixedPoint 3 (-5 / 2000) = "-0.002".toUTF8.toList := by decide +kernel

/-! ### Digits -/

theorem digitByte_spec : ∀ d < 10, isDigit (digitByte d) = true ∧ digitValue (digitByte d) = d := by
  decide

theorem valueOf_append (front behind : List UInt8) :
    valueOf (front ++ behind) = valueOf front * 10 ^ behind.length + valueOf behind := by
  rw [valueOf, List.reverse_append, List.map_append, Nat.ofDigits_append, List.length_map,
    List.length_reverse, ← valueOf, ← valueOf]
  ring

@[simp] theorem padded_length (places n : Nat) : (padded places n).length = places := by
  induction places generalizing n with
  | zero => rfl
  | succ places ih => rw [padded, List.length_append, ih, List.length_singleton]

theorem padded_digits (places n : Nat) : ∀ b ∈ padded places n, isDigit b = true := by
  induction places generalizing n with
  | zero => simp [padded]
  | succ places ih =>
    intro b member
    rcases List.mem_append.mp member with front | last
    · exact ih (n / 10) b front
    · rw [List.mem_singleton.mp last]
      exact (digitByte_spec _ (Nat.mod_lt n (by decide))).1

theorem valueOf_padded (places n : Nat) : valueOf (padded places n) = n % 10 ^ places := by
  induction places generalizing n with
  | zero => rw [pow_zero, Nat.mod_one]; rfl
  | succ places ih =>
    have last : valueOf [digitByte (n % 10)] = n % 10 := by
      have digit := (digitByte_spec _ (Nat.mod_lt n (by decide))).2
      simp [valueOf, digit]
    rw [padded, valueOf_append, ih, last, List.length_singleton, pow_one, pow_succ,
      Nat.mul_comm (10 ^ places) 10, Nat.mod_mul]
    ring

theorem decimal_digits (n : Nat) : ∀ b ∈ decimal n, isDigit b = true := by
  intro b member
  rw [decimal] at member
  split at member
  · rw [List.mem_singleton.mp member]
    decide
  · obtain ⟨d, digit, rfl⟩ := List.mem_map.mp member
    exact (digitByte_spec d (Nat.digits_lt_base (by decide) (List.mem_reverse.mp digit))).1

theorem decimal_ne_nil (n : Nat) : decimal n ≠ [] := by
  rw [decimal]
  split
  · simp
  next positive => simp [Nat.digits_ne_nil_iff_ne_zero.mpr positive]

theorem valueOf_decimal (n : Nat) : valueOf (decimal n) = n := by
  rw [decimal]
  split
  next zero => rw [zero]; rfl
  · have digits : ((Nat.digits 10 n).map digitByte).map digitValue = Nat.digits 10 n := by
      rw [List.map_map]
      refine (List.map_congr_left fun d digit => ?_).trans (List.map_id _)
      exact (digitByte_spec d (Nat.digits_lt_base (by decide) digit)).2
    rw [valueOf, ← List.map_reverse, List.reverse_reverse, digits, Nat.ofDigits_digits]

/-- No zero stands in front of other digits. -/
theorem decimal_head {n : Nat} (zero : (decimal n).head? = some (digitByte 0)) :
    decimal n = [digitByte 0] := by
  rw [decimal] at zero ⊢
  split at zero
  next none => rw [if_pos none]
  next positive =>
    exfalso
    rw [List.map_reverse, List.head?_reverse, List.getLast?_map] at zero
    obtain ⟨last, there, same⟩ := Option.map_eq_some_iff.mp zero
    have digit := Nat.digits_lt_base (by decide) (List.mem_of_getLast? there)
    have value := (digitByte_spec last digit).2
    rw [same, (digitByte_spec 0 (by decide)).2] at value
    rw [List.getLast?_eq_some_getLast (Nat.digits_ne_nil_iff_ne_zero.mpr positive)] at there
    exact Nat.getLast_digit_ne_zero 10 positive ((Option.some.inj there).trans value.symm)

theorem valueOf_parts (places n : Nat) :
    valueOf (decimal (n / 10 ^ places) ++ padded places n) = n := by
  rw [valueOf_append, valueOf_decimal, valueOf_padded, padded_length, Nat.mul_comm]
  exact Nat.div_add_mod n (10 ^ places)

/-! ### Rounding -/

theorem abs_roundHalfEven_sub_le {q : ℚ} (nonneg : 0 ≤ q) :
    |(roundHalfEven q : ℚ) - q| ≤ 1 / 2 := by
  have below := Nat.floor_le nonneg
  have above := Nat.lt_floor_add_one q
  rw [roundHalfEven, abs_le]
  split
  next down =>
    have half : q - ⌊q⌋₊ ≤ 1 / 2 := by
      rcases down with less | tie
      · exact less.le
      · exact tie.1.le
    constructor <;> linarith
  next up =>
    have half : 1 / 2 ≤ q - ⌊q⌋₊ := by
      by_contra less
      exact up (.inl (not_le.mp less))
    push_cast
    constructor <;> linarith

theorem roundHalfEven_mono {q r : ℚ} (le : q ≤ r) :
    roundHalfEven q ≤ roundHalfEven r := by
  have most : ∀ x : ℚ, roundHalfEven x ≤ ⌊x⌋₊ + 1 := by
    intro x
    rw [roundHalfEven]
    split <;> omega
  have least : ∀ x : ℚ, ⌊x⌋₊ ≤ roundHalfEven x := by
    intro x
    rw [roundHalfEven]
    split <;> omega
  rcases Nat.lt_or_eq_of_le (Nat.floor_le_floor le) with less | same
  · exact (most q).trans (Nat.succ_le_of_lt less |>.trans (least r))
  -- Between the same two numbers, only the distance decides, and the parity in a tie.
  · rw [roundHalfEven, roundHalfEven, ← same]
    split
    · split <;> omega
    next up =>
      rw [if_neg]
      rintro (down | ⟨tie, even⟩)
      · exact up (.inl (by linarith))
      · rcases lt_or_eq_of_le (show q - ⌊q⌋₊ ≤ 1 / 2 by linarith) with half | half
        · exact up (.inl half)
        · exact up (.inr ⟨half, even⟩)

/-- Printing keeps the order. -/
theorem fixedValue_mono (places : Nat) {q r : ℚ} (le : q ≤ r) :
    fixedValue places q ≤ fixedValue places r := by
  have scale : (0 : ℚ) < 10 ^ places := by positivity
  have part : ∀ {x y : ℚ}, abs x ≤ abs y →
      (units places x : ℚ) / 10 ^ places ≤ (units places y : ℚ) / 10 ^ places := by
    intro x y smaller
    have rounded : units places x ≤ units places y :=
      roundHalfEven_mono (by gcongr)
    gcongr
  have nonneg : ∀ x : ℚ, 0 ≤ (units places x : ℚ) / 10 ^ places := fun x => by positivity
  rw [fixedValue, fixedValue]
  split
  next negative =>
    split
    next both =>
      have magnitude : abs r ≤ abs q := by
        rw [abs_of_neg both, abs_of_neg negative]
        linarith
      have := part magnitude
      linarith
    · have := nonneg q
      have := nonneg r
      linarith
  next positive =>
    rw [if_neg (by linarith), one_mul, one_mul]
    refine part ?_
    rw [abs_of_nonneg (not_lt.mp positive), abs_of_nonneg (by linarith)]
    exact le

/-- What is printed is off by half a unit of the last place at most. -/
theorem abs_fixedValue_sub_le (places : Nat) (q : ℚ) :
    |fixedValue places q - q| ≤ 1 / (2 * 10 ^ places) := by
  have scale : (0 : ℚ) < 10 ^ places := by positivity
  have rounded := abs_roundHalfEven_sub_le (q := |q| * 10 ^ places) (by positivity)
  rw [← units] at rounded
  have magnitude : |(units places q : ℚ) / 10 ^ places - abs q| ≤ 1 / (2 * 10 ^ places) := by
    have scaled : (units places q : ℚ) / 10 ^ places - abs q =
        ((units places q : ℚ) - abs q * 10 ^ places) / 10 ^ places := by
      field_simp
    calc |(units places q : ℚ) / 10 ^ places - abs q|
        = |(units places q : ℚ) - abs q * 10 ^ places| / 10 ^ places := by
          rw [scaled, abs_div, abs_of_pos scale]
      _ ≤ 1 / 2 / 10 ^ places := by gcongr
      _ = 1 / (2 * 10 ^ places) := by rw [div_div]
  rw [fixedValue]
  split
  next negative =>
    rw [abs_of_neg negative] at magnitude
    rw [← abs_neg]
    convert magnitude using 2
    ring
  next nonneg =>
    rw [abs_of_nonneg (not_lt.mp nonneg)] at magnitude
    rwa [one_mul]

end Decimals
