import Mathlib.Data.List.Basic
import Mathlib.Tactic.Ring

/-!
# Little-endian byte strings

`bytes k v` lists the `k` low bytes of `v`, least significant first; `value` reads
a byte string back. The two are inverse up to the width. `loopValue` is the usual
accumulation loop (`value |= byte << 8 * i`), which computes `value`.
-/
namespace LittleEndian

/-- The `k` low bytes of `v`, least significant first. -/
def bytes : Nat → Nat → List UInt8
  | 0, _ => []
  | k + 1, v => UInt8.ofNat v :: bytes k (v / 256)

/-- The number whose little-endian bytes are given. -/
def value : List UInt8 → Nat
  | [] => 0
  | b :: bs => b.toNat + 256 * value bs

@[simp] theorem bytes_length (k v : Nat) : (bytes k v).length = k := by
  induction k generalizing v with
  | zero => rfl
  | succ k ih => simp [bytes, ih]

/-- The `i`-th byte is the `i`-th digit to base 256. -/
theorem bytes_getElem? (k v i : Nat) (bound : i < k) :
    (bytes k v)[i]? = some (UInt8.ofNat (v / 256 ^ i)) := by
  induction k generalizing v i with
  | zero => omega
  | succ k ih =>
    cases i with
    | zero => simp [bytes]
    | succ i =>
      simp only [bytes, List.getElem?_cons_succ]
      rw [ih (v / 256) i (by omega), Nat.div_div_eq_div_mul, Nat.pow_succ, Nat.mul_comm]

theorem value_lt (bs : List UInt8) : value bs < 256 ^ bs.length := by
  induction bs with
  | nil => simp [value]
  | cons b bs ih =>
    have hb : b.toNat < 256 := b.toNat_lt
    simp only [value, List.length_cons, Nat.pow_succ]
    omega

theorem value_bytes (k v : Nat) : value (bytes k v) = v % 256 ^ k := by
  induction k generalizing v with
  | zero => simp [bytes, value, Nat.mod_one]
  | succ k ih =>
    simp only [bytes, value, ih, UInt8.toNat_ofNat']
    rw [show 256 ^ (k + 1) = 256 * 256 ^ k by ring, Nat.mod_mul]

theorem value_bytes_of_lt {k v : Nat} (small : v < 256 ^ k) : value (bytes k v) = v := by
  rw [value_bytes, Nat.mod_eq_of_lt small]

theorem bytes_value (bs : List UInt8) : bytes bs.length (value bs) = bs := by
  induction bs with
  | nil => rfl
  | cons b bs ih =>
    have hb : b.toNat < 256 := b.toNat_lt
    -- Division by 256 separates the first byte from the others.
    have low : (b.toNat + 256 * value bs) % 256 = b.toNat := by omega
    have high : (b.toNat + 256 * value bs) / 256 = value bs := by omega
    simp only [List.length_cons, bytes, value, high, ih]
    congr 1
    apply UInt8.toNat_inj.mp
    rw [UInt8.toNat_ofNat', low]

theorem value_append (xs ys : List UInt8) :
    value (xs ++ ys) = value xs + 256 ^ xs.length * value ys := by
  induction xs with
  | nil => simp [value]
  | cons x xs ih =>
    simp only [List.cons_append, value, ih, List.length_cons, Nat.pow_succ]
    ring

/-! ### The loops that write and read -/

/-- The byte that a writing loop stores at index `i`. -/
theorem shift_mask_byte (v i : Nat) :
    UInt8.ofNat ((v >>> (i * 8)) &&& 0xff) = UInt8.ofNat (v / 256 ^ i) := by
  apply UInt8.toNat_inj.mp
  rw [UInt8.toNat_ofNat', UInt8.toNat_ofNat', Nat.shiftRight_eq_div_pow]
  have mask : (v / 2 ^ (i * 8)) &&& 0xff = v / 2 ^ (i * 8) % 256 :=
    Nat.and_two_pow_sub_one_eq_mod _ 8
  rw [mask, Nat.mul_comm i 8, Nat.pow_mul]
  simp

/-- Reading loop: `value |= byte << 8 * i` for each index in turn. -/
def loopValue (bs : List UInt8) : Nat :=
  (List.range bs.length).foldl (fun acc i => acc ||| ((bs.getD i 0).toNat <<< (i * 8))) 0

theorem loop_prefix (bs : List UInt8) (n : Nat) (bound : n ≤ bs.length) :
    (List.range n).foldl (fun acc i => acc ||| ((bs.getD i 0).toNat <<< (i * 8))) 0 =
      value (bs.take n) := by
  induction n with
  | zero => simp [value]
  | succ n ih =>
    have here : n < bs.length := by omega
    have last : bs.take (n + 1) = bs.take n ++ [bs[n]] := (List.take_append_getElem here).symm
    -- After `n` rounds the accumulator holds `n` bytes.
    have small : value (bs.take n) < 2 ^ (n * 8) := by
      have bound := value_lt (bs.take n)
      rw [List.length_take, Nat.min_eq_left (by omega)] at bound
      rw [Nat.mul_comm, Nat.pow_mul]
      exact bound
    rw [List.range_succ, List.foldl_append, ih (by omega), last, value_append]
    simp only [List.foldl_cons, List.foldl_nil, List.length_take, value]
    rw [Nat.min_eq_left (by omega), List.getD_eq_getElem?_getD, List.getElem?_eq_getElem here,
      Option.getD_some, Nat.or_comm]
    -- The bits of the new byte lie above all bits read so far, so the `or` is a sum.
    rw [← Nat.shiftLeft_add_eq_or_of_lt small, Nat.shiftLeft_eq, Nat.mul_comm n 8, Nat.pow_mul]
    ring

theorem loopValue_eq (bs : List UInt8) : loopValue bs = value bs := by
  rw [loopValue, loop_prefix bs bs.length (Nat.le_refl _), List.take_length]

end LittleEndian
