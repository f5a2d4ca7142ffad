import V4l2Capture.Library.CyclicCode
import V4l2Capture.Protocol.Validation

/-!
# The checksum as a shift register

The bitwise loop of `computeCrc32` feeds the bits of the payload, lowest bit of each byte
first, into the register with the reflected CRC-32 polynomial. So the facts about shift
registers are facts about the checksum: a burst of at most 32 bits changes it, and the value is
the remainder of the division that defines the standard CRC-32.
-/
namespace V4l2Capture.Protocol

open ShiftRegister

def crcPolynomial : BitVec 32 := 0xEDB88320#32

/-- The bits of a byte, lowest first. -/
def byteBits (byte : UInt8) : List Bool :=
  (List.range 8).map byte.toNat.testBit

def payloadBits (data : List UInt8) : List Bool :=
  data.flatMap byteBits

@[simp] theorem byteBits_length (byte : UInt8) : (byteBits byte).length = 8 := by
  simp [byteBits]

theorem payloadBits_cons (byte : UInt8) (data : List UInt8) :
    payloadBits (byte :: data) = byteBits byte ++ payloadBits data :=
  List.flatMap_cons

/-- Bit `j` of byte `i` has the position `8 * i + j`. -/
def payloadBit (data : List UInt8) (position : Nat) : Bool :=
  (data.getD (position / 8) 0).toNat.testBit (position % 8)

/-! ### The loops of the source -/

theorem and_one_cases (crc : UInt32) :
    crc &&& 1 = if crc.toBitVec.getLsbD 0 then 1 else 0 := by
  apply UInt32.toBitVec_inj.mp
  rw [UInt32.toBitVec_and]
  have low : crc.toBitVec &&& (1 : UInt32).toBitVec =
      BitVec.setWidth 32 (BitVec.ofBool (crc.toBitVec.getLsbD 0)) :=
    BitVec.and_one_eq_setWidth_ofBool_getLsbD
  rw [low]
  cases crc.toBitVec.getLsbD 0 <;> rfl

theorem crcBit_toBitVec (crc : UInt32) :
    (crcBit crc).toBitVec = shift crcPolynomial crc.toBitVec := by
  rw [crcBit, and_one_cases, shift]
  -- The mask selects the whole polynomial or nothing.
  cases crc.toBitVec.getLsbD 0 with
  | false => simp
  | true => simp [crcPolynomial]

theorem crcBits_toBitVec (n : Nat) (crc : UInt32) :
    ((List.range n).foldl (fun crc _ => crcBit crc) crc).toBitVec =
      shifts crcPolynomial n crc.toBitVec := by
  induction n generalizing crc with
  | zero => rfl
  | succ n ih =>
    rw [List.range_succ_eq_map, List.foldl_cons, List.foldl_map, ih, crcBit_toBitVec, shifts]

theorem byteBits_getD (byte : UInt8) (i : Nat) :
    (byteBits byte).getD i false = byte.toNat.testBit i := by
  by_cases bound : i < 8
  · rw [List.getD_eq_getElem _ _ (by simpa [byteBits] using bound)]
    simp [byteBits]
  · have small : byte.toNat < 2 ^ i :=
      lt_of_lt_of_le byte.toNat_lt (Nat.pow_le_pow_right (by omega) (by omega))
    rw [List.getD_eq_default _ _ (by simp [byteBits]; omega), Nat.testBit_lt_two_pow small]

theorem ofBits_byteBits (byte : UInt8) :
    (ofBits (byteBits byte) : BitVec 32) = byte.toUInt32.toBitVec := by
  apply BitVec.eq_of_getLsbD_eq
  intro i bound
  rw [getLsbD_ofBits _ _ bound, byteBits_getD]
  simp [BitVec.getLsbD]

theorem crcByte_toBitVec (crc : UInt32) (byte : UInt8) :
    (crcByte crc byte).toBitVec = run crcPolynomial crc.toBitVec (byteBits byte) := by
  have short : (byteBits byte).length ≤ 32 := by simp
  rw [crcByte, crcBits_toBitVec, UInt32.toBitVec_xor, run_eq_shifts _ _ short, ofBits_byteBits,
    byteBits_length]

theorem crcBytes_toBitVec (data : List UInt8) (crc : UInt32) :
    (data.foldl crcByte crc).toBitVec = run crcPolynomial crc.toBitVec (payloadBits data) := by
  induction data generalizing crc with
  | nil => rfl
  | cons byte data ih =>
    rw [List.foldl_cons, ih, crcByte_toBitVec, payloadBits_cons, run_append]

/-! ### Bursts -/

theorem payloadBits_length (data : List UInt8) : (payloadBits data).length = 8 * data.length := by
  induction data with
  | nil => rfl
  | cons byte data ih =>
    rw [payloadBits_cons, List.length_append, ih, byteBits_length, List.length_cons]
    omega

theorem payloadBits_getD (data : List UInt8) (position : Nat) :
    (payloadBits data).getD position false = payloadBit data position := by
  induction data generalizing position with
  | nil => simp [payloadBits, payloadBit]
  | cons byte data ih =>
    have size := byteBits_length byte
    rw [payloadBits_cons]
    by_cases first : position < 8
    · rw [List.getD_append _ _ _ _ (by omega), byteBits_getD, payloadBit,
        Nat.div_eq_of_lt first, Nat.mod_eq_of_lt first]
      rfl
    · obtain ⟨later, rfl⟩ : ∃ later, position = later + 8 := ⟨position - 8, by omega⟩
      rw [List.getD_append_right _ _ _ _ (by omega), size, Nat.add_sub_cancel, ih, payloadBit,
        payloadBit, Nat.add_div_right _ (by omega), Nat.add_mod_right]
      rfl

/-- The bits of a payload determine it. -/
theorem payloadBits_injective {sent received : List UInt8}
    (same : payloadBits sent = payloadBits received) : sent = received := by
  have lengths := congrArg List.length same
  rw [payloadBits_length, payloadBits_length] at lengths
  apply List.ext_getElem (by omega)
  intro i bound bound'
  apply UInt8.toNat_inj.mp
  apply Nat.eq_of_testBit_eq
  intro j
  by_cases small : j < 8
  · have bit := congrArg (fun bits => bits.getD (j + 8 * i) false) same
    simp only [payloadBits_getD, payloadBit] at bit
    rw [Nat.add_mul_div_left _ _ (by omega), Nat.div_eq_of_lt small, Nat.zero_add,
      Nat.add_mul_mod_self_left, Nat.mod_eq_of_lt small, List.getD_eq_getElem _ _ bound,
      List.getD_eq_getElem _ _ bound'] at bit
    exact bit
  · have wide : 2 ^ 8 ≤ 2 ^ j := Nat.pow_le_pow_right (by omega) (by omega)
    rw [Nat.testBit_lt_two_pow (lt_of_lt_of_le (UInt8.toNat_lt _) wide),
      Nat.testBit_lt_two_pow (lt_of_lt_of_le (UInt8.toNat_lt _) wide)]

/-- Two payloads of one length that differ, and only within 32 consecutive bit positions. -/
structure BurstError (sent received : List UInt8) (start : Nat) : Prop where
  length : sent.length = received.length
  differ : sent ≠ received
  window : ∀ position, payloadBit sent position ≠ payloadBit received position →
    start ≤ position ∧ position < start + 32

theorem BurstError.computeCrc32_ne {sent received : List UInt8} {start : Nat}
    (burst : BurstError sent received start) : computeCrc32 sent ≠ computeCrc32 received := by
  intro equal
  rw [computeCrc32, computeCrc32] at equal
  have registers := congrArg UInt32.toBitVec (UInt32.not_inj.mp equal)
  rw [crcBytes_toBitVec, crcBytes_toBitVec] at registers
  have lengths : (payloadBits sent).length = (payloadBits received).length := by
    rw [payloadBits_length, payloadBits_length, burst.length]
  have differ : payloadBits sent ≠ payloadBits received := fun same =>
    burst.differ (payloadBits_injective same)
  have top : crcPolynomial.getLsbD (32 - 1) = true := by decide
  have window (position : Nat) (unequal : (payloadBits sent).getD position false ≠
      (payloadBits received).getD position false) :
      start ≤ position ∧ position < start + 32 := by
    rw [payloadBits_getD, payloadBits_getD] at unequal
    exact burst.window position unequal
  exact run_ne_of_window crcPolynomial top _ lengths differ window registers

/-! ### The standard checksum -/

/-- CRC-32 (ISO-HDLC). -/
def isoHdlc : CyclicCode.Parameters 32 where
  poly := 0x04C11DB7#32
  init := 0xFFFFFFFF#32
  reflectIn := true
  reflectOut := true
  xorOut := 0xFFFFFFFF#32

theorem isoHdlc_byteBits (byte : UInt8) : isoHdlc.byteBits byte = byteBits byte :=
  rfl

/-- The field can be checked by any implementation of the standard. -/
theorem computeCrc32_isoHdlc (data : List UInt8) :
    (computeCrc32 data).toBitVec = isoHdlc.checksum data := by
  have reflected : crcPolynomial = (0x04C11DB7#32).reverse := by decide +kernel
  have ones : (0xFFFFFFFF : UInt32).toBitVec = (0xFFFFFFFF#32).reverse := by decide +kernel
  have order : data.flatMap isoHdlc.byteBits = payloadBits data :=
    congrArg (data.flatMap ·) (funext isoHdlc_byteBits)
  rw [computeCrc32, UInt32.toBitVec_not, crcBytes_toBitVec, reflected, ones,
    ← CyclicCode.run_eq_remainder (by decide), CyclicCode.Parameters.checksum, order]
  simp only [isoHdlc, if_true]
  exact BitVec.xor_allOnes.symm

end V4l2Capture.Protocol
