import V4l2Capture.Protocol.FrameHeader
import Mathlib.Data.Nat.Basic

/-!
# Payload checksum and header validation

`computeCrc32` is the bitwise loop of the header file. `validateHeader` returns the
reason of the first check that fails, in the order of the source;
`validateHeader_ok_iff` lists what an accepted header satisfies, with the YUYV
payload size in exact arithmetic.
-/
namespace V4l2Capture.Protocol

/-- One round of the inner loop over the bits of a byte. -/
def crcBit (crc : UInt32) : UInt32 :=
  -- All ones when the low bit is set, zero otherwise.
  let mask := 0 - (crc &&& 1)
  (crc >>> 1) ^^^ (0xEDB88320 &&& mask)

def crcByte (crc : UInt32) (byte : UInt8) : UInt32 :=
  (List.range 8).foldl (fun crc _ => crcBit crc) (crc ^^^ byte.toUInt32)

def computeCrc32 (data : List UInt8) : UInt32 :=
  ~~~(data.foldl crcByte 0xFFFFFFFF)

-- The check value of the CRC-32 catalogues.
example : computeCrc32 [0x31, 0x32, 0x33, 0x34, 0x35, 0x36, 0x37, 0x38, 0x39] = 0xCBF43926 := by
  decide +kernel

/-- The part of `validate_header` that applies to YUYV frames only. -/
def validateYuyv (header : FrameHeader) : Except String Unit :=
  -- Two pixels share their chroma samples.
  if header.width % 2 ≠ 0 then .error "YUYV width must be even"
  else
    let expected : UInt64 := header.width.toUInt64 * header.height.toUInt64 * 2
    if expected > 0xFFFFFFFF then .error "YUYV payload size overflows protocol field"
    else if header.payloadSize ≠ expected.toUInt32 then
      .error ("YUYV payload size mismatch: got=" ++ toString header.payloadSize ++
        ", expected=" ++ toString expected)
    else .ok ()

def validateHeader (header : FrameHeader) (maxPayloadBytes : UInt32) : Except String Unit :=
  if maxPayloadBytes = 0 then .error "receiver max payload must be positive"
  else if header.magic ≠ kMagic then .error "invalid magic"
  else if header.headerSize.toNat ≠ kWireHeaderSize then
    .error ("unsupported header size: " ++ toString header.headerSize)
  else if header.version ≠ kVersion then
    .error ("unsupported protocol version: " ++ toString header.version)
  else if header.captureTimestampNs = 0 then .error "zero capture timestamp"
  else if header.width = 0 ∨ header.height = 0 then .error "zero width or height"
  else if header.width > kMaxDimension ∨ header.height > kMaxDimension then
    .error "frame dimension exceeds limit"
  else if header.pixelFormat = 0 then .error "missing pixel format"
  else if header.payloadSize = 0 then .error "zero payload size"
  else if header.payloadSize > maxPayloadBytes then
    .error ("payload size " ++ toString header.payloadSize ++ " exceeds receiver limit " ++
      toString maxPayloadBytes)
  else if header.pixelFormat = V4L2_PIX_FMT_YUYV then validateYuyv header
  else .ok ()

theorem guard_ok_iff {c : Prop} [Decidable c] (reason : String) (next : Except String Unit) :
    (if c then .error reason else next) = .ok () ↔ ¬ c ∧ next = .ok () := by
  by_cases h : c <;> simp [h]

/-- Below the dimension limit the 64-bit product of the size check is exact. -/
theorem yuyv_expected_toNat (width height : UInt32)
    (hw : width ≤ kMaxDimension) (hh : height ≤ kMaxDimension) :
    (width.toUInt64 * height.toUInt64 * 2).toNat = width.toNat * height.toNat * 2 ∧
      width.toNat * height.toNat * 2 ≤ 2 ^ 29 := by
  have hw' : width.toNat ≤ 16384 := hw
  have hh' : height.toNat ≤ 16384 := hh
  have area : width.toNat * height.toNat ≤ 16384 * 16384 := Nat.mul_le_mul hw' hh'
  constructor
  · rw [UInt64.toNat_mul, UInt64.toNat_mul, UInt32.toNat_toUInt64, UInt32.toNat_toUInt64,
      Nat.mod_eq_of_lt (a := width.toNat * height.toNat) (by omega)]
    exact Nat.mod_eq_of_lt (by simp; omega)
  · omega

theorem validateYuyv_ok_iff (header : FrameHeader)
    (hw : header.width ≤ kMaxDimension) (hh : header.height ≤ kMaxDimension) :
    validateYuyv header = .ok () ↔ header.width.toNat % 2 = 0 ∧
      header.payloadSize.toNat = header.width.toNat * header.height.toNat * 2 := by
  obtain ⟨exact, small⟩ := yuyv_expected_toNat header.width header.height hw hh
  have even : ¬ header.width % 2 ≠ 0 ↔ header.width.toNat % 2 = 0 := by
    rw [not_not, ← UInt32.toNat_inj, UInt32.toNat_mod]
    rfl
  -- The overflow check never fires behind the dimension check.
  have fits : ¬ header.width.toUInt64 * header.height.toUInt64 * 2 > 0xFFFFFFFF := by
    rw [gt_iff_lt, UInt64.lt_iff_toNat_lt, exact]
    simp
    omega
  have same : ¬ header.payloadSize ≠ (header.width.toUInt64 * header.height.toUInt64 * 2).toUInt32 ↔
      header.payloadSize.toNat = header.width.toNat * header.height.toNat * 2 := by
    rw [not_not, ← UInt32.toNat_inj, UInt64.toNat_toUInt32, exact, Nat.mod_eq_of_lt (by omega)]
  simp only [validateYuyv, guard_ok_iff, even, same, fits, not_false_eq_true, true_and, and_true]

/-- What an accepted header satisfies, check by check. -/
structure HeaderAccepted (header : FrameHeader) (maxPayloadBytes : UInt32) : Prop where
  magic : header.magic = kMagic
  headerSize : header.headerSize.toNat = kWireHeaderSize
  version : header.version = kVersion
  timestamp : header.captureTimestampNs ≠ 0
  nonzero : header.width ≠ 0 ∧ header.height ≠ 0
  bounded : header.width ≤ kMaxDimension ∧ header.height ≤ kMaxDimension
  format : header.pixelFormat ≠ 0
  payload : header.payloadSize ≠ 0 ∧ header.payloadSize ≤ maxPayloadBytes
  yuyv : header.pixelFormat = V4L2_PIX_FMT_YUYV → header.width.toNat % 2 = 0 ∧
    header.payloadSize.toNat = header.width.toNat * header.height.toNat * 2

theorem validateHeader_ok_iff (header : FrameHeader) (maxPayloadBytes : UInt32) :
    validateHeader header maxPayloadBytes = .ok () ↔ HeaderAccepted header maxPayloadBytes := by
  simp only [validateHeader, guard_ok_iff, not_or, not_not]
  constructor
  · rintro ⟨_, magic, headerSize, version, timestamp, nonzero, ⟨hw, hh⟩, format, positive, limit,
      last⟩
    have bounded : header.width ≤ kMaxDimension ∧ header.height ≤ kMaxDimension :=
      ⟨UInt32.not_lt.mp hw, UInt32.not_lt.mp hh⟩
    refine ⟨magic, headerSize, version, timestamp, nonzero, bounded, format,
      ⟨positive, UInt32.not_lt.mp limit⟩, fun yuyv => ?_⟩
    rw [if_pos yuyv] at last
    exact (validateYuyv_ok_iff header bounded.1 bounded.2).mp last
  · intro accepted
    obtain ⟨magic, headerSize, version, timestamp, nonzero, bounded, format, payload, yuyv⟩ :=
      accepted
    -- A positive payload size within the limit: the first check passes too.
    have room : maxPayloadBytes ≠ 0 := by
      intro zero
      subst zero
      exact payload.1 (UInt32.le_zero_iff.mp payload.2)
    refine ⟨room, magic, headerSize, version, timestamp, nonzero,
      ⟨UInt32.not_lt.mpr bounded.1, UInt32.not_lt.mpr bounded.2⟩, format, payload.1,
      UInt32.not_lt.mpr payload.2, ?_⟩
    split
    next isYuyv => exact (validateYuyv_ok_iff header bounded.1 bounded.2).mpr (yuyv isYuyv)
    next => rfl

end V4l2Capture.Protocol
