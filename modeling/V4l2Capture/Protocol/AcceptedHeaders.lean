import V4l2Capture.Protocol.Validation
import Mathlib.Data.Set.Basic

/-!
# The wire headers a receiver accepts

A receiver decodes 44 bytes and validates the result. `acceptedWires` describes the
accepted byte strings without reference to either function, as the wire forms of the
headers that `makeHeader` builds from valid parameters.
-/
namespace V4l2Capture.Protocol

/-- The arguments of `make_header`. -/
structure HeaderParameters where
  frameId : UInt64
  captureTimestampNs : UInt64
  width : UInt32
  height : UInt32
  pixelFormat : UInt32
  payloadSize : UInt32
  payloadCrc32 : UInt32
  deriving DecidableEq, Repr

def HeaderParameters.header (p : HeaderParameters) : FrameHeader :=
  makeHeader p.frameId p.captureTimestampNs p.width p.height p.pixelFormat p.payloadSize
    p.payloadCrc32

/-- The parameters of a frame that fits the protocol and the limit; all arithmetic is exact. -/
structure HeaderParameters.Valid (p : HeaderParameters) (limit : UInt32) : Prop where
  timestamp : p.captureTimestampNs ≠ 0
  width : 1 ≤ p.width.toNat ∧ p.width.toNat ≤ 16384
  height : 1 ≤ p.height.toNat ∧ p.height.toNat ≤ 16384
  format : p.pixelFormat ≠ 0
  payload : 1 ≤ p.payloadSize.toNat ∧ p.payloadSize.toNat ≤ limit.toNat
  yuyv : p.pixelFormat = V4L2_PIX_FMT_YUYV → Even p.width.toNat ∧
    p.payloadSize.toNat = 2 * p.width.toNat * p.height.toNat

def acceptedWires (limit : UInt32) : Set WireHeader :=
  {wire | ∃ p : HeaderParameters, p.Valid limit ∧ wire = serializeHeader p.header}

/-- What the receivers require of 44 bytes; `old` is the caller's header before the call. -/
def DecodesAndValidates (limit : UInt32) (old : FrameHeader) (wire : WireHeader) : Prop :=
  (deserializeHeader wire old).ok = true ∧
    validateHeader (deserializeHeader wire old).header limit = .ok ()

instance (limit : UInt32) (old : FrameHeader) (wire : WireHeader) :
    Decidable (DecodesAndValidates limit old wire) :=
  inferInstanceAs (Decidable (_ ∧ _))

/-! ### Accepted headers come from valid parameters -/

/-- The parameters that a header carries. -/
def FrameHeader.parameters (header : FrameHeader) : HeaderParameters where
  frameId := header.frameId
  captureTimestampNs := header.captureTimestampNs
  width := header.width
  height := header.height
  pixelFormat := header.pixelFormat
  payloadSize := header.payloadSize
  payloadCrc32 := header.payloadCrc32

@[simp] theorem HeaderParameters.parameters_header (p : HeaderParameters) :
    p.header.parameters = p := rfl

/-- A header with the three fixed fields is the one its parameters build. -/
theorem HeaderAccepted.header_parameters {header : FrameHeader} {limit : UInt32}
    (accepted : HeaderAccepted header limit) : header.parameters.header = header := by
  have size : UInt16.ofNat kWireHeaderSize = header.headerSize := by
    rw [← accepted.headerSize, UInt16.ofNat_toNat]
  simp only [HeaderParameters.header, FrameHeader.parameters, makeHeader, size,
    ← accepted.magic, ← accepted.version]

theorem one_le_toNat_iff (value : UInt32) : 1 ≤ value.toNat ↔ value ≠ 0 := by
  rw [Nat.one_le_iff_ne_zero, ne_eq, ne_eq, ← UInt32.toNat_inj]
  rfl

/-- For a header built from parameters the checks are exactly their validity. -/
theorem accepted_header_iff (p : HeaderParameters) (limit : UInt32) :
    HeaderAccepted p.header limit ↔ p.Valid limit := by
  have area : p.width.toNat * p.height.toNat * 2 = 2 * p.width.toNat * p.height.toNat := by
    rw [Nat.mul_comm _ 2, Nat.mul_assoc]
  constructor
  · intro accepted
    obtain ⟨_, _, _, timestamp, nonzero, bounded, format, payload, yuyv⟩ := accepted
    refine ⟨timestamp, ⟨(one_le_toNat_iff _).mpr nonzero.1, bounded.1⟩,
      ⟨(one_le_toNat_iff _).mpr nonzero.2, bounded.2⟩, format,
      ⟨(one_le_toNat_iff _).mpr payload.1, payload.2⟩, ?_⟩
    intro isYuyv
    have sizes := yuyv isYuyv
    exact ⟨Nat.even_iff.mpr sizes.1, sizes.2.trans area⟩
  · intro valid
    obtain ⟨timestamp, width, height, format, payload, yuyv⟩ := valid
    have nonzero : p.width ≠ 0 ∧ p.height ≠ 0 :=
      ⟨(one_le_toNat_iff _).mp width.1, (one_le_toNat_iff _).mp height.1⟩
    refine ⟨rfl, rfl, rfl, timestamp, nonzero, ⟨width.2, height.2⟩, format,
      ⟨(one_le_toNat_iff _).mp payload.1, payload.2⟩, ?_⟩
    intro isYuyv
    have sizes := yuyv isYuyv
    exact ⟨Nat.even_iff.mp sizes.1, sizes.2.trans area.symm⟩

theorem decodesAndValidates_iff (limit : UInt32) (old : FrameHeader) (wire : WireHeader) :
    DecodesAndValidates limit old wire ↔ wire ∈ acceptedWires limit := by
  constructor
  · rintro ⟨_, validated⟩
    -- The decoded header passes every check, so its own parameters witness membership.
    have accepted := (validateHeader_ok_iff _ _).mp validated
    have whole := accepted.header_parameters
    refine ⟨(deserializeHeader wire old).header.parameters, ?_, ?_⟩
    · apply (accepted_header_iff _ _).mp
      rw [whole]
      exact accepted
    · rw [whole, (deserializeHeader_inverse wire old).2]
  · rintro ⟨p, valid, rfl⟩
    rw [DecodesAndValidates, deserializeHeader_serializeHeader]
    refine ⟨rfl, ?_⟩
    apply (validateHeader_ok_iff _ _).mpr
    exact (accepted_header_iff p limit).mpr valid

theorem HeaderParameters.Valid.mono {p : HeaderParameters} {small large : UInt32}
    (valid : p.Valid small) (grows : small ≤ large) : p.Valid large :=
  { valid with payload := ⟨valid.payload.1, le_trans valid.payload.2 grows⟩ }

theorem acceptedWires_subset {small large : UInt32} (grows : small ≤ large) :
    acceptedWires small ⊆ acceptedWires large := by
  rintro wire ⟨p, valid, rfl⟩
  exact ⟨p, valid.mono grows, rfl⟩

/-- The accepted language: exactly the wire forms of valid parameters, and more of them
under a larger limit. -/
theorem wire_accepted_iff :
    (∀ (limit : UInt32) (old : FrameHeader) (wire : WireHeader),
      DecodesAndValidates limit old wire ↔ ∃ p : HeaderParameters, p.Valid limit ∧
        wire = serializeHeader (makeHeader p.frameId p.captureTimestampNs p.width p.height
          p.pixelFormat p.payloadSize p.payloadCrc32)) ∧
    ∀ (small large : UInt32) (old : FrameHeader), small ≤ large →
      {wire | DecodesAndValidates small old wire} ⊆
        {wire | DecodesAndValidates large old wire} := by
  constructor
  · intro limit old wire
    exact decodesAndValidates_iff limit old wire
  · intro small large old grows wire accepted
    apply (decodesAndValidates_iff large old wire).mpr
    apply acceptedWires_subset grows
    exact (decodesAndValidates_iff small old wire).mp accepted

end V4l2Capture.Protocol
