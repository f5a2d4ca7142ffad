import V4l2Capture.Protocol.Validation

/-!
# Captured frames

`Frame` is what the camera hands to the pipeline. `isFrameUsable` is the filter in front
of the TCP queue and `frameHeader` the header that the sender builds. The two predicates
that a frame passes on its way, the filter of the sender and the validation of a default
receiver, are compared at the end.
-/
namespace V4l2Capture.Pipeline

open Protocol

structure Frame where
  data : List UInt8
  width : UInt32
  height : UInt32
  pixelFormat : UInt32
  bytesused : UInt32
  sequence : UInt32
  bufferIndex : UInt32
  v4l2Flags : UInt32
  captureTimestampNs : UInt64
  /-- A reading of the steady clock, in nanoseconds. -/
  hostReceiveTimeNs : Nat
  deriving DecidableEq, Repr

def V4L2_BUF_FLAG_ERROR : UInt32 := 0x40

/-- `size_t` has 64 bits. -/
def expectedFrameSizeBytes (frame : Frame) : UInt64 :=
  if frame.pixelFormat = V4L2_PIX_FMT_YUYV then frame.width.toUInt64 * frame.height.toUInt64 * 2
  else 0

def hasV4l2BufferError (frame : Frame) : Bool :=
  frame.v4l2Flags &&& V4L2_BUF_FLAG_ERROR ≠ 0

def isIncompleteYuyvFrame (frame : Frame) : Bool :=
  frame.pixelFormat = V4L2_PIX_FMT_YUYV ∧
    frame.data.length < (expectedFrameSizeBytes frame).toNat

/-- The result of `is_frame_usable`, with the reason for `false`. -/
def checkFrameUsable (frame : Frame) : Except String Unit :=
  if hasV4l2BufferError frame then .error "V4L2 buffer marked with V4L2_BUF_FLAG_ERROR"
  else if frame.data.isEmpty then .error "empty frame data"
  else if frame.width = 0 ∨ frame.height = 0 ∨ frame.pixelFormat = 0 then
    .error "unknown frame format or size"
  -- Only too little data is noticed; a frame may carry more than it needs.
  else if isIncompleteYuyvFrame frame then
    .error ("incomplete YUYV frame: got=" ++ toString frame.data.length ++ ", expected=" ++
      toString (expectedFrameSizeBytes frame))
  else .ok ()

def isFrameUsable (frame : Frame) : Bool :=
  (checkFrameUsable frame).isOk

/-- The header of `send_frame_over_tcp`. -/
def frameHeader (frame : Frame) : FrameHeader :=
  makeHeader frame.sequence.toUInt64 frame.captureTimestampNs frame.width frame.height
    frame.pixelFormat (UInt32.ofNat frame.data.length) (computeCrc32 frame.data)

/-- The checks of `send_frame_over_tcp` and the header bytes that it sends first. -/
def wireHeaderToSend (frame : Frame) : Except String WireHeader :=
  if frame.data.length > 0xFFFFFFFF then
    .error "Frame payload is too large for FrameHeader payload_size"
  else if frame.captureTimestampNs = 0 then .error "Frame is missing capture_timestamp_ns"
  else .ok (serializeHeader (frameHeader frame))

/-! ### What the two filters let through -/

theorem isFrameUsable_iff (frame : Frame) :
    isFrameUsable frame = true ↔ hasV4l2BufferError frame = false ∧ frame.data ≠ [] ∧
      (frame.width ≠ 0 ∧ frame.height ≠ 0 ∧ frame.pixelFormat ≠ 0) ∧
      isIncompleteYuyvFrame frame = false := by
  have ok : isFrameUsable frame = true ↔ checkFrameUsable frame = .ok () := by
    rw [isFrameUsable]
    cases checkFrameUsable frame <;> simp [Except.isOk, Except.toBool]
  simp only [ok, checkFrameUsable, guard_ok_iff, not_or, and_true, Bool.not_eq_true,
    List.isEmpty_eq_false_iff]

theorem wireHeaderToSend_ok_iff (frame : Frame) (wire : WireHeader) :
    wireHeaderToSend frame = .ok wire ↔ frame.data.length ≤ 0xFFFFFFFF ∧
      frame.captureTimestampNs ≠ 0 ∧ wire = serializeHeader (frameHeader frame) := by
  rw [wireHeaderToSend]
  split
  next large => simp [large]
  next fits =>
    split
    next missing => simp [missing]
    next present => simp [Nat.le_of_not_lt fits, present, eq_comm]

/-- The limits of a default receiver that the sender does not check. -/
structure FitsDefaultReceiver (frame : Frame) : Prop where
  width : frame.width ≤ kMaxDimension
  height : frame.height ≤ kMaxDimension
  payload : frame.data.length ≤ kDefaultMaxPayloadBytes.toNat
  yuyv : frame.pixelFormat = V4L2_PIX_FMT_YUYV → frame.width.toNat % 2 = 0 ∧
    frame.data.length = frame.width.toNat * frame.height.toNat * 2

/-- Of the frames that are usable and sent, a default receiver accepts the headers of
those within its limits and no others. -/
theorem sent_header_accepted_iff (frame : Frame) (usable : isFrameUsable frame = true)
    (wire : WireHeader) (sent : wireHeaderToSend frame = .ok wire) (old : FrameHeader) :
    ((deserializeHeader wire old).ok = true ∧
      validateHeader (deserializeHeader wire old).header kDefaultMaxPayloadBytes = .ok ()) ↔
      FitsDefaultReceiver frame := by
  obtain ⟨_, nonempty, ⟨width, height, format⟩, _⟩ := (isFrameUsable_iff frame).mp usable
  obtain ⟨small, timestamp, rfl⟩ := (wireHeaderToSend_ok_iff frame wire).mp sent
  have positive : 0 < frame.data.length := List.length_pos_of_ne_nil nonempty
  -- The length check makes the cast of the payload size exact.
  have size : (UInt32.ofNat frame.data.length).toNat = frame.data.length := by
    rw [UInt32.toNat_ofNat']
    exact Nat.mod_eq_of_lt (by omega)
  have some : UInt32.ofNat frame.data.length ≠ 0 := by
    intro zero
    rw [zero] at size
    exact absurd size.symm (Nat.ne_of_gt positive)
  rw [deserializeHeader_serializeHeader, validateHeader_ok_iff]
  constructor
  · rintro ⟨_, accepted⟩
    refine ⟨accepted.bounded.1, accepted.bounded.2, ?_, fun isYuyv => ?_⟩
    · have limit : (UInt32.ofNat frame.data.length).toNat ≤ _ := accepted.payload.2
      rwa [size] at limit
    · have exact := accepted.yuyv isYuyv
      exact ⟨exact.1, size ▸ exact.2⟩
  -- `make_header` sets magic, header size and version; the rest is what was checked.
  · intro fits
    refine ⟨rfl, rfl, rfl, rfl, timestamp, ⟨width, height⟩, ⟨fits.width, fits.height⟩, format,
      ⟨some, ?_⟩, fun isYuyv => ?_⟩
    · change (UInt32.ofNat frame.data.length).toNat ≤ _
      rw [size]
      exact fits.payload
    · have exact := fits.yuyv isYuyv
      exact ⟨exact.1, size.trans exact.2⟩

/-- A YUYV frame of one pixel pair with two bytes of padding behind it. -/
def paddedFrame : Frame where
  data := [16, 128, 16, 128, 0, 0]
  width := 2
  height := 1
  pixelFormat := V4L2_PIX_FMT_YUYV
  bytesused := 6
  sequence := 0
  bufferIndex := 0
  v4l2Flags := 0
  captureTimestampNs := 1000
  hostReceiveTimeNs := 0

/-- `sent_header_accepted_iff` for the padded frame without its padding. -/
theorem sent_header_accepted_unpadded :
    validateHeader (frameHeader { paddedFrame with data := [16, 128, 16, 128] })
      kDefaultMaxPayloadBytes = .ok () := by
  have accepted := (sent_header_accepted_iff { paddedFrame with data := [16, 128, 16, 128] }
    (by decide) _ rfl {}).mpr ⟨by decide, by decide, by decide, by decide⟩
  rw [deserializeHeader_serializeHeader] at accepted
  exact accepted.2

/-- The padded frame is usable and sent, and its header is rejected. -/
theorem padded_header_rejected :
    ¬ ∀ (frame : Frame) (wire : WireHeader) (old : FrameHeader), isFrameUsable frame = true →
      wireHeaderToSend frame = .ok wire → (deserializeHeader wire old).ok = true ∧
      validateHeader (deserializeHeader wire old).header kDefaultMaxPayloadBytes = .ok () := by
  intro always
  have accepted := (always paddedFrame _ {} (by decide) rfl).2
  rw [deserializeHeader_serializeHeader] at accepted
  -- The validator wants the payload size to be exact.
  have rejected : validateHeader (frameHeader paddedFrame) kDefaultMaxPayloadBytes =
      .error "YUYV payload size mismatch: got=6, expected=4" := by
    decide +kernel
  rw [rejected] at accepted
  cases accepted

end V4l2Capture.Pipeline
