import V4l2Capture.Library.Framing
import V4l2Capture.Protocol.Validation

/-!
# Frames on the wire

A `WireFrame` is a header that `validateHeader` accepts under a payload limit,
together with a payload of exactly the announced size. Whether its checksum is right
(`intact`) is a separate question. Frames are the records of `wireFormat`, so the
library's facts about framed streams apply to them.
-/
namespace V4l2Capture.Protocol

/-- A frame that a receiver with this payload limit reads to its end. -/
structure WireFrame (maxPayloadBytes : UInt32) where
  header : FrameHeader
  payload : List UInt8
  accepted : validateHeader header maxPayloadBytes = .ok ()
  size : payload.length = header.payloadSize.toNat

variable {maxPayloadBytes : UInt32}

/-- The CRC field is the checksum of the payload. -/
def WireFrame.intact (frame : WireFrame maxPayloadBytes) : Bool :=
  computeCrc32 frame.payload == frame.header.payloadCrc32

/-- The frame on the wire: the serialised header, then the payload. -/
def WireFrame.encode (frame : WireFrame maxPayloadBytes) : List UInt8 :=
  (serializeHeader frame.header).toList ++ frame.payload

def encodeFrames (frames : List (WireFrame maxPayloadBytes)) : List UInt8 :=
  frames.flatMap WireFrame.encode

/-- Header fields and payload, as a receiver hands them on. -/
abbrev Delivered := FrameHeader × List UInt8

def WireFrame.delivered (frame : WireFrame maxPayloadBytes) : Delivered :=
  (frame.header, frame.payload)

/-- A compressed 2x2 frame with three bytes of data. -/
def smallFrame : WireFrame kDefaultMaxPayloadBytes where
  header := makeHeader 7 1000 2 2 0x47504A4D 3 (computeCrc32 [1, 2, 3])
  payload := [1, 2, 3]
  accepted := by decide +kernel
  size := rfl

/-! ### Frames as records of a framed stream -/

def wireFormat (maxPayloadBytes : UInt32) : Framing.Format FrameHeader UInt8 where
  headerSize := kWireHeaderSize
  encode := wireBytes
  decode := decodeFields
  -- A rejected header announces no payload: the receiver stops reading there.
  bodySize header :=
    match validateHeader header maxPayloadBytes with
    | .ok () => some header.payloadSize.toNat
    | .error _ => none
  headerSize_pos := by decide
  encode_length := wireBytes_length
  decode_encode := decodeFields_wireBytes

def WireFrame.record (frame : WireFrame maxPayloadBytes) :
    Framing.Record (wireFormat maxPayloadBytes) where
  header := frame.header
  body := frame.payload
  size := by simp only [wireFormat, frame.accepted, frame.size]

def ofRecord (r : Framing.Record (wireFormat maxPayloadBytes)) : WireFrame maxPayloadBytes where
  header := r.header
  payload := r.body
  accepted := by
    have size := r.size
    simp only [wireFormat] at size
    split at size
    next ok => exact ok
    next => cases size
  size := by
    have size := r.size
    simp only [wireFormat] at size
    split at size
    next => exact (Option.some.inj size).symm
    next => cases size

@[simp] theorem ofRecord_record (frame : WireFrame maxPayloadBytes) :
    ofRecord frame.record = frame := rfl

@[simp] theorem record_ofRecord (r : Framing.Record (wireFormat maxPayloadBytes)) :
    (ofRecord r).record = r := rfl

theorem WireFrame.encode_eq (frame : WireFrame maxPayloadBytes) :
    frame.encode = frame.record.encode := by
  rw [WireFrame.encode, serializeHeader_toList]
  rfl

theorem encodeFrames_eq (frames : List (WireFrame maxPayloadBytes)) :
    encodeFrames frames = Framing.encodeAll (frames.map WireFrame.record) := by
  induction frames with
  | nil => rfl
  | cons frame frames ih =>
    rw [List.map_cons, Framing.encodeAll_cons, ← ih, ← WireFrame.encode_eq]
    rfl

theorem WireFrame.encode_length (frame : WireFrame maxPayloadBytes) :
    frame.encode.length = kWireHeaderSize + frame.payload.length := by
  rw [frame.encode_eq, Framing.Record.encode_length]
  rfl

/-! ### Decomposition of a received stream -/

/-- No frame is complete at the head of `tail`. -/
def Stuck (maxPayloadBytes : UInt32) (tail : List UInt8) : Prop :=
  Framing.Stuck (wireFormat maxPayloadBytes) tail

theorem stuck_of_short (tail : List UInt8) (short : tail.length < kWireHeaderSize) :
    Stuck maxPayloadBytes tail :=
  Framing.stuck_of_short (wireFormat maxPayloadBytes) tail short

/-- A tail is stuck behind a header that is rejected, or whose payload is not all there. -/
theorem stuck_of_header (header : FrameHeader) (rest : List UInt8)
    (missing : validateHeader header maxPayloadBytes = .ok () →
      rest.length < header.payloadSize.toNat) :
    Stuck maxPayloadBytes (wireBytes header ++ rest) := by
  apply Framing.stuck_of_header (wireFormat maxPayloadBytes)
  intro n size
  simp only [wireFormat] at size
  split at size
  next ok => rw [← Option.some.inj size]; exact missing ok
  next => cases size

/-- The frames of a stream and its stuck tail are determined by the stream. -/
theorem encodeFrames_unique (frames frames' : List (WireFrame maxPayloadBytes))
    (tail tail' : List UInt8) (same : encodeFrames frames ++ tail = encodeFrames frames' ++ tail')
    (stuck : Stuck maxPayloadBytes tail) (stuck' : Stuck maxPayloadBytes tail') :
    frames = frames' ∧ tail = tail' := by
  rw [encodeFrames_eq, encodeFrames_eq] at same
  obtain ⟨records, tails⟩ := Framing.encodeAll_unique _ _ _ _ same stuck stuck'
  exact ⟨(List.map_injective_iff.mpr (Function.LeftInverse.injective ofRecord_record)) records, tails⟩

/-- A decomposition that ends in a stuck tail contains every frame of any other one. -/
theorem encodeFrames_maximal (frames frames' : List (WireFrame maxPayloadBytes))
    (tail tail' : List UInt8) (same : encodeFrames frames ++ tail = encodeFrames frames' ++ tail')
    (stuck : Stuck maxPayloadBytes tail) : ∃ more, frames = frames' ++ more := by
  rw [encodeFrames_eq, encodeFrames_eq] at same
  obtain ⟨more, split, _⟩ := Framing.encodeAll_maximal _ _ _ _ same stuck
  refine ⟨more.map ofRecord, ?_⟩
  have back := congrArg (List.map ofRecord) split
  simpa [Function.comp_def] using back

theorem encodeFrames_member (frames frames' : List (WireFrame maxPayloadBytes))
    (frame : WireFrame maxPayloadBytes) (tail rest : List UInt8)
    (same : encodeFrames frames ++ tail = encodeFrames frames' ++ (frame.encode ++ rest))
    (stuck : Stuck maxPayloadBytes tail) : frame ∈ frames := by
  have split : encodeFrames frames ++ tail = encodeFrames (frames' ++ [frame]) ++ rest := by
    simpa [encodeFrames] using same
  obtain ⟨more, rfl⟩ := encodeFrames_maximal _ _ _ _ split stuck
  simp

/-- The frames that lie wholly inside the first `n` bytes of their encoding. -/
def containedFrames : Nat → List (WireFrame maxPayloadBytes) → List (WireFrame maxPayloadBytes)
  | _, [] => []
  | n, frame :: frames =>
    if frame.encode.length ≤ n then frame :: containedFrames (n - frame.encode.length) frames else []

theorem map_containedFrames (n : Nat) (frames : List (WireFrame maxPayloadBytes)) :
    (containedFrames n frames).map WireFrame.record =
      Framing.contained n (frames.map WireFrame.record) := by
  induction frames generalizing n with
  | nil => rfl
  | cons frame frames ih =>
    simp only [containedFrames, List.map_cons, Framing.contained, frame.encode_eq]
    split
    · rw [List.map_cons, ih]
    · rfl

theorem containedFrames_isPrefix (n : Nat) (frames : List (WireFrame maxPayloadBytes)) :
    containedFrames n frames <+: frames := by
  have part := Framing.contained_prefix n (frames.map WireFrame.record)
  rw [← map_containedFrames] at part
  -- Records determine their frames, so the prefix can be read back.
  simpa [Function.comp_def] using part.map ofRecord

/-- A prefix of a stream is the contained frames followed by a stuck tail. -/
theorem stream_prefix_split (frames : List (WireFrame maxPayloadBytes)) (bytes : List UInt8)
    (inside : bytes <+: encodeFrames frames) :
    ∃ tail, bytes = encodeFrames (containedFrames bytes.length frames) ++ tail ∧
      Stuck maxPayloadBytes tail := by
  rw [encodeFrames_eq] at inside
  obtain ⟨tail, split, stuck⟩ := Framing.prefix_split _ bytes inside
  exact ⟨tail, by rw [encodeFrames_eq, map_containedFrames]; exact split, stuck⟩

end V4l2Capture.Protocol
