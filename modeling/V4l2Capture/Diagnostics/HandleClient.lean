import V4l2Capture.Protocol.WireFrame
import V4l2Capture.Diagnostics.HostLayout
import V4l2Capture.Diagnostics.ReadInterruptible
import V4l2Capture.Receiver.Session

/-!
# The session loop of the diagnostics node

`handleClient` serves one client. It reads `sizeof(FrameHeader)` bytes for a header, four
more than a header has on the wire, so behind the first frame of a session it looks for
headers four bytes late.
-/
namespace V4l2Capture.Diagnostics

open Protocol Receiver Stats

/-- The parameters that the session loop reads. -/
structure NodeConfig where
  maxFrames : Nat
  maxPayloadBytes : UInt32
  publishImages : Bool

structure NodeEnv where
  /-- The system clock when the given number of frames has been received. -/
  clock : Nat → UInt64
  /-- What building and publishing the images of a frame throws, if it throws. -/
  publishFails : Nat → Option String
  strerror : Errno → String

/-- The counters of the node. `accepted` is history: the frames counted so far. -/
structure NodeState where
  receivedFrames : Nat := 0
  receivedBytes : Nat := 0
  crcErrors : Nat := 0
  headerErrors : Nat := 0
  rejectedFrames : Nat := 0
  peerDisconnects : Nat := 0
  latencyClockErrors : Nat := 0
  publishedImages : Nat := 0
  imagePublishErrors : Nat := 0
  lastFrameId : UInt64 := 0
  lastWidth : UInt32 := 0
  lastHeight : UInt32 := 0
  lastPixelFormat : UInt32 := 0
  lastCaptureTimestampNs : UInt64 := 0
  lastReceiveTimestampNs : UInt64 := 0
  e2eLatency : LatencyStats := []
  lastError : String := ""
  accepted : List Delivered := []
  deriving DecidableEq, Repr

def fourccToString (fourcc : UInt32) : String :=
  if fourcc = 0 then "unset"
  else String.ofList (([0, 8, 16, 24] : List UInt32).map fun shift =>
    Char.ofNat ((fourcc >>> shift) &&& 0xff).toNat)

def publishFrame (cfg : NodeConfig) (env : NodeEnv) (st : NodeState) (header : FrameHeader) :
    NodeState :=
  if cfg.publishImages = false then st
  else if header.pixelFormat ≠ V4L2_PIX_FMT_YUYV then
    { st with
      imagePublishErrors := st.imagePublishErrors + 1
      lastError := "ROS image publication supports only YUYV input, got " ++
        fourccToString header.pixelFormat }
  else
    match env.publishFails st.receivedFrames with
    | none => { st with publishedImages := st.publishedImages + 1 }
    | some text =>
      { st with
        imagePublishErrors := st.imagePublishErrors + 1
        lastError := "failed to publish ROS image for frame " ++ toString header.frameId ++ ": " ++
          text }

/-- The latency sample of a frame that passed its checks. -/
def timeFrame (st : NodeState) (header : FrameHeader) (receiveTimestampNs : UInt64) : NodeState :=
  if receiveTimestampNs ≥ header.captureTimestampNs then
    { st with e2eLatency :=
        addSampleUs st.e2eLatency (latencyUs receiveTimestampNs header.captureTimestampNs) }
  else
    { st with
      latencyClockErrors := st.latencyClockErrors + 1
      lastError := "receive clock was earlier than capture timestamp for frame " ++
        toString header.frameId }

/-- The statements behind the CRC check. -/
def acceptFrame (cfg : NodeConfig) (env : NodeEnv) (st : NodeState) (header : FrameHeader)
    (payload : List UInt8) : NodeState :=
  let receiveTimestampNs := env.clock st.receivedFrames
  let st := timeFrame st header receiveTimestampNs
  let st := { st with
    receivedFrames := st.receivedFrames + 1
    receivedBytes := st.receivedBytes + header.payloadSize.toNat
    lastFrameId := header.frameId
    lastWidth := header.width
    lastHeight := header.height
    lastPixelFormat := header.pixelFormat
    lastCaptureTimestampNs := header.captureTimestampNs
    lastReceiveTimestampNs := receiveTimestampNs
    accepted := st.accepted ++ [(header, payload)] }
  publishFrame cfg env st header

inductive NodeIteration where
  | returns (st : NodeState)
  | next (st : NodeState) (input : NodeInput)

/-- The loop body from the payload read on. -/
def payloadStep (cfg : NodeConfig) (env : NodeEnv) (st : NodeState) (header : FrameHeader)
    (input : NodeInput) : NodeIteration :=
  match readInterruptible env.strerror header.payloadSize.toNat input with
  | (.peerClosed, _) =>
    .returns { st with
      peerDisconnects := st.peerDisconnects + 1
      lastError := "peer closed while receiving frame payload" }
  | (.error text, _) =>
    .returns { st with peerDisconnects := st.peerDisconnects + 1, lastError := text }
  | (.stopped, _) => .returns st
  | (.ok payload, input) =>
    -- Unlike `tcp_receiver`, the node goes on behind a damaged payload.
    if computeCrc32 payload ≠ header.payloadCrc32 then
      .next { st with
        crcErrors := st.crcErrors + 1
        rejectedFrames := st.rejectedFrames + 1
        lastError := "CRC mismatch for frame " ++ toString header.frameId } input
    else .next (acceptFrame cfg env st header payload) input

/-- The loop body from the header read on. -/
def headerStep (cfg : NodeConfig) (env : NodeEnv) (st : NodeState) (input : NodeInput) :
    NodeIteration :=
  match readInterruptible env.strerror sizeofFrameHeader input with
  | (.peerClosed, _) => .returns { st with peerDisconnects := st.peerDisconnects + 1 }
  | (.stopped, _) => .returns st
  | (.error text, _) =>
    .returns { st with peerDisconnects := st.peerDisconnects + 1, lastError := text }
  | (.ok memory, input) =>
    -- The bytes are read over the object itself, without `deserialize_header`.
    let header := hostHeader memory
    match validateHeader header cfg.maxPayloadBytes with
    | .error reason =>
      .returns { st with
        headerErrors := st.headerErrors + 1
        rejectedFrames := st.rejectedFrames + 1
        lastError := reason }
    | .ok () => payloadStep cfg env st header input

/-- One iteration: the loop condition, the frame limit and the body. -/
def nodeStep (cfg : NodeConfig) (env : NodeEnv) (st : NodeState) (input : NodeInput) :
    NodeIteration :=
  match input.loadStop with
  | (true, _) => .returns st
  | (false, input) =>
    if cfg.maxFrames > 0 ∧ st.receivedFrames ≥ cfg.maxFrames then .returns st
    else headerStep cfg env st input

/-! ### What an iteration does -/

/-- The frames that were read to their end, accepted or not. -/
def NodeState.framesRead (st : NodeState) : Nat :=
  st.accepted.length + st.crcErrors

/-- An iteration ends the session and reads no frame, or reads one whose header it found
in the first `sizeof(FrameHeader)` bytes. Only such a header is ever rejected. -/
inductive NodeStepSpec (cfg : NodeConfig) (st : NodeState) (input : NodeInput) :
    NodeIteration → Prop
  | returns (st' : NodeState) (same : st'.framesRead = st.framesRead)
      (rejects : st'.headerErrors = st.headerErrors ∨
        sizeofFrameHeader ≤ (Socket.contents input.conn).length) :
      NodeStepSpec cfg st input (.returns st')
  | next (memory payload : List UInt8) (st' : NodeState) (input' : NodeInput)
      (size : memory.length = sizeofFrameHeader)
      (valid : validateHeader (decodeFields memory) cfg.maxPayloadBytes = .ok ())
      (payloadSize : payload.length = (decodeFields memory).payloadSize.toNat)
      (split : Socket.contents input.conn = memory ++ payload ++ Socket.contents input'.conn)
      (one : st'.framesRead = st.framesRead + 1) :
      NodeStepSpec cfg st input (.next st' input')

theorem acceptFrame_framesRead (cfg : NodeConfig) (env : NodeEnv) (st : NodeState)
    (header : FrameHeader) (payload : List UInt8) :
    (acceptFrame cfg env st header payload).framesRead = st.framesRead + 1 := by
  -- Timing and publishing touch neither of the two counts.
  have timed : ∀ now, (timeFrame st header now).accepted = st.accepted ∧
      (timeFrame st header now).crcErrors = st.crcErrors := by
    intro now
    rw [timeFrame]
    split <;> exact ⟨rfl, rfl⟩
  have published : ∀ st : NodeState, (publishFrame cfg env st header).framesRead = st.framesRead := by
    intro st
    rw [publishFrame]
    repeat' split
    all_goals rfl
  rw [acceptFrame, published]
  simp only [NodeState.framesRead, List.length_append, List.length_singleton, timed]
  omega

theorem nodeStep_spec (cfg : NodeConfig) (env : NodeEnv) (st : NodeState) (input : NodeInput) :
    NodeStepSpec cfg st input (nodeStep cfg env st input) := by
  obtain ⟨conn, _⟩ := loadStop_spec input
  unfold nodeStep
  cases load : input.loadStop with
  | mk stop loaded =>
    rw [load] at conn
    simp only at conn
    cases stop with
    | true => exact .returns st rfl (.inl rfl)
    | false =>
      simp only
      split
      · exact .returns st rfl (.inl rfl)
      unfold headerStep
      split
      · exact .returns _ rfl (.inl rfl)
      · exact .returns _ rfl (.inl rfl)
      · exact .returns _ rfl (.inl rfl)
      next memory afterHeader headerRead =>
        obtain ⟨size, headerSplit⟩ := readInterruptible_ok headerRead
        rw [conn] at headerSplit
        simp only [hostHeader_eq]
        split
        -- The one exit that counts a header error has read a whole object.
        next reason invalid =>
          refine .returns _ rfl (.inr ?_)
          rw [headerSplit, List.length_append]
          omega
        next valid =>
          unfold payloadStep
          split
          · exact .returns _ rfl (.inl rfl)
          · exact .returns _ rfl (.inl rfl)
          · exact .returns _ rfl (.inl rfl)
          next payload afterPayload payloadRead =>
            obtain ⟨payloadSize, payloadSplit⟩ := readInterruptible_ok payloadRead
            have split : Socket.contents input.conn =
                memory ++ payload ++ Socket.contents afterPayload.conn := by
              rw [headerSplit, payloadSplit, List.append_assoc]
            split
            · exact .next memory payload _ _ size valid payloadSize split
                (by simp only [NodeState.framesRead]; omega)
            · exact .next memory payload _ _ size valid payloadSize split
                (acceptFrame_framesRead cfg env st _ payload)

/-- A frame takes at least its header from the stream. -/
theorem nodeStep_shorter {cfg : NodeConfig} {env : NodeEnv} {st st' : NodeState}
    {input input' : NodeInput} (step : nodeStep cfg env st input = .next st' input') :
    (Socket.contents input'.conn).length < (Socket.contents input.conn).length := by
  have spec := nodeStep_spec cfg env st input
  rw [step] at spec
  cases spec with
  | next memory payload _ _ size _ _ split =>
    rw [split, List.length_append, List.length_append, size, sizeofFrameHeader_eq]
    omega

/-! ### The loop -/

def handleClient (cfg : NodeConfig) (env : NodeEnv) (st : NodeState) (input : NodeInput) :
    NodeState :=
  match _step : nodeStep cfg env st input with
  | .returns st => st
  | .next st next => handleClient cfg env st next
termination_by (Socket.contents input.conn).length
decreasing_by exact nodeStep_shorter _step

theorem handleClient_eq (cfg : NodeConfig) (env : NodeEnv) (st : NodeState) (input : NodeInput) :
    handleClient cfg env st input =
      match nodeStep cfg env st input with
      | .returns st => st
      | .next st next => handleClient cfg env st next := by
  rw [handleClient]
  split <;> next step => rw [step]

end V4l2Capture.Diagnostics
