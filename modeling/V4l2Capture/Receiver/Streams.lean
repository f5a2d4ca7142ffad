import V4l2Capture.Receiver.AcceptLoop
import V4l2Capture.Receiver.RoundTrip

/-!
# What the receiver makes of a given stream

A session without a frame limit is determined by its stream: `exitOf` computes how it is left
from the bytes behind the frames that it accepts, and `sessionLoop_stream` says what it leaves.
`tcpReceiverMain` is the program around the sessions with its exit status.
-/
namespace V4l2Capture.Receiver

open Protocol

variable {maxPayloadBytes : UInt32}

/-! ### Exits -/

/-- The exit of a session that meets these bytes where it looks for the next frame, if no intact
frame is there. -/
def exitOf (maxPayloadBytes : UInt32) (tail : List UInt8) : SessionExit :=
  if tail.length < kWireHeaderSize then .headerClosed
  else
    let header := decodeFields tail
    match validateHeader header maxPayloadBytes with
    | .error reason => .headerInvalid header reason
    | .ok () =>
      if (tail.drop kWireHeaderSize).length < header.payloadSize.toNat then .payloadClosed header
      else .crcMismatch header

theorem exitOf_of_short {tail : List UInt8} (short : tail.length < kWireHeaderSize) :
    exitOf maxPayloadBytes tail = .headerClosed := by
  rw [exitOf, if_pos short]

theorem exitOf_of_header (header : FrameHeader) (rest : List UInt8) :
    exitOf maxPayloadBytes (wireBytes header ++ rest) =
      match validateHeader header maxPayloadBytes with
      | .error reason => .headerInvalid header reason
      | .ok () =>
        if rest.length < header.payloadSize.toNat then .payloadClosed header
        else .crcMismatch header := by
  have long : ¬ (wireBytes header ++ rest).length < kWireHeaderSize := by simp
  have behind : (wireBytes header ++ rest).drop kWireHeaderSize = rest :=
    List.drop_left' (wireBytes_length header)
  rw [exitOf, if_neg long, decodeFields_wireBytes, behind]

theorem WireFrame.encode_wireBytes (frame : WireFrame maxPayloadBytes) :
    frame.encode = wireBytes frame.header ++ frame.payload := by
  rw [WireFrame.encode, serializeHeader_toList]

theorem roomForFrames_unlimited {cfg : ReceiverConfig} (unlimited : cfg.maxFrames = 0) (n : Nat) :
    roomForFrames cfg n = true := by
  simp [roomForFrames, unlimited]

section Unlimited

variable {cfg : ReceiverConfig} {n : Nat} {exit : SessionExit} {tail : List UInt8}

theorem ExitSpec.exit_eq (spec : ExitSpec cfg n exit tail) (unlimited : cfg.maxFrames = 0) :
    exit = exitOf cfg.maxPayloadBytes tail := by
  cases spec with
  | frameLimit full =>
    rw [roomForFrames_unlimited unlimited] at full
    cases full
  | headerClosed room short => rw [exitOf_of_short short]
  | headerInvalid header reason rest invalid => rw [exitOf_of_header, invalid]
  | payloadClosed header rest valid short =>
    rw [exitOf_of_header, valid]
    exact (if_pos short).symm
  | crcMismatch frame rest damaged =>
    have enough : ¬ (frame.payload ++ rest).length < frame.header.payloadSize.toNat := by
      rw [List.length_append, frame.size]
      omega
    rw [WireFrame.encode_wireBytes, List.append_assoc, exitOf_of_header, frame.accepted]
    exact (if_neg enough).symm

/-- A session is not left in front of an intact frame. -/
theorem ExitSpec.not_intact (spec : ExitSpec cfg n exit tail) (unlimited : cfg.maxFrames = 0)
    (frame : WireFrame cfg.maxPayloadBytes) (rest : List UInt8) (intact : frame.intact = true) :
    tail ≠ frame.encode ++ rest := by
  intro equal
  rcases spec.stuck_or_damaged with stuck | limit | ⟨other, behind, damaged, shape⟩
  · exact stuck frame.record rest (by rw [← WireFrame.encode_eq]; exact equal)
  · rw [roomForFrames_unlimited unlimited] at limit
    exact absurd limit.2 (by simp)
  -- The damaged frame would be the intact one.
  · rw [shape, WireFrame.encode_eq, WireFrame.encode_eq] at equal
    obtain ⟨same, _⟩ := Framing.head_unique _ _ _ _ equal
    have frames := congrArg ofRecord same
    rw [ofRecord_record, ofRecord_record] at frames
    rw [frames, intact] at damaged
    cases damaged

end Unlimited

/-! ### Streams -/

/-- Of two ways to read one stream as frames with a rest, one continues the other. -/
theorem encodeFrames_compare (frames frames' : List (WireFrame maxPayloadBytes))
    (tail tail' : List UInt8)
    (same : encodeFrames frames ++ tail = encodeFrames frames' ++ tail') :
    (∃ more, frames' = frames ++ more ∧ tail = encodeFrames more ++ tail') ∨
      (∃ more, frames = frames' ++ more ∧ tail' = encodeFrames more ++ tail) := by
  rw [encodeFrames_eq, encodeFrames_eq] at same
  have back : ∀ {first second : List (WireFrame maxPayloadBytes)}
      {more : List (Framing.Record (wireFormat maxPayloadBytes))},
      second.map WireFrame.record = first.map WireFrame.record ++ more →
        second = first ++ more.map ofRecord := by
    intro first second more shape
    have mapped := congrArg (List.map ofRecord) shape
    simpa [Function.comp_def] using mapped
  have again : ∀ more : List (Framing.Record (wireFormat maxPayloadBytes)),
      encodeFrames (more.map ofRecord) = Framing.encodeAll more := by
    intro more
    rw [encodeFrames_eq, List.map_map]
    exact congrArg Framing.encodeAll ((List.map_congr_left fun r _ => record_ofRecord r).trans
      (List.map_id more))
  rcases Framing.encodeAll_compare _ _ _ _ same with ⟨more, shape, rest⟩ | ⟨more, shape, rest⟩
  · exact .inl ⟨more.map ofRecord, back shape, by rw [again]; exact rest⟩
  · exact .inr ⟨more.map ofRecord, back shape, by rw [again]; exact rest⟩

/-- A stream can be read in one way only as intact frames up to the end of a session. -/
theorem stream_determined {cfg : ReceiverConfig} {n n' : Nat} {exit exit' : SessionExit}
    {frames frames' : List (WireFrame cfg.maxPayloadBytes)} {tail tail' : List UInt8}
    (unlimited : cfg.maxFrames = 0)
    (same : encodeFrames frames ++ tail = encodeFrames frames' ++ tail')
    (intact : ∀ frame ∈ frames, frame.intact = true)
    (intact' : ∀ frame ∈ frames', frame.intact = true)
    (spec : ExitSpec cfg n exit tail) (spec' : ExitSpec cfg n' exit' tail') :
    frames = frames' ∧ tail = tail' := by
  rcases encodeFrames_compare frames frames' tail tail' same with
    ⟨more, rfl, rest⟩ | ⟨more, rfl, rest⟩
  · cases more with
    | nil => exact ⟨by simp, by simpa [encodeFrames] using rest⟩
    | cons frame more =>
      rw [encodeFrames, List.flatMap_cons, List.append_assoc] at rest
      exact absurd rest (spec.not_intact unlimited frame _ (intact' frame (by simp)))
  · cases more with
    | nil => exact ⟨by simp, by simpa [encodeFrames] using rest.symm⟩
    | cons frame more =>
      rw [encodeFrames, List.flatMap_cons, List.append_assoc] at rest
      exact absurd rest (spec'.not_intact unlimited frame _ (intact frame (by simp)))

/-- What a session leaves behind that reads the given frames up to the given exit. -/
theorem sessionLoop_stream {cfg : ReceiverConfig} {env : ReceiverEnv} {st st' : ReceiverState}
    {conn : Connection} {exit exit' : SessionExit} {n sessionFrames : Nat}
    {frames : List (WireFrame cfg.maxPayloadBytes)} {tail : List UInt8}
    (unlimited : cfg.maxFrames = 0) (stream : Socket.contents conn = encodeFrames frames ++ tail)
    (intact : ∀ frame ∈ frames, frame.intact = true) (spec : ExitSpec cfg n exit tail)
    (run : sessionLoop cfg env st 0 conn = .left exit' st' sessionFrames) :
    exit' = exit ∧ sessionFrames = frames.length ∧
      ∃ last, (frames.map WireFrame.delivered).foldlM (ReceiverState.receiveFrame cfg env) st =
        .ok last ∧ st' = last.leave exit := by
  obtain ⟨accepted, tail', last, whole, split, received, _, spec', rfl, count⟩ :=
    sessionLoop_left run
  obtain ⟨rfl, rfl⟩ :=
    stream_determined unlimited (split.symm.trans stream) whole intact spec' spec
  obtain rfl : exit' = exit := (spec'.exit_eq unlimited).trans (spec.exit_eq unlimited).symm
  exact ⟨rfl, by omega, last, received, rfl⟩

/-! ### The program -/

/-- The return value of `main` behind the sessions; `statsFails` is what writing the statistics
throws, if it throws. A program that waits for a client has not returned. -/
def exitStatus (statsFails : Option String) : ReceiverRun → Option Nat
  | .waiting _ => none
  | .threw _ => some 1
  | .finished st =>
    match statsFails with
    | some _ => some 1
    | none => some (if st.headerErrors > 0 then 3 else if st.crcErrors > 0 then 2 else 0)

/-- The exit status of a run whose only session was left in this way. -/
def SessionExit.status : SessionExit → Nat
  | .frameLimit => 0
  | .headerClosed => 0
  | .payloadClosed _ => 0
  | .decodeFailed _ _ => 3
  | .headerInvalid _ _ => 3
  | .crcMismatch _ => 2

/-- `last_error` of such a run. -/
def SessionExit.report : SessionExit → String
  | .frameLimit => ""
  | .headerClosed => ""
  | .payloadClosed header =>
    "peer closed while reading payload for frame_id=" ++ toString header.frameId
  | .decodeFailed _ reason => "failed to decode frame header: " ++ reason
  | .headerInvalid _ reason => "invalid frame header: " ++ reason
  | .crcMismatch header => "payload crc mismatch for frame_id=" ++ toString header.frameId

/-- What a run leaves that serves one client without a frame limit. -/
structure Served (cfg : ReceiverConfig) (frames : List Delivered) (exit : SessionExit)
    (st : ReceiverState) : Prop where
  accepted : st.accepted = frames
  receivedFrames : st.receivedFrames = frames.length
  receivedBytes : st.receivedBytes = (frames.map (·.2.length)).sum
  savedFiles : st.savedFiles = if cfg.savePayloads then frames.length else 0
  headerErrors : st.headerErrors = if exit.status = 3 then 1 else 0
  crcErrors : st.crcErrors = if exit.status = 2 then 1 else 0
  completed : st.completedSessions = if exit.sessionOk then 1 else 0
  lastError : st.lastError = exit.report

/-- What receiving frames does to the fields that leaving a session looks at. -/
structure FramesCounted (cfg : ReceiverConfig) (st : ReceiverState) (frames : List Delivered)
    (last : ReceiverState) : Prop where
  errors : last.headerErrors = st.headerErrors ∧ last.crcErrors = st.crcErrors
  savedFiles : last.savedFiles = st.savedFiles + if cfg.savePayloads then frames.length else 0
  receivedBytes : last.receivedBytes = st.receivedBytes + (frames.map (·.2.length)).sum
  lastError : last.lastError = st.lastError

theorem receiveFrame_lastError {cfg : ReceiverConfig} {env : ReceiverEnv} {st st' : ReceiverState}
    {frame : Delivered} (received : st.receiveFrame cfg env frame = .ok st') :
    st'.lastError = st.lastError := by
  have counted : (st.countFrame env frame).lastError = st.lastError := by
    rw [ReceiverState.countFrame]
    dsimp only
    split <;> rfl
  unfold ReceiverState.receiveFrame ReceiverState.saveFrame at received
  split at received
  · split at received
    · cases received
    · cases received
      exact counted
  · cases received
    exact counted

theorem receiveFrames_counted {cfg : ReceiverConfig} {env : ReceiverEnv} {st last : ReceiverState}
    (frames : List Delivered)
    (received : frames.foldlM (ReceiverState.receiveFrame cfg env) st = .ok last) :
    FramesCounted cfg st frames last := by
  induction frames generalizing st with
  | nil =>
    cases received
    exact ⟨⟨rfl, rfl⟩, by simp, rfl, rfl⟩
  | cons frame frames ih =>
    obtain ⟨next, first, later⟩ := receiveFrames_cons received
    have step := receiveFrame_ok first
    have rest := ih later
    refine ⟨⟨rest.errors.1.trans step.errors.1, rest.errors.2.trans step.errors.2.1⟩, ?_, ?_,
      rest.lastError.trans (receiveFrame_lastError first)⟩
    · rw [rest.savedFiles, step.savedFiles]
      split
      · rw [List.length_cons]
        omega
      · rfl
    · rw [rest.receivedBytes, step.receivedBytes, List.map_cons, List.sum_cons]
      omega

/-- Leaving a session that has met no error before. -/
theorem leave_clean (last : ReceiverState) (exit : SessionExit) (headers : last.headerErrors = 0)
    (crcs : last.crcErrors = 0) (silent : last.lastError = "") :
    (last.leave exit).headerErrors = (if exit.status = 3 then 1 else 0) ∧
      (last.leave exit).crcErrors = (if exit.status = 2 then 1 else 0) ∧
      (last.leave exit).lastError = exit.report := by
  cases exit with
  | frameLimit => exact ⟨headers, crcs, silent⟩
  | headerClosed => exact ⟨headers, crcs, silent⟩
  | payloadClosed header => exact ⟨headers, crcs, rfl⟩
  | decodeFailed header reason => exact ⟨congrArg (· + 1) headers, crcs, rfl⟩
  | headerInvalid header reason => exact ⟨congrArg (· + 1) headers, crcs, rfl⟩
  | crcMismatch header => exact ⟨headers, congrArg (· + 1) crcs, rfl⟩

/-- One client whose stream reads as intact frames up to an exit: the program accepts these
frames and leaves by this exit, unless saving a payload throws. -/
theorem acceptLoop_stream {cfg : ReceiverConfig} (env : ReceiverEnv) {conn : Connection}
    {exit : SessionExit} {n : Nat} {frames : List (WireFrame cfg.maxPayloadBytes)}
    {tail : List UInt8} (unlimited : cfg.maxFrames = 0) (single : cfg.maxSessions = 1)
    (reliable : Socket.Reliable conn)
    (stream : Socket.contents conn = encodeFrames frames ++ tail)
    (intact : ∀ frame ∈ frames, frame.intact = true) (spec : ExitSpec cfg n exit tail) :
    (∃ st, acceptLoop cfg env {} [.connected conn] = .finished st ∧
        Served cfg (frames.map WireFrame.delivered) exit st) ∨
      ∃ message, acceptLoop cfg env {} [.connected conn] = .threw message ∧
        cfg.savePayloads = true ∧ ∃ index, env.saveFails index = some message := by
  have room : ({} : ReceiverState).acceptedSessions < cfg.maxSessions ∧
      roomForFrames cfg ({} : ReceiverState).receivedFrames = true :=
    ⟨by rw [single]; exact Nat.zero_lt_one, roomForFrames_unlimited unlimited _⟩
  rw [acceptLoop, if_pos room]
  dsimp only
  cases run : sessionLoop cfg env ({} : ReceiverState).openSession 0 conn with
  | threw message => exact .inr ⟨message, rfl, sessionLoop_threw reliable run⟩
  | left exit' left sessionFrames =>
    obtain ⟨rfl, rfl, last, received, rfl⟩ :=
      sessionLoop_stream unlimited stream intact spec run
    have served := receiveFrames_spec _ received
    have counted := receiveFrames_counted _ received
    have step := leave_spec last exit'
    obtain ⟨headers, crcs, silent⟩ :=
      leave_clean last exit' counted.errors.1 counted.errors.2 counted.lastError
    -- The one session was accepted, so the loop ends behind it whatever the exit.
    have opened : ((last.leave exit').closeSession exit'
        ⟨Socket.contents conn, 0, frames.length, exit'.sessionOk⟩).acceptedSessions = 1 := by
      exact step.sessionCounts.1.trans served.sessionCounts.1
    have completed : (last.leave exit').completedSessions = 0 :=
      step.sessionCounts.2.1.trans served.sessionCounts.2.1
    refine .inl ⟨(last.leave exit').closeSession exit'
      ⟨Socket.contents conn, 0, frames.length, exit'.sessionOk⟩, ?_, ?_⟩
    · dsimp only
      split
      · rfl
      · rw [acceptLoop, if_neg (by rw [opened, single]; simp)]
    · obtain ⟨frameCount, bytes, saved, _⟩ := step.frames
      refine ⟨step.accepted.trans served.accepted, ?_, ?_, ?_, headers, crcs, ?_, silent⟩
      · exact (frameCount.trans served.receivedFrames).trans (Nat.zero_add _)
      · exact (bytes.trans counted.receivedBytes).trans (Nat.zero_add _)
      · exact (saved.trans counted.savedFiles).trans (Nat.zero_add _)
      · show (if exit'.sessionOk then _ else _) = _
        rw [completed]

/-- The strict part of a valid frame at the end of a stream: the peer closes within the header
or within the payload. -/
theorem exitSpec_partial {cfg : ReceiverConfig} (unlimited : cfg.maxFrames = 0) (n : Nat)
    (frame : WireFrame cfg.maxPayloadBytes) {k : Nat} (partly : k < frame.encode.length) :
    ∃ exit, ExitSpec cfg n exit (frame.encode.take k) ∧ exit.status = 0 := by
  rw [WireFrame.encode_length] at partly
  rcases Nat.lt_or_ge k kWireHeaderSize with within | behind
  · refine ⟨.headerClosed, .headerClosed (roomForFrames_unlimited unlimited n) ?_, rfl⟩
    rw [List.length_take]
    omega
  · refine ⟨.payloadClosed frame.header, ?_, rfl⟩
    have shape : frame.encode.take k =
        wireBytes frame.header ++ frame.payload.take (k - kWireHeaderSize) := by
      rw [WireFrame.encode_wireBytes, List.take_append, wireBytes_length,
        List.take_of_length_le (by rw [wireBytes_length]; exact behind)]
    rw [shape]
    refine .payloadClosed frame.header _ frame.accepted ?_
    rw [List.length_take, ← frame.size]
    omega

/-- The iteration that meets a header which is not accepted. -/
theorem sessionStep_of_invalid (cfg : ReceiverConfig) (env : ReceiverEnv) (st : ReceiverState)
    {conn : Connection} {header : FrameHeader} {reason : String} {rest : List UInt8}
    (reliable : Socket.Reliable conn) (stream : Socket.contents conn = wireBytes header ++ rest)
    (invalid : validateHeader header cfg.maxPayloadBytes = .error reason) :
    sessionStep cfg env st conn = .leave (.headerInvalid header reason) := by
  rcases readExact_reliable kWireHeaderSize conn reliable with
    ⟨_, next, read, _, _⟩ | ⟨short, _, _⟩
  · rw [stream, List.take_left' (wireBytes_length header)] at read
    have decoded := decodeFields_wireBytes header []
    rw [List.append_nil] at decoded
    unfold sessionStep
    rw [read]
    simp only [deserializeHeaderBytes_of_length _ _ (wireBytes_length header), Bool.true_eq_false,
      if_false, decoded, invalid]
  · rw [stream, List.length_append, wireBytes_length] at short
    omega

/-- One client that starts with a header which is not accepted. -/
theorem acceptLoop_invalid {cfg : ReceiverConfig} (env : ReceiverEnv) {conn : Connection}
    {header : FrameHeader} {reason : String} {rest : List UInt8} (unlimited : cfg.maxFrames = 0)
    (single : cfg.maxSessions = 1) (reliable : Socket.Reliable conn)
    (stream : Socket.contents conn = wireBytes header ++ rest)
    (invalid : validateHeader header cfg.maxPayloadBytes = .error reason) :
    ∃ st, acceptLoop cfg env {} [.connected conn] = .finished st ∧
      Served cfg [] (.headerInvalid header reason) st := by
  have spec : ExitSpec cfg 0 (.headerInvalid header reason) (wireBytes header ++ rest) :=
    .headerInvalid header reason rest invalid
  have none : ∀ frame ∈ ([] : List (WireFrame cfg.maxPayloadBytes)), frame.intact = true := by simp
  rcases acceptLoop_stream env unlimited single reliable stream none spec with
    finished | ⟨message, threw, _⟩
  · exact finished
  -- The session is over before a payload could be saved.
  · have room : ({} : ReceiverState).acceptedSessions < cfg.maxSessions ∧
        roomForFrames cfg ({} : ReceiverState).receivedFrames = true :=
      ⟨by rw [single]; exact Nat.zero_lt_one, roomForFrames_unlimited unlimited _⟩
    rw [acceptLoop, if_pos room] at threw
    dsimp only at threw
    rw [sessionLoop_room (roomForFrames_unlimited unlimited _),
      sessionStep_of_invalid cfg env _ reliable stream invalid] at threw
    cases threw

theorem exitStatus_served {cfg : ReceiverConfig} {frames : List Delivered} {exit : SessionExit}
    {st : ReceiverState} (served : Served cfg frames exit st) :
    exitStatus none (.finished st) = some exit.status := by
  rw [exitStatus, served.headerErrors, served.crcErrors]
  cases exit <;> rfl

end V4l2Capture.Receiver
