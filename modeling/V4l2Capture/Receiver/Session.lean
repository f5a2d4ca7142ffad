import V4l2Capture.Protocol.WireFrame
import V4l2Capture.Receiver.ReadExact
import V4l2Capture.Stats.Latency

/-!
# The sessions of tcp_receiver

One iteration of the session loop reads a header, validates it, reads the payload,
checks its CRC and counts the frame. `sessionStep` is that iteration,
`sessionLoop` repeats it while the frame limit allows, and `acceptLoop` is the loop
over clients. The counters are those of the source. The log and the session records
are history: they list what happened in order and no branch reads them.
-/
namespace V4l2Capture.Receiver

open Protocol Stats

/-- The parsed command line; the limits are `int`s, the payload limit is not zero. -/
structure ReceiverConfig where
  maxFrames : Nat
  maxSessions : Nat
  maxPayloadBytes : UInt32
  savePayloads : Bool
  maxFrames_int : maxFrames < 2 ^ 31
  maxSessions_pos : 0 < maxSessions
  maxPayloadBytes_pos : maxPayloadBytes ≠ 0

/-- What the receiver obtains from the system besides its sockets. -/
structure ReceiverEnv where
  /-- The `n`-th reading of the system clock. -/
  clock : Nat → UInt64
  /-- The exception that `save_payload` throws for a file index, if it throws. -/
  saveFails : Nat → Option String
  strerror : Errno → String

/-- A configuration for one session without a frame limit. -/
def oneSession : ReceiverConfig where
  maxFrames := 0
  maxSessions := 1
  maxPayloadBytes := kDefaultMaxPayloadBytes
  savePayloads := true
  maxFrames_int := by decide
  maxSessions_pos := Nat.one_pos
  maxPayloadBytes_pos := by decide

def calmEnv : ReceiverEnv where
  clock _ := 1500
  saveFails _ := none
  strerror _ := "error"

/-- A connection whose bytes arrive one at a time. -/
def byteByByte (bytes : List UInt8) : Connection :=
  bytes.map fun byte => .data byte []

@[simp] theorem byteByByte_contents (bytes : List UInt8) :
    Socket.contents (byteByByte bytes) = bytes := by
  induction bytes with
  | nil => rfl
  | cons byte bytes ih => exact congrArg (byte :: ·) ih

theorem byteByByte_reliable (bytes : List UInt8) : Socket.Reliable (byteByByte bytes) := by
  simp [Socket.Reliable, byteByByte]

inductive ReceiverEvent where
  | sessionAccepted
  | payloadAllocated (size : Nat)
  | frameAccepted (frame : Delivered)
  | frameSaved (index : Nat) (frame : Delivered)
  | headerRejected (header : FrameHeader)
  | crcRejected (header : FrameHeader)
  deriving DecidableEq, Repr

/-- What a session was given and how it was reported. -/
structure SessionRecord where
  /-- The bytes that the client sends before it closes. -/
  stream : List UInt8
  /-- `received_frames` when the session starts. -/
  framesBefore : Nat
  sessionFrames : Nat
  completed : Bool
  deriving DecidableEq, Repr

structure ReceiverState where
  receivedFrames : Nat := 0
  receivedBytes : Nat := 0
  savedFiles : Nat := 0
  crcErrors : Nat := 0
  headerErrors : Nat := 0
  rejectedFrames : Nat := 0
  acceptedSessions : Nat := 0
  completedSessions : Nat := 0
  peerDisconnects : Nat := 0
  latencyClockErrors : Nat := 0
  e2eLatency : LatencyStats := []
  lastError : String := ""
  log : List ReceiverEvent := []
  sessions : List SessionRecord := []
  deriving DecidableEq, Repr

/-! ### One iteration -/

/-- The `break` statements of the session loop, and its condition becoming false. -/
inductive SessionExit where
  | frameLimit
  | headerClosed
  | decodeFailed (header : FrameHeader) (reason : String)
  | headerInvalid (header : FrameHeader) (reason : String)
  | payloadClosed (header : FrameHeader)
  | crcMismatch (header : FrameHeader)
  deriving DecidableEq, Repr

/-- `session_ok` after the loop. -/
def SessionExit.sessionOk : SessionExit → Bool
  | .frameLimit => true
  -- The source also takes this exit for a stream that ends inside a header.
  | .headerClosed => true
  | .decodeFailed _ _ => false
  | .headerInvalid _ _ => false
  | .payloadClosed _ => false
  | .crcMismatch _ => false

/-- `fatal_protocol_error` after the loop. -/
def SessionExit.fatal : SessionExit → Bool
  | .frameLimit => false
  | .headerClosed => false
  | .decodeFailed _ _ => true
  | .headerInvalid _ _ => true
  | .payloadClosed _ => false
  | .crcMismatch _ => true

/-- The statements in front of each `break`. -/
def ReceiverState.leave (st : ReceiverState) : SessionExit → ReceiverState
  | .frameLimit => st
  | .headerClosed => { st with peerDisconnects := st.peerDisconnects + 1 }
  | .decodeFailed header reason =>
    { st with
      headerErrors := st.headerErrors + 1
      rejectedFrames := st.rejectedFrames + 1
      lastError := "failed to decode frame header: " ++ reason
      log := st.log ++ [.headerRejected header] }
  | .headerInvalid header reason =>
    { st with
      headerErrors := st.headerErrors + 1
      rejectedFrames := st.rejectedFrames + 1
      lastError := "invalid frame header: " ++ reason
      log := st.log ++ [.headerRejected header] }
  | .payloadClosed header =>
    { st with
      peerDisconnects := st.peerDisconnects + 1
      lastError := "peer closed while reading payload for frame_id=" ++ toString header.frameId
      log := st.log ++ [.payloadAllocated header.payloadSize.toNat] }
  | .crcMismatch header =>
    { st with
      crcErrors := st.crcErrors + 1
      rejectedFrames := st.rejectedFrames + 1
      lastError := "payload crc mismatch for frame_id=" ++ toString header.frameId
      log := st.log ++ [.payloadAllocated header.payloadSize.toNat, .crcRejected header] }

/-- The latency sample and the counters of a frame that passed its checks. -/
def ReceiverState.countFrame (env : ReceiverEnv) (st : ReceiverState) (frame : Delivered) :
    ReceiverState :=
  let receiveCompleteNs := env.clock st.receivedFrames
  -- A capture time in the future gives no sample, only a count.
  let timed :=
    if receiveCompleteNs ≥ frame.1.captureTimestampNs then
      { st with e2eLatency :=
          addSampleUs st.e2eLatency (latencyUs receiveCompleteNs frame.1.captureTimestampNs) }
    else { st with latencyClockErrors := st.latencyClockErrors + 1 }
  { timed with
    receivedFrames := st.receivedFrames + 1
    receivedBytes := st.receivedBytes + frame.2.length
    log := st.log ++ [.payloadAllocated frame.1.payloadSize.toNat, .frameAccepted frame] }

/-- `save_payload` under the index of the frame just counted; it may throw. -/
def ReceiverState.saveFrame (cfg : ReceiverConfig) (env : ReceiverEnv) (st : ReceiverState)
    (frame : Delivered) : Except String ReceiverState :=
  if cfg.savePayloads then
    match env.saveFails st.receivedFrames with
    | some message => .error message
    | none => .ok { st with
        savedFiles := st.savedFiles + 1
        log := st.log ++ [.frameSaved st.receivedFrames frame] }
  else .ok st

/-- Counting a frame and then saving it. -/
def ReceiverState.receiveFrame (cfg : ReceiverConfig) (env : ReceiverEnv) (st : ReceiverState)
    (frame : Delivered) : Except String ReceiverState :=
  (st.countFrame env frame).saveFrame cfg env frame

inductive Iteration where
  | next (st : ReceiverState) (conn : Connection)
  | leave (exit : SessionExit)
  | throws (message : String)

def sessionStep (cfg : ReceiverConfig) (env : ReceiverEnv) (st : ReceiverState)
    (conn : Connection) : Iteration :=
  match readExact kWireHeaderSize conn with
  | (.failed errno, _) => .throws ("recv failed: " ++ env.strerror errno)
  | (.closed, _) => .leave .headerClosed
  | (.complete wireHeader, conn) =>
    -- `wire_header` has a fixed size, so decoding cannot fail; the branch is kept.
    let decoded := deserializeHeaderBytes (some wireHeader) {}
    let header := decoded.header
    if decoded.ok = false then .leave (.decodeFailed header decoded.reason)
    else
      match validateHeader header cfg.maxPayloadBytes with
      | .error reason => .leave (.headerInvalid header reason)
      | .ok () =>
        match readExact header.payloadSize.toNat conn with
        | (.failed errno, _) => .throws ("recv failed: " ++ env.strerror errno)
        | (.closed, _) => .leave (.payloadClosed header)
        | (.complete payload, conn) =>
          -- A damaged payload ends the session, it is not skipped.
          if computeCrc32 payload ≠ header.payloadCrc32 then .leave (.crcMismatch header)
          else
            match st.receiveFrame cfg env (header, payload) with
            | .error message => .throws message
            | .ok st => .next st conn

/-! ### What receiving a frame changes -/

/-- The log entries of one received frame. -/
def frameEvents (cfg : ReceiverConfig) (index : Nat) (frame : Delivered) : List ReceiverEvent :=
  [.payloadAllocated frame.1.payloadSize.toNat, .frameAccepted frame] ++
    if cfg.savePayloads then [.frameSaved index frame] else []

/-- Everything that receiving a frame changes, and that it changes nothing else. -/
structure FrameReceived (cfg : ReceiverConfig) (st : ReceiverState) (frame : Delivered)
    (st' : ReceiverState) : Prop where
  receivedFrames : st'.receivedFrames = st.receivedFrames + 1
  receivedBytes : st'.receivedBytes = st.receivedBytes + frame.2.length
  latency : st'.e2eLatency.length + st'.latencyClockErrors =
    st.e2eLatency.length + st.latencyClockErrors + 1
  savedFiles : st'.savedFiles = st.savedFiles + if cfg.savePayloads then 1 else 0
  log : st'.log = st.log ++ frameEvents cfg (st.receivedFrames + 1) frame
  errors : st'.headerErrors = st.headerErrors ∧ st'.crcErrors = st.crcErrors ∧
    st'.rejectedFrames = st.rejectedFrames
  sessionCounts : st'.acceptedSessions = st.acceptedSessions ∧
    st'.completedSessions = st.completedSessions ∧ st'.peerDisconnects = st.peerDisconnects ∧
    st'.sessions = st.sessions

theorem receiveFrame_ok {cfg : ReceiverConfig} {env : ReceiverEnv} {st st' : ReceiverState}
    {frame : Delivered} (received : st.receiveFrame cfg env frame = .ok st') :
    FrameReceived cfg st frame st' := by
  unfold ReceiverState.receiveFrame ReceiverState.saveFrame at received
  -- Both branches of the clock check leave one sample or one clock error more.
  by_cases late : env.clock st.receivedFrames ≥ frame.1.captureTimestampNs
  all_goals
    cases save : cfg.savePayloads with
    | true =>
      rw [save, if_pos rfl] at received
      split at received
      · cases received
      · cases received
        constructor <;> simp [ReceiverState.countFrame, late, save, frameEvents]
        omega
    | false =>
      rw [save, if_neg (by simp)] at received
      cases received
      constructor <;> simp [ReceiverState.countFrame, late, save, frameEvents]
      omega

theorem saveFails_of_error {cfg : ReceiverConfig} {env : ReceiverEnv} {st : ReceiverState}
    {frame : Delivered} {message : String}
    (failed : st.receiveFrame cfg env frame = .error message) :
    cfg.savePayloads = true ∧ ∃ index, env.saveFails index = some message := by
  rw [ReceiverState.receiveFrame, ReceiverState.saveFrame] at failed
  split at failed
  next save =>
    split at failed
    next message' fails =>
      cases failed
      exact ⟨save, _, fails⟩
    next => cases failed
  next => cases failed

/-! ### What an iteration does to the stream -/

/-- The outcomes of an iteration, each with the shape of the stream that leads to it. -/
inductive StepSpec (cfg : ReceiverConfig) (env : ReceiverEnv) (st : ReceiverState)
    (conn : Connection) : Iteration → Prop
  | accepted (frame : WireFrame cfg.maxPayloadBytes) (st' : ReceiverState) (conn' : Connection)
      (intact : frame.intact = true)
      (split : Socket.contents conn = frame.encode ++ Socket.contents conn')
      (kept : Socket.Reliable conn → Socket.Reliable conn')
      (saved : st.receiveFrame cfg env frame.delivered = .ok st') :
      StepSpec cfg env st conn (.next st' conn')
  | saveFailed (frame : WireFrame cfg.maxPayloadBytes) (message : String)
      (failed : st.receiveFrame cfg env frame.delivered = .error message) :
      StepSpec cfg env st conn (.throws message)
  | recvFailed (message : String) (unreliable : ¬ Socket.Reliable conn) :
      StepSpec cfg env st conn (.throws message)
  | headerClosed (short : (Socket.contents conn).length < kWireHeaderSize) :
      StepSpec cfg env st conn (.leave .headerClosed)
  | headerInvalid (header : FrameHeader) (reason : String) (rest : List UInt8)
      (invalid : validateHeader header cfg.maxPayloadBytes = .error reason)
      (split : Socket.contents conn = wireBytes header ++ rest) :
      StepSpec cfg env st conn (.leave (.headerInvalid header reason))
  | payloadClosed (header : FrameHeader) (rest : List UInt8)
      (valid : validateHeader header cfg.maxPayloadBytes = .ok ())
      (split : Socket.contents conn = wireBytes header ++ rest)
      (short : rest.length < header.payloadSize.toNat) :
      StepSpec cfg env st conn (.leave (.payloadClosed header))
  | crcMismatch (frame : WireFrame cfg.maxPayloadBytes) (rest : List UInt8)
      (damaged : frame.intact = false)
      (split : Socket.contents conn = frame.encode ++ rest) :
      StepSpec cfg env st conn (.leave (.crcMismatch frame.header))

theorem sessionStep_spec (cfg : ReceiverConfig) (env : ReceiverEnv) (st : ReceiverState)
    (conn : Connection) : StepSpec cfg env st conn (sessionStep cfg env st conn) := by
  have first := readExact_spec kWireHeaderSize conn
  unfold sessionStep
  cases headerRead : readExact kWireHeaderSize conn with
  | mk outcome afterHeader =>
    rw [headerRead] at first
    cases outcome with
    | failed errno => exact .recvFailed _ first
    | closed => exact .headerClosed first
    | complete wireHeader =>
      obtain ⟨size, headerSplit, headerKept⟩ := first
      simp only [deserializeHeaderBytes_of_length wireHeader {} size, Bool.true_eq_false, if_false]
      -- From here on the stream starts with the wire form of a header.
      have wire : wireHeader = wireBytes (decodeFields wireHeader) :=
        (wireBytes_decodeFields wireHeader size).symm
      generalize decodeFields wireHeader = header at wire ⊢
      subst wire
      cases valid : validateHeader header cfg.maxPayloadBytes with
      | error reason => exact .headerInvalid header reason _ valid headerSplit
      | ok _ =>
        have second := readExact_spec header.payloadSize.toNat afterHeader
        cases payloadRead : readExact header.payloadSize.toNat afterHeader with
        | mk outcome afterPayload =>
          rw [payloadRead] at second
          cases outcome with
          | failed errno =>
            exact .recvFailed _ (fun reliable => second (headerKept reliable))
          | closed => exact .payloadClosed header _ valid headerSplit second
          | complete payload =>
            obtain ⟨payloadSize, payloadSplit, payloadKept⟩ := second
            let frame : WireFrame cfg.maxPayloadBytes := ⟨header, payload, valid, payloadSize⟩
            -- Both reads together took exactly one frame.
            have split : Socket.contents conn = frame.encode ++ Socket.contents afterPayload := by
              rw [headerSplit, payloadSplit, WireFrame.encode, serializeHeader_toList,
                List.append_assoc]
            by_cases same : computeCrc32 payload = header.payloadCrc32
            · have intact : frame.intact = true := by simp [frame, WireFrame.intact, same]
              simp only [same, ne_eq, not_true_eq_false, if_false]
              cases saved : st.receiveFrame cfg env (header, payload) with
              | error message => exact .saveFailed frame message saved
              | ok st' =>
                exact .accepted frame st' _ intact split (payloadKept ∘ headerKept) saved
            · have damaged : frame.intact = false := by simp [frame, WireFrame.intact, same]
              simp only [same, ne_eq, not_false_eq_true, if_true]
              exact .crcMismatch frame _ damaged split

/-- An accepted frame takes at least its header from the stream. -/
theorem sessionStep_shorter {cfg : ReceiverConfig} {env : ReceiverEnv} {st st' : ReceiverState}
    {conn conn' : Connection} (step : sessionStep cfg env st conn = .next st' conn') :
    (Socket.contents conn').length < (Socket.contents conn).length := by
  have spec := sessionStep_spec cfg env st conn
  rw [step] at spec
  cases spec with
  | accepted frame _ _ _ split =>
    rw [split, List.length_append, frame.encode_length, kWireHeaderSize]
    omega

/-! ### The loop -/

/-- `static_cast<int>` of an unsigned counter. -/
def staticCastInt (n : Nat) : Int := Int.bmod n (2 ^ 32)

/-- `max_frames <= 0 || static_cast<int>(received_frames) < max_frames`. -/
def roomForFrames (cfg : ReceiverConfig) (receivedFrames : Nat) : Bool :=
  decide (cfg.maxFrames ≤ 0 ∨ staticCastInt receivedFrames < (cfg.maxFrames : Int))

inductive SessionEnd where
  | left (exit : SessionExit) (st : ReceiverState) (sessionFrames : Nat)
  | threw (message : String)
  deriving DecidableEq, Repr

def sessionLoop (cfg : ReceiverConfig) (env : ReceiverEnv) (st : ReceiverState)
    (sessionFrames : Nat) (conn : Connection) : SessionEnd :=
  if roomForFrames cfg st.receivedFrames then
    match _step : sessionStep cfg env st conn with
    | .throws message => .threw message
    | .leave exit => .left exit (st.leave exit) sessionFrames
    | .next st conn => sessionLoop cfg env st (sessionFrames + 1) conn
  else .left .frameLimit (st.leave .frameLimit) sessionFrames
termination_by (Socket.contents conn).length
decreasing_by exact sessionStep_shorter _step

theorem sessionLoop_room {cfg : ReceiverConfig} {env : ReceiverEnv} {st : ReceiverState}
    {sessionFrames : Nat} {conn : Connection} (room : roomForFrames cfg st.receivedFrames) :
    sessionLoop cfg env st sessionFrames conn =
      match sessionStep cfg env st conn with
      | .throws message => .threw message
      | .leave exit => .left exit (st.leave exit) sessionFrames
      | .next st conn => sessionLoop cfg env st (sessionFrames + 1) conn := by
  rw [sessionLoop, if_pos room]
  split <;> next step => rw [step]

/-- Why a session that has received `receivedFrames` frames was left, in terms of the
bytes behind its last frame. -/
inductive ExitSpec (cfg : ReceiverConfig) (receivedFrames : Nat) :
    SessionExit → List UInt8 → Prop
  | frameLimit {tail : List UInt8} (full : roomForFrames cfg receivedFrames = false) :
      ExitSpec cfg receivedFrames .frameLimit tail
  | headerClosed {tail : List UInt8} (room : roomForFrames cfg receivedFrames = true)
      (short : tail.length < kWireHeaderSize) : ExitSpec cfg receivedFrames .headerClosed tail
  | headerInvalid (header : FrameHeader) (reason : String) (rest : List UInt8)
      (invalid : validateHeader header cfg.maxPayloadBytes = .error reason) :
      ExitSpec cfg receivedFrames (.headerInvalid header reason) (wireBytes header ++ rest)
  | payloadClosed (header : FrameHeader) (rest : List UInt8)
      (valid : validateHeader header cfg.maxPayloadBytes = .ok ())
      (short : rest.length < header.payloadSize.toNat) :
      ExitSpec cfg receivedFrames (.payloadClosed header) (wireBytes header ++ rest)
  | crcMismatch (frame : WireFrame cfg.maxPayloadBytes) (rest : List UInt8)
      (damaged : frame.intact = false) :
      ExitSpec cfg receivedFrames (.crcMismatch frame.header) (frame.encode ++ rest)

/-- Without the frame limit, a session ends where no frame is complete, or in front of a
damaged one. -/
theorem ExitSpec.stuck_or_damaged {cfg : ReceiverConfig} {receivedFrames : Nat}
    {exit : SessionExit} {tail : List UInt8} (spec : ExitSpec cfg receivedFrames exit tail) :
    Stuck cfg.maxPayloadBytes tail ∨
      exit = .frameLimit ∧ roomForFrames cfg receivedFrames = false ∨
      ∃ (frame : WireFrame cfg.maxPayloadBytes) (rest : List UInt8),
        frame.intact = false ∧ tail = frame.encode ++ rest := by
  cases spec with
  | frameLimit full => exact .inr (.inl ⟨rfl, full⟩)
  | headerClosed room short => exact .inl (stuck_of_short tail short)
  | headerInvalid header reason rest invalid =>
    exact .inl (stuck_of_header header rest fun valid => by rw [invalid] at valid; cases valid)
  | payloadClosed header rest valid short =>
    exact .inl (stuck_of_header header rest fun _ => short)
  | crcMismatch frame rest damaged => exact .inr (.inr ⟨frame, rest, damaged, rfl⟩)

/-- Run lemma of a session: what it leaves behind is determined by the intact frames
at the head of the stream and by the exit that the rest of the stream explains. -/
theorem sessionLoop_left {cfg : ReceiverConfig} {env : ReceiverEnv} {st : ReceiverState}
    {sessionFrames : Nat} {conn : Connection} {exit : SessionExit} {st' : ReceiverState}
    {frames' : Nat} (left : sessionLoop cfg env st sessionFrames conn = .left exit st' frames') :
    ∃ (frames : List (WireFrame cfg.maxPayloadBytes)) (tail : List UInt8) (last : ReceiverState),
      (∀ frame ∈ frames, frame.intact = true) ∧
      Socket.contents conn = encodeFrames frames ++ tail ∧
      (frames.map WireFrame.delivered).foldlM (ReceiverState.receiveFrame cfg env) st = .ok last ∧
      (∀ k < frames.length, roomForFrames cfg (st.receivedFrames + k) = true) ∧
      ExitSpec cfg (st.receivedFrames + frames.length) exit tail ∧ st' = last.leave exit ∧
      frames' = sessionFrames + frames.length := by
  -- The induction follows the loop: an accepted frame goes in front of those of the rest.
  induction st, sessionFrames, conn using sessionLoop.induct cfg env with
  | case1 st sessionFrames conn room message step =>
    rw [sessionLoop_room room, step] at left
    cases left
  | case2 st sessionFrames conn room exit' step =>
    have spec := sessionStep_spec cfg env st conn
    rw [step] at spec
    rw [sessionLoop_room room, step] at left
    obtain ⟨rfl, rfl, rfl⟩ := SessionEnd.left.inj left
    refine ⟨[], Socket.contents conn, st, by simp, rfl, rfl, by simp, ?_, rfl, rfl⟩
    cases spec with
    | headerClosed short => exact .headerClosed room short
    | headerInvalid header reason rest invalid split =>
      rw [split]
      exact .headerInvalid header reason rest invalid
    | payloadClosed header rest valid split short =>
      rw [split]
      exact .payloadClosed header rest valid short
    | crcMismatch frame rest damaged split =>
      rw [split]
      exact .crcMismatch frame rest damaged
  | case3 st sessionFrames conn room next conn' step ih =>
    have spec := sessionStep_spec cfg env st conn
    rw [step] at spec
    rw [sessionLoop_room room, step] at left
    cases spec with
    | accepted frame _ _ intact split _ saved =>
      obtain ⟨frames, tail, last, allIntact, rest, received, rooms, exitSpec, leaves, count⟩ :=
        ih left
      have counted := (receiveFrame_ok saved).receivedFrames
      refine ⟨frame :: frames, tail, last, ?_, ?_, ?_, ?_, ?_, leaves, ?_⟩
      · intro f member
        rcases List.mem_cons.mp member with rfl | later
        · exact intact
        · exact allIntact f later
      · rw [split, rest, encodeFrames, encodeFrames, List.flatMap_cons, List.append_assoc]
      · rw [List.map_cons, List.foldlM_cons, saved]
        exact received
      -- The loop condition held for this frame, and by induction for the later ones.
      · intro k bound
        cases k with
        | zero => exact room
        | succ k =>
          have later := rooms k (by simpa using bound)
          rwa [counted, Nat.add_assoc, Nat.add_comm 1 k] at later
      · rwa [counted, Nat.add_assoc, Nat.add_comm 1] at exitSpec
      · rw [count, List.length_cons]
        omega
  | case4 st sessionFrames conn full =>
    rw [sessionLoop, if_neg full] at left
    obtain ⟨rfl, rfl, rfl⟩ := SessionEnd.left.inj left
    exact ⟨[], Socket.contents conn, st, by simp, rfl, rfl, by simp,
      .frameLimit (by simpa using full), rfl, rfl⟩

end V4l2Capture.Receiver
