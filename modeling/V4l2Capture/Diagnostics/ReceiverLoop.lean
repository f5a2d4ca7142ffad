import V4l2Capture.Diagnostics.HeaderMisalignment
import V4l2Capture.Library.Transition

/-!
# The receiver thread of the diagnostics node

`receiver_loop` listens, accepts one client after the other and lets `handle_client` serve
it. A step of the thread is a round of the accept loop or an iteration of `handle_client`.
`LoopConsistent` is the invariant that relates the counters of the node in every state
between two steps.
-/
namespace V4l2Capture.Diagnostics

open Protocol Receiver Stats

/-- The parameters that the receiver thread reads. -/
structure LoopConfig extends NodeConfig where
  maxSessions : Nat

/-- Where the receiver thread stands. -/
inductive Place where
  | starting
  | listening
  | serving (input : NodeInput)
  | finished
  deriving DecidableEq, Repr

structure LoopState where
  node : NodeState := {}
  acceptedSessions : Nat := 0
  completedSessions : Nat := 0
  connectionState : String := "starting"
  stateMessage : String := "initializing TCP camera adapter"
  place : Place := .starting
  deriving DecidableEq, Repr

/-! ### The environment of a step -/

/-- The outcomes of the calls that open the listening socket. -/
structure ListenSetup where
  socket : Option Errno := none
  setsockopt : Option Errno := none
  addressValid : Bool := true
  bind : Option Errno := none
  listen : Option Errno := none
  deriving DecidableEq, Repr

inductive AcceptResult where
  | interrupted
  | failed (errno : Errno)
  -- The peer's address as text, its port, and what serving it will meet.
  | connected (peer : Option String) (port : Nat) (input : NodeInput)
  deriving DecidableEq, Repr

/-- What a round of the accept loop meets: the loads of the stop flag in the loop condition,
behind a failed call and in the `catch` block, and the two system calls. -/
structure LoopRound where
  stop : Bool := false
  poll : PollResult := .ready { pollIn := true }
  accept : AcceptResult := .interrupted
  stopAtFailure : Bool := false
  stopAtCatch : Bool := false
  deriving DecidableEq, Repr

inductive LoopAction where
  | setup (outcome : ListenSetup) (stopAtCatch : Bool)
  | round (met : LoopRound)
  -- An iteration of `handle_client`, with the load of the stop flag behind the session.
  | iterate (stopAfterSession : Bool)
  deriving DecidableEq, Repr

/-! ### The steps -/

def openListener (strerror : Errno → String) (outcome : ListenSetup) : Except String Unit :=
  match outcome.socket, outcome.setsockopt, outcome.addressValid, outcome.bind,
    outcome.listen with
  | some errno, _, _, _, _ => .error ("socket failed: " ++ strerror errno)
  | none, some errno, _, _, _ => .error ("setsockopt(SO_REUSEADDR) failed: " ++ strerror errno)
  | none, none, false, _, _ => .error "listen_address must be a valid IPv4 address"
  | none, none, true, some errno, _ => .error ("bind failed: " ++ strerror errno)
  | none, none, true, none, some errno => .error ("listen failed: " ++ strerror errno)
  | none, none, true, none, none => .ok ()

def LoopState.setConnectionState (s : LoopState) (state message : String) : LoopState :=
  { s with connectionState := state, stateMessage := message }

/-- The `catch` block, behind which the thread ends. -/
def LoopState.fail (s : LoopState) (text : String) (stop : Bool) : LoopState :=
  if stop then { s with place := .finished }
  else
    { s with
      node := { s.node with lastError := text }
      connectionState := "error"
      stateMessage := text
      place := .finished }

/-- A failed call inside the accept loop: it ends the loop when a stop is requested. -/
def LoopState.failUnlessStopped (s : LoopState) (text : String) (met : LoopRound) : LoopState :=
  if met.stopAtFailure then { s with place := .finished } else s.fail text met.stopAtCatch

def acceptRound (env : NodeEnv) (s : LoopState) (met : LoopRound) : LoopState :=
  match met.accept with
  | .interrupted => s
  | .failed errno => s.failUnlessStopped ("accept failed: " ++ env.strerror errno) met
  | .connected peer port input =>
    { s with
      acceptedSessions := s.acceptedSessions + 1
      connectionState := "connected"
      stateMessage := "receiving frames from " ++ peer.getD "unknown" ++ ":" ++ toString port
      place := .serving input }

/-- One round of the accept loop. -/
def listenRound (cfg : LoopConfig) (env : NodeEnv) (s : LoopState) (met : LoopRound) :
    LoopState :=
  if met.stop then { s with place := .finished }
  else if cfg.maxFrames > 0 ∧ s.node.receivedFrames ≥ cfg.maxFrames then
    { s.setConnectionState "stopped" "configured frame limit reached" with place := .finished }
  else if cfg.maxSessions > 0 ∧ s.acceptedSessions ≥ cfg.maxSessions then
    { s.setConnectionState "stopped" "configured session limit reached" with place := .finished }
  else
    match met.poll with
    | .timeout => s
    | .interrupted => s
    | .failed errno => s.failUnlessStopped ("listen poll failed: " ++ env.strerror errno) met
    | .ready revents =>
      if revents.pollNval then s.failUnlessStopped "listening socket became invalid" met
      else if revents.pollIn = false then s
      else acceptRound env s met

/-- The statements behind `handle_client`. -/
def LoopState.closeSession (s : LoopState) (stop : Bool) : LoopState :=
  let s := { s with completedSessions := s.completedSessions + 1, place := .listening }
  if stop then s else s.setConnectionState "listening" "waiting for the next TCP frame sender"

def loopStep (cfg : LoopConfig) (env : NodeEnv) (s : LoopState) : LoopAction → Option LoopState
  | .setup outcome stopAtCatch =>
    match s.place with
    | .starting =>
      some (match openListener env.strerror outcome with
        | .error text => s.fail text stopAtCatch
        | .ok () =>
          { s.setConnectionState "listening" "waiting for a protocol v3 TCP frame sender" with
            place := .listening })
    | _ => none
  | .round met =>
    match s.place with
    | .listening => some (listenRound cfg env s met)
    | _ => none
  | .iterate stopAfterSession =>
    match s.place with
    | .serving input =>
      some (match nodeStep cfg.toNodeConfig env s.node input with
        | .returns node => { s with node := node }.closeSession stopAfterSession
        | .next node input => { s with node := node, place := .serving input })
    | _ => none

/-! ### The counters of the node -/

/-- The counters of the node agree with each other and with the frames received. -/
structure NodeConsistent (cfg : NodeConfig) (st : NodeState) : Prop where
  rejected : st.rejectedFrames = st.headerErrors + st.crcErrors
  latency : st.receivedFrames = st.e2eLatency.length + st.latencyClockErrors
  images : cfg.publishImages = true →
    st.receivedFrames = st.publishedImages + st.imagePublishErrors
  frames : st.receivedFrames = st.accepted.length
  bytes : st.receivedBytes = (st.accepted.map (·.2.length)).sum
  frameLimit : 0 < cfg.maxFrames → st.receivedFrames ≤ cfg.maxFrames

theorem nodeConsistent_initial (cfg : NodeConfig) : NodeConsistent cfg {} where
  rejected := rfl
  latency := rfl
  images _ := rfl
  frames := rfl
  bytes := rfl
  frameLimit _ := Nat.zero_le _

/-- What timing a frame changes. -/
structure FrameTimed (st st' : NodeState) : Prop where
  latency : st'.e2eLatency.length + st'.latencyClockErrors =
    st.e2eLatency.length + st.latencyClockErrors + 1
  counters : st'.receivedFrames = st.receivedFrames ∧ st'.receivedBytes = st.receivedBytes ∧
    st'.publishedImages = st.publishedImages ∧ st'.imagePublishErrors = st.imagePublishErrors
  errors : st'.rejectedFrames = st.rejectedFrames ∧ st'.headerErrors = st.headerErrors ∧
    st'.crcErrors = st.crcErrors
  accepted : st'.accepted = st.accepted

theorem timeFrame_spec (st : NodeState) (header : FrameHeader) (now : UInt64) :
    FrameTimed st (timeFrame st header now) := by
  rw [timeFrame]
  split
  · refine ⟨?_, ⟨rfl, rfl, rfl, rfl⟩, ⟨rfl, rfl, rfl⟩, rfl⟩
    simp only [addSampleUs_latencyUs_length]
    omega
  · exact ⟨rfl, ⟨rfl, rfl, rfl, rfl⟩, ⟨rfl, rfl, rfl⟩, rfl⟩

/-- What publishing a frame changes. -/
structure FramePublished (cfg : NodeConfig) (st st' : NodeState) : Prop where
  images : cfg.publishImages = true → st'.publishedImages + st'.imagePublishErrors =
    st.publishedImages + st.imagePublishErrors + 1
  counters : st'.receivedFrames = st.receivedFrames ∧ st'.receivedBytes = st.receivedBytes
  latency : st'.e2eLatency = st.e2eLatency ∧ st'.latencyClockErrors = st.latencyClockErrors
  errors : st'.rejectedFrames = st.rejectedFrames ∧ st'.headerErrors = st.headerErrors ∧
    st'.crcErrors = st.crcErrors
  accepted : st'.accepted = st.accepted

theorem publishFrame_spec (cfg : NodeConfig) (env : NodeEnv) (st : NodeState)
    (header : FrameHeader) : FramePublished cfg st (publishFrame cfg env st header) := by
  rw [publishFrame]
  split
  next off =>
    refine ⟨?_, ⟨rfl, rfl⟩, ⟨rfl, rfl⟩, ⟨rfl, rfl, rfl⟩, rfl⟩
    intro on
    rw [off] at on
    cases on
  · split
    -- A format that cannot be published is an error, and so is an exception.
    · exact ⟨fun _ => rfl, ⟨rfl, rfl⟩, ⟨rfl, rfl⟩, ⟨rfl, rfl, rfl⟩, rfl⟩
    · split
      · refine ⟨fun _ => ?_, ⟨rfl, rfl⟩, ⟨rfl, rfl⟩, ⟨rfl, rfl, rfl⟩, rfl⟩
        simp only
        omega
      · exact ⟨fun _ => rfl, ⟨rfl, rfl⟩, ⟨rfl, rfl⟩, ⟨rfl, rfl, rfl⟩, rfl⟩

/-- Step lemma: a frame that passed its checks, below the frame limit. -/
theorem NodeConsistent.acceptFrame {cfg : NodeConfig} {st : NodeState}
    (inv : NodeConsistent cfg st) (env : NodeEnv) {header : FrameHeader} {payload : List UInt8}
    (size : payload.length = header.payloadSize.toNat)
    (room : 0 < cfg.maxFrames → st.receivedFrames < cfg.maxFrames) :
    NodeConsistent cfg (acceptFrame cfg env st header payload) := by
  have timed := timeFrame_spec st header (env.clock st.receivedFrames)
  rw [Diagnostics.acceptFrame]
  generalize timeFrame st header (env.clock st.receivedFrames) = after at timed ⊢
  have published := publishFrame_spec cfg env { after with
    receivedFrames := after.receivedFrames + 1
    receivedBytes := after.receivedBytes + header.payloadSize.toNat
    lastFrameId := header.frameId
    lastWidth := header.width
    lastHeight := header.height
    lastPixelFormat := header.pixelFormat
    lastCaptureTimestampNs := header.captureTimestampNs
    lastReceiveTimestampNs := env.clock st.receivedFrames
    accepted := after.accepted ++ [(header, payload)] } header
  obtain ⟨frames, bytes, images, imageErrors⟩ := timed.counters
  obtain ⟨rejected, headers, crcs⟩ := timed.errors
  have latency := timed.latency
  constructor
  case rejected =>
    rw [published.errors.1, published.errors.2.1, published.errors.2.2, rejected, headers, crcs]
    exact inv.rejected
  case latency =>
    rw [published.counters.1, published.latency.1, published.latency.2, frames, latency,
      inv.latency]
  case images =>
    intro on
    rw [published.counters.1, published.images on, frames, images, imageErrors, inv.images on]
  case frames =>
    rw [published.counters.1, published.accepted, List.length_append, timed.accepted, frames,
      inv.frames]
    rfl
  case bytes =>
    rw [published.counters.2, published.accepted, List.map_append, List.sum_append,
      timed.accepted, bytes, inv.bytes, ← size]
    rfl
  case frameLimit =>
    intro limited
    rw [published.counters.1, frames]
    exact room limited

/-- The node behind an iteration. -/
def NodeIteration.node : NodeIteration → NodeState
  | .returns st => st
  | .next st _ => st

/-- Step lemma: an iteration of `handle_client`, on each of its exits. -/
theorem nodeStep_consistent {cfg : NodeConfig} {st : NodeState} (inv : NodeConsistent cfg st)
    (env : NodeEnv) (input : NodeInput) : NodeConsistent cfg (nodeStep cfg env st input).node := by
  rw [nodeStep]
  split
  · exact inv
  · by_cases full : cfg.maxFrames > 0 ∧ st.receivedFrames ≥ cfg.maxFrames
    · rw [if_pos full]
      exact inv
    · rw [if_neg full, headerStep]
      split
      · exact { inv with }
      · exact inv
      · exact { inv with }
      next memory _ _ =>
        simp only
        split
        · refine { inv with rejected := ?_ }
          simp only [NodeIteration.node, inv.rejected]
          omega
        · rw [payloadStep]
          split
          · exact { inv with }
          · exact { inv with }
          · exact inv
          next payload _ read =>
            split
            · refine { inv with rejected := ?_ }
              simp only [NodeIteration.node, inv.rejected]
              omega
            · apply inv.acceptFrame env
              · exact (readInterruptible_ok read).1
              · intro limited
                omega

/-! ### The sessions -/

/-- The invariant of the receiver thread. -/
structure LoopConsistent (cfg : LoopConfig) (s : LoopState) : Prop where
  node : NodeConsistent cfg.toNodeConfig s.node
  /-- Exactly the client being served is accepted and not completed. -/
  sessions : s.acceptedSessions = s.completedSessions +
    match s.place with
    | .serving _ => 1
    | _ => 0
  sessionLimit : 0 < cfg.maxSessions → s.acceptedSessions ≤ cfg.maxSessions

theorem loopConsistent_initial (cfg : LoopConfig) : LoopConsistent cfg {} where
  node := nodeConsistent_initial _
  sessions := rfl
  sessionLimit _ := Nat.zero_le _

/-- The thread ends, whether or not it reports a failure. -/
theorem LoopConsistent.fail {cfg : LoopConfig} {s : LoopState} (inv : LoopConsistent cfg s)
    (between : s.acceptedSessions = s.completedSessions) (text : String) (stop : Bool) :
    LoopConsistent cfg (s.fail text stop) := by
  rw [LoopState.fail]
  split
  · exact ⟨inv.node, between, inv.sessionLimit⟩
  · exact ⟨{ inv.node with }, between, inv.sessionLimit⟩

theorem LoopConsistent.failUnlessStopped {cfg : LoopConfig} {s : LoopState}
    (inv : LoopConsistent cfg s) (between : s.acceptedSessions = s.completedSessions)
    (text : String) (met : LoopRound) : LoopConsistent cfg (s.failUnlessStopped text met) := by
  rw [LoopState.failUnlessStopped]
  split
  · exact ⟨inv.node, between, inv.sessionLimit⟩
  · exact inv.fail between text met.stopAtCatch

theorem LoopConsistent.acceptRound {cfg : LoopConfig} {s : LoopState}
    (inv : LoopConsistent cfg s) (between : s.acceptedSessions = s.completedSessions)
    (more : 0 < cfg.maxSessions → s.acceptedSessions < cfg.maxSessions) (env : NodeEnv)
    (met : LoopRound) : LoopConsistent cfg (acceptRound env s met) := by
  rw [Diagnostics.acceptRound]
  split
  · exact inv
  · exact inv.failUnlessStopped between _ met
  · refine ⟨inv.node, ?_, more⟩
    simp only [between]

/-- Step lemma: a round of the accept loop. -/
theorem LoopConsistent.listenRound {cfg : LoopConfig} {s : LoopState}
    (inv : LoopConsistent cfg s) (between : s.acceptedSessions = s.completedSessions)
    (env : NodeEnv) (met : LoopRound) : LoopConsistent cfg (listenRound cfg env s met) := by
  rw [Diagnostics.listenRound]
  split
  · exact ⟨inv.node, between, inv.sessionLimit⟩
  split
  · exact ⟨inv.node, between, inv.sessionLimit⟩
  split
  · exact ⟨inv.node, between, inv.sessionLimit⟩
  next notFull =>
    split
    · exact inv
    · exact inv
    · exact inv.failUnlessStopped between _ met
    · split
      · exact inv.failUnlessStopped between _ met
      · split
        · exact inv
        · apply inv.acceptRound between
          intro limited
          omega

theorem LoopConsistent.closeSession {cfg : LoopConfig} {s : LoopState} {node : NodeState}
    (consistent : NodeConsistent cfg.toNodeConfig node)
    (serving : s.acceptedSessions = s.completedSessions + 1)
    (limit : 0 < cfg.maxSessions → s.acceptedSessions ≤ cfg.maxSessions) (stop : Bool) :
    LoopConsistent cfg ({ s with node := node }.closeSession stop) := by
  rw [LoopState.closeSession]
  split
  · exact ⟨consistent, serving, limit⟩
  · exact ⟨consistent, serving, limit⟩

theorem LoopConsistent.step {cfg : LoopConfig} {env : NodeEnv} {s s' : LoopState}
    {action : LoopAction} (inv : LoopConsistent cfg s)
    (taken : loopStep cfg env s action = some s') : LoopConsistent cfg s' := by
  have sessions := inv.sessions
  cases action with
  | setup outcome stopAtCatch =>
    simp only [loopStep] at taken
    split at taken
    next starting =>
      rw [starting] at sessions
      cases taken
      split
      · exact inv.fail sessions _ _
      · exact ⟨inv.node, sessions, inv.sessionLimit⟩
    · cases taken
  | round met =>
    simp only [loopStep] at taken
    split at taken
    next listening =>
      rw [listening] at sessions
      cases taken
      exact inv.listenRound sessions env met
    · cases taken
  | iterate stopAfterSession =>
    simp only [loopStep] at taken
    split at taken
    next input serving =>
      rw [serving] at sessions
      cases taken
      have node := nodeStep_consistent inv.node env input
      split
      next node' left =>
        rw [left] at node
        exact LoopConsistent.closeSession node sessions inv.sessionLimit _
      next node' input' again =>
        rw [again] at node
        exact ⟨node, sessions, inv.sessionLimit⟩
    · cases taken

/-- The counters of the node in every state that the receiver thread reaches, in the middle of
a session and behind it, whatever its clients send and its calls return. -/
theorem receiverLoop_counters (cfg : LoopConfig) (env : NodeEnv) (s : LoopState)
    (reached : Transition.Reaches (loopStep cfg env) {} s) :
    s.node.rejectedFrames = s.node.headerErrors + s.node.crcErrors ∧
    s.node.receivedFrames = s.node.e2eLatency.length + s.node.latencyClockErrors ∧
    (cfg.publishImages = true →
      s.node.receivedFrames = s.node.publishedImages + s.node.imagePublishErrors) ∧
    (s.node.receivedFrames = s.node.accepted.length ∧
      s.node.receivedBytes = (s.node.accepted.map (·.2.length)).sum) ∧
    (s.completedSessions ≤ s.acceptedSessions ∧
      s.acceptedSessions ≤ s.completedSessions + 1) ∧
    (0 < cfg.maxFrames → s.node.receivedFrames ≤ cfg.maxFrames) ∧
    (0 < cfg.maxSessions → s.acceptedSessions ≤ cfg.maxSessions) := by
  have inv : LoopConsistent cfg s := by
    apply Transition.invariant (LoopConsistent cfg) (loopConsistent_initial cfg) ?_ reached
    intro before action after _ holds taken
    exact holds.step taken
  have sessions := inv.sessions
  refine ⟨inv.node.rejected, inv.node.latency, inv.node.images, ⟨inv.node.frames, inv.node.bytes⟩,
    ?_, inv.node.frameLimit, inv.sessionLimit⟩
  split at sessions <;> omega

/-- A node that publishes images and serves one session. -/
def imageNode : LoopConfig where
  maxFrames := 0
  maxPayloadBytes := kDefaultMaxPayloadBytes
  publishImages := true
  maxSessions := 1

/-- A client that sends one frame in the layout the node reads, and closes. -/
def clientInput : NodeInput where
  conn := byteByByte ((serializeHeader smallFrame.header).toList ++ [0, 0, 0, 0] ++
    smallFrame.payload)

def oneClient : List LoopAction :=
  [.setup {} false, .round { accept := .connected (some "127.0.0.1") 5000 clientInput },
    .iterate false, .iterate false]

/-- `receiverLoop_counters` behind a session with one frame, which is no YUYV image. -/
theorem receiverLoop_counters_oneClient :
    ∃ s, Transition.Reaches (loopStep imageNode plainNodeEnv) {} s ∧ s.completedSessions = 1 ∧
      s.node.receivedFrames = 1 ∧
      s.node.receivedFrames = s.node.publishedImages + s.node.imagePublishErrors := by
  obtain ⟨s, reached, done, received⟩ : ∃ s, Transition.Reaches (loopStep imageNode plainNodeEnv)
      {} s ∧ s.completedSessions = 1 ∧ s.node.receivedFrames = 1 :=
    Transition.exists_reached oneClient (by decide +kernel)
  exact ⟨s, reached, done, received,
    (receiverLoop_counters imageNode plainNodeEnv s reached).2.2.1 rfl⟩

end V4l2Capture.Diagnostics
