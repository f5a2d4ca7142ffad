import V4l2Capture.Diagnostics.ReceiverLoop
import V4l2Capture.Library.Sampling
import V4l2Capture.Stats.LatencySummary

/-!
# The accesses of the receiver thread

The receiver thread changes what it shares with the timer of the node one access at a time: an
atomic counter, a stored field, or a text under the mutex of the state. `loopAccesses` lists
the accesses of a step in the order of the source, and `loopAccesses_replay` says that they
make the step of `loopStep`.
-/
namespace V4l2Capture.Diagnostics

open Protocol Receiver Stats Sampling

inductive NodeCounter where
  | receivedFrames
  | receivedBytes
  | acceptedSessions
  | completedSessions
  | peerDisconnects
  | headerErrors
  | crcErrors
  | rejectedFrames
  | publishedImages
  | imagePublishErrors
  | latencyClockErrors
  deriving DecidableEq, Repr

/-- The fields that describe the last frame received, each an atomic of its own. -/
structure LastFrame where
  frameId : UInt64 := 0
  width : UInt32 := 0
  height : UInt32 := 0
  pixelFormat : UInt32 := 0
  captureTimestampNs : UInt64 := 0
  receiveTimestampNs : UInt64 := 0
  deriving DecidableEq, Repr

/-- What the receiver thread writes and the timer reads. -/
structure NodeShared where
  counters : NodeCounter → Nat := fun _ => 0
  last : LastFrame := {}
  e2eLatency : LatencyStats := []
  connectionState : String := "starting"
  stateMessage : String := "initializing TCP camera adapter"
  lastError : String := ""

def LoopState.counter (s : LoopState) : NodeCounter → Nat
  | .receivedFrames => s.node.receivedFrames
  | .receivedBytes => s.node.receivedBytes
  | .acceptedSessions => s.acceptedSessions
  | .completedSessions => s.completedSessions
  | .peerDisconnects => s.node.peerDisconnects
  | .headerErrors => s.node.headerErrors
  | .crcErrors => s.node.crcErrors
  | .rejectedFrames => s.node.rejectedFrames
  | .publishedImages => s.node.publishedImages
  | .imagePublishErrors => s.node.imagePublishErrors
  | .latencyClockErrors => s.node.latencyClockErrors

/-- The shared part of the state of the receiver thread. -/
def LoopState.shared (s : LoopState) : NodeShared where
  counters := s.counter
  last := {
    frameId := s.node.lastFrameId
    width := s.node.lastWidth
    height := s.node.lastHeight
    pixelFormat := s.node.lastPixelFormat
    captureTimestampNs := s.node.lastCaptureTimestampNs
    receiveTimestampNs := s.node.lastReceiveTimestampNs }
  e2eLatency := s.node.e2eLatency
  connectionState := s.connectionState
  stateMessage := s.stateMessage
  lastError := s.node.lastError

/-! ### Single accesses -/

inductive NodeAccess where
  | add (counter : NodeCounter) (amount : Nat)
  | addSampleUs (sample : Double)
  | store (field : LastFrame → LastFrame)
  | setConnectionState (state message : String)
  | setLastError (message : String)

def NodeShared.access (s : NodeShared) : NodeAccess → NodeShared
  | .add counter amount =>
    { s with counters := fun c => if c = counter then s.counters c + amount else s.counters c }
  | .addSampleUs sample => { s with e2eLatency := Stats.addSampleUs s.e2eLatency sample }
  | .store field => { s with last := field s.last }
  -- Both texts change under one lock.
  | .setConnectionState state message =>
    { s with connectionState := state, stateMessage := message }
  | .setLastError message => { s with lastError := message }

def timeAccesses (header : FrameHeader) (receiveTimestampNs : UInt64) : List NodeAccess :=
  if receiveTimestampNs ≥ header.captureTimestampNs then
    [.addSampleUs (latencyUs receiveTimestampNs header.captureTimestampNs)]
  else
    [.add .latencyClockErrors 1,
      .setLastError ("receive clock was earlier than capture timestamp for frame " ++
        toString header.frameId)]

def publishAccesses (cfg : NodeConfig) (env : NodeEnv) (receivedFrames : Nat)
    (header : FrameHeader) : List NodeAccess :=
  if cfg.publishImages = false then []
  else if header.pixelFormat ≠ V4L2_PIX_FMT_YUYV then
    [.add .imagePublishErrors 1,
      .setLastError ("ROS image publication supports only YUYV input, got " ++
        fourccToString header.pixelFormat)]
  else
    match env.publishFails receivedFrames with
    | none => [.add .publishedImages 1]
    | some text =>
      [.add .imagePublishErrors 1,
        .setLastError ("failed to publish ROS image for frame " ++ toString header.frameId ++
          ": " ++ text)]

/-- The stores between the latency sample and the image. -/
def storeAccesses (header : FrameHeader) (receiveTimestampNs : UInt64) : List NodeAccess :=
  [.add .receivedFrames 1,
    .add .receivedBytes header.payloadSize.toNat,
    .store fun last => { last with frameId := header.frameId },
    .store fun last => { last with width := header.width },
    .store fun last => { last with height := header.height },
    .store fun last => { last with pixelFormat := header.pixelFormat },
    .store fun last => { last with captureTimestampNs := header.captureTimestampNs },
    .store fun last => { last with receiveTimestampNs := receiveTimestampNs }]

def acceptAccesses (cfg : NodeConfig) (env : NodeEnv) (st : NodeState) (header : FrameHeader) :
    List NodeAccess :=
  timeAccesses header (env.clock st.receivedFrames) ++
    (storeAccesses header (env.clock st.receivedFrames) ++
      publishAccesses cfg env (st.receivedFrames + 1) header)

def payloadAccesses (cfg : NodeConfig) (env : NodeEnv) (st : NodeState) (header : FrameHeader)
    (input : NodeInput) : List NodeAccess :=
  match readInterruptible env.strerror header.payloadSize.toNat input with
  | (.peerClosed, _) =>
    [.add .peerDisconnects 1, .setLastError "peer closed while receiving frame payload"]
  | (.error text, _) => [.add .peerDisconnects 1, .setLastError text]
  | (.stopped, _) => []
  | (.ok payload, _) =>
    if computeCrc32 payload ≠ header.payloadCrc32 then
      [.add .crcErrors 1, .add .rejectedFrames 1,
        .setLastError ("CRC mismatch for frame " ++ toString header.frameId)]
    else acceptAccesses cfg env st header

def headerAccesses (cfg : NodeConfig) (env : NodeEnv) (st : NodeState) (input : NodeInput) :
    List NodeAccess :=
  match readInterruptible env.strerror sizeofFrameHeader input with
  | (.peerClosed, _) => [.add .peerDisconnects 1]
  | (.stopped, _) => []
  | (.error text, _) => [.add .peerDisconnects 1, .setLastError text]
  | (.ok memory, input) =>
    match validateHeader (hostHeader memory) cfg.maxPayloadBytes with
    | .error reason =>
      [.add .headerErrors 1, .add .rejectedFrames 1, .setLastError reason]
    | .ok () => payloadAccesses cfg env st (hostHeader memory) input

/-- The accesses of an iteration of `handle_client`. -/
def nodeAccesses (cfg : NodeConfig) (env : NodeEnv) (st : NodeState) (input : NodeInput) :
    List NodeAccess :=
  match input.loadStop with
  | (true, _) => []
  | (false, input) =>
    if cfg.maxFrames > 0 ∧ st.receivedFrames ≥ cfg.maxFrames then []
    else headerAccesses cfg env st input

/-- The `catch` block sets the error before the state. -/
def failAccesses (text : String) (stop : Bool) : List NodeAccess :=
  if stop then [] else [.setLastError text, .setConnectionState "error" text]

def failUnlessStoppedAccesses (text : String) (met : LoopRound) : List NodeAccess :=
  if met.stopAtFailure then [] else failAccesses text met.stopAtCatch

def acceptRoundAccesses (env : NodeEnv) (met : LoopRound) : List NodeAccess :=
  match met.accept with
  | .interrupted => []
  | .failed errno => failUnlessStoppedAccesses ("accept failed: " ++ env.strerror errno) met
  | .connected peer port _ =>
    [.add .acceptedSessions 1,
      .setConnectionState "connected"
        ("receiving frames from " ++ peer.getD "unknown" ++ ":" ++ toString port)]

def listenAccesses (cfg : LoopConfig) (env : NodeEnv) (s : LoopState) (met : LoopRound) :
    List NodeAccess :=
  if met.stop then []
  else if cfg.maxFrames > 0 ∧ s.node.receivedFrames ≥ cfg.maxFrames then
    [.setConnectionState "stopped" "configured frame limit reached"]
  else if cfg.maxSessions > 0 ∧ s.acceptedSessions ≥ cfg.maxSessions then
    [.setConnectionState "stopped" "configured session limit reached"]
  else
    match met.poll with
    | .timeout => []
    | .interrupted => []
    | .failed errno =>
      failUnlessStoppedAccesses ("listen poll failed: " ++ env.strerror errno) met
    | .ready revents =>
      if revents.pollNval then failUnlessStoppedAccesses "listening socket became invalid" met
      else if revents.pollIn = false then []
      else acceptRoundAccesses env met

def closeAccesses (stop : Bool) : List NodeAccess :=
  .add .completedSessions 1 ::
    if stop then []
    else [.setConnectionState "listening" "waiting for the next TCP frame sender"]

/-- The accesses of a step of the receiver thread. -/
def loopAccesses (cfg : LoopConfig) (env : NodeEnv) (s : LoopState) :
    LoopAction → List NodeAccess
  | .setup outcome stopAtCatch =>
    match openListener env.strerror outcome with
    | .error text => failAccesses text stopAtCatch
    | .ok () =>
      [.setConnectionState "listening" "waiting for a protocol v3 TCP frame sender"]
  | .round met => listenAccesses cfg env s met
  | .iterate stopAfterSession =>
    match s.place with
    | .serving input =>
      nodeAccesses cfg.toNodeConfig env s.node input ++
        match nodeStep cfg.toNodeConfig env s.node input with
        | .returns _ => closeAccesses stopAfterSession
        | .next _ _ => []
    | _ => []

/-! ### The accesses make the step -/

/-- The shared part with another state of the session. -/
abbrev LoopState.sharedWith (s : LoopState) (st : NodeState) : NodeShared :=
  LoopState.shared { s with node := st }

theorem NodeShared.ext_counters {s s' : NodeShared} (counters : ∀ c, s.counters c = s'.counters c)
    (last : s.last = s'.last) (latency : s.e2eLatency = s'.e2eLatency)
    (texts : s.connectionState = s'.connectionState ∧ s.stateMessage = s'.stateMessage ∧
      s.lastError = s'.lastError) : s = s' := by
  cases s
  cases s'
  obtain ⟨state, message, error⟩ := texts
  have same := funext counters
  simp_all

theorem timeAccesses_replay (s : LoopState) (st : NodeState) (header : FrameHeader)
    (now : UInt64) :
    (timeAccesses header now).foldl NodeShared.access (s.sharedWith st) =
      s.sharedWith (timeFrame st header now) := by
  rw [timeAccesses, timeFrame]
  split
  · exact NodeShared.ext_counters (fun c => by cases c <;> rfl) rfl rfl ⟨rfl, rfl, rfl⟩
  · exact NodeShared.ext_counters (fun c => by cases c <;> rfl) rfl rfl ⟨rfl, rfl, rfl⟩

theorem publishAccesses_replay (cfg : NodeConfig) (env : NodeEnv) (s : LoopState)
    (st : NodeState) (header : FrameHeader) :
    (publishAccesses cfg env st.receivedFrames header).foldl NodeShared.access (s.sharedWith st) =
      s.sharedWith (publishFrame cfg env st header) := by
  rw [publishAccesses, publishFrame]
  split
  · rfl
  · split
    · exact NodeShared.ext_counters (fun c => by cases c <;> rfl) rfl rfl ⟨rfl, rfl, rfl⟩
    · cases env.publishFails st.receivedFrames with
      | none =>
        exact NodeShared.ext_counters (fun c => by cases c <;> rfl) rfl rfl ⟨rfl, rfl, rfl⟩
      | some text =>
        exact NodeShared.ext_counters (fun c => by cases c <;> rfl) rfl rfl ⟨rfl, rfl, rfl⟩

theorem acceptAccesses_replay (cfg : NodeConfig) (env : NodeEnv) (s : LoopState)
    (st : NodeState) (header : FrameHeader) (payload : List UInt8) :
    (acceptAccesses cfg env st header).foldl NodeShared.access (s.sharedWith st) =
      s.sharedWith (acceptFrame cfg env st header payload) := by
  have frames : (timeFrame st header (env.clock st.receivedFrames)).receivedFrames =
      st.receivedFrames := (timeFrame_spec st header _).counters.1
  rw [acceptAccesses, acceptFrame, List.foldl_append, List.foldl_append, timeAccesses_replay]
  generalize timeFrame st header (env.clock st.receivedFrames) = timed at frames ⊢
  rw [← publishAccesses_replay, frames]
  congr 1
  refine NodeShared.ext_counters (fun c => ?_) rfl rfl ⟨rfl, rfl, rfl⟩
  cases c with
  | receivedFrames => exact congrArg (· + 1) frames
  | _ => rfl

theorem payloadAccesses_replay (cfg : NodeConfig) (env : NodeEnv) (s : LoopState)
    (st : NodeState) (header : FrameHeader) (input : NodeInput) :
    (payloadAccesses cfg env st header input).foldl NodeShared.access (s.sharedWith st) =
      s.sharedWith (payloadStep cfg env st header input).node := by
  rw [payloadAccesses, payloadStep]
  rcases readInterruptible env.strerror header.payloadSize.toNat input with ⟨read, input'⟩
  cases read with
  | peerClosed =>
    exact NodeShared.ext_counters (fun c => by cases c <;> rfl) rfl rfl ⟨rfl, rfl, rfl⟩
  | error =>
    exact NodeShared.ext_counters (fun c => by cases c <;> rfl) rfl rfl ⟨rfl, rfl, rfl⟩
  | stopped => rfl
  | ok payload =>
    simp only
    split
    · exact NodeShared.ext_counters (fun c => by cases c <;> rfl) rfl rfl ⟨rfl, rfl, rfl⟩
    · exact acceptAccesses_replay cfg env s st header payload

theorem headerAccesses_replay (cfg : NodeConfig) (env : NodeEnv) (s : LoopState)
    (st : NodeState) (input : NodeInput) :
    (headerAccesses cfg env st input).foldl NodeShared.access (s.sharedWith st) =
      s.sharedWith (headerStep cfg env st input).node := by
  rw [headerAccesses, headerStep]
  rcases readInterruptible env.strerror sizeofFrameHeader input with ⟨read, input'⟩
  cases read with
  | peerClosed =>
    exact NodeShared.ext_counters (fun c => by cases c <;> rfl) rfl rfl ⟨rfl, rfl, rfl⟩
  | error =>
    exact NodeShared.ext_counters (fun c => by cases c <;> rfl) rfl rfl ⟨rfl, rfl, rfl⟩
  | stopped => rfl
  | ok memory =>
    simp only
    cases validateHeader (hostHeader memory) cfg.maxPayloadBytes with
    | error =>
      exact NodeShared.ext_counters (fun c => by cases c <;> rfl) rfl rfl ⟨rfl, rfl, rfl⟩
    | ok => exact payloadAccesses_replay cfg env s st _ input'

theorem nodeAccesses_replay (cfg : NodeConfig) (env : NodeEnv) (s : LoopState)
    (st : NodeState) (input : NodeInput) :
    (nodeAccesses cfg env st input).foldl NodeShared.access (s.sharedWith st) =
      s.sharedWith (nodeStep cfg env st input).node := by
  rw [nodeAccesses, nodeStep]
  rcases input.loadStop with ⟨stop, loaded⟩
  cases stop with
  | true => rfl
  | false =>
    simp only
    split
    · rfl
    · exact headerAccesses_replay cfg env s st loaded

theorem failUnlessStopped_replay (s : LoopState) (text : String) (met : LoopRound) :
    (failUnlessStoppedAccesses text met).foldl NodeShared.access s.shared =
      (s.failUnlessStopped text met).shared := by
  rw [failUnlessStoppedAccesses, LoopState.failUnlessStopped, failAccesses, LoopState.fail]
  split
  · rfl
  · split
    · rfl
    · exact NodeShared.ext_counters (fun c => by cases c <;> rfl) rfl rfl ⟨rfl, rfl, rfl⟩

theorem listenAccesses_replay (cfg : LoopConfig) (env : NodeEnv) (s : LoopState)
    (met : LoopRound) : (listenAccesses cfg env s met).foldl NodeShared.access s.shared =
      (listenRound cfg env s met).shared := by
  rw [listenAccesses, listenRound]
  split
  · rfl
  split
  · rfl
  split
  · rfl
  cases met.poll with
  | timeout => rfl
  | interrupted => rfl
  | failed errno => exact failUnlessStopped_replay s _ met
  | ready revents =>
    simp only
    split
    · exact failUnlessStopped_replay s _ met
    split
    · rfl
    rw [acceptRoundAccesses, acceptRound]
    cases met.accept with
    | interrupted => rfl
    | failed errno => exact failUnlessStopped_replay s _ met
    | connected peer port input =>
      exact NodeShared.ext_counters (fun c => by cases c <;> rfl) rfl rfl ⟨rfl, rfl, rfl⟩

theorem closeAccesses_replay (s : LoopState) (stop : Bool) :
    (closeAccesses stop).foldl NodeShared.access s.shared = (s.closeSession stop).shared := by
  rw [closeAccesses, LoopState.closeSession]
  cases stop with
  | true => exact NodeShared.ext_counters (fun c => by cases c <;> rfl) rfl rfl ⟨rfl, rfl, rfl⟩
  | false => exact NodeShared.ext_counters (fun c => by cases c <;> rfl) rfl rfl ⟨rfl, rfl, rfl⟩

/-- The accesses of a step, one after the other, lead from the shared state before the step to
the one behind it. -/
theorem loopAccesses_replay {cfg : LoopConfig} {env : NodeEnv} {s s' : LoopState}
    {action : LoopAction} (taken : loopStep cfg env s action = some s') :
    (loopAccesses cfg env s action).foldl NodeShared.access s.shared = s'.shared := by
  cases action with
  | setup outcome stopAtCatch =>
    simp only [loopStep] at taken
    split at taken
    · cases taken
      simp only [loopAccesses]
      cases openListener env.strerror outcome with
      | error text =>
        simp only [failAccesses, LoopState.fail]
        split
        · rfl
        · exact NodeShared.ext_counters (fun c => by cases c <;> rfl) rfl rfl ⟨rfl, rfl, rfl⟩
      | ok => rfl
    · cases taken
  | round met =>
    simp only [loopStep] at taken
    split at taken
    · cases taken
      exact listenAccesses_replay cfg env s met
    · cases taken
  | iterate stopAfterSession =>
    simp only [loopStep] at taken
    split at taken
    next input serving =>
      cases taken
      have replayed := nodeAccesses_replay cfg.toNodeConfig env s s.node input
      simp only [loopAccesses, serving, List.foldl_append]
      rw [show s.shared = s.sharedWith s.node from rfl, replayed]
      cases nodeStep cfg.toNodeConfig env s.node input with
      | returns node => exact closeAccesses_replay _ stopAfterSession
      | next node input' => rfl
    · cases taken

/-! ### Between two accesses -/

/-- The counters and the samples grow, and a failure stays. -/
instance : Preorder NodeShared :=
  Preorder.lift fun s => (s.counters, s.e2eLatency.length, s.connectionState = "error")

theorem NodeShared.le_iff {s s' : NodeShared} :
    s ≤ s' ↔ (∀ c, s.counters c ≤ s'.counters c) ∧
      s.e2eLatency.length ≤ s'.e2eLatency.length ∧
      (s.connectionState = "error" → s'.connectionState = "error") :=
  Iff.rfl

/-- What holds at every moment, also between two accesses of a step. -/
structure SharedSound (cfg : NodeConfig) (s : NodeShared) : Prop where
  rejected : s.counters .headerErrors + s.counters .crcErrors ≤ s.counters .rejectedFrames + 1
  latency : s.counters .receivedFrames ≤ s.e2eLatency.length + s.counters .latencyClockErrors
  images : cfg.publishImages = true → s.counters .receivedFrames ≤
    s.counters .publishedImages + s.counters .imagePublishErrors + 1
  sessions : s.counters .acceptedSessions ≤ s.counters .completedSessions + 1
  failure : s.connectionState = "error" → s.lastError = s.stateMessage

/-- A moment with the accesses left: a failure is the last thing that the thread sets. -/
structure MomentSound (cfg : NodeConfig) (s : NodeShared) (rest : List NodeAccess) : Prop where
  sound : SharedSound cfg s
  last : s.connectionState = "error" → rest = []

/-- A moment of a thread that has not failed. -/
def RunningSound (cfg : NodeConfig) (s : NodeShared) (_ : List NodeAccess) : Prop :=
  SharedSound cfg s ∧ s.connectionState ≠ "error"

theorem RunningSound.moment {cfg : NodeConfig} {s : NodeShared} {rest : List NodeAccess}
    (running : RunningSound cfg s rest) (more : List NodeAccess) : MomentSound cfg s more :=
  ⟨running.1, fun failed => absurd failed running.2⟩

/-- How far some counters are ahead of those that follow them. -/
structure Pending where
  timed : Nat := 0
  unpublished : Nat := 0
  unrejected : Nat := 0

structure Counted (cfg : NodeConfig) (pending : Pending) (s : NodeShared) : Prop where
  running : s.connectionState ≠ "error"
  rejected : s.counters .rejectedFrames + pending.unrejected =
    s.counters .headerErrors + s.counters .crcErrors
  latency : s.counters .receivedFrames + pending.timed =
    s.e2eLatency.length + s.counters .latencyClockErrors
  images : cfg.publishImages = true → s.counters .receivedFrames =
    s.counters .publishedImages + s.counters .imagePublishErrors + pending.unpublished
  sessions : s.counters .acceptedSessions ≤ s.counters .completedSessions + 1

/-- At most one count is ahead of its follower. -/
def Pending.Single (pending : Pending) : Prop :=
  pending.unpublished ≤ 1 ∧ pending.unrejected ≤ 1

theorem Counted.sound {cfg : NodeConfig} {pending : Pending} {s : NodeShared}
    (counted : Counted cfg pending s) (single : pending.Single) (rest : List NodeAccess) :
    RunningSound cfg s rest := by
  have rejected := counted.rejected
  have latency := counted.latency
  obtain ⟨unpublished, unrejected⟩ := single
  refine ⟨⟨by omega, by omega, fun on => ?_, counted.sessions, ?_⟩, counted.running⟩
  · have images := counted.images on
    omega
  · intro failed
    exact absurd failed counted.running

/-- Accesses that lead from one gap between the counters to another, over sound moments. -/
def Leads (cfg : NodeConfig) (before behind : Pending) (ops : List NodeAccess) : Prop :=
  ∀ s, Counted cfg before s →
    Throughout NodeShared.access (RunningSound cfg) s ops ∧
    Counted cfg behind (ops.foldl NodeShared.access s)

theorem Leads.append {cfg : NodeConfig} {before between behind : Pending}
    {first second : List NodeAccess} (front : Leads cfg before between first)
    (back : Leads cfg between behind second) : Leads cfg before behind (first ++ second) := by
  intro s counted
  obtain ⟨through, counted'⟩ := front s counted
  obtain ⟨through', counted''⟩ := back _ counted'
  rw [List.foldl_append]
  exact ⟨throughout_append (through.mono fun _ _ running => running) through', counted''⟩

theorem leads_nil {cfg : NodeConfig} {pending : Pending} (single : pending.Single) :
    Leads cfg pending pending [] :=
  fun _ counted => ⟨counted.sound single [], counted⟩

theorem Leads.cons {cfg : NodeConfig} {before behind : Pending} {op : NodeAccess}
    {rest : List NodeAccess} (between : Pending) (single : before.Single)
    (one : ∀ s, Counted cfg before s → Counted cfg between (s.access op))
    (later : Leads cfg between behind rest) : Leads cfg before behind (op :: rest) := by
  intro s counted
  obtain ⟨through, counted'⟩ := later _ (one s counted)
  exact ⟨⟨counted.sound single _, through⟩, counted'⟩

/-- Accesses to what no other counter follows. -/
def NodeAccess.Quiet : NodeAccess → Prop
  | .add counter _ => counter = .receivedBytes ∨ counter = .peerDisconnects
  | .store _ => True
  | .setLastError _ => True
  | .setConnectionState state _ => state ≠ "error"
  | .addSampleUs _ => False

theorem Counted.quiet {cfg : NodeConfig} {pending : Pending} {s : NodeShared}
    (counted : Counted cfg pending s) {op : NodeAccess} (quiet : op.Quiet) :
    Counted cfg pending (s.access op) := by
  cases op with
  | add counter amount =>
    rcases quiet with rfl | rfl
    · exact { counted with }
    · exact { counted with }
  | store field => exact { counted with }
  | setLastError message => exact { counted with }
  | setConnectionState state message => exact { counted with running := quiet }
  | addSampleUs sample => cases quiet

theorem leads_quiet {cfg : NodeConfig} {pending : Pending} (single : pending.Single)
    {ops : List NodeAccess} (quiet : ∀ op ∈ ops, op.Quiet) : Leads cfg pending pending ops := by
  induction ops with
  | nil => exact leads_nil single
  | cons op rest ih =>
    refine Leads.cons pending single (fun s counted => counted.quiet (quiet op (by simp))) (ih ?_)
    intro later member
    exact quiet later (List.mem_cons_of_mem _ member)

/-! ### The accesses of a session -/

theorem timeAccesses_leads (cfg : NodeConfig) (header : FrameHeader) (now : UInt64) :
    Leads cfg {} { timed := 1 } (timeAccesses header now) := by
  have noneAhead : ({} : Pending).Single := ⟨by simp, by simp⟩
  have oneAhead : ({ timed := 1 } : Pending).Single := ⟨by simp, by simp⟩
  rw [timeAccesses]
  split
  · refine Leads.cons { timed := 1 } noneAhead (fun s counted => { counted with latency := ?_ })
      (leads_nil oneAhead)
    have latency := counted.latency
    simp only [NodeShared.access, addSampleUs_latencyUs_length] at latency ⊢
    omega
  · refine Leads.cons { timed := 1 } noneAhead (fun s counted => { counted with latency := ?_ })
      (leads_quiet oneAhead (by simp [NodeAccess.Quiet]))
    have latency := counted.latency
    simp only [NodeShared.access, reduceCtorEq, if_false, if_true] at latency ⊢
    omega

theorem storeAccesses_leads (cfg : NodeConfig) (header : FrameHeader) (now : UInt64) :
    Leads cfg { timed := 1 } { unpublished := 1 } (storeAccesses header now) := by
  refine Leads.cons { unpublished := 1 } ⟨by simp, by simp⟩
    (fun s counted => { counted with latency := ?_, images := ?_ })
    (leads_quiet ⟨by simp, by simp⟩ (by simp [NodeAccess.Quiet]))
  · have latency := counted.latency
    simp only [NodeShared.access, reduceCtorEq, if_false, if_true] at latency ⊢
    omega
  · intro on
    have images := counted.images on
    simp only [NodeShared.access, reduceCtorEq, if_false, if_true] at images ⊢
    omega

/-- Whether the image appears or not, one counter of the two follows. -/
theorem publishAccesses_leads (cfg : NodeConfig) (env : NodeEnv) (receivedFrames : Nat)
    (header : FrameHeader) :
    Leads cfg { unpublished := 1 } {} (publishAccesses cfg env receivedFrames header) := by
  have noneAhead : ({} : Pending).Single := ⟨by simp, by simp⟩
  have oneAhead : ({ unpublished := 1 } : Pending).Single := ⟨by simp, by simp⟩
  have counts : ∀ s, Counted cfg { unpublished := 1 } s → ∀ counter,
      counter = .publishedImages ∨ counter = .imagePublishErrors →
      Counted cfg {} (s.access (.add counter 1)) := by
    intro s counted counter either
    rcases either with rfl | rfl
    · refine { counted with images := fun on => ?_ }
      have images := counted.images on
      simp only [NodeShared.access, reduceCtorEq, if_false, if_true] at images ⊢
      omega
    · refine { counted with images := fun on => ?_ }
      have images := counted.images on
      simp only [NodeShared.access, reduceCtorEq, if_false, if_true] at images ⊢
      omega
  rw [publishAccesses]
  split
  next off =>
    intro s counted
    refine ⟨counted.sound oneAhead [], { counted with images := fun on => ?_ }⟩
    rw [off] at on
    cases on
  split
  · exact Leads.cons {} oneAhead (fun s counted => counts s counted _ (.inr rfl))
      (leads_quiet noneAhead (by simp [NodeAccess.Quiet]))
  split
  · exact Leads.cons {} oneAhead (fun s counted => counts s counted _ (.inl rfl))
      (leads_nil noneAhead)
  · exact Leads.cons {} oneAhead (fun s counted => counts s counted _ (.inr rfl))
      (leads_quiet noneAhead (by simp [NodeAccess.Quiet]))

/-- A frame that is rejected counts first by its reason and then as rejected. -/
theorem rejectAccesses_leads (cfg : NodeConfig) {reason : NodeCounter}
    (either : reason = .crcErrors ∨ reason = .headerErrors) (message : String) :
    Leads cfg {} {} [.add reason 1, .add .rejectedFrames 1, .setLastError message] := by
  have noneAhead : ({} : Pending).Single := ⟨by simp, by simp⟩
  refine Leads.cons { unrejected := 1 } noneAhead (fun s counted => ?_)
    (Leads.cons {} ⟨by simp, by simp⟩
      (fun s counted => { counted with rejected := ?_ })
      (leads_quiet noneAhead (by simp [NodeAccess.Quiet])))
  · have rejected := counted.rejected
    rcases either with rfl | rfl
    · refine { counted with rejected := ?_ }
      simp only [NodeShared.access, reduceCtorEq, if_false, if_true] at rejected ⊢
      omega
    · refine { counted with rejected := ?_ }
      simp only [NodeShared.access, reduceCtorEq, if_false, if_true] at rejected ⊢
      omega
  · have rejected := counted.rejected
    simp only [NodeShared.access, reduceCtorEq, if_false, if_true] at rejected ⊢
    omega

theorem nodeAccesses_leads (cfg : NodeConfig) (env : NodeEnv) (st : NodeState)
    (input : NodeInput) : Leads cfg {} {} (nodeAccesses cfg env st input) := by
  have noneAhead : ({} : Pending).Single := ⟨by simp, by simp⟩
  rw [nodeAccesses]
  split
  · exact leads_nil noneAhead
  split
  · exact leads_nil noneAhead
  rw [headerAccesses]
  split
  · exact leads_quiet noneAhead (by simp [NodeAccess.Quiet])
  · exact leads_nil noneAhead
  · exact leads_quiet noneAhead (by simp [NodeAccess.Quiet])
  split
  · exact rejectAccesses_leads cfg (.inr rfl) _
  rw [payloadAccesses]
  split
  · exact leads_quiet noneAhead (by simp [NodeAccess.Quiet])
  · exact leads_quiet noneAhead (by simp [NodeAccess.Quiet])
  · exact leads_nil noneAhead
  split
  · exact rejectAccesses_leads cfg (.inl rfl) _
  · exact (timeAccesses_leads cfg _ _).append
      ((storeAccesses_leads cfg _ _).append (publishAccesses_leads cfg env _ _))

theorem closeAccesses_leads (cfg : NodeConfig) (stop : Bool) :
    Leads cfg {} {} (closeAccesses stop) := by
  have noneAhead : ({} : Pending).Single := ⟨by simp, by simp⟩
  refine Leads.cons {} noneAhead (fun s counted => { counted with sessions := ?_ })
    (leads_quiet noneAhead (by cases stop <;> simp [NodeAccess.Quiet]))
  have sessions := counted.sessions
  simp only [NodeShared.access, reduceCtorEq, if_false, if_true] at sessions ⊢
  omega

/-! ### The accesses of the thread -/

theorem Leads.throughout {cfg : NodeConfig} {before behind : Pending} {ops : List NodeAccess}
    {s : NodeShared} (leads : Leads cfg before behind ops) (counted : Counted cfg before s) :
    Throughout NodeShared.access (MomentSound cfg) s ops :=
  (leads s counted).1.mono fun _ rest running => running.moment rest

theorem failAccesses_throughout {cfg : NodeConfig} {s : NodeShared} (counted : Counted cfg {} s)
    (text : String) (stop : Bool) :
    Throughout NodeShared.access (MomentSound cfg) s (failAccesses text stop) := by
  have noneAhead : ({} : Pending).Single := ⟨by simp, by simp⟩
  have silent : Counted cfg {} (s.access (.setLastError text)) := counted.quiet trivial
  rw [failAccesses]
  split
  · exact (counted.sound noneAhead []).moment []
  · refine ⟨(counted.sound noneAhead []).moment _, (silent.sound noneAhead []).moment _, ?_⟩
    -- The state follows the error, so that they agree as soon as the state says "error".
    exact ⟨{ (silent.sound noneAhead []).1 with failure := fun _ => rfl }, fun _ => rfl⟩

theorem failUnlessStopped_throughout {cfg : NodeConfig} {s : NodeShared}
    (counted : Counted cfg {} s) (text : String) (met : LoopRound) :
    Throughout NodeShared.access (MomentSound cfg) s (failUnlessStoppedAccesses text met) := by
  rw [failUnlessStoppedAccesses]
  split
  · exact (counted.sound ⟨by simp, by simp⟩ []).moment []
  · exact failAccesses_throughout counted text met.stopAtCatch

theorem listenAccesses_throughout {cfg : LoopConfig} {s : LoopState}
    (counted : Counted cfg.toNodeConfig {} s.shared)
    (between : s.acceptedSessions = s.completedSessions) (env : NodeEnv) (met : LoopRound) :
    Throughout NodeShared.access (MomentSound cfg.toNodeConfig) s.shared
      (listenAccesses cfg env s met) := by
  have noneAhead : ({} : Pending).Single := ⟨by simp, by simp⟩
  have silent := (counted.sound noneAhead []).moment []
  rw [listenAccesses]
  split
  · exact silent
  split
  · exact (leads_quiet noneAhead (by simp [NodeAccess.Quiet])).throughout counted
  split
  · exact (leads_quiet noneAhead (by simp [NodeAccess.Quiet])).throughout counted
  split
  · exact silent
  · exact silent
  · exact failUnlessStopped_throughout counted _ met
  split
  · exact failUnlessStopped_throughout counted _ met
  split
  · exact silent
  rw [acceptRoundAccesses]
  split
  · exact silent
  · exact failUnlessStopped_throughout counted _ met
  next peer port input accepted =>
    -- Between two sessions the count of accepted ones can run ahead by one.
    have ahead : Counted cfg.toNodeConfig {} (s.shared.access (.add .acceptedSessions 1)) :=
      { counted with
        sessions := by
          simp only [NodeShared.access, reduceCtorEq, if_false, if_true, LoopState.shared,
            LoopState.counter, between]
          omega }
    exact ⟨(counted.sound noneAhead []).moment _,
      (leads_quiet noneAhead (by simp [NodeAccess.Quiet])).throughout ahead⟩

/-- The thread ends where it reports a failure. -/
def FailedFinished (s : LoopState) : Prop :=
  s.connectionState = "error" → s.place = .finished

theorem FailedFinished.of_ne {s : LoopState} (running : s.connectionState ≠ "error") :
    FailedFinished s :=
  fun failed => absurd failed running

theorem LoopConsistent.counted {cfg : LoopConfig} {s : LoopState} (inv : LoopConsistent cfg s)
    (failed : FailedFinished s) (going : s.place ≠ .finished) :
    Counted cfg.toNodeConfig {} s.shared where
  running := fun isFailed => going (failed isFailed)
  rejected := inv.node.rejected
  latency := inv.node.latency
  images := inv.node.images
  sessions := by
    have sessions := inv.sessions
    simp only [LoopState.shared, LoopState.counter]
    split at sessions <;> omega

theorem FailedFinished.fail (s : LoopState) (text : String) (stop : Bool) :
    FailedFinished (s.fail text stop) := by
  rw [LoopState.fail]
  split <;> exact fun _ => rfl

theorem FailedFinished.step {cfg : LoopConfig} {env : NodeEnv} {s s' : LoopState}
    {action : LoopAction} (failed : FailedFinished s)
    (taken : loopStep cfg env s action = some s') : FailedFinished s' := by
  have unlessStopped : ∀ text met, FailedFinished (s.failUnlessStopped text met) := by
    intro text met
    rw [LoopState.failUnlessStopped]
    split
    · exact fun _ => rfl
    · exact .fail s text _
  cases action with
  | setup outcome stopAtCatch =>
    simp only [loopStep] at taken
    split at taken
    · cases taken
      split
      · exact .fail s _ _
      · exact .of_ne (show "listening" ≠ "error" by decide)
    · cases taken
  | round met =>
    simp only [loopStep] at taken
    split at taken
    · cases taken
      rw [listenRound]
      split
      · exact fun _ => rfl
      split
      · exact fun _ => rfl
      split
      · exact fun _ => rfl
      split
      · exact failed
      · exact failed
      · exact unlessStopped _ met
      split
      · exact unlessStopped _ met
      split
      · exact failed
      rw [acceptRound]
      split
      · exact failed
      · exact unlessStopped _ met
      · exact .of_ne (show "connected" ≠ "error" by decide)
    · cases taken
  | iterate stopAfterSession =>
    simp only [loopStep] at taken
    split at taken
    next input serving =>
      have running : s.connectionState ≠ "error" := by
        intro isFailed
        rw [failed isFailed] at serving
        cases serving
      cases taken
      split
      · rw [LoopState.closeSession]
        split
        · exact .of_ne running
        · exact .of_ne (show "listening" ≠ "error" by decide)
      · exact .of_ne running
    · cases taken

/-- Every moment of a step of the receiver thread is sound. -/
theorem loopAccesses_throughout {cfg : LoopConfig} {env : NodeEnv} {s s' : LoopState}
    {action : LoopAction} (inv : LoopConsistent cfg s) (failed : FailedFinished s)
    (taken : loopStep cfg env s action = some s') :
    Throughout NodeShared.access (MomentSound cfg.toNodeConfig) s.shared
      (loopAccesses cfg env s action) := by
  have sessions := inv.sessions
  cases action with
  | setup outcome stopAtCatch =>
    simp only [loopStep] at taken
    split at taken
    next starting =>
      have counted := inv.counted failed (by simp [starting])
      simp only [loopAccesses]
      split
      · exact failAccesses_throughout counted _ _
      · exact (leads_quiet ⟨by simp, by simp⟩ (by simp [NodeAccess.Quiet])).throughout counted
    · cases taken
  | round met =>
    simp only [loopStep] at taken
    split at taken
    next listening =>
      rw [listening] at sessions
      exact listenAccesses_throughout (inv.counted failed (by simp [listening])) sessions env met
    · cases taken
  | iterate stopAfterSession =>
    simp only [loopStep] at taken
    split at taken
    next input serving =>
      have counted := inv.counted failed (by simp [serving])
      have session := nodeAccesses_leads cfg.toNodeConfig env s.node input
      simp only [loopAccesses, serving]
      split
      · exact (session.append (closeAccesses_leads _ stopAfterSession)).throughout counted
      · rw [List.append_nil]
        exact session.throughout counted
    · cases taken

/-- Step lemma: an access only moves the shared state forward. -/
theorem access_le {cfg : NodeConfig} {s : NodeShared} {op : NodeAccess} {rest : List NodeAccess}
    (moment : MomentSound cfg s (op :: rest)) : s ≤ s.access op := by
  have running : s.connectionState ≠ "error" := by
    intro failed
    cases moment.last failed
  rw [NodeShared.le_iff]
  refine ⟨fun c => ?_, ?_, fun failed => absurd failed running⟩
  · cases op with
    | add counter amount =>
      simp only [NodeShared.access]
      split <;> omega
    | _ => exact le_rfl
  · cases op with
    | addSampleUs sample =>
      rw [NodeShared.access, addSampleUs_eq, List.length_append]
      omega
    | _ => exact le_rfl

end V4l2Capture.Diagnostics
