import V4l2Capture.Diagnostics.Accesses
import V4l2Capture.Library.Decimals
import V4l2Capture.Stats.LatencySummary

/-!
# The reports of the diagnostics node

The timer of the node runs `publish_diagnostics`, which reads what the receiver thread shares
one load at a time, while the thread goes on. So a report belongs to no single state. What its
numbers still say about each other, and about those of the reports before, rests on the order
of the loads here and of the accesses there.

Latencies are exact rationals, as in `snapshot`. How the quotient of `receive_fps` is rounded
to a `double` is a parameter.
-/
namespace V4l2Capture.Diagnostics

open Protocol Receiver Stats Sampling

/-- The levels of a `DiagnosticStatus` in use. -/
inductive StatusLevel where
  | ok
  | warn
  | error
  deriving DecidableEq, Repr

/-- The constants `OK`, `WARN` and `ERROR`. -/
def StatusLevel.value : StatusLevel → Nat
  | .ok => 0
  | .warn => 1
  | .error => 2

/-- What `publish_diagnostics` has read and computed. -/
structure Report where
  nowSteadyNs : Int := 0
  receiveFps : ℚ := 0
  counts : NodeCounter → Nat := fun _ => 0
  connectionState : String := ""
  stateMessage : String := ""
  lastError : String := ""
  latency : Option LatencySummary := none
  level : StatusLevel := .ok
  last : LastFrame := {}

def Report.totalErrors (report : Report) : Nat :=
  report.counts .crcErrors + report.counts .headerErrors + report.counts .latencyClockErrors +
    report.counts .imagePublishErrors

/-! ### The loads -/

def load (counter : NodeCounter) : Reading NodeShared Report := fun s report =>
  { report with
    counts := fun c => if c = counter then s.counters counter else report.counts c }

/-- The three texts, read under one lock. -/
def loadTexts : Reading NodeShared Report := fun s report =>
  { report with
    connectionState := s.connectionState
    stateMessage := s.stateMessage
    lastError := s.lastError }

/-- The level, with the first of two loads of `rejected_frames_`. -/
def loadLevel : Reading NodeShared Report := fun s report =>
  { report with
    level :=
      if report.connectionState = "error" then .error
      else if report.totalErrors > 0 ∨ s.counters .rejectedFrames > 0 then .warn
      else .ok }

/-- The loads of `publish_diagnostics` behind that of `received_frames_`. -/
def loads (sqrt : ℚ → ℚ) : List (Reading NodeShared Report) :=
  [loadTexts,
    fun s report => { report with latency := snapshot sqrt s.e2eLatency },
    load .crcErrors,
    load .headerErrors,
    load .latencyClockErrors,
    load .imagePublishErrors,
    loadLevel,
    load .receivedBytes,
    load .acceptedSessions,
    load .completedSessions,
    load .peerDisconnects,
    load .rejectedFrames,
    load .publishedImages,
    fun s report => { report with last := { report.last with frameId := s.last.frameId } },
    fun s report => { report with last := { report.last with width := s.last.width } },
    fun s report => { report with last := { report.last with height := s.last.height } },
    fun s report => { report with last := { report.last with pixelFormat := s.last.pixelFormat } },
    fun s report =>
      { report with last := { report.last with captureTimestampNs := s.last.captureTimestampNs } },
    fun s report =>
      { report with last := { report.last with receiveTimestampNs := s.last.receiveTimestampNs } }]

/-- `last_rate_frame_count_` and `last_rate_time_`, which only the timer uses. -/
structure Rate where
  lastRateFrameCount : Nat := 0
  lastRateTimeNs : Int

/-- The difference of two counters of 64 bits, which wraps around below zero. -/
def unsignedDifference (count since : Nat) : Nat :=
  if since ≤ count then count - since else count + 2 ^ 64 - since

/-- The clock, the load of `received_frames_` and the rate since the report before. -/
def beginReport (double : ℚ → ℚ) (rate : Rate) (nowSteadyNs : Int) (s : NodeShared) : Report :=
  let frameCount := s.counters .receivedFrames
  let intervalSeconds := double (double (nowSteadyNs - rate.lastRateTimeNs : Int) / 1000000000)
  { nowSteadyNs := nowSteadyNs
    receiveFps :=
      if intervalSeconds > 0 then
        double (double (unsignedDifference frameCount rate.lastRateFrameCount) / intervalSeconds)
      else 0
    counts := fun c => if c = .receivedFrames then frameCount else 0 }

/-! ### The message -/

/-- The parameters that a report repeats. -/
structure ReportConfig where
  rmwImplementation : Option String
  listenAddress : String
  listenPort : Int
  publishImages : Bool
  imageTopic : String
  cameraInfoTopic : String
  cameraFrameId : String
  outputEncoding : String
  imageQosReliability : String
  imageQosDepth : Int
  cameraCalibrated : Bool

structure DiagnosticStatus where
  name : String
  hardwareId : String
  level : StatusLevel
  message : String
  values : List (String × String)
  deriving DecidableEq, Repr

def toStringBool (value : Bool) : String := if value then "true" else "false"

/-- Of a finite value. -/
def formatDouble (value : ℚ) : String :=
  String.ofList ((Decimals.fixedPoint 3 value).map fun b => Char.ofNat b.toNat)

def Report.status (cfg : ReportConfig) (report : Report) : DiagnosticStatus :=
  let latency := report.latency.getD {}
  { name := "v4l2_capture/camera_link"
    hardwareId := "tcp://" ++ cfg.listenAddress ++ ":" ++ toString cfg.listenPort
    level := report.level
    message := report.stateMessage
    values := [
      ("rmw_implementation", cfg.rmwImplementation.getD "runtime-default"),
      ("protocol_version", toString kVersion),
      ("connection_state", report.connectionState),
      ("connected", toStringBool (report.connectionState = "connected")),
      ("listen_address", cfg.listenAddress),
      ("listen_port", toString cfg.listenPort),
      ("publish_images", toStringBool cfg.publishImages),
      ("image_topic", cfg.imageTopic),
      ("camera_info_topic", cfg.cameraInfoTopic),
      ("camera_frame_id", cfg.cameraFrameId),
      ("output_encoding", cfg.outputEncoding),
      ("image_qos_reliability", cfg.imageQosReliability),
      ("image_qos_depth", toString cfg.imageQosDepth),
      ("camera_calibrated", toStringBool cfg.cameraCalibrated),
      ("receive_fps", formatDouble report.receiveFps),
      ("received_frames", toString (report.counts .receivedFrames)),
      ("received_bytes", toString (report.counts .receivedBytes)),
      ("accepted_sessions", toString (report.counts .acceptedSessions)),
      ("completed_sessions", toString (report.counts .completedSessions)),
      ("peer_disconnects", toString (report.counts .peerDisconnects)),
      ("header_errors", toString (report.counts .headerErrors)),
      ("crc_errors", toString (report.counts .crcErrors)),
      ("rejected_frames", toString (report.counts .rejectedFrames)),
      ("published_images", toString (report.counts .publishedImages)),
      ("image_publish_errors", toString (report.counts .imagePublishErrors)),
      ("latency_clock_errors", toString (report.counts .latencyClockErrors)),
      ("e2e_latency_samples", toString latency.sampleCount),
      ("e2e_latency_mean_us", formatDouble latency.meanUs),
      ("e2e_latency_p50_us", formatDouble latency.p50Us),
      ("e2e_latency_p95_us", formatDouble latency.p95Us),
      ("e2e_latency_p99_us", formatDouble latency.p99Us),
      ("e2e_latency_max_us", formatDouble latency.maxUs),
      ("e2e_latency_jitter_us", formatDouble latency.jitterUs),
      ("last_frame_id", toString report.last.frameId),
      ("last_width", toString report.last.width),
      ("last_height", toString report.last.height),
      ("last_pixel_format", fourccToString report.last.pixelFormat),
      ("last_capture_timestamp_ns", toString report.last.captureTimestampNs),
      ("last_receive_timestamp_ns", toString report.last.receiveTimestampNs),
      ("last_error", report.lastError)] }

/-! ### The thread and the timer -/

/-- What `publish_diagnostics` takes from outside: the parameters of the node, the root function
and the rounding of a result to a `double`. -/
structure ReportEnv where
  config : ReportConfig
  sqrt : ℚ → ℚ
  double : ℚ → ℚ

/-- A message on the topic, with the clock reading of its call. -/
structure Published where
  nowSteadyNs : Int
  status : DiagnosticStatus

def Report.publish (cfg : ReportConfig) (report : Report) : Published :=
  ⟨report.nowSteadyNs, report.status cfg⟩

/-- The receiver thread stands at `worker` as soon as it has made the accesses `todo`. `reports`
is history: what the calls that have published had read. -/
structure ReportingState where
  worker : LoopState := {}
  todo : List NodeAccess := []
  shared : NodeShared := {}
  rate : Rate
  building : Option (List (Reading NodeShared Report) × Report) := none
  published : List Published := []
  reports : List Report := []

/-- The loads of the timer fall between any two accesses of the thread. -/
inductive ReportingAction where
  | work (action : LoopAction)
  | access
  | timer (nowSteadyNs : Int)
  | load
  | publish

def reportingStep (cfg : LoopConfig) (env : NodeEnv) (reportEnv : ReportEnv) (s : ReportingState) :
    ReportingAction → Option ReportingState
  | .work action =>
    match s.todo with
    | [] =>
      (loopStep cfg env s.worker action).map fun worker =>
        { s with worker := worker, todo := loopAccesses cfg env s.worker action }
    | _ => none
  | .access =>
    match s.todo with
    | [] => none
    | op :: rest => some { s with shared := s.shared.access op, todo := rest }
  | .timer nowSteadyNs =>
    match s.building with
    | none =>
      some { s with
        building := some (loads reportEnv.sqrt,
          beginReport reportEnv.double s.rate nowSteadyNs s.shared)
        rate := ⟨s.shared.counters .receivedFrames, nowSteadyNs⟩ }
    | some _ => none
  | .load =>
    match s.building with
    | some (reading :: rest, report) =>
      some { s with building := some (rest, reading s.shared report) }
    | _ => none
  | .publish =>
    match s.building with
    | some ([], report) =>
      some { s with
        building := none
        published := s.published ++ [report.publish reportEnv.config]
        reports := s.reports ++ [report] }
    | _ => none

/-! ### What a report says -/

/-- The counts that make a report a warning. -/
def NodeShared.faults (s : NodeShared) : Nat :=
  s.counters .crcErrors + s.counters .headerErrors + s.counters .latencyClockErrors +
    s.counters .imagePublishErrors + s.counters .rejectedFrames

/-- The numbers of a report agree with each other, though none of them were read together. -/
structure Report.Consistent (cfg : NodeConfig) (report : Report) : Prop where
  rejected : report.counts .headerErrors + report.counts .crcErrors ≤
    report.counts .rejectedFrames + 1
  latency : ∃ summary, report.latency = some summary ∧ summary.Ordered ∧
    report.counts .receivedFrames ≤ summary.sampleCount + report.counts .latencyClockErrors
  images : cfg.publishImages = true → report.counts .receivedFrames ≤
    report.counts .publishedImages + report.counts .imagePublishErrors + 1
  sessions : report.counts .acceptedSessions ≤ report.counts .completedSessions + 1
  /-- A failure is reported with its own text. -/
  failure : report.connectionState = "error" → report.lastError = report.stateMessage
  error : report.level = .error ↔ report.connectionState = "error"
  ok : report.level = .ok → report.totalErrors = 0
  warn : report.level = .warn → 0 < report.totalErrors + report.counts .rejectedFrames

/-- One report before another. -/
structure Report.Before (report later : Report) : Prop where
  counts : ∀ c, report.counts c ≤ later.counts c
  level : report.level.value ≤ later.level.value

/-- `receive_fps` is the rate of the frames since the report directly before. -/
structure Report.Follows (double : ℚ → ℚ) (report next : Report) : Prop where
  frames : report.counts .receivedFrames ≤ next.counts .receivedFrames
  rate : ∃ interval, interval =
      double (double (next.nowSteadyNs - report.nowSteadyNs : Int) / 1000000000) ∧
    next.receiveFps = if 0 < interval then
      double (double (next.counts .receivedFrames - report.counts .receivedFrames : Nat) / interval)
      else 0

/-- What a report keeps saying of every later state. -/
structure Report.Behind (report : Report) (s : NodeShared) : Prop where
  counts : ∀ c, report.counts c ≤ s.counters c
  warn : report.level = .warn → 0 < s.faults
  error : report.level = .error → s.connectionState = "error"

theorem faults_mono {s s' : NodeShared} (le : s ≤ s') : s.faults ≤ s'.faults := by
  obtain ⟨counters, -, -⟩ := NodeShared.le_iff.mp le
  have crc := counters .crcErrors
  have header := counters .headerErrors
  have clock := counters .latencyClockErrors
  have image := counters .imagePublishErrors
  have rejected := counters .rejectedFrames
  rw [NodeShared.faults, NodeShared.faults]
  omega

theorem Report.Behind.mono {report : Report} {s s' : NodeShared} (behind : report.Behind s)
    (le : s ≤ s') : report.Behind s' where
  counts c := (behind.counts c).trans ((NodeShared.le_iff.mp le).1 c)
  warn warned := (behind.warn warned).trans_le (faults_mono le)
  error failed := (NodeShared.le_iff.mp le).2.2 (behind.error failed)

/-! ### Reading it -/

section Reading

variable {cfg : NodeConfig} {sqrt : ℚ → ℚ} {rate : Rate} {nowSteadyNs : Int}
  {since now : NodeShared} {moment : ℕ → NodeShared}

/-- The moment of the load of a counter, behind that of `received_frames_`. -/
def loadedAt (since : NodeShared) (moment : ℕ → NodeShared) : NodeCounter → NodeShared
  | .receivedFrames => since
  | .crcErrors => moment 2
  | .headerErrors => moment 3
  | .latencyClockErrors => moment 4
  | .imagePublishErrors => moment 5
  | .receivedBytes => moment 7
  | .acceptedSessions => moment 8
  | .completedSessions => moment 9
  | .peerDisconnects => moment 10
  | .rejectedFrames => moment 11
  | .publishedImages => moment 12

/-- What a finished report holds, by the moments of its loads. -/
structure ReadAt (sqrt : ℚ → ℚ) (since : NodeShared) (moment : ℕ → NodeShared)
    (report : Report) : Prop where
  counts : ∀ c, report.counts c = (loadedAt since moment c).counters c
  texts : report.connectionState = (moment 0).connectionState ∧
    report.stateMessage = (moment 0).stateMessage ∧ report.lastError = (moment 0).lastError
  latency : report.latency = snapshot sqrt (moment 1).e2eLatency
  level : report.level = if (moment 0).connectionState = "error" then .error
    else if report.totalErrors > 0 ∨ (moment 6).counters .rejectedFrames > 0 then .warn else .ok

theorem readAt_replay (sqrt double : ℚ → ℚ) (rate : Rate) (nowSteadyNs : Int)
    (since : NodeShared) (moment : ℕ → NodeShared) :
    ReadAt sqrt since moment
      (replay (loads sqrt) moment (beginReport double rate nowSteadyNs since)) where
  counts c := by cases c <;> rfl
  texts := ⟨rfl, rfl, rfl⟩
  latency := rfl
  level := rfl

theorem loadedAt_within (chain : Chain (SharedSound cfg) since moment now) (c : NodeCounter) :
    since ≤ loadedAt since moment c ∧ loadedAt since moment c ≤ now := by
  cases c with
  | receivedFrames => exact ⟨le_rfl, (chain.started 0).trans (chain.past 0)⟩
  | _ => exact ⟨chain.started _, chain.past _⟩

theorem ReadAt.consistent {report : Report} (read : ReadAt sqrt since moment report)
    (chain : Chain (SharedSound cfg) since moment now) (here : SharedSound cfg since) :
    report.Consistent cfg := by
  have later : ∀ {k k'} (c : NodeCounter), k ≤ k' →
      (moment k).counters c ≤ (moment k').counters c :=
    fun c le => (NodeShared.le_iff.mp (chain.ordered le)).1 c
  have behind : ∀ k c, since.counters c ≤ (moment k).counters c :=
    fun k c => (NodeShared.le_iff.mp (chain.started k)).1 c
  have counts := read.counts
  constructor
  case rejected =>
    -- `crc_errors_` is read first, and `rejected_frames_` behind both.
    have atHeader := (chain.sound 3).rejected
    have crc := later .crcErrors (show 2 ≤ 3 by decide)
    have rejected := later .rejectedFrames (show 3 ≤ 11 by decide)
    simp only [counts, loadedAt]
    omega
  case latency =>
    obtain ⟨summary, summarised, ordered, count, _⟩ :=
      snapshot_total sqrt (moment 1).e2eLatency
    refine ⟨summary, read.latency.trans summarised, ordered, ?_⟩
    have atStart := here.latency
    have samples := (NodeShared.le_iff.mp (chain.started 1)).2.1
    have clock := behind 4 .latencyClockErrors
    simp only [counts, loadedAt, count]
    omega
  case images =>
    intro on
    have atStart := here.images on
    have errors := behind 5 .imagePublishErrors
    have published := behind 12 .publishedImages
    simp only [counts, loadedAt]
    omega
  case sessions =>
    have atAccepted := (chain.sound 8).sessions
    have completed := later .completedSessions (show 8 ≤ 9 by decide)
    simp only [counts, loadedAt]
    omega
  case failure =>
    rw [read.texts.1, read.texts.2.1, read.texts.2.2]
    exact (chain.sound 0).failure
  case error =>
    rw [read.level, read.texts.1]
    split
    next failed => simp only [failed]
    next running => split <;> simp [running]
  case ok =>
    rw [read.level]
    split
    · exact fun isOk => by cases isOk
    split
    · exact fun isOk => by cases isOk
    · intro _
      omega
  case warn =>
    have rejected := later .rejectedFrames (show 6 ≤ 11 by decide)
    have last : report.counts .rejectedFrames = (moment 11).counters .rejectedFrames := counts _
    rw [read.level]
    split
    · exact fun isWarn => by cases isWarn
    split
    · intro _
      omega
    · exact fun isWarn => by cases isWarn

theorem ReadAt.behind {report : Report} (read : ReadAt sqrt since moment report)
    (chain : Chain (SharedSound cfg) since moment now) (consistent : report.Consistent cfg) :
    report.Behind now := by
  have counts : ∀ c, report.counts c ≤ now.counters c := by
    intro c
    rw [read.counts]
    exact (NodeShared.le_iff.mp (loadedAt_within chain c).2).1 c
  refine ⟨counts, fun warned => ?_, fun failed => ?_⟩
  · have faults := consistent.warn warned
    have crc := counts .crcErrors
    have header := counts .headerErrors
    have clock := counts .latencyClockErrors
    have image := counts .imagePublishErrors
    have rejected := counts .rejectedFrames
    rw [Report.totalErrors] at faults
    rw [NodeShared.faults]
    omega
  · apply (NodeShared.le_iff.mp (chain.past 0)).2.2
    rw [← read.texts.1]
    exact consistent.error.mp failed

/-- Whatever an earlier report had to say, this one still says. -/
theorem ReadAt.before {report earlier : Report} (read : ReadAt sqrt since moment report)
    (chain : Chain (SharedSound cfg) since moment now) (behind : earlier.Behind since) :
    earlier.Before report := by
  have counts : ∀ c, since.counters c ≤ report.counts c := by
    intro c
    rw [read.counts]
    exact (NodeShared.le_iff.mp (loadedAt_within chain c).1).1 c
  refine ⟨fun c => (behind.counts c).trans (counts c), ?_⟩
  cases level : earlier.level with
  | ok => exact Nat.zero_le _
  | error =>
    have failed := (NodeShared.le_iff.mp (chain.started 0)).2.2 (behind.error level)
    rw [read.level, if_pos failed]
  | warn =>
    -- A fault that was counted before is seen by one of the loads.
    have faults := behind.warn level
    have crc := counts .crcErrors
    have header := counts .headerErrors
    have clock := counts .latencyClockErrors
    have image := counts .imagePublishErrors
    have rejected := (NodeShared.le_iff.mp (chain.started 6)).1 .rejectedFrames
    rw [NodeShared.faults] at faults
    have seen : report.totalErrors > 0 ∨ (moment 6).counters .rejectedFrames > 0 := by
      rw [Report.totalErrors]
      omega
    rw [read.level, if_pos seen]
    split <;> simp [StatusLevel.value]

end Reading

end V4l2Capture.Diagnostics
