import V4l2Capture.Diagnostics.Reports
import V4l2Capture.Library.JsonDocument

/-!
# What the node publishes

A subscriber looks up the values of a status by their keys. What the loads of
`publish_diagnostics` have in common with each other, and with those of the calls before, is
stated here about the published messages.
-/
namespace V4l2Capture.Diagnostics

open Protocol Receiver Stats Sampling Decimals

/-! ### Reading a status -/

def DiagnosticStatus.value (status : DiagnosticStatus) (key : String) : Option String :=
  status.values.lookup key

/-- The digits under a key as a number; 0 if there is no such key. -/
def DiagnosticStatus.count (status : DiagnosticStatus) (key : String) : Nat :=
  ((status.value key).map fun text => Nat.ofDigitChars 10 text.toList 0).getD 0

/-- The number under a key, with its places. -/
def DiagnosticStatus.number (status : DiagnosticStatus) (key : String) : Option ℚ :=
  (status.value key).bind fun text =>
    match JsonDocument.readValue (text.toList.map Char.toUInt8) with
    | some (.number value, []) => some value
    | _ => none

def NodeCounter.key : NodeCounter → String
  | .receivedFrames => "received_frames"
  | .receivedBytes => "received_bytes"
  | .acceptedSessions => "accepted_sessions"
  | .completedSessions => "completed_sessions"
  | .peerDisconnects => "peer_disconnects"
  | .headerErrors => "header_errors"
  | .crcErrors => "crc_errors"
  | .rejectedFrames => "rejected_frames"
  | .publishedImages => "published_images"
  | .imagePublishErrors => "image_publish_errors"
  | .latencyClockErrors => "latency_clock_errors"

/-- The numbers of a status agree with each other, though none of them were read together. -/
structure DiagnosticStatus.Consistent (cfg : NodeConfig) (status : DiagnosticStatus) : Prop where
  counts : ∀ c : NodeCounter, status.value c.key = some (toString (status.count c.key))
  rejected : status.count "header_errors" + status.count "crc_errors" ≤
    status.count "rejected_frames" + 1
  samples : status.count "received_frames" ≤
    status.count "e2e_latency_samples" + status.count "latency_clock_errors"
  latency : ∃ mean p50 p95 p99 most, status.number "e2e_latency_mean_us" = some mean ∧
    status.number "e2e_latency_p50_us" = some p50 ∧
    status.number "e2e_latency_p95_us" = some p95 ∧
    status.number "e2e_latency_p99_us" = some p99 ∧
    status.number "e2e_latency_max_us" = some most ∧
    p50 ≤ p95 ∧ p95 ≤ p99 ∧ p99 ≤ most ∧ mean ≤ most
  images : cfg.publishImages = true → status.count "received_frames" ≤
    status.count "published_images" + status.count "image_publish_errors" + 1
  sessions : status.count "accepted_sessions" ≤ status.count "completed_sessions" + 1
  error : status.level = .error ↔ status.value "connection_state" = some "error"
  /-- A failure is reported with its own text. -/
  failure : status.level = .error → status.value "last_error" = some status.message
  ok : status.level = .ok → status.count "crc_errors" = 0 ∧ status.count "header_errors" = 0 ∧
    status.count "latency_clock_errors" = 0 ∧ status.count "image_publish_errors" = 0
  warn : status.level = .warn → 0 < status.count "crc_errors" + status.count "header_errors" +
    status.count "latency_clock_errors" + status.count "image_publish_errors" +
    status.count "rejected_frames"

/-- One message before another. -/
structure Published.Before (earlier later : Published) : Prop where
  counts : ∀ c : NodeCounter, earlier.status.count c.key ≤ later.status.count c.key
  level : earlier.status.level.value ≤ later.status.level.value

/-- `receive_fps` is what double arithmetic makes of the frames since the message directly
before and the time between the two, up to half a unit of its third place. -/
def Published.Rated (double : ℚ → ℚ) (rate : Rate) (next : Published) : Prop :=
  rate.lastRateFrameCount ≤ next.status.count "received_frames" ∧
    ∃ interval fps shown : ℚ,
      interval = double (double (next.nowSteadyNs - rate.lastRateTimeNs : Int) / 1000000000) ∧
      fps = (if 0 < interval then double (double
        (next.status.count "received_frames" - rate.lastRateFrameCount : Nat) / interval) else 0) ∧
      next.status.number "receive_fps" = some shown ∧ |shown - fps| ≤ 1 / 2000

/-- Each message is rated from the one before it, the first one from `rate`. -/
def RatedFrom (double : ℚ → ℚ) (rate : Rate) : List Published → Prop
  | [] => True
  | next :: rest =>
    next.Rated double rate ∧
      RatedFrom double ⟨next.status.count "received_frames", next.nowSteadyNs⟩ rest

/-! ### The values of a report -/

section Values

variable (cfg : ReportConfig) (report : Report)

theorem status_keys : ((report.status cfg).values.map Prod.fst).Nodup := by
  have keys : (report.status cfg).values.map Prod.fst =
      ["rmw_implementation", "protocol_version", "connection_state", "connected",
        "listen_address", "listen_port", "publish_images", "image_topic", "camera_info_topic",
        "camera_frame_id", "output_encoding", "image_qos_reliability", "image_qos_depth",
        "camera_calibrated", "receive_fps", "received_frames", "received_bytes",
        "accepted_sessions", "completed_sessions", "peer_disconnects", "header_errors",
        "crc_errors", "rejected_frames", "published_images", "image_publish_errors",
        "latency_clock_errors", "e2e_latency_samples", "e2e_latency_mean_us",
        "e2e_latency_p50_us", "e2e_latency_p95_us", "e2e_latency_p99_us", "e2e_latency_max_us",
        "e2e_latency_jitter_us", "last_frame_id", "last_width", "last_height",
        "last_pixel_format", "last_capture_timestamp_ns", "last_receive_timestamp_ns",
        "last_error"] := rfl
  rw [keys]
  decide +kernel

theorem lookup_eq_of_getElem? {values : List (String × String)}
    (nodup : (values.map Prod.fst).Nodup) {i : ℕ} {key text : String}
    (there : values[i]? = some (key, text)) : values.lookup key = some text := by
  induction values generalizing i with
  | nil => cases there
  | cons value values ih =>
    rw [List.map_cons, List.nodup_cons] at nodup
    cases i with
    | zero =>
      obtain rfl : value = (key, text) := Option.some.inj there
      exact List.lookup_cons_self
    | succ i =>
      rw [List.getElem?_cons_succ] at there
      have member : key ∈ values.map Prod.fst :=
        List.mem_map_of_mem (f := Prod.fst) (List.mem_of_getElem? there)
      have other : (key == value.1) = false := by
        rw [beq_eq_false_iff_ne]
        rintro rfl
        exact nodup.1 member
      rw [List.lookup_cons, other]
      exact ih nodup.2 there

variable {cfg report}

theorem status_value (i : ℕ) {key text : String}
    (there : (report.status cfg).values[i]? = some (key, text)) :
    (report.status cfg).value key = some text :=
  lookup_eq_of_getElem? (status_keys cfg report) there

theorem count_of_value {status : DiagnosticStatus} {key : String} {n : ℕ}
    (found : status.value key = some (toString n)) : status.count key = n := by
  rw [DiagnosticStatus.count, found, Option.map_some, Option.getD_some, Nat.toString_eq_repr,
    Nat.toList_repr, Nat.ofDigitChars_toDigits (by decide) (by decide)]

/-- The characters of a printed number are its bytes. -/
theorem formatDouble_bytes (value : ℚ) :
    (formatDouble value).toList.map Char.toUInt8 = fixedPoint 3 value := by
  have byte : ∀ b : UInt8, (Char.ofNat b.toNat).toUInt8 = b := by
    intro b
    have small := b.toNat_lt
    have valid : b.toNat.isValidChar := .inl (by omega)
    rw [Char.toUInt8, Char.ofNat, dif_pos valid]
    exact UInt8.ofNat_toNat
  rw [formatDouble, String.toList_ofList, List.map_map]
  exact (List.map_congr_left fun b _ => byte b).trans (List.map_id _)

theorem number_of_value {status : DiagnosticStatus} {key : String} {value : ℚ}
    (found : status.value key = some (formatDouble value)) :
    status.number key = some (fixedValue 3 value) := by
  have reads := (JsonDocument.denotes_fixedPoint 3 value (by decide)).reads []
    fun b head => by cases head
  rw [List.append_nil] at reads
  rw [DiagnosticStatus.number, found, Option.bind_some, formatDouble_bytes, reads]

theorem status_counts (c : NodeCounter) :
    (report.status cfg).value c.key = some (toString (report.counts c)) := by
  cases c with
  | receivedFrames => exact status_value 15 rfl
  | receivedBytes => exact status_value 16 rfl
  | acceptedSessions => exact status_value 17 rfl
  | completedSessions => exact status_value 18 rfl
  | peerDisconnects => exact status_value 19 rfl
  | headerErrors => exact status_value 20 rfl
  | crcErrors => exact status_value 21 rfl
  | rejectedFrames => exact status_value 22 rfl
  | publishedImages => exact status_value 23 rfl
  | imagePublishErrors => exact status_value 24 rfl
  | latencyClockErrors => exact status_value 25 rfl

theorem status_count (c : NodeCounter) : (report.status cfg).count c.key = report.counts c :=
  count_of_value (status_counts c)

theorem Report.Consistent.status {node : NodeConfig} (consistent : report.Consistent node)
    (cfg : ReportConfig) : (report.status cfg).Consistent node := by
  have count : ∀ c : NodeCounter, (report.status cfg).count c.key = report.counts c :=
    status_count
  have state : (report.status cfg).value "connection_state" = some report.connectionState :=
    status_value 2 rfl
  have lastError : (report.status cfg).value "last_error" = some report.lastError :=
    status_value 39 rfl
  have crc := count .crcErrors
  have header := count .headerErrors
  have clock := count .latencyClockErrors
  have image := count .imagePublishErrors
  have rejected := count .rejectedFrames
  have received := count .receivedFrames
  have published := count .publishedImages
  have accepted := count .acceptedSessions
  have completed := count .completedSessions
  dsimp only [NodeCounter.key]
    at crc header clock image rejected received published accepted completed
  obtain ⟨summary, latency, ordered, samples⟩ := consistent.latency
  have summarised : report.latency.getD {} = summary := by rw [latency, Option.getD_some]
  have sampleCount : (report.status cfg).count "e2e_latency_samples" = summary.sampleCount := by
    rw [← summarised]
    exact count_of_value (status_value 26 rfl)
  constructor
  case counts =>
    intro c
    rw [count, status_counts]
  case rejected =>
    have := consistent.rejected
    omega
  case samples => omega
  case latency =>
    refine ⟨_, _, _, _, _, number_of_value (status_value 27 rfl),
      number_of_value (status_value 28 rfl), number_of_value (status_value 29 rfl),
      number_of_value (status_value 30 rfl), number_of_value (status_value 31 rfl), ?_⟩
    rw [summarised]
    exact ⟨fixedValue_mono 3 ordered.p50_le_p95, fixedValue_mono 3 ordered.p95_le_p99,
      fixedValue_mono 3 ordered.p99_le_max, fixedValue_mono 3 ordered.mean_le_max⟩
  case images =>
    intro on
    have := consistent.images on
    omega
  case sessions =>
    have := consistent.sessions
    omega
  case error =>
    rw [state, Option.some.injEq]
    exact consistent.error
  case failure =>
    intro failed
    rw [lastError]
    exact congrArg some (consistent.failure (consistent.error.mp failed))
  case ok =>
    intro fine
    have none := consistent.ok fine
    rw [Report.totalErrors] at none
    omega
  case warn =>
    intro warned
    have some := consistent.warn warned
    rw [Report.totalErrors] at some
    omega

theorem Report.Before.publish {later : Report} (before : report.Before later)
    (cfg : ReportConfig) : (report.publish cfg).Before (later.publish cfg) where
  counts c := by
    change (report.status cfg).count c.key ≤ (later.status cfg).count c.key
    rw [status_count, status_count]
    exact before.counts c
  level := before.level

def Report.rate (report : Report) : Rate :=
  ⟨report.counts .receivedFrames, report.nowSteadyNs⟩

theorem Report.Follows.publish {double : ℚ → ℚ} {next : Report}
    (follows : report.Follows double next) (cfg : ReportConfig) :
    (next.publish cfg).Rated double report.rate := by
  obtain ⟨interval, elapsed, rate⟩ := follows.rate
  have received : (next.status cfg).count "received_frames" = next.counts .receivedFrames :=
    status_count .receivedFrames
  rw [Published.Rated, Report.publish, received]
  refine ⟨follows.frames, interval, _, _, elapsed, rate, number_of_value (status_value 14 rfl), ?_⟩
  exact (abs_fixedValue_sub_le 3 next.receiveFps).trans (by norm_num)

theorem ratedFrom_of_chain {double : ℚ → ℚ} {reports : List Report}
    (chain : (report :: reports).IsChain (Report.Follows double)) (cfg : ReportConfig) :
    RatedFrom double report.rate (reports.map (Report.publish cfg)) := by
  induction reports generalizing report with
  | nil => trivial
  | cons next rest ih =>
    rw [List.isChain_cons_cons] at chain
    have received : (next.status cfg).count "received_frames" = next.counts .receivedFrames :=
      status_count .receivedFrames
    refine ⟨chain.1.publish cfg, ?_⟩
    change RatedFrom double ⟨(next.status cfg).count "received_frames", next.nowSteadyNs⟩ _
    rw [received]
    exact ih chain.2

end Values

/-! ### The reports of a run -/

/-- The node when its threads start: `last_rate_time_` is the clock of the constructor. -/
def reportingStart (startNs : Int) : ReportingState where
  rate := ⟨0, startNs⟩

/-- The first rate counts from the constructor. -/
def noReport (startNs : Int) : Report where
  nowSteadyNs := startNs

/-- The timer between two calls, or in the middle of one that began at `since`. -/
def TimerAt (cfg : NodeConfig) (reportEnv : ReportEnv) (startNs : Int)
    (s : ReportingState) : Prop :=
  match s.building with
  | none =>
    (∀ report ∈ noReport startNs :: s.reports, report.Behind s.shared) ∧
      s.rate = (s.reports.getLastD (noReport startNs)).rate
  | some (todo, report) =>
    ∃ since nowSteadyNs,
      Observing (SharedSound cfg) since (loads reportEnv.sqrt)
        (beginReport reportEnv.double (s.reports.getLastD (noReport startNs)).rate nowSteadyNs
          since) todo report s.shared ∧
      SharedSound cfg since ∧
      (∀ earlier ∈ noReport startNs :: s.reports, earlier.Behind since) ∧
      s.rate = ⟨since.counters .receivedFrames, nowSteadyNs⟩

structure ReportingInv (cfg : LoopConfig) (reportEnv : ReportEnv) (startNs : Int)
    (s : ReportingState) : Prop where
  worker : LoopConsistent cfg s.worker
  failed : FailedFinished s.worker
  replayed : s.todo.foldl NodeShared.access s.shared = s.worker.shared
  writing : Throughout NodeShared.access (MomentSound cfg.toNodeConfig) s.shared s.todo
  timer : TimerAt cfg.toNodeConfig reportEnv startNs s
  published : s.published = s.reports.map (Report.publish reportEnv.config)
  consistent : ∀ report ∈ s.reports, report.Consistent cfg.toNodeConfig
  ordered : s.reports.Pairwise Report.Before
  rates : (noReport startNs :: s.reports).IsChain (Report.Follows reportEnv.double)

theorem noReport_behind (startNs : Int) (s : NodeShared) : (noReport startNs).Behind s where
  counts _ := Nat.zero_le _
  warn warned := by cases warned
  error failed := by cases failed

theorem reportingInv_initial (cfg : LoopConfig) (reportEnv : ReportEnv) (startNs : Int) :
    ReportingInv cfg reportEnv startNs (reportingStart startNs) where
  worker := loopConsistent_initial cfg
  failed := .of_ne (show "starting" ≠ "error" by decide)
  replayed := NodeShared.ext_counters (fun c => by cases c <;> rfl) rfl rfl ⟨rfl, rfl, rfl⟩
  writing := by
    refine ⟨⟨Nat.zero_le _, Nat.zero_le _, fun _ => Nat.zero_le _, Nat.zero_le _, ?_⟩, fun _ => rfl⟩
    exact fun failed => absurd failed (show "starting" ≠ "error" by decide)
  timer := by
    refine ⟨fun report member => ?_, rfl⟩
    rw [List.mem_singleton.mp member]
    exact noReport_behind startNs _
  published := rfl
  consistent report member := by cases member
  ordered := .nil
  rates := .singleton _

/-- The thread goes on while the timer stands anywhere. -/
theorem TimerAt.advance {cfg : NodeConfig} {reportEnv : ReportEnv} {startNs : Int}
    {s : ReportingState} (timer : TimerAt cfg reportEnv startNs s) {shared : NodeShared}
    (le : s.shared ≤ shared)
    (worker : LoopState) (todo : List NodeAccess) :
    TimerAt cfg reportEnv startNs { s with worker := worker, todo := todo, shared := shared } := by
  unfold TimerAt at *
  simp only
  split at timer
  next idle =>
    exact ⟨fun report member => (timer.1 report member).mono le, timer.2⟩
  next rest report building =>
    obtain ⟨since, nowSteadyNs, observing, others⟩ := timer
    exact ⟨since, nowSteadyNs, observing.advance le, others⟩

/-- The rate of a report that began at `since`. -/
theorem beginReport_follows {double : ℚ → ℚ} {previous report : Report} {nowSteadyNs : Int}
    {since : NodeShared} (behind : previous.Behind since)
    (begun : report.counts .receivedFrames = since.counters .receivedFrames ∧
      report.nowSteadyNs = nowSteadyNs ∧
      report.receiveFps = (beginReport double previous.rate nowSteadyNs since).receiveFps) :
    previous.Follows double report := by
  obtain ⟨count, time, fps⟩ := begun
  have frames := behind.counts .receivedFrames
  -- The counter never falls, so the unsigned difference does not wrap around.
  have exact : unsignedDifference (since.counters .receivedFrames)
      (previous.counts .receivedFrames) =
        since.counters .receivedFrames - previous.counts .receivedFrames := if_pos frames
  refine ⟨count ▸ frames, _, rfl, ?_⟩
  rw [fps, time, count, ← exact]
  rfl

theorem ReportingInv.publish {cfg : LoopConfig} {reportEnv : ReportEnv} {startNs : Int}
    {s : ReportingState} {report : Report} (inv : ReportingInv cfg reportEnv startNs s)
    (building : s.building = some ([], report)) :
    ReportingInv cfg reportEnv startNs
      { s with
        building := none
        published := s.published ++ [report.publish reportEnv.config]
        reports := s.reports ++ [report] } := by
  have timer := inv.timer
  rw [TimerAt, building] at timer
  obtain ⟨since, nowSteadyNs, observing, here, earlier, rate⟩ := timer
  obtain ⟨moment, replayed, chain⟩ := observing.finished
  have read := readAt_replay reportEnv.sqrt reportEnv.double
    (s.reports.getLastD (noReport startNs)).rate nowSteadyNs since moment
  rw [← replayed] at read
  have consistent := read.consistent chain here
  have behind := read.behind chain consistent
  have began : report.nowSteadyNs = nowSteadyNs ∧
      report.receiveFps = (beginReport reportEnv.double
        (s.reports.getLastD (noReport startNs)).rate nowSteadyNs since).receiveFps := by
    rw [replayed]
    exact ⟨rfl, rfl⟩
  refine { inv with timer := ?_, published := ?_, consistent := ?_, ordered := ?_, rates := ?_ }
  · refine ⟨fun other member => ?_, ?_⟩
    · rw [← List.cons_append, List.mem_append, List.mem_singleton] at member
      rcases member with old | rfl
      · exact (earlier other old).mono ((chain.started 0).trans (chain.past 0))
      · exact behind
    · rw [List.getLastD_concat, rate, Report.rate, read.counts, began.1]
      rfl
  · rw [inv.published, List.map_append, List.map_singleton]
  · intro other member
    rw [List.mem_append, List.mem_singleton] at member
    rcases member with old | rfl
    · exact inv.consistent other old
    · exact consistent
  · refine List.pairwise_append.mpr ⟨inv.ordered, List.pairwise_singleton _ _, ?_⟩
    intro other old new member
    rw [List.mem_singleton.mp member]
    exact read.before chain (earlier other (List.mem_cons_of_mem _ old))
  · rw [← List.cons_append]
    refine inv.rates.append (.singleton _) ?_
    intro last isLast new isNew
    cases isNew
    have previous : last = s.reports.getLastD (noReport startNs) := by
      rw [List.getLast?_cons, Option.mem_some_iff] at isLast
      rw [← isLast, List.getLastD_eq_getLast?]
    rw [previous]
    exact beginReport_follows (earlier _ List.getLastD_mem_cons)
      ⟨read.counts .receivedFrames, began⟩

theorem ReportingInv.step {cfg : LoopConfig} {env : NodeEnv} {reportEnv : ReportEnv}
    {startNs : Int} {s s' : ReportingState} {action : ReportingAction}
    (inv : ReportingInv cfg reportEnv startNs s)
    (taken : reportingStep cfg env reportEnv s action = some s') :
    ReportingInv cfg reportEnv startNs s' := by
  have here := inv.writing.here
  cases action with
  | work action =>
    simp only [reportingStep] at taken
    split at taken
    next nothing =>
      obtain ⟨worker, step, rfl⟩ := Option.map_eq_some_iff.mp taken
      have replayed := inv.replayed
      rw [nothing] at replayed
      have same : s.shared = s.worker.shared := replayed
      refine { inv with
        worker := inv.worker.step step
        failed := inv.failed.step step
        replayed := ?_
        writing := ?_
        timer := inv.timer.advance le_rfl worker _ }
      · rw [same]
        exact loopAccesses_replay step
      · rw [same]
        exact loopAccesses_throughout inv.worker inv.failed step
    · cases taken
  | access =>
    simp only [reportingStep] at taken
    split at taken
    · cases taken
    next op rest accesses =>
      cases taken
      have writing := inv.writing
      have replayed := inv.replayed
      rw [accesses] at writing replayed here
      exact { inv with
        replayed := replayed
        writing := writing.2
        timer := inv.timer.advance (access_le here) s.worker rest }
  | timer nowSteadyNs =>
    simp only [reportingStep] at taken
    split at taken
    next idle =>
      cases taken
      have timer := inv.timer
      rw [TimerAt, idle] at timer
      refine { inv with timer := ?_ }
      refine ⟨s.shared, nowSteadyNs, ?_, here.sound, timer.1, rfl⟩
      rw [← timer.2]
      exact observing_start here.sound _ _
    · cases taken
  | load =>
    simp only [reportingStep] at taken
    split at taken
    next reading rest report building =>
      cases taken
      have timer := inv.timer
      rw [TimerAt, building] at timer
      obtain ⟨since, nowSteadyNs, observing, others⟩ := timer
      exact { inv with timer := ⟨since, nowSteadyNs, observing.read here.sound, others⟩ }
    · cases taken
  | publish =>
    simp only [reportingStep] at taken
    split at taken
    next report building =>
      cases taken
      exact inv.publish building
    · cases taken

/-- The published messages of the node, wherever the loads of its timer fall between the accesses
of the receiver thread: the numbers of one message agree up to the one frame or session in work,
a message never falls behind one before it, its level included, and each rate is that of the
frames since the message before. -/
theorem node_reports (cfg : LoopConfig) (env : NodeEnv) (reportEnv : ReportEnv) (startNs : Int)
    (s : ReportingState)
    (reached : Transition.Reaches (reportingStep cfg env reportEnv) (reportingStart startNs) s) :
    (∀ message ∈ s.published, message.status.Consistent cfg.toNodeConfig) ∧
    s.published.Pairwise Published.Before ∧
    RatedFrom reportEnv.double ⟨0, startNs⟩ s.published := by
  have inv : ReportingInv cfg reportEnv startNs s := by
    apply Transition.invariant (ReportingInv cfg reportEnv startNs)
      (reportingInv_initial cfg reportEnv startNs) ?_ reached
    intro before action after _ holds taken
    exact holds.step taken
  rw [inv.published]
  refine ⟨?_, ?_, ratedFrom_of_chain inv.rates reportEnv.config⟩
  · intro message member
    obtain ⟨report, there, rfl⟩ := List.mem_map.mp member
    exact (inv.consistent report there).status reportEnv.config
  · rw [List.pairwise_map]
    exact inv.ordered.imp fun before => before.publish reportEnv.config

/-- The parameters of a node that publishes images, with doubles that are exact. -/
def plainReports : ReportEnv where
  config := {
    rmwImplementation := none
    listenAddress := "0.0.0.0"
    listenPort := 9000
    publishImages := true
    imageTopic := "/camera/image_raw"
    cameraInfoTopic := "/camera/camera_info"
    cameraFrameId := "camera_optical_frame"
    outputEncoding := "rgb8"
    imageQosReliability := "reliable"
    imageQosDepth := 5
    cameraCalibrated := false }
  sqrt := id
  double := id

/-- A call of `publish_diagnostics` without an access in between. -/
def oneReport (nowSteadyNs : Int) : List ReportingAction :=
  .timer nowSteadyNs :: (loads id).map (fun _ => .load) ++ [.publish]

/-- One message before the first client, and one in the middle of the only frame: the frame is
counted, and its image is not published yet. -/
def twoReports : List ReportingAction :=
  List.flatten [
    [.work (.setup {} false), .access],
    oneReport 1000000000,
    [.work (.round { accept := .connected (some "127.0.0.1") 5000 clientInput }), .access, .access],
    [.work (.iterate false), .access, .access],
    oneReport 2000000000]

/-- `node_reports` over `twoReports`, where the second message shows a frame without its image. -/
theorem node_reports_twoReports :
    ∃ s, Transition.Reaches (reportingStep imageNode plainNodeEnv plainReports)
        (reportingStart 0) s ∧
      (s.published.map fun message => (message.status.value "receive_fps",
        message.status.count "received_frames", message.status.count "published_images",
        message.status.count "e2e_latency_samples")) =
          [(some "0.000", 0, 0, 0), (some "1.000", 1, 0, 1)] ∧
      (∀ message ∈ s.published, message.status.Consistent imageNode.toNodeConfig) ∧
      s.published.Pairwise Published.Before ∧ RatedFrom id ⟨0, 0⟩ s.published := by
  obtain ⟨s, reached, shown⟩ : ∃ s,
      Transition.Reaches (reportingStep imageNode plainNodeEnv plainReports)
          (reportingStart 0) s ∧
        (s.published.map fun message => (message.status.value "receive_fps",
          message.status.count "received_frames", message.status.count "published_images",
          message.status.count "e2e_latency_samples")) =
            [(some "0.000", 0, 0, 0), (some "1.000", 1, 0, 1)] :=
    Transition.exists_reached twoReports (by decide +kernel)
  exact ⟨s, reached, shown, node_reports imageNode plainNodeEnv plainReports 0 s reached⟩

end V4l2Capture.Diagnostics
