import V4l2Capture.Pipeline.Accounting
import V4l2Capture.Pipeline.Connect
import V4l2Capture.Pipeline.Latencies
import V4l2Capture.Stats.Documents

/-!
# The statistics file of the pipeline

The two places where `run_pipeline` writes its statistics: in front of the threads, when it has
no connection, and behind their join. `pipeline_stats_file` says what a reader of the file finds
after any run, and when the numbers pass the check of the frame quality script.
-/
namespace V4l2Capture.Pipeline

open Camera JsonDocument Stats Traced

variable {cfg : PipelineConfig} {camera : CameraDevice} {s : PipelineState cfg}
  {t : TimedState cfg} {startNs : Nat} {N : Type}

/-- `PipelineStats::snapshot` on the failure path: nothing has run for no time. -/
def connectionFailureSnapshot (connection : ConnectState N) (message : String) :
    PipelineStatsSnapshot where
  tcpSendErrors := 1
  tcpConnectAttempts := connection.attempts
  tcpConnectRetries := connection.retries
  lastError := textBytes message

/-- `PipelineStats::snapshot` behind the join, where the clock shows `endNs`, with the counters
that are read off the queues; `none` if a lookup of a summary is out of range. `double` rounds
the elapsed time and the two rates; the latencies are taken as exact rationals. -/
def TimedState.statsSnapshot (sqrt double : ℚ → ℚ) (t : TimedState cfg)
    (connection : ConnectState N) (endNs : Nat) : Option PipelineStatsSnapshot := do
  let s := t.pipeline
  let toConsumer ← snapshot sqrt t.captureToConsumer
  let toSend ← snapshot sqrt t.captureToSend
  let elapsedSeconds : ℚ := double (((endNs : ℚ) - t.startNs) / 1000000000)
  let perSecond (frames : Nat) : ℚ :=
    if elapsedSeconds > 0 then double (frames / elapsedSeconds) else 0
  return {
    captured := s.shared.stats .captured
    consumed := s.shared.stats .consumed
    invalid := s.shared.stats .invalid
    saved := s.shared.stats .saved
    consumedBytes := s.shared.stats .consumedBytes
    captureDropped := s.queueCounters.captureDropped
    captureQueueRemaining := s.queueCounters.captureQueueRemaining
    tcpQueued := s.shared.stats .tcpQueued
    tcpDropped := s.queueCounters.tcpDropped
    tcpQueueRemaining := s.queueCounters.tcpQueueRemaining
    tcpSent := s.shared.stats .tcpSent
    tcpSentBytes := s.shared.stats .tcpSentBytes
    tcpSendErrors := s.shared.stats .tcpSendErrors
    tcpSendTimeouts := s.shared.stats .tcpSendTimeouts
    tcpSendCancellations := s.shared.stats .tcpSendCancellations
    tcpConnectAttempts := connection.attempts
    tcpConnectRetries := connection.retries
    cameraCaptureTimeouts := s.shared.stats .cameraCaptureTimeouts
    cameraTemporaryUnavailable := s.shared.stats .cameraTemporaryUnavailable
    cameraDeviceErrors := s.shared.stats .cameraDeviceErrors
    cameraBufferErrorFrames := s.shared.stats .cameraBufferErrorFrames
    cameraIncompleteFrames := s.shared.stats .cameraIncompleteFrames
    cameraConsecutiveInvalidPeak := s.shared.cameraConsecutiveInvalidPeak
    cameraInvalidFrameRecoveries := s.shared.stats .cameraInvalidFrameRecoveries
    cameraInvalidRecoverySuppressedCooldown :=
      s.shared.stats .cameraInvalidRecoverySuppressedCooldown
    cameraInvalidRecoverySuppressedBudget := s.shared.stats .cameraInvalidRecoverySuppressedBudget
    cameraRecoveryAttempts := s.shared.stats .cameraRecoveryAttempts
    cameraRecoverySuccesses := s.shared.stats .cameraRecoverySuccesses
    cameraRecoveryFailures := s.shared.stats .cameraRecoveryFailures
    reconnectCount := s.shared.stats .reconnectCount
    elapsedSeconds := elapsedSeconds
    producerFps := perSecond (s.shared.stats .captured)
    consumerFps := perSecond (s.shared.stats .consumed)
    captureToConsumerLatency := toConsumer
    captureToSendLatency := toSend
    lastError := textBytes s.shared.lastError }

/-! ### The frame quality script -/

/-- `s.get(key, 0)`. -/
def numberOrZero (stats : List Member) (key : String) : ℚ := (numberAt stats key).getD 0

/-- The checks of the frame quality script that can fail. -/
def frameQualityCheck (stats : List Member) : Bool :=
  let number := numberOrZero stats
  decide (number "produced_frames" = number "consumed_frames" + number "ring_dropped_frames" ∧
    number "consumed_frames" = number "invalid_frames" + number "tcp_queued_frames" ∧
    number "tcp_queued_frames" = number "tcp_sent_frames" ∧
    number "tcp_send_errors" = 0 ∧ number "tcp_send_timeouts" = 0)

/-- The same checks of a snapshot. -/
def FramesAccounted (snapshot : PipelineStatsSnapshot) : Prop :=
  snapshot.captured = snapshot.consumed + snapshot.captureDropped ∧
    snapshot.consumed = snapshot.invalid + snapshot.tcpQueued ∧
    snapshot.tcpQueued = snapshot.tcpSent ∧
    snapshot.tcpSendErrors = 0 ∧ snapshot.tcpSendTimeouts = 0

theorem numberOrZero_counter {members : List Member} {snapshot : PipelineStatsSnapshot}
    (found : PipelineStatsRead members snapshot) :
    ∀ field ∈ pipelineCounters, numberOrZero members field.1 = (field.2 snapshot : ℚ) := by
  intro field member
  rw [numberOrZero, numberAt, found.counters field member]
  rfl

theorem frameQualityCheck_iff {members : List Member} {snapshot : PipelineStatsSnapshot}
    (found : PipelineStatsRead members snapshot) :
    frameQualityCheck members = true ↔ FramesAccounted snapshot := by
  have numbers := numberOrZero_counter found
  simp only [pipelineCounters, List.forall_mem_cons] at numbers
  obtain ⟨produced, consumed, invalid, _, _, dropped, _, queued, _, _, sent, _, errors, timeouts,
    _⟩ := numbers
  rw [frameQualityCheck, decide_eq_true_iff, produced, consumed, invalid, dropped, queued, sent,
    errors, timeouts, FramesAccounted]
  norm_cast

/-- No frame was lost between the queues, nor on the way out. -/
structure PipelineState.Lossless (s : PipelineState cfg) : Prop where
  ring : s.queueCounters.captureQueueRemaining = 0
  saved : s.consumer.ctl ≠ .finished true
  tcpDropped : s.queueCounters.tcpDropped = 0
  tcpRemaining : s.queueCounters.tcpQueueRemaining = 0
  errors : s.shared.stats .tcpSendErrors = 0
  cancellations : s.shared.stats .tcpSendCancellations = 0

theorem statsSnapshot_counters {sqrt double : ℚ → ℚ} {connection : ConnectState N} {endNs : Nat}
    {snapshot : PipelineStatsSnapshot}
    (shape : t.statsSnapshot sqrt double connection endNs = some snapshot) :
    snapshot.lastError = textBytes t.pipeline.shared.lastError ∧
      snapshot.captured = t.pipeline.shared.stats .captured ∧
      snapshot.consumed = t.pipeline.shared.stats .consumed ∧
      snapshot.tcpSent = t.pipeline.shared.stats .tcpSent ∧
      snapshot.tcpDropped = t.pipeline.queueCounters.tcpDropped ∧
      (FramesAccounted snapshot ↔
        t.pipeline.shared.stats .captured =
          t.pipeline.shared.stats .consumed + t.pipeline.queueCounters.captureDropped ∧
        t.pipeline.shared.stats .consumed =
          t.pipeline.shared.stats .invalid + t.pipeline.shared.stats .tcpQueued ∧
        t.pipeline.shared.stats .tcpQueued = t.pipeline.shared.stats .tcpSent ∧
        t.pipeline.shared.stats .tcpSendErrors = 0 ∧
        t.pipeline.shared.stats .tcpSendTimeouts = 0) := by
  simp only [TimedState.statsSnapshot, Option.bind_eq_bind, Option.bind_eq_some_iff] at shape
  obtain ⟨_, _, _, _, same⟩ := shape
  cases same
  exact ⟨rfl, rfl, rfl, rfl, rfl, Iff.rfl⟩

/-- Both summaries are found, whatever was measured, and are those of the samples. -/
theorem statsSnapshot_latencies {sqrt double : ℚ → ℚ} (nonneg : ∀ variance, 0 ≤ sqrt variance)
    (t : TimedState cfg) (connection : ConnectState N) (endNs : Nat) :
    ∃ snapshot, t.statsSnapshot sqrt double connection endNs = some snapshot ∧
      (snapshot.captureToConsumerLatency.Ordered ∧ 0 ≤ snapshot.captureToConsumerLatency.jitterUs ∧
        snapshot.captureToConsumerLatency.sampleCount = t.captureToConsumer.length) ∧
      snapshot.captureToSendLatency.Ordered ∧ 0 ≤ snapshot.captureToSendLatency.jitterUs ∧
        snapshot.captureToSendLatency.sampleCount = t.captureToSend.length := by
  obtain ⟨toConsumer, consumerFound, consumerOrdered, consumerCount, consumerJitter⟩ :=
    snapshot_total sqrt t.captureToConsumer
  obtain ⟨toSend, sendFound, sendOrdered, sendCount, sendJitter⟩ :=
    snapshot_total sqrt t.captureToSend
  rw [TimedState.statsSnapshot, consumerFound, sendFound]
  exact ⟨_, rfl, ⟨consumerOrdered, consumerJitter nonneg, consumerCount⟩, sendOrdered,
    sendJitter nonneg, sendCount⟩

/-- The script finds every way in which a frame can get lost behind the camera, except to a full
capture queue, which it allows. -/
theorem framesAccounted_iff {sqrt double : ℚ → ℚ} {connection : ConnectState N} {endNs : Nat}
    {snapshot : PipelineStatsSnapshot}
    (shape : t.statsSnapshot sqrt double connection endNs = some snapshot)
    (inv : PipelineInv t.pipeline) (ended : t.pipeline.Ended) (enabled : cfg.tcpEnabled = true) :
    FramesAccounted snapshot ↔ t.pipeline.Lossless := by
  obtain ⟨_, _, _, _, _, accounted⟩ := statsSnapshot_counters shape
  rw [accounted]
  have captured := captured_accounted inv ended
  have consumed := consumed_accounted inv ended enabled
  have queued := tcpQueued_accounted inv ended enabled
  obtain ⟨popped, timeouts, _⟩ := sender_accounted inv ended enabled
  constructor
  · rintro ⟨ring, handed, out, errors, _⟩
    refine ⟨by omega, fun failed => ?_, by omega, by omega, errors, by omega⟩
    rw [if_pos failed] at consumed
    omega
  · intro lossless
    rw [if_neg lossless.saved] at consumed
    obtain ⟨ring, _, dropped, remaining, errors, cancellations⟩ := lossless
    exact ⟨by omega, by omega, by omega, errors, by omega⟩

/-- When `run_pipeline` returns normally, only a full TCP queue can have lost frames. -/
theorem lossless_iff_of_normal (inv : PipelineInv s) (ended : s.Ended)
    (normal : s.runResult = .ok ()) :
    s.Lossless ↔ s.queueCounters.tcpDropped = 0 := by
  obtain ⟨_, noConsumerError, noErrors, running⟩ := not_stopped inv ended normal
  obtain ⟨orderly, ringEmpty⟩ := ring_emptied inv ended running noConsumerError
  obtain ⟨uncancelled, tcpEmpty⟩ := tcpRing_emptied inv ended running noErrors
  have cancellations := inv.sender.cancellations
  rw [ended.senderTodo, adds_nil, Nat.add_zero, if_neg uncancelled] at cancellations
  refine ⟨PipelineState.Lossless.tcpDropped, fun dropped => ⟨decide_eq_true_iff.mp ringEmpty, ?_,
    dropped, decide_eq_true_iff.mp tcpEmpty, noErrors, cancellations⟩⟩
  rw [orderly]
  nofun

/-- Without a connection no thread is started and no socket stays open. The file tells all
attempts, the one error and the text that is thrown, and it does not pass the check. -/
theorem connection_failure_file {env : ConnectEnv} {host : String} {port : Nat}
    {limits : ConnectLimits} (positive : 0 < limits.maxAttempts) {calls : Nat → ConnectCalls N}
    {connection : ConnectState N} {message : String}
    (failed : connectToTcpReceiverWithRetry env host port limits calls =
      (connection, .error message)) :
    (∀ n, ¬ Descriptors.Held connection.calls n) ∧
      ∃ members, read (pipelineStatsJson (connectionFailureSnapshot connection message)) =
          some members ∧
        numberAt members "tcp_connect_attempts" = some (limits.maxAttempts : ℚ) ∧
        numberAt members "tcp_connect_retries" = some ((limits.maxAttempts - 1 : Nat) : ℚ) ∧
        numberAt members "tcp_send_errors" = some ((1 : Nat) : ℚ) ∧
        members.lookup (textBytes "last_error") = some (.text (textBytes message)) ∧
        frameQualityCheck members = false := by
  have spec := retryLoop_start
    (fun attempt => connectTo_tidy "--tcp-host" env host (calls attempt)) positive
  rw [connectToTcpReceiverWithRetry, connectWithRetry] at failed
  obtain ⟨members, found, reads⟩ :=
    read_pipelineStatsJson (connectionFailureSnapshot connection message)
  have numbers : ∀ field ∈ pipelineCounters, numberAt members field.1 =
      some (field.2 (connectionFailureSnapshot connection message) : ℚ) := by
    intro field member
    rw [numberAt, reads.counters field member]
  have unchecked : frameQualityCheck members = false := by
    rw [Bool.eq_false_iff]
    intro checked
    exact absurd ((frameQualityCheck_iff reads).mp checked).2.2.2.1 Nat.one_ne_zero
  simp only [pipelineCounters, List.forall_mem_cons] at numbers
  obtain ⟨_, _, _, _, _, _, _, _, _, _, _, _, errors, _, _, attempts, retries, _⟩ := numbers
  split at failed
  · cases failed
  next last loop =>
    obtain ⟨rfl, _⟩ := Prod.mk.inj failed
    have loop' : retryLoop (fun attempt => connectTo "--tcp-host" env host (calls attempt)) limits
        limits.maxAttempts 1 {} = (last, none) := loop
    rw [loop'] at spec
    cases spec with
    | failed k _ all _ _ tries tried held =>
      refine ⟨held, members, found, attempts.trans ?_, retries.trans ?_, errors, reads.lastError,
        unchecked⟩
      · exact congrArg (fun n : Nat => some (n : ℚ)) (tries.trans all.symm)
      · refine congrArg (fun n : Nat => some (n : ℚ)) (tried.retries.trans ?_)
        omega

/-- What a reader of the statistics file finds after any run of the pipeline with a connection:
every counter as it stands at the end and the last error; two latencies that pass the check of
the regression script for the numbers of consumed and of sent frames; and numbers that pass the
check of the frame quality script exactly if no frame was lost behind the capture queue, which
after a normal return means that the TCP queue dropped none. -/
theorem pipeline_stats_file (reached : TimedReachable cfg camera startNs t)
    (ended : t.pipeline.Ended) (enabled : cfg.tcpEnabled = true) (sqrt double : ℚ → ℚ)
    (nonneg : ∀ variance, 0 ≤ sqrt variance) (connection : ConnectState N) (endNs : Nat) :
    ∃ snapshot members, t.statsSnapshot sqrt double connection endNs = some snapshot ∧
      read (pipelineStatsJson snapshot) = some members ∧
      (∀ field ∈ pipelineCounters, numberAt members field.1 = some (field.2 snapshot : ℚ)) ∧
      members.lookup (textBytes "last_error") =
        some (.text (textBytes t.pipeline.shared.lastError)) ∧
      snapshot.consumed = t.pipeline.shared.stats .consumed ∧
      validateLatency members "capture_to_consumer" snapshot.consumed = some true ∧
      snapshot.tcpSent = t.pipeline.shared.stats .tcpSent ∧
      validateLatency members "capture_to_send" snapshot.tcpSent = some true ∧
      (frameQualityCheck members = true ↔ t.pipeline.Lossless) ∧
      (t.pipeline.runResult = .ok () →
        numberAt members "produced_frames" = some (cfg.frameCount : ℚ) ∧
        (frameQualityCheck members = true ↔ numberAt members "tcp_queue_dropped" = some 0)) ∧
      ∀ (fs : FileSystem) (path : String) (calls : WriteCalls),
        (calls.TempWritten path → calls.Replaces fs path (pipelineStatsJson snapshot)) →
        wp (writeAtomicTextFile path (pipelineStatsJson snapshot) calls)
          (fun now => now path = fs path ∨ (now path).bind read = some members)
          (fun _ after => (after path).bind read = some members)
          (fun _ after => after path = fs path) fs := by
  have inv := reachable_inv reached.pipeline
  obtain ⟨consumerSamples, sendSamples⟩ := ended_samples reached ended
  obtain ⟨snapshot, shape, ⟨consumerOrdered, consumerJitter, consumerCount⟩, sendOrdered,
    sendJitter, sendCount⟩ := statsSnapshot_latencies nonneg t connection endNs
  obtain ⟨lastError, captured, consumed, sent, dropped, _⟩ := statsSnapshot_counters shape
  obtain ⟨members, found, reads⟩ := read_pipelineStatsJson snapshot
  have numbers : ∀ field ∈ pipelineCounters,
      numberAt members field.1 = some (field.2 snapshot : ℚ) := by
    intro field member
    rw [numberAt, reads.counters field member]
  have accounted := (frameQualityCheck_iff reads).trans
    (framesAccounted_iff shape inv ended enabled)
  refine ⟨snapshot, members, shape, found, numbers, ?_, consumed, ?_, sent, ?_, accounted,
    fun normal => ?_, fun fs path calls sound => reader_of_atomic found sound⟩
  · rw [reads.lastError, lastError]
  · rw [validateLatency_eq reads.captureToConsumer consumerOrdered consumerJitter, consumerCount,
      consumerSamples, consumed, decide_eq_true rfl]
  · rw [validateLatency_eq reads.captureToSend sendOrdered sendJitter, sendCount, sendSamples,
      sent, decide_eq_true rfl]
  · simp only [pipelineCounters, List.forall_mem_cons] at numbers
    obtain ⟨producedRead, _, _, _, _, _, _, _, droppedRead, _⟩ := numbers
    obtain ⟨noProducerError, _, _, running⟩ := not_stopped inv ended normal
    refine ⟨?_, ?_⟩
    · rw [producedRead, captured, producer_completed inv ended running noProducerError]
    · rw [accounted, lossless_iff_of_normal inv ended normal, droppedRead, dropped]
      simp only [Option.some.injEq, Nat.cast_eq_zero]

/-- One frame is captured and sent, each step a millisecond behind the one before. -/
def timedOne : List (Action × Nat) :=
  (captureOne ++ beginOne ++ sendOne).zipIdx.map fun (action, i) => (action, i * 1000000)

/-- The frame is counted and measured at both points, and nothing is lost. -/
theorem pipeline_stats_file_small :
    ∃ (t : TimedState smallConfig) (members : List Member),
      TimedReachable smallConfig smallCamera 0 t ∧ t.pipeline.Ended ∧
      t.captureToConsumer = [10000] ∧ t.captureToSend = [30000] ∧
      numberAt members "produced_frames" = some ((1 : Nat) : ℚ) ∧
      numberAt members "consumed_frames" = some ((1 : Nat) : ℚ) ∧
      numberAt members "tcp_sent_frames" = some ((1 : Nat) : ℚ) ∧
      validateLatency members "capture_to_consumer" 1 = some true ∧
      validateLatency members "capture_to_send" 1 = some true ∧
      frameQualityCheck members = true := by
  obtain ⟨t, reached, ended, normal, dropped, consumedOne, sentOne, toConsumer, toSend⟩ :
      ∃ t, TimedReachable smallConfig smallCamera 0 t ∧ t.pipeline.Ended ∧
        t.pipeline.runResult = .ok () ∧ t.pipeline.queueCounters.tcpDropped = 0 ∧
        t.pipeline.shared.stats .consumed = 1 ∧ t.pipeline.shared.stats .tcpSent = 1 ∧
        t.captureToConsumer = [10000] ∧ t.captureToSend = [30000] :=
    Transition.exists_reached timedOne (by decide +kernel)
  obtain ⟨snapshot, members, _, _, numbers, _, consumed, consumerChecked, sent, sendChecked,
    accounted, normally, _⟩ := pipeline_stats_file reached ended rfl (fun _ => 0) id
      (fun _ => le_rfl) ({ attempts := 1 } : ConnectState Nat) 40000000
  have lossless := (lossless_iff_of_normal (reachable_inv reached.pipeline) ended normal).mpr
    dropped
  rw [consumed, consumedOne] at consumerChecked
  rw [sent, sentOne] at sendChecked
  simp only [pipelineCounters, List.forall_mem_cons] at numbers
  obtain ⟨_, consumedRead, _, _, _, _, _, _, _, _, sentRead, _⟩ := numbers
  rw [consumed, consumedOne] at consumedRead
  rw [sent, sentOne] at sentRead
  exact ⟨t, members, reached, ended, toConsumer, toSend, (normally normal).1, consumedRead,
    sentRead, consumerChecked, sendChecked, accounted.mpr lossless⟩

end V4l2Capture.Pipeline
