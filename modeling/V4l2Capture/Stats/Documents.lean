import V4l2Capture.Library.JsonDocument
import V4l2Capture.Stats.AtomicFile
import V4l2Capture.Stats.JsonEscape
import V4l2Capture.Stats.LatencySummary

/-!
# The statistics files

The documents of `write_pipeline_stats_json` and `write_receiver_stats_json`, line by line. A
reader finds every counter exactly, every rate and latency up to half of the last printed
place and in the order that they had, and the last error byte by byte.
-/
namespace V4l2Capture.Stats

open JsonDocument Decimals JsonString Traced

/-! ### Snapshots -/

/-- Counters of 64 bits are numbers; `double` is read as an exact rational. -/
structure PipelineStatsSnapshot where
  captured : Nat := 0
  consumed : Nat := 0
  invalid : Nat := 0
  saved : Nat := 0
  consumedBytes : Nat := 0
  captureDropped : Nat := 0
  captureQueueRemaining : Nat := 0
  tcpQueued : Nat := 0
  tcpDropped : Nat := 0
  tcpQueueRemaining : Nat := 0
  tcpSent : Nat := 0
  tcpSentBytes : Nat := 0
  tcpSendErrors : Nat := 0
  tcpSendTimeouts : Nat := 0
  tcpSendCancellations : Nat := 0
  tcpConnectAttempts : Nat := 0
  tcpConnectRetries : Nat := 0
  cameraCaptureTimeouts : Nat := 0
  cameraTemporaryUnavailable : Nat := 0
  cameraDeviceErrors : Nat := 0
  cameraBufferErrorFrames : Nat := 0
  cameraIncompleteFrames : Nat := 0
  cameraConsecutiveInvalidPeak : Nat := 0
  cameraInvalidFrameRecoveries : Nat := 0
  cameraInvalidRecoverySuppressedCooldown : Nat := 0
  cameraInvalidRecoverySuppressedBudget : Nat := 0
  cameraRecoveryAttempts : Nat := 0
  cameraRecoverySuccesses : Nat := 0
  cameraRecoveryFailures : Nat := 0
  received : Nat := 0
  reconnectCount : Nat := 0
  elapsedSeconds : ℚ := 0
  producerFps : ℚ := 0
  consumerFps : ℚ := 0
  captureToConsumerLatency : LatencySummary := {}
  captureToSendLatency : LatencySummary := {}
  lastError : List UInt8 := []

structure ReceiverStatsSnapshot where
  receivedFrames : Nat := 0
  receivedBytes : Nat := 0
  crcErrors : Nat := 0
  headerErrors : Nat := 0
  rejectedFrames : Nat := 0
  savedFiles : Nat := 0
  acceptedSessions : Nat := 0
  completedSessions : Nat := 0
  peerDisconnects : Nat := 0
  latencyClockErrors : Nat := 0
  e2eLatency : LatencySummary := {}
  lastError : List UInt8 := []

/-! ### Lines -/

/-- The bytes of a text. -/
def textBytes (text : String) : List UInt8 := text.toUTF8.toList

/-- What is printed on a line; rates and latencies have three places. -/
inductive Entry where
  | count (key : String) (n : Nat)
  | fixed (key : String) (value : ℚ)
  | text (key : String) (bytes : List UInt8)

def Entry.key : Entry → List UInt8
  | .count key _ => textBytes key
  | .fixed key _ => textBytes key
  | .text key _ => textBytes key

def Entry.line (entry : Entry) : Line where
  key := entry.key
  text := match entry with
    | .count _ n => decimal n
    | .fixed _ value => fixedPoint 3 value
    | .text _ bytes => quote :: jsonEscape bytes ++ [quote]

/-- What a reader finds on the line. -/
def Entry.value : Entry → Value
  | .count _ n => .number n
  | .fixed _ value => .number (fixedValue 3 value)
  | .text _ bytes => .text bytes

/-- The latencies of a summary with the endings of their keys. -/
def latencyFields : List (String × (LatencySummary → ℚ)) :=
  [("_min_us", LatencySummary.minUs), ("_mean_us", LatencySummary.meanUs),
    ("_p50_us", LatencySummary.p50Us), ("_p95_us", LatencySummary.p95Us),
    ("_p99_us", LatencySummary.p99Us), ("_max_us", LatencySummary.maxUs),
    ("_jitter_us", LatencySummary.jitterUs)]

/-- Both callers have a comma printed behind the last one. -/
def writeLatencyFields (name : String) (summary : LatencySummary) : List Entry :=
  .count (name ++ "_samples") summary.sampleCount ::
    latencyFields.map fun (ending, latency) => .fixed (name ++ ending) (latency summary)

def pipelineCounters : List (String × (PipelineStatsSnapshot → Nat)) :=
  [("produced_frames", (·.captured)),
    ("consumed_frames", (·.consumed)),
    ("invalid_frames", (·.invalid)),
    ("saved_frames", (·.saved)),
    ("consumed_bytes", (·.consumedBytes)),
    ("ring_dropped_frames", (·.captureDropped)),
    ("remaining_ring_size", (·.captureQueueRemaining)),
    ("tcp_queued_frames", (·.tcpQueued)),
    ("tcp_queue_dropped", (·.tcpDropped)),
    ("tcp_queue_remaining", (·.tcpQueueRemaining)),
    ("tcp_sent_frames", (·.tcpSent)),
    ("tcp_sent_bytes", (·.tcpSentBytes)),
    ("tcp_send_errors", (·.tcpSendErrors)),
    ("tcp_send_timeouts", (·.tcpSendTimeouts)),
    ("tcp_send_cancellations", (·.tcpSendCancellations)),
    ("tcp_connect_attempts", (·.tcpConnectAttempts)),
    ("tcp_connect_retries", (·.tcpConnectRetries)),
    ("camera_capture_timeouts", (·.cameraCaptureTimeouts)),
    ("camera_temporary_unavailable", (·.cameraTemporaryUnavailable)),
    ("camera_device_errors", (·.cameraDeviceErrors)),
    ("camera_buffer_error_frames", (·.cameraBufferErrorFrames)),
    ("camera_incomplete_frames", (·.cameraIncompleteFrames)),
    ("camera_consecutive_invalid_peak", (·.cameraConsecutiveInvalidPeak)),
    ("camera_invalid_frame_recoveries", (·.cameraInvalidFrameRecoveries)),
    ("camera_invalid_recovery_suppressed_cooldown",
      (·.cameraInvalidRecoverySuppressedCooldown)),
    ("camera_invalid_recovery_suppressed_budget", (·.cameraInvalidRecoverySuppressedBudget)),
    ("camera_recovery_attempts", (·.cameraRecoveryAttempts)),
    ("camera_recovery_successes", (·.cameraRecoverySuccesses)),
    ("camera_recovery_failures", (·.cameraRecoveryFailures)),
    ("received_frames", (·.received)),
    ("reconnect_count", (·.reconnectCount))]

def pipelineRates : List (String × (PipelineStatsSnapshot → ℚ)) :=
  [("elapsed_seconds", (·.elapsedSeconds)),
    ("producer_fps", (·.producerFps)),
    ("consumer_fps", (·.consumerFps))]

def pipelineEntries (snapshot : PipelineStatsSnapshot) : List Entry :=
  [pipelineCounters.map fun (key, counter) => .count key (counter snapshot),
    pipelineRates.map fun (key, rate) => .fixed key (rate snapshot),
    writeLatencyFields "capture_to_consumer" snapshot.captureToConsumerLatency,
    writeLatencyFields "capture_to_send" snapshot.captureToSendLatency,
    [.text "last_error" snapshot.lastError]].flatten

/-- The text of `write_pipeline_stats_json`. -/
def pipelineStatsJson (snapshot : PipelineStatsSnapshot) : List UInt8 :=
  document ((pipelineEntries snapshot).map Entry.line)

def receiverCounters : List (String × (ReceiverStatsSnapshot → Nat)) :=
  [("received_frames", (·.receivedFrames)),
    ("received_bytes", (·.receivedBytes)),
    ("crc_errors", (·.crcErrors)),
    ("header_errors", (·.headerErrors)),
    ("rejected_frames", (·.rejectedFrames)),
    ("saved_files", (·.savedFiles)),
    ("accepted_sessions", (·.acceptedSessions)),
    ("completed_sessions", (·.completedSessions)),
    ("peer_disconnects", (·.peerDisconnects)),
    ("latency_clock_errors", (·.latencyClockErrors))]

def receiverEntries (snapshot : ReceiverStatsSnapshot) : List Entry :=
  [receiverCounters.map fun (key, counter) => .count key (counter snapshot),
    writeLatencyFields "e2e_latency" snapshot.e2eLatency,
    [.text "last_error" snapshot.lastError]].flatten

/-- The text of `write_receiver_stats_json`. -/
def receiverStatsJson (snapshot : ReceiverStatsSnapshot) : List UInt8 :=
  document ((receiverEntries snapshot).map Entry.line)

/-! ### What a reader finds -/

theorem Entry.line_shows {entry : Entry} (plain : Plain entry.key) :
    entry.line.Shows (entry.key, entry.value) := by
  refine ⟨plain, rfl, ?_⟩
  cases entry with
  | count key n => exact denotes_decimal n
  | fixed key value => exact denotes_fixedPoint 3 value (by decide)
  | text key bytes => exact denotes_literal (readString_jsonEscape bytes)

theorem read_entries {entries : List Entry} (plain : ∀ key ∈ entries.map Entry.key, Plain key)
    (nodup : (entries.map Entry.key).Nodup) :
    ∃ members, read (document (entries.map Entry.line)) = some members ∧
      ∀ entry ∈ entries, members.lookup entry.key = some entry.value := by
  have shown : List.Forall₂ Line.Shows (entries.map Entry.line)
      (entries.map fun entry => (entry.key, entry.value)) := by
    rw [List.forall₂_map_left_iff, List.forall₂_map_right_iff, List.forall₂_same]
    exact fun entry member => Entry.line_shows (plain _ (List.mem_map_of_mem member))
  refine ⟨_, read_document shown, fun entry member => lookup_of_mem ?_ ?_⟩
  · rw [List.map_map]
    exact nodup
  · exact List.mem_map_of_mem (f := fun entry : Entry => (entry.key, entry.value)) member

/-- The latencies of a summary, as they are found behind a name. -/
structure LatencyRead (members : List Member) (name : String) (summary : LatencySummary) :
    Prop where
  samples : members.lookup (textBytes (name ++ "_samples")) = some (.number summary.sampleCount)
  latencies : ∀ field ∈ latencyFields, members.lookup (textBytes (name ++ field.1)) =
    some (.number (fixedValue 3 (field.2 summary)))

theorem latencyRead_of_entries {members : List Member} {name : String} {summary : LatencySummary}
    (found : ∀ entry ∈ writeLatencyFields name summary,
      members.lookup entry.key = some entry.value) : LatencyRead members name summary where
  samples := found _ List.mem_cons_self
  latencies field member := found (.fixed (name ++ field.1) (field.2 summary))
    (List.mem_cons_of_mem _ (List.mem_map_of_mem member))

/-- The keys need no escape and are all different. -/
theorem pipelineEntries_keys (snapshot : PipelineStatsSnapshot) :
    (∀ key ∈ (pipelineEntries snapshot).map Entry.key, Plain key) ∧
      ((pipelineEntries snapshot).map Entry.key).Nodup := by
  have same : (pipelineEntries snapshot).map Entry.key = (pipelineEntries {}).map Entry.key := rfl
  rw [same]
  decide +kernel

theorem receiverEntries_keys (snapshot : ReceiverStatsSnapshot) :
    (∀ key ∈ (receiverEntries snapshot).map Entry.key, Plain key) ∧
      ((receiverEntries snapshot).map Entry.key).Nodup := by
  have same : (receiverEntries snapshot).map Entry.key = (receiverEntries {}).map Entry.key := rfl
  rw [same]
  decide +kernel

/-- The members of a pipeline document are those of the snapshot. -/
structure PipelineStatsRead (members : List Member) (snapshot : PipelineStatsSnapshot) : Prop where
  counters : ∀ field ∈ pipelineCounters,
    members.lookup (textBytes field.1) = some (.number (field.2 snapshot))
  rates : ∀ field ∈ pipelineRates,
    members.lookup (textBytes field.1) = some (.number (fixedValue 3 (field.2 snapshot)))
  captureToConsumer :
    LatencyRead members "capture_to_consumer" snapshot.captureToConsumerLatency
  captureToSend : LatencyRead members "capture_to_send" snapshot.captureToSendLatency
  lastError : members.lookup (textBytes "last_error") = some (.text snapshot.lastError)

theorem read_pipelineStatsJson (snapshot : PipelineStatsSnapshot) :
    ∃ members, read (pipelineStatsJson snapshot) = some members ∧
      PipelineStatsRead members snapshot := by
  obtain ⟨plain, nodup⟩ := pipelineEntries_keys snapshot
  obtain ⟨members, found, lookups⟩ := read_entries plain nodup
  refine ⟨members, found, ⟨?_, ?_, ?_, ?_, ?_⟩⟩
  · intro field member
    exact lookups (.count field.1 (field.2 snapshot)) (List.mem_flatten_of_mem (.head _)
      (List.mem_map.mpr ⟨field, member, rfl⟩))
  · intro field member
    exact lookups (.fixed field.1 (field.2 snapshot)) (List.mem_flatten_of_mem
      (.tail _ (.head _)) (List.mem_map.mpr ⟨field, member, rfl⟩))
  · exact latencyRead_of_entries fun entry member => lookups entry (List.mem_flatten_of_mem
      (.tail _ (.tail _ (.head _))) member)
  · exact latencyRead_of_entries fun entry member => lookups entry (List.mem_flatten_of_mem
      (.tail _ (.tail _ (.tail _ (.head _)))) member)
  · exact lookups (.text "last_error" snapshot.lastError) (List.mem_flatten_of_mem
      (.tail _ (.tail _ (.tail _ (.tail _ (.head _))))) (.head _))

/-- The members of a receiver document are those of the snapshot. -/
structure ReceiverStatsRead (members : List Member) (snapshot : ReceiverStatsSnapshot) : Prop where
  counters : ∀ field ∈ receiverCounters,
    members.lookup (textBytes field.1) = some (.number (field.2 snapshot))
  e2eLatency : LatencyRead members "e2e_latency" snapshot.e2eLatency
  lastError : members.lookup (textBytes "last_error") = some (.text snapshot.lastError)

theorem read_receiverStatsJson (snapshot : ReceiverStatsSnapshot) :
    ∃ members, read (receiverStatsJson snapshot) = some members ∧
      ReceiverStatsRead members snapshot := by
  obtain ⟨plain, nodup⟩ := receiverEntries_keys snapshot
  obtain ⟨members, found, lookups⟩ := read_entries plain nodup
  refine ⟨members, found, ⟨?_, ?_, ?_⟩⟩
  · intro field member
    exact lookups (.count field.1 (field.2 snapshot)) (List.mem_flatten_of_mem (.head _)
      (List.mem_map.mpr ⟨field, member, rfl⟩))
  · exact latencyRead_of_entries fun entry member => lookups entry (List.mem_flatten_of_mem
      (.tail _ (.head _)) member)
  · exact lookups (.text "last_error" snapshot.lastError) (List.mem_flatten_of_mem
      (.tail _ (.tail _ (.head _))) (.head _))

/-! ### The file -/

/-- A reader of the target finds its old content or the document, at every moment. -/
theorem reader_of_atomic {fs : FileSystem} {path : String} {text : List UInt8} {calls : WriteCalls}
    {members : List Member} (found : read text = some members)
    (sound : calls.TempWritten path → calls.Replaces fs path text) :
    wp (writeAtomicTextFile path text calls)
      (fun now => now path = fs path ∨ (now path).bind read = some members)
      (fun _ after => (after path).bind read = some members)
      (fun _ after => after path = fs path) fs := by
  have atomic : WritesAtomically fs path text calls := by
    by_cases ready : calls.TempWritten path
    · exact (writesAtomically_iff_replaces ready).mpr (sound ready)
    · exact writesAtomically_of_not_tempWritten ready
  refine wp_mono atomic ?_ ?_ fun _ _ kept => kept
  · rintro now (old | new)
    · exact .inl old
    · exact .inr (by rw [new]; exact found)
  · intro _ after new
    rw [new]
    exact found

/-! ### The check of the regression script -/

def numberAt (stats : List Member) (key : String) : Option ℚ :=
  match stats.lookup (textBytes key) with
  | some (.number value) => some value
  | _ => none

/-- `validate_latency` of the regression script; `none` stands for a missing key. -/
def validateLatency (stats : List Member) (name : String) (expectedSamples : Nat) :
    Option Bool := do
  let values ← ["_min_us", "_p50_us", "_p95_us", "_p99_us", "_max_us"].mapM fun ending =>
    numberAt stats (name ++ ending)
  let samples ← numberAt stats (name ++ "_samples")
  let mean ← numberAt stats (name ++ "_mean_us")
  let jitter ← numberAt stats (name ++ "_jitter_us")
  let low ← values.head?
  let high ← values.getLast?
  return decide (samples = expectedSamples) && decide (values.Pairwise (· ≤ ·)) &&
    decide (low ≤ mean ∧ mean ≤ high) && decide (0 ≤ jitter)

/-- The order of the latencies survives the printing, so that only the number of samples
can fail the check. -/
theorem validateLatency_eq {members : List Member} {name : String} {summary : LatencySummary}
    (found : LatencyRead members name summary) (ordered : summary.Ordered)
    (jitter : 0 ≤ summary.jitterUs) (expectedSamples : Nat) :
    validateLatency members name expectedSamples =
      some (decide (summary.sampleCount = expectedSamples)) := by
  have latency : ∀ field ∈ latencyFields, numberAt members (name ++ field.1) =
      some (fixedValue 3 (field.2 summary)) := by
    intro field member
    rw [numberAt, found.latencies field member]
  have samples : numberAt members (name ++ "_samples") = some (summary.sampleCount : ℚ) := by
    rw [numberAt, found.samples]
  simp only [latencyFields, List.forall_mem_cons] at latency
  obtain ⟨min, mean, p50, p95, p99, max, jitterRead, _⟩ := latency
  have positive : 0 ≤ fixedValue 3 summary.jitterUs := by
    have zero : fixedValue 3 0 = 0 := by decide +kernel
    rw [← zero]
    exact fixedValue_mono 3 jitter
  have order : ([fixedValue 3 summary.minUs, fixedValue 3 summary.p50Us,
      fixedValue 3 summary.p95Us, fixedValue 3 summary.p99Us,
      fixedValue 3 summary.maxUs] : List ℚ).Pairwise (· ≤ ·) := by
    rw [← List.isChain_iff_pairwise]
    simp [fixedValue_mono 3 ordered.min_le_p50, fixedValue_mono 3 ordered.p50_le_p95,
      fixedValue_mono 3 ordered.p95_le_p99, fixedValue_mono 3 ordered.p99_le_max]
  have between := And.intro (fixedValue_mono 3 ordered.min_le_mean)
    (fixedValue_mono 3 ordered.mean_le_max)
  simp only [validateLatency, List.mapM_cons, List.mapM_nil, min, p50, p95, p99, max, mean,
    jitterRead, samples, Option.bind_eq_bind, Option.bind_some, Option.pure_def, List.head?_cons,
    List.getLast?_cons_cons, List.getLast?_singleton]
  rw [decide_eq_true order, decide_eq_true between, decide_eq_true positive]
  simp

end V4l2Capture.Stats
