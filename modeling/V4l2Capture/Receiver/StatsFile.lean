import V4l2Capture.Receiver.Streams
import V4l2Capture.Stats.Documents

/-!
# The statistics file of tcp_receiver

What a run leaves in its statistics file. `receiver_stats_file` says what a reader of the file
finds: the counters of the run, a latency summary that passes the check of the regression
script unless a clock went back, and enough to tell the exit status. The latencies are exact
rationals: sums of doubles can leave the mean of equal samples beyond them.
-/
namespace V4l2Capture.Receiver

open Protocol Stats JsonDocument Traced

/-- The snapshot that `main` fills; `none` if a lookup of the summary is out of range. -/
def ReceiverState.statsSnapshot (sqrt : ℚ → ℚ) (st : ReceiverState) :
    Option ReceiverStatsSnapshot :=
  (snapshot sqrt st.e2eLatency).map fun summary => {
    receivedFrames := st.receivedFrames
    receivedBytes := st.receivedBytes
    crcErrors := st.crcErrors
    headerErrors := st.headerErrors
    rejectedFrames := st.rejectedFrames
    savedFiles := st.savedFiles
    acceptedSessions := st.acceptedSessions
    completedSessions := st.completedSessions
    peerDisconnects := st.peerDisconnects
    latencyClockErrors := st.latencyClockErrors
    e2eLatency := summary
    lastError := textBytes st.lastError }

/-- The exit status as it can be told from the file. -/
def statusOf (members : List Member) : Option Nat := do
  let headerErrors ← numberAt members "header_errors"
  let crcErrors ← numberAt members "crc_errors"
  return if headerErrors > 0 then 3 else if crcErrors > 0 then 2 else 0

theorem statusOf_eq {members : List Member} {snapshot : ReceiverStatsSnapshot}
    (headers : numberAt members "header_errors" = some (snapshot.headerErrors : ℚ))
    (crcs : numberAt members "crc_errors" = some (snapshot.crcErrors : ℚ)) :
    statusOf members = some (if snapshot.headerErrors > 0 then 3
      else if snapshot.crcErrors > 0 then 2 else 0) := by
  rw [statusOf, headers, crcs]
  simp only [Option.bind_eq_bind, Option.bind_some, Option.pure_def, gt_iff_lt, Nat.cast_pos]

/-- A run that reaches its statistics leaves a document in its file, where a reader finds its
counters: the frames that were accepted, at most one rejection, a latency summary that passes
the check of the regression script for as many samples as frames exactly if no clock error was
counted, and the exit status. If the file is replaced by the whole text, a reader finds the old
content or this document at every moment. -/
theorem receiver_stats_file (cfg : ReceiverConfig) (env : ReceiverEnv)
    (clients : List ClientEvent) (st : ReceiverState) (sqrt : ℚ → ℚ)
    (nonneg : ∀ variance, 0 ≤ sqrt variance)
    (run : acceptLoop cfg env {} clients = .finished st) :
    ∃ snapshot members, st.statsSnapshot sqrt = some snapshot ∧
      read (receiverStatsJson snapshot) = some members ∧
      numberAt members "received_frames" = some (st.accepted.length : ℚ) ∧
      numberAt members "received_bytes" = some (((st.accepted.map (·.2.length)).sum : Nat) : ℚ) ∧
      (∃ headerErrors crcErrors : Nat,
        numberAt members "header_errors" = some (headerErrors : ℚ) ∧
        numberAt members "crc_errors" = some (crcErrors : ℚ) ∧
        numberAt members "rejected_frames" = some ((headerErrors + crcErrors : Nat) : ℚ) ∧
        headerErrors + crcErrors ≤ 1) ∧
      (cfg.savePayloads = true →
        numberAt members "saved_files" = some (st.accepted.length : ℚ)) ∧
      validateLatency members "e2e_latency" st.accepted.length =
        some (decide (st.latencyClockErrors = 0)) ∧
      statusOf members = exitStatus none (.finished st) ∧
      members.lookup (textBytes "last_error") = some (.text (textBytes st.lastError)) ∧
      ∀ (fs : FileSystem) (path : String) (calls : WriteCalls),
        (calls.TempWritten path → calls.Replaces fs path (receiverStatsJson snapshot)) →
        wp (writeAtomicTextFile path (receiverStatsJson snapshot) calls)
          (fun now => now path = fs path ∨ (now path).bind read = some members)
          (fun _ after => (after path).bind read = some members)
          (fun _ after => after path = fs path) fs := by
  obtain ⟨counters, _, ⟨once, _⟩, _⟩ :=
    acceptLoop_finished (receiverConsistent_initial cfg) (sessionsConsistent_initial cfg) rfl run
  obtain ⟨summary, summarized, ordered, count, jitter⟩ := snapshot_total sqrt st.e2eLatency
  obtain ⟨snapshot, shape⟩ : ∃ snapshot, st.statsSnapshot sqrt = some snapshot := by
    rw [ReceiverState.statsSnapshot, summarized]
    exact ⟨_, rfl⟩
  obtain ⟨members, found, reads⟩ := read_receiverStatsJson snapshot
  refine ⟨snapshot, members, shape, found, ?_⟩
  have numbers : ∀ field ∈ receiverCounters,
      numberAt members field.1 = some (field.2 snapshot : ℚ) := by
    intro field member
    rw [numberAt, reads.counters field member]
  simp only [receiverCounters, List.forall_mem_cons] at numbers
  obtain ⟨frames, bytes, crcs, headers, rejects, saved, _⟩ := numbers
  rw [ReceiverState.statsSnapshot, summarized] at shape
  obtain rfl := Option.some.inj shape
  have rejected := counters.rejected
  have latency := counters.latency
  rw [← counters.frames, ← counters.bytes]
  refine ⟨frames, bytes, ⟨st.headerErrors, st.crcErrors, headers, crcs, ?_, by omega⟩,
    fun save => ?_, ?_, statusOf_eq headers crcs, reads.lastError,
    fun fs path calls sound => reader_of_atomic found sound⟩
  · rw [← rejected]
    exact rejects
  · rw [counters.saved save]
    exact saved
  -- With a sample or a clock error for each frame, none is missing exactly without errors.
  · rw [validateLatency_eq reads.e2eLatency ordered (jitter nonneg), count]
    congr 2
    rw [eq_iff_iff]
    omega

/-- `receiver_stats_file` for one session with one frame and a damaged second header. -/
theorem receiver_stats_file_smallFrame : ∃ st snapshot members,
    acceptLoop oneSession calmEnv {}
        [.connected (byteByByte (smallFrame.encode ++ List.replicate 44 0))] = .finished st ∧
      st.statsSnapshot (fun _ => 0) = some snapshot ∧
      read (receiverStatsJson snapshot) = some members ∧ statusOf members = some 3 := by
  have ended : exitStatus none (acceptLoop oneSession calmEnv {}
      [.connected (byteByByte (smallFrame.encode ++ List.replicate 44 0))]) = some 3 := by
    decide +kernel
  cases run : acceptLoop oneSession calmEnv {}
      [.connected (byteByByte (smallFrame.encode ++ List.replicate 44 0))] with
  | waiting st =>
    rw [run] at ended
    cases ended
  | threw message =>
    rw [run] at ended
    cases ended
  | finished st =>
    obtain ⟨snapshot, members, shape, found, _, _, _, _, _, status, _⟩ :=
      receiver_stats_file oneSession calmEnv _ st (fun _ => 0) (fun _ => le_rfl) run
    rw [run] at ended
    exact ⟨st, snapshot, members, rfl, shape, found, status.trans ended⟩

end V4l2Capture.Receiver
