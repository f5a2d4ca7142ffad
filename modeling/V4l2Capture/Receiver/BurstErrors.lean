import V4l2Capture.Protocol.Crc
import V4l2Capture.Receiver.AcceptLoop

/-!
# Burst errors on the wire

A frame whose payload no longer has the checksum in its header ends the session that reads
it, and no run counts or saves it. A burst of at most 32 bits is such a damage.
-/
namespace V4l2Capture.Receiver

open Protocol

/-- Leaving a session with a rejection: one more rejected frame, and no other frame counted,
recorded or saved. -/
structure Rejected (st st' : ReceiverState) : Prop where
  rejectedFrames : st'.rejectedFrames = st.rejectedFrames + 1
  receivedFrames : st'.receivedFrames = st.receivedFrames
  receivedBytes : st'.receivedBytes = st.receivedBytes
  savedFiles : st'.savedFiles = st.savedFiles
  accepted : st'.accepted = st.accepted

theorem rejected_leave (st : ReceiverState) {exit : SessionExit} (fatal : exit.fatal = true) :
    Rejected st (st.leave exit) := by
  have left := leave_spec st exit
  obtain ⟨frames, bytes, saved, _, _⟩ := left.frames
  refine ⟨?_, frames, bytes, saved, left.accepted⟩
  rw [left.rejected]
  cases exit <;> first | rfl | cases fatal

/-- The iteration that meets a damaged payload behind its header. -/
theorem sessionStep_of_damaged (cfg : ReceiverConfig) (env : ReceiverEnv) (st : ReceiverState)
    {conn : Connection} {header : FrameHeader} {payload rest : List UInt8}
    (stream : Socket.contents conn = wireBytes header ++ (payload ++ rest))
    (size : payload.length = header.payloadSize.toNat)
    (damaged : computeCrc32 payload ≠ header.payloadCrc32) :
    (∃ reason, validateHeader header cfg.maxPayloadBytes = .error reason ∧
      sessionStep cfg env st conn = .leave (.headerInvalid header reason)) ∨
    (validateHeader header cfg.maxPayloadBytes = .ok () ∧
      sessionStep cfg env st conn = .leave (.crcMismatch header)) ∨
    (¬ Socket.Reliable conn ∧
      ∃ errno, sessionStep cfg env st conn = .throws ("recv failed: " ++ env.strerror errno)) := by
  have first := readExact_spec kWireHeaderSize conn
  unfold sessionStep
  cases headerRead : readExact kWireHeaderSize conn with
  | mk outcome afterHeader =>
    rw [headerRead] at first
    cases outcome with
    | failed errno => exact .inr (.inr ⟨first, errno, rfl⟩)
    | closed =>
      simp only [stream, List.length_append, wireBytes_length] at first
      omega
    | complete wireHeader =>
      obtain ⟨wireSize, headerSplit, headerKept⟩ := first
      -- The stream starts with this header, so it is what the first read returned.
      obtain ⟨same, behind⟩ := List.append_inj (headerSplit.symm.trans stream)
        (by rw [wireSize, wireBytes_length])
      subst same
      have decoded := decodeFields_wireBytes header []
      rw [List.append_nil] at decoded
      simp only [deserializeHeaderBytes_of_length _ _ wireSize, Bool.true_eq_false, if_false,
        decoded]
      cases valid : validateHeader header cfg.maxPayloadBytes with
      | error reason => exact .inl ⟨reason, rfl, rfl⟩
      | ok _ =>
        have second := readExact_spec header.payloadSize.toNat afterHeader
        cases payloadRead : readExact header.payloadSize.toNat afterHeader with
        | mk outcome afterPayload =>
          rw [payloadRead] at second
          cases outcome with
          | failed errno =>
            exact .inr (.inr ⟨fun reliable => second (headerKept reliable), errno, rfl⟩)
          | closed =>
            simp only [behind, List.length_append] at second
            omega
          | complete body =>
            obtain ⟨bodySize, bodySplit, _⟩ := second
            obtain ⟨rfl, _⟩ := List.append_inj (bodySplit.symm.trans behind)
              (by rw [bodySize, size])
            simp only [ne_eq, damaged, not_false_eq_true, if_true]
            exact .inr (.inl ⟨trivial, trivial⟩)

/-- The counters are consistent, too, while the receiver waits for a client. -/
theorem acceptLoop_waiting {cfg : ReceiverConfig} {env : ReceiverEnv} {st st' : ReceiverState}
    {clients : List ClientEvent} (inv : ReceiverConsistent cfg st)
    (sessions : SessionsConsistent cfg st) (clean : st.rejectedFrames = 0)
    (run : acceptLoop cfg env st clients = .waiting st') : ReceiverConsistent cfg st' := by
  induction clients generalizing st with
  | nil =>
    rw [acceptLoop] at run
    split at run
    · cases run
      exact inv
    · cases run
  | cons client clients ih =>
    rw [acceptLoop.eq_def] at run
    split at run
    next condition =>
      cases client with
      | interrupted => exact ih inv sessions clean run
      | failed errno => cases run
      | connected conn =>
        simp only at run
        cases session : sessionLoop cfg env st.openSession 0 conn with
        | threw message =>
          rw [session] at run
          cases run
        | left exit left sessionFrames =>
          obtain ⟨inv', sessions', _, stays, _⟩ :=
            closeSession_spec inv sessions clean condition.1 session
          rw [session] at run
          simp only at run
          cases fatal : exit.fatal with
          | true =>
            rw [fatal, if_pos rfl] at run
            cases run
          | false =>
            rw [fatal, if_neg Bool.false_ne_true] at run
            exact ih inv' sessions' (stays fatal) run
    next => cases run

/-- A frame that fails its checks is in the log of no run, neither as counted nor as saved. -/
theorem failed_not_logged {cfg : ReceiverConfig} {st : ReceiverState}
    (inv : ReceiverConsistent cfg st) {frame : Delivered} (failed : ¬ PassedChecks cfg frame) :
    .frameAccepted frame ∉ st.log ∧ ∀ index, .frameSaved index frame ∉ st.log := by
  constructor
  · intro member
    exact failed (inv.allowed _ member)
  · intro index member
    exact failed (inv.allowed _ member)

/-- A burst error changes the checksum; the iteration that meets the frame rejects it, or fails
to receive it, and no run counts or saves it. -/
theorem burst_error_detected {sent received : List UInt8} {start : Nat}
    (burst : BurstError sent received start) :
    computeCrc32 sent ≠ computeCrc32 received ∧
    ∀ (cfg : ReceiverConfig) (env : ReceiverEnv) (header : FrameHeader),
      header.payloadCrc32 = computeCrc32 sent → header.payloadSize.toNat = sent.length →
      (∀ (st : ReceiverState) (conn : Connection) (rest : List UInt8),
        Socket.contents conn = wireBytes header ++ (received ++ rest) →
        (∃ exit, sessionStep cfg env st conn = .leave exit ∧ Rejected st (st.leave exit) ∧
          (validateHeader header cfg.maxPayloadBytes = .ok () → exit = .crcMismatch header)) ∨
        (¬ Socket.Reliable conn ∧ ∃ errno,
          sessionStep cfg env st conn = .throws ("recv failed: " ++ env.strerror errno))) ∧
      ∀ (clients : List ClientEvent) (st : ReceiverState),
        acceptLoop cfg env {} clients = .finished st ∨
          acceptLoop cfg env {} clients = .waiting st →
        .frameAccepted (header, received) ∉ st.log ∧
          ∀ index, .frameSaved index (header, received) ∉ st.log := by
  have changed := burst.computeCrc32_ne
  refine ⟨changed, ?_⟩
  intro cfg env header crc size
  have damaged : computeCrc32 received ≠ header.payloadCrc32 := by
    rw [crc]
    exact changed.symm
  constructor
  · intro st conn rest stream
    have outcome := sessionStep_of_damaged cfg env st stream (by rw [size, burst.length]) damaged
    rcases outcome with ⟨reason, invalid, left⟩ | ⟨_, left⟩ | failure
    · refine .inl ⟨_, left, rejected_leave st rfl, ?_⟩
      intro valid
      rw [invalid] at valid
      cases valid
    · exact .inl ⟨_, left, rejected_leave st rfl, fun _ => rfl⟩
    · exact .inr failure
  · intro clients st run
    have consistent : ReceiverConsistent cfg st := by
      rcases run with finished | waiting
      · exact (acceptLoop_finished (receiverConsistent_initial cfg)
          (sessionsConsistent_initial cfg) rfl finished).1
      · exact acceptLoop_waiting (receiverConsistent_initial cfg)
          (sessionsConsistent_initial cfg) rfl waiting
    apply failed_not_logged consistent
    intro passed
    exact damaged passed.2.2

/-- Two of the three payload bytes of `smallFrame` are damaged: the receiver leaves the session
behind the frame, counts a checksum error and accepts nothing. -/
theorem burst_error_detected_smallFrame :
    computeCrc32 [1, 2, 3] ≠ computeCrc32 [1, 253, 12] ∧
    (∃ exit, sessionStep oneSession calmEnv {}
        (byteByByte (wireBytes smallFrame.header ++ [1, 253, 12])) = .leave exit ∧
      exit = .crcMismatch smallFrame.header ∧ Rejected {} (ReceiverState.leave {} exit)) ∧
    ∃ st, acceptLoop oneSession calmEnv {}
        [.connected (byteByByte (wireBytes smallFrame.header ++ [1, 253, 12]))] = .finished st ∧
      st.crcErrors = 1 ∧ st.receivedFrames = 0 ∧
      .frameAccepted (smallFrame.header, [1, 253, 12]) ∉ st.log := by
  have burst : BurstError [1, 2, 3] [1, 253, 12] 8 := by
    refine ⟨rfl, by decide, fun position unequal => ?_⟩
    rcases Nat.lt_or_ge position 8 with first | behind
    · refine absurd ?_ unequal
      rw [payloadBit, payloadBit, Nat.div_eq_of_lt first]
      rfl
    · rcases Nat.lt_or_ge position 24 with within | beyond
      · omega
      · refine absurd ?_ unequal
        have length : 3 ≤ position / 8 := by omega
        rw [payloadBit, payloadBit, List.getD_eq_default _ _ length,
          List.getD_eq_default _ _ length]
  obtain ⟨changed, rejected⟩ := burst_error_detected burst
  obtain ⟨leaves, unlogged⟩ := rejected oneSession calmEnv smallFrame.header
    (by decide +kernel) rfl
  have run : acceptLoop oneSession calmEnv {}
      [.connected (byteByByte (wireBytes smallFrame.header ++ [1, 253, 12]))] = .finished
        { crcErrors := 1
          rejectedFrames := 1
          acceptedSessions := 1
          lastError := "payload crc mismatch for frame_id=7"
          log := [.sessionAccepted, .payloadAllocated 3, .crcRejected smallFrame.header]
          sessions := [⟨wireBytes smallFrame.header ++ [1, 253, 12], 0, 0, false⟩] } := by
    decide +kernel
  refine ⟨changed, ?_, _, run, rfl, rfl, (unlogged _ _ (.inl run)).1⟩
  rcases leaves {} (byteByByte (wireBytes smallFrame.header ++ [1, 253, 12])) []
    (by rw [byteByByte_contents, List.append_nil]) with ⟨exit, left, counted, mismatch⟩ | failure
  · exact ⟨exit, left, mismatch (by decide +kernel), counted⟩
  · exact absurd (byteByByte_reliable _) failure.1

end V4l2Capture.Receiver
