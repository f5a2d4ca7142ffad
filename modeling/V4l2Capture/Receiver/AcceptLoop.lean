import V4l2Capture.Receiver.Counters

/-!
# Runs of tcp_receiver

`acceptLoop` serves the clients one after the other. Its counters stay consistent with
what happened through every exit of both loops, whatever the clients send:
`SessionsConsistent` is the invariant of the sessions, `closeSession_spec` carries it and
that of the counters through one session, and `acceptLoop_finished` through a whole run.
-/
namespace V4l2Capture.Receiver

open Protocol Stats

/-- What the next `accept` call returns. -/
inductive ClientEvent where
  | connected (conn : Connection)
  | interrupted
  | failed (errno : Errno)
  deriving DecidableEq, Repr

/-- The statistics are written when the loop ends; a run that threw writes none, and
one that waits for a further client has not ended. -/
inductive ReceiverRun where
  | finished (st : ReceiverState)
  | threw (message : String)
  | waiting (st : ReceiverState)
  deriving DecidableEq, Repr

def ReceiverState.openSession (st : ReceiverState) : ReceiverState :=
  { st with
    acceptedSessions := st.acceptedSessions + 1
    log := st.log ++ [.sessionAccepted] }

/-- The statements behind the session loop. -/
def ReceiverState.closeSession (st : ReceiverState) (exit : SessionExit)
    (record : SessionRecord) : ReceiverState :=
  { st with
    completedSessions := if exit.sessionOk then st.completedSessions + 1 else st.completedSessions
    sessions := st.sessions ++ [record] }

def acceptLoop (cfg : ReceiverConfig) (env : ReceiverEnv) (st : ReceiverState)
    (clients : List ClientEvent) : ReceiverRun :=
  if st.acceptedSessions < cfg.maxSessions ∧ roomForFrames cfg st.receivedFrames then
    match clients with
    | [] => .waiting st
    -- `EINTR`: the loop calls `accept` again.
    | .interrupted :: clients => acceptLoop cfg env st clients
    | .failed errno :: _ => .threw ("accept failed: " ++ env.strerror errno)
    | .connected conn :: clients =>
      match sessionLoop cfg env st.openSession 0 conn with
      | .threw message => .threw message
      | .left exit left sessionFrames =>
        let closed := left.closeSession exit
          ⟨Socket.contents conn, st.receivedFrames, sessionFrames, exit.sessionOk⟩
        if exit.fatal then .finished closed else acceptLoop cfg env closed clients
  else .finished st

/-! ### Sessions -/

/-- The record of a session agrees with how its stream is cut into frames. -/
def SessionRecord.Explained (cfg : ReceiverConfig) (record : SessionRecord) : Prop :=
  ∃ (frames : List (WireFrame cfg.maxPayloadBytes)) (tail : List UInt8) (exit : SessionExit),
    (∀ frame ∈ frames, frame.intact = true) ∧
    record.stream = encodeFrames frames ++ tail ∧
    record.sessionFrames = frames.length ∧
    record.completed = exit.sessionOk ∧
    (0 < cfg.maxFrames → record.framesBefore + frames.length ≤ cfg.maxFrames) ∧
    ExitSpec cfg (record.framesBefore + frames.length) exit tail

/-- The session counters agree with the records of the sessions that are over. -/
structure SessionsConsistent (cfg : ReceiverConfig) (st : ReceiverState) : Prop where
  accepted : st.acceptedSessions = st.sessions.length
  completed : st.completedSessions = st.sessions.countP (·.completed)
  disconnects : st.peerDisconnects ≤ st.sessions.length
  explained : ∀ record ∈ st.sessions, record.Explained cfg
  limit : st.acceptedSessions ≤ cfg.maxSessions

/-- A rejection was logged at most once, and nothing was logged behind it. -/
def RejectionLast (st : ReceiverState) : Prop :=
  st.rejectedFrames ≤ 1 ∧
    ∀ before event behind, st.log = before ++ event :: behind → event.isRejection = true →
      behind = []

theorem rejection_last {log : List ReceiverEvent} (clean : log.countP ReceiverEvent.isRejection = 0)
    (final : ReceiverEvent) (before : List ReceiverEvent) (event : ReceiverEvent)
    (behind : List ReceiverEvent) (split : log ++ [final] = before ++ event :: behind)
    (rejection : event.isRejection = true) : behind = [] := by
  -- Behind a rejection there would be the final entry, and the log before it is clean.
  rcases List.eq_nil_or_concat behind with empty | ⟨front, last, rfl⟩
  · exact empty
  · rw [List.concat_eq_append, ← List.cons_append, ← List.append_assoc] at split
    have earlier := (List.append_inj' split rfl).1
    have member : event ∈ log := by simp [earlier]
    exact absurd rejection (List.countP_eq_zero.mp clean event member)

theorem rejectionLast_of_clean {cfg : ReceiverConfig} {st : ReceiverState}
    (inv : ReceiverConsistent cfg st) (clean : st.rejectedFrames = 0) : RejectionLast st := by
  refine ⟨by omega, fun before event behind split rejection => ?_⟩
  have none := List.countP_eq_zero.mp (inv.rejections.symm.trans clean)
  exact absurd rejection (none event (by simp [split]))

theorem openSession_accepted (st : ReceiverState) : st.openSession.accepted = st.accepted := by
  rw [ReceiverState.accepted, ReceiverState.openSession, List.filterMap_append]
  exact List.append_nil _

theorem ReceiverConsistent.openSession {cfg : ReceiverConfig} {st : ReceiverState}
    (inv : ReceiverConsistent cfg st) : ReceiverConsistent cfg st.openSession where
  rejected := inv.rejected
  rejections := by simpa [ReceiverState.openSession, ReceiverEvent.isRejection] using inv.rejections
  frames := by rw [openSession_accepted]; exact inv.frames
  bytes := by rw [openSession_accepted]; exact inv.bytes
  latency := inv.latency
  saved := inv.saved
  saves := by simpa [ReceiverState.openSession, ReceiverEvent.isSave] using inv.saves
  sessions := by simpa [ReceiverState.openSession] using inv.sessions
  allowed := by
    simpa [ReceiverState.openSession, or_imp, forall_and, ReceiverEvent.Allowed] using inv.allowed
  frameLimit := inv.frameLimit

/-- Behind an exit the log holds no rejection, or one as its last entry. -/
theorem rejectionLast_of_left {cfg : ReceiverConfig} {last left : ReceiverState}
    {exit : SessionExit} (inv : ReceiverConsistent cfg last) (clean : last.rejectedFrames = 0)
    (step : SessionLeft last exit left) :
    RejectionLast left ∧ (exit.fatal = false → left.rejectedFrames = 0) := by
  have none : last.log.countP ReceiverEvent.isRejection = 0 := inv.rejections.symm.trans clean
  have events := exit.events_rejection
  have rejected := step.rejected
  cases fatal : exit.fatal with
  -- The exit logs one rejection, behind everything else.
  | true =>
    rw [fatal, if_pos rfl] at events
    obtain ⟨before, event, shape, rejection, quiet⟩ := events
    have one : exit.events.countP ReceiverEvent.isRejection = 1 := by
      rw [shape, List.countP_append, quiet, List.countP_singleton, if_pos rejection]
    refine ⟨⟨by omega, ?_⟩, by simp⟩
    rw [step.log, shape, ← List.append_assoc]
    exact rejection_last (by rw [List.countP_append, none, quiet]) event
  | false =>
    rw [fatal, if_neg (by simp)] at events
    have still : left.rejectedFrames = 0 := by omega
    refine ⟨⟨by omega, fun before event behind split rejection => ?_⟩, fun _ => still⟩
    have quiet : left.log.countP ReceiverEvent.isRejection = 0 := by
      rw [step.log, List.countP_append, none, events]
    exact absurd rejection (List.countP_eq_zero.mp quiet event (by simp [split]))

/-- Step lemma: one session, from `accept` to the end of its iteration. -/
theorem closeSession_spec {cfg : ReceiverConfig} {env : ReceiverEnv} {st left : ReceiverState}
    {conn : Connection} {exit : SessionExit} {sessionFrames : Nat}
    (inv : ReceiverConsistent cfg st) (sessions : SessionsConsistent cfg st)
    (clean : st.rejectedFrames = 0) (more : st.acceptedSessions < cfg.maxSessions)
    (run : sessionLoop cfg env st.openSession 0 conn = .left exit left sessionFrames) :
    let closed := left.closeSession exit
      ⟨Socket.contents conn, st.receivedFrames, sessionFrames, exit.sessionOk⟩
    ReceiverConsistent cfg closed ∧ SessionsConsistent cfg closed ∧ RejectionLast closed ∧
      (exit.fatal = false → closed.rejectedFrames = 0) ∧
      closed.sessions = st.sessions ++
        [⟨Socket.contents conn, st.receivedFrames, sessionFrames, exit.sessionOk⟩] ∧
      closed.receivedFrames = st.receivedFrames + sessionFrames := by
  intro closed
  obtain ⟨frames, tail, last, intact, split, received, rooms, exitSpec, rfl, count⟩ :=
    sessionLoop_left run
  rw [Nat.zero_add] at count
  have served := receiveFrames_spec _ received
  have consistent := receiveFrames_consistent frames inv.openSession intact rooms received
  have step := leave_spec last exit
  obtain ⟨opened, done, disconnects, records⟩ := served.sessionCounts
  obtain ⟨opened', done', records', _⟩ := step.sessionCounts
  have opens : closed.acceptedSessions = st.acceptedSessions + 1 := opened'.trans opened
  have recorded : closed.sessions = st.sessions ++
      [⟨Socket.contents conn, st.receivedFrames, sessionFrames, exit.sessionOk⟩] := by
    change (last.leave exit).sessions ++ _ = _
    rw [records'.trans records]
    rfl
  have frameCount : closed.receivedFrames = st.receivedFrames + sessionFrames :=
    step.frames.1.trans (by rw [served.receivedFrames, List.length_map, count]; rfl)
  have explained : SessionRecord.Explained cfg
      ⟨Socket.contents conn, st.receivedFrames, sessionFrames, exit.sessionOk⟩ := by
    refine ⟨frames, tail, exit, intact, split, count, rfl, ?_, exitSpec⟩
    intro limited
    have total := consistent.frameLimit limited
    rwa [served.receivedFrames, List.length_map] at total
  obtain ⟨lastRejection, stays⟩ :=
    rejectionLast_of_left consistent (served.rejectedFrames.trans clean) step
  have left := consistent.leave exitSpec
  refine ⟨{ left with }, ?_, lastRejection, stays, recorded, frameCount⟩
  constructor
  case accepted => rw [opens, recorded, List.length_append, sessions.accepted]; rfl
  -- `completed_sessions` grows with `session_ok`, which the record keeps.
  case completed =>
    rw [recorded, List.countP_append, List.countP_singleton, ← sessions.completed]
    change (if exit.sessionOk = true then _ else _) = _
    rw [done'.trans done]
    split <;> rfl
  -- A session is left once, so it counts at most one disconnect.
  case disconnects =>
    rw [recorded, List.length_append, List.length_singleton]
    have before : last.peerDisconnects = st.peerDisconnects := disconnects
    have := sessions.disconnects
    have := step.disconnects
    change (last.leave exit).peerDisconnects ≤ _
    omega
  case explained =>
    rw [recorded]
    simpa [or_imp, forall_and] using ⟨sessions.explained, explained⟩
  case limit => rw [opens]; exact more

/-! ### Runs -/

/-- The connections that a run can accept. -/
def connections : List ClientEvent → List Connection
  | [] => []
  | .connected conn :: clients => conn :: connections clients
  | .interrupted :: clients => connections clients
  | .failed _ :: clients => connections clients

/-- The records of a run, session by session: each stream is that of the next client,
and each session starts with the frames of the sessions before it. -/
def Recorded : Nat → List Connection → List SessionRecord → Prop
  | _, _, [] => True
  | _, [], _ :: _ => False
  | before, conn :: conns, record :: records =>
    record.stream = Socket.contents conn ∧ record.framesBefore = before ∧
      Recorded (before + record.sessionFrames) conns records

@[simp] theorem recorded_nil (before : Nat) (conns : List Connection) :
    Recorded before conns [] := by
  cases conns <;> trivial

/-- Run lemma of the accept loop. -/
theorem acceptLoop_finished {cfg : ReceiverConfig} {env : ReceiverEnv} {st st' : ReceiverState}
    {clients : List ClientEvent} (inv : ReceiverConsistent cfg st)
    (sessions : SessionsConsistent cfg st) (clean : st.rejectedFrames = 0)
    (run : acceptLoop cfg env st clients = .finished st') :
    ReceiverConsistent cfg st' ∧ SessionsConsistent cfg st' ∧ RejectionLast st' ∧
      ∃ records, st'.sessions = st.sessions ++ records ∧
        Recorded st.receivedFrames (connections clients) records := by
  induction clients generalizing st with
  | nil =>
    rw [acceptLoop] at run
    split at run
    · cases run
    · cases run
      exact ⟨inv, sessions, rejectionLast_of_clean inv clean, [], by simp, recorded_nil _ _⟩
  | cons client clients ih =>
    rw [acceptLoop.eq_def] at run
    split at run
    next condition =>
      cases client with
      | interrupted => exact ih inv sessions clean run
      | failed errno => cases run
      | connected conn =>
        simp only at run
        cases session : sessionLoop cfg env st.openSession 0 conn with
        | threw message =>
          rw [session] at run
          cases run
        | left exit left sessionFrames =>
          rw [session] at run
          obtain ⟨inv', sessions', last, stays, recorded, frameCount⟩ :=
            closeSession_spec inv sessions clean condition.1 session
          simp only at run
          cases fatal : exit.fatal with
          -- A protocol error ends the whole program: this was the last session.
          | true =>
            rw [fatal, if_pos rfl] at run
            cases run
            exact ⟨inv', sessions', last, _, recorded, rfl, rfl, recorded_nil _ _⟩
          | false =>
            rw [fatal, if_neg (by simp)] at run
            obtain ⟨consistent, counted, final, records, more, shape⟩ :=
              ih inv' sessions' (stays fatal) run
            rw [frameCount] at shape
            rw [recorded, List.append_assoc] at more
            exact ⟨consistent, counted, final, _, more, rfl, rfl, shape⟩
    next =>
      cases run
      exact ⟨inv, sessions, rejectionLast_of_clean inv clean, [], by simp, recorded_nil _ _⟩

theorem sessionsConsistent_initial (cfg : ReceiverConfig) : SessionsConsistent cfg {} where
  accepted := rfl
  completed := rfl
  disconnects := Nat.le_refl 0
  explained := by simp
  limit := Nat.zero_le _

/-- The counters of a run that reaches its statistics, whatever its clients sent. -/
theorem tcpReceiver_counters (cfg : ReceiverConfig) (env : ReceiverEnv)
    (clients : List ClientEvent) (st : ReceiverState)
    (run : acceptLoop cfg env {} clients = .finished st) :
    (∀ size, .payloadAllocated size ∈ st.log → 1 ≤ size ∧ size ≤ cfg.maxPayloadBytes.toNat) ∧
    (∀ frame, .frameAccepted frame ∈ st.log → PassedChecks cfg frame) ∧
    (∀ index frame, .frameSaved index frame ∈ st.log → PassedChecks cfg frame) ∧
    (st.receivedFrames = st.accepted.length ∧
      st.savedFiles = st.log.countP ReceiverEvent.isSave ∧
      st.acceptedSessions = st.log.count .sessionAccepted) ∧
    (st.rejectedFrames = st.headerErrors + st.crcErrors ∧ st.rejectedFrames ≤ 1 ∧
      st.rejectedFrames = st.log.countP ReceiverEvent.isRejection) ∧
    (∀ before event behind, st.log = before ++ event :: behind → event.isRejection = true →
      behind = []) ∧
    st.receivedBytes = (st.accepted.map fun frame => frame.1.payloadSize.toNat).sum ∧
    st.receivedFrames = st.e2eLatency.length + st.latencyClockErrors ∧
    (cfg.savePayloads = true → st.receivedFrames = st.savedFiles) ∧
    (0 < cfg.maxFrames → st.receivedFrames ≤ cfg.maxFrames) ∧
    st.acceptedSessions ≤ cfg.maxSessions ∧
    st.completedSessions ≤ st.acceptedSessions ∧
    st.peerDisconnects ≤ st.acceptedSessions := by
  obtain ⟨counters, sessions, ⟨once, last⟩, _⟩ :=
    acceptLoop_finished (receiverConsistent_initial cfg) (sessionsConsistent_initial cfg) rfl run
  have frames : ∀ frame, .frameAccepted frame ∈ st.log → PassedChecks cfg frame :=
    fun frame member => counters.allowed _ member
  have bytes : st.accepted.map (·.2.length) =
      st.accepted.map fun frame => frame.1.payloadSize.toNat := by
    refine List.map_congr_left fun frame member => ?_
    obtain ⟨event, logged, accepts⟩ := List.mem_filterMap.mp member
    cases event <;> cases accepts
    exact (frames frame logged).2.1
  refine ⟨fun size member => counters.allowed _ member, frames,
    fun index frame member => counters.allowed _ member,
    ⟨counters.frames, counters.saves, counters.sessions⟩,
    ⟨counters.rejected, once, counters.rejections⟩, last, ?_, counters.latency, counters.saved,
    counters.frameLimit, sessions.limit, ?_, ?_⟩
  · rw [counters.bytes, bytes]
  · rw [sessions.completed, sessions.accepted]
    exact List.countP_le_length
  · rw [sessions.accepted]
    exact sessions.disconnects

/-- `tcpReceiver_counters` for one session with one frame and a damaged second header. -/
theorem tcpReceiver_counters_smallFrame :
    ∃ st, acceptLoop oneSession calmEnv {}
        [.connected (byteByByte (smallFrame.encode ++ List.replicate 44 0))] = .finished st ∧
      (st.receivedFrames = 1 ∧ st.receivedBytes = 3 ∧ st.savedFiles = 1 ∧
        st.e2eLatency = [1 / 2] ∧ st.latencyClockErrors = 0) ∧
      (st.headerErrors = 1 ∧ st.crcErrors = 0 ∧ st.rejectedFrames = 1) ∧
      (st.acceptedSessions = 1 ∧ st.completedSessions = 0 ∧ st.peerDisconnects = 0) ∧
      st.log = [.sessionAccepted, .payloadAllocated 3, .frameAccepted smallFrame.delivered,
        .frameSaved 1 smallFrame.delivered, .headerRejected {}] ∧
      st.rejectedFrames = st.headerErrors + st.crcErrors ∧ st.rejectedFrames ≤ 1 := by
  have run : acceptLoop oneSession calmEnv {}
      [.connected (byteByByte (smallFrame.encode ++ List.replicate 44 0))] = .finished
        { receivedFrames := 1
          receivedBytes := 3
          savedFiles := 1
          headerErrors := 1
          rejectedFrames := 1
          acceptedSessions := 1
          e2eLatency := [1 / 2]
          lastError := "invalid frame header: invalid magic"
          log := [.sessionAccepted, .payloadAllocated 3, .frameAccepted smallFrame.delivered,
            .frameSaved 1 smallFrame.delivered, .headerRejected {}]
          sessions := [⟨smallFrame.encode ++ List.replicate 44 0, 0, 1, false⟩] } := by
    decide +kernel
  obtain ⟨_, _, _, _, ⟨sum, once, _⟩, _⟩ := tcpReceiver_counters oneSession calmEnv _ _ run
  exact ⟨_, run, ⟨rfl, rfl, rfl, rfl, rfl⟩, ⟨rfl, rfl, rfl⟩, ⟨rfl, rfl, rfl⟩, rfl, sum, once⟩

end V4l2Capture.Receiver
