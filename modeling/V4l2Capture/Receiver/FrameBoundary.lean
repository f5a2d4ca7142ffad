import V4l2Capture.Receiver.AcceptLoop

/-!
# Completed sessions

`read_exact` reports a stream that ends inside a header in the same way as one that
ends in front of it. A session whose stream is cut inside a header therefore counts as
completed, and that is the only way in which a session can be completed elsewhere than
at a frame boundary.
-/
namespace V4l2Capture.Receiver

open Protocol

/-- The receiver stopped reading at a frame boundary: the peer closed there, or the frame
limit was reached there. -/
def SessionRecord.AtFrameBoundary (cfg : ReceiverConfig) (record : SessionRecord) : Prop :=
  ∃ frames : List (WireFrame cfg.maxPayloadBytes),
    (∀ frame ∈ frames, frame.intact = true) ∧ record.sessionFrames = frames.length ∧
    (record.stream = encodeFrames frames ∨
      0 < cfg.maxFrames ∧ record.framesBefore + frames.length = cfg.maxFrames ∧
        encodeFrames frames <+: record.stream)

/-- The stream ends inside a header that the frame limit does not keep from being read. -/
def CutInHeader (cfg : ReceiverConfig) (framesBefore : Nat) (stream : List UInt8) : Prop :=
  ∃ (frames : List (WireFrame cfg.maxPayloadBytes)) (tail : List UInt8),
    (∀ frame ∈ frames, frame.intact = true) ∧ stream = encodeFrames frames ++ tail ∧
    0 < tail.length ∧ tail.length < kWireHeaderSize ∧
    (cfg.maxFrames = 0 ∨ framesBefore + frames.length < cfg.maxFrames)

/-- At the frame limit exactly the limit has been received. -/
theorem full_iff (cfg : ReceiverConfig) {n : Nat} (within : 0 < cfg.maxFrames → n ≤ cfg.maxFrames) :
    roomForFrames cfg n = false ↔ 0 < cfg.maxFrames ∧ n = cfg.maxFrames := by
  have int := cfg.maxFrames_int
  by_cases limited : 0 < cfg.maxFrames
  · have room := roomForFrames_iff cfg (n := n) (by have := within limited; omega)
    have := within limited
    rw [← Bool.not_eq_true, room]
    omega
  · have none : cfg.maxFrames = 0 := by omega
    simp [roomForFrames, none]

/-- A completed session that was not cut inside a header stopped at a frame boundary. -/
theorem boundary_of_not_cut {cfg : ReceiverConfig} {record : SessionRecord}
    (explained : record.Explained cfg) (completed : record.completed = true)
    (whole : ¬ CutInHeader cfg record.framesBefore record.stream) :
    record.AtFrameBoundary cfg := by
  obtain ⟨frames, tail, exit, intact, split, count, done, within, spec⟩ := explained
  rw [completed] at done
  cases spec with
  | frameLimit full =>
    obtain ⟨limited, reached⟩ := (full_iff cfg within).mp full
    exact ⟨frames, intact, count, .inr ⟨limited, reached, tail, split.symm⟩⟩
  | headerClosed room short =>
    -- Anything left would be a header cut short, which is excluded.
    have empty : tail = [] := by
      by_contra more
      have notFull : ¬ (0 < cfg.maxFrames ∧ record.framesBefore + frames.length = cfg.maxFrames) :=
        fun full => by rw [(full_iff cfg within).mpr full] at room; cases room
      refine whole ⟨frames, tail, intact, split, List.length_pos_of_ne_nil more, short, ?_⟩
      by_cases limited : 0 < cfg.maxFrames
      · have := within limited
        have : record.framesBefore + frames.length ≠ cfg.maxFrames := fun e => notFull ⟨limited, e⟩
        omega
      · omega
    exact ⟨frames, intact, count, .inl (by rw [split, empty, List.append_nil])⟩
  | headerInvalid => cases done
  | payloadClosed => cases done
  | crcMismatch => cases done

/-- A session that is cut inside a header is completed, away from every frame boundary. -/
theorem completed_of_cut {cfg : ReceiverConfig} {record : SessionRecord}
    (explained : record.Explained cfg)
    (cut : CutInHeader cfg record.framesBefore record.stream) :
    record.completed = true ∧ ¬ record.AtFrameBoundary cfg := by
  obtain ⟨frames, tail, exit, intact, split, count, done, within, spec⟩ := explained
  obtain ⟨frames', tail', intact', split', some, short, room⟩ := cut
  have stuck' : Stuck cfg.maxPayloadBytes tail' := stuck_of_short tail' short
  have same : encodeFrames frames' ++ tail' = encodeFrames frames ++ tail := by
    rw [← split, ← split']
  -- The frames before the exit are the frames before the cut.
  have found : frames = frames' ∧ tail = tail' := by
    rcases spec.stuck_or_damaged with stuck | ⟨_, full⟩ | ⟨frame, rest, damaged, shape⟩
    · have parts := encodeFrames_unique _ _ _ _ same.symm stuck stuck'
      exact parts
    · obtain ⟨more, rfl⟩ := encodeFrames_maximal _ _ _ _ same stuck'
      obtain ⟨limited, reached⟩ := (full_iff cfg within).mp full
      rw [List.length_append] at room
      omega
    · rw [shape] at same
      have member := encodeFrames_member _ _ _ _ _ same stuck'
      exact absurd (intact' frame member) (by simp [damaged])
  obtain ⟨rfl, rfl⟩ := found
  constructor
  · rw [done]
    cases spec with
    | frameLimit => rfl
    | headerClosed => rfl
    -- Every other exit has read a whole header, and the tail is shorter than that.
    | headerInvalid header =>
      rw [List.length_append, wireBytes_length] at short
      omega
    | payloadClosed header =>
      rw [List.length_append, wireBytes_length] at short
      omega
    | crcMismatch frame =>
      rw [List.length_append, frame.encode_length] at short
      omega
  -- A boundary at the end of the stream leaves no tail; one at the limit leaves no room.
  · rintro ⟨other, _, count', whole | ⟨limited, reached, _⟩⟩
    · have same : encodeFrames frames ++ tail = encodeFrames other ++ [] := by
        rw [← split, whole, List.append_nil]
      have empty := (encodeFrames_unique _ _ _ _ same stuck' (stuck_of_short [] (by decide))).2
      rw [empty] at some
      exact absurd some (Nat.lt_irrefl 0)
    · omega

/-- Session by session, for every run that ends by itself: being completed means having
stopped at a frame boundary, except when the stream is cut inside a header. -/
theorem completed_at_boundary_iff (cfg : ReceiverConfig) (env : ReceiverEnv)
    (clients : List ClientEvent) (st : ReceiverState)
    (run : acceptLoop cfg env {} clients = .finished st) :
    st.completedSessions = st.sessions.countP (·.completed) ∧
    st.acceptedSessions = st.sessions.length ∧
    Recorded 0 (connections clients) st.sessions ∧
    ∀ record ∈ st.sessions,
      (record.completed = true → record.AtFrameBoundary cfg) ↔
        ¬ CutInHeader cfg record.framesBefore record.stream := by
  obtain ⟨_, sessions, _, records, recorded, shape⟩ :=
    acceptLoop_finished (receiverConsistent_initial cfg) (sessionsConsistent_initial cfg) rfl run
  rw [List.nil_append] at recorded
  subst recorded
  refine ⟨sessions.completed, sessions.accepted, shape, fun record member => ?_⟩
  have explained := sessions.explained record member
  constructor
  · intro boundary cut
    obtain ⟨completed, off⟩ := completed_of_cut explained cut
    exact off (boundary completed)
  · intro whole completed
    exact boundary_of_not_cut explained completed whole

/-- `completed_at_boundary_iff` for a client that sends one frame and closes. -/
theorem completed_at_boundary_smallFrame :
    ∃ st, acceptLoop oneSession calmEnv {} [.connected (byteByByte smallFrame.encode)] =
        .finished st ∧
      st.completedSessions = 1 ∧ st.acceptedSessions = st.sessions.length := by
  have run : acceptLoop oneSession calmEnv {} [.connected (byteByByte smallFrame.encode)] =
      .finished
        { receivedFrames := 1
          receivedBytes := 3
          savedFiles := 1
          acceptedSessions := 1
          completedSessions := 1
          peerDisconnects := 1
          e2eLatency := [1 / 2]
          log := [.sessionAccepted, .payloadAllocated 3, .frameAccepted smallFrame.delivered,
            .frameSaved 1 smallFrame.delivered]
          sessions := [⟨smallFrame.encode, 0, 1, true⟩] } := by
    decide +kernel
  exact ⟨_, run, rfl, (completed_at_boundary_iff oneSession calmEnv _ _ run).2.1⟩

/-- A client that sends one byte and closes is a completed session. -/
theorem completed_inside_header :
    ¬ ∀ (cfg : ReceiverConfig) (env : ReceiverEnv) (clients : List ClientEvent)
      (st : ReceiverState), acceptLoop cfg env {} clients = .finished st →
      ∀ record ∈ st.sessions, record.completed = true → record.AtFrameBoundary cfg := by
  intro always
  have run : acceptLoop oneSession calmEnv {} [.connected (byteByByte [0x50])] = .finished
      { acceptedSessions := 1
        completedSessions := 1
        peerDisconnects := 1
        log := [.sessionAccepted]
        sessions := [⟨[0x50], 0, 0, true⟩] } := by
    decide +kernel
  obtain ⟨frames, _, none, whole | limit⟩ :=
    always oneSession calmEnv _ _ run _ List.mem_cons_self rfl
  · rw [List.eq_nil_of_length_eq_zero none.symm] at whole
    cases whole
  · exact absurd limit.1 (Nat.lt_irrefl 0)

end V4l2Capture.Receiver
