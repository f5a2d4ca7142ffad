import V4l2Capture.Receiver.Counters

/-!
# What a session makes of a stream of frames

A session depends on the bytes of its stream and not on how the kernel cuts them
(`sessionLoop_segmentation`). On a prefix of a stream of intact frames it accepts the
frames that lie wholly inside the prefix.
-/
namespace V4l2Capture.Receiver

open Protocol

/-! ### Segmentation -/

/-- Two iterations that differ at most in how the rest of the stream is cut. -/
inductive Agree : Iteration → Iteration → Prop
  | next (st : ReceiverState) (conn conn' : Connection)
      (same : Socket.contents conn = Socket.contents conn')
      (reliable : Socket.Reliable conn) (reliable' : Socket.Reliable conn') :
      Agree (.next st conn) (.next st conn')
  | same (iteration : Iteration) (ends : ∀ st conn, iteration ≠ .next st conn) :
      Agree iteration iteration

theorem sessionStep_segmentation (cfg : ReceiverConfig) (env : ReceiverEnv) (st : ReceiverState)
    (conn conn' : Connection) (reliable : Socket.Reliable conn)
    (reliable' : Socket.Reliable conn') (same : Socket.contents conn = Socket.contents conn') :
    Agree (sessionStep cfg env st conn) (sessionStep cfg env st conn') := by
  unfold sessionStep
  have first' := readExact_reliable kWireHeaderSize conn' reliable'
  rw [← same] at first'
  -- Either both streams hold a whole header or neither does.
  rcases readExact_reliable kWireHeaderSize conn reliable with
    ⟨enough, next, read, rest, good⟩ | ⟨short, next, read⟩
  · obtain ⟨_, next', read', rest', good'⟩ :=
      first'.resolve_right fun short => absurd short.1 (by omega)
    rw [read, read']
    simp only
    split
    · exact .same _ (by simp)
    split
    · exact .same _ (by simp)
    next valid =>
      -- Both sides decoded the same bytes, so they ask for the same payload.
      generalize (deserializeHeaderBytes _ _).header = header at valid ⊢
      have second' := readExact_reliable header.payloadSize.toNat next' good'
      rw [rest', ← rest] at second'
      rcases readExact_reliable header.payloadSize.toNat next good with
        ⟨enough, last, read, rest, good⟩ | ⟨short, last, read⟩
      · obtain ⟨_, last', read', rest', good'⟩ :=
          second'.resolve_right fun short => absurd short.1 (by omega)
        rw [read, read']
        simp only
        split
        · exact .same _ (by simp)
        split
        · exact .same _ (by simp)
        · exact .next _ _ _ (rest.trans rest'.symm) good good'
      · obtain ⟨_, last', read'⟩ := second'.resolve_left fun enough => absurd enough.1 (by omega)
        rw [read, read']
        exact .same _ (by simp)
  · obtain ⟨_, next', read'⟩ := first'.resolve_left fun enough => absurd enough.1 (by omega)
    rw [read, read']
    exact .same _ (by simp)

/-- Sessions over the same bytes end in the same way, however the bytes are cut. -/
theorem sessionLoop_segmentation (cfg : ReceiverConfig) (env : ReceiverEnv) (st : ReceiverState)
    (sessionFrames : Nat) (conn conn' : Connection) (reliable : Socket.Reliable conn)
    (reliable' : Socket.Reliable conn') (same : Socket.contents conn = Socket.contents conn') :
    sessionLoop cfg env st sessionFrames conn = sessionLoop cfg env st sessionFrames conn' := by
  induction st, sessionFrames, conn using sessionLoop.induct cfg env generalizing conn' with
  | case1 st sessionFrames conn room message step =>
    have agree := sessionStep_segmentation cfg env st conn conn' reliable reliable' same
    rw [sessionLoop_room room, sessionLoop_room room]
    rw [step] at agree ⊢
    generalize sessionStep cfg env st conn' = step' at agree ⊢
    cases agree
    rfl
  | case2 st sessionFrames conn room exit step =>
    have agree := sessionStep_segmentation cfg env st conn conn' reliable reliable' same
    rw [sessionLoop_room room, sessionLoop_room room]
    rw [step] at agree ⊢
    generalize sessionStep cfg env st conn' = step' at agree ⊢
    cases agree
    rfl
  | case3 st sessionFrames conn room next rest step ih =>
    have agree := sessionStep_segmentation cfg env st conn conn' reliable reliable' same
    rw [sessionLoop_room room, sessionLoop_room room]
    rw [step] at agree ⊢
    generalize sessionStep cfg env st conn' = step' at agree ⊢
    cases agree with
    | next _ _ rest' same good good' => exact ih rest' good good' same
    | same _ ends => exact absurd rfl (ends _ _)
  | case4 st sessionFrames conn full =>
    rw [sessionLoop, if_neg full, sessionLoop, if_neg full]

/-- On a connection without failures only saving a payload can throw. -/
theorem sessionLoop_threw {cfg : ReceiverConfig} {env : ReceiverEnv} {st : ReceiverState}
    {sessionFrames : Nat} {conn : Connection} {message : String} (reliable : Socket.Reliable conn)
    (threw : sessionLoop cfg env st sessionFrames conn = .threw message) :
    cfg.savePayloads = true ∧ ∃ index, env.saveFails index = some message := by
  induction st, sessionFrames, conn using sessionLoop.induct cfg env with
  | case1 st sessionFrames conn room message' step =>
    have spec := sessionStep_spec cfg env st conn
    rw [step] at spec
    rw [sessionLoop_room room, step] at threw
    cases threw
    cases spec with
    | saveFailed frame _ failed => exact saveFails_of_error failed
    | recvFailed _ unreliable => exact absurd reliable unreliable
  | case2 st sessionFrames conn room exit step =>
    rw [sessionLoop_room room, step] at threw
    cases threw
  | case3 st sessionFrames conn room next rest step ih =>
    have spec := sessionStep_spec cfg env st conn
    rw [step] at spec
    rw [sessionLoop_room room, step] at threw
    cases spec with
    | accepted _ _ _ _ _ kept _ => exact ih (kept reliable) threw
  | case4 st sessionFrames conn full =>
    rw [sessionLoop, if_neg full] at threw
    cases threw

/-! ### Frames -/

/-- Every prefix of a stream of intact frames, however it arrives: the session accepts
the frames that the prefix contains. It ends by itself unless saving a payload throws. -/
theorem session_accepts_contained (cfg : ReceiverConfig) (env : ReceiverEnv) (st : ReceiverState)
    (unlimited : cfg.maxFrames = 0) (frames : List (WireFrame cfg.maxPayloadBytes))
    (intact : ∀ frame ∈ frames, frame.intact = true) (bytes : List UInt8)
    (inside : bytes <+: encodeFrames frames) (conn : Connection)
    (reliable : Socket.Reliable conn) (carried : Socket.contents conn = bytes) :
    (match sessionLoop cfg env st 0 conn with
      | .left _ st' sessionFrames =>
        st'.accepted =
          st.accepted ++ (containedFrames bytes.length frames).map WireFrame.delivered ∧
        sessionFrames = (containedFrames bytes.length frames).length
      | .threw message =>
        cfg.savePayloads = true ∧ ∃ index, env.saveFails index = some message) ∧
    ∀ conn', Socket.Reliable conn' → Socket.contents conn' = bytes →
      sessionLoop cfg env st 0 conn' = sessionLoop cfg env st 0 conn := by
  refine ⟨?_, fun conn' reliable' carried' => sessionLoop_segmentation cfg env st 0 conn' conn
    reliable' reliable (carried'.trans carried.symm)⟩
  cases run : sessionLoop cfg env st 0 conn with
  | threw message => exact sessionLoop_threw reliable run
  | left exit st' sessionFrames =>
    obtain ⟨accepted, tail, last, whole, split, received, _, exitSpec, rfl, count⟩ :=
      sessionLoop_left run
    obtain ⟨rest, split', stuck'⟩ := stream_prefix_split frames bytes inside
    have same : encodeFrames accepted ++ tail =
        encodeFrames (containedFrames bytes.length frames) ++ rest := by
      rw [← split, carried, ← split']
    -- Two decompositions of one stream, and both end in a stuck tail.
    have found : accepted = containedFrames bytes.length frames := by
      rcases exitSpec.stuck_or_damaged with stuck | limit | ⟨frame, behind, damaged, shape⟩
      · exact (encodeFrames_unique _ _ _ _ same stuck stuck').1
      · exact absurd limit.2 (by simp [roomForFrames, unlimited])
      · -- The damaged frame would be one of the contained frames, which are intact.
        rw [shape] at same
        have member := encodeFrames_member _ _ _ _ _ same.symm stuck'
        have part := (containedFrames_isPrefix bytes.length frames).subset member
        exact absurd (intact frame part) (by simp [damaged])
    have changed := receiveFrames_spec _ received
    refine ⟨?_, ?_⟩
    · rw [(leave_spec last exit).accepted, changed.accepted, found]
    · rw [count, found, Nat.zero_add]

/-- `session_accepts_contained` for the first 50 bytes of two frames. -/
theorem session_accepts_contained_smallFrame :
    ∃ exit st', sessionLoop oneSession calmEnv {} 0
        (byteByByte ((encodeFrames [smallFrame, smallFrame]).take 50)) = .left exit st' 1 ∧
      st'.accepted = [smallFrame.delivered] := by
  have intact : ∀ frame ∈ [smallFrame, smallFrame], frame.intact = true := by decide +kernel
  have spec := (session_accepts_contained oneSession calmEnv {} rfl [smallFrame, smallFrame] intact
    ((encodeFrames [smallFrame, smallFrame]).take 50) (List.take_prefix _ _) _
    (byteByByte_reliable _) (byteByByte_contents _)).1
  have contained : (containedFrames ((encodeFrames [smallFrame, smallFrame]).take 50).length
      ([smallFrame, smallFrame] : List (WireFrame oneSession.maxPayloadBytes))).map
        WireFrame.delivered = [smallFrame.delivered] := by
    decide +kernel
  have count := congrArg List.length contained
  rw [List.length_map] at count
  rw [contained, count] at spec
  split at spec
  next exit st' _ run =>
    obtain ⟨accepted, rfl⟩ := spec
    exact ⟨exit, st', run, accepted⟩
  next =>
    obtain ⟨_, index, fails⟩ := spec
    cases fails

end V4l2Capture.Receiver
