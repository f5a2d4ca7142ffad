import V4l2Capture.Diagnostics.HandleClient
import V4l2Capture.Receiver.Counters

/-!
# Frames that the diagnostics node loses

On a stream of frames the node should accept those whose checksum is right, as
`tcp_receiver` does. Reading four bytes too many for the first header makes it lose the
alignment: it looks for the second magic number at the place of header size and version.
So it reads at most one frame of a session to its end, and none of a session with a
single frame.
-/
namespace V4l2Capture.Diagnostics

open Protocol Receiver

/-- What a receiver of the protocol makes of a stream of frames: it accepts the intact
ones in order, counts the damaged ones, and agrees with `tcp_receiver`. -/
structure AcceptsIntactFrames {maxPayloadBytes : UInt32} (frames : List (WireFrame maxPayloadBytes))
    (st : NodeState) : Prop where
  accepted : st.accepted = (frames.filter WireFrame.intact).map WireFrame.delivered
  crcErrors : st.crcErrors = frames.countP fun frame => !frame.intact
  headerErrors : st.headerErrors = 0
  asReceiver : (∀ frame ∈ frames, frame.intact = true) →
    ∀ (receiver : ReceiverConfig) (env : ReceiverEnv) (conn : Connection) (exit : SessionExit)
      (st' : ReceiverState) (sessionFrames : Nat), receiver.maxFrames = 0 →
      receiver.maxPayloadBytes = maxPayloadBytes → Socket.contents conn = encodeFrames frames →
      sessionLoop receiver env {} 0 conn = .left exit st' sessionFrames →
      st.accepted = st'.accepted

theorem AcceptsIntactFrames.framesRead {maxPayloadBytes : UInt32}
    {frames : List (WireFrame maxPayloadBytes)} {st : NodeState}
    (spec : AcceptsIntactFrames frames st) : st.framesRead = frames.length := by
  rw [NodeState.framesRead, spec.accepted, spec.crcErrors, List.length_map,
    ← List.countP_eq_length_filter, List.length_eq_countP_add_countP WireFrame.intact]
  simp

/-! ### The second header -/

/-- Behind the magic number of an acceptable header stand its size and its version. -/
theorem drop_magic (header : FrameHeader) (maxPayloadBytes : UInt32)
    (accepted : HeaderAccepted header maxPayloadBytes) (tail : List UInt8) :
    ∃ more, (wireBytes header ++ tail).drop 4 = [44, 0, 3, 0] ++ more := by
  have size : LittleEndian.bytes 2 header.headerSize.toNat = [44, 0] := by
    rw [accepted.headerSize]
    decide
  have version : LittleEndian.bytes 2 header.version.toNat = [3, 0] := by
    rw [accepted.version]
    decide
  rw [wireBytes, size, version]
  simp only [List.append_assoc]
  rw [List.drop_left' (by simp)]
  exact ⟨_, rfl⟩

/-- Four bytes behind its start, an acceptable header does not look like one. -/
theorem no_header_behind_magic (memory rest more : List UInt8) (maxPayloadBytes : UInt32)
    (size : memory.length = sizeofFrameHeader) (same : memory ++ rest = [44, 0, 3, 0] ++ more) :
    validateHeader (decodeFields memory) maxPayloadBytes ≠ .ok () := by
  intro valid
  have magic := ((validateHeader_ok_iff _ _).mp valid).magic
  rw [sizeofFrameHeader_eq, kWireHeaderSize] at size
  obtain ⟨front, rfl⟩ : [44, 0, 3, 0] <+: memory :=
    List.prefix_of_prefix_length_le ⟨more, same.symm⟩ (List.prefix_append memory rest)
      (by simp; omega)
  -- Header size and version, read as the magic number.
  have found : readU32Le ([44, 0, 3, 0] ++ front) 0 = 0x0003002C := by
    simp [readU32Le, readLe, List.range, List.range.loop]
  rw [decodeFields, found] at magic
  have wrong : (0x0003002C : UInt32) ≠ kMagic := by decide
  exact wrong magic

/-- The first header is read right, and the read of its frame ends four bytes inside the
next frame. -/
theorem first_frame_split {maxPayloadBytes : UInt32} (frame : WireFrame maxPayloadBytes)
    (frames : List (WireFrame maxPayloadBytes)) (memory payload rest : List UInt8)
    (size : memory.length = sizeofFrameHeader)
    (payloadSize : payload.length = (decodeFields memory).payloadSize.toNat)
    (split : encodeFrames (frame :: frames) = memory ++ payload ++ rest) :
    rest = (encodeFrames frames).drop 4 ∧ frames ≠ [] := by
  rw [sizeofFrameHeader_eq] at size
  have stream : encodeFrames (frame :: frames) =
      wireBytes frame.header ++ (frame.payload ++ encodeFrames frames) := by
    rw [encodeFrames, List.flatMap_cons, WireFrame.encode, serializeHeader_toList,
      List.append_assoc]
    rfl
  rw [stream, List.append_assoc] at split
  -- The object holds the header and the four bytes behind it.
  obtain ⟨extra, rfl⟩ : wireBytes frame.header <+: memory :=
    List.prefix_of_prefix_length_le ⟨_, split⟩ (List.prefix_append _ _) (by simp; omega)
  rw [List.append_assoc, List.append_cancel_left_eq] at split
  rw [List.length_append, wireBytes_length] at size
  rw [decodeFields_wireBytes, ← frame.size] at payloadSize
  constructor
  · have consumed : (extra ++ payload).length = frame.payload.length + 4 := by
      rw [List.length_append]
      omega
    have dropped := congrArg (List.drop (frame.payload.length + 4)) split
    rw [List.drop_length_add_append, ← List.append_assoc, List.drop_left' consumed] at dropped
    exact dropped.symm
  -- Without a next frame the payload read would have come four bytes short.
  · rintro rfl
    have lengths := congrArg List.length split
    simp only [encodeFrames, List.flatMap_nil, List.append_nil, List.length_append] at lengths
    omega

/-- From the second frame on nothing is read, and a single frame is not read either. -/
theorem framesRead_lt (cfg : NodeConfig) (env : NodeEnv) (frame : WireFrame cfg.maxPayloadBytes)
    (frames : List (WireFrame cfg.maxPayloadBytes)) (input : NodeInput)
    (carried : Socket.contents input.conn = encodeFrames (frame :: frames)) :
    (handleClient cfg env {} input).framesRead < (frame :: frames).length := by
  rw [handleClient_eq]
  have first := nodeStep_spec cfg env {} input
  cases step : nodeStep cfg env {} input with
  | returns st =>
    rw [step] at first
    cases first with
    | returns _ same => exact same ▸ Nat.succ_pos _
  | next st next =>
    rw [step] at first
    cases first with
    | next memory payload _ _ size valid payloadSize split one =>
      obtain ⟨rest, more⟩ := first_frame_split frame frames memory payload
        (Socket.contents next.conn) size payloadSize (carried.symm.trans split)
      obtain ⟨second, later, rfl⟩ := List.exists_cons_of_ne_nil more
      -- A first frame was read, so there is a second one; its header is not found.
      simp only
      rw [handleClient_eq]
      have again := nodeStep_spec cfg env st next
      cases step' : nodeStep cfg env st next with
      | returns st' =>
        rw [step'] at again
        cases again with
        | returns _ same =>
          have none : NodeState.framesRead {} = 0 := rfl
          simp only [same, one, none, List.length_cons]
          omega
      | next st' next' =>
        rw [step'] at again
        cases again with
        | next memory' payload' _ _ size' valid' _ split' =>
          obtain ⟨tail, misread⟩ := drop_magic second.header cfg.maxPayloadBytes
            ((validateHeader_ok_iff _ _).mp second.accepted)
            (second.payload ++ encodeFrames later)
          have stream : Socket.contents next.conn = [44, 0, 3, 0] ++ tail := by
            rw [rest, ← misread, encodeFrames, List.flatMap_cons, WireFrame.encode,
              serializeHeader_toList, List.append_assoc]
            rfl
          rw [stream, List.append_assoc] at split'
          exact absurd valid' (no_header_behind_magic memory' _ tail _ size' split'.symm)

/-- On an empty stream there is nothing to lose. -/
theorem acceptsIntactFrames_nil (cfg : NodeConfig) (env : NodeEnv) (input : NodeInput)
    (empty : Socket.contents input.conn = []) :
    AcceptsIntactFrames ([] : List (WireFrame cfg.maxPayloadBytes))
      (handleClient cfg env {} input) := by
  rw [handleClient_eq]
  have spec := nodeStep_spec cfg env {} input
  cases step : nodeStep cfg env {} input with
  | next st next =>
    rw [step] at spec
    cases spec with
    | next memory payload _ _ size _ _ split =>
      rw [empty, List.append_assoc] at split
      rw [(List.nil_eq_append_iff.mp split).1] at size
      cases size
  | returns st =>
    rw [step] at spec
    cases spec with
    | returns _ same rejects =>
      have none : st.accepted.length = 0 ∧ st.crcErrors = 0 := by
        have zero : st.accepted.length + st.crcErrors = 0 := same
        omega
      have accepted : st.accepted = [] := List.eq_nil_of_length_eq_zero none.1
      refine ⟨accepted, none.2, ?_, ?_⟩
      · rcases rejects with kept | long
        · exact kept
        · rw [empty] at long
          exact absurd long (by decide)
      · intro _ receiver _ conn exit st' _ _ _ carried session
        obtain ⟨frames, tail, last, _, split, received, _, _, rfl, _⟩ := sessionLoop_left session
        rw [carried] at split
        have none : frames = [] := by
          cases frames with
          | nil => rfl
          | cons frame frames =>
            have lengths := congrArg List.length split
            simp only [encodeFrames, List.flatMap_nil, List.flatMap_cons, List.length_nil,
              List.length_append, frame.encode_length, kWireHeaderSize] at lengths
            omega
        subst none
        cases received
        rw [accepted, (leave_spec {} exit).accepted]
        rfl

/-- The node makes of a stream of frames what a receiver should make of it exactly when
there is no frame in it, however the stream arrives. -/
theorem handleClient_accepts_iff (cfg : NodeConfig) (env : NodeEnv)
    (frames : List (WireFrame cfg.maxPayloadBytes)) (input : NodeInput)
    (carried : Socket.contents input.conn = encodeFrames frames) :
    AcceptsIntactFrames frames (handleClient cfg env {} input) ↔ frames = [] := by
  constructor
  · intro spec
    cases frames with
    | nil => rfl
    | cons frame frames =>
      have fewer := framesRead_lt cfg env frame frames input carried
      rw [spec.framesRead] at fewer
      exact absurd fewer (Nat.lt_irrefl _)
  · rintro rfl
    exact acceptsIntactFrames_nil cfg env input carried

/-- A node without limits that publishes no images. -/
def plainNode : NodeConfig where
  maxFrames := 0
  maxPayloadBytes := kDefaultMaxPayloadBytes
  publishImages := false

def plainNodeEnv : NodeEnv where
  clock _ := 1500
  publishFails _ := none
  strerror _ := "error"

/-- `handleClient_accepts_iff` for a stream of one frame. -/
theorem handleClient_accepts_smallFrame :
    ¬ AcceptsIntactFrames ([smallFrame] : List (WireFrame plainNode.maxPayloadBytes))
      (handleClient plainNode plainNodeEnv {} { conn := byteByByte (encodeFrames [smallFrame]) }) := by
  rw [handleClient_accepts_iff plainNode plainNodeEnv [smallFrame] _ (byteByByte_contents _)]
  exact List.cons_ne_nil _ _

/-- Two intact frames: the node checks the first one over the wrong bytes, and the bytes
that are left do not make a second header. -/
theorem handleClient_loses_smallFrames :
    ¬ ∀ (cfg : NodeConfig) (env : NodeEnv) (frames : List (WireFrame cfg.maxPayloadBytes))
      (conn : Connection), cfg.maxFrames = 0 → Socket.Reliable conn →
      Socket.contents conn = encodeFrames frames →
      AcceptsIntactFrames frames (handleClient cfg env {} { conn := conn }) := by
  intro always
  have spec := always plainNode plainNodeEnv [smallFrame, smallFrame]
    (byteByByte (encodeFrames [smallFrame, smallFrame])) rfl (byteByByte_reliable _)
    (byteByByte_contents _)
  -- The checksum of the first frame is taken over the wrong bytes.
  have crc : (handleClient plainNode plainNodeEnv {}
      { conn := byteByByte (encodeFrames [smallFrame, smallFrame]) }).crcErrors = 1 := by
    decide +kernel
  have intact : ([smallFrame, smallFrame] : List (WireFrame plainNode.maxPayloadBytes)).countP
      (fun frame => !frame.intact) = 0 := by
    decide +kernel
  rw [spec.crcErrors, intact] at crc
  cases crc

end V4l2Capture.Diagnostics
