import Mathlib.Data.List.TakeWhile
import V4l2Capture.Pipeline.Wire
import V4l2Capture.Receiver.Streams

/-!
# From the pipeline to tcp_receiver

The bytes that the sender thread has put on the wire, at any moment of any run, arrive at a
receiver with the default payload limit. `pipeline_received` says which frames it counts: those
in front of the first one that is outside of the receiver's limits, each once, in the order in
which they were captured.
-/
namespace V4l2Capture.Pipeline

open Camera Protocol Receiver Transition

variable {cfg : PipelineConfig} {camera : CameraDevice} {s s' : PipelineState cfg}

/-! ### What is sent was checked -/

/-- The frame passes the checks of `send_frame_over_tcp`. -/
def Sendable (frame : Frame) : Prop :=
  frame.data.length ≤ 0xFFFFFFFF ∧ frame.captureTimestampNs ≠ 0

/-- Every frame that has a byte on the wire was checked before. -/
structure SentChecked (s : Sender) : Prop where
  sent : ∀ frame ∈ s.sent, Sendable frame
  sending : ∀ frame phase call, s.ctl = .sending frame phase call → Sendable frame
  current : ∀ frame k, s.current = some (frame, k) → 0 < k → Sendable frame

namespace SentChecked

variable {s : Sender}

/-- The sender goes on or gives up, with the same frame in hand. -/
theorem keeps (checked : SentChecked s) (ctl : SenderCtl) (todo : List Op)
    (sending : ∀ frame phase call, ctl = .sending frame phase call → Sendable frame) :
    SentChecked { s with ctl := ctl, todo := todo } :=
  ⟨checked.sent, sending, checked.current⟩

theorem afterPayload (checked : SentChecked s) {frame : Frame} (sendable : Sendable frame)
    (tcpSent : Nat) (outcome : TcpIo.SendOutcome) :
    SentChecked (s.afterPayload frame tcpSent outcome) := by
  cases outcome with
  | running call =>
    refine checked.keeps _ s.todo fun other phase call' same => ?_
    cases same
    exact sendable
  | returned =>
    refine ⟨fun other member => ?_, fun _ _ _ sending => (by cases sending),
      fun _ _ current => (by cases current)⟩
    rcases List.mem_append.mp member with earlier | last
    · exact checked.sent other earlier
    · rwa [List.mem_singleton.mp last]
  | timeout what => exact checked.keeps _ _ (by simp)
  | cancelled what => exact checked.keeps _ _ (by simp)
  | failed what => exact checked.keeps _ _ (by simp)

theorem afterHeader (checked : SentChecked s) {frame : Frame} (sendable : Sendable frame)
    (deadline tcpSent : Nat) (outcome : TcpIo.SendOutcome) :
    SentChecked (s.afterHeader frame deadline tcpSent outcome) := by
  cases outcome with
  | running call =>
    refine checked.keeps _ s.todo fun other phase call' same => ?_
    cases same
    exact sendable
  | returned => exact checked.afterPayload sendable tcpSent _
  | timeout what => exact checked.keeps _ _ (by simp)
  | cancelled what => exact checked.keeps _ _ (by simp)
  | failed what => exact checked.keeps _ _ (by simp)

theorem step {shared shared' : Shared cfg} {s' : Sender} (checked : SentChecked s)
    (inv : SenderInv cfg shared s) (step : SenderStep cfg shared s shared' s') :
    SentChecked s' := by
  cases step with
  | producing => exact checked.keeps _ s.todo (by simp)
  | consumerDone => exact checked.keeps _ s.todo (by simp)
  | drained => exact checked.keeps _ s.todo (by simp)
  | left => exact checked.keeps _ s.todo (by simp)
  | waited => exact checked.keeps _ s.todo (by simp)
  -- A frame that was just taken out has no byte on the wire.
  | popped _ frame ring pop =>
    refine ⟨checked.sent, fun _ _ _ sending => (by cases sending), fun other k here some => ?_⟩
    cases here
    exact absurd some (Nat.lt_irrefl 0)
  | begun frame at_begin now =>
    rw [Sender.beginFrame]
    split
    · exact checked.keeps _ _ (by simp)
    next wire made =>
      obtain ⟨small, stamped, _⟩ := (wireHeaderToSend_ok_iff frame wire).mp made
      exact checked.afterHeader ⟨small, stamped⟩ _ _ _
  | sent frame phase call at_sending event stops bytes outcome taken =>
    have sendable := checked.sending frame phase call at_sending
    have place := inv.place
    rw [at_sending] at place
    obtain ⟨_, _, current⟩ := place
    have accepted : SentChecked (s.accept bytes) := by
      refine ⟨checked.sent, checked.sending, fun other k here _ => ?_⟩
      rw [Sender.accept, current] at here
      cases here
      exact sendable
    cases phase with
    | header => exact accepted.afterHeader sendable _ _ _
    | payload => exact accepted.afterPayload sendable _ _

end SentChecked

theorem sentChecked_initial (cfg : PipelineConfig) : SentChecked (Sender.initial cfg) := by
  refine ⟨by simp [Sender.initial], fun frame phase call sending => ?_, by simp [Sender.initial]⟩
  rw [Sender.initial] at sending
  split at sending <;> cases sending

theorem reachable_sentChecked (reached : Reachable cfg camera s) : SentChecked s.sender := by
  refine invariant (fun t => SentChecked t.sender) (sentChecked_initial cfg) ?_ reached
  intro t action t' before checked step
  cases PipelineState.step_cases step with
  | senderAccess op rest next => exact checked.keeps _ rest checked.sending
  | sender idle shared sender taken => exact checked.step (reachable_inv before).sender taken
  | _ => exact checked

/-! ### Frames of a receiver -/

/-- The limits of a receiver, which the pipeline does not check. -/
structure FitsReceiver (maxPayloadBytes : UInt32) (frame : Frame) : Prop where
  width : frame.width ≤ kMaxDimension
  height : frame.height ≤ kMaxDimension
  payload : frame.data.length ≤ maxPayloadBytes.toNat
  yuyv : frame.pixelFormat = V4L2_PIX_FMT_YUYV → frame.width.toNat % 2 = 0 ∧
    frame.data.length = frame.width.toNat * frame.height.toNat * 2

instance (maxPayloadBytes : UInt32) (frame : Frame) :
    Decidable (FitsReceiver maxPayloadBytes frame) :=
  decidable_of_iff (frame.width ≤ kMaxDimension ∧ frame.height ≤ kMaxDimension ∧
      frame.data.length ≤ maxPayloadBytes.toNat ∧
      (frame.pixelFormat = V4L2_PIX_FMT_YUYV → frame.width.toNat % 2 = 0 ∧
        frame.data.length = frame.width.toNat * frame.height.toNat * 2))
    ⟨fun ⟨w, h, p, y⟩ => ⟨w, h, p, y⟩, fun ⟨w, h, p, y⟩ => ⟨w, h, p, y⟩⟩

variable {maxPayloadBytes : UInt32} {frame : Frame}

theorem payloadSize_exact (sendable : Sendable frame) :
    (frameHeader frame).payloadSize.toNat = frame.data.length := by
  have small := sendable.1
  show (UInt32.ofNat frame.data.length).toNat = _
  rw [UInt32.toNat_ofNat']
  exact Nat.mod_eq_of_lt (by omega)

/-- Of the usable frames that are sent, the receiver accepts the headers of those that fit. -/
theorem frameHeader_accepted_iff (usable : isFrameUsable frame = true) (sendable : Sendable frame) :
    validateHeader (frameHeader frame) maxPayloadBytes = .ok () ↔
      FitsReceiver maxPayloadBytes frame := by
  obtain ⟨_, nonempty, ⟨width, height, format⟩, _⟩ := (isFrameUsable_iff frame).mp usable
  have size := payloadSize_exact sendable
  have some : (frameHeader frame).payloadSize ≠ 0 := by
    intro zero
    rw [zero] at size
    exact nonempty (List.eq_nil_of_length_eq_zero size.symm)
  rw [validateHeader_ok_iff]
  constructor
  · intro accepted
    refine ⟨accepted.bounded.1, accepted.bounded.2, ?_, fun isYuyv => ?_⟩
    · rw [← size]
      exact accepted.payload.2
    · rw [← size]
      exact accepted.yuyv isYuyv
  · intro fits
    refine ⟨rfl, rfl, rfl, sendable.2, ⟨width, height⟩, ⟨fits.width, fits.height⟩, format,
      ⟨some, ?_⟩, fun isYuyv => ?_⟩
    · rw [UInt32.le_iff_toNat_le, size]
      exact fits.payload
    · rw [size]
      exact fits.yuyv isYuyv

/-- A usable, checked frame that fits, as a frame of the protocol; its checksum is right. -/
theorem exists_wireFrame (usable : isFrameUsable frame = true) (sendable : Sendable frame)
    (fits : FitsReceiver maxPayloadBytes frame) :
    ∃ wired : WireFrame maxPayloadBytes, wired.delivered = (frameHeader frame, frame.data) ∧
      wired.intact = true ∧ wired.encode = encodeFrame frame :=
  ⟨⟨frameHeader frame, frame.data, (frameHeader_accepted_iff usable sendable).mpr fits,
    (payloadSize_exact sendable).symm⟩, rfl, beq_self_eq_true _, rfl⟩

theorem exists_wireFrames {frames : List Frame}
    (usable : ∀ frame ∈ frames, isFrameUsable frame = true)
    (sendable : ∀ frame ∈ frames, Sendable frame)
    (fits : ∀ frame ∈ frames, FitsReceiver maxPayloadBytes frame) :
    ∃ wired : List (WireFrame maxPayloadBytes),
      wired.map WireFrame.delivered = frames.map (fun frame => (frameHeader frame, frame.data)) ∧
      (∀ frame ∈ wired, frame.intact = true) ∧
      Protocol.encodeFrames wired = encodeFrames frames := by
  induction frames with
  | nil => exact ⟨[], rfl, by simp, rfl⟩
  | cons frame frames ih =>
    obtain ⟨first, delivered, intact, bytes⟩ := exists_wireFrame (usable frame (by simp))
      (sendable frame (by simp)) (fits frame (by simp))
    obtain ⟨rest, delivered', intact', bytes'⟩ := ih
      (fun other member => usable other (List.mem_cons_of_mem _ member))
      (fun other member => sendable other (List.mem_cons_of_mem _ member))
      (fun other member => fits other (List.mem_cons_of_mem _ member))
    refine ⟨first :: rest, by rw [List.map_cons, List.map_cons, delivered, delivered'], ?_, ?_⟩
    · intro other member
      rcases List.mem_cons.mp member with rfl | later
      · exact intact
      · exact intact' other later
    · rw [Protocol.encodeFrames, List.flatMap_cons, bytes, ← Protocol.encodeFrames, bytes',
        encodeFrames, encodeFrames, List.flatMap_cons]

/-! ### Streams -/

theorem encodeFrame_wireBytes (frame : Frame) :
    encodeFrame frame = wireBytes (frameHeader frame) ++ frame.data := by
  rw [encodeFrame, serializeHeader_toList]

/-- How a receiver leaves in front of a frame that does not fit. -/
theorem exitSpec_unfit {rc : ReceiverConfig} (n : Nat) (usable : isFrameUsable frame = true)
    (sendable : Sendable frame) (unfit : ¬ FitsReceiver rc.maxPayloadBytes frame)
    (rest : List UInt8) :
    ∃ exit, ExitSpec rc n exit (wireBytes (frameHeader frame) ++ rest) ∧ exit.status = 3 := by
  cases invalid : validateHeader (frameHeader frame) rc.maxPayloadBytes with
  | ok _ => exact absurd ((frameHeader_accepted_iff usable sendable).mp invalid) unfit
  | error reason => exact ⟨_, .headerInvalid _ reason rest invalid, rfl⟩

/-- The frames in front of the first one that does not fit. -/
def PipelineState.received (s : PipelineState cfg) (maxPayloadBytes : UInt32) : List Frame :=
  s.sender.sent.takeWhile fun frame => decide (FitsReceiver maxPayloadBytes frame)

/-- What the sender has begun is usable. -/
theorem popped_usable (inv : PipelineInv s) : ∀ frame ∈ s.sender.popped,
    frame ∈ s.producer.captured ∧ isFrameUsable frame = true := by
  intro frame member
  exact List.mem_filter.mp ((sender_order inv).subset member)

/-- The bytes behind the frames that were sent whole, up to where a receiver leaves. -/
theorem cut_left {rc : ReceiverConfig} (unlimited : rc.maxFrames = 0) (inv : PipelineInv s)
    (checked : SentChecked s.sender) (n : Nat) :
    ∃ exit, ExitSpec rc n exit s.sender.cut ∧ (exit.status = 0 ∨ exit.status = 3) ∧
      ((∀ frame ∈ s.sender.popped, FitsReceiver rc.maxPayloadBytes frame) →
        exit.status = 0) := by
  have closed : ∀ bytes : List UInt8, bytes.length < kWireHeaderSize →
      ExitSpec rc n .headerClosed bytes :=
    fun bytes short => .headerClosed (roomForFrames_unlimited unlimited n) short
  rw [Sender.cut]
  cases current : s.sender.current with
  | none => exact ⟨_, closed [] (by decide), .inl rfl, fun _ => rfl⟩
  | some held =>
    obtain ⟨frame, k⟩ := held
    show ∃ exit, ExitSpec rc n exit ((encodeFrame frame).take k) ∧ _
    have began : frame ∈ s.sender.popped := by rw [inv.sender.popped, current]; simp
    have usable := (popped_usable inv frame began).2
    rcases Nat.lt_or_ge k kWireHeaderSize with within | behind
    · refine ⟨_, closed _ ?_, .inl rfl, fun _ => rfl⟩
      rw [List.length_take]
      omega
    -- The whole header is on the wire, and not all of the frame.
    · have sendable := checked.current frame k current (Nat.lt_of_lt_of_le (by decide) behind)
      have partly : k < (encodeFrame frame).length := by
        rcases cut_spec inv with empty | ⟨other, _, strict, popped⟩
        · rw [Sender.cut, current] at empty
          have length := congrArg List.length empty
          have header : 0 < kWireHeaderSize := by decide
          rw [List.length_take, encodeFrame_length, List.length_nil] at length
          omega
        · have same : other = frame := by
            have shape := inv.sender.popped
            rw [current, popped] at shape
            exact (List.cons.inj (List.append_cancel_left shape)).1
          rw [Sender.cut, current, same] at strict
          simp only [List.length_take] at strict
          omega
      by_cases fits : FitsReceiver rc.maxPayloadBytes frame
      · obtain ⟨wired, _, _, bytes⟩ := exists_wireFrame usable sendable fits
        rw [← bytes] at partly ⊢
        obtain ⟨exit, spec, status⟩ := exitSpec_partial unlimited n wired partly
        exact ⟨exit, spec, .inl status, fun _ => status⟩
      · have shape : (encodeFrame frame).take k =
            wireBytes (frameHeader frame) ++ frame.data.take (k - kWireHeaderSize) := by
          rw [encodeFrame_wireBytes, List.take_append, wireBytes_length,
            List.take_of_length_le (by rw [wireBytes_length]; exact behind)]
        obtain ⟨exit, spec, status⟩ := exitSpec_unfit n usable sendable fits _
        rw [shape]
        exact ⟨exit, spec, .inr status, fun all => absurd (all frame began) fits⟩

/-- The stream of a run of the pipeline, read by the receiver. -/
theorem stream_of_run {rc : ReceiverConfig} (unlimited : rc.maxFrames = 0) (inv : PipelineInv s)
    (checked : SentChecked s.sender) :
    ∃ (wired : List (WireFrame rc.maxPayloadBytes)) (tail : List UInt8) (exit : SessionExit),
      s.sender.wire = Protocol.encodeFrames wired ++ tail ∧
      (∀ frame ∈ wired, frame.intact = true) ∧
      wired.map WireFrame.delivered =
        (s.received rc.maxPayloadBytes).map (fun frame => (frameHeader frame, frame.data)) ∧
      ExitSpec rc 0 exit tail ∧ (exit.status = 0 ∨ exit.status = 3) ∧
      (s.received rc.maxPayloadBytes ≠ s.sender.sent → exit.status = 3) ∧
      ((∀ frame ∈ s.sender.popped, FitsReceiver rc.maxPayloadBytes frame) →
        exit.status = 0 ∧ s.received rc.maxPayloadBytes = s.sender.sent) := by
  have began : ∀ frame ∈ s.sender.sent, frame ∈ s.sender.popped := by
    intro frame member
    rw [inv.sender.popped]
    exact List.mem_append_left _ member
  have usable : ∀ frame ∈ s.sender.sent, isFrameUsable frame = true :=
    fun frame member => (popped_usable inv frame (began frame member)).2
  have part : ∀ frame ∈ s.received rc.maxPayloadBytes, frame ∈ s.sender.sent :=
    fun frame member => (List.takeWhile_prefix _).subset member
  obtain ⟨wired, delivered, intact, bytes⟩ := exists_wireFrames
    (fun frame member => usable frame (part frame member))
    (fun frame member => checked.sent frame (part frame member))
    (fun frame member => by
      rw [PipelineState.received] at member
      simpa using List.mem_takeWhile_imp member)
  have split : s.received rc.maxPayloadBytes ++
      s.sender.sent.dropWhile (fun frame => decide (FitsReceiver rc.maxPayloadBytes frame)) =
        s.sender.sent := List.takeWhile_append_dropWhile
  cases rest : s.sender.sent.dropWhile
      (fun frame => decide (FitsReceiver rc.maxPayloadBytes frame)) with
  | nil =>
    rw [rest, List.append_nil] at split
    obtain ⟨exit, spec, status, clean⟩ := cut_left unlimited inv checked 0
    refine ⟨wired, s.sender.cut, exit, ?_, intact, delivered, spec, status,
      fun differ => absurd split differ, fun all => ⟨clean all, split⟩⟩
    rw [bytes, split]
    exact inv.sender.wire
  -- The first frame that does not fit is rejected by its header.
  | cons bad behind =>
    have member : bad ∈ s.sender.sent := by rw [← split, rest]; simp
    have unfit : ¬ FitsReceiver rc.maxPayloadBytes bad := by
      have head := List.head_dropWhile_not
        (fun frame => decide (FitsReceiver rc.maxPayloadBytes frame)) (l := s.sender.sent)
        (by rw [rest]; simp)
      simpa [rest] using head
    obtain ⟨exit, spec, status⟩ := exitSpec_unfit 0 (usable bad member)
      (checked.sent bad member) unfit (bad.data ++ (encodeFrames behind ++ s.sender.cut))
    refine ⟨wired, _, exit, ?_, intact, delivered, spec, .inr status, fun _ => status,
      fun all => absurd (all bad (began bad member)) unfit⟩
    have whole : encodeFrames s.sender.sent = encodeFrames (s.received rc.maxPayloadBytes) ++
        (encodeFrame bad ++ encodeFrames behind) := by
      conv => lhs; rw [← split, rest]
      simp [encodeFrames]
    rw [inv.sender.wire, whole, bytes, encodeFrame_wireBytes]
    simp only [List.append_assoc]

theorem encodeFrames_length (frames : List Frame) : (encodeFrames frames).length =
    (frames.map fun frame => frame.data.length).sum + kWireHeaderSize * frames.length := by
  induction frames with
  | nil => rfl
  | cons frame frames ih =>
    rw [encodeFrames, List.flatMap_cons, List.length_append, ← encodeFrames, ih,
      encodeFrame_length, List.map_cons, List.sum_cons, List.length_cons, Nat.mul_succ]
    omega

/-- At any moment of any run of the pipeline, a receiver of the bytes on the wire counts the
frames in front of the first one that it cannot take; each of them was captured, usable and
arrives once and in order, no checksum fails, and if all captured frames are within its limits
the two sides count the same. -/
theorem pipeline_received (rc : ReceiverConfig) (env : ReceiverEnv) (conn : Connection)
    (unlimited : rc.maxFrames = 0) (single : rc.maxSessions = 1)
    (reached : Reachable cfg camera s) (reliable : Socket.Reliable conn)
    (carried : Socket.contents conn = s.sender.wire) :
    (s.received rc.maxPayloadBytes).Sublist (s.producer.captured.filter isFrameUsable) ∧
    ((∃ st status, acceptLoop rc env {} [.connected conn] = .finished st ∧
        exitStatus none (.finished st) = some status ∧
        st.accepted = (s.received rc.maxPayloadBytes).map (fun frame =>
          (frameHeader frame, frame.data)) ∧
        st.receivedFrames = (s.received rc.maxPayloadBytes).length ∧ st.crcErrors = 0 ∧
        (status = 0 ∨ status = 3) ∧
        (s.received rc.maxPayloadBytes ≠ s.sender.sent → status = 3) ∧
        ((∀ frame ∈ s.producer.captured, isFrameUsable frame = true →
            FitsReceiver rc.maxPayloadBytes frame) →
          status = 0 ∧ (s.sender.todo = [] →
            st.receivedFrames = s.shared.stats .tcpSent ∧
            st.receivedBytes + kWireHeaderSize * st.receivedFrames =
              s.shared.stats .tcpSentBytes))) ∨
      ∃ message, acceptLoop rc env {} [.connected conn] = .threw message ∧
        rc.savePayloads = true ∧ ∃ index, env.saveFails index = some message) := by
  have inv := reachable_inv reached
  obtain ⟨wired, tail, exit, stream, intact, delivered, spec, status, unfit, fit⟩ :=
    stream_of_run unlimited inv (reachable_sentChecked reached)
  constructor
  · have order := sender_order inv
    rw [inv.sender.popped] at order
    exact ((List.takeWhile_prefix _).sublist.trans (List.sublist_append_left _ _)).trans order
  rcases acceptLoop_stream env unlimited single reliable (carried.trans stream) intact spec with
    ⟨st, finished, served⟩ | threw
  · rw [delivered] at served
    have frames := served.receivedFrames
    have bytes := served.receivedBytes
    rw [List.length_map] at frames
    rw [List.map_map] at bytes
    refine .inl ⟨st, exit.status, finished, exitStatus_served served, served.accepted, frames, ?_,
      status, unfit, fun all => ?_⟩
    · rw [served.crcErrors]
      rcases status with zero | three
      · rw [zero]; rfl
      · rw [three]; rfl
    · obtain ⟨clean, whole⟩ := fit fun frame member =>
        all frame (popped_usable inv frame member).1 (popped_usable inv frame member).2
      refine ⟨clean, fun idle => ?_⟩
      have sent := inv.sender.sent
      have sentBytes := inv.sender.bytes
      rw [idle, adds_nil, Nat.add_zero] at sent sentBytes
      rw [whole] at frames bytes
      refine ⟨frames.trans sent.symm, ?_⟩
      rw [sentBytes, encodeFrames_length, bytes, frames]
      rfl
  · exact .inr threw

/-- One frame is captured, sent and counted on both sides. -/
theorem pipeline_received_small : ∃ (s : PipelineState smallConfig) (st : ReceiverState),
    Reachable smallConfig smallCamera s ∧
      acceptLoop oneSession calmEnv {} [.connected (byteByByte s.sender.wire)] = .finished st ∧
      st.receivedFrames = 1 ∧ exitStatus none (.finished st) = some 0 := by
  obtain ⟨s, reached, one, fits⟩ : ∃ s, Reachable smallConfig smallCamera s ∧
      (s.received oneSession.maxPayloadBytes).length = 1 ∧
        ∀ frame ∈ s.producer.captured, isFrameUsable frame = true →
          FitsReceiver oneSession.maxPayloadBytes frame :=
    exists_reached (captureOne ++ beginOne ++ sendOne) (by decide +kernel)
  obtain ⟨_, ⟨st, status, finished, code, _, received, _, _, _, clean⟩ | ⟨_, _, _, _, fails⟩⟩ :=
    pipeline_received oneSession calmEnv _ rfl rfl reached
      (byteByByte_reliable _) (byteByByte_contents _)
  · rw [(clean fits).1] at code
    exact ⟨s, st, reached, finished, received.trans one, code⟩
  · cases fails

end V4l2Capture.Pipeline
