import V4l2Capture.Pipeline.Run

/-!
# What the TCP connection carries

The accepted bytes of a run are the encodings of whole frames and at most the beginning of
one more, which stays the end of the stream (`wire_frames`).
-/
namespace V4l2Capture.Pipeline

open Camera DropQueue Transition

variable {cfg : PipelineConfig} {camera : CameraDevice} {s s' : PipelineState cfg}

/-- The sender has left its loop, or was never started. -/
structure PipelineState.SenderEnded (s : PipelineState cfg) : Prop where
  ctl : s.sender.ctl.isFinished = true
  todo : s.sender.todo = []

instance (s : PipelineState cfg) : Decidable s.SenderEnded :=
  decidable_of_iff (s.sender.ctl.isFinished = true ∧ s.sender.todo = [])
    ⟨fun ⟨ctl, todo⟩ => ⟨ctl, todo⟩, fun ⟨ctl, todo⟩ => ⟨ctl, todo⟩⟩

/-- A sender that has ended takes no further step. -/
theorem PipelineStep.sender_eq (step : PipelineStep s s') (ended : s.SenderEnded) :
    s'.sender = s.sender := by
  cases step with
  | senderAccess op rest next => rw [ended.todo] at next; cases next
  | sender idle shared sender step =>
    have finished := ended.ctl
    cases ctl : s.sender.ctl with
    | finished reason => exact absurd ctl (step.running reason)
    | _ => rw [ctl] at finished; cases finished
  | _ => rfl

theorem sender_stays (ended : s.SenderEnded) (later : Reaches PipelineState.step s s') :
    s'.sender = s.sender := by
  refine invariant (fun t => t.sender = s.sender) rfl (fun t _ t' _ same step => ?_) later
  have still : t.SenderEnded := ⟨by rw [same]; exact ended.ctl, by rw [same]; exact ended.todo⟩
  rw [(PipelineState.step_cases step).sender_eq still, same]

/-- The frames that the consumer took out are captured ones, in capture order. -/
theorem consumer_order (inv : PipelineInv s) :
    s.consumer.popped.Sublist s.producer.captured :=
  ((List.sublist_append_left _ _).trans (List.sublist_append_left _ _)).trans inv.ring.order

/-- The frames that the sender took out are usable captured ones, in capture order. -/
theorem sender_order (inv : PipelineInv s) :
    s.sender.popped.Sublist (s.producer.captured.filter isFrameUsable) := by
  have passed : s.consumer.passed.Sublist (s.consumer.popped.filter isFrameUsable) :=
    (List.sublist_append_left _ _).trans inv.consumer.order
  have handedOn : s.handedOn.Sublist s.consumer.passed := by
    rw [PipelineState.handedOn]
    split
    · exact List.Sublist.refl _
    · exact List.nil_sublist _
  -- Each queue may drop frames, but keeps the order of the others.
  have popped : s.sender.popped.Sublist s.handedOn :=
    ((List.sublist_append_left _ _).trans (List.sublist_append_left _ _)).trans inv.tcpRing.order
  exact (popped.trans handedOn).trans (passed.trans ((consumer_order inv).filter _))

/-- The frame in hand is one more of them, and not all of it is on the wire. -/
theorem cut_spec (inv : PipelineInv s) :
    s.sender.cut = [] ∨ ∃ frame, s.sender.cut <+: encodeFrame frame ∧
      s.sender.cut.length < (encodeFrame frame).length ∧
      s.sender.popped = s.sender.sent ++ [frame] := by
  have popped := inv.sender.popped
  have place := inv.sender.place
  rw [Sender.cut]
  cases current : s.sender.current with
  | none => exact .inl rfl
  | some held =>
    obtain ⟨frame, k⟩ := held
    rw [current] at popped place
    refine .inr ⟨frame, List.take_prefix _ _, ?_, popped⟩
    -- Wherever the sender has a frame in hand, some of it is still to be accepted.
    have partly : k < (encodeFrame frame).length := by
      cases ctl : s.sender.ctl with
      | begin other =>
        rw [ctl] at place
        cases place
        rw [encodeFrame_length]
        exact Nat.lt_of_lt_of_le (by decide : 0 < Protocol.kWireHeaderSize) (Nat.le_add_right _ _)
      | sending other phase call =>
        rw [ctl] at place
        obtain ⟨data, more, same⟩ := place
        cases same
        have within := phase.within frame
        rw [data] at more
        omega
      | finished reason =>
        rw [ctl] at place
        cases reason with
        | failed => obtain ⟨_, _, same, partly⟩ := place; cases same; exact partly
        | cancelled => obtain ⟨_, _, same, partly⟩ := place; cases same; exact partly
        | _ => cases place
      | _ => rw [ctl] at place; cases place
    rw [List.length_take]
    omega

/-- A sender that has ended behind part of a frame recorded why. -/
theorem cut_recorded (inv : PipelineInv s) (ended : s.SenderEnded) (cut : s.sender.cut ≠ []) :
    0 < s.shared.stats .tcpSendErrors + s.shared.stats .tcpSendTimeouts +
      s.shared.stats .tcpSendCancellations := by
  have errors := inv.sender.errors
  have cancellations := inv.sender.cancellations
  have place := inv.sender.place
  rw [ended.todo, adds_nil, Nat.add_zero] at errors cancellations
  have finished := ended.ctl
  have nothing : s.sender.current = none → False := fun none => cut (by rw [Sender.cut, none])
  cases ctl : s.sender.ctl with
  | finished reason =>
    rw [ctl] at place errors cancellations
    cases reason with
    | failed => rw [errors, if_pos rfl]; omega
    | cancelled => rw [cancellations, if_pos rfl]; omega
    | drained => exact (nothing place).elim
    | disabled => exact (nothing place).elim
  | _ => rw [ctl] at finished; cases finished

/-- In every state of every run the connection carries whole frames, counted while the
sender makes no access, and a strict part of one further frame; that part is only left
there with an error, a timeout or a cancellation on record, and nothing follows it. -/
theorem wire_frames (reached : Reachable cfg camera s) :
    ∃ (sent : List Frame) (cut : List UInt8), s.sender.wire = encodeFrames sent ++ cut ∧
      sent.Sublist (s.producer.captured.filter isFrameUsable) ∧
      (cut = [] ∨ ∃ frame, cut <+: encodeFrame frame ∧ cut.length < (encodeFrame frame).length ∧
        (sent ++ [frame]).Sublist (s.producer.captured.filter isFrameUsable)) ∧
      (s.sender.todo = [] → s.shared.stats .tcpSent = sent.length ∧
        s.shared.stats .tcpSentBytes = (encodeFrames sent).length) ∧
      (s.SenderEnded → (cut ≠ [] → 0 < s.shared.stats .tcpSendErrors +
          s.shared.stats .tcpSendTimeouts + s.shared.stats .tcpSendCancellations) ∧
        ∀ s', Reaches PipelineState.step s s' → s'.sender.wire = s.sender.wire) := by
  have inv := reachable_inv reached
  have order := sender_order inv
  refine ⟨s.sender.sent, s.sender.cut, inv.sender.wire, ?_, ?_, fun idle => ?_, fun ended => ?_⟩
  · rw [inv.sender.popped] at order
    exact (List.sublist_append_left _ _).trans order
  · rcases cut_spec inv with empty | ⟨frame, start, strict, popped⟩
    · exact .inl empty
    · rw [popped] at order
      exact .inr ⟨frame, start, strict, order⟩
  · have sent := inv.sender.sent
    have bytes := inv.sender.bytes
    rw [idle, adds_nil, Nat.add_zero] at sent bytes
    exact ⟨sent, bytes⟩
  · exact ⟨cut_recorded inv ended, fun s' later => by rw [sender_stays ended later]⟩

/-- A connection that breaks within a header carries the beginning of it for good. -/
theorem wire_frames_broken :
    ∃ s : PipelineState smallConfig, Reachable smallConfig smallCamera s ∧ s.SenderEnded ∧
      s.sender.wire.length = 10 ∧
      ∀ s', Reaches PipelineState.step s s' → s'.sender.wire = s.sender.wire := by
  obtain ⟨s, reached, ended, part⟩ : ∃ s, Reachable smallConfig smallCamera s ∧ s.SenderEnded ∧
      s.sender.wire.length = 10 :=
    exists_reached (captureOne ++ beginOne ++ breakOne) (by decide +kernel)
  obtain ⟨_, _, _, _, _, _, final⟩ := wire_frames reached
  exact ⟨s, reached, ended, part, (final ended).2⟩

end V4l2Capture.Pipeline
