import V4l2Capture.Pipeline.Wire
import V4l2Capture.Stats.Latency

/-!
# The latencies of a run

A run of the pipeline with the steady clock that its threads read. The consumer records a
latency for every frame that it takes out of the ring buffer, the sender one for every frame
that it has sent whole. The clock is never set back, so no sample is refused
(`reachable_timedInv`).
-/
namespace V4l2Capture.Pipeline

open Camera Stats Transition

variable {cfg : PipelineConfig} {camera : CameraDevice}

/-- `elapsed_microseconds` of two readings in nanoseconds, as an exact rational. -/
def elapsedMicroseconds (start stop : Nat) : Double := .finite (((stop : ℚ) - start) / 1000)

/-- The samples for frames that have come to their point of measurement. -/
def addLatencies (nowNs : Nat) (samples : LatencyStats) (frames : List Frame) : LatencyStats :=
  frames.foldl (fun samples frame =>
    addSampleUs samples (elapsedMicroseconds frame.hostReceiveTimeNs nowNs)) samples

/-- The pipeline, the reading of `start_time`, the last reading and the samples. -/
structure TimedState (cfg : PipelineConfig) where
  pipeline : PipelineState cfg
  startNs : Nat
  nowNs : Nat
  captureToConsumer : LatencyStats := []
  captureToSend : LatencyStats := []

def TimedState.initial (cfg : PipelineConfig) (camera : CameraDevice) (startNs : Nat) :
    TimedState cfg where
  pipeline := PipelineState.initial cfg camera
  startNs := startNs
  nowNs := startNs

/-- A capture reads the clock before its step is over. -/
def Action.ReadsBy (nowNs : Nat) : Action → Prop
  | .producer (.captured calls) => calls.steadyTimeNs ≤ nowNs
  | _ => True

instance (nowNs : Nat) : DecidablePred (Action.ReadsBy nowNs) := fun action => by
  unfold Action.ReadsBy
  split <;> infer_instance

/-- One step of the pipeline, and the reading of the clock in it. -/
def TimedState.step (t : TimedState cfg) : Action × Nat → Option (TimedState cfg)
  | (action, nowNs) =>
    if t.nowNs ≤ nowNs ∧ action.ReadsBy nowNs then
      (t.pipeline.step action).map fun pipeline =>
        { t with
          pipeline := pipeline
          nowNs := nowNs
          captureToConsumer := addLatencies nowNs t.captureToConsumer
            (pipeline.consumer.popped.drop t.pipeline.consumer.popped.length)
          captureToSend := addLatencies nowNs t.captureToSend
            (pipeline.sender.sent.drop t.pipeline.sender.sent.length) }
    else none

/-- The states of all runs, with all readings of a clock that is never set back. -/
abbrev TimedReachable (cfg : PipelineConfig) (camera : CameraDevice) (startNs : Nat)
    (t : TimedState cfg) : Prop :=
  Reaches TimedState.step (TimedState.initial cfg camera startNs) t

variable {t t' : TimedState cfg} {startNs : Nat}

theorem TimedState.step_cases {action : Action} {nowNs : Nat}
    (step : t.step (action, nowNs) = some t') :
    t.nowNs ≤ nowNs ∧ action.ReadsBy nowNs ∧ t.pipeline.step action = some t'.pipeline ∧
      t'.nowNs = nowNs ∧
      t'.captureToConsumer = addLatencies nowNs t.captureToConsumer
        (t'.pipeline.consumer.popped.drop t.pipeline.consumer.popped.length) ∧
      t'.captureToSend = addLatencies nowNs t.captureToSend
        (t'.pipeline.sender.sent.drop t.pipeline.sender.sent.length) := by
  simp only [TimedState.step] at step
  split at step
  next clock =>
    obtain ⟨pipeline, taken, rfl⟩ := Option.map_eq_some_iff.mp step
    exact ⟨clock.1, clock.2, taken, rfl, rfl, rfl⟩
  · cases step

/-- The readings restrict the runs in no way that concerns the pipeline. -/
theorem TimedReachable.pipeline (reached : TimedReachable cfg camera startNs t) :
    Reachable cfg camera t.pipeline := by
  induction reached with
  | refl => exact .refl
  | tail before last ih =>
    obtain ⟨⟨action, nowNs⟩, step⟩ := last
    obtain ⟨_, _, taken, _⟩ := TimedState.step_cases step
    exact ih.tail ⟨action, taken⟩

/-! ### What a sample measures -/

/-- The sample is the time from the receipt of the frame to a reading up to `nowNs`. -/
def Measures (nowNs : Nat) (frame : Frame) (sample : ℚ) : Prop :=
  ∃ readNs : Nat, frame.hostReceiveTimeNs ≤ readNs ∧ readNs ≤ nowNs ∧
    sample = ((readNs : ℚ) - frame.hostReceiveTimeNs) / 1000

theorem Measures.later {nowNs laterNs : Nat} {frame : Frame} {sample : ℚ}
    (measured : Measures nowNs frame sample) (later : nowNs ≤ laterNs) :
    Measures laterNs frame sample := by
  obtain ⟨readNs, received, read, same⟩ := measured
  exact ⟨readNs, received, read.trans later, same⟩

/-- The latency of a frame that was received before is not negative. -/
theorem addSampleUs_elapsed {nowNs : Nat} {frame : Frame}
    (received : frame.hostReceiveTimeNs ≤ nowNs) (samples : LatencyStats) :
    addSampleUs samples (elapsedMicroseconds frame.hostReceiveTimeNs nowNs) =
      samples ++ [((nowNs : ℚ) - frame.hostReceiveTimeNs) / 1000] := by
  have order : (frame.hostReceiveTimeNs : ℚ) ≤ nowNs := by exact_mod_cast received
  have nonneg : ¬ ((nowNs : ℚ) - frame.hostReceiveTimeNs) / 1000 < 0 :=
    not_lt.mpr (div_nonneg (sub_nonneg.mpr order) (by norm_num))
  rw [elapsedMicroseconds, addSampleUs, if_neg nonneg]

theorem addLatencies_measures {nowNs : Nat} {frames : List Frame} {samples : LatencyStats}
    (measured : List.Forall₂ (Measures nowNs) frames samples) (more : List Frame)
    (received : ∀ frame ∈ more, frame.hostReceiveTimeNs ≤ nowNs) :
    List.Forall₂ (Measures nowNs) (frames ++ more) (addLatencies nowNs samples more) := by
  induction more generalizing frames samples with
  | nil => rw [List.append_nil]; exact measured
  | cons frame more ih =>
    have before := received frame List.mem_cons_self
    have one : List.Forall₂ (Measures nowNs) (frames ++ [frame])
        (samples ++ [((nowNs : ℚ) - frame.hostReceiveTimeNs) / 1000]) :=
      List.rel_append measured (.cons ⟨nowNs, before, le_rfl, rfl⟩ .nil)
    have rest := ih one fun other member => received other (List.mem_cons_of_mem _ member)
    rw [List.append_assoc, List.singleton_append] at rest
    rw [addLatencies, List.foldl_cons, addSampleUs_elapsed before]
    exact rest

/-- What is new at the end of a list has been measured, if every frame of it was received. -/
theorem addLatencies_prefix {nowNs : Nat} {before after : List Frame} {samples : LatencyStats}
    (measured : List.Forall₂ (Measures nowNs) before samples) (grown : before <+: after)
    (received : ∀ frame ∈ after, frame.hostReceiveTimeNs ≤ nowNs) :
    List.Forall₂ (Measures nowNs) after
      (addLatencies nowNs samples (after.drop before.length)) := by
  obtain ⟨more, rfl⟩ := grown
  rw [List.drop_left]
  exact addLatencies_measures measured more fun frame member =>
    received frame (List.mem_append_right _ member)

/-! ### The frames that a step brings -/

theorem captureFrameCopy_received {device : CameraDevice} {calls : CaptureCalls} {frame : Frame}
    (captured : captureFrameCopy device calls = .frame frame) :
    frame.hostReceiveTimeNs = calls.steadyTimeNs := by
  unfold captureFrameCopy at captured
  repeat' split at captured
  all_goals cases captured
  rfl

theorem beginAttempt_captured (p : Producer) (byInvalid : Bool) :
    (p.beginAttempt cfg byInvalid).captured = p.captured := by
  rw [Producer.beginAttempt]
  split <;> rfl

theorem afterCalls_received {p : Producer} {calls : CaptureCalls} :
    ∀ frame ∈ (p.afterCalls cfg calls).captured, frame ∈ p.captured ∨
      frame.hostReceiveTimeNs = calls.steadyTimeNs := by
  intro frame member
  rw [Producer.afterCalls] at member
  split at member
  next captured result =>
    rcases List.mem_append.mp member with earlier | new
    · exact .inl earlier
    · rw [List.mem_singleton.mp new]
      exact .inr (captureFrameCopy_received result)
  next =>
    rw [Producer.afterCaptureError] at member
    split at member
    · exact .inl member
    · split at member <;> exact .inl member
  · exact .inl member

/-- Only a capture brings a frame, received when the capture read the clock. -/
theorem producerControl_received {shared : Shared cfg} {p p' : Producer} {input : ProducerInput}
    {nowNs : Nat} (step : producerControl cfg shared p input = some p')
    (reads : (Action.producer input).ReadsBy nowNs) :
    ∀ frame ∈ p'.captured, frame ∈ p.captured ∨ frame.hostReceiveTimeNs ≤ nowNs := by
  unfold producerControl at step
  split at step
  case h_2 calls at_capture =>
    cases step
    intro frame member
    exact (afterCalls_received frame member).imp_right fun same => same.trans_le reads
  all_goals
    refine fun frame member => .inl ?_
    repeat' split at step
    all_goals cases step
  all_goals first | exact member | exact beginAttempt_captured p _ ▸ member

theorem PipelineState.step_received {s s' : PipelineState cfg} {action : Action} {nowNs : Nat}
    (step : s.step action = some s') (reads : action.ReadsBy nowNs) :
    ∀ frame ∈ s'.producer.captured, frame ∈ s.producer.captured ∨
      frame.hostReceiveTimeNs ≤ nowNs := by
  cases action with
  | producer input =>
    simp only [PipelineState.step] at step
    split at step
    next =>
      obtain ⟨producer, taken, rfl⟩ := Option.map_eq_some_iff.mp step
      exact producerControl_received taken reads
    · cases step
  | producerAccess | consumerAccess | senderAccess =>
    simp only [PipelineState.step] at step
    split at step
    · cases step
    · cases step; exact fun _ => .inl
  | consumer input | sender input =>
    simp only [PipelineState.step] at step
    split at step
    · obtain ⟨_, _, rfl⟩ := Option.map_eq_some_iff.mp step
      exact fun _ => .inl
    · cases step

/-- The consumer takes frames out, and the sender sends them, one behind the other. -/
theorem PipelineStep.grows {s s' : PipelineState cfg} (step : PipelineStep s s') :
    s.consumer.popped <+: s'.consumer.popped ∧ s.sender.sent <+: s'.sender.sent := by
  cases step with
  | consumer idle shared consumer step =>
    refine ⟨?_, List.prefix_rfl⟩
    rcases step.pops with ⟨same, _⟩ | ⟨frame, _, more⟩
    · rw [same]
    · rw [more]; exact List.prefix_append _ _
  | sender idle shared sender step => exact ⟨List.prefix_rfl, step.sent_prefix⟩
  | _ => exact ⟨List.prefix_rfl, List.prefix_rfl⟩

/-! ### Every frame is measured once -/

structure TimedInv (t : TimedState cfg) : Prop where
  received : ∀ frame ∈ t.pipeline.producer.captured, frame.hostReceiveTimeNs ≤ t.nowNs
  toConsumer : List.Forall₂ (Measures t.nowNs) t.pipeline.consumer.popped t.captureToConsumer
  toSend : List.Forall₂ (Measures t.nowNs) t.pipeline.sender.sent t.captureToSend

theorem TimedInv.initial (cfg : PipelineConfig) (camera : CameraDevice) (startNs : Nat) :
    TimedInv (TimedState.initial cfg camera startNs) where
  received _ member := by cases member
  toConsumer := .nil
  toSend := .nil

theorem TimedInv.step {action : Action} {nowNs : Nat} (inv : TimedInv t)
    (pipeline : PipelineInv t'.pipeline) (step : t.step (action, nowNs) = some t') :
    TimedInv t' := by
  obtain ⟨order, reads, taken, now, toConsumer, toSend⟩ := TimedState.step_cases step
  obtain ⟨popped, sent⟩ := (PipelineState.step_cases taken).grows
  have received : ∀ frame ∈ t'.pipeline.producer.captured, frame.hostReceiveTimeNs ≤ nowNs := by
    intro frame member
    rcases PipelineState.step_received taken reads frame member with earlier | new
    · exact (inv.received frame earlier).trans order
    · exact new
  have sentCaptured : ∀ frame ∈ t'.pipeline.sender.sent,
      frame ∈ t'.pipeline.producer.captured := by
    intro frame member
    refine List.mem_of_mem_filter ((sender_order pipeline).subset ?_)
    rw [pipeline.sender.popped]
    exact List.mem_append_left _ member
  refine ⟨?_, ?_, ?_⟩
  · rw [now]
    exact received
  · rw [now, toConsumer]
    exact addLatencies_prefix (inv.toConsumer.imp fun _ _ measured => measured.later order) popped
      fun frame member => received frame ((consumer_order pipeline).subset member)
  · rw [now, toSend]
    exact addLatencies_prefix (inv.toSend.imp fun _ _ measured => measured.later order) sent
      fun frame member => received frame (sentCaptured frame member)

/-- In every state of every run there is one sample for each frame that the consumer took out
and one for each frame that was sent whole, and each is the time since the frame's receipt. -/
theorem reachable_timedInv (reached : TimedReachable cfg camera startNs t) : TimedInv t := by
  refine invariant TimedInv (TimedInv.initial cfg camera startNs)
    (fun t timed t' before inv step => ?_) reached
  have later : TimedReachable cfg camera startNs t' := before.tail ⟨timed, step⟩
  exact inv.step (reachable_inv later.pipeline) step

/-- Behind the join the two counters are the numbers of samples. -/
theorem ended_samples (reached : TimedReachable cfg camera startNs t) (ended : t.pipeline.Ended) :
    t.captureToConsumer.length = t.pipeline.shared.stats .consumed ∧
      t.captureToSend.length = t.pipeline.shared.stats .tcpSent := by
  have inv := reachable_inv reached.pipeline
  have timed := reachable_timedInv reached
  have consumed := inv.consumer.consumed
  have sent := inv.sender.sent
  rw [ended.consumerTodo, adds_nil, Nat.add_zero] at consumed
  rw [ended.senderTodo, adds_nil, Nat.add_zero] at sent
  exact ⟨timed.toConsumer.length_eq.symm.trans consumed.symm,
    timed.toSend.length_eq.symm.trans sent.symm⟩

end V4l2Capture.Pipeline
