import V4l2Capture.Pipeline.Run

/-!
# Accounting of the frames

What the counters of a run add up to when all threads have ended, in whatever order they
took their steps and whatever failed (`ended_accounted`), and what they are when
`run_pipeline` returns normally (`normal_return`).
-/
namespace V4l2Capture.Pipeline

open Camera DropQueue Transition

/-- The counters that are read off the queues after the join. -/
structure QueueCounters where
  captureDropped : Nat
  captureQueueRemaining : Nat
  tcpDropped : Nat
  tcpQueueRemaining : Nat
  deriving DecidableEq, Repr

variable {cfg : PipelineConfig}

def PipelineState.queueCounters (s : PipelineState cfg) : QueueCounters where
  captureDropped := s.shared.ring.droppedCount
  captureQueueRemaining := s.shared.ring.size
  tcpDropped := s.shared.tcpRing.droppedCount
  tcpQueueRemaining := s.shared.tcpRing.size

theorem toQueue_length {α : Type} {capacity : Nat} (b : RingBuffer α capacity) :
    b.toQueue.items.length = b.size := b.snapshot_length

section Ended

variable {camera : CameraDevice} {s : PipelineState cfg}

/-- The capture queue loses nothing but what it drops. -/
theorem captured_accounted (inv : PipelineInv s) (ended : s.Ended) :
    s.shared.stats .captured = s.shared.stats .consumed + s.queueCounters.captureDropped +
      s.queueCounters.captureQueueRemaining := by
  have captured := inv.producer.counted
  have consumed := inv.consumer.consumed
  have count := inv.ring.count
  rw [ended.producerTodo, adds_nil, Nat.add_zero] at captured
  rw [ended.consumerTodo, adds_nil, Nat.add_zero] at consumed
  rw [ended.producerTodo, ringPushes_nil, List.length_nil, toQueue_length] at count
  have dropped : s.shared.ring.toQueue.dropped = s.shared.ring.droppedCount := rfl
  simp only [PipelineState.queueCounters]
  omega

/-- A sender that has ended counted what became of every frame it took out. -/
theorem sender_accounted (inv : PipelineInv s) (ended : s.Ended) (enabled : cfg.tcpEnabled = true) :
    s.sender.popped.length = s.shared.stats .tcpSent + s.shared.stats .tcpSendErrors +
        s.shared.stats .tcpSendCancellations ∧
      s.shared.stats .tcpSendTimeouts ≤ s.shared.stats .tcpSendErrors ∧
      s.shared.stats .tcpSendErrors + s.shared.stats .tcpSendCancellations ≤ 1 := by
  have sent := inv.sender.sent
  have errors := inv.sender.errors
  have timeouts := inv.sender.timeouts
  have cancellations := inv.sender.cancellations
  rw [ended.senderTodo, adds_nil, Nat.add_zero] at sent errors timeouts cancellations
  have popped := congrArg List.length inv.sender.popped
  rw [List.length_append] at popped
  have place := inv.sender.place
  have started : s.sender.ctl ≠ .finished .disabled := fun disabled => by
    rw [inv.sender.disabled.mp disabled] at enabled
    cases enabled
  have finished := ended.sender
  cases ctl : s.sender.ctl with
  | finished reason =>
    rw [ctl] at place errors timeouts cancellations started
    cases reason with
    | disabled => exact absurd rfl started
    -- Nothing in hand: every frame taken out was sent.
    | drained =>
      have none : s.sender.current = none := place
      rw [none] at popped
      simp at popped errors timeouts cancellations
      omega
    -- The frame in hand is the one that was counted as an error or a cancellation.
    | failed =>
      obtain ⟨frame, k, current, _⟩ := place
      rw [current] at popped
      simp at popped errors timeouts cancellations
      omega
    | cancelled =>
      obtain ⟨frame, k, current, _⟩ := place
      rw [current] at popped
      simp at popped errors timeouts cancellations
      omega
  | _ => rw [ctl] at finished; cases finished

/-- The consumer counted every frame it took out, but for one that it could not save. -/
theorem consumed_accounted (inv : PipelineInv s) (ended : s.Ended) (enabled : cfg.tcpEnabled = true) :
    s.shared.stats .consumed = s.shared.stats .invalid + s.shared.stats .tcpQueued +
      (if s.consumer.ctl = .finished true then 1 else 0) := by
  have consumed := inv.consumer.consumed
  have invalid := inv.consumer.invalid
  have queued := inv.consumer.queued
  have flow := inv.consumer.flow
  rw [ended.consumerTodo, adds_nil, Nat.add_zero] at consumed invalid queued
  rw [if_pos enabled] at queued
  have finished := ended.consumer
  have held : s.consumer.ctl.held.length + s.consumer.ctl.lost =
      if s.consumer.ctl = .finished true then 1 else 0 := by
    cases ctl : s.consumer.ctl with
    | finished saveFailed => cases saveFailed <;> rfl
    | _ => rw [ctl] at finished; cases finished
  omega

/-- The TCP queue loses nothing but what it drops. -/
theorem tcpQueued_accounted (inv : PipelineInv s) (ended : s.Ended)
    (enabled : cfg.tcpEnabled = true) :
    s.shared.stats .tcpQueued = s.sender.popped.length + s.queueCounters.tcpDropped +
      s.queueCounters.tcpQueueRemaining := by
  have queued := inv.consumer.queued
  have count := inv.tcpRing.count
  rw [ended.consumerTodo, adds_nil, Nat.add_zero, if_pos enabled] at queued
  rw [ended.consumerTodo, tcpPushes_nil, List.length_nil, toQueue_length,
    PipelineState.handedOn, if_pos enabled] at count
  have dropped : s.shared.tcpRing.toQueue.dropped = s.shared.tcpRing.droppedCount := rfl
  simp only [PipelineState.queueCounters]
  omega

/-- When all threads have ended, no frame is lost or counted twice. -/
theorem ended_accounted (reached : Reachable cfg camera s) (ended : s.Ended) :
    s.shared.stats .captured = s.shared.stats .consumed + s.queueCounters.captureDropped +
        s.queueCounters.captureQueueRemaining ∧
      (cfg.tcpEnabled = true →
        s.shared.stats .tcpQueued = s.shared.stats .tcpSent + s.queueCounters.tcpDropped +
            s.queueCounters.tcpQueueRemaining + s.shared.stats .tcpSendErrors +
            s.shared.stats .tcpSendCancellations ∧
          s.shared.stats .tcpSendTimeouts ≤ s.shared.stats .tcpSendErrors ∧
          s.shared.stats .tcpSendErrors + s.shared.stats .tcpSendCancellations ≤ 1 ∧
          s.shared.stats .consumed = s.shared.stats .invalid + s.shared.stats .tcpQueued +
            (if s.consumer.ctl = .finished true then 1 else 0)) := by
  have inv := reachable_inv reached
  refine ⟨captured_accounted inv ended, fun enabled => ?_⟩
  obtain ⟨popped, timeouts, once⟩ := sender_accounted inv ended enabled
  have queued := tcpQueued_accounted inv ended enabled
  exact ⟨by omega, timeouts, once, consumed_accounted inv ended enabled⟩

/-- A run whose connection breaks within the header of its only frame. -/
theorem ended_accounted_broken :
    ∃ s : PipelineState smallConfig, Reachable smallConfig smallCamera s ∧ s.Ended ∧
      (s.shared.stats .captured = 1 ∧ s.shared.stats .consumed = 1 ∧
        s.queueCounters.captureDropped = 0 ∧ s.queueCounters.captureQueueRemaining = 0) ∧
      (s.shared.stats .tcpQueued = 1 ∧ s.shared.stats .tcpSent = 0 ∧
        s.queueCounters.tcpDropped = 0 ∧ s.queueCounters.tcpQueueRemaining = 0 ∧
        s.shared.stats .tcpSendErrors = 1 ∧ s.shared.stats .tcpSendTimeouts = 0 ∧
        s.shared.stats .tcpSendCancellations = 0) ∧
      s.shared.stats .tcpQueued = s.shared.stats .tcpSent + s.queueCounters.tcpDropped +
        s.queueCounters.tcpQueueRemaining + s.shared.stats .tcpSendErrors +
        s.shared.stats .tcpSendCancellations := by
  obtain ⟨s, reached, ended, captured, queued⟩ :
      ∃ s : PipelineState smallConfig, Reachable smallConfig smallCamera s ∧ s.Ended ∧
        (s.shared.stats .captured = 1 ∧ s.shared.stats .consumed = 1 ∧
          s.queueCounters.captureDropped = 0 ∧ s.queueCounters.captureQueueRemaining = 0) ∧
        (s.shared.stats .tcpQueued = 1 ∧ s.shared.stats .tcpSent = 0 ∧
          s.queueCounters.tcpDropped = 0 ∧ s.queueCounters.tcpQueueRemaining = 0 ∧
          s.shared.stats .tcpSendErrors = 1 ∧ s.shared.stats .tcpSendTimeouts = 0 ∧
          s.shared.stats .tcpSendCancellations = 0) :=
    exists_reached (captureOne ++ beginOne ++ breakOne) (by decide +kernel)
  exact ⟨s, reached, ended, captured, queued, ((ended_accounted reached ended).2 rfl).1⟩

/-- A stop is only requested together with an error that is rethrown. -/
theorem not_stopped (inv : PipelineInv s) (ended : s.Ended) (normal : s.runResult = .ok ()) :
    s.shared.producerError = none ∧ s.shared.consumerError = none ∧
      s.shared.stats .tcpSendErrors = 0 ∧ s.shared.stopRequested = false := by
  rw [PipelineState.runResult] at normal
  split at normal
  · cases normal
  next producerError =>
    split at normal
    · cases normal
    next consumerError =>
      split at normal
      · cases normal
      next errors =>
        refine ⟨producerError, consumerError, by omega, ?_⟩
        cases stop : s.shared.stopRequested with
        | false => rfl
        | true =>
          -- Each of the three that can request a stop left something to rethrow.
          rcases inv.stop stop with failed | failed | failed
          · have recorded := inv.producer.failed.mp failed
            simp [producerError, ended.producerTodo] at recorded
          · have recorded := inv.consumer.failed.mp failed
            simp [consumerError, ended.consumerTodo] at recorded
          · have recorded := inv.sender.errors
            rw [ended.senderTodo, failed, adds_nil, Nat.add_zero, if_pos rfl] at recorded
            omega

/-- Without a stop and without an error the producer captured all frames. -/
theorem producer_completed (inv : PipelineInv s) (ended : s.Ended)
    (running : s.shared.stopRequested = false) (noError : s.shared.producerError = none) :
    s.shared.stats .captured = cfg.frameCount := by
  have captured := inv.producer.counted
  have produced := inv.producer.produced
  rw [ended.producerTodo, adds_nil, Nat.add_zero] at captured
  have unfailed : s.producer.ctl.failed = false := by
    rw [Bool.eq_false_iff]
    intro failed
    have recorded := inv.producer.failed.mp failed
    simp [noError, ended.producerTodo] at recorded
  have finished := ended.producer
  cases ctl : s.producer.ctl with
  | finished reason =>
    rw [ctl] at unfailed
    cases reason with
    | frameCount => rw [captured, ← produced, inv.producer.all ctl]
    -- It leaves its loop for a stop only if one was requested.
    | stopped => rw [inv.producer.stopped ctl] at running; cases running
    | _ => cases unfailed
  | _ => rw [ctl] at finished; cases finished

/-- Without a stop and without an error the consumer emptied the ring. -/
theorem ring_emptied (inv : PipelineInv s) (ended : s.Ended)
    (running : s.shared.stopRequested = false) (noError : s.shared.consumerError = none) :
    s.consumer.ctl = .finished false ∧ s.shared.ring.empty = true := by
  have orderly : s.consumer.ctl = .finished false := by
    have finished := ended.consumer
    cases ctl : s.consumer.ctl with
    | finished saveFailed =>
      cases saveFailed with
      | false => rfl
      | true =>
        have recorded := inv.consumer.failed.mp ctl
        simp [noError, ended.consumerTodo] at recorded
    | _ => rw [ctl] at finished; cases finished
  refine ⟨orderly, ?_⟩
  rcases inv.drained orderly with stop | ⟨_, empty⟩
  · rw [stop] at running; cases running
  · exact s.shared.ring.empty_iff.mpr empty

/-- Without a stop and without an error the sender emptied the TCP queue, which stays empty
when there is no sender. -/
theorem tcpRing_emptied (inv : PipelineInv s) (ended : s.Ended)
    (running : s.shared.stopRequested = false) (noErrors : s.shared.stats .tcpSendErrors = 0) :
    s.sender.ctl ≠ .finished .cancelled ∧ s.shared.tcpRing.empty = true := by
  have uncancelled : s.sender.ctl ≠ .finished .cancelled := fun cancelled => by
    rw [inv.sender.cancelled cancelled] at running
    cases running
  refine ⟨uncancelled, s.shared.tcpRing.empty_iff.mpr ?_⟩
  have errors := inv.sender.errors
  rw [ended.senderTodo, adds_nil, Nat.add_zero] at errors
  have finished := ended.sender
  cases ctl : s.sender.ctl with
  | finished reason =>
    cases reason with
    | drained => exact (inv.tcpDrained ctl).2
    | failed => rw [ctl, if_pos rfl] at errors; omega
    | cancelled => exact absurd ctl uncancelled
    -- No sender: the consumer hands nothing on, so nothing was ever pushed.
    | disabled =>
      have count := inv.tcpRing.count
      have put : s.handedOn = [] := by simp [PipelineState.handedOn, inv.sender.disabled.mp ctl]
      rw [put, List.length_nil] at count
      exact List.eq_nil_of_length_eq_zero (by omega)
  | _ => rw [ctl] at finished; cases finished

/-- When `run_pipeline` returns normally, all frames were captured, the queues are empty
and nothing failed on the connection. -/
theorem normal_return (reached : Reachable cfg camera s) (ended : s.Ended)
    (normal : s.runResult = .ok ()) :
    s.shared.stats .captured = cfg.frameCount ∧
      s.shared.ring.empty = true ∧ s.shared.tcpRing.empty = true ∧
      s.shared.stats .captured = s.shared.stats .consumed + s.queueCounters.captureDropped ∧
      (cfg.tcpEnabled = true →
        s.shared.stats .consumed = s.shared.stats .invalid + s.shared.stats .tcpQueued ∧
          s.shared.stats .tcpQueued = s.shared.stats .tcpSent + s.queueCounters.tcpDropped ∧
          s.shared.stats .tcpSendErrors = 0 ∧ s.shared.stats .tcpSendTimeouts = 0 ∧
          s.shared.stats .tcpSendCancellations = 0) := by
  have inv := reachable_inv reached
  obtain ⟨noProducerError, noConsumerError, noErrors, running⟩ := not_stopped inv ended normal
  obtain ⟨orderly, ringEmpty⟩ := ring_emptied inv ended running noConsumerError
  obtain ⟨uncancelled, tcpEmpty⟩ := tcpRing_emptied inv ended running noErrors
  have remaining : s.queueCounters.captureQueueRemaining = 0 := decide_eq_true_iff.mp ringEmpty
  have tcpRemaining : s.queueCounters.tcpQueueRemaining = 0 := decide_eq_true_iff.mp tcpEmpty
  have captured := captured_accounted inv ended
  refine ⟨producer_completed inv ended running noProducerError, ringEmpty, tcpEmpty, by omega,
    fun enabled => ?_⟩
  obtain ⟨popped, timeouts, _⟩ := sender_accounted inv ended enabled
  have queued := tcpQueued_accounted inv ended enabled
  have consumed := consumed_accounted inv ended enabled
  have cancellations := inv.sender.cancellations
  rw [ended.senderTodo, adds_nil, Nat.add_zero, if_neg uncancelled] at cancellations
  rw [if_neg (by rw [orderly]; nofun)] at consumed
  exact ⟨by omega, by omega, noErrors, by omega, cancellations⟩

theorem normal_return_one :
    ∃ s : PipelineState smallConfig, Reachable smallConfig smallCamera s ∧ s.Ended ∧
      s.runResult = .ok () ∧ s.shared.stats .captured = 1 ∧ s.shared.stats .tcpSent = 1 := by
  obtain ⟨s, reached, ended, normal, sent⟩ : ∃ s, Reachable smallConfig smallCamera s ∧
      s.Ended ∧ s.runResult = .ok () ∧ s.shared.stats .tcpSent = 1 :=
    exists_reached (captureOne ++ beginOne ++ sendOne) (by decide +kernel)
  exact ⟨s, reached, ended, normal, (normal_return reached ended normal).1, sent⟩

end Ended

end V4l2Capture.Pipeline
