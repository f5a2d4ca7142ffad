import V4l2Capture.Library.History
import V4l2Capture.Pipeline.Run

/-!
# Failures of the capture path

Which failures of a capture reach the recovery policy. A buffer that was dequeued and can
not be queued again is reported by an exception that is not classified, and the producer
ends without asking the policy (`capture_failures_handled_iff`).
-/
namespace V4l2Capture.Pipeline

open Camera History Transition

variable {cfg : PipelineConfig} {s s' : Shared cfg} {p p' : Producer}

/-- A failed capture is classified and the policy is asked about it right away. -/
def Answered (event : ProducerEvent) (rest : List ProducerEvent) : Prop :=
  ∀ result, event = .captureFailed result → ∃ error more,
    result = .captureError error ∧ rest = .policyAsked error.kind :: more

/-- The attempts of the last rebuild are used up where the producer gives up on it. -/
def Spent (limits : RecoveryLimits) (stop : Bool) (p : Producer) : Prop :=
  match p.ctl with
  | .rebuildFailed _ => stop = true ∨ limits.maxRecoveryAttempts ≤ p.recovery.recoveryAttempts
  | .recoveryExhausted => limits.maxRecoveryAttempts ≤ p.recovery.recoveryAttempts
  | .finished .exhausted => limits.maxRecoveryAttempts ≤ p.recovery.recoveryAttempts
  | _ => True

/-- Every capture was made on a ready device, and its buffer was queued again. -/
def Producer.Sound (p : Producer) : Prop :=
  ∀ capture ∈ p.captures, capture.1.Ready ∧ ¬ RequeueFails capture.1 capture.2

structure CaptureInv (cfg : PipelineConfig) (s : Shared cfg) (p : Producer) : Prop where
  logged : ∀ capture ∈ p.captures, capture.1.Ready → RequeueFails capture.1 capture.2 →
    ∃ message, .captureFailed (.runtimeError message) ∈ p.log
  answered : p.Sound → Since p.log Answered
  ends : p.Sound → cfg.cameraRecoveryEnabled = true →
    p.ctl ≠ .finished .captureFailure ∧ p.ctl ≠ .finished .unclassified
  spent : Spent cfg.limits s.stopRequested p

theorem CaptureInv.initial (cfg : PipelineConfig) (camera : CameraDevice) :
    CaptureInv cfg (Shared.initial cfg) { camera := camera } where
  logged := nofun
  answered _ := since_nil _
  ends _ _ := ⟨nofun, nofun⟩
  spent := trivial

theorem Spent.mono {limits : RecoveryLimits} {stop stop' : Bool} (spent : Spent limits stop p)
    (stays : stop = true → stop' = true) : Spent limits stop' p := by
  unfold Spent at spent ⊢
  split
  next => rename_i at_failed; rw [at_failed] at spent; exact spent.imp_left stays
  all_goals simp_all

theorem CaptureInv.untouched (inv : CaptureInv cfg s p) (same : Untouched .producer s s') :
    CaptureInv cfg s' p :=
  { inv with spent := inv.spent.mono same.stop }

theorem CaptureInv.exec {op : Op} {rest : List Op} (inv : CaptureInv cfg s p) :
    CaptureInv cfg (op.exec s) { p with todo := rest } :=
  { inv with spent := (inv.spent.mono (exec_raises s op).2.2.2 : Spent _ _ p) }

/-- Other events can follow. -/
theorem Answered.concat {event : ProducerEvent} {rest : List ProducerEvent}
    (answered : Answered event rest) (last : ProducerEvent) : Answered event (rest ++ [last]) := by
  intro result shape
  obtain ⟨error, more, classified, rfl⟩ := answered result shape
  exact ⟨error, more ++ [last], classified, rfl⟩

theorem answered_append {log notes : List ProducerEvent} (since : Since log Answered)
    (all : ∀ event ∈ notes, ∀ result, event ≠ .captureFailed result) :
    Since (log ++ notes) Answered := by
  induction notes generalizing log with
  | nil => rwa [List.append_nil]
  | cons event notes ih =>
    obtain ⟨other, others⟩ := List.forall_mem_cons.mp all
    rw [List.append_cons]
    refine ih ?_ others
    rw [since_concat]
    exact ⟨fun result shape => absurd shape (other result),
      since.imp fun _ _ answered => answered.concat event⟩

/-- A classified failure and the question to the policy. -/
theorem answered_error {log : List ProducerEvent} (since : Since log Answered)
    (error : CameraCaptureError) :
    Since (log ++ [.captureFailed (.captureError error), .policyAsked error.kind])
      Answered := by
  rw [List.append_cons, since_concat, since_concat]
  refine ⟨nofun, ?_, since.imp fun _ _ answered => (answered.concat _).concat _⟩
  rintro _ ⟨⟩
  exact ⟨error, [], rfl, rfl⟩

/-- A step that captures nothing. -/
theorem CaptureInv.move (inv : CaptureInv cfg s p) (captures : p'.captures = p.captures)
    (notes : List ProducerEvent) (log : p'.log = p.log ++ notes)
    (all : ∀ event ∈ notes, ∀ result, event ≠ .captureFailed result)
    (ends : p'.ctl ≠ .finished .captureFailure ∧ p'.ctl ≠ .finished .unclassified)
    (spent : Spent cfg.limits s.stopRequested p') : CaptureInv cfg s p' where
  logged capture member ready requeue := by
    rw [captures] at member
    obtain ⟨message, found⟩ := inv.logged capture member ready requeue
    rw [log]
    exact ⟨message, List.mem_append_left _ found⟩
  answered sound := by
    rw [log]
    refine answered_append (inv.answered ?_) all
    rw [Producer.Sound, ← captures]
    exact sound
  ends _ _ := ends
  spent := spent

/-- What a capture leaves in the history. -/
theorem afterCalls_history (cfg : PipelineConfig) (p : Producer) (calls : CaptureCalls) :
    (p.afterCalls cfg calls).captures = p.captures ++ [(p.camera, calls)] ∧
      ∃ notes, (∀ event ∈ notes, ∀ result, event ≠ .captureFailed result) ∧
        (p.afterCalls cfg calls).log = p.log ++
          match captureFrameCopy p.camera calls with
          | .frame _ => notes
          | .captureError error =>
            [.captureFailed (.captureError error), .policyAsked error.kind] ++ notes
          | .runtimeError message => [.captureFailed (.runtimeError message)] := by
  rw [Producer.afterCalls]
  cases captureFrameCopy p.camera calls with
  -- A frame is noted, and the rebuild that it may start.
  | frame frame =>
    refine ⟨rfl, _, ?_, rfl⟩
    intro event member result failed
    subst failed
    simp only [List.mem_cons, reduceCtorEq, false_or] at member
    split at member <;> simp at member
  | captureError error =>
    simp only [Producer.afterCaptureError]
    split
    · exact ⟨rfl, [], by simp, by simp⟩
    split
    · exact ⟨rfl, [], by simp, by simp [Producer.fail]⟩
    · exact ⟨rfl, [.rebuildStarted false], by simp, by simp⟩
  | runtimeError message => exact ⟨rfl, [], by simp, rfl⟩

/-- Where a classified capture leads. -/
theorem afterCalls_ctl (cfg : PipelineConfig) (p : Producer) (calls : CaptureCalls)
    (classified : (captureFrameCopy p.camera calls).isClassified = true) :
    (p.afterCalls cfg calls).ctl = .loopHead ∨
      (∃ byInvalid, (p.afterCalls cfg calls).ctl = .rebuildHead byInvalid) ∨
      (p.afterCalls cfg calls).ctl = .finished .captureFailure ∧
        cfg.cameraRecoveryEnabled = false := by
  rw [Producer.afterCalls]
  cases result : captureFrameCopy p.camera calls with
  | frame frame =>
    simp only [Producer.afterCapture]
    split
    · exact .inr (.inl ⟨_, rfl⟩)
    · exact .inl rfl
  | captureError error =>
    simp only [Producer.afterCaptureError]
    split
    · exact .inl rfl
    split
    next disabled => exact .inr (.inr ⟨rfl, disabled⟩)
    · exact .inr (.inl ⟨_, rfl⟩)
  | runtimeError message => rw [result] at classified; cases classified

theorem spent_afterCalls (cfg : PipelineConfig) (stop : Bool) (p : Producer)
    (calls : CaptureCalls) :
    Spent cfg.limits stop (p.afterCalls cfg calls) := by
  cases result : captureFrameCopy p.camera calls with
  | runtimeError message =>
    rw [Producer.afterCalls, result]
    exact trivial
  | _ =>
    rcases afterCalls_ctl cfg p calls (by rw [result]; rfl) with ctl | ⟨_, ctl⟩ | ⟨ctl, _⟩ <;>
      (rw [Spent, ctl]; exact trivial)

/-- A capture. -/
theorem CaptureInv.capture (inv : CaptureInv cfg s p) (calls : CaptureCalls) :
    CaptureInv cfg s (p.afterCalls cfg calls) := by
  obtain ⟨captures, notes, all, log⟩ := afterCalls_history cfg p calls
  have earlier : (p.afterCalls cfg calls).Sound → p.Sound := fun sound capture member =>
    sound capture (by rw [captures]; exact List.mem_append_left _ member)
  have classified : (p.afterCalls cfg calls).Sound →
      (captureFrameCopy p.camera calls).isClassified = true := fun sound => by
    obtain ⟨ready, requeued⟩ := sound (p.camera, calls) (by rw [captures]; simp)
    exact (captureFrameCopy_classified_iff _ _ ready).mpr requeued
  exact {
    logged := fun capture member ready requeue => by
      rw [captures] at member
      rw [log]
      rcases List.mem_append.mp member with old | new
      · obtain ⟨message, found⟩ := inv.logged capture old ready requeue
        exact ⟨message, List.mem_append_left _ found⟩
      · cases List.mem_singleton.mp new
        -- A buffer that cannot be queued again makes this capture an unclassified failure.
        have unclassified :=
          mt (captureFrameCopy_classified_iff _ _ ready).mp (not_not.mpr requeue)
        cases result : captureFrameCopy p.camera calls with
        | runtimeError message => exact ⟨message, List.mem_append_right _ List.mem_cons_self⟩
        | _ => rw [result] at unclassified; exact absurd rfl unclassified
    answered := fun sound => by
      have since := inv.answered (earlier sound)
      have handled := classified sound
      rw [log]
      cases result : captureFrameCopy p.camera calls with
      | frame frame => exact answered_append since all
      | captureError error =>
        simp only
        rw [← List.append_assoc]
        exact answered_append (answered_error since error) all
      | runtimeError message => rw [result] at handled; cases handled
    ends := fun sound enabled => by
      rcases afterCalls_ctl cfg p calls (classified sound) with ctl | ⟨_, ctl⟩ | ⟨_, disabled⟩
      · rw [ctl]; exact ⟨nofun, nofun⟩
      · rw [ctl]; exact ⟨nofun, nofun⟩
      · rw [disabled] at enabled; cases enabled
    spent := spent_afterCalls cfg _ p calls }

/-- An attempt that is refused finds the attempts used up. -/
theorem spent_beginAttempt (cfg : PipelineConfig) (stop : Bool) (p : Producer) (byInvalid : Bool) :
    Spent cfg.limits stop (p.beginAttempt cfg byInvalid) := by
  rw [Producer.beginAttempt, CaptureRecoveryController.beginRecoveryAttempt]
  split
  next spent => exact .inr spent
  next => exact trivial

theorem CaptureInv.control (inv : CaptureInv cfg s p)
    (step : ProducerStep cfg s.stopRequested p p') : CaptureInv cfg s p' := by
  have same : p.log = p.log ++ [] := (List.append_nil _).symm
  have spent := inv.spent
  cases step with
  | complete => exact inv.move rfl [] same (by simp) (by simp [Producer.finish]) trivial
  | stopped => exact inv.move rfl [] same (by simp) (by simp [Producer.finish]) trivial
  | again => exact inv.move rfl [] same (by simp) (by simp) trivial
  | captured at_capture calls => exact inv.capture calls
  | attempt byInvalid =>
    have spent := spent_beginAttempt cfg s.stopRequested p byInvalid
    rw [Producer.beginAttempt] at spent ⊢
    split at spent
    next begun =>
      rw [if_pos begun]
      exact inv.move rfl [.rebuildAttempt byInvalid] rfl (by simp) (by simp) spent
    next refused =>
      rw [if_neg refused]
      exact inv.move rfl [] same (by simp) (by simp) spent
  | interrupted byInvalid _ stopping =>
    exact inv.move rfl [] same (by simp) (by simp) (.inl stopping)
  | slept => exact inv.move rfl [] same (by simp) (by simp) trivial
  | sleeping => exact inv
  | rebuilt byInvalid =>
    exact inv.move rfl [.rebuilt byInvalid] rfl (by simp) (by simp [Producer.afterRebuild]) trivial
  | openFailed =>
    exact inv.move rfl [] same (by simp) (by simp [Producer.afterOpenFailure]) trivial
  | givenUp => exact inv.move rfl [] same (by simp) (by simp) trivial
  | exhausted byInvalid at_failed running =>
    -- Without a stop the rebuild was given up because no attempt was left.
    rw [Spent, at_failed] at spent
    exact inv.move rfl [] same (by simp) (by simp) (spent.resolve_left (by simp [running]))
  | thrown at_exhausted =>
    rw [Spent, at_exhausted] at spent
    exact inv.move rfl [] same (by simp) (by simp [Producer.fail]) spent

/-! ### Failures and the end of the producer -/

/-- Every failed capture was classified and put to the recovery policy, and the producer
ends only behind the last frame, for a stop, or when a rebuild used up its attempts. -/
structure PipelineState.FailuresHandled (s : PipelineState cfg) : Prop where
  answered : ∀ before result after, s.producer.log = before ++ .captureFailed result :: after →
    ∃ error more, result = .captureError error ∧ after = .policyAsked error.kind :: more
  ends : ∀ reason, s.producer.ctl = .finished reason →
    (reason = .frameCount ∧ s.producer.produced = cfg.frameCount) ∨
    (reason = .stopped ∧ s.shared.stopRequested = true) ∨
    (reason = .exhausted ∧
      cfg.limits.maxRecoveryAttempts ≤ s.producer.recovery.recoveryAttempts)

theorem reachable_captureInv {camera : CameraDevice} {s : PipelineState cfg}
    (reached : Reachable cfg camera s) : CaptureInv cfg s.shared s.producer :=
  producer_invariant (CaptureInv cfg) (CaptureInv.initial cfg camera)
    (fun _ _ _ inv same => inv.untouched same) (fun _ _ _ _ inv _ => inv.exec)
    (fun _ _ _ inv _ step => inv.control step) reached

/-- A run whose captures all queue their buffers again handles every failure. -/
theorem failuresHandled_of_sound {camera : CameraDevice} {s : PipelineState cfg}
    (reached : Reachable cfg camera s) (enabled : cfg.cameraRecoveryEnabled = true)
    (sound : s.producer.Sound) : s.FailuresHandled where
  answered before result after shape :=
    (reachable_captureInv reached).answered sound _ after ⟨before, shape.symm⟩ result rfl
  ends reason finished := by
    have inv := reachable_captureInv reached
    have producer := (reachable_inv reached).producer
    obtain ⟨classified, unclassified⟩ := inv.ends sound enabled
    have spent := inv.spent
    rw [Spent, finished] at spent
    cases reason with
    | frameCount => exact .inl ⟨rfl, producer.all finished⟩
    | stopped => exact .inr (.inl ⟨rfl, producer.stopped finished⟩)
    | exhausted => exact .inr (.inr ⟨rfl, spent⟩)
    | captureFailure => exact absurd finished classified
    | unclassified => exact absurd finished unclassified

/-- Captures on ready devices return a frame or a classified error, and with recovery
enabled every failure is handled, exactly when no dequeued buffer fails to be queued
again. -/
theorem capture_failures_handled_iff {camera : CameraDevice} {s : PipelineState cfg}
    (reached : Reachable cfg camera s) (enabled : cfg.cameraRecoveryEnabled = true)
    (ready : ∀ capture ∈ s.producer.captures, capture.1.Ready) :
    (∀ (device : CameraDevice) (calls : CaptureCalls), device.Ready →
      ((captureFrameCopy device calls).isClassified = true ↔ ¬ RequeueFails device calls)) ∧
    (s.FailuresHandled ↔
      ∀ capture ∈ s.producer.captures, ¬ RequeueFails capture.1 capture.2) := by
  refine ⟨captureFrameCopy_classified_iff, fun handled capture member requeue => ?_,
    fun sound => ?_⟩
  -- A failure of that kind stands in the log unclassified, so it is not handled.
  · obtain ⟨message, found⟩ :=
      (reachable_captureInv reached).logged capture member (ready capture member) requeue
    obtain ⟨before, after, shape⟩ := List.append_of_mem found
    obtain ⟨error, more, classified, _⟩ := handled.answered before _ after shape
    cases classified
  · exact failuresHandled_of_sound reached enabled fun capture member =>
      ⟨ready capture member, sound capture member⟩

/-- The device disappears before `VIDIOC_DQBUF`. -/
def unpluggedEarly : CaptureCalls := { smallCapture 4 with dqbuf := .error ENODEV }

/-- The device disappears between `VIDIOC_DQBUF` and `VIDIOC_QBUF`. -/
def unpluggedLate : CaptureCalls := { smallCapture 4 with qbuf := some ENODEV }

theorem smallCamera_ready : smallCamera.Ready := ⟨rfl, rfl, by decide⟩

theorem capture_failures_handled_early :
    ∃ s : PipelineState smallConfig, Reachable smallConfig smallCamera s ∧
      s.producer.captures ≠ [] ∧ s.FailuresHandled := by
  obtain ⟨s, reached, captures⟩ : ∃ s, Reachable smallConfig smallCamera s ∧
      s.producer.captures = [(smallCamera, unpluggedEarly)] :=
    ⟨_, reaches_of_run (show run PipelineState.step _
      [.producer .go, .producer (.captured unpluggedEarly)] = some _ from rfl), rfl⟩
  refine ⟨s, reached, by simp [captures], (capture_failures_handled_iff reached rfl ?_).2.mpr ?_⟩
  · simp [captures, smallCamera_ready]
  · rw [captures]
    intro capture member
    rw [List.mem_singleton.mp member]
    rintro ⟨_, ⟨_, _, dequeued, _⟩, _⟩
    cases dequeued

/-- The late failure is not classified, and the producer ends without any question to the
recovery policy. -/
theorem capture_failure_unclassified :
    (¬ ∀ (device : CameraDevice) (calls : CaptureCalls), device.Ready →
      (captureFrameCopy device calls).isClassified = true) ∧
    ∃ s : PipelineState smallConfig, Reachable smallConfig smallCamera s ∧
      s.producer.ctl = .finished .unclassified ∧
      ∀ kind, .policyAsked kind ∉ s.producer.log := by
  constructor
  · intro always
    have classified := always smallCamera unpluggedLate smallCamera_ready
    revert classified
    decide +kernel
  · refine ⟨_, reaches_of_run (show run PipelineState.step _
      [.producer .go, .producer (.captured unpluggedLate)] = some _ from rfl), rfl, ?_⟩
    intro kind member
    cases List.mem_singleton.mp member

end V4l2Capture.Pipeline
