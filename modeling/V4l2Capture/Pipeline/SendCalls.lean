import V4l2Capture.Pipeline.Run
import V4l2Capture.Pipeline.SendUntil

/-!
# The sender's calls

The sender thread makes its calls of `send_all_until` step by step, between the steps of the
other threads. `reachable_send_run` says that the call in hand is at every moment one that a
run of `send_all_until` alone leads to, so that what holds of these runs holds of the pipeline.
-/
namespace V4l2Capture.Pipeline

open Camera (CameraDevice)
open TcpIo Transition

/-- A run of `send_all_until` with the default poll slice has come to this call. -/
def InRun (strerror : Camera.Errno → String) (data : List UInt8) (call : SendCall) : Prop :=
  ∃ run, Reaches (SendRun.step strerror kPollSliceMs) ⟨SendCall.start data call.deadline, []⟩ run ∧
    run.outcome = .running call

/-- The call that an outcome goes on with, if it does, is in a run. -/
def GoesOn (strerror : Camera.Errno → String) (data : List UInt8) (outcome : SendOutcome) : Prop :=
  ∀ call, outcome = .running call → InRun strerror data call

section Calls

variable {strerror : Camera.Errno → String} {data : List UInt8} {call : SendCall}

theorem goesOn_start (data : List UInt8) (deadline : Nat) :
    GoesOn strerror data (SendCall.start data deadline) := by
  intro call running
  rcases start_spec data deadline with ⟨_, started, _, same, _⟩ | ⟨returned, _⟩
  · rw [started] at running
    cases running
    subst same
    exact ⟨_, .refl, started⟩
  · rw [returned] at running
    cases running

theorem InRun.onItsWay (inRun : InRun strerror data call) :
    ∃ run, Reaches (SendRun.step strerror kPollSliceMs)
        ⟨SendCall.start data call.deadline, []⟩ run ∧
      run.outcome = .running call ∧ run.Sound data call.deadline kPollSliceMs ∧
      OnItsWay data call.deadline kPollSliceMs run call := by
  obtain ⟨run, reached, running⟩ := inRun
  have inv : SendInv data call.deadline kPollSliceMs run := send_runs (by decide) reached
  exact ⟨run, reached, running, inv.sound, inv.onItsWay call running⟩

/-- A step of the sender's call is the next step of the run. -/
theorem InRun.step {event : SendEvent} {bytes : List UInt8} {outcome : SendOutcome}
    (inRun : InRun strerror data call)
    (step : call.step strerror event = some (bytes, outcome)) :
    GoesOn strerror data outcome := by
  rintro call' rfl
  obtain ⟨run, reached, running, _, onItsWay⟩ := inRun.onItsWay
  have more : call.sent < call.data.length := by
    rw [onItsWay.data_eq]
    exact onItsWay.more
  obtain ⟨_, same, _⟩ := step_spec more step
  have next : run.step strerror kPollSliceMs event =
      some ⟨.running call', run.moments ++ [call.moment event]⟩ := by
    rw [SendRun.step, running]
    dsimp only
    rw [stepWithin_default, step]
    rfl
  rw [← same] at reached
  exact ⟨_, reached.tail ⟨event, next⟩, rfl⟩

end Calls

/-! ### The sender thread -/

variable {cfg : PipelineConfig}

/-- The call in hand is in a run on its part of the frame. -/
def Sender.CallInRun (strerror : Camera.Errno → String) (s : Sender) : Prop :=
  ∀ frame phase call, s.ctl = .sending frame phase call → InRun strerror (phase.data frame) call

theorem callInRun_afterPayload {strerror : Camera.Errno → String} (s : Sender) (frame : Frame)
    (tcpSent : Nat) {outcome : SendOutcome} (goesOn : GoesOn strerror frame.data outcome) :
    (s.afterPayload frame tcpSent outcome).CallInRun strerror := by
  intro frame' phase call at_sending
  cases outcome with
  | running next =>
    cases at_sending
    exact goesOn call rfl
  | returned | timeout | cancelled | failed => cases at_sending

theorem callInRun_afterHeader {strerror : Camera.Errno → String} (s : Sender) (frame : Frame)
    (deadline tcpSent : Nat) {outcome : SendOutcome}
    (goesOn : GoesOn strerror (Phase.header.data frame) outcome) :
    (s.afterHeader frame deadline tcpSent outcome).CallInRun strerror := by
  cases outcome with
  | running next =>
    intro frame' phase call at_sending
    cases at_sending
    exact goesOn next rfl
  -- The payload is sent by a call of its own.
  | returned => exact callInRun_afterPayload s frame tcpSent (goesOn_start frame.data deadline)
  | timeout | cancelled | failed =>
    intro frame' phase call at_sending
    cases at_sending

theorem callInRun_beginFrame (s : Sender) (frame : Frame) (tcpSent now : Nat) :
    (s.beginFrame cfg frame tcpSent now).CallInRun cfg.strerror := by
  rw [Sender.beginFrame]
  split
  next =>
    intro frame' phase call at_sending
    cases at_sending
  next wire serialized =>
    obtain ⟨_, _, rfl⟩ := (wireHeaderToSend_ok_iff frame wire).mp serialized
    exact callInRun_afterHeader s frame _ tcpSent (goesOn_start _ _)

theorem SenderStep.callInRun {shared shared' : Shared cfg} {s s' : Sender}
    (step : SenderStep cfg shared s shared' s') (inRun : s.CallInRun cfg.strerror) :
    s'.CallInRun cfg.strerror := by
  cases step with
  | begun frame _ now => exact callInRun_beginFrame s frame _ now
  | sent frame phase call at_sending event _ bytes outcome step =>
    have goesOn := (inRun frame phase call at_sending).step step
    cases phase with
    | header => exact callInRun_afterHeader (s.accept bytes) frame call.deadline _ goesOn
    | payload => exact callInRun_afterPayload (s.accept bytes) frame _ goesOn
  | producing | consumerDone | drained | left | popped | waited =>
    intro frame phase call at_sending
    cases at_sending

theorem reachable_callInRun {camera : CameraDevice} {s : PipelineState cfg}
    (reached : Reachable cfg camera s) : s.sender.CallInRun cfg.strerror := by
  refine invariant (fun s => s.sender.CallInRun cfg.strerror) ?_ ?_ reached
  · intro frame phase call at_sending
    cases enabled : cfg.tcpEnabled <;> simp [PipelineState.initial, Sender.initial, enabled]
      at at_sending
  · intro s action s' _ inRun step
    cases PipelineState.step_cases step with
    | sender _ shared sender taken => exact taken.callInRun inRun
    | producerAccess | producer | consumerAccess | consumer | senderAccess => exact inRun

/-- In every reachable state, the kernel has taken of the part in hand what the call has counted,
and no `send` or `poll` of it went out unchecked: the call is one that a run of `send_all_until`
has come to. -/
theorem reachable_send_run {camera : CameraDevice} {s : PipelineState cfg}
    (reached : Reachable cfg camera s) {frame : Frame} {phase : Phase} {call : SendCall}
    (at_sending : s.sender.ctl = .sending frame phase call) :
    ∃ run, Reaches (SendRun.step cfg.strerror kPollSliceMs)
        ⟨SendCall.start (phase.data frame) call.deadline, []⟩ run ∧
      run.outcome = .running call ∧ run.accepted = (phase.data frame).take call.sent ∧
      run.Sound (phase.data frame) call.deadline kPollSliceMs := by
  have inRun := reachable_callInRun reached frame phase call at_sending
  obtain ⟨run, reaches, running, sound, onItsWay⟩ := inRun.onItsWay
  exact ⟨run, reaches, running, onItsWay.accepted, sound⟩

end V4l2Capture.Pipeline
