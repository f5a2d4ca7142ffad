import V4l2Capture.Pipeline.Shared

/-!
# The producer thread

Captures frames, pushes them into the ring buffer and rebuilds the camera when one of the
recovery policies asks for it. `Producer` is the thread with its local variables;
`producerControl` is what it does between its writing accesses, each call reading the
shared state at most once. `ProducerStep` lists what such a step can be.
-/
namespace V4l2Capture.Pipeline

open Camera

/-- Why the producer left its loop. -/
inductive ProducerEnd where
  | frameCount
  | stopped
  | exhausted
  | captureFailure
  | unclassified
  deriving DecidableEq, Repr

/-- Whether the loop was left by an exception. -/
def ProducerEnd.isError : ProducerEnd → Bool
  | .frameCount => false
  | .stopped => false
  | .exhausted => true
  | .captureFailure => true
  | .unclassified => true

/-- Where the producer is. The flag of a rebuild is `invalid_frame_trigger`. -/
inductive ProducerCtl where
  | loopHead
  | capture
  | rebuildHead (byInvalid : Bool)
  | rebuildSleep (byInvalid : Bool)
  | rebuildOpen (byInvalid : Bool)
  | rebuildFailed (byInvalid : Bool)
  | recoveryExhausted
  | finished (reason : ProducerEnd)
  deriving DecidableEq, Repr

/-- What the producer did, for the record. -/
inductive ProducerEvent where
  | captured (valid : Bool)
  | captureFailed (result : CaptureResult)
  /-- A call of `should_reinitialize`. -/
  | policyAsked (kind : CameraCaptureErrorKind)
  | rebuildStarted (byInvalid : Bool)
  | rebuildAttempt (byInvalid : Bool)
  | rebuilt (byInvalid : Bool)
  deriving DecidableEq, Repr

structure Producer where
  camera : CameraDevice
  recovery : CaptureRecoveryController := {}
  invalidFrames : InvalidFrameRecoveryController := {}
  produced : Nat := 0
  ctl : ProducerCtl := .loopHead
  todo : List Op := []
  /-- History: the frames captured, the captures attempted and the events. -/
  captured : List Frame := []
  captures : List (CameraDevice × CaptureCalls) := []
  log : List ProducerEvent := []

/-- What the system decides about a step of the producer. -/
inductive ProducerInput where
  | go
  | captured (calls : CaptureCalls)
  | slept (last : Bool)
  | opened (camera : CameraDevice)
  | openFailed (camera : CameraDevice) (message : String)

/-! ### The pieces of the loop body -/

/-- Leaving the loop by its condition. -/
def Producer.finish (p : Producer) (reason : ProducerEnd) : Producer :=
  { p with ctl := .finished reason, todo := [.setProducerDone] }

/-- Leaving the loop by an exception, behind the accesses that come first. -/
def Producer.fail (p : Producer) (reason : ProducerEnd) (first : List Op) (message : String) :
    Producer :=
  { p with
    ctl := .finished reason
    todo := first ++ [.setProducerError message, .requestStop, .setProducerDone] }

def decisionOps (cfg : PipelineConfig) : InvalidFrameDecision → List Op
  | .none => []
  | .recover =>
    if cfg.cameraRecoveryEnabled then [.add .cameraInvalidFrameRecoveries 1] else []
  | .suppressedByCooldown => [.add .cameraInvalidRecoverySuppressedCooldown 1]
  | .suppressedByBudget => [.add .cameraInvalidRecoverySuppressedBudget 1]

/-- The accesses that publish a captured frame. -/
def frameOps (frame : Frame) (peakInvalid : Nat) : List Op :=
  (if hasV4l2BufferError frame then [.add .cameraBufferErrorFrames 1] else []) ++
    (if isIncompleteYuyvFrame frame then [.add .cameraIncompleteFrames 1] else []) ++
    -- The frame is in the ring before it is counted.
    [.raisePeak peakInvalid, .pushRing frame, .add .captured 1]

/-- The `try` block behind a successful capture. -/
def Producer.afterCapture (cfg : PipelineConfig) (p : Producer) (frame : Frame) : Producer :=
  let valid := isFrameUsable frame
  let observed := p.invalidFrames.observe cfg.limits valid
  -- With recovery disabled the decision is only logged.
  let rebuild := observed.1 = .recover ∧ cfg.cameraRecoveryEnabled
  { p with
    recovery := p.recovery.onCaptureSuccess
    invalidFrames := observed.2
    produced := p.produced + 1
    ctl := if rebuild then .rebuildHead true else .loopHead
    todo := frameOps frame observed.2.peakInvalid ++ decisionOps cfg observed.1
    captured := p.captured ++ [frame]
    log := p.log ++ .captured valid :: if rebuild then [.rebuildStarted true] else [] }

def captureErrorCounter : CameraCaptureErrorKind → Counter
  | .timeout => .cameraCaptureTimeouts
  | .temporaryUnavailable => .cameraTemporaryUnavailable
  | _ => .cameraDeviceErrors

def captureErrorOps (error : CameraCaptureError) : List Op :=
  [.add (captureErrorCounter error.kind) 1,
    .setLastError ("camera capture error kind=" ++ cameraCaptureErrorKindName error.kind ++
      " errno=" ++ toString error.errorCode ++ ": " ++ error.message)]

/-- The `catch` block of `CameraCaptureError`. -/
def Producer.afterCaptureError (cfg : PipelineConfig) (p : Producer) (error : CameraCaptureError) :
    Producer :=
  let asked := p.recovery.shouldReinitialize cfg.limits error.kind
  let p : Producer := { p with
    recovery := asked.2
    log := p.log ++ [.captureFailed (.captureError error), .policyAsked error.kind] }
  if asked.1 = false then { p with ctl := .loopHead, todo := captureErrorOps error }
  else if cfg.cameraRecoveryEnabled = false then
    p.fail .captureFailure (captureErrorOps error) error.message
  else
    { p with
      ctl := .rebuildHead false
      todo := captureErrorOps error
      log := p.log ++ [.rebuildStarted false] }

/-- The outcome of a capture, in the `try` statement of the loop body. -/
def Producer.afterCalls (cfg : PipelineConfig) (p : Producer) (calls : CaptureCalls) : Producer :=
  let p : Producer := { p with captures := p.captures ++ [(p.camera, calls)] }
  match captureFrameCopy p.camera calls with
  | .frame frame => p.afterCapture cfg frame
  | .captureError error => p.afterCaptureError cfg error
  -- No handler of the loop catches it; the thread's own handler ends the producer.
  | .runtimeError message =>
    let p : Producer := { p with log := p.log ++ [.captureFailed (.runtimeError message)] }
    p.fail .unclassified [] message

/-- The condition of the loop in `rebuild_camera`, when no stop is requested. -/
def Producer.beginAttempt (cfg : PipelineConfig) (p : Producer) (byInvalid : Bool) : Producer :=
  let begun := p.recovery.beginRecoveryAttempt cfg.limits
  if begun.1 then
    { p with
      recovery := begun.2
      ctl := .rebuildSleep byInvalid
      todo := [.add .cameraRecoveryAttempts 1]
      log := p.log ++ [.rebuildAttempt byInvalid] }
  else { p with recovery := begun.2, ctl := .rebuildFailed byInvalid }

def Producer.afterRebuild (cfg : PipelineConfig) (p : Producer) (byInvalid : Bool)
    (camera : CameraDevice) : Producer :=
  { p with
    camera := camera
    recovery := p.recovery.onRecoverySuccess
    invalidFrames :=
      if byInvalid then p.invalidFrames.onInvalidFrameRecoverySuccess cfg.limits
      else p.invalidFrames.onExternalRecoverySuccess cfg.limits
    ctl := .loopHead
    todo := [.add .cameraRecoverySuccesses 1, .add .reconnectCount 1, .setLastError ""]
    log := p.log ++ [.rebuilt byInvalid] }

def Producer.afterOpenFailure (p : Producer) (byInvalid : Bool) (camera : CameraDevice)
    (message : String) : Producer :=
  { p with
    camera := camera
    ctl := .rebuildHead byInvalid
    todo := [.add .cameraRecoveryFailures 1, .setLastError ("camera recovery attempt " ++
      toString p.recovery.recoveryAttempts ++ " failed: " ++ message)] }

/-- What the producer does when it has no writing access left to make. -/
def producerControl (cfg : PipelineConfig) (shared : Shared cfg) (p : Producer)
    (input : ProducerInput) : Option Producer :=
  match p.ctl, input with
  | .loopHead, .go =>
    if p.produced < cfg.frameCount then
      if shared.stopRequested then some (p.finish .stopped) else some { p with ctl := .capture }
    else some (p.finish .frameCount)
  | .capture, .captured calls => some (p.afterCalls cfg calls)
  | .rebuildHead byInvalid, .go =>
    if shared.stopRequested then some { p with ctl := .rebuildFailed byInvalid }
    else some (p.beginAttempt cfg byInvalid)
  -- One load of the flag in `sleep_interruptibly`; `last` when no slice remains.
  | .rebuildSleep byInvalid, .slept last =>
    if shared.stopRequested then some { p with ctl := .rebuildFailed byInvalid }
    else if last then some { p with ctl := .rebuildOpen byInvalid }
    else some p
  | .rebuildOpen byInvalid, .opened camera => some (p.afterRebuild cfg byInvalid camera)
  | .rebuildOpen byInvalid, .openFailed camera message =>
    some (p.afterOpenFailure byInvalid camera message)
  -- `rebuild_camera` returned false, and the caller looks at the flag once more.
  | .rebuildFailed _, .go =>
    if shared.stopRequested then some { p with ctl := .loopHead }
    else some { p with ctl := .recoveryExhausted }
  | .recoveryExhausted, .go =>
    some (p.fail .exhausted [] ("camera recovery exhausted after " ++
      toString cfg.limits.maxRecoveryAttempts ++ " attempt(s): " ++ shared.lastError))
  | _, _ => none

/-! ### What a step can be -/

/-- Everything that a step of the producer can do. -/
inductive ProducerStep (cfg : PipelineConfig) (stop : Bool) (p : Producer) : Producer → Prop
  | complete (at_head : p.ctl = .loopHead) (all : ¬ p.produced < cfg.frameCount) :
      ProducerStep cfg stop p (p.finish .frameCount)
  | stopped (at_head : p.ctl = .loopHead) (stopping : stop = true) :
      ProducerStep cfg stop p (p.finish .stopped)
  | again (at_head : p.ctl = .loopHead) (running : stop = false)
      (more : p.produced < cfg.frameCount) : ProducerStep cfg stop p { p with ctl := .capture }
  | captured (at_capture : p.ctl = .capture) (calls : CaptureCalls) :
      ProducerStep cfg stop p (p.afterCalls cfg calls)
  | attempt (byInvalid : Bool) (at_head : p.ctl = .rebuildHead byInvalid) (running : stop = false) :
      ProducerStep cfg stop p (p.beginAttempt cfg byInvalid)
  | interrupted (byInvalid : Bool)
      (at_rebuild : p.ctl = .rebuildHead byInvalid ∨ p.ctl = .rebuildSleep byInvalid)
      (stopping : stop = true) : ProducerStep cfg stop p { p with ctl := .rebuildFailed byInvalid }
  | slept (byInvalid : Bool) (at_sleep : p.ctl = .rebuildSleep byInvalid) (running : stop = false) :
      ProducerStep cfg stop p { p with ctl := .rebuildOpen byInvalid }
  | sleeping (byInvalid : Bool) (at_sleep : p.ctl = .rebuildSleep byInvalid) :
      ProducerStep cfg stop p p
  | rebuilt (byInvalid : Bool) (at_open : p.ctl = .rebuildOpen byInvalid) (camera : CameraDevice) :
      ProducerStep cfg stop p (p.afterRebuild cfg byInvalid camera)
  | openFailed (byInvalid : Bool) (at_open : p.ctl = .rebuildOpen byInvalid)
      (camera : CameraDevice) (message : String) :
      ProducerStep cfg stop p (p.afterOpenFailure byInvalid camera message)
  | givenUp (byInvalid : Bool) (at_failed : p.ctl = .rebuildFailed byInvalid)
      (stopping : stop = true) : ProducerStep cfg stop p { p with ctl := .loopHead }
  | exhausted (byInvalid : Bool) (at_failed : p.ctl = .rebuildFailed byInvalid)
      (running : stop = false) : ProducerStep cfg stop p { p with ctl := .recoveryExhausted }
  | thrown (at_exhausted : p.ctl = .recoveryExhausted) (message : String) :
      ProducerStep cfg stop p (p.fail .exhausted [] message)

theorem producerControl_step {cfg : PipelineConfig} {shared : Shared cfg} {p p' : Producer}
    {input : ProducerInput} (step : producerControl cfg shared p input = some p') :
    ProducerStep cfg shared.stopRequested p p' := by
  unfold producerControl at step
  split at step
  next _ at_head =>
    split at step
    next more =>
      split at step
      next stopping => cases step; exact .stopped at_head stopping
      next running => cases step; exact .again at_head (by simpa using running) more
    next all => cases step; exact .complete at_head all
  next _ at_capture => cases step; exact .captured at_capture _
  next _ at_head =>
    split at step
    next stopping => cases step; exact .interrupted _ (.inl at_head) stopping
    next running => cases step; exact .attempt _ at_head (by simpa using running)
  next _ at_sleep =>
    split at step
    next stopping => cases step; exact .interrupted _ (.inr at_sleep) stopping
    next running =>
      split at step
      · cases step; exact .slept _ at_sleep (by simpa using running)
      · cases step; exact .sleeping _ at_sleep
  next _ at_open => cases step; exact .rebuilt _ at_open _
  next _ at_open => cases step; exact .openFailed _ at_open _ _
  next _ at_failed =>
    split at step
    next stopping => cases step; exact .givenUp _ at_failed stopping
    next running => cases step; exact .exhausted _ at_failed (by simpa using running)
  next at_exhausted => cases step; exact .thrown at_exhausted _
  next => cases step

/-! ### The invariant of the producer -/

@[simp] def ProducerCtl.isFinished : ProducerCtl → Bool
  | .finished _ => true
  | _ => false

/-- The loop was left by an exception. -/
@[simp] def ProducerCtl.failed : ProducerCtl → Bool
  | .finished reason => reason.isError
  | _ => false

structure ProducerInv (cfg : PipelineConfig) (s : Shared cfg) (p : Producer) : Prop where
  owned : OwnedBy .producer p.todo
  produced : p.produced = p.captured.length
  within : p.produced ≤ cfg.frameCount
  room : p.ctl = .capture → p.produced < cfg.frameCount
  counted : s.stats .captured + adds .captured p.todo = p.captured.length
  done : s.producerDone = true ∨ .setProducerDone ∈ p.todo → p.ctl.isFinished = true
  quiet : p.ctl.isFinished = true → ringPushes p.todo = []
  failed : p.ctl.failed = true ↔ s.producerError.isSome = true ∨
    ∃ text, .setProducerError text ∈ p.todo
  stops : .requestStop ∈ p.todo → p.ctl.failed = true
  all : p.ctl = .finished .frameCount → p.produced = cfg.frameCount
  stopped : p.ctl = .finished .stopped → s.stopRequested = true

theorem ProducerInv.initial (cfg : PipelineConfig) (camera : CameraDevice) :
    ProducerInv cfg (Shared.initial cfg) { camera := camera } := by
  constructor <;> simp [Shared.initial]

theorem ProducerInv.untouched {cfg : PipelineConfig} {s s' : Shared cfg} {p : Producer}
    (inv : ProducerInv cfg s p) (same : Untouched .producer s s') : ProducerInv cfg s' p := by
  obtain ⟨done, error⟩ := same.producer rfl
  exact { inv with
    counted := by rw [same.stats _ rfl]; exact inv.counted
    done := by rw [done]; exact inv.done
    failed := by rw [error]; exact inv.failed
    stopped := fun stopped => same.stop (inv.stopped stopped) }

/-- The producer makes its next access. -/
theorem ProducerInv.exec {cfg : PipelineConfig} {s : Shared cfg} {p : Producer} {op : Op}
    {rest : List Op} (inv : ProducerInv cfg s p) (next : p.todo = op :: rest) :
    ProducerInv cfg (op.exec s) { p with todo := rest } := by
  obtain ⟨stop, done, _⟩ := exec_flags s op
  obtain ⟨error, _⟩ := exec_errors s op
  obtain ⟨now, earlier⟩ := mem_of_next next
  have owned := inv.owned
  rw [next] at owned
  exact { inv with
    owned := ((ownedBy_cons _ _ _).mp owned).2
    counted := by rw [exec_adds, ← next]; exact inv.counted
    done := by
      rw [done, Bool.or_eq_true, beq_iff_eq]
      rintro ((set | rfl) | member)
      · exact inv.done (.inl set)
      · exact inv.done (.inr now)
      · exact inv.done (.inr (earlier _ member))
    quiet := fun finished => by
      have quiet := inv.quiet finished
      rw [next, ringPushes_cons] at quiet
      exact (List.append_eq_nil_iff.mp quiet).2
    -- An error moves from the list into the shared state.
    failed := by
      rw [inv.failed, error, next]
      cases op <;> simp
    stops := fun member => inv.stops (earlier _ member)
    stopped := fun stopped => by rw [stop, inv.stopped stopped, Bool.true_or] }

/-- Accesses that only report. -/
def Op.IsReport : Op → Prop
  | .add counter _ => counter.owner = .producer ∧ counter ≠ .captured
  | .raisePeak _ => True
  | .setLastError _ => True
  | _ => False

/-- What a list of reports leaves alone. -/
structure Reports (todo : List Op) : Prop where
  owned : OwnedBy .producer todo
  counted : adds .captured todo = 0
  quiet : ringPushes todo = []
  done : .setProducerDone ∉ todo
  error : ∀ text, .setProducerError text ∉ todo
  stop : .requestStop ∉ todo

theorem reports_of_all {todo : List Op} (all : ∀ op ∈ todo, op.IsReport) : Reports todo where
  owned op member := by
    have report := all op member
    cases op with
    | add counter n => exact .inl (congrArg some report.1)
    | raisePeak => exact .inl rfl
    | setLastError => exact .inr rfl
    | _ => exact report.elim
  counted := by
    refine List.sum_eq_zero_iff_forall_eq_nat.mpr fun n member => ?_
    obtain ⟨op, inside, rfl⟩ := List.mem_map.mp member
    have report := all op inside
    cases op with
    | add counter n => exact if_neg report.2
    | _ => rfl
  quiet := by
    refine List.filterMap_eq_nil_iff.mpr fun op member => ?_
    have report := all op member
    cases op with
    | pushRing => exact report.elim
    | _ => rfl
  done member := all _ member
  error _ member := all _ member
  stop member := all _ member

theorem decisionOps_reports (cfg : PipelineConfig) (decision : InvalidFrameDecision) :
    Reports (decisionOps cfg decision) := by
  refine reports_of_all fun op member => ?_
  have one : ∃ counter, op = .add counter 1 ∧ counter.owner = .producer ∧
      counter ≠ .captured := by
    cases decision with
    | none => cases member
    | recover =>
      rw [decisionOps] at member
      split at member
      · exact ⟨_, List.mem_singleton.mp member, rfl, by decide⟩
      · cases member
    | suppressedByCooldown => exact ⟨_, List.mem_singleton.mp member, rfl, by decide⟩
    | suppressedByBudget => exact ⟨_, List.mem_singleton.mp member, rfl, by decide⟩
  obtain ⟨counter, rfl, report⟩ := one
  exact report

theorem captureErrorOps_reports (error : CameraCaptureError) :
    Reports (captureErrorOps error) := by
  refine reports_of_all fun op member => ?_
  simp only [captureErrorOps, List.mem_cons, List.not_mem_nil, or_false] at member
  rcases member with rfl | rfl
  · cases kind : error.kind <;> simp [Op.IsReport, captureErrorCounter]
  · trivial

/-- Publishing a frame raises no other counter. -/
theorem frameOps_adds {c : Counter}
    (other : c ∉ [.cameraBufferErrorFrames, .cameraIncompleteFrames, .captured]) (frame : Frame)
    (peakInvalid : Nat) : adds c (frameOps frame peakInvalid) = 0 := by
  simp only [List.mem_cons, List.not_mem_nil, or_false, not_or] at other
  obtain ⟨bufferError, incomplete, captured⟩ := other
  rw [frameOps]
  split <;> split <;> simp [Ne.symm bufferError, Ne.symm incomplete, Ne.symm captured]

theorem captureErrorOps_adds {c : Counter}
    (other : c ∉ [.cameraCaptureTimeouts, .cameraTemporaryUnavailable, .cameraDeviceErrors])
    (error : CameraCaptureError) : adds c (captureErrorOps error) = 0 := by
  have counter : captureErrorCounter error.kind ≠ c := by
    rintro rfl
    revert other
    cases error.kind <;> decide
  simp [captureErrorOps, counter]

/-- What the invariant says while no access is left to make. -/
theorem ProducerInv.idle {cfg : PipelineConfig} {s : Shared cfg} {p : Producer}
    (inv : ProducerInv cfg s p) (idle : p.todo = []) (running : p.ctl.isFinished = false) :
    s.stats .captured = p.captured.length ∧ s.producerDone = false ∧ s.producerError = none := by
  have counted := inv.counted
  rw [idle, adds_nil, Nat.add_zero] at counted
  refine ⟨counted, ?_, ?_⟩
  · cases set : s.producerDone with
    | false => rfl
    | true => rw [inv.done (.inl set)] at running; cases running
  · cases set : s.producerError with
    | none => rfl
    | some text =>
      have failed := inv.failed.mpr (.inl (by rw [set]; rfl))
      cases ctl : p.ctl with
      | finished => rw [ctl] at running; cases running
      | _ => rw [ctl] at failed; cases failed

section Steps

variable {cfg : PipelineConfig} {s : Shared cfg} {p p' : Producer}

/-- A step that captures nothing and does not end the loop. -/
theorem ProducerInv.proceed (inv : ProducerInv cfg s p) (idle : p.todo = [])
    (running : p.ctl.isFinished = false) (running' : p'.ctl.isFinished = false)
    (produced : p'.produced = p.produced) (captured : p'.captured = p.captured)
    (reports : Reports p'.todo) (room : p'.ctl = .capture → p.produced < cfg.frameCount) :
    ProducerInv cfg s p' := by
  obtain ⟨counted, notDone, noError⟩ := inv.idle idle running
  have unfinished : ∀ reason, p'.ctl ≠ .finished reason := fun reason at_end => by
    rw [at_end] at running'
    cases running'
  -- A place inside of the loop is no failure, so the error field is still empty.
  have unfailed : p'.ctl.failed = false := by
    cases ctl : p'.ctl with
    | finished reason => exact absurd ctl (unfinished reason)
    | _ => rfl
  exact {
    owned := reports.owned
    produced := by rw [produced, captured, inv.produced]
    within := by rw [produced]; exact inv.within
    room := by rw [produced]; exact room
    counted := by rw [captured, reports.counted, counted, Nat.add_zero]
    done := by simp [notDone, reports.done]
    quiet := fun _ => reports.quiet
    failed := by simp [noError, reports.error]
    stops := fun stop => absurd stop reports.stop
    all := fun at_end => absurd at_end (unfinished _)
    stopped := fun at_end => absurd at_end (unfinished _) }

/-- The loop is left by an exception. -/
theorem ProducerInv.fail (inv : ProducerInv cfg s p) (idle : p.todo = [])
    (running : p.ctl.isFinished = false) {reason : ProducerEnd} (error : reason.isError = true)
    {first : List Op} (reports : Reports first) {message : String}
    (ctl : p'.ctl = .finished reason)
    (todo : p'.todo = first ++ [.setProducerError message, .requestStop, .setProducerDone])
    (produced : p'.produced = p.produced) (captured : p'.captured = p.captured) :
    ProducerInv cfg s p' := by
  obtain ⟨counted, notDone, noError⟩ := inv.idle idle running
  exact {
    owned := by simp [todo, reports.owned]
    produced := by rw [produced, captured, inv.produced]
    within := by rw [produced]; exact inv.within
    room := by simp [ctl]
    counted := by simp [todo, captured, reports.counted, counted]
    done := by simp [ctl]
    quiet := by simp [todo, reports.quiet]
    failed := by simp [ctl, todo, error]
    stops := by simp [ctl, error]
    all := by
      rw [ctl]
      rintro ⟨⟩
      cases error
    stopped := by
      rw [ctl]
      rintro ⟨⟩
      cases error }

/-- The loop is left by its condition. -/
theorem ProducerInv.finish (inv : ProducerInv cfg s p) (idle : p.todo = [])
    (running : p.ctl.isFinished = false) {reason : ProducerEnd} (orderly : reason.isError = false)
    (all : reason = .frameCount → p.produced = cfg.frameCount)
    (stopped : reason = .stopped → s.stopRequested = true) :
    ProducerInv cfg s (p.finish reason) := by
  obtain ⟨counted, notDone, noError⟩ := inv.idle idle running
  exact {
    owned := by simp [Producer.finish]
    produced := inv.produced
    within := inv.within
    room := by simp [Producer.finish]
    counted := by simp [Producer.finish, counted]
    done := by simp [Producer.finish]
    quiet := by simp [Producer.finish]
    failed := by simp [Producer.finish, orderly, noError]
    stops := by simp [Producer.finish]
    all := fun at_end => all (ProducerCtl.finished.inj at_end)
    stopped := fun at_end => stopped (ProducerCtl.finished.inj at_end) }

theorem frameOps_eq (frame : Frame) (peakInvalid : Nat) :
    ∃ first, Reports first ∧
      frameOps frame peakInvalid = first ++ [.pushRing frame, .add .captured 1] := by
  refine ⟨(if hasV4l2BufferError frame then [.add .cameraBufferErrorFrames 1] else []) ++
    (if isIncompleteYuyvFrame frame then [.add .cameraIncompleteFrames 1] else []) ++
    [.raisePeak peakInvalid], reports_of_all fun op member => ?_, by simp [frameOps]⟩
  simp only [List.mem_append, List.mem_singleton] at member
  rcases member with (member | member) | rfl
  · split at member
    · rw [List.mem_singleton.mp member]; exact ⟨rfl, by decide⟩
    · cases member
  · split at member
    · rw [List.mem_singleton.mp member]; exact ⟨rfl, by decide⟩
    · cases member
  · trivial

/-- The accesses behind a capture push the frame once and count it once. -/
theorem afterCapture_todo (cfg : PipelineConfig) (p : Producer) (frame : Frame) :
    ∃ first last, Reports first ∧ Reports last ∧
      (p.afterCapture cfg frame).todo =
        first ++ [.pushRing frame, .add .captured 1] ++ last := by
  obtain ⟨first, reports, ops⟩ :=
    frameOps_eq frame (p.invalidFrames.observe cfg.limits (isFrameUsable frame)).2.peakInvalid
  exact ⟨first, _, reports, decisionOps_reports cfg _, by rw [Producer.afterCapture, ops]⟩

theorem ProducerInv.capture (inv : ProducerInv cfg s p) (idle : p.todo = [])
    (at_capture : p.ctl = .capture) (frame : Frame) :
    ProducerInv cfg s (p.afterCapture cfg frame) := by
  obtain ⟨counted, notDone, noError⟩ := inv.idle idle (by rw [at_capture]; rfl)
  obtain ⟨first, last, before, behind, todo⟩ := afterCapture_todo cfg p frame
  have room := inv.room at_capture
  -- Whatever the policy decides, the producer goes on.
  have running : (p.afterCapture cfg frame).ctl.isFinished = false ∧
      (p.afterCapture cfg frame).ctl.failed = false ∧
      (p.afterCapture cfg frame).ctl ≠ .capture ∧
      ∀ reason, (p.afterCapture cfg frame).ctl ≠ .finished reason := by
    rw [Producer.afterCapture]
    simp only
    split <;> simp
  obtain ⟨running, unfailed, away, unfinished⟩ := running
  exact {
    owned := by simp [todo, before.owned, behind.owned]
    produced := by simp [Producer.afterCapture, inv.produced]
    within := room
    room := fun here => absurd here away
    counted := by
      rw [todo]
      simp [Producer.afterCapture, before.counted, behind.counted, counted]
    done := by simp [todo, notDone, before.done, behind.done]
    quiet := fun finished => by rw [running] at finished; cases finished
    failed := by simp [todo, noError, before.error, behind.error]
    stops := by simp [todo, before.stop, behind.stop]
    all := fun at_end => absurd at_end (unfinished _)
    stopped := fun at_end => absurd at_end (unfinished _) }

theorem ProducerInv.captureError (inv : ProducerInv cfg s p) (idle : p.todo = [])
    (at_capture : p.ctl = .capture) (error : CameraCaptureError) :
    ProducerInv cfg s (p.afterCaptureError cfg error) := by
  have running : p.ctl.isFinished = false := by rw [at_capture]; rfl
  have reports := captureErrorOps_reports error
  rw [Producer.afterCaptureError]
  simp only
  split
  · exact inv.proceed idle running rfl rfl rfl reports nofun
  split
  · exact inv.fail idle running rfl reports rfl rfl rfl rfl
  · exact inv.proceed idle running rfl rfl rfl reports nofun

theorem ProducerStep.running {stop : Bool} (step : ProducerStep cfg stop p p') :
    p.ctl.isFinished = false := by
  cases step with
  | interrupted byInvalid at_rebuild => rcases at_rebuild with at_rebuild | at_rebuild <;> simp [*]
  | _ => simp [*]

theorem ProducerInv.control (inv : ProducerInv cfg s p) (idle : p.todo = [])
    (step : ProducerStep cfg s.stopRequested p p') : ProducerInv cfg s p' := by
  have running := step.running
  have none : Reports [] := reports_of_all (by simp)
  have reports : Reports p.todo := by rw [idle]; exact none
  cases step with
  | complete at_head all =>
    have within := inv.within
    exact inv.finish idle running rfl (fun _ => by omega) (by simp)
  | stopped at_head stopping => exact inv.finish idle running rfl (by simp) fun _ => stopping
  | again at_head _ more => exact inv.proceed idle running rfl rfl rfl reports fun _ => more
  | captured at_capture calls =>
    rw [Producer.afterCalls]
    simp only
    split
    next frame _ =>
      have noted : ProducerInv cfg s { p with captures := p.captures ++ [(p.camera, calls)] } :=
        { inv with }
      exact noted.capture idle at_capture frame
    next error _ =>
      have noted : ProducerInv cfg s { p with captures := p.captures ++ [(p.camera, calls)] } :=
        { inv with }
      exact noted.captureError idle at_capture error
    next => exact inv.fail idle running rfl none rfl rfl rfl rfl
  | attempt byInvalid =>
    rw [Producer.beginAttempt]
    split
    · exact inv.proceed idle running rfl rfl rfl
        (reports_of_all (by simp [Op.IsReport, Counter.owner])) (by simp)
    · exact inv.proceed idle running rfl rfl rfl reports (by simp)
  | interrupted => exact inv.proceed idle running rfl rfl rfl reports (by simp)
  | slept => exact inv.proceed idle running rfl rfl rfl reports (by simp)
  | sleeping => exact inv
  | rebuilt =>
    exact inv.proceed idle running rfl rfl rfl
      (reports_of_all (by simp [Op.IsReport, Producer.afterRebuild]))
      (by simp [Producer.afterRebuild])
  | openFailed =>
    exact inv.proceed idle running rfl rfl rfl
      (reports_of_all (by simp [Op.IsReport, Producer.afterOpenFailure]))
      (by simp [Producer.afterOpenFailure])
  | givenUp => exact inv.proceed idle running rfl rfl rfl reports (by simp)
  | exhausted => exact inv.proceed idle running rfl rfl rfl reports (by simp)
  | thrown => exact inv.fail idle running rfl none rfl rfl rfl rfl

/-- A step is about to push what it captured. -/
theorem ProducerStep.pushes {stop : Bool} (step : ProducerStep cfg stop p p')
    (idle : p.todo = []) : p'.captured = p.captured ++ ringPushes p'.todo := by
  cases step with
  | captured at_capture calls =>
    rw [Producer.afterCalls]
    simp only
    split
    -- The one step that captures; its accesses push the frame once.
    next frame _ =>
      obtain ⟨first, last, before, behind, todo⟩ := afterCapture_todo cfg
        { p with captures := p.captures ++ [(p.camera, calls)] } frame
      rw [todo]
      simp [Producer.afterCapture, before.quiet, behind.quiet]
    next error _ =>
      rw [Producer.afterCaptureError]
      simp only
      have quiet := (captureErrorOps_reports error).quiet
      split
      · simp [quiet]
      split
      · simp [Producer.fail, quiet]
      · simp [quiet]
    next => simp [Producer.fail]
  | attempt byInvalid =>
    rw [Producer.beginAttempt]
    split <;> simp [idle]
  | _ =>
    simp [Producer.finish, Producer.fail, Producer.afterRebuild, Producer.afterOpenFailure, idle]

end Steps

end V4l2Capture.Pipeline
