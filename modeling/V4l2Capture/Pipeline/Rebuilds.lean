import V4l2Capture.Pipeline.LastError
import V4l2Capture.Pipeline.RecoveryBudget
import V4l2Capture.Pipeline.Timeouts

/-!
# Calls of rebuild_camera

A run of the pipeline is recorded with what its calls of `rebuild_camera` do. `RebuildInv`
relates the record to the controller and to the counters, and `recovery_accounting` says what
follows for every run: each call has the whole budget of attempts, gives up only behind all of
them or for a stop, and every attempt but an interrupted one is counted as a success or as a
failure.
-/
namespace V4l2Capture.Pipeline

open Camera History Transition

inductive RebuildEvent where
  /-- A call, with the attempts that the controller has counted before. -/
  | called (recoveryAttempts : Nat)
  | attempted
  /-- A stop interrupts the retry delay. -/
  | interrupted
  | attemptFailed
  | recovered
  /-- The call returns false, whether or not it has seen a stop. -/
  | gaveUp (stopSeen : Bool)
  deriving DecidableEq, Repr

/-- What a step of the producer does in `rebuild_camera`. -/
def Producer.rebuildEvents (stop : Bool) (p p' : Producer) : List RebuildEvent :=
  match p.ctl, p'.ctl with
  | .capture, .rebuildHead _ => [.called p'.recovery.recoveryAttempts]
  | .rebuildHead _, .rebuildSleep _ => [.attempted]
  | .rebuildHead _, .rebuildFailed _ => [.gaveUp stop]
  | .rebuildSleep _, .rebuildFailed _ => (if stop then [.interrupted] else []) ++ [.gaveUp stop]
  | .rebuildOpen _, .rebuildHead _ => [.attemptFailed]
  | .rebuildOpen _, .loopHead => [.recovered]
  | _, _ => []

def PipelineState.rebuildEvents {cfg : PipelineConfig} (s s' : PipelineState cfg) :
    List RebuildEvent :=
  s.producer.rebuildEvents s.shared.stopRequested s'.producer

/-- A run that leads to `s`, with the record of its calls of `rebuild_camera`. -/
abbrev RebuildsRecorded (cfg : PipelineConfig) (camera : CameraDevice) (s : PipelineState cfg)
    (seen : List RebuildEvent) : Prop :=
  ReachesWith PipelineState.step PipelineState.rebuildEvents (PipelineState.initial cfg camera) s
    seen

@[simp] def RebuildEvent.isCall : RebuildEvent → Bool
  | .called _ => true
  | _ => false

/-- The events of the last call, the latest first. -/
def lastCall (seen : List RebuildEvent) : List RebuildEvent := behind RebuildEvent.isCall seen

@[simp] theorem lastCall_concat (seen : List RebuildEvent) (event : RebuildEvent) :
    lastCall (seen ++ [event]) = if event.isCall then [] else event :: lastCall seen :=
  behind_concat _ seen event

/-- The event that a counter counts. -/
def Counter.rebuildEvent? : Counter → Option RebuildEvent
  | .cameraRecoveryAttempts => some .attempted
  | .cameraRecoverySuccesses => some .recovered
  | .cameraRecoveryFailures => some .attemptFailed
  | .reconnectCount => some .recovered
  | _ => none

/-! ### The accesses of a step -/

theorem decisionOps_rebuilds {c : Counter} {event : RebuildEvent}
    (counts : c.rebuildEvent? = some event) (cfg : PipelineConfig)
    (decision : InvalidFrameDecision) : adds c (decisionOps cfg decision) = 0 := by
  cases c <;> cases counts <;> cases decision <;> simp [decisionOps] <;> split <;> simp

/-- A capture does nothing that concerns a rebuild, except that it may lead to one. -/
theorem afterCalls_spec (cfg : PipelineConfig) (p : Producer) (calls : CaptureCalls)
    (fresh : p.recovery.recoveryAttempts = 0) :
    (p.afterCalls cfg calls).recovery.recoveryAttempts = 0 ∧
      ((p.afterCalls cfg calls).ctl = .loopHead ∨
        (∃ byInvalid, (p.afterCalls cfg calls).ctl = .rebuildHead byInvalid) ∨
        ∃ reason, (p.afterCalls cfg calls).ctl = .finished reason) ∧
      ∀ c event, c.rebuildEvent? = some event → adds c (p.afterCalls cfg calls).todo = 0 := by
  rw [Producer.afterCalls]
  cases captureFrameCopy p.camera calls with
  | frame frame =>
    refine ⟨rfl, ?_, fun c event counts => ?_⟩
    · simp only [Producer.afterCapture]
      split
      · exact .inr (.inl ⟨_, rfl⟩)
      · exact .inl rfl
    · simp only [Producer.afterCapture]
      rw [adds_append, frameOps_adds (by cases c <;> cases counts <;> decide),
        decisionOps_rebuilds counts]
  | captureError error =>
    have attempts := shouldReinitialize_attempts cfg.limits p.recovery error.kind
    have reported {c : Counter} {event : RebuildEvent} (counts : c.rebuildEvent? = some event) :
        adds c (captureErrorOps error) = 0 :=
      captureErrorOps_adds (by cases c <;> cases counts <;> decide) error
    simp only [Producer.afterCaptureError]
    split
    · exact ⟨attempts.trans fresh, .inl rfl, fun c event counts => reported counts⟩
    split
    · refine ⟨attempts.trans fresh, .inr (.inr ⟨_, rfl⟩), fun c event counts => ?_⟩
      rw [Producer.fail, adds_append, reported counts]
      simp
    · exact ⟨attempts.trans fresh, .inr (.inl ⟨_, rfl⟩),
        fun c event counts => reported counts⟩
  | runtimeError message =>
    exact ⟨fresh, .inr (.inr ⟨_, rfl⟩), fun c event counts => by simp [Producer.fail]⟩

/-! ### The invariant -/

/-- No attempt is made any more. -/
@[simp] def ProducerCtl.leaving (stop : Bool) : ProducerCtl → Bool
  | .loopHead => stop
  | .rebuildFailed _ => stop
  | .finished _ => true
  | _ => false

/-- What an event may find before it. -/
def RebuildRule (limits : RecoveryLimits) (before : List RebuildEvent) : RebuildEvent → Prop
  | .called recoveryAttempts => recoveryAttempts = 0
  | .gaveUp stopSeen => stopSeen = true ∨
    (lastCall before).count .attempted = limits.maxRecoveryAttempts ∧
      (lastCall before).count .attemptFailed = limits.maxRecoveryAttempts
  | _ => True

/-- What the controller counts is the attempts of the call under way, and all of them but one
that is going on have failed. Before a call it counts none. -/
def Underway (stop : Bool) (p : Producer) (seen : List RebuildEvent) : Prop :=
  match p.ctl with
  | .capture => p.recovery.recoveryAttempts = 0
  | .loopHead => stop = true ∨ p.recovery.recoveryAttempts = 0
  | .rebuildHead _ => (lastCall seen).count .attempted = p.recovery.recoveryAttempts ∧
      (lastCall seen).count .attemptFailed = p.recovery.recoveryAttempts
  | .rebuildSleep _ | .rebuildOpen _ =>
    (lastCall seen).count .attempted = p.recovery.recoveryAttempts ∧
      (lastCall seen).count .attemptFailed + 1 = p.recovery.recoveryAttempts
  | _ => True

structure RebuildInv (cfg : PipelineConfig) (s : Shared cfg) (p : Producer)
    (seen : List RebuildEvent) : Prop where
  rules : Before seen (RebuildRule cfg.limits)
  budget : Before seen fun before _ =>
    (lastCall before).count .attempted ≤ cfg.limits.maxRecoveryAttempts
  within : (lastCall seen).count .attempted ≤ cfg.limits.maxRecoveryAttempts
  underway : Underway s.stopRequested p seen
  counted : ∀ c event, c.rebuildEvent? = some event →
    s.stats c + adds c p.todo = seen.count event
  balance : seen.count .attempted = seen.count .recovered + seen.count .attemptFailed +
    seen.count .interrupted + if p.ctl.attempting then 1 else 0
  once : seen.count .interrupted = 0 ∨
    seen.count .interrupted = 1 ∧ p.ctl.leaving s.stopRequested = true

section Steps

variable {cfg : PipelineConfig} {s s' : Shared cfg} {p p' : Producer} {seen : List RebuildEvent}

theorem RebuildInv.initial (cfg : PipelineConfig) (camera : CameraDevice) :
    RebuildInv cfg (Shared.initial cfg) { camera := camera } [] where
  rules := before_nil _
  budget := before_nil _
  within := Nat.zero_le _
  underway := .inr rfl
  counted _ _ _ := rfl
  balance := rfl
  once := .inl rfl

theorem Underway.mono {stop stop' : Bool} (underway : Underway stop p seen)
    (stays : stop = true → stop' = true) : Underway stop' p seen := by
  unfold Underway at underway ⊢
  cases ctl : p.ctl with
  | loopHead => rw [ctl] at underway; exact underway.imp_left stays
  | _ => rw [ctl] at underway; exact underway

theorem leaving_mono {ctl : ProducerCtl} {stop stop' : Bool} (stays : stop = true → stop' = true)
    (leaving : ctl.leaving stop = true) : ctl.leaving stop' = true := by
  cases ctl with
  | loopHead => exact stays leaving
  | rebuildFailed byInvalid => exact stays leaving
  | _ => exact leaving

theorem RebuildInv.untouched (inv : RebuildInv cfg s p seen) (same : Untouched .producer s s') :
    RebuildInv cfg s' p seen :=
  { inv with
    underway := inv.underway.mono same.stop
    counted := fun c event counts => by
      have owner : c.owner = .producer := by cases c <;> cases counts <;> rfl
      rw [same.stats c owner]
      exact inv.counted c event counts
    once := inv.once.imp_right fun ⟨one, leaving⟩ => ⟨one, leaving_mono same.stop leaving⟩ }

theorem RebuildInv.exec {op : Op} {rest : List Op} (inv : RebuildInv cfg s p seen)
    (next : p.todo = op :: rest) : RebuildInv cfg (op.exec s) { p with todo := rest } seen :=
  have stays := (exec_raises s op).2.2.2
  { inv with
    underway := (inv.underway.mono stays : Underway _ p seen)
    counted := fun c event counts => by
      rw [exec_adds, ← next]
      exact inv.counted c event counts
    once := inv.once.imp_right fun ⟨one, leaving⟩ => ⟨one, leaving_mono stays leaving⟩ }

theorem rebuildEvents_same (stop : Bool) {p p' : Producer} (same : p'.ctl = p.ctl) :
    p.rebuildEvents stop p' = [] := by
  rw [Producer.rebuildEvents, same]
  cases p.ctl <;> rfl

/-- Giving up is not counted. -/
theorem gaveUp_counts {todo : List Op} (idle : todo = []) (c : Counter) (e : RebuildEvent)
    (stop : Bool) (counts : c.rebuildEvent? = some e) :
    adds c todo = [RebuildEvent.gaveUp stop].count e := by
  rw [idle]
  cases c <;> cases counts <;> rfl

/-- A step that does nothing in `rebuild_camera`. -/
theorem RebuildInv.quiet (inv : RebuildInv cfg s p seen) (idle : p.todo = [])
    (underway : Underway s.stopRequested p' seen)
    (todo : ∀ c event, c.rebuildEvent? = some event → adds c p'.todo = 0)
    (attempting : p'.ctl.attempting = p.ctl.attempting)
    (leaving : p.ctl.leaving s.stopRequested = true → p'.ctl.leaving s.stopRequested = true) :
    RebuildInv cfg s p' seen :=
  { inv with
    underway := underway
    counted := fun c event counts => by
      have counted := inv.counted c event counts
      rw [idle] at counted
      rw [todo c event counts]
      exact counted
    balance := by rw [attempting]; exact inv.balance
    once := inv.once.imp_right fun ⟨one, leaves⟩ => ⟨one, leaving leaves⟩ }

/-- A step that adds one event to the record. -/
theorem RebuildInv.event (inv : RebuildInv cfg s p seen) (idle : p.todo = []) (event : RebuildEvent)
    (rule : RebuildRule cfg.limits seen event)
    (within : (lastCall (seen ++ [event])).count .attempted ≤ cfg.limits.maxRecoveryAttempts)
    (underway : Underway s.stopRequested p' (seen ++ [event]))
    (todo : ∀ c e, c.rebuildEvent? = some e → adds c p'.todo = [event].count e)
    (balance : [event].count .attempted + (if p.ctl.attempting then 1 else 0) =
      [event].count .recovered + [event].count .attemptFailed + [event].count .interrupted +
        if p'.ctl.attempting then 1 else 0)
    (first : event = .interrupted → p.ctl.leaving s.stopRequested = false)
    (leaves : event = .interrupted ∨ p.ctl.leaving s.stopRequested = true →
      p'.ctl.leaving s.stopRequested = true) :
    RebuildInv cfg s p' (seen ++ [event]) where
  rules := (before_concat _ _ _).mpr ⟨inv.rules, rule⟩
  budget := (before_concat _ _ _).mpr ⟨inv.budget, inv.within⟩
  within := within
  underway := underway
  counted c e counts := by
    have counted := inv.counted c e counts
    rw [idle, adds_nil, Nat.add_zero] at counted
    rw [counted, todo c e counts, List.count_append]
  balance := by
    have before := inv.balance
    simp only [List.count_append]
    omega
  once := by
    have before := inv.once
    rw [List.count_append, List.count_singleton]
    by_cases interrupted : event = .interrupted
    · have none := before.resolve_right fun ⟨_, leaving⟩ => by
        rw [first interrupted] at leaving
        cases leaving
      exact .inr ⟨by simp [none, interrupted], leaves (.inl interrupted)⟩
    · rw [if_neg (by simpa using interrupted)]
      exact before.imp_right fun ⟨one, leaving⟩ => ⟨one, leaves (.inr leaving)⟩

/-- A capture, which may end in a call. -/
theorem RebuildInv.capture (inv : RebuildInv cfg s p seen) (idle : p.todo = [])
    (at_capture : p.ctl = .capture) (calls : CaptureCalls) :
    RebuildInv cfg s (p.afterCalls cfg calls)
      (seen ++ p.rebuildEvents s.stopRequested (p.afterCalls cfg calls)) := by
  have fresh := inv.underway
  rw [Underway, at_capture] at fresh
  obtain ⟨attempts, place, todo⟩ := afterCalls_spec cfg p calls fresh
  rw [Producer.rebuildEvents, at_capture]
  rcases place with ctl | ⟨byInvalid, ctl⟩ | ⟨reason, ctl⟩
  · rw [ctl, List.append_nil]
    exact inv.quiet idle (by rw [Underway, ctl]; exact .inr attempts) todo
      (by simp [ctl, at_capture]) (by simp [at_capture])
  · rw [ctl, attempts]
    exact inv.event idle _ rfl (by simp) (by simp [Underway, ctl, attempts])
      (fun c e counts => by rw [todo c e counts]; cases c <;> cases counts <;> rfl)
      (by simp [ctl, at_capture]) (by simp) (by simp [at_capture])
  · rw [ctl, List.append_nil]
    exact inv.quiet idle (by rw [Underway, ctl]; trivial) todo (by simp [ctl, at_capture])
      (by simp [at_capture])

/-- Another attempt, if there is one left. -/
theorem RebuildInv.attempt (inv : RebuildInv cfg s p seen) (idle : p.todo = []) {byInvalid : Bool}
    (at_head : p.ctl = .rebuildHead byInvalid) :
    RebuildInv cfg s (p.beginAttempt cfg byInvalid)
      (seen ++ p.rebuildEvents s.stopRequested (p.beginAttempt cfg byInvalid)) := by
  have within := inv.within
  have underway := inv.underway
  rw [Underway, at_head] at underway
  obtain ⟨attempted, failed⟩ := underway
  rw [Producer.rebuildEvents, at_head, Producer.beginAttempt,
    CaptureRecoveryController.beginRecoveryAttempt]
  split
  next spent =>
    have all : p.recovery.recoveryAttempts = cfg.limits.maxRecoveryAttempts := by omega
    exact inv.event idle (.gaveUp _) (.inr ⟨by rw [attempted, all], by rw [failed, all]⟩)
      (by simpa using within) trivial (fun c e => gaveUp_counts idle c e _) (by simp [at_head])
      (by simp) (by simp [at_head])
  next room =>
    exact inv.event idle .attempted trivial (by simp; omega)
      (by simp [Underway, attempted, failed])
      (fun c e counts => by cases c <;> cases counts <;> rfl)
      (by simp [at_head]) (by simp) (by simp [at_head])

/-- A stop ends the call, possibly in the retry delay of an attempt that has begun. -/
theorem RebuildInv.interrupt (inv : RebuildInv cfg s p seen) (idle : p.todo = []) {byInvalid : Bool}
    (at_rebuild : p.ctl = .rebuildHead byInvalid ∨ p.ctl = .rebuildSleep byInvalid)
    (stopping : s.stopRequested = true) :
    RebuildInv cfg s { p with ctl := .rebuildFailed byInvalid }
      (seen ++ p.rebuildEvents s.stopRequested { p with ctl := .rebuildFailed byInvalid }) := by
  have within := inv.within
  rw [Producer.rebuildEvents]
  rcases at_rebuild with at_head | at_sleep
  · rw [at_head]
    exact inv.event idle (.gaveUp _) (.inl stopping) (by simpa using within) trivial
      (fun c e => gaveUp_counts idle c e _) (by simp [at_head]) (by simp) (by simp [at_head])
  -- The attempt stays without an outcome.
  · have left : RebuildInv cfg s { p with ctl := .rebuildFailed byInvalid }
        (seen ++ [.interrupted]) :=
      inv.event idle .interrupted trivial (by simpa using within) trivial
        (fun c e counts => by
          show adds c p.todo = _
          rw [idle]
          cases c <;> cases counts <;> rfl)
        (by simp [at_sleep]) (by simp [at_sleep]) fun _ => stopping
    rw [at_sleep]
    simp only
    rw [if_pos stopping, ← List.append_assoc]
    exact left.event idle (.gaveUp _) (.inl stopping)
      (by rw [lastCall_concat]; simpa using left.within) trivial
      (fun c e => gaveUp_counts idle c e _) rfl (by simp) fun _ => stopping

theorem RebuildInv.control (inv : RebuildInv cfg s p seen) (idle : p.todo = [])
    (step : ProducerStep cfg s.stopRequested p p') :
    RebuildInv cfg s p' (seen ++ p.rebuildEvents s.stopRequested p') := by
  have underway := inv.underway
  have within := inv.within
  have kept : ∀ c event, c.rebuildEvent? = some event → adds c p.todo = 0 := by simp [idle]
  unfold Underway at underway
  cases step with
  | captured at_capture calls => exact inv.capture idle at_capture calls
  | attempt byInvalid at_head => exact inv.attempt idle at_head
  | interrupted byInvalid at_rebuild stopping => exact inv.interrupt idle at_rebuild stopping
  | complete at_head | stopped at_head =>
    rw [Producer.rebuildEvents, at_head, List.append_nil]
    exact inv.quiet idle trivial (by simp [Producer.finish]) (by simp [at_head, Producer.finish])
      fun _ => rfl
  | again at_head running =>
    rw [at_head] at underway
    rw [Producer.rebuildEvents, at_head, List.append_nil]
    exact inv.quiet idle (underway.resolve_left (by simp [running])) kept (by simp [at_head])
      (by simp [at_head, running])
  | slept byInvalid at_sleep running =>
    rw [at_sleep] at underway
    rw [Producer.rebuildEvents, at_sleep, List.append_nil]
    exact inv.quiet idle underway kept (by simp [at_sleep]) (by simp [at_sleep])
  | sleeping byInvalid at_sleep =>
    rw [rebuildEvents_same _ rfl, List.append_nil]
    exact inv
  | rebuilt byInvalid at_open =>
    rw [Producer.rebuildEvents, at_open]
    exact inv.event idle .recovered trivial (by simpa using within) (.inr rfl)
      (fun c e counts => by cases c <;> cases counts <;> rfl)
      (by simp [at_open, Producer.afterRebuild]) (by simp) (by simp [at_open])
  | openFailed byInvalid at_open =>
    rw [at_open] at underway
    obtain ⟨attempted, failed⟩ := underway
    rw [Producer.rebuildEvents, at_open]
    exact inv.event idle .attemptFailed trivial (by simpa using within)
      (by simp [Underway, Producer.afterOpenFailure, attempted, failed])
      (fun c e counts => by cases c <;> cases counts <;> rfl)
      (by simp [at_open, Producer.afterOpenFailure]) (by simp) (by simp [at_open])
  | givenUp byInvalid at_failed stopping =>
    rw [Producer.rebuildEvents, at_failed, List.append_nil]
    exact inv.quiet idle (.inl stopping) kept (by simp [at_failed]) fun _ => stopping
  | exhausted byInvalid at_failed running =>
    rw [Producer.rebuildEvents, at_failed, List.append_nil]
    exact inv.quiet idle trivial kept (by simp [at_failed]) (by simp [at_failed, running])
  | thrown at_exhausted message =>
    rw [Producer.rebuildEvents, at_exhausted, List.append_nil]
    exact inv.quiet idle trivial (by simp [Producer.fail]) (by simp [at_exhausted, Producer.fail])
      fun _ => rfl

end Steps

/-- Run lemma. -/
theorem recorded_rebuildInv {cfg : PipelineConfig} {camera : CameraDevice} {s : PipelineState cfg}
    {seen : List RebuildEvent} (recorded : RebuildsRecorded cfg camera s seen) :
    RebuildInv cfg s.shared s.producer seen := by
  refine observed_invariant (fun s seen => RebuildInv cfg s.shared s.producer seen)
    (RebuildInv.initial cfg camera) (fun s seen _ s' before inv step => ?_) recorded
  rw [PipelineState.rebuildEvents]
  -- Only the producer is in `rebuild_camera`, and not while it makes an access.
  cases (PipelineState.step_cases step).producerSees (reachable_inv before) with
  | access op rest next shared same =>
    rw [rebuildEvents_same _ (by rw [same]), List.append_nil, shared, same]
    exact inv.exec next
  | control idle taken shared =>
    rw [shared]
    exact inv.control idle taken
  | foreign untouched same =>
    rw [rebuildEvents_same _ (by rw [same]), List.append_nil, same]
    exact inv.untouched untouched

/-! ### Every run -/

/-- The invariant, for the part of the record that belongs to one call. -/
theorem RebuildInv.call {cfg : PipelineConfig} {s : Shared cfg} {p : Producer}
    {before call after : List RebuildEvent} {n : Nat}
    (inv : RebuildInv cfg s p (before ++ .called n :: call ++ after))
    (one : ∀ event ∈ call, event.isCall = false) :
    call.count .attempted ≤ cfg.limits.maxRecoveryAttempts ∧
      ∀ stopSeen more, after = .gaveUp stopSeen :: more → stopSeen = true ∨
        (call.count .attempted = cfg.limits.maxRecoveryAttempts ∧
          call.count .attemptFailed = cfg.limits.maxRecoveryAttempts) := by
  have last : lastCall (before ++ .called n :: call) = call.reverse :=
    behind_append_cons rfl before one
  constructor
  · cases after with
    | nil =>
      have within := inv.within
      rw [List.append_nil, last, List.count_reverse] at within
      exact within
    | cons event more =>
      have within : (lastCall (before ++ .called n :: call)).count .attempted ≤
          cfg.limits.maxRecoveryAttempts := inv.budget _ event more rfl
      rw [last, List.count_reverse] at within
      exact within
  · rintro stopSeen more rfl
    have rule := inv.rules _ (.gaveUp stopSeen) more rfl
    rw [RebuildRule, last, List.count_reverse, List.count_reverse] at rule
    exact rule

/-- Every run with recovery enabled: a call of `rebuild_camera` begins without a counted attempt,
makes at most `A` of them, and returns false only behind `A` failed ones or for a stop. A timeout
starts a rebuild exactly if it is the `T`-th since the last frame or rebuild. Outside of an
attempt, the attempts are the successes, the failures and at most one that a stop interrupted. -/
theorem recovery_accounting {cfg : PipelineConfig} {camera : CameraDevice} {s : PipelineState cfg}
    {seen : List RebuildEvent} (recorded : RebuildsRecorded cfg camera s seen)
    (enabled : cfg.cameraRecoveryEnabled = true) :
    (∀ recoveryAttempts, .called recoveryAttempts ∈ seen → recoveryAttempts = 0) ∧
    (∀ before n call after, seen = before ++ .called n :: call ++ after →
      (∀ event ∈ call, event.isCall = false) →
      call.count .attempted ≤ cfg.limits.maxRecoveryAttempts ∧
        ∀ stopSeen more, after = .gaveUp stopSeen :: more → stopSeen = true ∨
          (call.count .attempted = cfg.limits.maxRecoveryAttempts ∧
            call.count .attemptFailed = cfg.limits.maxRecoveryAttempts)) ∧
    (∀ before after, s.producer.log = before ++ .policyAsked .timeout :: after →
      ((∃ more, after = .rebuildStarted false :: more) ↔
        timeoutStreak before + 1 = cfg.limits.timeoutThreshold)) ∧
    (s.producer.recovery.consecutiveTimeouts = timeoutStreak s.producer.log ∧
      s.producer.recovery.consecutiveTimeouts ≤ cfg.limits.timeoutThreshold) ∧
    (s.producer.todo = [] →
      s.shared.stats .reconnectCount = s.shared.stats .cameraRecoverySuccesses ∧
      (s.producer.ctl.attempting = false → ∃ d,
        s.shared.stats .cameraRecoveryAttempts = s.shared.stats .cameraRecoverySuccesses +
          s.shared.stats .cameraRecoveryFailures + d ∧
        d ≤ 1 ∧ (d = 1 → .interrupted ∈ seen))) := by
  have inv := recorded_rebuildInv recorded
  have timeouts := reachable_timeoutInv (reaches_of_observing recorded)
  refine ⟨fun recoveryAttempts member => ?_, ?_, timeouts.rule enabled,
    ⟨timeouts.streak, timeouts.within⟩, fun idle => ?_⟩
  · obtain ⟨before, after, shape⟩ := List.append_of_mem member
    exact inv.rules before _ after shape
  · rintro before n call after rfl one
    exact inv.call one
  have counted : ∀ c event, c.rebuildEvent? = some event →
      s.shared.stats c = seen.count event := fun c event counts => by
    have counted := inv.counted c event counts
    rwa [idle, adds_nil, Nat.add_zero] at counted
  refine ⟨by rw [counted _ _ rfl, counted _ _ rfl], fun outside => ?_⟩
  refine ⟨seen.count .interrupted, ?_, ?_, fun one => ?_⟩
  · have balance := inv.balance
    rw [outside, if_neg nofun, Nat.add_zero] at balance
    rw [counted .cameraRecoveryAttempts _ rfl, counted .cameraRecoverySuccesses _ rfl,
      counted .cameraRecoveryFailures _ rfl, balance]
  · rcases inv.once with none | ⟨one, _⟩ <;> omega
  · exact List.count_pos_iff.mp (by omega)

/-- The producer captures a frame, and then a capture times out and an attempt to rebuild the
camera waits for its delay. -/
def captureThenWait : List Action :=
  [.producer .go, .producer (.captured (smallCapture 4)), .producerAccess, .producerAccess,
    .producerAccess, .producer .go,
    .producer (.captured { smallCapture 4 with poll := .timeout }), .producerAccess,
    .producerAccess, .producer .go, .producerAccess, .producer (.slept false)]

/-- The connection breaks during the delay, and the attempt is left without an outcome. -/
theorem recovery_accounting_interrupted :
    ∃ (s : PipelineState twoFrames) (seen : List RebuildEvent),
      RebuildsRecorded twoFrames smallCamera s seen ∧ s.producer.ctl = .finished .stopped ∧
      seen = [.called 0, .attempted, .interrupted, .gaveUp true] ∧
      s.shared.stats .cameraRecoveryAttempts = 1 ∧ ∃ d,
        s.shared.stats .cameraRecoveryAttempts = s.shared.stats .cameraRecoverySuccesses +
          s.shared.stats .cameraRecoveryFailures + d ∧
        d ≤ 1 ∧ (d = 1 → .interrupted ∈ seen) := by
  obtain ⟨⟨s, seen⟩, recorded, ended, events, idle, attempts⟩ :
      ∃ r : PipelineState twoFrames × List RebuildEvent,
        RebuildsRecorded twoFrames smallCamera r.1 r.2 ∧ r.1.producer.ctl = .finished .stopped ∧
        r.2 = [.called 0, .attempted, .interrupted, .gaveUp true] ∧ r.1.producer.todo = [] ∧
        r.1.shared.stats .cameraRecoveryAttempts = 1 :=
    exists_reached (captureThenWait ++ handOver ++ breakOne ++
      [.producer (.slept false), .producer .go, .producer .go, .producerAccess]) (by decide +kernel)
  obtain ⟨_, _, _, _, counters⟩ := recovery_accounting recorded rfl
  exact ⟨s, seen, recorded, ended, events, attempts, (counters idle).2 (by rw [ended]; rfl)⟩

end V4l2Capture.Pipeline
