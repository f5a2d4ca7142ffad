import V4l2Capture.Library.History
import V4l2Capture.Pipeline.Run

/-!
# The budget of the recovery policy

How often the invalid-frame policy starts a rebuild, how many attempts these take and how
far apart they are, in every run of the pipeline (`recovery_budget`).
-/
namespace V4l2Capture.Pipeline

open Camera History Transition

def ProducerEvent.isCaptured : ProducerEvent → Bool
  | .captured _ => true
  | _ => false

def ProducerEvent.isRebuilt : ProducerEvent → Bool
  | .rebuilt _ => true
  | _ => false

/-- The number of frames captured in a part of the history. -/
def frames (log : List ProducerEvent) : Nat := log.countP ProducerEvent.isCaptured

theorem frames_concat (log : List ProducerEvent) (event : ProducerEvent) :
    frames (log ++ [event]) = frames log + if event.isCaptured then 1 else 0 := by
  rw [frames, frames, List.countP_append, List.countP_singleton]

/-! ### Distance from the last rebuild -/

/-- Behind every rebuild the streak and the cooldown are bounded by the frames captured
since, and those are enough before the policy asks for another one. -/
structure Paced (limits : RecoveryLimits) (log : List ProducerEvent)
    (c : InvalidFrameRecoveryController) : Prop where
  since : Since log fun event rest => event.isRebuilt = true →
    c.consecutiveInvalid ≤ frames rest ∧
      limits.cooldownFrames ≤ c.cooldownRemaining + frames rest
  between : Between log (fun event => event.isRebuilt = true)
    (fun event => event = .rebuildStarted true)
    fun middle => max limits.invalidThreshold limits.cooldownFrames ≤ frames middle

section Paced

variable {limits : RecoveryLimits} {log : List ProducerEvent} {c : InvalidFrameRecoveryController}

/-- Other events leave the distance alone. -/
theorem Paced.note (paced : Paced limits log c) {event : ProducerEvent}
    (rebuilt : event.isRebuilt = false) (started : event ≠ .rebuildStarted true) :
    Paced limits (log ++ [event]) c where
  since := by
    rw [since_concat]
    refine ⟨fun mark => absurd mark (by simp [rebuilt]), paced.since.imp fun _ rest far mark => ?_⟩
    have far := far mark
    rw [frames_concat]
    omega
  between := by
    rw [between_concat]
    exact ⟨paced.between, fun target => absurd target started⟩

theorem Paced.observe (paced : Paced limits log c) (valid : Bool) :
    Paced limits (log ++ [.captured valid]) (c.observe limits valid).2 where
  since := by
    have observed := observe_spec limits c valid
    rw [since_concat]
    refine ⟨nofun, paced.since.imp fun _ rest far mark => ?_⟩
    have far := far mark
    have streak := observed.streak
    have cooldown := observed.cooldown
    rw [frames_concat]
    simp only [ProducerEvent.isCaptured, if_true]
    omega
  between := by
    rw [between_concat]
    exact ⟨paced.between, nofun⟩

/-- The policy asks for a rebuild behind a frame. -/
theorem Paced.recover (paced : Paced limits log c) {valid : Bool}
    (decision : (c.observe limits valid).1 = .recover) :
    Paced limits (log ++ [.captured valid] ++ [.rebuildStarted true]) (c.observe limits valid).2 where
  since := by
    rw [since_concat]
    refine ⟨nofun, (paced.observe valid).since.imp fun _ rest far mark => ?_⟩
    have far := far mark
    rw [frames_concat]
    omega
  between := by
    rw [between_concat]
    refine ⟨(paced.observe valid).between, fun _ => ?_⟩
    rw [since_concat]
    refine ⟨nofun, paced.since.imp fun _ rest far mark => ?_⟩
    have far := far mark
    -- The frame that completes the streak is captured too, hence the strict bounds add up.
    obtain ⟨reached, cool, _⟩ := (observe_spec limits c valid).recover decision
    rw [frames_concat]
    simp only [ProducerEvent.isCaptured, if_true]
    omega

/-- A rebuild starts the count anew. -/
theorem Paced.rebuilt (paced : Paced limits log c) (byInvalid : Bool)
    {c' : InvalidFrameRecoveryController} (streak : c'.consecutiveInvalid = 0)
    (cooldown : c'.cooldownRemaining = limits.cooldownFrames) :
    Paced limits (log ++ [.rebuilt byInvalid]) c' where
  since := by
    rw [since_concat]
    refine ⟨fun _ => ⟨by omega, by omega⟩, paced.since.imp fun _ rest _ _ => ?_⟩
    omega
  between := by
    rw [between_concat]
    exact ⟨paced.between, nofun⟩

end Paced

/-! ### The rebuilds that the policy started -/

/-- In a rebuild that an invalid frame triggered. -/
@[simp] def ProducerCtl.rebuildingInvalid : ProducerCtl → Bool
  | .rebuildHead byInvalid => byInvalid
  | .rebuildSleep byInvalid => byInvalid
  | .rebuildOpen byInvalid => byInvalid
  | .rebuildFailed byInvalid => byInvalid
  | _ => false

/-- No frame is captured any more. -/
@[simp] def ProducerCtl.capturesNoMore (stop : Bool) : ProducerCtl → Bool
  | .loopHead => stop
  | .recoveryExhausted => true
  | .finished _ => true
  | _ => false

/-- What was started of the budget: all of it is completed, or one rebuild is still under
way or was the last thing to happen. -/
inductive Budget (limits : RecoveryLimits) (stop : Bool) (p : Producer) : Prop
  | landed (outside : p.ctl.rebuildingInvalid = false)
      (started : p.log.count (.rebuildStarted true) = p.invalidFrames.recoveriesCompleted)
      (within : p.invalidFrames.recoveriesCompleted ≤ limits.maxRecoveries)
      (attempts : p.log.count (.rebuildAttempt true) ≤
        limits.maxRecoveryAttempts * p.invalidFrames.recoveriesCompleted)
  | underway (inside : p.ctl.rebuildingInvalid = true ∨ p.ctl.capturesNoMore stop = true)
      (started : p.log.count (.rebuildStarted true) = p.invalidFrames.recoveriesCompleted + 1)
      (within : p.invalidFrames.recoveriesCompleted < limits.maxRecoveries)
      (attempts : p.log.count (.rebuildAttempt true) ≤
        limits.maxRecoveryAttempts * p.invalidFrames.recoveriesCompleted +
          p.recovery.recoveryAttempts)

structure RecoveryInv (cfg : PipelineConfig) (s : Shared cfg) (p : Producer) : Prop where
  counted : s.stats .cameraInvalidFrameRecoveries + adds .cameraInvalidFrameRecoveries p.todo =
    p.log.count (.rebuildStarted true)
  completed : p.invalidFrames.recoveriesCompleted = p.log.count (.rebuilt true)
  limit : p.recovery.recoveryAttempts ≤ cfg.limits.maxRecoveryAttempts
  budget : Budget cfg.limits s.stopRequested p
  paced : Paced cfg.limits p.log p.invalidFrames

theorem RecoveryInv.initial (cfg : PipelineConfig) (camera : CameraDevice) :
    RecoveryInv cfg (Shared.initial cfg) { camera := camera } where
  counted := rfl
  completed := rfl
  limit := Nat.zero_le _
  budget := .landed rfl rfl (Nat.zero_le _) (Nat.zero_le _)
  paced := ⟨since_nil _, between_nil _ _ _⟩

/-- Events that concern neither the budget nor the distances. -/
def ProducerEvent.IsNote (event : ProducerEvent) : Prop :=
  event.isRebuilt = false ∧ event ≠ .rebuildStarted true ∧ event ≠ .rebuildAttempt true

theorem Paced.notes {limits : RecoveryLimits} {log notes : List ProducerEvent}
    {c : InvalidFrameRecoveryController} (paced : Paced limits log c)
    (all : ∀ event ∈ notes, event.IsNote) : Paced limits (log ++ notes) c := by
  induction notes generalizing log with
  | nil => rwa [List.append_nil]
  | cons event notes ih =>
    obtain ⟨⟨rebuilt, started, _⟩, others⟩ := List.forall_mem_cons.mp all
    rw [List.append_cons]
    exact ih (paced.note rebuilt started) others

theorem count_notes {notes : List ProducerEvent} (all : ∀ event ∈ notes, event.IsNote) :
    notes.count (.rebuildStarted true) = 0 ∧ notes.count (.rebuildAttempt true) = 0 ∧
      notes.count (.rebuilt true) = 0 := by
  refine ⟨List.count_eq_zero.mpr fun member => ?_, List.count_eq_zero.mpr fun member => ?_,
    List.count_eq_zero.mpr fun member => ?_⟩
  · exact (all _ member).2.1 rfl
  · exact (all _ member).2.2 rfl
  · cases (all _ member).1

section Steps

variable {cfg : PipelineConfig} {s s' : Shared cfg} {p p' : Producer}

/-- Going on without any event that concerns the budget. -/
theorem Budget.move {limits : RecoveryLimits} {stop stop' : Bool} (budget : Budget limits stop p)
    (started : p'.log.count (.rebuildStarted true) = p.log.count (.rebuildStarted true))
    (attempts : p'.log.count (.rebuildAttempt true) = p.log.count (.rebuildAttempt true))
    (completed : p'.invalidFrames.recoveriesCompleted = p.invalidFrames.recoveriesCompleted)
    (further : p.recovery.recoveryAttempts ≤ p'.recovery.recoveryAttempts)
    (inside : p'.ctl.rebuildingInvalid = true → p.ctl.rebuildingInvalid = true)
    (goes : p.ctl.rebuildingInvalid = true ∨ p.ctl.capturesNoMore stop = true →
      p'.ctl.rebuildingInvalid = true ∨ p'.ctl.capturesNoMore stop' = true) :
    Budget limits stop' p' := by
  cases budget with
  | landed outside started' within attempts' =>
    refine .landed ?_ (by rw [started, completed, started']) (by rw [completed]; exact within)
      (by rw [attempts, completed]; exact attempts')
    rw [Bool.eq_false_iff] at outside ⊢
    exact fun now => outside (inside now)
  | underway here started' within attempts' =>
    refine .underway (goes here) (by rw [started, completed, started'])
      (by rw [completed]; exact within) ?_
    rw [attempts, completed]
    omega

theorem RecoveryInv.move (inv : RecoveryInv cfg s p) (idle : p.todo = [])
    (notes : List ProducerEvent) (all : ∀ event ∈ notes, event.IsNote)
    (log : p'.log = p.log ++ notes) (invalid : p'.invalidFrames = p.invalidFrames)
    (todo : adds .cameraInvalidFrameRecoveries p'.todo = 0)
    (further : p.recovery.recoveryAttempts ≤ p'.recovery.recoveryAttempts)
    (limit : p'.recovery.recoveryAttempts ≤ cfg.limits.maxRecoveryAttempts)
    (inside : p'.ctl.rebuildingInvalid = true → p.ctl.rebuildingInvalid = true)
    (goes : p.ctl.rebuildingInvalid = true ∨ p.ctl.capturesNoMore s.stopRequested = true →
      p'.ctl.rebuildingInvalid = true ∨ p'.ctl.capturesNoMore s.stopRequested = true) :
    RecoveryInv cfg s p' := by
  obtain ⟨started, attempts, rebuilt⟩ := count_notes all
  have counted := inv.counted
  rw [idle, adds_nil] at counted
  exact {
    counted := by rw [todo, log, List.count_append, started]; exact counted
    completed := by rw [invalid, log, List.count_append, rebuilt]; exact inv.completed
    limit := limit
    budget := inv.budget.move (by rw [log, List.count_append, started]; rfl)
      (by rw [log, List.count_append, attempts]; rfl) (by rw [invalid]) further inside goes
    paced := by rw [log, invalid]; exact inv.paced.notes all }

theorem RecoveryInv.untouched (inv : RecoveryInv cfg s p) (same : Untouched .producer s s') :
    RecoveryInv cfg s' p :=
  { inv with
    counted := by rw [same.stats _ rfl]; exact inv.counted
    budget := inv.budget.move rfl rfl rfl le_rfl id fun here => by
      cases ctl : p.ctl <;> simp_all [same.stop] }

theorem RecoveryInv.exec {op : Op} {rest : List Op} (inv : RecoveryInv cfg s p)
    (next : p.todo = op :: rest) : RecoveryInv cfg (op.exec s) { p with todo := rest } :=
  { inv with
    counted := by rw [exec_adds, ← next]; exact inv.counted
    budget := inv.budget.move rfl rfl rfl le_rfl id fun here => by
      have stays := (exec_raises s op).2.2.2
      cases ctl : p.ctl <;> simp_all }

/-- Outside of every rebuild, and while frames are still captured, nothing is under way. -/
theorem Budget.settled {limits : RecoveryLimits} {stop : Bool} (budget : Budget limits stop p)
    (outside : p.ctl.rebuildingInvalid = false) (going : p.ctl.capturesNoMore stop = false) :
    p.log.count (.rebuildStarted true) = p.invalidFrames.recoveriesCompleted ∧
      p.invalidFrames.recoveriesCompleted ≤ limits.maxRecoveries ∧
      p.log.count (.rebuildAttempt true) ≤
        limits.maxRecoveryAttempts * p.invalidFrames.recoveriesCompleted := by
  cases budget with
  | landed _ started within attempts => exact ⟨started, within, attempts⟩
  | underway inside =>
    rw [outside, going] at inside
    rcases inside with inside | inside <;> cases inside

/-- In a rebuild that an invalid frame triggered one more is started than completed. -/
theorem Budget.inside {limits : RecoveryLimits} {stop : Bool} (budget : Budget limits stop p)
    (inside : p.ctl.rebuildingInvalid = true) :
    p.log.count (.rebuildStarted true) = p.invalidFrames.recoveriesCompleted + 1 ∧
      p.invalidFrames.recoveriesCompleted < limits.maxRecoveries ∧
      p.log.count (.rebuildAttempt true) ≤
        limits.maxRecoveryAttempts * p.invalidFrames.recoveriesCompleted +
          p.recovery.recoveryAttempts := by
  cases budget with
  | landed outside => rw [outside] at inside; cases inside
  | underway _ started within attempts => exact ⟨started, within, attempts⟩

theorem decisionOps_adds (cfg : PipelineConfig) (decision : InvalidFrameDecision) :
    adds .cameraInvalidFrameRecoveries (decisionOps cfg decision) =
      if decision = .recover ∧ cfg.cameraRecoveryEnabled = true then 1 else 0 := by
  cases decision with
  | recover =>
    rw [decisionOps]
    split <;> simp [*]
  | _ => simp [decisionOps]

theorem RecoveryInv.capture (inv : RecoveryInv cfg s p) (idle : p.todo = [])
    (at_capture : p.ctl = .capture) (frame : Frame) :
    RecoveryInv cfg s (p.afterCapture cfg frame) := by
  obtain ⟨started, within, attempts⟩ :=
    inv.budget.settled (by rw [at_capture]; rfl) (by rw [at_capture]; rfl)
  have counted := inv.counted
  rw [idle, adds_nil, Nat.add_zero] at counted
  have observed := observe_spec cfg.limits p.invalidFrames (isFrameUsable frame)
  have completed : (p.afterCapture cfg frame).invalidFrames.recoveriesCompleted =
      p.invalidFrames.recoveriesCompleted := observed.completed
  have before := inv.completed
  have todo : adds .cameraInvalidFrameRecoveries (p.afterCapture cfg frame).todo =
      if (p.invalidFrames.observe cfg.limits (isFrameUsable frame)).1 = .recover ∧
        cfg.cameraRecoveryEnabled = true then 1 else 0 := by
    rw [Producer.afterCapture, adds_append, frameOps_adds (by decide), decisionOps_adds,
      Nat.zero_add]
  by_cases rebuild : (p.invalidFrames.observe cfg.limits (isFrameUsable frame)).1 = .recover ∧
      cfg.cameraRecoveryEnabled = true
  -- The budget is checked where the rebuild starts, and charged where it succeeds.
  · have log : (p.afterCapture cfg frame).log =
        p.log ++ [.captured (isFrameUsable frame)] ++ [.rebuildStarted true] := by
      simp [Producer.afterCapture, rebuild]
    rw [if_pos rebuild] at todo
    exact {
      counted := by simp [log, todo, counted]
      completed := by simp [log, completed, before]
      limit := Nat.zero_le _
      budget := .underway (.inl (by simp [Producer.afterCapture, rebuild]))
        (by simp [log, completed, started])
        (by rw [completed]; exact (observed.recover rebuild.1).2.2)
        (by simp [log, completed]; omega)
      paced := by rw [log]; exact inv.paced.recover rebuild.1 }
  · have log : (p.afterCapture cfg frame).log = p.log ++ [.captured (isFrameUsable frame)] := by
      simp only [Producer.afterCapture, if_neg rebuild]
    rw [if_neg rebuild] at todo
    exact {
      counted := by simp [log, todo, counted]
      completed := by simp [log, completed, before]
      limit := Nat.zero_le _
      budget := .landed (by simp only [Producer.afterCapture, if_neg rebuild]; rfl)
        (by simp [log, completed, started]) (by rw [completed]; exact within)
        (by simp [log, completed]; exact attempts)
      paced := by rw [log]; exact inv.paced.observe _ }

theorem shouldReinitialize_attempts (limits : RecoveryLimits) (c : CaptureRecoveryController)
    (kind : CameraCaptureErrorKind) :
    (Prod.snd <| c.shouldReinitialize limits kind).recoveryAttempts = c.recoveryAttempts := by
  cases kind <;> rfl

theorem RecoveryInv.captureError (inv : RecoveryInv cfg s p) (idle : p.todo = [])
    (at_capture : p.ctl = .capture) (error : CameraCaptureError) :
    RecoveryInv cfg s (p.afterCaptureError cfg error) := by
  have attempts := shouldReinitialize_attempts cfg.limits p.recovery error.kind
  have limit := inv.limit
  have todo : adds .cameraInvalidFrameRecoveries (captureErrorOps error) = 0 :=
    captureErrorOps_adds (by decide) error
  have notes : ∀ event ∈ [ProducerEvent.captureFailed (.captureError error),
      .policyAsked error.kind], event.IsNote := by
    simp [ProducerEvent.IsNote, ProducerEvent.isRebuilt]
  have more : ∀ event ∈ [ProducerEvent.captureFailed (.captureError error),
      .policyAsked error.kind, .rebuildStarted false], event.IsNote := by
    simp [ProducerEvent.IsNote, ProducerEvent.isRebuilt]
  rw [Producer.afterCaptureError]
  simp only
  split
  · exact inv.move idle _ notes rfl rfl todo attempts.ge (attempts.le.trans limit) (by simp)
      (by simp [at_capture])
  split
  · refine inv.move idle _ notes rfl rfl ?_ attempts.ge (attempts.le.trans limit)
      (by simp [Producer.fail]) (by simp [at_capture])
    simp [Producer.fail, todo]
  · exact inv.move idle _ more (by simp) rfl todo attempts.ge (attempts.le.trans limit) (by simp)
      (by simp [at_capture])

/-- An attempt of a rebuild. -/
theorem RecoveryInv.attempt (inv : RecoveryInv cfg s p) (idle : p.todo = []) {byInvalid : Bool}
    (at_head : p.ctl = .rebuildHead byInvalid) :
    RecoveryInv cfg s (p.beginAttempt cfg byInvalid) := by
  obtain ⟨attempts, limit⟩ := beginRecoveryAttempt_spec cfg.limits p.recovery inv.limit
  rw [Producer.beginAttempt]
  split
  next begun =>
    rw [begun] at attempts
    cases byInvalid with
    | false =>
      exact inv.move idle [.rebuildAttempt false]
        (by simp [ProducerEvent.IsNote, ProducerEvent.isRebuilt]) rfl rfl (by simp)
        (by simp only; omega) limit (by simp) (by simp [at_head])
    | true =>
      -- One attempt more, in the log and in the controller.
      obtain ⟨started, within, before⟩ := inv.budget.inside (by rw [at_head]; rfl)
      have counted := inv.counted
      rw [idle, adds_nil, Nat.add_zero] at counted
      exact {
        counted := by simp [counted]
        completed := by simp [inv.completed]
        limit := limit
        budget := .underway (.inl rfl) (by simp [started]) within
          (by simp only [List.count_append, List.count_singleton_self]
              rw [attempts, Bool.toNat_true]
              omega)
        paced := inv.paced.note rfl (by simp) }
  next =>
    exact inv.move idle [] (by simp) (by simp) rfl (by simp [idle])
      (by simp only; omega) limit (by simp [at_head]) (by simp [at_head])

/-- A successful rebuild; only one that an invalid frame triggered is charged. -/
theorem RecoveryInv.rebuilt (inv : RecoveryInv cfg s p) (idle : p.todo = []) {byInvalid : Bool}
    (at_open : p.ctl = .rebuildOpen byInvalid) (camera : CameraDevice) :
    RecoveryInv cfg s (p.afterRebuild cfg byInvalid camera) := by
  have counted := inv.counted
  rw [idle, adds_nil, Nat.add_zero] at counted
  have completed := inv.completed
  cases byInvalid with
  | true =>
    obtain ⟨started, within, attempts⟩ := inv.budget.inside (by rw [at_open]; rfl)
    have limit := inv.limit
    exact {
      counted := by simp [Producer.afterRebuild, counted]
      completed := by
        simp [Producer.afterRebuild, InvalidFrameRecoveryController.onInvalidFrameRecoverySuccess,
          completed]
      limit := Nat.zero_le _
      budget := .landed rfl
        (by simp [Producer.afterRebuild,
          InvalidFrameRecoveryController.onInvalidFrameRecoverySuccess, started])
        within
        (by
          simp only [Producer.afterRebuild, if_true, List.count_append,
            InvalidFrameRecoveryController.onInvalidFrameRecoverySuccess, Nat.mul_add, Nat.mul_one]
          rw [List.count_singleton, if_neg (by decide)]
          omega)
      paced := inv.paced.rebuilt true rfl rfl }
  | false =>
    obtain ⟨started, within, attempts⟩ :=
      inv.budget.settled (by rw [at_open]; rfl) (by rw [at_open]; rfl)
    exact {
      counted := by simp [Producer.afterRebuild, counted]
      completed := by
        simp [Producer.afterRebuild, InvalidFrameRecoveryController.onExternalRecoverySuccess,
          completed]
      limit := Nat.zero_le _
      budget := .landed rfl
        (by simp [Producer.afterRebuild, InvalidFrameRecoveryController.onExternalRecoverySuccess,
          started])
        within
        (by simpa [Producer.afterRebuild, InvalidFrameRecoveryController.onExternalRecoverySuccess]
          using attempts)
      paced := inv.paced.rebuilt false rfl rfl }

theorem RecoveryInv.control (inv : RecoveryInv cfg s p) (idle : p.todo = [])
    (step : ProducerStep cfg s.stopRequested p p') : RecoveryInv cfg s p' := by
  have limit := inv.limit
  have todo : adds .cameraInvalidFrameRecoveries p.todo = 0 := by rw [idle]; rfl
  have same : p.log = p.log ++ [] := (List.append_nil _).symm
  cases step with
  | complete at_head =>
    exact inv.move idle [] (by simp) same rfl rfl le_rfl limit (by simp [Producer.finish])
      (by simp [Producer.finish])
  | stopped at_head =>
    exact inv.move idle [] (by simp) same rfl rfl le_rfl limit (by simp [Producer.finish])
      (by simp [Producer.finish])
  | again at_head running =>
    exact inv.move idle [] (by simp) same rfl todo le_rfl limit (by simp) (by simp [at_head, running])
  | captured at_capture calls =>
    have noted : RecoveryInv cfg s { p with captures := p.captures ++ [(p.camera, calls)] } :=
      { inv with budget := inv.budget.move rfl rfl rfl le_rfl id id }
    rw [Producer.afterCalls]
    simp only
    split
    next frame _ => exact noted.capture idle at_capture frame
    next error _ => exact noted.captureError idle at_capture error
    next message _ =>
      exact inv.move idle [.captureFailed (.runtimeError message)]
        (by simp [ProducerEvent.IsNote, ProducerEvent.isRebuilt]) rfl rfl rfl le_rfl limit
        (by simp [Producer.fail]) (by simp [at_capture])
  | attempt byInvalid at_head => exact inv.attempt idle at_head
  -- A rebuild that is given up for a stop stays uncharged, but no frame follows it.
  | interrupted byInvalid at_rebuild =>
    rcases at_rebuild with at_rebuild | at_rebuild <;>
      exact inv.move idle [] (by simp) same rfl todo le_rfl limit (by simp [at_rebuild])
        (by simp [at_rebuild])
  | slept byInvalid at_sleep =>
    exact inv.move idle [] (by simp) same rfl todo le_rfl limit (by simp [at_sleep])
      (by simp [at_sleep])
  | sleeping => exact inv
  | rebuilt byInvalid at_open camera => exact inv.rebuilt idle at_open camera
  | openFailed byInvalid at_open =>
    exact inv.move idle [] (by simp) same rfl rfl le_rfl limit
      (by simp [at_open, Producer.afterOpenFailure]) (by simp [at_open, Producer.afterOpenFailure])
  | givenUp byInvalid at_failed stopping =>
    exact inv.move idle [] (by simp) same rfl todo le_rfl limit (by simp) (by simp [stopping])
  | exhausted byInvalid at_failed =>
    exact inv.move idle [] (by simp) same rfl todo le_rfl limit (by simp) (by simp)
  | thrown at_exhausted =>
    exact inv.move idle [] (by simp) same rfl rfl le_rfl limit (by simp [Producer.fail])
      (by simp [Producer.fail])

end Steps

theorem reachable_recoveryInv {cfg : PipelineConfig} {camera : CameraDevice} {s : PipelineState cfg}
    (reached : Reachable cfg camera s) : RecoveryInv cfg s.shared s.producer :=
  producer_invariant (RecoveryInv cfg) (RecoveryInv.initial cfg camera)
    (fun _ _ _ inv same => inv.untouched same) (fun _ _ _ _ inv next => inv.exec next)
    (fun _ _ _ inv idle step => inv.control idle step) reached

/-- In every run the invalid-frame policy starts at most `B` rebuilds, with at most `A * B`
attempts; only these are charged to its budget; and behind a rebuild of either cause at
least `max T C` frames are captured before it asks for one. -/
theorem recovery_budget {cfg : PipelineConfig} {camera : CameraDevice} {s : PipelineState cfg}
    (reached : Reachable cfg camera s) :
    s.shared.stats .cameraInvalidFrameRecoveries ≤ cfg.limits.maxRecoveries ∧
      s.producer.log.count (.rebuildStarted true) ≤ cfg.limits.maxRecoveries ∧
      s.producer.log.count (.rebuildAttempt true) ≤
        cfg.limits.maxRecoveryAttempts * cfg.limits.maxRecoveries ∧
      s.producer.invalidFrames.recoveriesCompleted ≤ cfg.limits.maxRecoveries ∧
      s.producer.invalidFrames.recoveriesCompleted = s.producer.log.count (.rebuilt true) ∧
      ∀ before byInvalid middle after,
        s.producer.log = before ++ .rebuilt byInvalid :: middle ++ .rebuildStarted true :: after →
        max cfg.limits.invalidThreshold cfg.limits.cooldownFrames ≤
          middle.countP ProducerEvent.isCaptured := by
  have inv := reachable_recoveryInv reached
  have counted := inv.counted
  have bounds : s.producer.log.count (.rebuildStarted true) ≤ cfg.limits.maxRecoveries ∧
      s.producer.log.count (.rebuildAttempt true) ≤
        cfg.limits.maxRecoveryAttempts * cfg.limits.maxRecoveries ∧
      s.producer.invalidFrames.recoveriesCompleted ≤ cfg.limits.maxRecoveries := by
    cases inv.budget with
    | landed _ started within attempts =>
      exact ⟨by omega, attempts.trans (Nat.mul_le_mul_left _ within), within⟩
    -- The attempts of the rebuild under way come on top of those of the completed ones.
    | underway _ started within attempts =>
      refine ⟨by omega, ?_, within.le⟩
      calc s.producer.log.count (.rebuildAttempt true)
          ≤ cfg.limits.maxRecoveryAttempts * s.producer.invalidFrames.recoveriesCompleted +
              s.producer.recovery.recoveryAttempts := attempts
        _ ≤ cfg.limits.maxRecoveryAttempts * (s.producer.invalidFrames.recoveriesCompleted + 1) := by
            rw [Nat.mul_add, Nat.mul_one]
            exact Nat.add_le_add_left inv.limit _
        _ ≤ cfg.limits.maxRecoveryAttempts * cfg.limits.maxRecoveries :=
            Nat.mul_le_mul_left _ within
  obtain ⟨started, attempts, completed⟩ := bounds
  refine ⟨by omega, started, attempts, completed, inv.completed, ?_⟩
  intro before byInvalid middle after shape
  exact inv.paced.between (.rebuilt byInvalid) middle _ after rfl rfl
    ⟨before, by rw [shape, List.append_assoc]⟩

/-- Three frames and a budget of two rebuilds. -/
def recoveryConfig : PipelineConfig :=
  { smallConfig with
    frameCount := 3
    limits := ⟨1, 1, 1, 2, 2, Nat.one_pos, Nat.one_pos, Nat.one_pos, Nat.two_pos⟩
    frameCount_pos := by decide }

/-- Only incomplete frames: a rebuild behind the first, none behind the second because of
the cooldown, and the next one behind the third. -/
def incompleteFrames : List Action :=
  [.producer .go, .producer (.captured (smallCapture 2)), .producerAccess, .producerAccess,
    .producerAccess, .producerAccess, .producerAccess,
    .producer .go, .producerAccess, .producer (.slept true), .producer (.opened smallCamera),
    .producerAccess, .producerAccess, .producerAccess,
    .producer .go, .producer (.captured (smallCapture 2)), .producerAccess, .producerAccess,
    .producerAccess, .producerAccess, .producerAccess,
    .producer .go, .producer (.captured (smallCapture 2))]

theorem recovery_budget_twice :
    ∃ s : PipelineState recoveryConfig, Reachable recoveryConfig smallCamera s ∧
      s.producer.log.count (.rebuildStarted true) = 2 ∧
      s.producer.log.count (.rebuildAttempt true) ≤ 2 := by
  obtain ⟨s, reached, started⟩ : ∃ s, Reachable recoveryConfig smallCamera s ∧
      s.producer.log.count (.rebuildStarted true) = 2 :=
    exists_reached incompleteFrames (by decide +kernel)
  exact ⟨s, reached, started, (recovery_budget reached).2.2.1⟩

end V4l2Capture.Pipeline
