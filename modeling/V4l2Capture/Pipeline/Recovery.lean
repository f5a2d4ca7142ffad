import V4l2Capture.Camera.Capture
import V4l2Capture.Library.Streaks

/-!
# Recovery policies

The two controllers that decide when the producer rebuilds the camera. Their thresholds,
the cooldown and the budgets are parameters; the constructors reject the values that
`RecoveryLimits` rules out.
-/
namespace V4l2Capture.Pipeline

open Camera

/-- The recovery settings that pass the checks of `run_pipeline`. -/
structure RecoveryLimits where
  timeoutThreshold : Nat
  maxRecoveryAttempts : Nat
  invalidThreshold : Nat
  cooldownFrames : Nat
  maxRecoveries : Nat
  timeoutThreshold_pos : 0 < timeoutThreshold
  maxRecoveryAttempts_pos : 0 < maxRecoveryAttempts
  invalidThreshold_pos : 0 < invalidThreshold
  maxRecoveries_pos : 0 < maxRecoveries

structure CaptureRecoveryController where
  consecutiveTimeouts : Nat := 0
  recoveryAttempts : Nat := 0
  deriving DecidableEq, Repr

def CaptureRecoveryController.shouldReinitialize (limits : RecoveryLimits)
    (c : CaptureRecoveryController) :
    CameraCaptureErrorKind → Bool × CaptureRecoveryController
  | .timeout =>
    let c := { c with consecutiveTimeouts := c.consecutiveTimeouts + 1 }
    (c.consecutiveTimeouts ≥ limits.timeoutThreshold, c)
  -- `EAGAIN` neither extends nor ends a streak of timeouts.
  | .temporaryUnavailable => (false, c)
  | .deviceUnavailable => (true, c)
  | .streamFailure => (true, c)
  | .invalidBufferMetadata => (true, c)

def CaptureRecoveryController.beginRecoveryAttempt (limits : RecoveryLimits)
    (c : CaptureRecoveryController) : Bool × CaptureRecoveryController :=
  if c.recoveryAttempts ≥ limits.maxRecoveryAttempts then (false, c)
  else (true, { c with recoveryAttempts := c.recoveryAttempts + 1 })

def CaptureRecoveryController.onCaptureSuccess (_ : CaptureRecoveryController) :
    CaptureRecoveryController := { consecutiveTimeouts := 0, recoveryAttempts := 0 }

def CaptureRecoveryController.onRecoverySuccess (_ : CaptureRecoveryController) :
    CaptureRecoveryController := { consecutiveTimeouts := 0, recoveryAttempts := 0 }

inductive InvalidFrameDecision where
  | none
  | recover
  | suppressedByCooldown
  | suppressedByBudget
  deriving DecidableEq, Repr

structure InvalidFrameRecoveryController where
  consecutiveInvalid : Nat := 0
  peakInvalid : Nat := 0
  cooldownRemaining : Nat := 0
  recoveriesCompleted : Nat := 0
  suppressedByCooldown : Nat := 0
  suppressedByBudget : Nat := 0
  deriving DecidableEq, Repr

/-- The decision once the streak has reached the threshold. -/
def InvalidFrameRecoveryController.decide (limits : RecoveryLimits)
    (c : InvalidFrameRecoveryController) : InvalidFrameDecision × InvalidFrameRecoveryController :=
  if c.cooldownRemaining > 0 then
    (.suppressedByCooldown, { c with suppressedByCooldown := c.suppressedByCooldown + 1 })
  else if c.recoveriesCompleted ≥ limits.maxRecoveries then
    (.suppressedByBudget, { c with suppressedByBudget := c.suppressedByBudget + 1 })
  else (.recover, c)

def InvalidFrameRecoveryController.observe (limits : RecoveryLimits)
    (c : InvalidFrameRecoveryController) (frameValid : Bool) :
    InvalidFrameDecision × InvalidFrameRecoveryController :=
  -- The cooldown counts this frame before it is consulted.
  let c := { c with cooldownRemaining := c.cooldownRemaining - 1 }
  if frameValid then (.none, { c with consecutiveInvalid := 0 })
  else
    let c := { c with consecutiveInvalid := c.consecutiveInvalid + 1 }
    let c := { c with peakInvalid := max c.peakInvalid c.consecutiveInvalid }
    if c.consecutiveInvalid < limits.invalidThreshold then (.none, c)
    -- The streak starts anew, whether or not the rebuild is granted.
    else { c with consecutiveInvalid := 0 }.decide limits

def InvalidFrameRecoveryController.onInvalidFrameRecoverySuccess (limits : RecoveryLimits)
    (c : InvalidFrameRecoveryController) : InvalidFrameRecoveryController :=
  { c with
    consecutiveInvalid := 0
    cooldownRemaining := limits.cooldownFrames
    recoveriesCompleted := c.recoveriesCompleted + 1 }

def InvalidFrameRecoveryController.onExternalRecoverySuccess (limits : RecoveryLimits)
    (c : InvalidFrameRecoveryController) : InvalidFrameRecoveryController :=
  -- The cooldown starts here too, the budget is not touched.
  { c with consecutiveInvalid := 0, cooldownRemaining := limits.cooldownFrames }

/-! ### What the controllers guarantee -/

/-- A frame brings the streak and the cooldown at most one closer to a rebuild. -/
structure Observed (limits : RecoveryLimits) (c c' : InvalidFrameRecoveryController)
    (decision : InvalidFrameDecision) : Prop where
  completed : c'.recoveriesCompleted = c.recoveriesCompleted
  streak : c'.consecutiveInvalid ≤ c.consecutiveInvalid + 1
  cooldown : c.cooldownRemaining ≤ c'.cooldownRemaining + 1
  recover : decision = .recover → limits.invalidThreshold ≤ c.consecutiveInvalid + 1 ∧
    c.cooldownRemaining ≤ 1 ∧ c.recoveriesCompleted < limits.maxRecoveries

theorem observe_spec (limits : RecoveryLimits) (c : InvalidFrameRecoveryController)
    (frameValid : Bool) :
    Observed limits c (c.observe limits frameValid).2 (c.observe limits frameValid).1 := by
  simp only [InvalidFrameRecoveryController.observe, InvalidFrameRecoveryController.decide]
  split
  · exact ⟨rfl, by simp, by simp only; omega, by simp⟩
  split
  · exact ⟨rfl, by simp, by simp only; omega, by simp⟩
  next reached =>
    split
    · exact ⟨rfl, by simp, by simp only; omega, by simp⟩
    next cooled =>
      split
      · exact ⟨rfl, by simp, by simp only; omega, by simp⟩
      next room =>
        exact ⟨rfl, by simp, by simp only; omega, fun _ => ⟨by omega, by omega, by omega⟩⟩

theorem beginRecoveryAttempt_spec (limits : RecoveryLimits) (c : CaptureRecoveryController)
    (within : c.recoveryAttempts ≤ limits.maxRecoveryAttempts) :
    (c.beginRecoveryAttempt limits).2.recoveryAttempts =
        c.recoveryAttempts + (c.beginRecoveryAttempt limits).1.toNat ∧
      (c.beginRecoveryAttempt limits).2.recoveryAttempts ≤ limits.maxRecoveryAttempts := by
  rw [CaptureRecoveryController.beginRecoveryAttempt]
  split <;> simp <;> omega

/-! ### The peak of the streak -/

/-- The controller after a sequence of frames, with no rebuild in between. -/
def InvalidFrameRecoveryController.observeAll (limits : RecoveryLimits)
    (c : InvalidFrameRecoveryController) (frames : List Bool) : InvalidFrameRecoveryController :=
  frames.foldl (fun c frameValid => (c.observe limits frameValid).2) c

/-- What the controller knows of the frames so far: the length of the run they end with, up to
whole thresholds, and the longest streak it has counted. -/
structure Counts (limits : RecoveryLimits) (frames : List Bool)
    (c : InvalidFrameRecoveryController) : Prop where
  streak : c.consecutiveInvalid = Streaks.current false frames % limits.invalidThreshold
  peak : c.peakInvalid = min limits.invalidThreshold (Streaks.longest false frames)

/-- The streak and its peak do not depend on the decision. -/
theorem observe_streak (limits : RecoveryLimits) (c : InvalidFrameRecoveryController)
    (frameValid : Bool) :
    (c.observe limits frameValid).2.consecutiveInvalid =
        (if frameValid ∨ limits.invalidThreshold ≤ c.consecutiveInvalid + 1 then 0
          else c.consecutiveInvalid + 1) ∧
      (c.observe limits frameValid).2.peakInvalid =
        if frameValid then c.peakInvalid else max c.peakInvalid (c.consecutiveInvalid + 1) := by
  simp only [InvalidFrameRecoveryController.observe, InvalidFrameRecoveryController.decide]
  cases frameValid with
  | true => exact ⟨by simp, by simp⟩
  | false =>
    simp only [Bool.false_eq_true, if_false, false_or]
    by_cases reached : limits.invalidThreshold ≤ c.consecutiveInvalid + 1
    · rw [if_neg (Nat.not_lt.mpr reached), if_pos reached]
      split
      · exact ⟨rfl, rfl⟩
      split
      · exact ⟨rfl, rfl⟩
      · exact ⟨rfl, rfl⟩
    · rw [if_pos (Nat.lt_of_not_le reached), if_neg reached]
      exact ⟨rfl, rfl⟩

theorem observe_counts (limits : RecoveryLimits) (frames : List Bool)
    (c : InvalidFrameRecoveryController) (frameValid : Bool) (counts : Counts limits frames c) :
    Counts limits (frames ++ [frameValid]) (c.observe limits frameValid).2 := by
  obtain ⟨streak, peak⟩ := counts
  obtain ⟨streak', peak'⟩ := observe_streak limits c frameValid
  have within := Streaks.current_le_longest false frames
  have below := Nat.mod_lt (Streaks.current false frames) limits.invalidThreshold_pos
  cases frameValid with
  | true =>
    constructor
    · rw [streak', Streaks.current_concat]
      simp
    · rw [peak', Streaks.longest_concat, Streaks.current_concat]
      simpa using peak
  | false =>
    constructor
    · have step := Nat.mod_add_mod (Streaks.current false frames) limits.invalidThreshold 1
      simp only [streak', streak, Streaks.current_concat, ← step, Bool.false_eq_true, false_or,
        if_true]
      split
      next reached =>
        have full := Nat.le_antisymm (Nat.succ_le_of_lt below) reached
        rw [← Nat.succ_eq_add_one, full, Nat.mod_self]
      next short =>
        rw [Nat.mod_eq_of_lt (Nat.lt_of_not_le short)]
    · rw [peak', peak, streak, Streaks.longest_concat, Streaks.current_concat, if_pos rfl]
      simp only [Bool.false_eq_true, if_false]
      -- Behind the first threshold the peak has its final value.
      by_cases short : Streaks.current false frames < limits.invalidThreshold
      · rw [Nat.mod_eq_of_lt short]
        omega
      · omega

/-- However the frames come, the peak is the longest run of invalid ones, counted up to the
threshold: a streak that has reached it starts anew. -/
theorem peakInvalid_eq (limits : RecoveryLimits) (frames : List Bool) :
    (({} : InvalidFrameRecoveryController).observeAll limits frames).peakInvalid =
      min limits.invalidThreshold (Streaks.longest false frames) := by
  suffices counts : Counts limits frames
      (({} : InvalidFrameRecoveryController).observeAll limits frames) from counts.peak
  induction frames using List.reverseRecOn with
  | nil => exact ⟨by simp [InvalidFrameRecoveryController.observeAll],
      by simp [InvalidFrameRecoveryController.observeAll]⟩
  | append_singleton frames frameValid counted =>
    rw [InvalidFrameRecoveryController.observeAll, List.foldl_concat]
    exact observe_counts limits frames _ frameValid counted

/-- Four invalid frames under a threshold of three: the peak stays at three. -/
theorem peakInvalid_not_longest :
    ¬∀ (limits : RecoveryLimits) (frames : List Bool),
      (({} : InvalidFrameRecoveryController).observeAll limits frames).peakInvalid =
        Streaks.longest false frames := by
  intro longest
  have four := longest ⟨1, 1, 3, 5, 2, by decide, by decide, by decide, by decide⟩
    [false, false, false, false]
  revert four
  decide

end V4l2Capture.Pipeline
