import V4l2Capture.Library.History
import V4l2Capture.Pipeline.Run

/-!
# Timeouts

The recovery controller counts timeouts. `TimeoutInv` says what that count is of the history,
and which of the timeouts start a rebuild.
-/
namespace V4l2Capture.Pipeline

open Camera History

/-- What the controller begins to count anew behind. -/
def ProducerEvent.endsTimeouts : ProducerEvent → Bool
  | .captured _ => true
  | .rebuilt _ => true
  | _ => false

/-- The timeouts since the last captured frame or successful rebuild. -/
def timeoutStreak (log : List ProducerEvent) : Nat :=
  (behind ProducerEvent.endsTimeouts log).count (.policyAsked .timeout)

theorem timeoutStreak_concat (log : List ProducerEvent) (event : ProducerEvent) :
    timeoutStreak (log ++ [event]) = if event.endsTimeouts then 0 else
      timeoutStreak log + if event = .policyAsked .timeout then 1 else 0 := by
  rw [timeoutStreak, behind_concat]
  split
  · rfl
  · simp [timeoutStreak, List.count_cons]

theorem timeoutStreak_note (log : List ProducerEvent) (event : ProducerEvent)
    (goesOn : event.endsTimeouts = false) (asked : event ≠ .policyAsked .timeout) :
    timeoutStreak (log ++ [event]) = timeoutStreak log := by
  rw [timeoutStreak_concat, goesOn, if_neg nofun, if_neg asked, Nat.add_zero]

theorem timeoutStreak_failure (log : List ProducerEvent) (result : CaptureResult)
    (kind : CameraCaptureErrorKind) (rebuild : Bool) :
    timeoutStreak (log ++ .captureFailed result :: .policyAsked kind ::
        if rebuild then [.rebuildStarted false] else []) =
      timeoutStreak log + if kind = .timeout then 1 else 0 := by
  have asked : timeoutStreak (log ++ [.captureFailed result] ++ [.policyAsked kind]) =
      timeoutStreak log + if kind = .timeout then 1 else 0 := by
    rw [timeoutStreak_concat, timeoutStreak_note log (.captureFailed result) rfl nofun,
      if_neg (by simp [ProducerEvent.endsTimeouts])]
    simp
  cases rebuild with
  | false => simpa using asked
  | true =>
    have answered := timeoutStreak_note (log ++ [.captureFailed result] ++ [.policyAsked kind])
      (.rebuildStarted false) rfl nofun
    rw [← asked, ← answered]
    simp

/-- A timeout starts a rebuild right away if it completes the threshold, and only then. -/
def TimeoutRule (limits : RecoveryLimits) (log : List ProducerEvent) : Prop :=
  ∀ before after, log = before ++ .policyAsked .timeout :: after →
    ((∃ more, after = .rebuildStarted false :: more) ↔
      timeoutStreak before + 1 = limits.timeoutThreshold)

theorem TimeoutRule.nil (limits : RecoveryLimits) : TimeoutRule limits [] := by
  intro before after shape
  simp at shape

/-- More of the history: no answer comes late, and the timeouts in it keep the rule. -/
theorem TimeoutRule.append {limits : RecoveryLimits} {log notes : List ProducerEvent}
    (rule : TimeoutRule limits log) (late : notes.head? ≠ some (.rebuildStarted false))
    (new : ∀ before after, notes = before ++ .policyAsked .timeout :: after →
      ((∃ more, after = .rebuildStarted false :: more) ↔
        timeoutStreak (log ++ before) + 1 = limits.timeoutThreshold)) :
    TimeoutRule limits (log ++ notes) := by
  intro before after shape
  rcases List.append_eq_append_iff.mp shape with ⟨pre, rfl, inside⟩ | ⟨rest, earlier, behind⟩
  · exact new pre after inside
  cases rest with
  | nil =>
    rw [List.append_nil] at earlier
    subst earlier
    exact (List.append_nil log) ▸ new [] after behind.symm
  | cons first rest =>
    cases behind
    rw [← rule before rest earlier]
    constructor
    · rintro ⟨more, answer⟩
      cases rest with
      | nil => exact absurd (congrArg List.head? answer) late
      | cons first rest => cases answer; exact ⟨rest, rfl⟩
    · rintro ⟨more, rfl⟩
      exact ⟨more ++ notes, rfl⟩

theorem TimeoutRule.notes {limits : RecoveryLimits} {log notes : List ProducerEvent}
    (rule : TimeoutRule limits log) (late : notes.head? ≠ some (.rebuildStarted false))
    (other : .policyAsked .timeout ∉ notes) : TimeoutRule limits (log ++ notes) := by
  refine rule.append late fun before after shape => ?_
  rw [shape] at other
  exact absurd (List.mem_append_right _ List.mem_cons_self) other

/-- A timeout with or without an answer. -/
theorem TimeoutRule.timeout {limits : RecoveryLimits} {log : List ProducerEvent}
    (rule : TimeoutRule limits log) (result : CaptureResult) {rebuild : Bool}
    (decided : rebuild = true ↔ timeoutStreak log + 1 = limits.timeoutThreshold) :
    TimeoutRule limits (log ++ .captureFailed result :: .policyAsked .timeout ::
      if rebuild then [.rebuildStarted false] else []) := by
  refine rule.append nofun fun before after shape => ?_
  have answer : .policyAsked .timeout ∉
      if rebuild then [ProducerEvent.rebuildStarted false] else [] := by
    cases rebuild <;> simp
  -- The question stands at the second place, and nowhere else.
  obtain ⟨rfl, rfl⟩ : before = [.captureFailed result] ∧
      after = if rebuild then [.rebuildStarted false] else [] := by
    match before with
    | [] => simp at shape
    | [_] => cases shape; exact ⟨rfl, rfl⟩
    | _ :: _ :: before =>
      injection shape with _ shape
      injection shape with _ shape
      rw [shape] at answer
      exact absurd (List.mem_append_right before List.mem_cons_self) answer
  rw [timeoutStreak_note log (.captureFailed result) rfl nofun, ← decided]
  cases rebuild <;> simp

/-! ### The invariant -/

/-- Where another capture can follow, the threshold is not reached. -/
def Short (limits : RecoveryLimits) (stop : Bool) (p : Producer) : Prop :=
  match p.ctl with
  | .capture => p.recovery.consecutiveTimeouts < limits.timeoutThreshold
  | .loopHead => stop = true ∨ p.recovery.consecutiveTimeouts < limits.timeoutThreshold
  | _ => True

structure TimeoutInv (cfg : PipelineConfig) (s : Shared cfg) (p : Producer) : Prop where
  streak : p.recovery.consecutiveTimeouts = timeoutStreak p.log
  within : p.recovery.consecutiveTimeouts ≤ cfg.limits.timeoutThreshold
  short : Short cfg.limits s.stopRequested p
  rule : cfg.cameraRecoveryEnabled = true → TimeoutRule cfg.limits p.log

theorem shouldReinitialize_timeouts (limits : RecoveryLimits) (c : CaptureRecoveryController)
    (kind : CameraCaptureErrorKind) :
    (c.shouldReinitialize limits kind).2.consecutiveTimeouts =
        c.consecutiveTimeouts + (if kind = .timeout then 1 else 0) ∧
      (kind = .timeout → ((c.shouldReinitialize limits kind).1 = true ↔
        limits.timeoutThreshold ≤ c.consecutiveTimeouts + 1)) := by
  cases kind <;> simp [CaptureRecoveryController.shouldReinitialize]

/-- The `catch` block asks the controller, and starts a rebuild as it answers. -/
theorem afterCaptureError_spec (cfg : PipelineConfig) (p : Producer) (error : CameraCaptureError) :
    (p.afterCaptureError cfg error).recovery =
        (p.recovery.shouldReinitialize cfg.limits error.kind).2 ∧
      ((p.afterCaptureError cfg error).ctl = .loopHead ∧
          (p.recovery.shouldReinitialize cfg.limits error.kind).1 = false ∨
        (p.afterCaptureError cfg error).ctl = .rebuildHead false ∨
        (p.afterCaptureError cfg error).ctl = .finished .captureFailure) ∧
      (p.afterCaptureError cfg error).log =
        p.log ++ .captureFailed (.captureError error) :: .policyAsked error.kind ::
          if (p.recovery.shouldReinitialize cfg.limits error.kind).1 && cfg.cameraRecoveryEnabled
          then [.rebuildStarted false] else [] := by
  rw [Producer.afterCaptureError]
  simp only
  split
  next refused => simp [refused]
  next asked =>
    split
    next disabled => simp [disabled, Producer.fail]
    next => simp_all

section Steps

variable {cfg : PipelineConfig} {s s' : Shared cfg} {p p' : Producer}

theorem TimeoutInv.initial (cfg : PipelineConfig) (camera : CameraDevice) :
    TimeoutInv cfg (Shared.initial cfg) { camera := camera } where
  streak := rfl
  within := Nat.zero_le _
  short := .inr cfg.limits.timeoutThreshold_pos
  rule _ := .nil _

theorem Short.mono {limits : RecoveryLimits} {stop stop' : Bool} (short : Short limits stop p)
    (stays : stop = true → stop' = true) : Short limits stop' p := by
  unfold Short at short ⊢
  cases ctl : p.ctl with
  | loopHead => rw [ctl] at short; exact short.imp_left stays
  | capture => rw [ctl] at short; exact short
  | _ => exact trivial

theorem TimeoutInv.untouched (inv : TimeoutInv cfg s p) (same : Untouched .producer s s') :
    TimeoutInv cfg s' p :=
  { inv with short := inv.short.mono same.stop }

theorem TimeoutInv.exec {op : Op} {rest : List Op} (inv : TimeoutInv cfg s p) :
    TimeoutInv cfg (op.exec s) { p with todo := rest } :=
  { inv with short := (inv.short.mono (exec_raises s op).2.2.2 : Short _ _ p) }

/-- A step without a capture. -/
theorem TimeoutInv.move (inv : TimeoutInv cfg s p) (note : Option ProducerEvent)
    (log : p'.log = p.log ++ note.toList)
    (quiet : ∀ event, note = some event → event.endsTimeouts = false ∧
      event ≠ .policyAsked .timeout ∧ event ≠ .rebuildStarted false)
    (same : p'.recovery.consecutiveTimeouts = p.recovery.consecutiveTimeouts)
    (short : Short cfg.limits s.stopRequested p') : TimeoutInv cfg s p' where
  streak := by
    rw [same, inv.streak, log]
    cases note with
    | none => rw [Option.toList_none, List.append_nil]
    | some event =>
      obtain ⟨goesOn, asked, _⟩ := quiet event rfl
      rw [Option.toList_some, timeoutStreak_note _ event goesOn asked]
  within := by rw [same]; exact inv.within
  short := short
  rule enabled := by
    rw [log]
    refine (inv.rule enabled).notes ?_ ?_
    · cases note with
      | none => nofun
      | some event => simpa using (quiet event rfl).2.2
    · intro asked
      exact (quiet _ (Option.mem_toList.mp asked)).2.1 rfl

/-- A step behind which the timeouts are counted anew. -/
theorem TimeoutInv.anew (inv : TimeoutInv cfg s p) (event : ProducerEvent)
    (ends : event.endsTimeouts = true) {more : List ProducerEvent}
    (log : p'.log = p.log ++ event :: more) (few : more = [] ∨ more = [.rebuildStarted true])
    (zero : p'.recovery.consecutiveTimeouts = 0) : TimeoutInv cfg s p' where
  streak := by
    rw [zero, log, List.append_cons]
    rcases few with rfl | rfl
    · rw [List.append_nil, timeoutStreak_concat, if_pos ends]
    · rw [timeoutStreak_concat, timeoutStreak_concat, if_pos ends]
      rfl
  within := by rw [zero]; exact Nat.zero_le _
  short := by
    have positive := cfg.limits.timeoutThreshold_pos
    unfold Short
    split
    · omega
    · exact .inr (by omega)
    · trivial
  rule enabled := by
    rw [log]
    refine (inv.rule enabled).notes ?_ ?_
    · rintro ⟨⟩
      cases ends
    · intro asked
      rcases List.mem_cons.mp asked with rfl | behind
      · cases ends
      · rcases few with rfl | rfl <;> simp at behind

/-- The answer of the controller to a failed capture. -/
theorem TimeoutInv.captureError (inv : TimeoutInv cfg s p) (at_capture : p.ctl = .capture)
    (error : CameraCaptureError) : TimeoutInv cfg s (p.afterCaptureError cfg error) := by
  have short := inv.short
  rw [Short, at_capture] at short
  obtain ⟨timeouts, reached⟩ := shouldReinitialize_timeouts cfg.limits p.recovery error.kind
  obtain ⟨recovery, ctl, log⟩ := afterCaptureError_spec cfg p error
  exact {
    streak := by rw [recovery, timeouts, log, timeoutStreak_failure, inv.streak]
    within := by
      rw [recovery, timeouts]
      split <;> omega
    short := by
      rw [Short, recovery, timeouts]
      rcases ctl with ⟨ctl, refused⟩ | ctl | ctl
      · rw [ctl]
        refine .inr ?_
        split
        next timeout =>
          have reached := reached timeout
          rw [refused] at reached
          exact Nat.lt_of_not_le (by simpa using reached.symm)
        · exact short
      · rw [ctl]
        trivial
      · rw [ctl]
        trivial
    rule := fun enabled => by
      rw [log]
      by_cases timeout : error.kind = .timeout
      · rw [timeout]
        refine (inv.rule enabled).timeout _ ?_
        have reached := reached timeout
        rw [timeout] at reached
        rw [enabled, Bool.and_true, reached, ← inv.streak]
        omega
      · refine (inv.rule enabled).notes nofun ?_
        split <;> simp [Ne.symm timeout] }

theorem TimeoutInv.control (inv : TimeoutInv cfg s p)
    (step : ProducerStep cfg s.stopRequested p p') : TimeoutInv cfg s p' := by
  have short := inv.short
  have same : p.log = p.log ++ [] := (List.append_nil _).symm
  cases step with
  | complete | stopped | thrown => exact inv.move none same (by simp) rfl trivial
  | again at_head running =>
    rw [Short, at_head] at short
    exact inv.move none same (by simp) rfl (short.resolve_left (by simp [running]))
  | captured at_capture calls =>
    rw [Producer.afterCalls]
    simp only
    have noted : TimeoutInv cfg s { p with captures := p.captures ++ [(p.camera, calls)] } :=
      { inv with short := (inv.short : Short _ _ p) }
    split
    next frame _ =>
      refine noted.anew (.captured (isFrameUsable frame)) rfl rfl ?_ rfl
      split
      · exact .inr rfl
      · exact .inl rfl
    next error _ => exact noted.captureError at_capture error
    next message _ =>
      exact inv.move (some (.captureFailed (.runtimeError message))) rfl
        (by simp [ProducerEvent.endsTimeouts]) rfl trivial
  | attempt byInvalid =>
    rw [Producer.beginAttempt, CaptureRecoveryController.beginRecoveryAttempt]
    split
    · exact inv.move none same (by simp) rfl trivial
    · exact inv.move (some (.rebuildAttempt byInvalid)) rfl
        (by simp [ProducerEvent.endsTimeouts]) rfl trivial
  | interrupted | slept | openFailed | exhausted => exact inv.move none same (by simp) rfl trivial
  | sleeping => exact inv
  | rebuilt byInvalid => exact inv.anew (.rebuilt byInvalid) rfl rfl (.inl rfl) rfl
  | givenUp _ _ stopping => exact inv.move none same (by simp) rfl (.inl stopping)

end Steps

theorem reachable_timeoutInv {cfg : PipelineConfig} {camera : CameraDevice} {s : PipelineState cfg}
    (reached : Reachable cfg camera s) : TimeoutInv cfg s.shared s.producer :=
  producer_invariant (TimeoutInv cfg) (TimeoutInv.initial cfg camera)
    (fun _ _ _ inv same => inv.untouched same) (fun _ _ _ _ inv _ => inv.exec)
    (fun _ _ _ inv _ step => inv.control step) reached

end V4l2Capture.Pipeline
