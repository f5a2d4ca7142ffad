import V4l2Capture.Camera.Capture
import V4l2Capture.Library.Traced

/-!
# Dequeued buffers

The capture paths of `CameraDevice` as sequences of `VIDIOC_DQBUF` and `VIDIOC_QBUF` calls. Two
of them hand a dequeued buffer to a `DequeuedBufferGuard`, whose destructor queues it again when
an exception passes. `capturePath_requeues` says that on every path each buffer that was taken
from the driver goes back to it, once and before the next one is taken.
-/
namespace V4l2Capture.Camera.BufferQueue

open Pipeline Traced Program

/-- The calls that move a buffer between the driver and the program. -/
inductive BufferCall where
  /-- The index that was handed out; none when the call failed. -/
  | dqbuf (index : Option UInt32)
  /-- An attempt, whatever its outcome. -/
  | qbuf (index : UInt32)
  deriving DecidableEq, Repr

/-- The camera does not change while it captures. `guard` is the index in the active
`DequeuedBufferGuard`, if there is one, and `calls` is history. -/
structure QueueState where
  camera : CameraDevice
  guard : Option UInt32 := none
  calls : List BufferCall := []
  deriving DecidableEq, Repr

def QueueState.record (s : QueueState) (call : BufferCall) : QueueState :=
  { s with calls := s.calls ++ [call] }

abbrev Operation := Program QueueState

/-! ### Queueing again -/

def requeueBuffer (calls : CaptureCalls) (index : UInt32) : Operation Unit := do
  let self := (← read).camera
  if index.toNat ≥ self.buffers.length then
    fail ("Cannot queue invalid buffer index: " ++ toString index)
  else
    step (·.record (.qbuf index))
    match calls.qbuf with
    | some errno =>
      fail ("VIDIOC_QBUF failed at index " ++ toString index ++ ": " ++ calls.strerror errno)
    | none => pure ()

def tryRequeueBufferNoexcept (calls : CaptureCalls) (index : UInt32) : Operation Bool :=
  orElse (do requeueBuffer calls index; pure true) fun _ => pure false

/-- The destructor of `DequeuedBufferGuard`. -/
def destroyGuard (calls : CaptureCalls) : Operation Unit := do
  match (← read).guard with
  | none => pure ()
  | some index =>
    step ({ · with guard := none })
    let _ ← tryRequeueBufferNoexcept calls index

def requeueOrThrow (calls : CaptureCalls) : Operation Unit := do
  match (← read).guard with
  | none => pure ()
  | some index =>
    -- Disarmed first, so that a call that fails is not made a second time.
    step ({ · with guard := none })
    requeueBuffer calls index

/-- The scope of a `DequeuedBufferGuard`. -/
def guarded {α : Type} (calls : CaptureCalls) (index : UInt32) (body : Operation α) :
    Operation α := do
  step ({ · with guard := some index })
  body.andFinally (destroyGuard calls)

/-! ### Dequeueing -/

def dqbuf (calls : CaptureCalls) : Operation (Except Errno DequeuedBuffer) := do
  step (·.record (.dqbuf (calls.dqbuf.toOption.map (·.index))))
  pure calls.dqbuf

/-- The checks with which every path starts. -/
def requireStreaming (notStreaming : String) : Operation Unit := do
  let self := (← read).camera
  if self.opened = false then fail "Device is not opened"
  else if self.streaming = false then fail notStreaming
  else pure ()

/-- `throwing` of an exception that a part outside of this model may throw. -/
def throwing (exception : Option String) : Operation Unit :=
  match exception with
  | some message => fail message
  | none => pure ()

/-- The mapped length of a dequeued buffer. -/
def mappedLength (buf : DequeuedBuffer) : Operation Nat := do
  let self := (← read).camera
  match self.buffers[buf.index.toNat]? with
  | none => fail ("VIDIOC_DQBUF returned invalid buffer index: " ++ toString buf.index)
  | some length => pure length

def dequeueFrame (calls : CaptureCalls) : Operation DequeuedBuffer := do
  match checkPoll calls with
  | .error error => fail error.message
  | .ok () =>
    match ← dqbuf calls with
    | .error errno =>
      if errno = EAGAIN then fail "VIDIOC_DQBUF returned EAGAIN: no buffer ready"
      else fail ("VIDIOC_DQBUF failed: " ++ calls.strerror errno)
    | .ok buf =>
      let length ← mappedLength buf
      if buf.bytesused.toNat > length then
        let _ ← tryRequeueBufferNoexcept calls buf.index
        fail "bytesused is larger than mapped buffer length"
      else pure buf

/-! ### The capture paths -/

/-- `capture_one_frame` has checks of its own; the frame is only printed. -/
def captureOneFrame (calls : CaptureCalls) : Operation Unit := do
  requireStreaming "Cannot capture frame before streaming is started"
  match calls.poll with
  | .failed errno => fail ("poll failed: " ++ calls.strerror errno)
  | .timeout => fail "poll timed out: no frame received"
  | .ready revents =>
    if ¬ revents &&& POLLIN ≠ 0 then
      fail ("poll returned but POLLIN is not set, revents=" ++ toString revents)
    else
      match ← dqbuf calls with
      | .error errno =>
        if errno = EAGAIN then fail "VIDIOC_DQBUF returned EAGAIN: no buffer ready"
        else fail ("VIDIOC_DQBUF failed: " ++ calls.strerror errno)
      | .ok buf =>
        -- Too many bytes in the buffer are reported on the console and nothing else.
        let _ ← mappedLength buf
        requeueBuffer calls buf.index

/-- `saved` is what `save_current_frame_to_files` throws, if it throws. -/
def captureOneFrameToFiles (calls : CaptureCalls) (saved : Option String) : Operation Unit := do
  requireStreaming "Cannot capture frame before streaming is started"
  let frame ← dequeueFrame calls
  guarded calls frame.index do
    throwing saved
    requeueOrThrow calls

/-- `copied` is what copying the data throws for want of memory. -/
def captureFrameCopy (calls : CaptureCalls) (copied : Option String) : Operation Frame := do
  requireStreaming "Cannot capture frame before streaming is started"
  let self := (← read).camera
  if self.currentWidth = 0 ∨ self.currentHeight = 0 ∨ self.currentPixelformat = 0 then
    fail "Current format is unknown, set format before capturing frame copy"
  else
    let info ← dequeueFrame calls
    guarded calls info.index do
      throwing copied
      requeueOrThrow calls
      pure (copyFrame self calls info)

/-- The body of the loop in `capture_frames`; it returns whether a frame was counted. -/
def captureRound (calls : CaptureCalls) : Operation Bool := do
  match calls.poll with
  | .failed errno => fail ("poll failed: " ++ calls.strerror errno)
  | .timeout => pure false
  | .ready revents =>
    if revents &&& POLLNVAL ≠ 0 then fail "poll returned POLLNVAL: invalid file descriptor"
    else if ¬ revents &&& POLLIN ≠ 0 then pure false
    else
      match ← dqbuf calls with
      | .error errno =>
        if errno = EAGAIN then pure false
        else fail ("VIDIOC_DQBUF failed: " ++ calls.strerror errno)
      | .ok buf =>
        let length ← mappedLength buf
        if buf.bytesused.toNat > length then
          requeueBuffer calls buf.index
          fail "bytesused is larger than mapped buffer length"
        else
          requeueBuffer calls buf.index
          pure true

/-- The loop, with the calls of its next iterations; it is on its way where these end. -/
def captureLoop (frameCount : Int) (captured : Nat) : List CaptureCalls → Operation Unit
  | [] => pure ()
  | calls :: rounds =>
    if captured < frameCount then do
      let counted ← captureRound calls
      captureLoop frameCount (if counted then captured + 1 else captured) rounds
    else pure ()

def captureFrames (frameCount : Int) (rounds : List CaptureCalls) : Operation Unit := do
  requireStreaming "Cannot capture frames before streaming is started"
  if frameCount ≤ 0 then fail "Frame count must be positive"
  else captureLoop frameCount 0 rounds

/-! ### What goes back to the driver -/

/-- A valid buffer that was taken goes back at once. -/
def cycle (size : Nat) : Option UInt32 → List BufferCall
  | none => [.dqbuf none]
  | some index =>
    if index.toNat < size then [.dqbuf (some index), .qbuf index] else [.dqbuf (some index)]

/-- What was asked of the driver since `s`: each buffer that was taken went back at once. -/
def Cycled (s : QueueState) (calls : List BufferCall) : Prop :=
  ∃ dequeued : List (Option UInt32),
    calls = s.calls ++ dequeued.flatMap (cycle s.camera.buffers.length)

/-- No buffer is in the hands of the program. -/
structure Settled (s s' : QueueState) : Prop where
  camera : s'.camera = s.camera
  guard : s'.guard = none
  cycled : Cycled s s'.calls

/-- A valid buffer was taken last and is in the hands of the program. -/
structure Holds (index : UInt32) (s s' : QueueState) : Prop where
  camera : s'.camera = s.camera
  inRange : index.toNat < s.camera.buffers.length
  cycled : ∃ before, s'.calls = before ++ [.dqbuf (some index)] ∧ Cycled s before

/-- Nothing is left to the guard, or it has the buffer. -/
def Guarded (index : UInt32) (s s' : QueueState) : Prop :=
  Settled s s' ∨ Holds index s s' ∧ s'.guard = some index

section Specs

variable {s s' s'' : QueueState} {calls : CaptureCalls} {index : UInt32} {α : Type}

theorem Cycled.append (cycled : Cycled s s'.calls) (next : Option UInt32) :
    Cycled s (s'.calls ++ cycle s.camera.buffers.length next) := by
  obtain ⟨dequeued, shape⟩ := cycled
  refine ⟨dequeued ++ [next], ?_⟩
  rw [shape, List.flatMap_append, List.flatMap_singleton, List.append_assoc]

theorem Settled.refl (idle : s.guard = none) : Settled s s :=
  ⟨rfl, idle, [], by simp⟩

theorem Settled.trans (first : Settled s s') (second : Settled s' s'') : Settled s s'' := by
  obtain ⟨dequeued, shape⟩ := first.cycled
  obtain ⟨dequeued', shape'⟩ := second.cycled
  refine ⟨second.camera.trans first.camera, second.guard, dequeued ++ dequeued', ?_⟩
  rw [shape', shape, first.camera, List.flatMap_append, List.append_assoc]

/-- The attempt to queue the buffer again settles the account, whether it succeeds or not. -/
theorem wp_requeueBuffer (holds : Holds index s s') (idle : s'.guard = none) :
    wp (requeueBuffer calls index) (fun _ => True) (fun _ => Settled s) (fun _ => Settled s) s' := by
  have bound : ¬ index.toNat ≥ s'.camera.buffers.length := by
    rw [holds.camera]
    exact Nat.not_le.mpr holds.inRange
  have settled : Settled s (s'.record (.qbuf index)) := by
    obtain ⟨before, shape, dequeued, shape'⟩ := holds.cycled
    refine ⟨holds.camera, idle, dequeued ++ [some index], ?_⟩
    simp [QueueState.record, shape, shape', cycle, holds.inRange]
  simp only [requeueBuffer, wp_bind, wp_read, if_neg bound, wp_step]
  refine ⟨trivial, ?_⟩
  cases calls.qbuf with
  | some errno => exact (wp_fail _).mpr settled
  | none => exact (wp_pure _).mpr settled

theorem wp_tryRequeueBufferNoexcept (holds : Holds index s s') (idle : s'.guard = none) :
    wp (tryRequeueBufferNoexcept calls index) (fun _ => True) (fun _ => Settled s)
      (fun _ _ => False) s' := by
  apply wp_orElse
  apply (wp_bind _).mpr
  refine wp_ends (wp_requeueBuffer holds idle) ?_ ?_
  · intro _ m settled
    exact (wp_pure _).mpr settled
  · intro _ m settled
    exact (wp_pure _).mpr settled

theorem Holds.disarm (holds : Holds index s s') : Holds index s { s' with guard := none } :=
  ⟨holds.camera, holds.inRange, holds.cycled⟩

theorem wp_destroyGuard (guarded : Guarded index s s') :
    wp (destroyGuard calls) (fun _ => True) (fun _ => Settled s) (fun _ _ => False) s' := by
  simp only [destroyGuard, wp_bind, wp_read]
  rcases guarded with settled | ⟨holds, armed⟩
  · rw [settled.guard]
    exact (wp_pure _).mpr settled
  · rw [armed]
    simp only [wp_bind, wp_step]
    refine ⟨trivial, wp_post (wp_tryRequeueBufferNoexcept holds.disarm rfl) ?_⟩
    intro _ m settled
    exact (wp_pure _).mpr settled

theorem wp_requeueOrThrow (holds : Holds index s s') (armed : s'.guard = some index) :
    wp (requeueOrThrow calls) (fun _ => True) (fun _ => Settled s) (fun _ => Settled s) s' := by
  simp only [requeueOrThrow, wp_bind, wp_read, armed, wp_step]
  exact ⟨trivial, wp_requeueBuffer holds.disarm rfl⟩

/-- Whatever happens in the scope of a guard, the buffer goes back at its end. -/
theorem wp_guarded {body : Operation α} (holds : Holds index s s')
    (scope : ∀ m, Holds index s m → m.guard = some index →
      wp body (fun _ => True) (fun _ => Guarded index s) (fun _ => Guarded index s) m) :
    wp (guarded calls index body) (fun _ => True) (fun _ => Settled s) (fun _ => Settled s) s' := by
  have armed : Holds index s { s' with guard := some index } :=
    ⟨holds.camera, holds.inRange, holds.cycled⟩
  simp only [BufferQueue.guarded, wp_bind, wp_step]
  refine ⟨trivial, wp_andFinally (wp_ends (scope _ armed rfl) ?_ ?_)⟩
  · intro _ m guarded
    exact wp_destroyGuard guarded
  · intro _ m guarded
    exact wp_destroyGuard guarded

theorem wp_throwing {exception : Option String} {returns : Unit → QueueState → Prop}
    {throws : String → QueueState → Prop} (returned : returns () s)
    (thrown : ∀ message, throws message s) :
    wp (throwing exception) (fun _ => True) returns throws s := by
  cases exception with
  | none => exact (wp_pure _).mpr returned
  | some message => exact (wp_fail _).mpr (thrown message)

/-- What `VIDIOC_DQBUF` leaves in the hands of the program. -/
def Taken (s s' : QueueState) : Except Errno DequeuedBuffer → Prop
  | .error _ => Settled s s'
  | .ok buf => s'.guard = none ∧ s'.camera = s.camera ∧
      if buf.index.toNat < s.camera.buffers.length then Holds buf.index s s' else Settled s s'

theorem wp_dqbuf (idle : s.guard = none) :
    wp (dqbuf calls) (fun _ => True) (fun result s' => Taken s s' result) (fun _ _ => False) s := by
  simp only [dqbuf, wp_bind, wp_step, wp_pure]
  refine ⟨trivial, ?_⟩
  have start : Cycled s s.calls := (Settled.refl idle).cycled
  cases calls.dqbuf with
  | error errno => exact ⟨rfl, idle, start.append none⟩
  | ok buf =>
    refine ⟨idle, rfl, ?_⟩
    split
    next inRange => exact ⟨rfl, inRange, s.calls, rfl, start⟩
    next outside =>
      refine ⟨rfl, idle, ?_⟩
      have cycled := start.append (some buf.index)
      rwa [cycle, if_neg outside] at cycled

/-- An index out of range throws, and there is nothing to give back. -/
theorem wp_mappedLength {buf : DequeuedBuffer} (taken : Taken s s' (.ok buf)) :
    wp (mappedLength buf) (fun _ => True)
      (fun _ m => Holds buf.index s m ∧ m.guard = none) (fun _ => Settled s) s' := by
  obtain ⟨idle, camera, taken⟩ := taken
  simp only [mappedLength, wp_bind, wp_read]
  cases found : s'.camera.buffers[buf.index.toNat]? with
  | none =>
    rw [camera, List.getElem?_eq_none_iff] at found
    rw [if_neg (Nat.not_lt.mpr found)] at taken
    exact (wp_fail _).mpr taken
  | some length =>
    rw [camera] at found
    rw [if_pos (List.getElem?_eq_some_iff.mp found).1] at taken
    exact (wp_pure _).mpr ⟨taken, idle⟩

theorem wp_dequeueFrame (idle : s.guard = none) :
    wp (dequeueFrame calls) (fun _ => True)
      (fun buf m => Holds buf.index s m ∧ m.guard = none) (fun _ => Settled s) s := by
  rw [dequeueFrame]
  cases checkPoll calls with
  | error error => exact (wp_fail _).mpr (.refl idle)
  | ok _ =>
    apply wp_seq (wp_ends (wp_dqbuf idle) (fun _ _ taken => taken) fun _ _ never => never.elim)
    intro result m taken
    cases result with
    | error errno =>
      dsimp only
      split <;> exact (wp_fail _).mpr taken
    | ok buf =>
      apply wp_seq (wp_mappedLength taken)
      rintro length m ⟨holds, idle⟩
      split
      · apply (wp_bind _).mpr
        refine wp_ends (wp_tryRequeueBufferNoexcept holds idle) ?_ fun _ _ never => never.elim
        intro _ m settled
        exact (wp_fail _).mpr settled
      · exact (wp_pure _).mpr ⟨holds, idle⟩

theorem wp_requireStreaming {text : String} {returns : Unit → QueueState → Prop}
    {throws : String → QueueState → Prop} (returned : returns () s)
    (thrown : ∀ message, throws message s) :
    wp (requireStreaming text) (fun _ => True) returns throws s := by
  simp only [requireStreaming, wp_bind, wp_read]
  split
  · exact (wp_fail _).mpr (thrown _)
  split
  · exact (wp_fail _).mpr (thrown _)
  · exact (wp_pure _).mpr returned

/-! ### The paths -/

theorem wp_captureOneFrame (idle : s.guard = none) :
    wp (captureOneFrame calls) (fun _ => True) (fun _ => Settled s) (fun _ => Settled s) s := by
  have nothing : Settled s s := .refl idle
  apply (wp_bind _).mpr
  apply wp_requireStreaming _ fun _ => nothing
  cases calls.poll with
  | failed errno => exact (wp_fail _).mpr nothing
  | timeout => exact (wp_fail _).mpr nothing
  | ready revents =>
    dsimp only
    split
    · exact (wp_fail _).mpr nothing
    · apply wp_seq (wp_ends (wp_dqbuf idle) (fun _ _ taken => taken) fun _ _ never => never.elim)
      intro result m taken
      cases result with
      | error errno =>
        dsimp only
        split <;> exact (wp_fail _).mpr taken
      | ok buf =>
        apply wp_seq (wp_mappedLength taken)
        rintro _ m ⟨holds, idle⟩
        exact wp_requeueBuffer holds idle

theorem wp_captureOneFrameToFiles {saved : Option String} (idle : s.guard = none) :
    wp (captureOneFrameToFiles calls saved) (fun _ => True) (fun _ => Settled s)
      (fun _ => Settled s) s := by
  apply (wp_bind _).mpr
  apply wp_requireStreaming _ fun _ => .refl idle
  apply wp_seq (wp_dequeueFrame idle)
  rintro frame m ⟨holds, _⟩
  apply wp_guarded holds
  intro m holds armed
  apply (wp_bind _).mpr
  apply wp_throwing
  · refine wp_ends (wp_requeueOrThrow holds armed) ?_ ?_
    · intro _ m settled
      exact .inl settled
    · intro _ m settled
      exact .inl settled
  -- The exception of a failed save leaves the buffer to the guard.
  · intro _
    exact .inr ⟨holds, armed⟩

theorem wp_captureFrameCopy {copied : Option String} (idle : s.guard = none) :
    wp (captureFrameCopy calls copied) (fun _ => True) (fun _ => Settled s)
      (fun _ => Settled s) s := by
  apply (wp_bind _).mpr
  apply wp_requireStreaming _ fun _ => .refl idle
  simp only [wp_bind, wp_read]
  split
  · exact (wp_fail _).mpr (.refl idle)
  · apply wp_seq (wp_dequeueFrame idle)
    rintro info m ⟨holds, _⟩
    apply wp_guarded holds
    intro m holds armed
    apply (wp_bind _).mpr
    apply wp_throwing
    · apply (wp_bind _).mpr
      refine wp_ends (wp_requeueOrThrow holds armed) ?_ ?_
      · intro _ m settled
        exact (wp_pure _).mpr (.inl settled)
      · intro _ m settled
        exact .inl settled
    · intro _
      exact .inr ⟨holds, armed⟩

/-- An iteration of `capture_frames`, whichever way it ends. -/
theorem wp_captureRound (idle : s.guard = none) :
    wp (captureRound calls) (fun _ => True) (fun _ => Settled s) (fun _ => Settled s) s := by
  have nothing : Settled s s := .refl idle
  rw [captureRound]
  cases calls.poll with
  | failed errno => exact (wp_fail _).mpr nothing
  | timeout => exact (wp_pure _).mpr nothing
  | ready revents =>
    dsimp only
    split
    · exact (wp_fail _).mpr nothing
    split
    · exact (wp_pure _).mpr nothing
    · apply wp_seq (wp_ends (wp_dqbuf idle) (fun _ _ taken => taken) fun _ _ never => never.elim)
      intro result m taken
      cases result with
      | error errno =>
        dsimp only
        split
        · exact (wp_pure _).mpr taken
        · exact (wp_fail _).mpr taken
      | ok buf =>
        apply wp_seq (wp_mappedLength taken)
        rintro length m ⟨holds, idle⟩
        -- The buffer goes back before the exception for its wrong length.
        split
        · apply wp_seq (wp_requeueBuffer holds idle)
          intro _ m settled
          exact (wp_fail _).mpr settled
        · apply wp_seq (wp_requeueBuffer holds idle)
          intro _ m settled
          exact (wp_pure _).mpr settled

theorem wp_captureLoop {frameCount : Int} {captured : Nat} {rounds : List CaptureCalls}
    (idle : s.guard = none) :
    wp (captureLoop frameCount captured rounds) (fun _ => True) (fun _ => Settled s)
      (fun _ => Settled s) s := by
  induction rounds generalizing s captured with
  | nil => exact (wp_pure _).mpr (.refl idle)
  | cons calls rounds ih =>
    rw [captureLoop]
    split
    · apply wp_seq (wp_captureRound idle)
      intro counted m settled
      refine wp_ends (ih settled.guard) ?_ ?_
      · intro _ m' later
        exact settled.trans later
      · intro _ m' later
        exact settled.trans later
    · exact (wp_pure _).mpr (.refl idle)

theorem wp_captureFrames {frameCount : Int} {rounds : List CaptureCalls} (idle : s.guard = none) :
    wp (captureFrames frameCount rounds) (fun _ => True) (fun _ => Settled s)
      (fun _ => Settled s) s := by
  apply (wp_bind _).mpr
  apply wp_requireStreaming _ fun _ => .refl idle
  split
  · exact (wp_fail _).mpr (.refl idle)
  · exact wp_captureLoop idle

end Specs

/-! ### The result of a copy -/

def CaptureResult.toExcept : CaptureResult → Except String Frame
  | .frame frame => .ok frame
  | .captureError error => .error error.message
  | .runtimeError message => .error message

section Result

variable {s : QueueState} {calls : CaptureCalls} {index : UInt32}

theorem wp_requeueBuffer_result :
    wp (requeueBuffer calls index) (fun _ => True)
      (fun _ _ => Camera.requeueBuffer s.camera calls index = .ok ())
      (fun message _ => Camera.requeueBuffer s.camera calls index = .error message) s := by
  simp only [requeueBuffer, Camera.requeueBuffer, wp_bind, wp_read]
  split
  · exact (wp_fail _).mpr rfl
  · simp only [wp_bind, wp_step]
    refine ⟨trivial, ?_⟩
    cases calls.qbuf with
    | some errno => exact (wp_fail _).mpr rfl
    | none => exact (wp_pure _).mpr rfl

theorem wp_tryRequeueBufferNoexcept_quiet :
    wp (tryRequeueBufferNoexcept calls index) (fun _ => True) (fun _ _ => True)
      (fun _ _ => False) s := by
  apply wp_orElse
  apply (wp_bind _).mpr
  refine wp_ends wp_requeueBuffer_result ?_ ?_
  · intro _ _ _
    exact (wp_pure _).mpr trivial
  · intro _ _ _
    exact (wp_pure _).mpr trivial

theorem wp_destroyGuard_quiet {holds : Prop} (true : holds) :
    wp (destroyGuard calls) (fun _ => True) (fun _ _ => holds) (fun _ _ => False) s := by
  simp only [destroyGuard, wp_bind, wp_read]
  cases s.guard with
  | none => exact (wp_pure _).mpr true
  | some index =>
    simp only [wp_bind, wp_step]
    refine ⟨trivial, wp_ends wp_tryRequeueBufferNoexcept_quiet ?_ fun _ _ never => never.elim⟩
    intro _ _ _
    exact (wp_pure _).mpr true

theorem wp_dequeueFrame_result :
    wp (dequeueFrame calls) (fun _ => True)
      (fun buf m => Camera.dequeueFrame s.camera calls = .ok buf ∧ m.camera = s.camera)
      (fun message _ => ∃ error, Camera.dequeueFrame s.camera calls = .error error ∧
        error.message = message) s := by
  have whole := Camera.dequeueFrame.eq_1 s.camera calls
  simp only [bind, Except.bind] at whole
  simp only [dequeueFrame, dqbuf, mappedLength]
  cases polled : checkPoll calls with
  | error error =>
    rw [polled] at whole
    exact (wp_fail _).mpr ⟨error, whole, rfl⟩
  | ok _ =>
    simp only [wp_bind, wp_step, wp_pure]
    refine ⟨trivial, ?_⟩
    rw [polled] at whole
    cases taken : calls.dqbuf with
    | error errno =>
      rw [taken] at whole
      dsimp only at whole ⊢
      split
      next again =>
        rw [if_pos again] at whole
        exact (wp_fail _).mpr ⟨_, whole, rfl⟩
      next other =>
        rw [if_neg other] at whole
        exact (wp_fail _).mpr ⟨_, whole, rfl⟩
    | ok buf =>
      rw [taken] at whole
      simp only [wp_bind, wp_read, QueueState.record]
      cases found : s.camera.buffers[buf.index.toNat]? with
      | none =>
        simp only [found] at whole
        exact (wp_fail _).mpr ⟨_, whole, rfl⟩
      | some length =>
        simp only [found] at whole
        simp only [wp_pure]
        split
        -- Whether the buffer could be queued again makes no difference here.
        next large =>
          rw [if_pos large] at whole
          simp only [wp_bind]
          refine wp_ends wp_tryRequeueBufferNoexcept_quiet ?_ fun _ _ never => never.elim
          intro _ _ _
          exact (wp_fail _).mpr ⟨_, whole, rfl⟩
        next fits =>
          rw [if_neg fits] at whole
          exact (wp_pure _).mpr ⟨whole, rfl⟩

end Result

/-- Where the memory suffices, `capture_frame_copy` has the result that its calls give. -/
theorem captureFrameCopy_result (camera : CameraDevice) (calls : CaptureCalls) :
    (captureFrameCopy calls none { camera := camera }).result =
      CaptureResult.toExcept (Camera.captureFrameCopy camera calls) := by
  have agrees : wp (captureFrameCopy calls none) (fun _ => True)
      (fun frame _ => CaptureResult.toExcept (Camera.captureFrameCopy camera calls) = .ok frame)
      (fun message _ => CaptureResult.toExcept (Camera.captureFrameCopy camera calls) =
        .error message) { camera := camera } := by
    rw [Camera.captureFrameCopy]
    simp only [captureFrameCopy, requireStreaming, wp_bind, wp_read]
    split
    · exact (wp_fail _).mpr rfl
    split
    · exact (wp_fail _).mpr rfl
    simp only [wp_pure, wp_bind, wp_read]
    split
    · exact (wp_fail _).mpr rfl
    apply (wp_bind _).mpr
    refine wp_ends wp_dequeueFrame_result ?_ ?_
    · rintro buf m ⟨dequeued, same⟩
      simp only at dequeued same
      simp only [dequeued, guarded, wp_bind, wp_step]
      refine ⟨trivial, wp_andFinally ?_⟩
      simp only [throwing, requeueOrThrow, wp_bind, wp_pure, wp_read, wp_step]
      refine ⟨trivial, ?_⟩
      rw [← same]
      -- The destructor of the guard makes no difference to the result.
      refine wp_ends wp_requeueBuffer_result ?_ ?_
      · intro _ m' requeued
        simp only at requeued
        simp only [wp_pure, requeued]
        exact wp_destroyGuard_quiet rfl
      · intro _ m' failed
        simp only at failed
        simp only [failed]
        exact wp_destroyGuard_quiet rfl
    · rintro _ m ⟨error, failed, rfl⟩
      simp only at failed
      rw [failed]
      rfl
  cases ended : (captureFrameCopy calls none { camera := camera }).result with
  | ok frame => exact (agrees.returned frame ended).symm
  | error message => exact (agrees.thrown message ended).symm

/-- The capture paths, each with the outcomes of its calls. -/
inductive CapturePath where
  | oneFrame (calls : CaptureCalls)
  | oneFrameToFiles (calls : CaptureCalls) (saved : Option String)
  | frameCopy (calls : CaptureCalls) (copied : Option String)
  | frames (frameCount : Int) (rounds : List CaptureCalls)

def CapturePath.run : CapturePath → Operation Unit
  | .oneFrame calls => captureOneFrame calls
  | .oneFrameToFiles calls saved => captureOneFrameToFiles calls saved
  | .frameCopy calls copied => do let _ ← captureFrameCopy calls copied
  | .frames frameCount rounds => captureFrames frameCount rounds

theorem wp_capturePath {s : QueueState} (idle : s.guard = none) (path : CapturePath) :
    wp path.run (fun _ => True) (fun _ => Settled s) (fun _ => Settled s) s := by
  cases path with
  | oneFrame calls => exact wp_captureOneFrame idle
  | oneFrameToFiles calls saved => exact wp_captureOneFrameToFiles idle
  | frameCopy calls copied =>
    apply wp_seq (wp_captureFrameCopy idle)
    intro _ m settled
    exact (wp_pure _).mpr settled
  | frames frameCount rounds => exact wp_captureFrames idle

/-- The calls of a path, in their order. -/
def CapturePath.bufferCalls (path : CapturePath) (camera : CameraDevice) : List BufferCall :=
  (path.run { camera := camera }).final.calls

/-- Each valid buffer that was handed out is the next one to be queued, and nothing else is. -/
structure Requeues (size : Nat) (calls : List BufferCall) : Prop where
  dequeued : ∀ before index after, calls = before ++ .dqbuf (some index) :: after →
    index.toNat < size → ∃ later, after = .qbuf index :: later
  queued : ∀ before index after, calls = before ++ .qbuf index :: after →
    ∃ earlier, before = earlier ++ [.dqbuf (some index)] ∧ index.toNat < size

/-- A call that handed out no valid buffer comes before the others. -/
theorem Requeues.cons_idle {size : Nat} {calls : List BufferCall} (requeues : Requeues size calls)
    {handed : Option UInt32} (idle : ∀ index, handed = some index → ¬ index.toNat < size) :
    Requeues size (.dqbuf handed :: calls) where
  dequeued before index after shape valid := by
    rcases List.cons_eq_append_iff.mp shape with ⟨rfl, first⟩ | ⟨before', rfl, rest⟩
    · cases first
      exact absurd valid (idle index rfl)
    · exact requeues.dequeued before' index after rest valid
  queued before index after shape := by
    rcases List.cons_eq_append_iff.mp shape with ⟨rfl, first⟩ | ⟨before', rfl, rest⟩
    · cases first
    · obtain ⟨earlier, rfl, valid⟩ := requeues.queued before' index after rest
      exact ⟨_ :: earlier, rfl, valid⟩

/-- A buffer that was taken and queued again comes before the others. -/
theorem Requeues.cons_cycle {size : Nat} {calls : List BufferCall} (requeues : Requeues size calls)
    {taken : UInt32} (inRange : taken.toNat < size) :
    Requeues size (.dqbuf (some taken) :: .qbuf taken :: calls) where
  dequeued before index after shape valid := by
    rcases List.cons_eq_append_iff.mp shape with ⟨rfl, first⟩ | ⟨before', rfl, rest⟩
    · cases first
      exact ⟨calls, rfl⟩
    · rcases List.cons_eq_append_iff.mp rest with ⟨rfl, second⟩ | ⟨before, rfl, rest⟩
      · cases second
      · exact requeues.dequeued before index after (List.cons.inj rest).2 valid
  queued before index after shape := by
    rcases List.cons_eq_append_iff.mp shape with ⟨rfl, first⟩ | ⟨before', rfl, rest⟩
    · cases first
    · rcases List.cons_eq_append_iff.mp rest with ⟨rfl, second⟩ | ⟨before, rfl, rest⟩
      · cases second
        exact ⟨[], rfl, inRange⟩
      · obtain ⟨earlier, rfl, valid⟩ :=
          requeues.queued before index after (List.cons.inj rest).2
        exact ⟨_ :: _ :: earlier, rfl, valid⟩

theorem requeues_cycles (size : Nat) (dequeued : List (Option UInt32)) :
    Requeues size (dequeued.flatMap (cycle size)) := by
  induction dequeued with
  | nil => exact ⟨by simp, by simp⟩
  | cons handed dequeued ih =>
    rw [List.flatMap_cons]
    cases handed with
    | none => exact ih.cons_idle nofun
    | some index =>
      rw [cycle]
      split
      next inRange => exact ih.cons_cycle inRange
      next outside =>
        apply ih.cons_idle
        rintro _ ⟨⟩
        exact outside

/-- On every path and for all outcomes of its calls: each `VIDIOC_DQBUF` that hands out a valid
index is followed at once by one attempt of `VIDIOC_QBUF` for it, and there are no others. -/
theorem capturePath_requeues (path : CapturePath) (camera : CameraDevice) :
    Requeues camera.buffers.length (path.bufferCalls camera) := by
  have settled := wp_final (wp_capturePath (s := { camera := camera }) rfl path)
  obtain ⟨dequeued, shape⟩ := settled.cycled
  rw [CapturePath.bufferCalls, shape]
  exact requeues_cycles _ dequeued

/-- A streaming camera with one buffer. -/
def oneBuffer : CameraDevice := ⟨true, true, [4], 2, 1, Protocol.V4L2_PIX_FMT_YUYV⟩

/-- The driver hands out the buffer, and `qbuf` is the outcome of giving it back. -/
def handsOut (bytesused : UInt32) (qbuf : Option Errno) : CaptureCalls where
  poll := .ready POLLIN
  dqbuf := .ok ⟨0, bytesused, 0, 0⟩
  qbuf := qbuf
  memory _ := 0
  steadyTimeNs := 0
  systemTimeNs := 0
  strerror _ := "error"

/-- The guard gives a frame back that cannot be saved; a call that fails is not made again; too
many bytes end the second iteration of the loop behind both buffers. -/
theorem capturePath_requeues_failures :
    (∀ path ∈ [.oneFrameToFiles (handsOut 4 none) (some "Failed to open raw output file: "),
        .frameCopy (handsOut 4 (some ENODEV)) none],
      CapturePath.bufferCalls path oneBuffer = [.dqbuf (some 0), .qbuf 0] ∧
        (path.run { camera := oneBuffer }).result.toOption = none ∧
        Requeues 1 (path.bufferCalls oneBuffer)) ∧
    (CapturePath.frames 3 [handsOut 4 none, handsOut 5 none]).bufferCalls oneBuffer =
        [.dqbuf (some 0), .qbuf 0, .dqbuf (some 0), .qbuf 0] ∧
      Requeues 1 ((CapturePath.frames 3 [handsOut 4 none, handsOut 5 none]).bufferCalls
        oneBuffer) := by
  refine ⟨fun path member => ⟨?_, ?_, capturePath_requeues path oneBuffer⟩, by decide +kernel,
    capturePath_requeues _ oneBuffer⟩
  · revert path
    decide +kernel
  · revert path
    decide +kernel

end V4l2Capture.Camera.BufferQueue
