import V4l2Capture.Pipeline.Frame

/-!
# Capturing a frame

`captureFrameCopy` polls the device, dequeues a buffer, copies it and queues it again.
Each system call has its outcome in `CaptureCalls`. Failures of the first two calls are
classified as a `CameraCaptureError`; `captureFrameCopy_classified_iff` says when the whole
call keeps to that.
-/
namespace V4l2Capture.Camera

open Pipeline

abbrev Errno := Nat

def EBADF : Errno := 9
def EAGAIN : Errno := 11
def ENODEV : Errno := 19
def ENXIO : Errno := 6

def POLLIN : UInt16 := 0x1
def POLLERR : UInt16 := 0x8
def POLLHUP : UInt16 := 0x10
def POLLNVAL : UInt16 := 0x20

inductive CameraCaptureErrorKind where
  | timeout
  | temporaryUnavailable
  | deviceUnavailable
  | streamFailure
  | invalidBufferMetadata
  deriving DecidableEq, Repr

def cameraCaptureErrorKindName : CameraCaptureErrorKind → String
  | .timeout => "timeout"
  | .temporaryUnavailable => "temporary_unavailable"
  | .deviceUnavailable => "device_unavailable"
  | .streamFailure => "stream_failure"
  | .invalidBufferMetadata => "invalid_buffer_metadata"

structure CameraCaptureError where
  kind : CameraCaptureErrorKind
  errorCode : Errno
  message : String
  deriving DecidableEq, Repr

/-- The members of `CameraDevice` that capturing reads; `buffers` holds the lengths of the
mapped buffers. -/
structure CameraDevice where
  opened : Bool
  streaming : Bool
  buffers : List Nat
  currentWidth : UInt32
  currentHeight : UInt32
  currentPixelformat : UInt32
  deriving DecidableEq, Repr

/-- What `poll` returns, apart from interruptions, behind which it is called again. -/
inductive PollOutcome where
  | failed (errno : Errno)
  | timeout
  | ready (revents : UInt16)
  deriving DecidableEq, Repr

/-- The `v4l2_buffer` that `VIDIOC_DQBUF` fills in. -/
structure DequeuedBuffer where
  index : UInt32
  bytesused : UInt32
  sequence : UInt32
  flags : UInt32
  deriving DecidableEq, Repr

/-- The outcomes of the system calls of one capture. -/
structure CaptureCalls where
  poll : PollOutcome
  dqbuf : Except Errno DequeuedBuffer
  /-- The error of `VIDIOC_QBUF`, if it fails. -/
  qbuf : Option Errno
  /-- What the dequeued buffer holds. -/
  memory : Nat → UInt8
  steadyTimeNs : Nat
  systemTimeNs : UInt64
  strerror : Errno → String

/-- How `capture_frame_copy` ends; the exceptions that are no `CameraCaptureError` are
`std::runtime_error`. -/
inductive CaptureResult where
  | frame (frame : Frame)
  | captureError (error : CameraCaptureError)
  | runtimeError (message : String)
  deriving DecidableEq, Repr

def unavailableKind (errno : Errno) : CameraCaptureErrorKind :=
  if errno = ENODEV ∨ errno = ENXIO ∨ errno = EBADF then .deviceUnavailable else .streamFailure

/-- The checks of the poll result in `dequeue_frame`. -/
def checkPoll (calls : CaptureCalls) : Except CameraCaptureError Unit :=
  match calls.poll with
  | .failed errno =>
    .error ⟨unavailableKind errno, errno, "poll failed: " ++ calls.strerror errno⟩
  | .timeout => .error ⟨.timeout, 0, "poll timed out: no frame received"⟩
  | .ready revents =>
    -- A lost device is reported even when there is data to read.
    if revents &&& (POLLNVAL ||| POLLHUP) ≠ 0 then
      .error ⟨.deviceUnavailable, 0,
        "poll reported device unavailable, revents=" ++ toString revents⟩
    else if revents &&& POLLERR ≠ 0 ∧ ¬ revents &&& POLLIN ≠ 0 then
      .error ⟨.streamFailure, 0,
        "poll reported stream error without readable data, revents=" ++ toString revents⟩
    else if ¬ revents &&& POLLIN ≠ 0 then
      .error ⟨.streamFailure, 0,
        "poll returned but POLLIN is not set, revents=" ++ toString revents⟩
    else .ok ()

/-- `dequeue_frame`; a buffer with wrong metadata is queued again on the way out, and the
outcome of that is ignored. -/
def dequeueFrame (camera : CameraDevice) (calls : CaptureCalls) :
    Except CameraCaptureError DequeuedBuffer := do
  checkPoll calls
  match calls.dqbuf with
  | .error errno =>
    if errno = EAGAIN then
      .error ⟨.temporaryUnavailable, errno, "VIDIOC_DQBUF returned EAGAIN: no buffer ready"⟩
    else .error ⟨unavailableKind errno, errno, "VIDIOC_DQBUF failed: " ++ calls.strerror errno⟩
  | .ok buf =>
    match camera.buffers[buf.index.toNat]? with
    | none =>
      .error ⟨.invalidBufferMetadata, 0,
        "VIDIOC_DQBUF returned invalid buffer index: " ++ toString buf.index⟩
    | some length =>
      if buf.bytesused.toNat > length then
        .error ⟨.invalidBufferMetadata, 0, "bytesused is larger than mapped buffer length"⟩
      else .ok buf

/-- `requeue_buffer`, with the message of its exception. -/
def requeueBuffer (camera : CameraDevice) (calls : CaptureCalls) (index : UInt32) :
    Except String Unit :=
  if index.toNat ≥ camera.buffers.length then
    .error ("Cannot queue invalid buffer index: " ++ toString index)
  else
    match calls.qbuf with
    | some errno => .error ("VIDIOC_QBUF failed at index " ++ toString index ++ ": " ++
        calls.strerror errno)
    | none => .ok ()

/-- The frame that is copied out of a dequeued buffer. -/
def copyFrame (camera : CameraDevice) (calls : CaptureCalls) (buf : DequeuedBuffer) : Frame where
  data := (List.range buf.bytesused.toNat).map calls.memory
  width := camera.currentWidth
  height := camera.currentHeight
  pixelFormat := camera.currentPixelformat
  bytesused := buf.bytesused
  sequence := buf.sequence
  bufferIndex := buf.index
  v4l2Flags := buf.flags
  captureTimestampNs := calls.systemTimeNs
  hostReceiveTimeNs := calls.steadyTimeNs

def captureFrameCopy (camera : CameraDevice) (calls : CaptureCalls) : CaptureResult :=
  if camera.opened = false then .runtimeError "Device is not opened"
  else if camera.streaming = false then
    .runtimeError "Cannot capture frame before streaming is started"
  else if camera.currentWidth = 0 ∨ camera.currentHeight = 0 ∨ camera.currentPixelformat = 0 then
    .runtimeError "Current format is unknown, set format before capturing frame copy"
  else
    match dequeueFrame camera calls with
    | .error error => .captureError error
    | .ok buf =>
      -- `requeue_buffer` throws a plain `std::runtime_error`, which carries no kind.
      match requeueBuffer camera calls buf.index with
      | .error message => .runtimeError message
      | .ok () => .frame (copyFrame camera calls buf)

/-! ### Classified failures -/

/-- An open, streaming device with a known format. -/
structure CameraDevice.Ready (camera : CameraDevice) : Prop where
  opened : camera.opened = true
  streaming : camera.streaming = true
  format : camera.currentWidth ≠ 0 ∧ camera.currentHeight ≠ 0 ∧ camera.currentPixelformat ≠ 0

/-- `poll` finds data, `VIDIOC_DQBUF` hands out a buffer with metadata in range, and
`VIDIOC_QBUF` then fails for it. -/
structure RequeueFails (camera : CameraDevice) (calls : CaptureCalls) : Prop where
  polled : ∃ revents, calls.poll = .ready revents ∧ revents &&& (POLLNVAL ||| POLLHUP) = 0 ∧
    revents &&& POLLIN ≠ 0
  dequeued : ∃ buf length, calls.dqbuf = .ok buf ∧ camera.buffers[buf.index.toNat]? = some length ∧
    buf.bytesused.toNat ≤ length
  queueFails : calls.qbuf ≠ none

def CaptureResult.isClassified : CaptureResult → Bool
  | .frame _ => true
  | .captureError _ => true
  | .runtimeError _ => false

theorem checkPoll_ok_iff (calls : CaptureCalls) :
    checkPoll calls = .ok () ↔ ∃ revents, calls.poll = .ready revents ∧
      revents &&& (POLLNVAL ||| POLLHUP) = 0 ∧ revents &&& POLLIN ≠ 0 := by
  rw [checkPoll]
  cases calls.poll with
  | failed errno => simp
  | timeout => simp
  | ready revents =>
    simp only [PollOutcome.ready.injEq, exists_eq_left']
    split
    next gone => simp [gone]
    next present =>
      rw [not_not] at present
      split
      next broken => simp [broken.2]
      next =>
        split
        next idle => simp [idle]
        next readable => simp [present, not_not.mp readable]

theorem dequeueFrame_ok_iff (camera : CameraDevice) (calls : CaptureCalls) (buf : DequeuedBuffer) :
    dequeueFrame camera calls = .ok buf ↔ checkPoll calls = .ok () ∧ calls.dqbuf = .ok buf ∧
      ∃ length, camera.buffers[buf.index.toNat]? = some length ∧ buf.bytesused.toNat ≤ length := by
  rw [dequeueFrame]
  cases checkPoll calls with
  | error error => simp [bind, Except.bind]
  | ok _ =>
    simp only [bind, Except.bind, true_and]
    cases calls.dqbuf with
    | error errno =>
      simp only
      split <;> simp
    | ok found =>
      simp only [Except.ok.injEq]
      constructor
      · intro dequeued
        split at dequeued
        · cases dequeued
        next length inRange =>
          split at dequeued
          · cases dequeued
          next fits =>
            cases dequeued
            exact ⟨rfl, length, inRange, Nat.le_of_not_lt fits⟩
      · rintro ⟨rfl, length, inRange, fits⟩
        rw [inRange]
        simp [fits]

theorem requeueBuffer_error_iff (camera : CameraDevice) (calls : CaptureCalls) {index : UInt32}
    {length : Nat} (inRange : camera.buffers[index.toNat]? = some length) :
    (∃ message, requeueBuffer camera calls index = .error message) ↔ calls.qbuf ≠ none := by
  have bound : ¬ index.toNat ≥ camera.buffers.length := by
    have := (List.getElem?_eq_some_iff.mp inRange).1
    omega
  rw [requeueBuffer, if_neg bound]
  cases calls.qbuf <;> simp

/-- A capture on a ready device returns a frame or a classified error, unless the buffer
that it dequeued cannot be queued again. -/
theorem captureFrameCopy_classified_iff (camera : CameraDevice) (calls : CaptureCalls)
    (ready : camera.Ready) :
    (captureFrameCopy camera calls).isClassified = true ↔ ¬ RequeueFails camera calls := by
  obtain ⟨opened, streaming, width, height, format⟩ := ready
  have known : ¬ (camera.currentWidth = 0 ∨ camera.currentHeight = 0 ∨
      camera.currentPixelformat = 0) := by
    simp [width, height, format]
  rw [captureFrameCopy, if_neg (by simp [opened]), if_neg (by simp [streaming]), if_neg known]
  cases dequeued : dequeueFrame camera calls with
  -- Classified already; requeueing was not reached.
  | error error =>
    have none : ¬ RequeueFails camera calls := by
      rintro ⟨polled, ⟨buf, length, dqbuf, inRange, fits⟩, _⟩
      have found := (dequeueFrame_ok_iff camera calls buf).mpr
        ⟨(checkPoll_ok_iff calls).mpr polled, dqbuf, length, inRange, fits⟩
      rw [dequeued] at found
      cases found
    simp [CaptureResult.isClassified, none]
  | ok buf =>
    obtain ⟨polled, dqbuf, length, inRange, fits⟩ :=
      (dequeueFrame_ok_iff camera calls buf).mp dequeued
    -- The index is in range, so only `VIDIOC_QBUF` itself can fail.
    have fails := requeueBuffer_error_iff camera calls inRange
    have same : RequeueFails camera calls ↔ calls.qbuf ≠ none :=
      ⟨fun requeue => requeue.queueFails,
        fun queueFails => ⟨(checkPoll_ok_iff calls).mp polled, ⟨buf, length, dqbuf, inRange, fits⟩,
          queueFails⟩⟩
    rw [same, ← fails]
    cases requeued : requeueBuffer camera calls buf.index <;>
      simp [CaptureResult.isClassified, requeued]

end V4l2Capture.Camera
