import V4l2Capture.Camera.Capture

/-!
# Sending with a deadline

`SendCall` is one call of `send_all_until` on a valid socket, at the point where it waits
for its next load, clock reading or system call. `SendCall.step` continues it with the
result; it also returns the bytes that the kernel accepted in that step.
-/
namespace V4l2Capture.TcpIo

open Camera (Errno)

def EINTR : Errno := 4

/-- `EAGAIN`, which is also `EWOULDBLOCK`. -/
def EAGAIN : Errno := 11

/-- What the call does next. -/
inductive SendPoint where
  | checkCancel
  | checkDeadline
  | send
  | recheckCancel
  | waitTime
  | poll (waitMs : Nat)
  deriving DecidableEq, Repr

/-- Times are nanoseconds of the steady clock. -/
structure SendCall where
  data : List UInt8
  deadline : Nat
  sent : Nat
  point : SendPoint
  deriving DecidableEq, Repr

inductive SendReturn where
  | accepted (count : Nat)
  | zero
  | failed (errno : Errno)
  deriving DecidableEq, Repr

/-- `ready` carries the `POLLNVAL` bit, whether `POLLERR` or `POLLHUP` is set, and the
socket error that `getsockopt` then reports, if it reports one. -/
inductive PollReturn where
  | failed (errno : Errno)
  | timeout
  | ready (nval errOrHup : Bool) (socketError : Option Errno)
  deriving DecidableEq, Repr

inductive SendEvent where
  | stopLoaded (stop : Bool)
  | clock (now : Nat)
  | sendReturned (result : SendReturn)
  | pollReturned (result : PollReturn)
  deriving DecidableEq, Repr

/-- A call that goes on, returns or throws. -/
inductive SendOutcome where
  | running (call : SendCall)
  | returned
  | timeout (message : String)
  | cancelled (message : String)
  | failed (message : String)
  deriving DecidableEq, Repr

def kPollSliceMs : Nat := 50

/-- `remaining_wait_ms`, which is capped by the largest `int`. -/
def remainingWaitMs (deadline now : Nat) : Nat :=
  if now ≥ deadline then 0
  else
    -- A remainder below one millisecond is rounded up, so the wait is never zero.
    let remaining := (deadline - now) / 1000000
    min (min kPollSliceMs (if remaining > 0 then remaining else 1)) 2147483647

/-- The condition of the loop. -/
def SendCall.loopHead (call : SendCall) : SendOutcome :=
  if call.sent < call.data.length then .running { call with point := .checkCancel } else .returned

def SendCall.start (data : List UInt8) (deadline : Nat) : SendOutcome :=
  SendCall.loopHead ⟨data, deadline, 0, .checkCancel⟩

def SendCall.timedOut (call : SendCall) : SendOutcome :=
  .timeout ("TCP send timed out after sending " ++ toString call.sent ++ "/" ++
    toString call.data.length ++ " bytes")

def SendCall.cancelledAt (call : SendCall) : SendOutcome :=
  .cancelled ("TCP send cancelled after sending " ++ toString call.sent ++ "/" ++
    toString call.data.length ++ " bytes")

/-- Behind a call of `send` that accepted nothing. -/
def SendCall.afterSendError (strerror : Errno → String) (call : SendCall) (errno : Errno) :
    SendOutcome :=
  if errno = EINTR then call.loopHead
  -- A full socket buffer is the only error that is waited out.
  else if errno ≠ EAGAIN then .failed ("send failed: " ++ strerror errno)
  else .running { call with point := .recheckCancel }

def SendCall.afterPoll (strerror : Errno → String) (call : SendCall) : PollReturn → SendOutcome
  | .failed errno =>
    if errno = EINTR then call.loopHead
    else .failed ("poll(POLLOUT) failed: " ++ strerror errno)
  | .timeout => call.loopHead
  | .ready nval errOrHup socketError =>
    if nval then .failed "poll(POLLOUT) reported POLLNVAL"
    else if errOrHup then
      match socketError with
      | some errno =>
        .failed ("socket became unavailable while sending: " ++ strerror errno)
      | none => .failed "socket became unavailable while sending"
    else call.loopHead

/-- Continues a call with the result that it waits for. -/
def SendCall.step (strerror : Errno → String) (call : SendCall) (event : SendEvent) :
    Option (List UInt8 × SendOutcome) :=
  match call.point, event with
  | .checkCancel, .stopLoaded stop =>
    some ([], if stop then call.cancelledAt else .running { call with point := .checkDeadline })
  | .checkDeadline, .clock now =>
    some ([], if now ≥ call.deadline then call.timedOut
      else .running { call with point := .send })
  -- A count outside of what was asked for is no result of `send`.
  | .send, .sendReturned (.accepted count) =>
    if 0 < count ∧ count ≤ call.data.length - call.sent then
      some ((call.data.drop call.sent).take count,
        { call with sent := call.sent + count }.loopHead)
    else none
  | .send, .sendReturned .zero =>
    some ([], .failed "send returned 0, peer may have closed connection")
  | .send, .sendReturned (.failed errno) => some ([], call.afterSendError strerror errno)
  | .recheckCancel, .stopLoaded stop =>
    some ([], if stop then call.cancelledAt else .running { call with point := .waitTime })
  | .waitTime, .clock now =>
    let waitMs := remainingWaitMs call.deadline now
    some ([], if waitMs ≤ 0 then call.timedOut else .running { call with point := .poll waitMs })
  | .poll _, .pollReturned result => some ([], call.afterPoll strerror result)
  | _, _ => none

/-! ### What a step sends -/

/-- A call that goes on has sent what it says, and has something left to send. -/
def SendSpec (call : SendCall) (event : SendEvent) (bytes : List UInt8) : SendOutcome → Prop
  | .running call' => call'.data = call.data ∧ call'.deadline = call.deadline ∧
      call'.sent = call.sent + bytes.length ∧ bytes = (call.data.drop call.sent).take bytes.length ∧
      call'.sent < call.data.length
  | .returned => bytes = call.data.drop call.sent
  | .timeout _ => bytes = []
  | .cancelled _ => bytes = [] ∧ event = .stopLoaded true
  | .failed _ => bytes = []

theorem loopHead_spec (call : SendCall) (event : SendEvent) (more : call.sent < call.data.length) :
    SendSpec call event [] call.loopHead := by
  rw [SendCall.loopHead, if_pos more]
  exact ⟨rfl, rfl, rfl, rfl, more⟩

theorem start_spec (data : List UInt8) (deadline : Nat) :
    (∃ call, SendCall.start data deadline = .running call ∧ call.data = data ∧
      call.deadline = deadline ∧ call.sent = 0 ∧ 0 < data.length) ∨
    (SendCall.start data deadline = .returned ∧ data = []) := by
  rw [SendCall.start, SendCall.loopHead]
  split
  next more => exact .inl ⟨_, rfl, rfl, rfl, rfl, more⟩
  next none => exact .inr ⟨rfl, List.eq_nil_of_length_eq_zero (by simpa using none)⟩

theorem step_spec {strerror : Errno → String} {call : SendCall} {event : SendEvent}
    {bytes : List UInt8} {outcome : SendOutcome} (more : call.sent < call.data.length)
    (step : call.step strerror event = some (bytes, outcome)) :
    SendSpec call event bytes outcome := by
  -- All steps but a successful `send` move the point and send nothing.
  have still : ∀ point, SendSpec call event [] (.running { call with point := point }) :=
    fun point => ⟨rfl, rfl, rfl, rfl, more⟩
  unfold SendCall.step at step
  split at step
  next =>
    cases step
    split
    next stop => exact ⟨rfl, by rw [stop]⟩
    next => exact still _
  next =>
    cases step
    split
    · exact rfl
    · exact still _
  next count _ =>
    split at step
    next fits =>
      cases step
      have taken : ((call.data.drop call.sent).take count).length = count := by
        rw [List.length_take, List.length_drop]
        omega
      rw [SendCall.loopHead]
      split
      next left => exact ⟨rfl, rfl, by rw [taken], by rw [taken], left⟩
      -- The loop condition fails: the rest was taken.
      next all =>
        refine List.take_of_length_le ?_
        simp only at all
        rw [List.length_drop]
        omega
    next => cases step
  next => cases step; exact rfl
  next errno _ =>
    cases step
    rw [SendCall.afterSendError]
    split
    · exact loopHead_spec call _ more
    split
    · exact rfl
    · exact still _
  next =>
    cases step
    split
    next stop => exact ⟨rfl, by rw [stop]⟩
    next => exact still _
  next =>
    cases step
    split
    · exact rfl
    · exact still _
  next result _ =>
    cases step
    cases result with
    | failed errno =>
      rw [SendCall.afterPoll]
      split
      · exact loopHead_spec call _ more
      · exact rfl
    | timeout => exact loopHead_spec call _ more
    | ready nval errOrHup socketError =>
      simp only [SendCall.afterPoll]
      split
      · exact rfl
      split
      · cases socketError <;> exact rfl
      · exact loopHead_spec call _ more
  next => cases step

end V4l2Capture.TcpIo
