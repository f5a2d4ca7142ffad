import V4l2Capture.Library.History
import V4l2Capture.Library.Transition
import V4l2Capture.Pipeline.SendAll

/-!
# Whole runs of a send

`sendAllUntil` is the entry of `send_all_until`, for any deadline and poll slice, and
`SendRun` a call on its way with what it asked of the system and was answered. The answers
of the kernel, the clock and the stop flag are arbitrary; `sendAllUntil_sound` says what holds
of the bytes, the exceptions and the waits in every run.
-/
namespace V4l2Capture.TcpIo

open Camera (Errno)
open History Transition

/-! ### The call -/

/-- `remaining_wait_ms` for any poll slice. -/
def remainingWaitWithin (pollSliceMs deadline now : Nat) : Nat :=
  if now ≥ deadline then 0
  else
    let remaining := (deadline - now) / 1000000
    min (min pollSliceMs (if remaining > 0 then remaining else 1)) 2147483647

/-- Only the wait depends on the poll slice. -/
def SendCall.stepWithin (strerror : Errno → String) (pollSliceMs : Nat) (call : SendCall)
    (event : SendEvent) : Option (List UInt8 × SendOutcome) :=
  match call.point, event with
  | .waitTime, .clock now =>
    let waitMs := remainingWaitWithin pollSliceMs call.deadline now
    some ([], if waitMs ≤ 0 then call.timedOut else .running { call with point := .poll waitMs })
  | _, _ => call.step strerror event

/-- The calls of the programs leave the poll slice at its default. -/
theorem stepWithin_default (strerror : Errno → String) (call : SendCall) (event : SendEvent) :
    call.stepWithin strerror kPollSliceMs event = call.step strerror event := by
  unfold SendCall.stepWithin
  split
  next at_wait => simp only [SendCall.step, at_wait]; rfl
  next => rfl

/-- The pointer and the size. -/
inductive SendData where
  | null (size : Nat)
  | bytes (data : List UInt8)
  deriving DecidableEq, Repr

/-- The checks of `send_all_until` and the start of its loop. The readings of the clock are not
negative, so a deadline before its origin is as good as one at the origin. -/
def sendAllUntil (fd : Int) (data : SendData) (deadline pollSliceMs : Int) :
    Except String SendOutcome :=
  if fd < 0 then .error "TCP send requires a valid socket fd"
  else
    match data with
    | .null size =>
      if size > 0 then .error "TCP send received a null data pointer"
      else if pollSliceMs ≤ 0 then .error "TCP send poll slice must be positive"
      else .ok (SendCall.start [] deadline.toNat)
    | .bytes data =>
      if pollSliceMs ≤ 0 then .error "TCP send poll slice must be positive"
      else .ok (SendCall.start data deadline.toNat)

def SendData.toList : SendData → List UInt8
  | .null _ => []
  | .bytes data => data

/-! ### Runs -/

/-- What the call asked of the system, with the answer. A null `stop_requested` is a flag that
is never set. -/
inductive SendMoment where
  | stopLoaded (stop : Bool)
  | clock (now : Nat)
  | send (offered : List UInt8) (result : SendReturn)
  | poll (waitMs : Nat) (result : PollReturn)
  deriving DecidableEq, Repr

/-- What a call asks where it gets the given answer. -/
def SendCall.moment (call : SendCall) : SendEvent → SendMoment
  | .stopLoaded stop => .stopLoaded stop
  | .clock now => .clock now
  | .sendReturned result => .send (call.data.drop call.sent) result
  | .pollReturned result =>
    match call.point with
    | .poll waitMs => .poll waitMs result
    | _ => .poll 0 result

structure SendRun where
  outcome : SendOutcome
  moments : List SendMoment
  deriving DecidableEq, Repr

def SendRun.step (strerror : Errno → String) (pollSliceMs : Nat) (run : SendRun)
    (event : SendEvent) : Option SendRun :=
  match run.outcome with
  | .running call =>
    (call.stepWithin strerror pollSliceMs event).map fun (_, outcome) =>
      ⟨outcome, run.moments ++ [call.moment event]⟩
  | _ => none

/-- The bytes that the kernel took from the offer of one call of `send`. -/
def SendMoment.accepted : SendMoment → List UInt8
  | .send offered (.accepted count) => offered.take count
  | _ => []

def SendRun.accepted (run : SendRun) : List UInt8 :=
  run.moments.flatMap SendMoment.accepted

/-! ### What a run guarantees -/

/-- A `send` follows a check that saw no stop and a clock before the deadline, and a `poll`
waits within the slice and the time that the clock has just left. -/
def Checked (deadline pollSliceMs : Int) (before : List SendMoment) : SendMoment → Prop
  | .send _ _ => ∃ (earlier : List SendMoment) (now : Nat),
      before = earlier ++ [.stopLoaded false, .clock now] ∧ now < deadline
  | .poll waitMs _ => ∃ (earlier : List SendMoment) (now : Nat),
      before = earlier ++ [.clock now] ∧ now < deadline ∧
      1 ≤ waitMs ∧ waitMs ≤ pollSliceMs ∧ waitMs ≤ max 1 ((deadline - now) / 1000000)
  | _ => True

def timeoutText (sent size : Nat) : String :=
  "TCP send timed out after sending " ++ toString sent ++ "/" ++ toString size ++ " bytes"

def cancelledText (sent size : Nat) : String :=
  "TCP send cancelled after sending " ++ toString sent ++ "/" ++ toString size ++ " bytes"

/-- The accepted bytes are a part of the data, and not all of it. -/
structure StrictPrefix (accepted data : List UInt8) : Prop where
  isPrefix : accepted <+: data
  strict : accepted.length < data.length

/-- How a call may end. -/
def Ends (data : List UInt8) (deadline : Int) (accepted : List UInt8)
    (moments : List SendMoment) : SendOutcome → Prop
  | .running _ => StrictPrefix accepted data
  | .returned => accepted = data
  | .timeout message => StrictPrefix accepted data ∧
      message = timeoutText accepted.length data.length ∧
      ∃ (earlier : List SendMoment) (now : Nat),
        moments = earlier ++ [.clock now] ∧ deadline ≤ now
  | .cancelled message => StrictPrefix accepted data ∧
      message = cancelledText accepted.length data.length ∧
      ∃ earlier, moments = earlier ++ [.stopLoaded true]
  | .failed _ => StrictPrefix accepted data

structure SendRun.Sound (run : SendRun) (data : List UInt8) (deadline pollSliceMs : Int) :
    Prop where
  ends : Ends data deadline run.accepted run.moments run.outcome
  checked : Before run.moments (Checked deadline pollSliceMs)

/-! ### One step -/

/-- What the moments end with where a call waits for its next answer. -/
def Waits (deadline pollSliceMs : Int) (moments : List SendMoment) : SendPoint → Prop
  | .checkDeadline => ∃ earlier, moments = earlier ++ [.stopLoaded false]
  | .send => Checked deadline pollSliceMs moments (.send [] .zero)
  | .poll waitMs => Checked deadline pollSliceMs moments (.poll waitMs .timeout)
  | _ => True

/-- Where a step leads, as far as the moments tell. -/
def Leads (call : SendCall) (deadline pollSliceMs : Int) (moments : List SendMoment)
    (event : SendEvent) : SendOutcome → Prop
  | .running call' => Waits deadline pollSliceMs (moments ++ [call.moment event]) call'.point
  | .timeout message => message = timeoutText call.sent call.data.length ∧
      ∃ now : Nat, event = .clock now ∧ deadline ≤ now
  | .cancelled message => message = cancelledText call.sent call.data.length ∧
      event = .stopLoaded true
  | _ => True

theorem remainingWaitWithin_pos {deadline pollSliceMs : Int} {now : Nat} (slice : 0 < pollSliceMs)
    (early : now < deadline) :
    let waitMs := remainingWaitWithin pollSliceMs.toNat deadline.toNat now
    1 ≤ waitMs ∧ waitMs ≤ pollSliceMs ∧ waitMs ≤ max 1 ((deadline - now) / 1000000) := by
  have before : ¬ now ≥ deadline.toNat := by omega
  have rounded : ((deadline.toNat - now) / 1000000 : Nat) = ((deadline - now) / 1000000 : Int) := by
    omega
  rw [remainingWaitWithin, if_neg before]
  dsimp only
  split <;> omega

section Step

variable {strerror : Errno → String} {call : SendCall} {event : SendEvent} {bytes : List UInt8}
  {outcome : SendOutcome} {deadline pollSliceMs : Int} {moments : List SendMoment}

theorem loopHead_leads (call' : SendCall) :
    Leads call deadline pollSliceMs moments event call'.loopHead := by
  rw [SendCall.loopHead]
  split <;> exact trivial

theorem afterSendError_leads (errno : Errno) :
    Leads call deadline pollSliceMs moments event (call.afterSendError strerror errno) := by
  rw [SendCall.afterSendError]
  split
  · exact loopHead_leads call
  split <;> exact trivial

theorem afterPoll_leads (result : PollReturn) :
    Leads call deadline pollSliceMs moments event (call.afterPoll strerror result) := by
  cases result with
  | failed errno =>
    rw [SendCall.afterPoll]
    split
    · exact loopHead_leads call
    · exact trivial
  | timeout => exact loopHead_leads call
  | ready nval errOrHup socketError =>
    simp only [SendCall.afterPoll]
    split
    · exact trivial
    split
    · cases socketError <;> exact trivial
    · exact loopHead_leads call

/-- A step asks for nothing unchecked, and leads on, to the end or to an exception for a reason
that it has seen. -/
theorem stepWithin_leads (slice : 0 < pollSliceMs) (deadline_eq : call.deadline = deadline.toNat)
    (waits : Waits deadline pollSliceMs moments call.point)
    (step : call.stepWithin strerror pollSliceMs.toNat event = some (bytes, outcome)) :
    Checked deadline pollSliceMs moments (call.moment event) ∧
      Leads call deadline pollSliceMs moments event outcome := by
  unfold SendCall.stepWithin at step
  split at step
  next now at_wait =>
    cases step
    refine ⟨trivial, ?_⟩
    by_cases early : (now : Int) < deadline
    · have bounds := remainingWaitWithin_pos slice early
      rw [deadline_eq, if_neg (by omega)]
      exact ⟨moments, now, rfl, early, bounds⟩
    · have late : now ≥ call.deadline := by omega
      rw [remainingWaitWithin, if_pos late, if_pos (Nat.le_refl 0)]
      exact ⟨rfl, now, rfl, by omega⟩
  next other =>
    unfold SendCall.step at step
    split at step
    next stop at_check =>
      cases step
      refine ⟨trivial, ?_⟩
      cases stop with
      | true => exact ⟨rfl, rfl⟩
      | false => exact ⟨moments, rfl⟩
    next now at_deadline =>
      cases step
      refine ⟨trivial, ?_⟩
      rw [at_deadline] at waits
      obtain ⟨earlier, rfl⟩ := waits
      split
      next late => exact ⟨rfl, now, rfl, by omega⟩
      next early => exact ⟨earlier, now, by simp [SendCall.moment], by omega⟩
    next count at_send =>
      rw [at_send] at waits
      split at step
      next fits =>
        cases step
        exact ⟨waits, loopHead_leads _⟩
      next => cases step
    next at_send =>
      rw [at_send] at waits
      cases step
      exact ⟨waits, trivial⟩
    next errno at_send =>
      rw [at_send] at waits
      cases step
      exact ⟨waits, afterSendError_leads errno⟩
    next stop at_recheck =>
      cases step
      refine ⟨trivial, ?_⟩
      cases stop with
      | true => exact ⟨rfl, rfl⟩
      | false => exact trivial
    next now at_wait => exact absurd rfl (other now at_wait)
    next waitMs result at_poll =>
      rw [at_poll] at waits
      cases step
      rw [SendCall.moment, at_poll]
      exact ⟨waits, afterPoll_leads result⟩
    next => cases step

/-- The poll slice makes no difference to the bytes. -/
theorem stepWithin_spec {pollSliceMs : Nat} (more : call.sent < call.data.length)
    (step : call.stepWithin strerror pollSliceMs event = some (bytes, outcome)) :
    SendSpec call event bytes outcome ∧ bytes = (call.moment event).accepted := by
  unfold SendCall.stepWithin at step
  split at step
  next =>
    cases step
    refine ⟨?_, rfl⟩
    split
    · exact rfl
    · exact ⟨rfl, rfl, rfl, rfl, more⟩
  next other =>
    refine ⟨step_spec more step, ?_⟩
    unfold SendCall.step at step
    split at step
    next => cases step; rfl
    next => cases step; rfl
    next =>
      split at step
      · cases step; rfl
      · cases step
    next => cases step; rfl
    next => cases step; rfl
    next => cases step; rfl
    next => cases step; rfl
    next waitMs result at_poll =>
      cases step
      rw [SendCall.moment, at_poll]
      rfl
    next => cases step

end Step

/-! ### Whole runs -/

/-- A call on its way has sent a part of the data, which the kernel accepted in order. -/
structure OnItsWay (data : List UInt8) (deadline pollSliceMs : Int) (run : SendRun)
    (call : SendCall) : Prop where
  data_eq : call.data = data
  deadline_eq : call.deadline = deadline.toNat
  accepted : run.accepted = data.take call.sent
  more : call.sent < data.length
  waits : Waits deadline pollSliceMs run.moments call.point

structure SendInv (data : List UInt8) (deadline pollSliceMs : Int) (run : SendRun) : Prop where
  sound : run.Sound data deadline pollSliceMs
  onItsWay : ∀ call, run.outcome = .running call → OnItsWay data deadline pollSliceMs run call

theorem StrictPrefix.of_take {data : List UInt8} {sent : Nat} (more : sent < data.length) :
    StrictPrefix (data.take sent) data :=
  ⟨List.take_prefix sent data, by rw [List.length_take]; omega⟩

theorem SendInv.initial {data : List UInt8} {deadline pollSliceMs : Int} :
    SendInv data deadline pollSliceMs ⟨SendCall.start data deadline.toNat, []⟩ := by
  rw [SendCall.start, SendCall.loopHead]
  split
  next more =>
    refine ⟨⟨.of_take more, before_nil _⟩, ?_⟩
    rintro _ ⟨⟩
    exact ⟨rfl, rfl, rfl, more, trivial⟩
  next none =>
    refine ⟨⟨?_, before_nil _⟩, by simp⟩
    exact (List.eq_nil_of_length_eq_zero (by simpa using none)).symm

theorem SendInv.step {data : List UInt8} {deadline pollSliceMs : Int} {run run' : SendRun}
    {strerror : Errno → String} {event : SendEvent} (slice : 0 < pollSliceMs)
    (inv : SendInv data deadline pollSliceMs run)
    (step : run.step strerror pollSliceMs.toNat event = some run') :
    SendInv data deadline pollSliceMs run' := by
  unfold SendRun.step at step
  split at step
  next call running =>
    obtain ⟨⟨bytes, outcome⟩, taken, rfl⟩ := Option.map_eq_some_iff.mp step
    obtain ⟨rfl, deadline_eq, accepted, more, waits⟩ := inv.onItsWay call running
    obtain ⟨spec, bytes_eq⟩ := stepWithin_spec more taken
    obtain ⟨checked, leads⟩ := stepWithin_leads slice deadline_eq waits taken
    have accepted' : SendRun.accepted ⟨outcome, run.moments ++ [call.moment event]⟩ =
        call.data.take call.sent ++ bytes := by
      rw [bytes_eq, ← accepted]
      simp [SendRun.accepted]
    have part := StrictPrefix.of_take more
    have sent : (call.data.take call.sent).length = call.sent := by
      rw [List.length_take]
      omega
    refine ⟨⟨?_, (before_concat _ _ _).mpr ⟨inv.sound.checked, checked⟩⟩, ?_⟩
    · rw [accepted']
      cases outcome with
      | running call' =>
        obtain ⟨_, _, sent', taken', more'⟩ := spec
        rw [taken', ← List.take_add, ← sent']
        exact .of_take more'
      | returned =>
        have rest : bytes = call.data.drop call.sent := spec
        rw [rest, List.take_append_drop]
        exact rfl
      -- The exceptions are thrown between two accesses to the socket.
      | timeout message =>
        obtain ⟨text, now, rfl, late⟩ := leads
        have nothing : bytes = [] := spec
        rw [nothing, List.append_nil]
        exact ⟨part, by rw [sent]; exact text, run.moments, now, rfl, late⟩
      | cancelled message =>
        obtain ⟨text, rfl⟩ := leads
        rw [spec.1, List.append_nil]
        exact ⟨part, by rw [sent]; exact text, run.moments, rfl⟩
      | failed message =>
        have nothing : bytes = [] := spec
        rw [nothing, List.append_nil]
        exact part
    · rintro call' rfl
      obtain ⟨data', deadline', sent', taken', more'⟩ := spec
      refine ⟨data', deadline'.trans deadline_eq, ?_, more', leads⟩
      rw [accepted', taken', ← List.take_add, ← sent']
  next => cases step

theorem send_runs {data : List UInt8} {deadline pollSliceMs : Int} {strerror : Errno → String}
    {run : SendRun} (slice : 0 < pollSliceMs)
    (reached : Reaches (SendRun.step strerror pollSliceMs.toNat)
      ⟨SendCall.start data deadline.toNat, []⟩ run) : SendInv data deadline pollSliceMs run :=
  invariant (SendInv data deadline pollSliceMs) .initial
    (fun _ _ _ _ inv step => inv.step slice step) reached

/-- In every run of a call that passes its checks: it returns when exactly the data was
accepted, an exception leaves a part that the message counts, a timeout or a cancellation was
seen, and no `send` or `poll` goes out unchecked. -/
theorem sendAllUntil_sound {fd : Int} {data : SendData} {deadline pollSliceMs : Int}
    {start : SendOutcome} (strerror : Errno → String)
    (starts : sendAllUntil fd data deadline pollSliceMs = .ok start) {run : SendRun}
    (reached : Reaches (SendRun.step strerror pollSliceMs.toNat) ⟨start, []⟩ run) :
    run.Sound data.toList deadline pollSliceMs := by
  have begins : 0 < pollSliceMs ∧ start = SendCall.start data.toList deadline.toNat := by
    unfold sendAllUntil at starts
    split at starts
    · cases starts
    split at starts
    · split at starts
      · cases starts
      split at starts
      · cases starts
      next slice => cases starts; exact ⟨by omega, rfl⟩
    · split at starts
      · cases starts
      next slice => cases starts; exact ⟨by omega, rfl⟩
  obtain ⟨slice, rfl⟩ := begins
  exact (send_runs slice reached).sound

/-- Two of three bytes are accepted, then the socket is full until the deadline. -/
def slowPeer : List SendEvent :=
  [.stopLoaded false, .clock 0, .sendReturned (.accepted 2),
    .stopLoaded false, .clock 1000000, .sendReturned (.failed EAGAIN),
    .stopLoaded false, .clock 1500000, .pollReturned .timeout,
    .stopLoaded false, .clock 3000000]

theorem sendAllUntil_sound_slowPeer :
    ∃ run, Reaches (SendRun.step (fun _ => "") 10) ⟨SendCall.start [1, 2, 3] 3000000, []⟩ run ∧
      run.outcome = .timeout "TCP send timed out after sending 2/3 bytes" ∧
      run.Sound [1, 2, 3] 3000000 10 := by
  obtain ⟨run, reached, ended⟩ :
      ∃ run, Reaches (SendRun.step (fun _ => "") 10) ⟨SendCall.start [1, 2, 3] 3000000, []⟩ run ∧
        run.outcome = .timeout "TCP send timed out after sending 2/3 bytes" :=
    exists_reached slowPeer (by decide +kernel)
  have starts : sendAllUntil 3 (.bytes [1, 2, 3]) 3000000 10 =
      .ok (SendCall.start [1, 2, 3] 3000000) := rfl
  exact ⟨run, reached, ended, sendAllUntil_sound (fun _ => "") starts reached⟩

end V4l2Capture.TcpIo
