import V4l2Capture.Pipeline.SendAll
import V4l2Capture.Pipeline.Shared

/-!
# The TCP sender thread

Takes frames out of the TCP queue and sends each as its serialised header followed by its
data, by two calls of `send_all_until` with one deadline. `SenderStep` lists what a step
between two writing accesses can be.
-/
namespace V4l2Capture.Pipeline

open Protocol TcpIo

/-- A frame on the wire. -/
def encodeFrame (frame : Frame) : List UInt8 :=
  (serializeHeader (frameHeader frame)).toList ++ frame.data

def encodeFrames (frames : List Frame) : List UInt8 := frames.flatMap encodeFrame

theorem encodeFrame_length (frame : Frame) :
    (encodeFrame frame).length = kWireHeaderSize + frame.data.length := by
  simp [encodeFrame]

inductive Phase where
  | header
  | payload
  deriving DecidableEq, Repr

/-- Why the sender left its loop; `disabled` when the thread is never started. -/
inductive SenderEnd where
  | disabled
  | drained
  | failed
  | cancelled
  deriving DecidableEq, Repr

inductive SenderCtl where
  | loopHead
  | checkEmpty
  | pop
  | begin (frame : Frame)
  | sending (frame : Frame) (phase : Phase) (call : SendCall)
  | finished (reason : SenderEnd)
  deriving DecidableEq, Repr

@[simp] def SenderCtl.isFinished : SenderCtl → Bool
  | .finished _ => true
  | _ => false

structure Sender where
  ctl : SenderCtl
  todo : List Op := []
  /-- History: the frames taken out, those sent completely, the one that is being sent or
  was given up with the number of its bytes that were accepted, and all accepted bytes. -/
  popped : List Frame := []
  sent : List Frame := []
  current : Option (Frame × Nat) := none
  wire : List UInt8 := []
  deriving DecidableEq, Repr

/-- What the system decides about a step of the sender. -/
inductive SenderInput where
  | go
  | event (event : SendEvent)
  deriving DecidableEq, Repr

def Sender.initial (cfg : PipelineConfig) : Sender where
  ctl := if cfg.tcpEnabled then .loopHead else .finished .disabled

def Sender.take (s : Sender) (frame : Frame) : Sender :=
  { s with
    ctl := .begin frame
    popped := s.popped ++ [frame]
    current := some (frame, 0) }

/-- The text that the handlers record. -/
def sendErrorText (frame : Frame) (how : String) (tcpSent : Nat) (what : String) : String :=
  "send frame_id=" ++ toString frame.sequence ++ " " ++ how ++ " after tcp_sent_frames=" ++
    toString tcpSent ++ ": " ++ what

/-- The handler of `SendTimeout`. -/
def Sender.onTimeout (s : Sender) (frame : Frame) (tcpSent : Nat) (what : String) : Sender :=
  { s with
    ctl := .finished .failed
    todo := [.add .tcpSendErrors 1, .add .tcpSendTimeouts 1,
      .setLastError (sendErrorText frame "timed out" tcpSent what), .requestStop] }

/-- The handler of `SendCancelled`. -/
def Sender.onCancelled (s : Sender) (frame : Frame) (tcpSent : Nat) (what : String) : Sender :=
  { s with
    ctl := .finished .cancelled
    todo := [.add .tcpSendCancellations 1,
      .setLastError (sendErrorText frame "cancelled" tcpSent what)] }

/-- The handler of every other exception. -/
def Sender.onFailure (s : Sender) (frame : Frame) (tcpSent : Nat) (what : String) : Sender :=
  { s with
    ctl := .finished .failed
    todo := [.add .tcpSendErrors 1,
      .setLastError (sendErrorText frame "failed" tcpSent what), .requestStop] }

/-- Behind a frame that was sent completely. -/
def Sender.complete (s : Sender) (frame : Frame) : Sender :=
  { s with
    ctl := .loopHead
    -- The bytes are counted before the frame.
    todo := [.add .tcpSentBytes (kWireHeaderSize + frame.data.length), .add .tcpSent 1]
    sent := s.sent ++ [frame]
    current := none }

/-- Behind a step of the second call of `send_all_until`. -/
def Sender.afterPayload (s : Sender) (frame : Frame) (tcpSent : Nat) : SendOutcome → Sender
  | .running call => { s with ctl := .sending frame .payload call }
  | .returned => s.complete frame
  | .timeout what => s.onTimeout frame tcpSent what
  | .cancelled what => s.onCancelled frame tcpSent what
  | .failed what => s.onFailure frame tcpSent what

/-- Behind a step of the first call, which is followed by the second one. -/
def Sender.afterHeader (s : Sender) (frame : Frame) (deadline : Nat) (tcpSent : Nat) :
    SendOutcome → Sender
  | .running call => { s with ctl := .sending frame .header call }
  | .returned => s.afterPayload frame tcpSent (SendCall.start frame.data deadline)
  | .timeout what => s.onTimeout frame tcpSent what
  | .cancelled what => s.onCancelled frame tcpSent what
  | .failed what => s.onFailure frame tcpSent what

/-- Behind a step of the call for one part of a frame. -/
def Sender.afterStep (s : Sender) (frame : Frame) (phase : Phase) (deadline tcpSent : Nat)
    (outcome : SendOutcome) : Sender :=
  match phase with
  | .header => s.afterHeader frame deadline tcpSent outcome
  | .payload => s.afterPayload frame tcpSent outcome

/-- `send_frame_over_tcp` up to its first load in `send_all_until`; the deadline is taken
from the clock in between. -/
def Sender.beginFrame (cfg : PipelineConfig) (s : Sender) (frame : Frame) (tcpSent now : Nat) :
    Sender :=
  match wireHeaderToSend frame with
  | .error what => s.onFailure frame tcpSent what
  | .ok wire =>
    -- One deadline for both parts of the frame.
    let deadline := now + cfg.tcpSendTimeoutMs * 1000000
    s.afterHeader frame deadline tcpSent (SendCall.start wire.toList deadline)

/-- Bytes that the kernel accepted. -/
def Sender.accept (s : Sender) (bytes : List UInt8) : Sender :=
  { s with
    wire := s.wire ++ bytes
    current := s.current.map fun c => (c.1, c.2 + bytes.length) }

/-- What a call waits for: a load of the stop flag, or what the system decides. -/
def sendEvent? (stop : Bool) (point : SendPoint) (input : SenderInput) : Option SendEvent :=
  match point, input with
  | .checkCancel, .go => some (.stopLoaded stop)
  | .recheckCancel, .go => some (.stopLoaded stop)
  | .checkCancel, .event _ => none
  | .recheckCancel, .event _ => none
  | _, .go => none
  | _, .event event => some event

/-- What the sender does when it has no writing access left to make. -/
def senderControl (cfg : PipelineConfig) (shared : Shared cfg) (s : Sender) (input : SenderInput) :
    Option (Shared cfg × Sender) :=
  match s.ctl, input with
  -- `stop_requested` is not part of the loop condition, only `send_all_until` loads it.
  | .loopHead, .go =>
    some (shared, { s with ctl := if shared.consumerDone then .checkEmpty else .pop })
  | .checkEmpty, .go =>
    some (shared, { s with
      ctl := if shared.tcpRing.empty then .finished .drained else .pop })
  | .pop, .go =>
    match shared.tcpRing.tryPopOldest with
    | some (frame, ring) => some ({ shared with tcpRing := ring }, s.take frame)
    | none => some (shared, { s with ctl := .loopHead })
  | .begin frame, .event (.clock now) =>
    some (shared, s.beginFrame cfg frame (shared.stats .tcpSent) now)
  | .sending frame phase call, input =>
    (sendEvent? shared.stopRequested call.point input).bind fun event =>
      (call.step cfg.strerror event).map fun (bytes, outcome) =>
        (shared, (s.accept bytes).afterStep frame phase call.deadline (shared.stats .tcpSent)
          outcome)
  | _, _ => none

/-- Everything that a step of the sender can do, to itself and to the shared state. -/
inductive SenderStep (cfg : PipelineConfig) (shared : Shared cfg) (s : Sender) :
    Shared cfg → Sender → Prop
  | producing (at_head : s.ctl = .loopHead) :
      SenderStep cfg shared s shared { s with ctl := .pop }
  | consumerDone (at_head : s.ctl = .loopHead) (done : shared.consumerDone = true) :
      SenderStep cfg shared s shared { s with ctl := .checkEmpty }
  | drained (at_check : s.ctl = .checkEmpty) (empty : shared.tcpRing.empty = true) :
      SenderStep cfg shared s shared { s with ctl := .finished .drained }
  | left (at_check : s.ctl = .checkEmpty) : SenderStep cfg shared s shared { s with ctl := .pop }
  | popped (at_pop : s.ctl = .pop) (frame : Frame) (ring : RingBuffer Frame cfg.tcpQueueCapacity)
      (pop : shared.tcpRing.tryPopOldest = some (frame, ring)) :
      SenderStep cfg shared s { shared with tcpRing := ring } (s.take frame)
  | waited (at_pop : s.ctl = .pop) : SenderStep cfg shared s shared { s with ctl := .loopHead }
  | begun (frame : Frame) (at_begin : s.ctl = .begin frame) (now : Nat) :
      SenderStep cfg shared s shared (s.beginFrame cfg frame (shared.stats .tcpSent) now)
  | sent (frame : Frame) (phase : Phase) (call : SendCall)
      (at_sending : s.ctl = .sending frame phase call) (event : SendEvent)
      (stops : event = .stopLoaded true → shared.stopRequested = true)
      (bytes : List UInt8) (outcome : SendOutcome)
      (step : call.step cfg.strerror event = some (bytes, outcome)) :
      SenderStep cfg shared s shared ((s.accept bytes).afterStep frame phase call.deadline
        (shared.stats .tcpSent) outcome)

theorem sendEvent?_stop {stop : Bool} {point : SendPoint} {input : SenderInput}
    {event : SendEvent} (given : sendEvent? stop point input = some event)
    (loaded : event = .stopLoaded true) {strerror : Camera.Errno → String} {call : SendCall}
    (at_point : call.point = point) (possible : call.step strerror event ≠ none) : stop = true := by
  subst loaded at_point
  unfold sendEvent? at given
  split at given
  · cases given; rfl
  · cases given; rfl
  · cases given
  · cases given
  · cases given
  -- At no other point does a call wait for the flag.
  next notCheck notRecheck =>
    cases given
    refine absurd ?_ possible
    unfold SendCall.step
    split <;> simp_all

theorem senderControl_step {cfg : PipelineConfig} {shared shared' : Shared cfg} {s s' : Sender}
    {input : SenderInput} (step : senderControl cfg shared s input = some (shared', s')) :
    SenderStep cfg shared s shared' s' := by
  unfold senderControl at step
  split at step
  next _ at_head =>
    cases step
    split
    next done => exact .consumerDone at_head done
    next => exact .producing at_head
  next _ at_check =>
    cases step
    split
    next empty => exact .drained at_check empty
    next => exact .left at_check
  next _ at_pop =>
    split at step
    next frame ring pop => cases step; exact .popped at_pop frame ring pop
    next => cases step; exact .waited at_pop
  next frame now at_begin => cases step; exact .begun frame at_begin now
  next _ frame phase call at_sending =>
    obtain ⟨event, given, rest⟩ := Option.bind_eq_some_iff.mp step
    obtain ⟨⟨bytes, outcome⟩, taken, result⟩ := Option.map_eq_some_iff.mp rest
    have stops : event = .stopLoaded true → shared.stopRequested = true := fun loaded =>
      sendEvent?_stop given loaded rfl (by rw [taken]; simp)
    cases result
    exact .sent frame phase call at_sending event stops bytes outcome taken
  next => cases step

/-! ### The two parts of a frame -/

/-- What is sent in a phase, and how much of the frame precedes it. -/
@[simp] def Phase.data (frame : Frame) : Phase → List UInt8
  | .header => (serializeHeader (frameHeader frame)).toList
  | .payload => frame.data

@[simp] def Phase.base : Phase → Nat
  | .header => 0
  | .payload => kWireHeaderSize

theorem Phase.within (phase : Phase) (frame : Frame) :
    phase.base + (phase.data frame).length ≤ (encodeFrame frame).length := by
  rw [encodeFrame_length]
  cases phase <;> simp

theorem Phase.drop_take (phase : Phase) (frame : Frame) {k n : Nat}
    (fits : k + n ≤ (phase.data frame).length) :
    ((encodeFrame frame).drop (phase.base + k)).take n = ((phase.data frame).drop k).take n := by
  cases phase with
  -- The header comes first, so its parts are parts of the frame at the same place.
  | header =>
    simp only [Phase.data, Vector.length_toList] at fits
    rw [Phase.base, Nat.zero_add, encodeFrame, List.drop_append_of_le_length (by simp; omega),
      List.take_append_of_le_length (by simp; omega), Phase.data]
  | payload =>
    have header : (serializeHeader (frameHeader frame)).toList.length = Phase.payload.base := by simp
    rw [encodeFrame, ← header, List.drop_append, List.drop_of_length_le (by omega),
      List.nil_append, Nat.add_sub_cancel_left, Phase.data]

/-- A call goes on within its part of the frame or has ended there. -/
def Continues (data : List UInt8) (base k : Nat) (stop : Bool) : SendOutcome → Prop
  | .running call => call.data = data ∧ call.sent < data.length ∧ k = base + call.sent
  | .returned => k = base + data.length
  | .timeout _ => k < base + data.length
  | .cancelled _ => k < base + data.length ∧ stop = true
  | .failed _ => k < base + data.length

theorem continues_start (data : List UInt8) (base deadline : Nat) (stop : Bool) :
    Continues data base base stop (SendCall.start data deadline) := by
  rcases start_spec data deadline with ⟨call, running, same, _, none, more⟩ | ⟨returned, empty⟩
  · rw [running]
    exact ⟨same, by rw [none]; exact more, by rw [none, Nat.add_zero]⟩
  · rw [returned, empty]
    exact rfl

/-- What a step sends is the next part of what the call has to send. -/
theorem continues_step {strerror : Camera.Errno → String} {call : SendCall} {event : SendEvent}
    {bytes : List UInt8} {outcome : SendOutcome} (base : Nat) {stop : Bool}
    (more : call.sent < call.data.length)
    (step : call.step strerror event = some (bytes, outcome))
    (stops : event = .stopLoaded true → stop = true) :
    call.sent + bytes.length ≤ call.data.length ∧
      bytes = (call.data.drop call.sent).take bytes.length ∧
      Continues call.data base (base + call.sent + bytes.length) stop outcome := by
  have spec := step_spec more step
  cases outcome with
  | running call' =>
    obtain ⟨data, _, sent, part, more'⟩ := spec
    exact ⟨by omega, part, data, more', by omega⟩
  | returned =>
    have all : bytes = call.data.drop call.sent := spec
    have length : bytes.length = call.data.length - call.sent := by
      rw [all, List.length_drop]
    refine ⟨by omega, ?_, ?_⟩
    · rw [List.take_of_length_le (by rw [List.length_drop]; omega)]
      exact all
    · show base + call.sent + bytes.length = base + call.data.length
      omega
  | timeout => cases spec; exact ⟨more.le, rfl, by simp only [Continues, List.length_nil]; omega⟩
  | cancelled =>
    obtain ⟨rfl, loaded⟩ := spec
    exact ⟨more.le, rfl, by simp only [List.length_nil]; omega, stops loaded⟩
  | failed => cases spec; exact ⟨more.le, rfl, by simp only [Continues, List.length_nil]; omega⟩

/-! ### The invariant of the sender -/

/-- The part of the frame in hand that was accepted. -/
def Sender.cut (s : Sender) : List UInt8 :=
  match s.current with
  | some (frame, k) => (encodeFrame frame).take k
  | none => []

/-- The frame in hand, as the place in the loop tells. -/
def InPlace (current : Option (Frame × Nat)) : SenderCtl → Prop
  | .begin frame => current = some (frame, 0)
  | .sending frame phase call => call.data = phase.data frame ∧ call.sent < call.data.length ∧
      current = some (frame, phase.base + call.sent)
  | .finished .failed => ∃ frame k, current = some (frame, k) ∧ k < (encodeFrame frame).length
  | .finished .cancelled => ∃ frame k, current = some (frame, k) ∧ k < (encodeFrame frame).length
  | _ => current = none

structure SenderInv (cfg : PipelineConfig) (shared : Shared cfg) (s : Sender) : Prop where
  owned : OwnedBy .sender s.todo
  wire : s.wire = encodeFrames s.sent ++ s.cut
  popped : s.popped = s.sent ++ (s.current.map Prod.fst).toList
  place : InPlace s.current s.ctl
  sent : shared.stats .tcpSent + adds .tcpSent s.todo = s.sent.length
  bytes : shared.stats .tcpSentBytes + adds .tcpSentBytes s.todo = (encodeFrames s.sent).length
  errors : shared.stats .tcpSendErrors + adds .tcpSendErrors s.todo =
    if s.ctl = .finished .failed then 1 else 0
  timeouts : shared.stats .tcpSendTimeouts + adds .tcpSendTimeouts s.todo ≤
    if s.ctl = .finished .failed then 1 else 0
  cancellations : shared.stats .tcpSendCancellations + adds .tcpSendCancellations s.todo =
    if s.ctl = .finished .cancelled then 1 else 0
  stops : .requestStop ∈ s.todo → s.ctl = .finished .failed
  cancelled : s.ctl = .finished .cancelled → shared.stopRequested = true
  disabled : s.ctl = .finished .disabled ↔ cfg.tcpEnabled = false

theorem SenderInv.initial (cfg : PipelineConfig) :
    SenderInv cfg (Shared.initial cfg) (Sender.initial cfg) := by
  cases enabled : cfg.tcpEnabled <;>
    constructor <;> simp [Sender.initial, Shared.initial, Sender.cut, InPlace, encodeFrames, enabled]

theorem SenderInv.untouched {cfg : PipelineConfig} {shared shared' : Shared cfg} {s : Sender}
    (inv : SenderInv cfg shared s) (same : Untouched .sender shared shared') :
    SenderInv cfg shared' s :=
  { inv with
    sent := by rw [same.stats _ rfl]; exact inv.sent
    bytes := by rw [same.stats _ rfl]; exact inv.bytes
    errors := by rw [same.stats _ rfl]; exact inv.errors
    timeouts := by rw [same.stats _ rfl]; exact inv.timeouts
    cancellations := by rw [same.stats _ rfl]; exact inv.cancellations
    cancelled := fun cancelled => same.stop (inv.cancelled cancelled) }

/-- The sender makes its next access. -/
theorem SenderInv.exec {cfg : PipelineConfig} {shared : Shared cfg} {s : Sender} {op : Op}
    {rest : List Op} (inv : SenderInv cfg shared s) (next : s.todo = op :: rest) :
    SenderInv cfg (op.exec shared) { s with todo := rest } := by
  obtain ⟨stop, _⟩ := exec_flags shared op
  have counted : ∀ counter, (op.exec shared).stats counter + adds counter rest =
      shared.stats counter + adds counter s.todo := by
    intro counter
    rw [exec_adds, next]
  have owned := inv.owned
  rw [next] at owned
  exact { inv with
    owned := ((ownedBy_cons _ _ _).mp owned).2
    sent := by rw [counted]; exact inv.sent
    bytes := by rw [counted]; exact inv.bytes
    errors := by rw [counted]; exact inv.errors
    timeouts := by rw [counted]; exact inv.timeouts
    cancellations := by rw [counted]; exact inv.cancellations
    stops := fun member => inv.stops ((mem_of_next next).2 _ member)
    cancelled := fun cancelled => by rw [stop, inv.cancelled cancelled, Bool.true_or] }

section Steps

variable {cfg : PipelineConfig} {shared shared' : Shared cfg} {s s' : Sender}

/-- What the invariant says between two accesses, wherever the sender is in its loop. -/
structure Clean (cfg : PipelineConfig) (shared : Shared cfg) (s : Sender) : Prop where
  idle : s.todo = []
  enabled : cfg.tcpEnabled = true
  sent : shared.stats .tcpSent = s.sent.length
  bytes : shared.stats .tcpSentBytes = (encodeFrames s.sent).length
  errors : shared.stats .tcpSendErrors = 0
  timeouts : shared.stats .tcpSendTimeouts = 0
  cancellations : shared.stats .tcpSendCancellations = 0

/-- With a frame in hand of which `k` bytes were accepted. -/
structure Holding (cfg : PipelineConfig) (shared : Shared cfg) (s : Sender) (frame : Frame)
    (k : Nat) : Prop extends Clean cfg shared s where
  current : s.current = some (frame, k)
  wire : s.wire = encodeFrames s.sent ++ (encodeFrame frame).take k
  popped : s.popped = s.sent ++ [frame]

theorem SenderInv.clean (inv : SenderInv cfg shared s) (idle : s.todo = [])
    (running : ∀ reason, s.ctl ≠ .finished reason) : Clean cfg shared s := by
  have sent := inv.sent
  have bytes := inv.bytes
  have errors := inv.errors
  have timeouts := inv.timeouts
  have cancellations := inv.cancellations
  rw [idle, adds_nil, Nat.add_zero] at sent bytes errors timeouts cancellations
  rw [if_neg (running _)] at errors timeouts cancellations
  refine ⟨idle, ?_, sent, bytes, errors, Nat.eq_zero_of_le_zero timeouts, cancellations⟩
  cases enabled : cfg.tcpEnabled with
  | true => rfl
  | false => exact absurd (inv.disabled.mpr enabled) (running _)

theorem SenderInv.holding (inv : SenderInv cfg shared s) (clean : Clean cfg shared s)
    {frame : Frame} {k : Nat} (current : s.current = some (frame, k)) :
    Holding cfg shared s frame k := by
  have wire := inv.wire
  have popped := inv.popped
  rw [Sender.cut, current] at wire
  rw [current] at popped
  exact { clean with current := current, wire := wire, popped := popped }

/-- Looking for the next frame changes nothing but the place. -/
theorem SenderInv.look (inv : SenderInv cfg shared s) (clean : Clean cfg shared s)
    (empty : s.current = none) {ctl : SenderCtl} (place : InPlace none ctl)
    (orderly : ctl ≠ .finished .disabled ∧ ctl ≠ .finished .failed ∧
      ctl ≠ .finished .cancelled) :
    SenderInv cfg shared { s with ctl := ctl } :=
  { inv with
    place := by rw [empty]; exact place
    errors := by simp [clean.idle, clean.errors, orderly]
    timeouts := by simp [clean.idle, clean.timeouts]
    cancellations := by simp [clean.idle, clean.cancellations, orderly]
    stops := by simp [clean.idle]
    cancelled := fun at_end => absurd at_end orderly.2.2
    disabled := by simp [clean.enabled, orderly] }

/-- The kernel accepts the next bytes of the frame. -/
theorem Holding.accept {frame : Frame} {k : Nat} (held : Holding cfg shared s frame k)
    (bytes : List UInt8) (part : bytes = ((encodeFrame frame).drop k).take bytes.length) :
    Holding cfg shared (s.accept bytes) frame (k + bytes.length) :=
  { held with
    current := by rw [Sender.accept, held.current]; rfl
    wire := by
      show s.wire ++ bytes = encodeFrames s.sent ++ _
      rw [List.take_add, ← part, ← List.append_assoc, ← held.wire] }

/-- The call for a part of the frame goes on. -/
theorem Holding.going {frame : Frame} {k : Nat} (held : Holding cfg shared s frame k)
    (phase : Phase) {call : SendCall} (data : call.data = phase.data frame)
    (more : call.sent < call.data.length) (at_k : k = phase.base + call.sent) :
    SenderInv cfg shared { s with ctl := .sending frame phase call } where
  owned := by simp [held.idle]
  wire := by rw [Sender.cut, held.current]; exact held.wire
  popped := by rw [held.current]; exact held.popped
  place := ⟨data, more, by rw [held.current, at_k]⟩
  sent := by simp [held.idle, held.sent]
  bytes := by simp [held.idle, held.bytes]
  errors := by simp [held.idle, held.errors]
  timeouts := by simp [held.idle, held.timeouts]
  cancellations := by simp [held.idle, held.cancellations]
  stops := by simp [held.idle]
  cancelled := nofun
  disabled := by simp [held.enabled]

/-- The frame was sent completely. -/
theorem Holding.complete {frame : Frame}
    (held : Holding cfg shared s frame (encodeFrame frame).length) :
    SenderInv cfg shared (s.complete frame) where
  owned := by simp [Sender.complete]
  wire := by
    have wire := held.wire
    rw [List.take_length] at wire
    simp [Sender.complete, Sender.cut, wire, encodeFrames]
  popped := by simp [Sender.complete, held.popped]
  place := rfl
  sent := by simp [Sender.complete, held.sent]
  bytes := by simp [Sender.complete, held.bytes, encodeFrames, encodeFrame_length]
  errors := by simp [Sender.complete, held.errors]
  timeouts := by simp [Sender.complete, held.timeouts]
  cancellations := by simp [Sender.complete, held.cancellations]
  stops := by simp [Sender.complete]
  cancelled := nofun
  disabled := by simp [Sender.complete, held.enabled]

/-- The frame was given up by a handler that counts an error, and a timeout or none. -/
theorem Holding.failed {frame : Frame} {k : Nat} (held : Holding cfg shared s frame k)
    (partly : k < (encodeFrame frame).length) {todo : List Op} (owned : OwnedBy .sender todo)
    (sent : adds .tcpSent todo = 0) (bytes : adds .tcpSentBytes todo = 0)
    (errors : adds .tcpSendErrors todo = 1) (timeouts : adds .tcpSendTimeouts todo ≤ 1)
    (cancellations : adds .tcpSendCancellations todo = 0) :
    SenderInv cfg shared { s with ctl := .finished .failed, todo := todo } where
  owned := owned
  wire := by rw [Sender.cut, held.current]; exact held.wire
  popped := by rw [held.current]; exact held.popped
  place := ⟨frame, k, held.current, partly⟩
  sent := by rw [sent, held.sent, Nat.add_zero]
  bytes := by rw [bytes, held.bytes, Nat.add_zero]
  errors := by rw [errors, held.errors]; rfl
  timeouts := by rw [held.timeouts, Nat.zero_add]; exact timeouts
  cancellations := by rw [cancellations, held.cancellations]; rfl
  stops := fun _ => rfl
  cancelled := nofun
  disabled := by simp [held.enabled]

theorem Holding.timedOut {frame : Frame} {k : Nat} (held : Holding cfg shared s frame k)
    (partly : k < (encodeFrame frame).length) (tcpSent : Nat) (what : String) :
    SenderInv cfg shared (s.onTimeout frame tcpSent what) :=
  held.failed partly (by simp) rfl rfl rfl le_rfl rfl

theorem Holding.broken {frame : Frame} {k : Nat} (held : Holding cfg shared s frame k)
    (partly : k < (encodeFrame frame).length) (tcpSent : Nat) (what : String) :
    SenderInv cfg shared (s.onFailure frame tcpSent what) :=
  held.failed partly (by simp) rfl rfl rfl (Nat.zero_le 1) rfl

/-- The frame was given up because a stop is requested. -/
theorem Holding.stopped {frame : Frame} {k : Nat} (held : Holding cfg shared s frame k)
    (partly : k < (encodeFrame frame).length) (stopping : shared.stopRequested = true)
    (tcpSent : Nat) (what : String) : SenderInv cfg shared (s.onCancelled frame tcpSent what) where
  owned := by simp [Sender.onCancelled]
  wire := by rw [Sender.cut, Sender.onCancelled, held.current]; exact held.wire
  popped := by rw [Sender.onCancelled, held.current]; exact held.popped
  place := ⟨frame, k, held.current, partly⟩
  sent := by simp [Sender.onCancelled, held.sent]
  bytes := by simp [Sender.onCancelled, held.bytes]
  errors := by simp [Sender.onCancelled, held.errors]
  timeouts := by simp [Sender.onCancelled, held.timeouts]
  cancellations := by simp [Sender.onCancelled, held.cancellations]
  stops := by simp [Sender.onCancelled]
  cancelled := fun _ => stopping
  disabled := by simp [Sender.onCancelled, held.enabled]

theorem Holding.afterPayload {frame : Frame} {k : Nat} (held : Holding cfg shared s frame k)
    {outcome : SendOutcome}
    (goes : Continues frame.data kWireHeaderSize k shared.stopRequested outcome) (tcpSent : Nat) :
    SenderInv cfg shared (s.afterPayload frame tcpSent outcome) := by
  have length := encodeFrame_length frame
  cases outcome with
  | running call =>
    obtain ⟨data, more, at_k⟩ := goes
    exact held.going .payload data (by rw [data]; exact more) at_k
  | returned =>
    have all : k = (encodeFrame frame).length := by rw [length]; exact goes
    rw [all] at held
    exact held.complete
  | timeout what => exact held.timedOut (by rw [length]; exact goes) tcpSent what
  | cancelled what => exact held.stopped (by rw [length]; exact goes.1) goes.2 tcpSent what
  | failed what => exact held.broken (by rw [length]; exact goes) tcpSent what

theorem Holding.afterHeader {frame : Frame} {k : Nat} (held : Holding cfg shared s frame k)
    {outcome : SendOutcome}
    (goes : Continues (Phase.header.data frame) 0 k shared.stopRequested outcome)
    (deadline tcpSent : Nat) :
    SenderInv cfg shared (s.afterHeader frame deadline tcpSent outcome) := by
  have within := Phase.header.within frame
  rw [Phase.base] at within
  cases outcome with
  | running call =>
    obtain ⟨data, more, at_k⟩ := goes
    exact held.going .header data (by rw [data]; exact more) at_k
  -- The header is complete, and the second call starts right behind it.
  | returned =>
    have all : k = kWireHeaderSize := by
      have all : k = 0 + (Phase.header.data frame).length := goes
      simpa using all
    rw [all] at held
    exact held.afterPayload (continues_start frame.data kWireHeaderSize deadline _) tcpSent
  | timeout what => exact held.timedOut (Nat.lt_of_lt_of_le goes within) tcpSent what
  | cancelled what => exact held.stopped (Nat.lt_of_lt_of_le goes.1 within) goes.2 tcpSent what
  | failed what => exact held.broken (Nat.lt_of_lt_of_le goes within) tcpSent what

theorem SenderStep.running (step : SenderStep cfg shared s shared' s') (reason : SenderEnd) :
    s.ctl ≠ .finished reason := by
  cases step <;> simp [*]

theorem SenderInv.control (inv : SenderInv cfg shared s) (idle : s.todo = [])
    (step : SenderStep cfg shared s shared' s') : SenderInv cfg shared' s' := by
  have clean := inv.clean idle step.running
  have place := inv.place
  cases step with
  | begun frame at_begin now =>
    rw [at_begin] at place
    have held := inv.holding clean place
    rw [Sender.beginFrame]
    split
    -- Refused before the first byte, which counts as a send error all the same.
    next => exact held.broken (by rw [encodeFrame_length]; simp [kWireHeaderSize]) _ _
    next wire made =>
      obtain ⟨_, _, rfl⟩ := (wireHeaderToSend_ok_iff frame wire).mp made
      exact held.afterHeader (continues_start _ _ _ _) _ _
  | sent frame phase call at_sending event stops bytes outcome taken =>
    rw [at_sending] at place
    obtain ⟨data, more, current⟩ := place
    -- What the kernel accepted is the next part of this frame, and of no other.
    obtain ⟨fits, part, goes⟩ := continues_step phase.base more taken stops
    rw [data] at fits part goes
    have held := (inv.holding clean current).accept bytes
      (by rw [phase.drop_take frame fits]; exact part)
    cases phase with
    | header => exact held.afterHeader goes _ _
    | payload => exact held.afterPayload goes _
  | popped at_pop frame ring pop =>
    rw [at_pop] at place
    have wire := inv.wire
    have popped := inv.popped
    rw [Sender.cut, place] at wire
    rw [place] at popped
    exact {
      owned := by simp [Sender.take, idle]
      wire := by simpa [Sender.take, Sender.cut] using wire
      popped := by simpa [Sender.take] using popped
      place := rfl
      sent := by simp [Sender.take, idle, clean.sent]
      bytes := by simp [Sender.take, idle, clean.bytes]
      errors := by simp [Sender.take, idle, clean.errors]
      timeouts := by simp [Sender.take, idle, clean.timeouts]
      cancellations := by simp [Sender.take, idle, clean.cancellations]
      stops := by simp [Sender.take, idle]
      cancelled := by simp [Sender.take]
      disabled := by simp [Sender.take, clean.enabled] }
  | producing at_head => rw [at_head] at place; exact inv.look clean place rfl (by simp)
  | consumerDone at_head => rw [at_head] at place; exact inv.look clean place rfl (by simp)
  | drained at_check => rw [at_check] at place; exact inv.look clean place rfl (by simp)
  | left at_check => rw [at_check] at place; exact inv.look clean place rfl (by simp)
  | waited at_pop => rw [at_pop] at place; exact inv.look clean place rfl (by simp)

/-! ### What a step does to the queue -/

theorem SenderStep.shared_eq (step : SenderStep cfg shared s shared' s') :
    shared' = { shared with tcpRing := shared'.tcpRing } := by
  cases step <;> rfl

theorem SenderStep.untouched (step : SenderStep cfg shared s shared' s') (t : Thread) :
    Untouched t shared shared' := by
  rw [step.shared_eq]
  exact ⟨fun _ _ => rfl, id, fun _ => ⟨rfl, rfl⟩, fun _ => ⟨rfl, rfl⟩⟩

/-- Sending keeps the frames that were taken out and does not end the loop in order. -/
structure Sends (s s' : Sender) : Prop where
  popped : s'.popped = s.popped
  sent : s.sent <+: s'.sent
  checks : s'.ctl ≠ .checkEmpty
  ends : s'.ctl ≠ .finished .drained

theorem sends_afterPayload (s : Sender) (frame : Frame) (tcpSent : Nat) (outcome : SendOutcome) :
    Sends s (s.afterPayload frame tcpSent outcome) := by
  cases outcome with
  | returned => exact ⟨rfl, List.prefix_append _ _, nofun, nofun⟩
  | _ => exact ⟨rfl, List.prefix_rfl, nofun, nofun⟩

theorem sends_afterHeader (s : Sender) (frame : Frame) (deadline tcpSent : Nat)
    (outcome : SendOutcome) : Sends s (s.afterHeader frame deadline tcpSent outcome) := by
  cases outcome with
  | returned => exact sends_afterPayload s frame tcpSent _
  | _ => exact ⟨rfl, List.prefix_rfl, nofun, nofun⟩

theorem sends_afterStep (s : Sender) (bytes : List UInt8) (frame : Frame) (phase : Phase)
    (deadline tcpSent : Nat) (outcome : SendOutcome) :
    Sends s ((s.accept bytes).afterStep frame phase deadline tcpSent outcome) := by
  cases phase with
  | header => exact { sends_afterHeader (s.accept bytes) frame deadline tcpSent outcome with }
  | payload => exact { sends_afterPayload (s.accept bytes) frame tcpSent outcome with }

theorem sends_beginFrame (s : Sender) (frame : Frame) (tcpSent now : Nat) :
    Sends s (s.beginFrame cfg frame tcpSent now) := by
  rw [Sender.beginFrame]
  split
  · exact ⟨rfl, List.prefix_rfl, nofun, nofun⟩
  · exact sends_afterHeader s frame _ tcpSent _

/-- What was sent stays sent. -/
theorem SenderStep.sent_prefix (step : SenderStep cfg shared s shared' s') :
    s.sent <+: s'.sent := by
  cases step with
  | begun => exact (sends_beginFrame s _ _ _).sent
  | sent => exact (sends_afterStep s _ _ _ _ _ _).sent
  | _ => exact List.prefix_rfl

/-- A step takes the oldest frame out of the queue, or leaves it alone. -/
theorem SenderStep.pops (step : SenderStep cfg shared s shared' s') :
    (s'.popped = s.popped ∧ shared'.tcpRing = shared.tcpRing) ∨
      ∃ frame, shared.tcpRing.toQueue.pop = some (frame, shared'.tcpRing.toQueue) ∧
        s'.popped = s.popped ++ [frame] := by
  cases step with
  | popped at_pop frame ring pop =>
    refine .inr ⟨frame, ?_, rfl⟩
    rw [← RingBuffer.toQueue_tryPopOldest, pop]
    rfl
  | begun => exact .inl ⟨(sends_beginFrame s _ _ _).popped, rfl⟩
  | sent => exact .inl ⟨(sends_afterStep s _ _ _ _ _ _).popped, rfl⟩
  | _ => exact .inl ⟨rfl, rfl⟩

/-- The sender ends in order when it sees an empty queue behind the consumer. -/
theorem SenderStep.ends (step : SenderStep cfg shared s shared' s')
    (at_end : s'.ctl = .finished .drained) :
    s.ctl = .checkEmpty ∧ shared.tcpRing.empty = true ∧ shared' = shared := by
  cases step with
  | drained at_check empty => exact ⟨at_check, empty, rfl⟩
  | begun => exact absurd at_end (sends_beginFrame s _ _ _).ends
  | sent => exact absurd at_end (sends_afterStep s _ _ _ _ _ _).ends
  | _ => cases at_end

theorem SenderStep.checks (step : SenderStep cfg shared s shared' s')
    (at_check : s'.ctl = .checkEmpty) : shared.consumerDone = true := by
  cases step with
  | consumerDone _ done => exact done
  | begun => exact absurd at_check (sends_beginFrame s _ _ _).checks
  | sent => exact absurd at_check (sends_afterStep s _ _ _ _ _ _).checks
  | _ => cases at_check

end Steps

end V4l2Capture.Pipeline
