import V4l2Capture.Library.Transition
import V4l2Capture.Pipeline.Sender
import V4l2Capture.Protocol.WireFrame
import V4l2Capture.TcpSender.TestFrames

/-!
# The frame loop of tcp_sender

`senderStep` runs the loop behind the connection from one clock reading or send result to the
next. The kernel, the clocks and the failures are arbitrary; the stop flag of `send_all_until` is
not given. In every state of every run the wire holds the records that were sent whole and a
strict part of one more (`SenderInv`).
-/
namespace V4l2Capture.TcpSender

open Pipeline (Phase Continues continues_start continues_step)
open Protocol TcpIo Transition

/-- The parsed command line, with the bounds of `parse_int_arg`. -/
structure SenderOptions where
  frames : Nat
  width : Nat
  height : Nat
  sendTimeoutMs : Nat
  corruptFrameId : Int := -1
  headerFault : String := ""
  frames_range : 0 < frames ∧ frames ≤ 1000000
  width_range : 0 < width ∧ width ≤ 1000000
  height_range : 0 < height ∧ height ≤ 1000000
  fault_alone : headerFault ≠ "" → frames = 1

/-- A frame as it was sent: header and payload behind all damage. -/
abbrev Record := Delivered

def recordBytes (record : Record) : List UInt8 :=
  (serializeHeader record.1).toList ++ record.2

inductive SenderCtl where
  | stamping (payload : List UInt8)
  | starting (record : Record)
  | sending (record : Record) (phase : Phase) (call : SendCall)
  | finished (error : Option String)
  deriving DecidableEq, Repr

structure SenderState where
  ctl : SenderCtl
  i : Nat := 0
  sentBytes : Nat := 0
  /-- History: the records sent whole, the one under way with the number of its bytes that were
  accepted, and all accepted bytes. -/
  sent : List Record := []
  current : Option (Record × Nat) := none
  wire : List UInt8 := []
  deriving DecidableEq, Repr

/-! ### The loop -/

/-- The loop condition, and the body up to the clock reading for the header. -/
def beginFrame (opts : SenderOptions) (s : SenderState) : SenderState :=
  if s.i < opts.frames then
    match makeTestYuyvPayload opts.width opts.height s.i with
    | .error message => { s with ctl := .finished (some message) }
    | .ok payload => { s with ctl := .stamping payload.items }
  else { s with ctl := .finished none }

def SenderState.initial (opts : SenderOptions) : SenderState :=
  beginFrame opts { ctl := .finished none }

/-- The payload that is sent; the header already carries the checksum of the other one. -/
def damagePayload (opts : SenderOptions) (i : Nat) (payload : List UInt8) :
    Except String (List UInt8) :=
  if (i : Int) = opts.corruptFrameId then
    if payload.isEmpty then .error "cannot corrupt an empty payload"
    else .ok (corruptPayload payload)
  else .ok payload

def makeRecord (opts : SenderOptions) (i : Nat) (nowNs : UInt64) (payload : List UInt8) :
    Except String Record :=
  let header := testHeader opts.width opts.height i nowNs payload
  if opts.headerFault ≠ "" then
    -- Nothing is sent behind a malformed header.
    (applyHeaderFault header opts.headerFault).map fun header => (header, [])
  else (damagePayload opts i payload).map fun payload => (header, payload)

def stamp (opts : SenderOptions) (s : SenderState) (payload : List UInt8) (nowNs : UInt64) :
    SenderState :=
  match makeRecord opts s.i nowNs payload with
  | .error message => { s with ctl := .finished (some message) }
  | .ok record => { s with ctl := .starting record, current := some (record, 0) }

/-- Behind a record that was sent whole. -/
def complete (opts : SenderOptions) (s : SenderState) (record : Record) : SenderState :=
  let s := { s with
    sentBytes := s.sentBytes + (kWireHeaderSize + record.2.length)
    sent := s.sent ++ [record]
    current := none }
  if opts.headerFault ≠ "" then { s with ctl := .finished none }
  else beginFrame opts { s with i := s.i + 1 }

def afterPayload (opts : SenderOptions) (s : SenderState) (record : Record) :
    SendOutcome → SenderState
  | .running call => { s with ctl := .sending record .payload call }
  | .returned => complete opts s record
  | .timeout message => { s with ctl := .finished (some message) }
  | .cancelled message => { s with ctl := .finished (some message) }
  | .failed message => { s with ctl := .finished (some message) }

def afterHeader (opts : SenderOptions) (s : SenderState) (record : Record) (deadline : Nat) :
    SendOutcome → SenderState
  | .running call => { s with ctl := .sending record .header call }
  | .returned =>
    if opts.headerFault ≠ "" then complete opts s record
    else afterPayload opts s record (SendCall.start record.2 deadline)
  | .timeout message => { s with ctl := .finished (some message) }
  | .cancelled message => { s with ctl := .finished (some message) }
  | .failed message => { s with ctl := .finished (some message) }

def afterStep (opts : SenderOptions) (s : SenderState) (record : Record) (phase : Phase)
    (deadline : Nat) (outcome : SendOutcome) : SenderState :=
  match phase with
  | .header => afterHeader opts s record deadline outcome
  | .payload => afterPayload opts s record outcome

def SenderState.accept (s : SenderState) (bytes : List UInt8) : SenderState :=
  { s with
    wire := s.wire ++ bytes
    current := s.current.map fun c => (c.1, c.2 + bytes.length) }

/-- What the system decides: a reading of a clock, or what a call of `send_all_until` gets. -/
inductive SenderAction where
  | stamp (nowNs : UInt64)
  | clock (now : Nat)
  | send (event : SendEvent)
  deriving DecidableEq, Repr

def senderStep (opts : SenderOptions) (strerror : Camera.Errno → String) (s : SenderState)
    (action : SenderAction) : Option SenderState :=
  match s.ctl, action with
  | .stamping payload, .stamp nowNs => some (stamp opts s payload nowNs)
  | .starting record, .clock now =>
    -- One deadline for both parts of a frame.
    let deadline := now + opts.sendTimeoutMs * 1000000
    some (afterHeader opts s record deadline
      (SendCall.start (serializeHeader record.1).toList deadline))
  | .sending record phase call, .send event =>
    -- `stop_requested` is null, so no load of it sees a stop.
    if event = .stopLoaded true then none
    else (call.step strerror event).map fun (bytes, outcome) =>
      afterStep opts (s.accept bytes) record phase call.deadline outcome
  | _, _ => none

/-- The states of the runs. -/
abbrev Reachable (opts : SenderOptions) (strerror : Camera.Errno → String) (s : SenderState) :
    Prop :=
  Reaches (senderStep opts strerror) (SenderState.initial opts) s

/-! ### The invariant -/

/-- The record is one that the `i`-th round can make. -/
def Made (opts : SenderOptions) (i : Nat) (record : Record) : Prop :=
  opts.width % 2 = 0 ∧
    ∃ nowNs, makeRecord opts i nowNs (testPayload opts.width opts.height i) = .ok record

/-- What the record under way has on the wire. -/
def SenderState.cut (s : SenderState) : List UInt8 :=
  match s.current with
  | some (record, k) => (recordBytes record).take k
  | none => []

def phaseData (record : Record) : Phase → List UInt8
  | .header => (serializeHeader record.1).toList
  | .payload => record.2

theorem recordBytes_length (record : Record) :
    (recordBytes record).length = kWireHeaderSize + record.2.length := by
  simp [recordBytes]

theorem phase_within (record : Record) (phase : Phase) :
    phase.base + (phaseData record phase).length ≤ (recordBytes record).length := by
  rw [recordBytes_length]
  cases phase <;> simp [phaseData]

theorem phase_drop_take (record : Record) (phase : Phase) {k n : Nat}
    (fits : k + n ≤ (phaseData record phase).length) :
    ((recordBytes record).drop (phase.base + k)).take n =
      ((phaseData record phase).drop k).take n := by
  cases phase with
  -- The header comes first, so its parts are parts of the record at the same place.
  | header =>
    simp only [phaseData, Vector.length_toList] at fits
    rw [Phase.base, Nat.zero_add, recordBytes, List.drop_append_of_le_length (by simp; omega),
      List.take_append_of_le_length (by simp; omega), phaseData]
  | payload =>
    have header : (serializeHeader record.1).toList.length = Phase.payload.base := by simp
    rw [recordBytes, ← header, List.drop_append, List.drop_of_length_le (by omega),
      List.nil_append, Nat.add_sub_cancel_left, phaseData]

/-- Where the loop is with the record under way. -/
def Place (opts : SenderOptions) (s : SenderState) : SenderCtl → Prop
  | .stamping payload =>
    s.current = none ∧ s.i < opts.frames ∧ opts.width % 2 = 0 ∧
      payload = testPayload opts.width opts.height s.i
  | .starting record => s.current = some (record, 0)
  | .sending record phase call => call.data = phaseData record phase ∧
      call.sent < call.data.length ∧ s.current = some (record, phase.base + call.sent)
  | .finished none => s.current = none
  | .finished (some _) => True

/-- The number of records that were sent whole. A malformed header is sent alone. -/
structure Counted (opts : SenderOptions) (s : SenderState) : Prop where
  frames : opts.headerFault = "" → s.sent.length = s.i ∧ s.i ≤ opts.frames ∧
    (s.ctl = .finished none → s.i = opts.frames)
  header : opts.headerFault ≠ "" → s.i = 0 ∧
    s.sent.length = if s.ctl = .finished none then 1 else 0

structure SenderInv (opts : SenderOptions) (s : SenderState) : Prop where
  wire : s.wire = s.sent.flatMap recordBytes ++ s.cut
  sentBytes : s.sentBytes = (s.sent.flatMap recordBytes).length
  made : ∀ j record, s.sent[j]? = some record → Made opts j record
  current : ∀ record k, s.current = some (record, k) →
    Made opts s.i record ∧ k < (recordBytes record).length ∧ s.i < opts.frames
  place : Place opts s s.ctl
  counted : Counted opts s

/-- What holds between two records, where the next round is about to begin. -/
structure Idle (opts : SenderOptions) (s : SenderState) : Prop where
  current : s.current = none
  wire : s.wire = s.sent.flatMap recordBytes
  sentBytes : s.sentBytes = (s.sent.flatMap recordBytes).length
  made : ∀ j record, s.sent[j]? = some record → Made opts j record
  length : s.sent.length = s.i
  within : s.i ≤ opts.frames
  first : opts.headerFault ≠ "" → s.i = 0

/-- What holds while a record has `k` of its bytes on the wire, wherever the loop is. -/
structure Holding (opts : SenderOptions) (s : SenderState) (record : Record) (k : Nat) :
    Prop where
  current : s.current = some (record, k)
  wire : s.wire = s.sent.flatMap recordBytes ++ (recordBytes record).take k
  sentBytes : s.sentBytes = (s.sent.flatMap recordBytes).length
  made : ∀ j record, s.sent[j]? = some record → Made opts j record
  making : Made opts s.i record
  length : s.sent.length = s.i
  within : s.i < opts.frames
  first : opts.headerFault ≠ "" → s.i = 0

variable {opts : SenderOptions} {s : SenderState}

theorem Idle.beginFrame (idle : Idle opts s) : SenderInv opts (beginFrame opts s) := by
  have cut : s.wire = s.sent.flatMap recordBytes ++ s.cut := by
    rw [SenderState.cut, idle.current, List.append_nil]
    exact idle.wire
  have nothing : ∀ record k, s.current = some (record, k) →
      Made opts s.i record ∧ k < (recordBytes record).length ∧ s.i < opts.frames := by
    intro record k here
    rw [idle.current] at here
    cases here
  have frames := opts.frames_range.1
  rw [TcpSender.beginFrame]
  split
  next more =>
    have counted : ∀ ctl, ctl ≠ .finished none → Counted opts { s with ctl := ctl } := by
      intro ctl running
      refine ⟨fun _ => ⟨idle.length, idle.within, fun ends => absurd ends running⟩, fun faulty => ?_⟩
      refine ⟨idle.first faulty, ?_⟩
      rw [if_neg running]
      exact idle.length.trans (idle.first faulty)
    split
    · exact ⟨cut, idle.sentBytes, idle.made, nothing, trivial, counted _ (by simp)⟩
    next payload made =>
      refine ⟨cut, idle.sentBytes, idle.made, nothing, ?_, counted _ (by simp)⟩
      -- The loops can only have filled the payload for an even width.
      have even : opts.width % 2 = 0 := by
        by_contra odd
        have zero : ¬ (opts.width = 0 ∨ opts.height = 0) := by
          have := opts.width_range.1
          have := opts.height_range.1
          omega
        rw [makeTestYuyvPayload, if_neg zero, if_pos odd] at made
        cases made
      rw [makeTestYuyvPayload_spec _ opts.width_range.1 opts.height_range.1 even] at made
      cases made
      exact ⟨idle.current, more, even, rfl⟩
  next ended =>
    have all : s.i = opts.frames := Nat.le_antisymm idle.within (Nat.le_of_not_lt ended)
    refine ⟨cut, idle.sentBytes, idle.made, nothing, idle.current,
      ⟨fun _ => ⟨idle.length, idle.within, fun _ => all⟩, fun faulty => ?_⟩⟩
    have zero := idle.first faulty
    omega

theorem initial_inv (opts : SenderOptions) : SenderInv opts (SenderState.initial opts) :=
  Idle.beginFrame ⟨rfl, rfl, rfl, by simp, rfl, Nat.zero_le _, fun _ => rfl⟩

namespace Holding

variable {record : Record} {k : Nat}

theorem cut (held : Holding opts s record k) : s.cut = (recordBytes record).take k := by
  rw [SenderState.cut, held.current]

theorem counted (held : Holding opts s record k) {ctl : SenderCtl} (running : ctl ≠ .finished none) :
    Counted opts { s with ctl := ctl } := by
  refine ⟨fun _ => ⟨held.length, held.within.le, fun ends => absurd ends running⟩, fun faulty => ?_⟩
  refine ⟨held.first faulty, ?_⟩
  rw [if_neg running]
  exact held.length.trans (held.first faulty)

/-- The record stays under way, at another place of the loop. -/
theorem stays (held : Holding opts s record k) (partly : k < (recordBytes record).length)
    {ctl : SenderCtl} (running : ctl ≠ .finished none) (place : Place opts s ctl) :
    SenderInv opts { s with ctl := ctl } where
  wire := by
    have wire := held.wire
    rw [← held.cut] at wire
    exact wire
  sentBytes := held.sentBytes
  made := held.made
  current := by
    intro other j here
    cases held.current.symm.trans here
    exact ⟨held.making, partly, held.within⟩
  place := by
    cases ctl with
    | finished error => cases error <;> exact place
    | _ => exact place
  counted := held.counted running

theorem gone (held : Holding opts s record k) (partly : k < (recordBytes record).length)
    (message : String) : SenderInv opts { s with ctl := .finished (some message) } :=
  held.stays partly (by simp) trivial

theorem going (held : Holding opts s record k) (phase : Phase) {call : SendCall}
    (data : call.data = phaseData record phase) (more : call.sent < call.data.length)
    (at_k : k = phase.base + call.sent) :
    SenderInv opts { s with ctl := .sending record phase call } := by
  refine held.stays ?_ (by simp) ⟨data, more, by rw [held.current, at_k]⟩
  have within := phase_within record phase
  rw [data] at more
  omega

/-- The record was sent whole. -/
theorem complete (held : Holding opts s record (recordBytes record).length) :
    SenderInv opts (complete opts s record) := by
  have wire : s.wire = (s.sent ++ [record]).flatMap recordBytes := by
    rw [held.wire, List.take_length, List.flatMap_append, List.flatMap_singleton]
  have bytes : s.sentBytes + (kWireHeaderSize + record.2.length) =
      ((s.sent ++ [record]).flatMap recordBytes).length := by
    rw [held.sentBytes, List.flatMap_append, List.flatMap_singleton, List.length_append,
      recordBytes_length]
  have made : ∀ j other, (s.sent ++ [record])[j]? = some other → Made opts j other := by
    intro j other there
    rcases Nat.lt_or_ge j s.sent.length with before | behind
    · rw [List.getElem?_append_left before] at there
      exact held.made j other there
    · obtain ⟨d, rfl⟩ := Nat.exists_eq_add_of_le behind
      rw [List.getElem?_append_right behind, Nat.add_sub_cancel_left] at there
      cases d with
      | zero =>
        cases there
        rw [Nat.add_zero, held.length]
        exact held.making
      | succ d => cases there
  rw [TcpSender.complete]
  split
  next faulty =>
    refine ⟨?_, bytes, made, nofun, rfl, ⟨fun plain => absurd plain faulty, fun _ => ?_⟩⟩
    · rw [SenderState.cut, List.append_nil]
      exact wire
    · refine ⟨held.first faulty, ?_⟩
      rw [if_pos rfl, List.length_append, held.length, held.first faulty]
      rfl
  next plain =>
    refine Idle.beginFrame ⟨rfl, wire, bytes, made, ?_, held.within, fun faulty => ?_⟩
    · rw [List.length_append, held.length]
      rfl
    · exact absurd faulty plain

theorem afterPayload (held : Holding opts s record k) {outcome : SendOutcome}
    (goes : Continues record.2 kWireHeaderSize k false outcome) :
    SenderInv opts (afterPayload opts s record outcome) := by
  have length := recordBytes_length record
  cases outcome with
  | running call =>
    obtain ⟨data, more, at_k⟩ := goes
    exact held.going .payload data (by rw [data]; exact more) at_k
  | returned =>
    have all : k = (recordBytes record).length := by rw [length]; exact goes
    rw [all] at held
    exact held.complete
  | timeout message => exact held.gone (by rw [length]; exact goes) message
  | cancelled message => exact absurd goes.2 Bool.false_ne_true
  | failed message => exact held.gone (by rw [length]; exact goes) message

theorem afterHeader (held : Holding opts s record k) {outcome : SendOutcome}
    (goes : Continues (phaseData record .header) 0 k false outcome)
    (alone : opts.headerFault ≠ "" → record.2 = []) (deadline : Nat) :
    SenderInv opts (afterHeader opts s record deadline outcome) := by
  have within := phase_within record .header
  rw [Phase.base] at within
  cases outcome with
  | running call =>
    obtain ⟨data, more, at_k⟩ := goes
    exact held.going .header data (by rw [data]; exact more) at_k
  | returned =>
    have all : k = kWireHeaderSize := by
      have all : k = 0 + (phaseData record .header).length := goes
      simpa [phaseData] using all
    rw [TcpSender.afterHeader]
    split
    -- A malformed header is the whole record.
    next faulty =>
      have length := recordBytes_length record
      rw [alone faulty, List.length_nil, Nat.add_zero] at length
      rw [all, ← length] at held
      exact held.complete
    -- The header is complete, and the second call starts right behind it.
    next =>
      rw [all] at held
      exact held.afterPayload (continues_start record.2 kWireHeaderSize deadline _)
  | timeout message => exact held.gone (Nat.lt_of_lt_of_le goes within) message
  | cancelled message => exact absurd goes.2 Bool.false_ne_true
  | failed message => exact held.gone (Nat.lt_of_lt_of_le goes within) message

end Holding

/-! ### Steps and runs -/

theorem SenderInv.holding (inv : SenderInv opts s) {record : Record} {k : Nat}
    (current : s.current = some (record, k)) (running : s.ctl ≠ .finished none) :
    Holding opts s record k where
  current := current
  wire := by
    have wire := inv.wire
    rwa [SenderState.cut, current] at wire
  sentBytes := inv.sentBytes
  made := inv.made
  making := (inv.current record k current).1
  length := by
    by_cases plain : opts.headerFault = ""
    · exact (inv.counted.frames plain).1
    · obtain ⟨zero, count⟩ := inv.counted.header plain
      rw [count, zero, if_neg running]
  within := (inv.current record k current).2.2
  first := fun faulty => (inv.counted.header faulty).1

/-- The system accepted more of the record under way. -/
theorem Holding.accept {record : Record} {k : Nat} (held : Holding opts s record k)
    (bytes : List UInt8)
    (part : ((recordBytes record).drop k).take bytes.length = bytes) :
    Holding opts (s.accept bytes) record (k + bytes.length) :=
  { held with
    current := by rw [SenderState.accept, held.current]; rfl
    wire := by
      show s.wire ++ bytes = s.sent.flatMap recordBytes ++ _
      rw [List.take_add, part, ← List.append_assoc, ← held.wire] }

theorem SenderInv.stamp (inv : SenderInv opts s) {payload : List UInt8}
    (at_stamp : s.ctl = .stamping payload) (nowNs : UInt64) :
    SenderInv opts (stamp opts s payload nowNs) := by
  have place := inv.place
  rw [at_stamp] at place
  obtain ⟨current, within, even, rfl⟩ := place
  have wire := inv.wire
  rw [SenderState.cut, current, List.append_nil] at wire
  have running : s.ctl ≠ .finished none := by simp [at_stamp]
  have plain : opts.headerFault = "" → s.sent.length = s.i ∧ s.i ≤ opts.frames := by
    intro plain
    obtain ⟨length, bound, _⟩ := inv.counted.frames plain
    exact ⟨length, bound⟩
  have alone : opts.headerFault ≠ "" → s.i = 0 ∧ s.sent.length = 0 := by
    intro faulty
    obtain ⟨zero, count⟩ := inv.counted.header faulty
    rw [if_neg running] at count
    exact ⟨zero, count⟩
  rw [TcpSender.stamp]
  split
  next message made =>
    refine ⟨?_, inv.sentBytes, inv.made, ?_, trivial,
      ⟨fun p => ⟨(plain p).1, (plain p).2, nofun⟩, fun f => ⟨(alone f).1, ?_⟩⟩⟩
    · rw [SenderState.cut, current, List.append_nil]
      exact wire
    · intro record k here
      cases current.symm.trans here
    · rw [if_neg (by simp)]
      exact (alone f).2
  next record made =>
    have length : s.sent.length = s.i := by
      by_cases p : opts.headerFault = ""
      · exact (plain p).1
      · rw [(alone p).1, (alone p).2]
    have held : Holding opts { s with current := some (record, 0) } record 0 :=
      { current := rfl
        wire := by rw [List.take_zero, List.append_nil]; exact wire
        sentBytes := inv.sentBytes
        made := inv.made
        making := ⟨even, nowNs, made⟩
        length := length
        within := within
        first := fun f => (alone f).1 }
    refine held.stays ?_ (by simp) rfl
    rw [recordBytes_length]
    exact Nat.lt_of_lt_of_le (by decide) (Nat.le_add_right _ _)

theorem made_alone {i : Nat} {record : Record} (made : Made opts i record)
    (faulty : opts.headerFault ≠ "") : record.2 = [] := by
  obtain ⟨_, nowNs, made⟩ := made
  rw [makeRecord] at made
  simp only [faulty, ne_eq, not_false_eq_true, if_true] at made
  cases fault : applyHeaderFault _ opts.headerFault with
  | error message =>
    rw [fault] at made
    cases made
  | ok header =>
    rw [fault] at made
    cases made
    rfl

/-- Step lemma. -/
theorem SenderInv.step {strerror : Camera.Errno → String} {s' : SenderState}
    {action : SenderAction} (inv : SenderInv opts s)
    (step : senderStep opts strerror s action = some s') : SenderInv opts s' := by
  unfold senderStep at step
  split at step
  next payload nowNs at_stamp =>
    cases step
    exact inv.stamp at_stamp nowNs
  next record now at_start =>
    rw [← Option.some.inj step]
    have place := inv.place
    rw [at_start] at place
    have held := inv.holding place (by simp [at_start])
    exact held.afterHeader (continues_start _ _ _ _) (made_alone held.making) _
  next record phase call event at_sending =>
    split at step
    · cases step
    next unstopped =>
      obtain ⟨⟨bytes, outcome⟩, taken, rfl⟩ := Option.map_eq_some_iff.mp step
      have place := inv.place
      rw [at_sending] at place
      obtain ⟨data, more, current⟩ := place
      -- What the kernel accepted is the next part of this record, and of no other.
      have stops : event = .stopLoaded true → false = true := fun loaded => absurd loaded unstopped
      obtain ⟨fits, part, goes⟩ := continues_step phase.base more taken stops
      rw [data] at fits part goes
      have held := (inv.holding current (by simp [at_sending])).accept bytes
        (by rw [phase_drop_take record phase fits]; exact part.symm)
      cases phase with
      | header => exact held.afterHeader goes (made_alone held.making) _
      | payload => exact held.afterPayload goes
  next => cases step

theorem reachable_inv {strerror : Camera.Errno → String} (reached : Reachable opts strerror s) :
    SenderInv opts s :=
  invariant (SenderInv opts) (initial_inv opts) (fun _ _ _ _ inv step => inv.step step) reached

end V4l2Capture.TcpSender
