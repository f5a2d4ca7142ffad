import V4l2Capture.Receiver.Session
import Mathlib.Algebra.BigOperators.Group.List.Basic

/-!
# The counters of tcp_receiver

`ReceiverConsistent` says that the counters agree with each other and with the log.
Receiving a frame keeps it (`ReceiverConsistent.receiveFrame`), so do all the frames of
a session (`receiveFrames_consistent`) and each way to leave the session
(`ReceiverConsistent.leave`).
-/
namespace V4l2Capture.Receiver

open Protocol Stats

/-! ### The frame limit -/

theorem staticCastInt_of_lt {n : Nat} (small : n < 2 ^ 31) : staticCastInt n = n := by
  have bound : n < 2147483648 := small
  exact Int.bmod_eq_of_le (m := 4294967296) (by omega) (by omega)

theorem roomForFrames_iff (cfg : ReceiverConfig) {n : Nat} (small : n < 2 ^ 31) :
    roomForFrames cfg n = true ↔ cfg.maxFrames = 0 ∨ n < cfg.maxFrames := by
  simp only [roomForFrames, decide_eq_true_eq, staticCastInt_of_lt small]
  omega

/-! ### The invariant -/

/-- Validation and CRC check of a delivered frame. -/
def PassedChecks (cfg : ReceiverConfig) (frame : Delivered) : Prop :=
  validateHeader frame.1 cfg.maxPayloadBytes = .ok () ∧
    frame.2.length = frame.1.payloadSize.toNat ∧ computeCrc32 frame.2 = frame.1.payloadCrc32

def ReceiverEvent.isRejection : ReceiverEvent → Bool
  | .headerRejected _ | .crcRejected _ => true
  | _ => false

def ReceiverEvent.accepted? : ReceiverEvent → Option Delivered
  | .frameAccepted frame => some frame
  | _ => none

def ReceiverEvent.isSave : ReceiverEvent → Bool
  | .frameSaved _ _ => true
  | _ => false

/-- The frames counted so far, in order. -/
def ReceiverState.accepted (st : ReceiverState) : List Delivered :=
  st.log.filterMap ReceiverEvent.accepted?

/-- A log entry that the configuration allows. -/
def ReceiverEvent.Allowed (cfg : ReceiverConfig) : ReceiverEvent → Prop
  | .payloadAllocated size => 1 ≤ size ∧ size ≤ cfg.maxPayloadBytes.toNat
  | .frameAccepted frame => PassedChecks cfg frame
  | .frameSaved _ frame => PassedChecks cfg frame
  | _ => True

/-- The counters agree with each other and with the log. -/
structure ReceiverConsistent (cfg : ReceiverConfig) (st : ReceiverState) : Prop where
  rejected : st.rejectedFrames = st.headerErrors + st.crcErrors
  rejections : st.rejectedFrames = st.log.countP ReceiverEvent.isRejection
  frames : st.receivedFrames = st.accepted.length
  bytes : st.receivedBytes = (st.accepted.map (·.2.length)).sum
  latency : st.receivedFrames = st.e2eLatency.length + st.latencyClockErrors
  saved : cfg.savePayloads = true → st.receivedFrames = st.savedFiles
  saves : st.savedFiles = st.log.countP ReceiverEvent.isSave
  sessions : st.acceptedSessions = st.log.count .sessionAccepted
  allowed : ∀ event ∈ st.log, event.Allowed cfg
  frameLimit : 0 < cfg.maxFrames → st.receivedFrames ≤ cfg.maxFrames

theorem receiverConsistent_initial (cfg : ReceiverConfig) : ReceiverConsistent cfg {} := by
  constructor <;> simp [ReceiverState.accepted]

theorem passedChecks_of_intact {cfg : ReceiverConfig} (frame : WireFrame cfg.maxPayloadBytes)
    (intact : frame.intact = true) : PassedChecks cfg frame.delivered :=
  ⟨frame.accepted, frame.size, beq_iff_eq.mp intact⟩

theorem room_below_limit (cfg : ReceiverConfig) {n : Nat} (limited : 0 < cfg.maxFrames)
    (within : n ≤ cfg.maxFrames) (room : roomForFrames cfg n = true) : n < cfg.maxFrames := by
  have int := cfg.maxFrames_int
  have := (roomForFrames_iff cfg (by omega)).mp room
  omega

theorem payloadSize_bounds (cfg : ReceiverConfig) {header : FrameHeader}
    (valid : validateHeader header cfg.maxPayloadBytes = .ok ()) :
    1 ≤ header.payloadSize.toNat ∧ header.payloadSize.toNat ≤ cfg.maxPayloadBytes.toNat := by
  have accepted := (validateHeader_ok_iff _ _).mp valid
  have positive : header.payloadSize.toNat ≠ 0 :=
    fun zero => accepted.payload.1 (UInt32.toNat_inj.mp zero)
  exact ⟨by omega, accepted.payload.2⟩

@[simp] theorem frameEvents_accepted (cfg : ReceiverConfig) (index : Nat) (frame : Delivered) :
    (frameEvents cfg index frame).filterMap ReceiverEvent.accepted? = [frame] := by
  cases save : cfg.savePayloads <;> simp only [frameEvents, save] <;> rfl

/-- Step lemma: one more frame, with room for it. -/
theorem ReceiverConsistent.receiveFrame {cfg : ReceiverConfig} {env : ReceiverEnv}
    {st st' : ReceiverState} {frame : WireFrame cfg.maxPayloadBytes}
    (inv : ReceiverConsistent cfg st) (intact : frame.intact = true)
    (room : roomForFrames cfg st.receivedFrames = true)
    (received : st.receiveFrame cfg env frame.delivered = .ok st') : ReceiverConsistent cfg st' := by
  have step := receiveFrame_ok received
  have passed := passedChecks_of_intact frame intact
  have bounds := payloadSize_bounds cfg frame.accepted
  -- Of the entries that the frame adds to the log, one is an accepted frame.
  have accepted : st'.accepted = st.accepted ++ [frame.delivered] := by
    rw [ReceiverState.accepted, step.log, List.filterMap_append, frameEvents_accepted]
    rfl
  obtain ⟨headers, crcs, rejects⟩ := step.errors
  constructor
  case rejected => rw [headers, crcs, rejects]; exact inv.rejected
  case rejections =>
    rw [rejects, inv.rejections, step.log, List.countP_append]
    cases save : cfg.savePayloads <;> simp [frameEvents, save, ReceiverEvent.isRejection]
  case frames => rw [step.receivedFrames, accepted, List.length_append, ← inv.frames]; rfl
  case bytes =>
    rw [step.receivedBytes, accepted, List.map_append, List.sum_append, ← inv.bytes]
    simp
  case latency => have := step.latency; have := inv.latency; rw [step.receivedFrames]; omega
  case saved =>
    intro save
    rw [step.receivedFrames, step.savedFiles, inv.saved save, if_pos save]
  case saves =>
    rw [step.savedFiles, inv.saves, step.log, List.countP_append]
    cases save : cfg.savePayloads <;> simp [frameEvents, save, ReceiverEvent.isSave]
  case sessions =>
    rw [step.sessionCounts.1, inv.sessions, step.log, List.count_append]
    cases save : cfg.savePayloads <;> simp [frameEvents, save]
  case allowed =>
    intro event member
    rw [step.log, List.mem_append] at member
    rcases member with old | new
    · exact inv.allowed event old
    · cases save : cfg.savePayloads <;>
        simp only [frameEvents, save, if_true, Bool.false_eq_true, if_false, List.mem_append,
          List.mem_cons, List.not_mem_nil, or_false] at new
      · rcases new with rfl | rfl
        · exact bounds
        · exact passed
      · rcases new with (rfl | rfl) | rfl
        · exact bounds
        · exact passed
        · exact passed
  case frameLimit =>
    intro limited
    rw [step.receivedFrames]
    exact room_below_limit cfg limited (inv.frameLimit limited) room

/-- What the frames of one session change. -/
structure FramesReceived (st : ReceiverState) (frames : List Delivered) (last : ReceiverState) :
    Prop where
  accepted : last.accepted = st.accepted ++ frames
  receivedFrames : last.receivedFrames = st.receivedFrames + frames.length
  rejectedFrames : last.rejectedFrames = st.rejectedFrames
  sessionCounts : last.acceptedSessions = st.acceptedSessions ∧
    last.completedSessions = st.completedSessions ∧ last.peerDisconnects = st.peerDisconnects ∧
    last.sessions = st.sessions

theorem receiveFrames_cons {cfg : ReceiverConfig} {env : ReceiverEnv} {st last : ReceiverState}
    {frame : Delivered} {frames : List Delivered}
    (received : (frame :: frames).foldlM (ReceiverState.receiveFrame cfg env) st = .ok last) :
    ∃ next, st.receiveFrame cfg env frame = .ok next ∧
      frames.foldlM (ReceiverState.receiveFrame cfg env) next = .ok last := by
  rw [List.foldlM_cons] at received
  cases first : st.receiveFrame cfg env frame with
  | error message =>
    rw [first] at received
    cases received
  | ok next =>
    rw [first] at received
    exact ⟨next, rfl, received⟩

theorem receiveFrames_spec {cfg : ReceiverConfig} {env : ReceiverEnv} {st last : ReceiverState}
    (frames : List Delivered)
    (received : frames.foldlM (ReceiverState.receiveFrame cfg env) st = .ok last) :
    FramesReceived st frames last := by
  induction frames generalizing st with
  | nil =>
    cases received
    exact ⟨by simp, rfl, rfl, rfl, rfl, rfl, rfl⟩
  | cons frame frames ih =>
    obtain ⟨next, first, later⟩ := receiveFrames_cons received
    have step := receiveFrame_ok first
    have rest := ih later
    obtain ⟨opened, done, disconnects, records⟩ := rest.sessionCounts
    obtain ⟨opened', done', disconnects', records'⟩ := step.sessionCounts
    refine ⟨?_, ?_, ?_, opened.trans opened', done.trans done',
      disconnects.trans disconnects', records.trans records'⟩
    · rw [rest.accepted, ReceiverState.accepted, step.log, List.filterMap_append,
        frameEvents_accepted, List.append_assoc]
      rfl
    · rw [rest.receivedFrames, step.receivedFrames, List.length_cons]
      omega
    · rw [rest.rejectedFrames, step.errors.2.2]

theorem receiveFrames_consistent {cfg : ReceiverConfig} {env : ReceiverEnv}
    {st last : ReceiverState} (frames : List (WireFrame cfg.maxPayloadBytes))
    (inv : ReceiverConsistent cfg st) (intact : ∀ frame ∈ frames, frame.intact = true)
    (rooms : ∀ k < frames.length, roomForFrames cfg (st.receivedFrames + k) = true)
    (received : (frames.map WireFrame.delivered).foldlM (ReceiverState.receiveFrame cfg env) st =
      .ok last) : ReceiverConsistent cfg last := by
  induction frames generalizing st with
  | nil =>
    cases received
    exact inv
  | cons frame frames ih =>
    obtain ⟨next, first, later⟩ := receiveFrames_cons received
    have counted := (receiveFrame_ok first).receivedFrames
    have inv' := inv.receiveFrame (intact frame List.mem_cons_self)
      (rooms 0 (Nat.zero_lt_succ _)) first
    -- One frame is counted, so the rooms of the others shift by one.
    refine ih inv' (fun f member => intact f (List.mem_cons_of_mem _ member)) ?_ later
    intro k bound
    rw [counted, Nat.add_assoc, Nat.add_comm 1 k]
    exact rooms (k + 1) (Nat.succ_lt_succ bound)

/-! ### Leaving a session -/

/-- The log entries of an exit. -/
def SessionExit.events : SessionExit → List ReceiverEvent
  | .frameLimit => []
  | .headerClosed => []
  | .decodeFailed header _ => [.headerRejected header]
  | .headerInvalid header _ => [.headerRejected header]
  | .payloadClosed header => [.payloadAllocated header.payloadSize.toNat]
  | .crcMismatch header => [.payloadAllocated header.payloadSize.toNat, .crcRejected header]

/-- A fatal exit is logged as one rejection, behind everything else. -/
theorem SessionExit.events_rejection (exit : SessionExit) :
    if exit.fatal then ∃ before event, exit.events = before ++ [event] ∧
      event.isRejection = true ∧ before.countP ReceiverEvent.isRejection = 0
    else exit.events.countP ReceiverEvent.isRejection = 0 := by
  cases exit with
  | frameLimit => rfl
  | headerClosed => rfl
  | decodeFailed header reason => exact ⟨[], _, rfl, rfl, rfl⟩
  | headerInvalid header reason => exact ⟨[], _, rfl, rfl, rfl⟩
  | payloadClosed header => rfl
  | crcMismatch header => exact ⟨[_], _, rfl, rfl, rfl⟩

/-- Everything that leaving a session changes. -/
structure SessionLeft (st : ReceiverState) (exit : SessionExit) (st' : ReceiverState) : Prop where
  log : st'.log = st.log ++ exit.events
  accepted : st'.accepted = st.accepted
  errors : st'.headerErrors + st'.crcErrors =
    st.headerErrors + st.crcErrors + exit.events.countP ReceiverEvent.isRejection
  rejected : st'.rejectedFrames =
    st.rejectedFrames + exit.events.countP ReceiverEvent.isRejection
  disconnects : st'.peerDisconnects ≤ st.peerDisconnects + 1
  frames : st'.receivedFrames = st.receivedFrames ∧ st'.receivedBytes = st.receivedBytes ∧
    st'.savedFiles = st.savedFiles ∧ st'.e2eLatency = st.e2eLatency ∧
    st'.latencyClockErrors = st.latencyClockErrors
  sessionCounts : st'.acceptedSessions = st.acceptedSessions ∧
    st'.completedSessions = st.completedSessions ∧ st'.sessions = st.sessions ∧
    exit.events.count .sessionAccepted = 0
  saves : exit.events.countP ReceiverEvent.isSave = 0

theorem leave_spec (st : ReceiverState) (exit : SessionExit) :
    SessionLeft st exit (st.leave exit) := by
  have log : (st.leave exit).log = st.log ++ exit.events := by
    cases exit <;> simp only [ReceiverState.leave, SessionExit.events, List.append_nil]
  have none : exit.events.filterMap ReceiverEvent.accepted? = [] := by cases exit <;> rfl
  refine ⟨log, ?_, ?_, ?_, ?_, ?_, ?_, by cases exit <;> rfl⟩
  · rw [ReceiverState.accepted, log, List.filterMap_append, none, List.append_nil]
    rfl
  -- The other fields: what each `break` counts is what it logs.
  all_goals
    cases exit <;>
      simp [ReceiverState.leave, SessionExit.events, ReceiverEvent.isRejection] <;> omega

theorem SessionExit.events_allowed {cfg : ReceiverConfig} {n : Nat} {exit : SessionExit}
    {tail : List UInt8} (spec : ExitSpec cfg n exit tail) :
    ∀ event ∈ exit.events, event.Allowed cfg := by
  cases spec with
  | frameLimit => simp [SessionExit.events]
  | headerClosed => simp [SessionExit.events]
  | headerInvalid => simp [SessionExit.events, ReceiverEvent.Allowed]
  | payloadClosed header rest valid short =>
    simpa [SessionExit.events, ReceiverEvent.Allowed] using payloadSize_bounds _ valid
  | crcMismatch frame rest damaged =>
    simpa [SessionExit.events, ReceiverEvent.Allowed] using payloadSize_bounds _ frame.accepted

/-- Leaving a session keeps the counters consistent, whatever the exit. -/
theorem ReceiverConsistent.leave {cfg : ReceiverConfig} {st : ReceiverState} {n : Nat}
    {exit : SessionExit} {tail : List UInt8} (inv : ReceiverConsistent cfg st)
    (spec : ExitSpec cfg n exit tail) : ReceiverConsistent cfg (st.leave exit) := by
  have step := leave_spec st exit
  obtain ⟨frames, bytes, saved, latency, clock⟩ := step.frames
  obtain ⟨opened, _, _, silent⟩ := step.sessionCounts
  constructor
  case rejected => rw [step.errors, step.rejected, inv.rejected]
  case rejections => rw [step.rejected, step.log, List.countP_append, inv.rejections]
  case frames => rw [frames, step.accepted, inv.frames]
  case bytes => rw [bytes, step.accepted, inv.bytes]
  case latency => rw [frames, latency, clock, inv.latency]
  case saved => intro save; rw [frames, saved, inv.saved save]
  case saves => rw [saved, step.log, List.countP_append, step.saves, inv.saves, Nat.add_zero]
  case sessions => rw [opened, step.log, List.count_append, silent, inv.sessions, Nat.add_zero]
  case allowed =>
    intro event member
    rw [step.log, List.mem_append] at member
    rcases member with old | new
    · exact inv.allowed event old
    · exact SessionExit.events_allowed spec event new
  case frameLimit => rw [frames]; exact inv.frameLimit

end V4l2Capture.Receiver
