import Mathlib.Data.List.Forall2
import V4l2Capture.Pipeline.Run

/-!
# The last error

`last_error` is one slot that the producer and the sender write. A run of the pipeline is
recorded with the texts they put there and the events that these stand for, in order. The
pipeline that ends because of a failed transmission reports the slot, and `sendError_kept_iff`
says in which runs that is still what the sender recorded.
-/
namespace V4l2Capture.Pipeline

open Camera TcpIo Transition

variable {cfg : PipelineConfig}

/-- The texts with which a list of accesses overwrites the last error. -/
def Op.errorText? : Op → Option String
  | .setLastError text => some text
  | _ => none

def errorTexts (todo : List Op) : List String := todo.filterMap Op.errorText?

/-! ### Recorded runs -/

/-- The access that an action makes, with its thread. -/
def PipelineState.access? (s : PipelineState cfg) : Action → Option (Thread × Op)
  | .producerAccess => s.producer.todo.head?.map fun op => (.producer, op)
  | .consumerAccess => s.consumer.todo.head?.map fun op => (.consumer, op)
  | .senderAccess => s.sender.todo.head?.map fun op => (.sender, op)
  | _ => none

/-- What an action writes into the slot. -/
def PipelineState.errorWrite? (s : PipelineState cfg) (action : Action) :
    Option (Thread × String) :=
  (s.access? action).bind fun (t, op) => op.errorText?.map fun text => (t, text)

/-- The events of the camera that the producer records in the slot. -/
inductive CameraEvent where
  | captureFailed
  | rebuildFailed
  | rebuilt
  deriving DecidableEq, Repr

/-- The event behind which the producer makes its accesses, by the end of its log. -/
def Producer.cameraEvent? (p : Producer) : Option CameraEvent :=
  match p.log.getLast? with
  | some (.policyAsked _) => some .captureFailed
  | some (.rebuildStarted false) => some .captureFailed
  -- Between an attempt and its outcome the producer only sleeps.
  | some (.rebuildAttempt _) => some .rebuildFailed
  | some (.rebuilt _) => some .rebuilt
  | _ => none

inductive ErrorEvent where
  | camera (event : CameraEvent)
  | sendFailed (message : String)
  deriving DecidableEq, Repr

/-- The event that an action records. -/
def PipelineState.errorEvent? (s : PipelineState cfg) (action : Action) : Option ErrorEvent :=
  match s.errorWrite? action with
  | some (.producer, _) => s.producer.cameraEvent?.map .camera
  | some (.sender, message) => some (.sendFailed message)
  | _ => none

/-- A state with the texts written to get there and the events that were recorded by them. -/
structure Recording (cfg : PipelineConfig) where
  state : PipelineState cfg
  writes : List (Thread × String)
  events : List ErrorEvent

def Recording.step (r : Recording cfg) (action : Action) : Option (Recording cfg) :=
  (r.state.step action).map fun state =>
    { state := state
      writes := r.writes ++ (r.state.errorWrite? action).toList
      events := r.events ++ (r.state.errorEvent? action).toList }

def Recording.initial (cfg : PipelineConfig) (camera : CameraDevice) : Recording cfg :=
  ⟨PipelineState.initial cfg camera, [], []⟩

/-- The recordings of all runs. -/
abbrev Recorded (cfg : PipelineConfig) (camera : CameraDevice) (r : Recording cfg) : Prop :=
  Reaches Recording.step (Recording.initial cfg camera) r

theorem Recorded.reachable {camera : CameraDevice} {r : Recording cfg}
    (recorded : Recorded cfg camera r) : Reachable cfg camera r.state := by
  induction recorded with
  | refl => exact .refl
  | tail _ last ih =>
    obtain ⟨action, taken⟩ := last
    obtain ⟨state, step, rfl⟩ := Option.map_eq_some_iff.mp taken
    exact ih.tail ⟨action, step⟩

/-! ### The end of a run -/

/-- All threads are joined, no exception is rethrown, and a transmission failed. -/
structure PipelineState.TransmissionFailed (s : PipelineState cfg) : Prop where
  ended : s.Ended
  producer : s.shared.producerError = none
  consumer : s.shared.consumerError = none
  sender : 0 < s.shared.stats .tcpSendErrors

instance (s : PipelineState cfg) : Decidable s.TransmissionFailed :=
  decidable_of_iff (s.Ended ∧ s.shared.producerError = none ∧ s.shared.consumerError = none ∧
      0 < s.shared.stats .tcpSendErrors)
    ⟨fun ⟨ended, producer, consumer, sender⟩ => ⟨ended, producer, consumer, sender⟩,
      fun ⟨ended, producer, consumer, sender⟩ => ⟨ended, producer, consumer, sender⟩⟩

/-- The exception of a failed transmission names what the sender recorded for it, and so does
the last error of the statistics. -/
def Recording.KeepsSendError (r : Recording cfg) : Prop :=
  ∃ message, (.sender, message) ∈ r.writes ∧
    r.state.runResult = .error ("TCP transmission failed: " ++ message) ∧
    r.state.shared.lastError = message

/-- Once the sender has recorded its failure, no failed capture, no failed rebuild and no
successful one is recorded. -/
def Recording.Undisturbed (r : Recording cfg) : Prop :=
  ∀ before message after, r.events = before ++ .sendFailed message :: after →
    ∀ event, .camera event ∉ after

theorem PipelineState.TransmissionFailed.runResult {s : PipelineState cfg}
    (failed : s.TransmissionFailed) :
    s.runResult = .error ("TCP transmission failed: " ++ s.shared.lastError) := by
  rw [PipelineState.runResult, failed.producer, failed.consumer]
  exact if_pos failed.sender

/-! ### Whose text it is -/

/-- A letter with which no text of the producer begins. -/
def SendText (text : String) : Prop := text.toList.head? = some 's'

theorem head?_append {text : String} {c : Char} (first : text.toList.head? = some c)
    (more : String) : (text ++ more).toList.head? = some c := by
  rw [String.toList_append, List.head?_append, first, Option.some_or]

theorem sendText_sendErrorText (frame : Frame) (how : String) (tcpSent : Nat) (what : String) :
    SendText (sendErrorText frame how tcpSent what) := by
  unfold SendText sendErrorText
  repeat apply head?_append
  decide

/-- The texts by which an event of the camera is recorded. -/
def CameraEvent.Records : CameraEvent → String → Prop
  | .captureFailed, text => ∃ error, Op.setLastError text ∈ captureErrorOps error
  | .rebuildFailed, text => ∃ attempts message : String,
    text = "camera recovery attempt " ++ attempts ++ " failed: " ++ message
  | .rebuilt, text => text = ""

theorem not_sendText {text : String} {c : Char} (first : text.toList.head? = some c)
    (other : c ≠ 's') : ¬ SendText text := by
  intro sends
  rw [SendText, first] at sends
  exact other (Option.some.inj sends)

/-- No event of the camera is recorded by a text of the sender. -/
theorem CameraEvent.Records.not_sendText {event : CameraEvent} {text : String}
    (records : event.Records text) : ¬ SendText text := by
  cases event with
  | captureFailed =>
    obtain ⟨error, member⟩ := records
    simp only [captureErrorOps, List.mem_cons, List.not_mem_nil, or_false, reduceCtorEq,
      Op.setLastError.injEq, false_or] at member
    subst member
    apply Pipeline.not_sendText (c := 'c') _ (by decide)
    repeat apply head?_append
    decide
  | rebuildFailed =>
    obtain ⟨attempts, message, rfl⟩ := records
    apply Pipeline.not_sendText (c := 'c') _ (by decide)
    repeat apply head?_append
    decide
  | rebuilt =>
    subst records
    simp [SendText]

/-- What the producer is about to write records its last event. -/
def Producer.Records (p : Producer) : Prop :=
  ∀ text ∈ errorTexts p.todo, ∃ event, p.cameraEvent? = some event ∧ event.Records text

theorem Producer.records_of_quiet {p : Producer} (quiet : errorTexts p.todo = []) : p.Records := by
  intro text member
  rw [quiet] at member
  cases member

theorem errorTexts_frameOps (frame : Frame) (peak : Nat) :
    errorTexts (frameOps frame peak) = [] := by
  rw [frameOps]
  split <;> split <;> rfl

theorem errorTexts_decisionOps (decision : InvalidFrameDecision) :
    errorTexts (decisionOps cfg decision) = [] := by
  cases decision with
  | recover => rw [decisionOps]; split <;> rfl
  | _ => rfl

theorem errorTexts_append (first more : List Op) :
    errorTexts (first ++ more) = errorTexts first ++ errorTexts more :=
  List.filterMap_append

/-- The accesses behind an exception add no text to those that come first. -/
theorem errorTexts_fail (p : Producer) (reason : ProducerEnd) (first : List Op) (message : String) :
    errorTexts (p.fail reason first message).todo = errorTexts first := by
  rw [Producer.fail, errorTexts_append]
  exact List.append_nil _

theorem records_captureErrorOps {p : Producer} {error : CameraCaptureError}
    (event : p.cameraEvent? = some .captureFailed)
    (texts : errorTexts p.todo = errorTexts (captureErrorOps error)) : p.Records := by
  intro text member
  rw [texts] at member
  obtain ⟨op, listed, writes⟩ := List.mem_filterMap.mp member
  refine ⟨_, event, error, ?_⟩
  cases op <;> cases writes
  exact listed

theorem records_afterCalls (p : Producer) (calls : CaptureCalls) :
    (p.afterCalls cfg calls).Records := by
  rw [Producer.afterCalls]
  cases captureFrameCopy p.camera calls with
  | frame frame =>
    apply Producer.records_of_quiet
    simp only [Producer.afterCapture, errorTexts_append, errorTexts_frameOps,
      errorTexts_decisionOps, List.append_nil]
  | captureError error =>
    dsimp only
    rw [Producer.afterCaptureError]
    split
    · exact records_captureErrorOps (by simp [Producer.cameraEvent?]) rfl
    · split
      · refine records_captureErrorOps ?_ (errorTexts_fail _ _ _ _)
        simp [Producer.cameraEvent?, Producer.fail]
      · exact records_captureErrorOps (by simp [Producer.cameraEvent?]) rfl
  | runtimeError message => exact Producer.records_of_quiet (errorTexts_fail _ _ _ _)

/-- In an attempt that has begun. -/
@[simp] def ProducerCtl.attempting : ProducerCtl → Bool
  | .rebuildSleep _ => true
  | .rebuildOpen _ => true
  | _ => false

/-- A producer between an attempt to rebuild and its outcome has logged nothing since. -/
structure RecordsInv (p : Producer) : Prop where
  pending : p.Records
  attempted : p.ctl.attempting = true → p.cameraEvent? = some .rebuildFailed

theorem recordsInv_of_elsewhere {p : Producer} (pending : p.Records)
    (elsewhere : p.ctl.attempting = false) : RecordsInv p := by
  refine ⟨pending, fun attempting => ?_⟩
  rw [elsewhere] at attempting
  cases attempting

theorem afterCalls_elsewhere (p : Producer) (calls : CaptureCalls) :
    (p.afterCalls cfg calls).ctl.attempting = false := by
  rw [Producer.afterCalls]
  cases captureFrameCopy p.camera calls with
  | frame frame =>
    dsimp only [Producer.afterCapture]
    split <;> rfl
  | captureError error =>
    dsimp only [Producer.afterCaptureError]
    split
    · rfl
    · split <;> rfl
  | runtimeError message => rfl

theorem RecordsInv.step {stop : Bool} {p p' : Producer} (inv : RecordsInv p) (idle : p.todo = [])
    (step : ProducerStep cfg stop p p') : RecordsInv p' := by
  have quiet : errorTexts p.todo = [] := by rw [idle]; rfl
  cases step with
  | complete | stopped => exact recordsInv_of_elsewhere (Producer.records_of_quiet rfl) rfl
  | again | interrupted | givenUp | exhausted =>
    exact recordsInv_of_elsewhere (Producer.records_of_quiet quiet) rfl
  | sleeping => exact inv
  | slept byInvalid at_sleep =>
    exact ⟨Producer.records_of_quiet quiet, fun _ => inv.attempted (by rw [at_sleep]; rfl)⟩
  | captured _ calls =>
    exact recordsInv_of_elsewhere (records_afterCalls p calls) (afterCalls_elsewhere p calls)
  | attempt byInvalid =>
    rw [Producer.beginAttempt]
    split
    · exact ⟨Producer.records_of_quiet rfl, fun _ => by simp [Producer.cameraEvent?]⟩
    · exact recordsInv_of_elsewhere (Producer.records_of_quiet quiet) rfl
  | rebuilt byInvalid _ camera =>
    refine recordsInv_of_elsewhere (fun text member => ⟨.rebuilt, ?_, ?_⟩) rfl
    · simp [Producer.afterRebuild, Producer.cameraEvent?]
    · exact List.mem_singleton.mp member
  | openFailed byInvalid at_open camera message =>
    refine recordsInv_of_elsewhere (fun text member => ⟨.rebuildFailed, ?_, ?_⟩) rfl
    · exact inv.attempted (by rw [at_open]; rfl)
    · exact ⟨_, message, List.mem_singleton.mp member⟩
  | thrown _ message =>
    exact recordsInv_of_elsewhere (Producer.records_of_quiet (errorTexts_fail _ _ _ _)) rfl

theorem reachable_recordsInv {camera : CameraDevice} {s : PipelineState cfg}
    (reached : Reachable cfg camera s) : RecordsInv s.producer := by
  refine producer_invariant (fun _ p => RecordsInv p) ?_ (fun _ _ _ inv _ => inv) ?_
    (fun _ _ _ inv idle step => inv.step idle step) reached
  · exact recordsInv_of_elsewhere (Producer.records_of_quiet rfl) rfl
  · intro _ p op rest inv next
    refine ⟨fun text member => inv.pending text ?_, inv.attempted⟩
    obtain ⟨writes, listed, same⟩ := List.mem_filterMap.mp member
    rw [next]
    exact List.mem_filterMap.mpr ⟨writes, List.mem_cons_of_mem op listed, same⟩

theorem ConsumerStep.errorTexts_eq_nil {shared shared' : Shared cfg} {c c' : Consumer}
    (step : ConsumerStep cfg shared c shared' c') (idle : c.todo = []) :
    errorTexts c'.todo = [] := by
  cases step with
  | examined frame =>
    rw [Consumer.examineFrame]
    split
    · simp [idle, errorTexts]
    · rfl
  | queued frame =>
    rw [Consumer.queueFrame]
    dsimp only
    split <;> rfl
  | stopped | drained | popped | failed => rfl
  | again | producing | producerDone | left | waited | saving => simp [idle, errorTexts]

/-- The sender gave up a frame, and records why. -/
def SenderCtl.gaveUp : SenderCtl → Bool
  | .finished .failed => true
  | .finished .cancelled => true
  | _ => false

/-- What the accesses of the sender record when it gives up, and only then. -/
structure Reason (s : Sender) : Prop where
  once : (errorTexts s.todo).length = if s.ctl.gaveUp then 1 else 0
  text : ∀ text ∈ errorTexts s.todo, SendText text

theorem reason_of_errorText {s : Sender} {frame : Frame} {how what : String} {tcpSent : Nat}
    (texts : errorTexts s.todo = [sendErrorText frame how tcpSent what])
    (gaveUp : s.ctl.gaveUp = true) : Reason s := by
  refine ⟨by simp [texts, gaveUp], ?_⟩
  intro text member
  rw [texts, List.mem_singleton] at member
  exact member ▸ sendText_sendErrorText _ _ _ _

theorem reason_of_nil {s : Sender} (texts : errorTexts s.todo = [])
    (goesOn : s.ctl.gaveUp = false) : Reason s := by
  refine ⟨by simp [texts, goesOn], ?_⟩
  intro text member
  rw [texts] at member
  cases member

theorem reason_afterPayload {s : Sender} (idle : s.todo = []) (frame : Frame) (tcpSent : Nat)
    (outcome : SendOutcome) : Reason (s.afterPayload frame tcpSent outcome) := by
  cases outcome with
  | running call => exact reason_of_nil (by simp [Sender.afterPayload, idle, errorTexts]) rfl
  | returned => exact reason_of_nil rfl rfl
  | timeout what => exact reason_of_errorText rfl rfl
  | cancelled what => exact reason_of_errorText rfl rfl
  | failed what => exact reason_of_errorText rfl rfl

theorem reason_afterHeader {s : Sender} (idle : s.todo = []) (frame : Frame)
    (deadline tcpSent : Nat) (outcome : SendOutcome) :
    Reason (s.afterHeader frame deadline tcpSent outcome) := by
  cases outcome with
  | running call => exact reason_of_nil (by simp [Sender.afterHeader, idle, errorTexts]) rfl
  | returned => exact reason_afterPayload idle frame tcpSent _
  | timeout what => exact reason_of_errorText rfl rfl
  | cancelled what => exact reason_of_errorText rfl rfl
  | failed what => exact reason_of_errorText rfl rfl

theorem SenderStep.reason {shared shared' : Shared cfg} {s s' : Sender}
    (step : SenderStep cfg shared s shared' s') (idle : s.todo = []) : Reason s' := by
  have quiet : errorTexts s.todo = [] := by simp [idle, errorTexts]
  cases step with
  | begun frame at_begin now =>
    rw [Sender.beginFrame]
    split
    · exact reason_of_errorText rfl rfl
    · exact reason_afterHeader idle frame _ _ _
  | sent frame phase call at_sending event stops bytes outcome taken =>
    have idle : (s.accept bytes).todo = [] := idle
    cases phase with
    | header => exact reason_afterHeader idle frame _ _ outcome
    | payload => exact reason_afterPayload idle frame _ outcome
  | producing | consumerDone | drained | left | popped | waited => exact reason_of_nil quiet rfl

/-! ### What a run records -/

def PipelineState.todo (s : PipelineState cfg) : Thread → List Op
  | .producer => s.producer.todo
  | .consumer => s.consumer.todo
  | .sender => s.sender.todo

def textsBy (t : Thread) (writes : List (Thread × String)) : List String :=
  (writes.filter fun write => write.1 = t).map Prod.snd

/-- The texts that a thread has written or is about to write. -/
def Recording.textsOf (r : Recording cfg) (t : Thread) : List String :=
  textsBy t r.writes ++ errorTexts (r.state.todo t)

structure ErrorInv (r : Recording cfg) : Prop where
  slot : r.state.shared.lastError = (r.writes.getLast?.map Prod.snd).getD ""
  producer : ∀ text ∈ r.textsOf .producer, ¬ SendText text
  consumer : r.textsOf .consumer = []
  sender : ∀ text ∈ r.textsOf .sender, SendText text
  once : (r.textsOf .sender).length = if r.state.sender.ctl.gaveUp then 1 else 0

theorem ErrorInv.initial (cfg : PipelineConfig) (camera : CameraDevice) :
    ErrorInv (Recording.initial cfg camera) := by
  have goesOn : (Sender.initial cfg).ctl.gaveUp = false := by
    rw [Sender.initial]
    dsimp only
    split <;> rfl
  constructor
  · rfl
  · intro text member
    cases member
  · rfl
  · intro text member
    cases member
  · show 0 = if (Sender.initial cfg).ctl.gaveUp then 1 else 0
    rw [goesOn]
    rfl

theorem exec_lastError (s : Shared cfg) (op : Op) :
    (op.exec s).lastError = op.errorText?.getD s.lastError := by
  cases op with
  | raisePeak peak =>
    simp only [Op.exec]
    split <;> rfl
  | _ => rfl

section Steps

variable {r r' : Recording cfg} {t : Thread} {op : Op} {rest : List Op}

/-- An access moves a text from the list of its thread into the record. -/
structure Accessed (r r' : Recording cfg) (t : Thread) (op : Op) (rest : List Op) : Prop where
  next : r.state.todo t = op :: rest
  todo : r'.state.todo t = rest
  others : ∀ u, u ≠ t → r'.state.todo u = r.state.todo u
  shared : r'.state.shared = op.exec r.state.shared
  place : r'.state.sender.ctl = r.state.sender.ctl
  writes : r'.writes = r.writes ++ (op.errorText?.map fun text => (t, text)).toList

theorem Accessed.textsOf (accessed : Accessed r r' t op rest) (u : Thread) :
    r'.textsOf u = r.textsOf u := by
  rw [Recording.textsOf, Recording.textsOf, accessed.writes]
  by_cases same : u = t
  · subst u
    rw [accessed.next, accessed.todo]
    cases text : op.errorText? <;> simp [textsBy, errorTexts, text]
  · rw [accessed.others u same]
    cases text : op.errorText? <;> simp [textsBy, Ne.symm same]

theorem ErrorInv.access (inv : ErrorInv r) (accessed : Accessed r r' t op rest) : ErrorInv r' := by
  constructor
  · rw [accessed.shared, exec_lastError, accessed.writes]
    cases text : op.errorText? with
    | none => simpa using inv.slot
    | some text => simp
  · rw [accessed.textsOf]
    exact inv.producer
  · rw [accessed.textsOf]
    exact inv.consumer
  · rw [accessed.textsOf]
    exact inv.sender
  · rw [accessed.textsOf, accessed.place]
    exact inv.once

/-- A thread that has nothing left to write decides how it goes on. -/
structure Decided (r r' : Recording cfg) (t : Thread) : Prop where
  idle : r.state.todo t = []
  others : ∀ u, u ≠ t → r'.state.todo u = r.state.todo u
  slot : r'.state.shared.lastError = r.state.shared.lastError
  writes : r'.writes = r.writes

theorem Decided.textsOf_self (decided : Decided r r' t) :
    r'.textsOf t = r.textsOf t ++ errorTexts (r'.state.todo t) := by
  simp [Recording.textsOf, decided.idle, decided.writes, errorTexts]

theorem Decided.textsOf_other (decided : Decided r r' t) {u : Thread} (other : u ≠ t) :
    r'.textsOf u = r.textsOf u := by
  rw [Recording.textsOf, Recording.textsOf, decided.writes, decided.others u other]

theorem Decided.slot_eq (decided : Decided r r' t) (inv : ErrorInv r) :
    r'.state.shared.lastError = (r'.writes.getLast?.map Prod.snd).getD "" := by
  rw [decided.slot, decided.writes]
  exact inv.slot

theorem ErrorInv.producerDecides (inv : ErrorInv r) (decided : Decided r r' .producer)
    (records : r'.state.producer.Records)
    (place : r'.state.sender.ctl = r.state.sender.ctl) : ErrorInv r' := by
  constructor
  · exact decided.slot_eq inv
  · intro text member
    rw [decided.textsOf_self] at member
    rcases List.mem_append.mp member with before | new
    · exact inv.producer text before
    · obtain ⟨event, _, recorded⟩ := records text new
      exact recorded.not_sendText
  · rw [decided.textsOf_other (by decide)]
    exact inv.consumer
  · rw [decided.textsOf_other (by decide)]
    exact inv.sender
  · rw [decided.textsOf_other (by decide), place]
    exact inv.once

theorem ErrorInv.consumerDecides (inv : ErrorInv r) (decided : Decided r r' .consumer)
    (quiet : errorTexts r'.state.consumer.todo = [])
    (place : r'.state.sender.ctl = r.state.sender.ctl) : ErrorInv r' := by
  constructor
  · exact decided.slot_eq inv
  · rw [decided.textsOf_other (by decide)]
    exact inv.producer
  · rw [decided.textsOf_self, inv.consumer]
    exact quiet
  · rw [decided.textsOf_other (by decide)]
    exact inv.sender
  · rw [decided.textsOf_other (by decide), place]
    exact inv.once

theorem ErrorInv.senderDecides (inv : ErrorInv r) (decided : Decided r r' .sender)
    (running : r.state.sender.ctl.gaveUp = false) (reason : Reason r'.state.sender) :
    ErrorInv r' := by
  -- The sender has recorded nothing before, as it has not given up yet.
  have none : r.textsOf .sender = [] := by
    apply List.eq_nil_of_length_eq_zero
    rw [inv.once, running]
    rfl
  have texts : r'.textsOf .sender = errorTexts r'.state.sender.todo := by
    rw [decided.textsOf_self, none]
    rfl
  constructor
  · exact decided.slot_eq inv
  · rw [decided.textsOf_other (by decide)]
    exact inv.producer
  · rw [decided.textsOf_other (by decide)]
    exact inv.consumer
  · rw [texts]
    exact reason.text
  · rw [texts]
    exact reason.once

theorem SenderStep.not_gaveUp {shared shared' : Shared cfg} {s s' : Sender}
    (step : SenderStep cfg shared s shared' s') : s.ctl.gaveUp = false := by
  have running := step.running
  cases ctl : s.ctl with
  | finished reason => exact absurd ctl (running reason)
  | _ => rfl

theorem ErrorInv.step (inv : ErrorInv r) {action : Action} (records : r'.state.producer.Records)
    (step : r.step action = some r') : ErrorInv r' := by
  obtain ⟨s', taken, rfl⟩ := Option.map_eq_some_iff.mp step
  cases action with
  -- The three accesses differ only in the thread whose list they shorten.
  | producerAccess =>
    simp only [PipelineState.step] at taken
    split at taken
    · cases taken
    next op rest next =>
      cases taken
      apply inv.access (t := .producer)
      refine ⟨next, rfl, ?_, rfl, rfl, ?_⟩
      · rintro (_ | _ | _) other
        · exact absurd rfl other
        · rfl
        · rfl
      · simp [PipelineState.errorWrite?, PipelineState.access?, next]
  | consumerAccess =>
    simp only [PipelineState.step] at taken
    split at taken
    · cases taken
    next op rest next =>
      cases taken
      apply inv.access (t := .consumer)
      refine ⟨next, rfl, ?_, rfl, rfl, ?_⟩
      · rintro (_ | _ | _) other
        · rfl
        · exact absurd rfl other
        · rfl
      · simp [PipelineState.errorWrite?, PipelineState.access?, next]
  | senderAccess =>
    simp only [PipelineState.step] at taken
    split at taken
    · cases taken
    next op rest next =>
      cases taken
      apply inv.access (t := .sender)
      refine ⟨next, rfl, ?_, rfl, rfl, ?_⟩
      · rintro (_ | _ | _) other
        · rfl
        · rfl
        · exact absurd rfl other
      · simp [PipelineState.errorWrite?, PipelineState.access?, next]
  | producer input =>
    simp only [PipelineState.step] at taken
    split at taken
    next idle =>
      obtain ⟨producer, control, rfl⟩ := Option.map_eq_some_iff.mp taken
      refine inv.producerDecides ⟨idle, ?_, rfl, List.append_nil _⟩ records rfl
      rintro (_ | _ | _) other
      · exact absurd rfl other
      · rfl
      · rfl
    next => cases taken
  | consumer input =>
    simp only [PipelineState.step] at taken
    split at taken
    next idle =>
      obtain ⟨⟨shared, consumer⟩, control, rfl⟩ := Option.map_eq_some_iff.mp taken
      have step := consumerControl_step control
      refine inv.consumerDecides ⟨idle, ?_, ?_, List.append_nil _⟩
        (step.errorTexts_eq_nil idle) rfl
      · rintro (_ | _ | _) other
        · rfl
        · exact absurd rfl other
        · rfl
      · rw [step.shared_eq.1]
    next => cases taken
  | sender input =>
    simp only [PipelineState.step] at taken
    split at taken
    next idle =>
      obtain ⟨⟨shared, sender⟩, control, rfl⟩ := Option.map_eq_some_iff.mp taken
      have step := senderControl_step control
      refine inv.senderDecides ⟨idle, ?_, ?_, List.append_nil _⟩ step.not_gaveUp
        (step.reason idle)
      · rintro (_ | _ | _) other
        · rfl
        · rfl
        · exact absurd rfl other
      · rw [step.shared_eq]
    next => cases taken

end Steps

theorem Recorded.errorInv {camera : CameraDevice} {r : Recording cfg}
    (recorded : Recorded cfg camera r) : ErrorInv r := by
  refine invariant ErrorInv (ErrorInv.initial cfg camera) (fun r action r' before inv step => ?_)
    recorded
  have later : Recorded cfg camera r' := before.tail ⟨action, step⟩
  exact inv.step (reachable_recordsInv later.reachable).pending step

/-! ### The events behind the texts -/

/-- The text is the record of the event. -/
def ErrorEvent.Writes : ErrorEvent → Thread × String → Prop
  | .camera event, (t, text) => t = .producer ∧ event.Records text
  | .sendFailed message, write => write = (.sender, message)

theorem ErrorEvent.Writes.eq_camera {event : ErrorEvent} {write : Thread × String}
    (writes : event.Writes write) (producer : write.1 = .producer) :
    ∃ cameraEvent, event = .camera cameraEvent := by
  cases event with
  | camera cameraEvent => exact ⟨cameraEvent, rfl⟩
  | sendFailed message =>
    obtain rfl : write = (.sender, message) := writes
    cases producer

theorem ErrorEvent.Writes.eq_sendFailed {event : ErrorEvent} {message : String}
    (writes : event.Writes (.sender, message)) : event = .sendFailed message := by
  cases event with
  | camera cameraEvent => cases writes.1
  | sendFailed other =>
    obtain rfl : message = other := congrArg Prod.snd writes
    rfl

theorem mem_errorTexts_of_head {todo : List Op} {op : Op} {text : String}
    (head : todo.head? = some op) (writes : op.errorText? = some text) : text ∈ errorTexts todo :=
  List.mem_filterMap.mpr ⟨op, List.mem_of_head? head, writes⟩

/-- What an action writes is about to be written by its thread. -/
theorem errorWrite?_mem {s : PipelineState cfg} {action : Action} {t : Thread} {text : String}
    (write : s.errorWrite? action = some (t, text)) : text ∈ errorTexts (s.todo t) := by
  obtain ⟨⟨u, op⟩, access, writes⟩ := Option.bind_eq_some_iff.mp write
  obtain ⟨_, text_eq, same⟩ := Option.map_eq_some_iff.mp writes
  cases same
  cases action with
  | producerAccess | consumerAccess | senderAccess =>
    obtain ⟨_, head, same⟩ := Option.map_eq_some_iff.mp access
    cases same
    exact mem_errorTexts_of_head head text_eq
  | _ => cases access

theorem errorEvent?_writes {s : PipelineState cfg} (records : s.producer.Records)
    (quiet : errorTexts s.consumer.todo = []) (action : Action) :
    List.Forall₂ ErrorEvent.Writes (s.errorEvent? action).toList (s.errorWrite? action).toList := by
  rw [PipelineState.errorEvent?]
  cases write : s.errorWrite? action with
  | none => exact .nil
  | some written =>
    obtain ⟨t, text⟩ := written
    have listed := errorWrite?_mem write
    cases t with
    | producer =>
      obtain ⟨event, last, recorded⟩ := records text listed
      simp only [last]
      exact .cons ⟨rfl, recorded⟩ .nil
    | consumer =>
      rw [PipelineState.todo, quiet] at listed
      cases listed
    | sender => exact .cons rfl .nil

/-- In every recorded run the events and the texts stand for one another, one by one. -/
theorem Recorded.events {camera : CameraDevice} {r : Recording cfg}
    (recorded : Recorded cfg camera r) : List.Forall₂ ErrorEvent.Writes r.events r.writes := by
  refine invariant (fun r => List.Forall₂ ErrorEvent.Writes r.events r.writes) .nil
    (fun r action r' before kept step => ?_) recorded
  have here : Recorded cfg camera r := before
  obtain ⟨state, _, rfl⟩ := Option.map_eq_some_iff.mp step
  have quiet := (List.append_eq_nil_iff.mp here.errorInv.consumer).2
  exact List.rel_append kept
    (errorEvent?_writes (reachable_recordsInv here.reachable).pending quiet action)

/-- A list that corresponds to another one can be cut where that one is. -/
theorem forall₂_append_cons {α β : Type} {R : α → β → Prop} {l : List α} {front back : List β}
    {y : β} (related : List.Forall₂ R l (front ++ y :: back)) :
    ∃ front' x back', l = front' ++ x :: back' ∧ R x y ∧ List.Forall₂ R back' back := by
  have behind := List.forall₂_drop_append l front (y :: back) related
  obtain ⟨x, back', first, rest, same⟩ := List.forall₂_cons_right_iff.mp behind
  exact ⟨l.take front.length, x, back', by rw [← same, List.take_append_drop], first, rest⟩

/-! ### What is left in the slot -/

theorem mem_textsBy {t : Thread} {text : String} {writes : List (Thread × String)} :
    text ∈ textsBy t writes ↔ (t, text) ∈ writes := by
  simp [textsBy]

section Ends

variable {r : Recording cfg} {before after : List (Thread × String)} {message : String}

/-- The sender records one text at most, and the consumer none. -/
theorem ErrorInv.after_sender (inv : ErrorInv r)
    (split : r.writes = before ++ (.sender, message) :: after) :
    ∀ write ∈ after, write.1 = .producer := by
  have once : (r.textsOf .sender).length ≤ 1 := by
    rw [inv.once]
    split <;> simp
  have texts : textsBy .sender r.writes =
      textsBy .sender before ++ message :: textsBy .sender after := by
    simp [split, textsBy]
  have none : textsBy .sender after = [] := by
    apply List.eq_nil_of_length_eq_zero
    rw [Recording.textsOf, texts] at once
    simp only [List.length_append, List.length_cons] at once
    omega
  rintro ⟨t, text⟩ member
  cases t with
  | producer => rfl
  | sender =>
    have listed := mem_textsBy.mpr member
    rw [none] at listed
    cases listed
  | consumer =>
    have listed : text ∈ r.textsOf .consumer :=
      List.mem_append_left _ (mem_textsBy.mpr (by simp [split, member]))
    rw [inv.consumer] at listed
    cases listed

/-- A pipeline that failed to transmit has recorded why. -/
theorem PipelineState.TransmissionFailed.recorded (failed : r.state.TransmissionFailed)
    (inv : ErrorInv r) (sender : SenderInv cfg r.state.shared r.state.sender) :
    ∃ message, (.sender, message) ∈ r.writes := by
  have errors := sender.errors
  rw [failed.ended.senderTodo, adds_nil, Nat.add_zero] at errors
  have gaveUp : r.state.sender.ctl = .finished .failed := by
    by_contra other
    rw [if_neg other] at errors
    exact absurd failed.sender (by omega)
  have once := inv.once
  rw [Recording.textsOf, PipelineState.todo, failed.ended.senderTodo, gaveUp] at once
  obtain ⟨message, texts⟩ := List.length_eq_one_iff.mp once
  refine ⟨message, mem_textsBy.mp ?_⟩
  have none : errorTexts [] = [] := rfl
  rw [none, List.append_nil] at texts
  simp [texts]

end Ends

/-- A failed transmission is reported by the text of the sender exactly if no failed capture and
no failed or successful rebuild is recorded behind it. -/
theorem sendError_kept_iff {camera : CameraDevice} {r : Recording cfg}
    (recorded : Recorded cfg camera r) (failed : r.state.TransmissionFailed) :
    r.KeepsSendError ↔ r.Undisturbed := by
  have inv := recorded.errorInv
  constructor
  · rintro ⟨text, sent, _, slot⟩ before message after shape event member
    obtain ⟨_, write, texts, split, sends, behind⟩ :=
      forall₂_append_cons (shape ▸ recorded.events.flip : List.Forall₂ (flip ErrorEvent.Writes)
        r.writes (before ++ .sendFailed message :: after))
    obtain rfl : write = (.sender, message) := sends
    -- The last text is one of the producer, and the slot holds it.
    have nonempty : texts ≠ [] := by
      rintro rfl
      cases behind
      cases member
    have last : r.writes.getLast? = some (texts.getLast nonempty) := by
      rw [split, List.getLast?_append_cons, List.getLast?_cons,
        List.getLast?_eq_some_getLast nonempty]
      rfl
    have producer := inv.after_sender split _ (List.getLast_mem nonempty)
    have same : text = (texts.getLast nonempty).2 := by
      rw [← slot, inv.slot, last]
      rfl
    have written : (Thread.producer, text) ∈ r.writes := by
      rw [same, ← producer, split]
      exact List.mem_append_right _ (List.mem_cons_of_mem _ (List.getLast_mem nonempty))
    exact inv.producer text (List.mem_append_left _ (mem_textsBy.mpr written))
      (inv.sender text (List.mem_append_left _ (mem_textsBy.mpr sent)))
  · intro undisturbed
    obtain ⟨message, sent⟩ := failed.recorded inv (reachable_inv recorded.reachable).sender
    obtain ⟨before, after, split⟩ := List.append_of_mem sent
    obtain ⟨earlier, event, later, shape, sends, behind⟩ :=
      forall₂_append_cons (split ▸ recorded.events)
    rw [sends.eq_sendFailed] at shape
    -- Behind the text of the sender only the producer could write, for an event of the camera.
    have none : after = [] := by
      rcases later with _ | ⟨next, later⟩
      · exact List.forall₂_nil_left_iff.mp behind
      · obtain ⟨write, rest, first, _, rfl⟩ := List.forall₂_cons_left_iff.mp behind
        obtain ⟨cameraEvent, rfl⟩ :=
          first.eq_camera (inv.after_sender split write List.mem_cons_self)
        exact absurd List.mem_cons_self
          (undisturbed earlier message _ shape cameraEvent)
    have slot : r.state.shared.lastError = message := by
      rw [inv.slot, split, none]
      simp
    exact ⟨message, sent, slot ▸ failed.runResult, slot⟩

/-- What the sender records when the connection breaks while it sends the first frame. -/
def brokenText : String := "send frame_id=0 failed after tcp_sent_frames=0: send failed: "

/-- The connection breaks while the only frame is sent, and nothing else goes wrong. -/
theorem sendError_kept_iff_brokenConnection :
    ∃ r : Recording smallConfig, Recorded smallConfig smallCamera r ∧
      r.state.TransmissionFailed ∧ r.events = [.sendFailed brokenText] ∧
      r.state.runResult = .error ("TCP transmission failed: " ++ brokenText) ∧
      r.KeepsSendError := by
  obtain ⟨r, recorded, failed, events, result⟩ : ∃ r, Recorded smallConfig smallCamera r ∧
      r.state.TransmissionFailed ∧ r.events = [.sendFailed brokenText] ∧
      r.state.runResult = .error ("TCP transmission failed: " ++ brokenText) :=
    exists_reached (captureOne ++ beginOne ++ breakOne) (by decide +kernel)
  refine ⟨r, recorded, failed, events, result, (sendError_kept_iff recorded failed).mpr ?_⟩
  intro before message after shape event member
  rw [events] at shape
  cases before with
  | nil => cases shape; cases member
  | cons _ before => exact absurd (List.cons.inj shape).2 (by simp)

def twoFrames : PipelineConfig :=
  { smallConfig with frameCount := 2, frameCount_pos := Nat.two_pos }

/-- The producer captures a frame, and then a capture times out and the camera is rebuilt. -/
def captureThenRebuild : List Action :=
  [.producer .go, .producer (.captured (smallCapture 4)), .producerAccess, .producerAccess,
    .producerAccess, .producer .go,
    .producer (.captured { smallCapture 4 with poll := .timeout }), .producerAccess,
    .producerAccess, .producer .go, .producerAccess, .producer (.slept true)]

/-- The frame goes through the queue to the sender, which begins to send it. -/
def handOver : List Action :=
  [.consumer .go, .consumer .go, .consumer .go, .consumerAccess, .consumerAccess,
    .consumer .go, .consumer .go, .consumerAccess, .consumerAccess,
    .sender .go, .sender .go, .sender (.event (.clock 0)), .sender .go,
    .sender (.event (.clock 0))]

/-- The rebuild succeeds, and the threads find that a stop is requested. -/
def rebuildThenStop : List Action :=
  [.producer (.opened smallCamera), .producerAccess, .producerAccess, .producerAccess,
    .producer .go, .producerAccess, .consumer .go, .consumerAccess]

/-- The connection breaks while the camera is being rebuilt, and the rebuild then succeeds: the
pipeline ends with the text `TCP transmission failed: ` and nothing behind it. -/
theorem not_keepsSendError_rebuilt :
    ∃ r : Recording twoFrames, Recorded twoFrames smallCamera r ∧ r.state.TransmissionFailed ∧
      r.events = [.camera .captureFailed, .sendFailed brokenText, .camera .rebuilt] ∧
      r.state.runResult = .error "TCP transmission failed: " ∧ ¬ r.KeepsSendError := by
  obtain ⟨r, recorded, failed, events, slot, texts⟩ : ∃ r : Recording twoFrames,
      Recorded twoFrames smallCamera r ∧ r.state.TransmissionFailed ∧
        r.events = [.camera .captureFailed, .sendFailed brokenText, .camera .rebuilt] ∧
        r.state.shared.lastError = "" ∧ ∀ write ∈ r.writes, write.1 = .sender → write.2 ≠ "" :=
    exists_reached (captureThenRebuild ++ handOver ++ breakOne ++ rebuildThenStop)
      (by decide +kernel)
  refine ⟨r, recorded, failed, events, by rw [failed.runResult, slot, String.append_empty], ?_⟩
  rintro ⟨message, sent, _, kept⟩
  exact texts _ sent rfl (kept.symm.trans slot)

end V4l2Capture.Pipeline
