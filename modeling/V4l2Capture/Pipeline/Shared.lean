import V4l2Capture.Pipeline.Recovery
import V4l2Capture.Pipeline.RingBuffer
import Mathlib.Logic.Function.Basic

/-!
# What the threads share

`Shared` holds the queues, flags, errors and statistics that the threads of `run_pipeline`
have in common, and `Op` the writing accesses to them, each of which is one atomic step.
A thread lists the accesses it is about to make in their order (its `todo` list) and then
makes them one at a time; the lemmas say what one of them changes, and that accesses of
one thread leave alone what belongs to another.
-/
namespace V4l2Capture.Pipeline

open Camera

/-- The arguments of `run_pipeline` that pass its checks. -/
structure PipelineConfig where
  frameCount : Nat
  ringCapacity : Nat
  tcpQueueCapacity : Nat
  pipelineSave : Bool
  saveLimit : Nat
  tcpEnabled : Bool
  tcpSendTimeoutMs : Nat
  cameraRecoveryEnabled : Bool
  limits : RecoveryLimits
  strerror : Errno → String
  frameCount_pos : 0 < frameCount
  ringCapacity_pos : 0 < ringCapacity
  tcpQueueCapacity_pos : 0 < tcpQueueCapacity

inductive Thread where
  | producer
  | consumer
  | sender
  deriving DecidableEq, Repr

/-- The atomic counters of `PipelineStats` that the threads increment. -/
inductive Counter where
  -- Those of the connection are not among them: it is made before the threads start.
  | captured
  | cameraCaptureTimeouts
  | cameraTemporaryUnavailable
  | cameraDeviceErrors
  | cameraBufferErrorFrames
  | cameraIncompleteFrames
  | cameraInvalidFrameRecoveries
  | cameraInvalidRecoverySuppressedCooldown
  | cameraInvalidRecoverySuppressedBudget
  | cameraRecoveryAttempts
  | cameraRecoverySuccesses
  | cameraRecoveryFailures
  | reconnectCount
  | consumed
  | consumedBytes
  | invalid
  | saved
  | tcpQueued
  | tcpSent
  | tcpSentBytes
  | tcpSendErrors
  | tcpSendTimeouts
  | tcpSendCancellations
  deriving DecidableEq, Repr

/-- The thread that increments a counter. -/
@[simp] def Counter.owner : Counter → Thread
  | .consumed | .consumedBytes | .invalid | .saved | .tcpQueued => .consumer
  | .tcpSent | .tcpSentBytes | .tcpSendErrors | .tcpSendTimeouts | .tcpSendCancellations => .sender
  | _ => .producer

structure Shared (cfg : PipelineConfig) where
  ring : RingBuffer Frame cfg.ringCapacity
  tcpRing : RingBuffer Frame cfg.tcpQueueCapacity
  producerDone : Bool
  consumerDone : Bool
  stopRequested : Bool
  producerError : Option String
  consumerError : Option String
  stats : Counter → Nat
  cameraConsecutiveInvalidPeak : Nat
  lastError : String

/-- The state when the threads start. -/
def Shared.initial (cfg : PipelineConfig) : Shared cfg where
  ring := RingBuffer.new cfg.ringCapacity_pos
  tcpRing := RingBuffer.new cfg.tcpQueueCapacity_pos
  producerDone := false
  consumerDone := false
  stopRequested := false
  producerError := none
  consumerError := none
  stats _ := 0
  cameraConsecutiveInvalidPeak := 0
  lastError := ""

/-- Accesses that only write. `raisePeak` stands for the load and the store of the peak,
which no other thread touches. -/
inductive Op where
  | add (counter : Counter) (n : Nat)
  | raisePeak (peak : Nat)
  | setLastError (text : String)
  | pushRing (frame : Frame)
  | pushTcpRing (frame : Frame)
  | setProducerError (text : String)
  | setConsumerError (text : String)
  | requestStop
  | setProducerDone
  | setConsumerDone
  deriving DecidableEq, Repr

variable {cfg : PipelineConfig}

def Op.exec (s : Shared cfg) : Op → Shared cfg
  | .add counter n => { s with stats := Function.update s.stats counter (s.stats counter + n) }
  | .raisePeak peak =>
    if peak > s.cameraConsecutiveInvalidPeak then { s with cameraConsecutiveInvalidPeak := peak }
    else s
  | .setLastError text => { s with lastError := text }
  | .pushRing frame => { s with ring := s.ring.push frame }
  | .pushTcpRing frame => { s with tcpRing := s.tcpRing.push frame }
  | .setProducerError text => { s with producerError := some text }
  | .setConsumerError text => { s with consumerError := some text }
  | .requestStop => { s with stopRequested := true }
  | .setProducerDone => { s with producerDone := true }
  | .setConsumerDone => { s with consumerDone := true }

/-- The thread that makes an access; none for those that every thread makes. -/
@[simp] def Op.owner : Op → Option Thread
  | .add counter _ => some counter.owner
  | .raisePeak _ => some .producer
  | .setLastError _ => none
  | .pushRing _ => some .producer
  | .pushTcpRing _ => some .consumer
  | .setProducerError _ => some .producer
  | .setConsumerError _ => some .consumer
  | .requestStop => none
  | .setProducerDone => some .producer
  | .setConsumerDone => some .consumer

/-! ### What is still to be done -/

/-- By how much an access raises a counter. -/
@[simp] def Op.adds (c : Counter) : Op → Nat
  | .add counter n => if counter = c then n else 0
  | _ => 0

def adds (c : Counter) (todo : List Op) : Nat := (todo.map (Op.adds c)).sum

@[simp] def Op.ringPush? : Op → Option Frame
  | .pushRing frame => some frame
  | _ => none

@[simp] def Op.tcpPush? : Op → Option Frame
  | .pushTcpRing frame => some frame
  | _ => none

def ringPushes (todo : List Op) : List Frame := todo.filterMap Op.ringPush?

def tcpPushes (todo : List Op) : List Frame := todo.filterMap Op.tcpPush?

@[simp] theorem adds_nil (c : Counter) : adds c [] = 0 := rfl

@[simp] theorem adds_cons (c : Counter) (op : Op) (todo : List Op) :
    adds c (op :: todo) = op.adds c + adds c todo := by
  rw [adds, List.map_cons, List.sum_cons]
  rfl

@[simp] theorem adds_append (c : Counter) (todo more : List Op) :
    adds c (todo ++ more) = adds c todo + adds c more := by
  rw [adds, List.map_append, List.sum_append]
  rfl

@[simp] theorem ringPushes_nil : ringPushes [] = [] := rfl

@[simp] theorem tcpPushes_nil : tcpPushes [] = [] := rfl

@[simp] theorem ringPushes_cons (op : Op) (todo : List Op) :
    ringPushes (op :: todo) = op.ringPush?.toList ++ ringPushes todo := by
  rw [ringPushes, List.filterMap_cons]
  cases op.ringPush? <;> rfl

@[simp] theorem tcpPushes_cons (op : Op) (todo : List Op) :
    tcpPushes (op :: todo) = op.tcpPush?.toList ++ tcpPushes todo := by
  rw [tcpPushes, List.filterMap_cons]
  cases op.tcpPush? <;> rfl

@[simp] theorem ringPushes_append (todo more : List Op) :
    ringPushes (todo ++ more) = ringPushes todo ++ ringPushes more := List.filterMap_append

@[simp] theorem tcpPushes_append (todo more : List Op) :
    tcpPushes (todo ++ more) = tcpPushes todo ++ tcpPushes more := List.filterMap_append

/-! ### What an access changes -/

theorem exec_stats (s : Shared cfg) (op : Op) (c : Counter) :
    (op.exec s).stats c = s.stats c + op.adds c := by
  cases op with
  | add counter n =>
    by_cases same : counter = c
    · subst same
      simp [Op.exec, Op.adds]
    · simp [Op.exec, Op.adds, same, Function.update_of_ne (Ne.symm same)]
  | raisePeak peak =>
    simp only [Op.exec, Op.adds]
    split <;> rfl
  | _ => rfl

/-- An access moves what it adds from the list into the counter. -/
theorem exec_adds (s : Shared cfg) (op : Op) (rest : List Op) (c : Counter) :
    (op.exec s).stats c + adds c rest = s.stats c + adds c (op :: rest) := by
  rw [exec_stats, adds_cons, Nat.add_assoc]

theorem mem_of_next {op : Op} {todo rest : List Op} (next : todo = op :: rest) :
    op ∈ todo ∧ ∀ other ∈ rest, other ∈ todo := by
  rw [next]
  exact ⟨List.mem_cons_self, fun _ member => List.mem_cons_of_mem op member⟩

theorem exec_ring (s : Shared cfg) (op : Op) :
    (op.exec s).ring.toQueue =
      match op.ringPush? with
      | some frame => s.ring.toQueue.push cfg.ringCapacity frame
      | none => s.ring.toQueue := by
  cases op with
  | pushRing frame => exact RingBuffer.toQueue_push _ _
  | raisePeak peak =>
    simp only [Op.exec]
    split <;> rfl
  | _ => rfl

theorem exec_tcpRing (s : Shared cfg) (op : Op) :
    (op.exec s).tcpRing.toQueue =
      match op.tcpPush? with
      | some frame => s.tcpRing.toQueue.push cfg.tcpQueueCapacity frame
      | none => s.tcpRing.toQueue := by
  cases op with
  | pushTcpRing frame => exact RingBuffer.toQueue_push _ _
  | raisePeak peak =>
    simp only [Op.exec]
    split <;> rfl
  | _ => rfl

theorem exec_flags (s : Shared cfg) (op : Op) :
    (op.exec s).stopRequested = (s.stopRequested || op == .requestStop) ∧
      (op.exec s).producerDone = (s.producerDone || op == .setProducerDone) ∧
      (op.exec s).consumerDone = (s.consumerDone || op == .setConsumerDone) := by
  cases op <;> simp [Op.exec]
  split <;> simp

theorem exec_errors (s : Shared cfg) (op : Op) :
    ((op.exec s).producerError =
      match op with
      | .setProducerError text => some text
      | _ => s.producerError) ∧
    ((op.exec s).consumerError =
      match op with
      | .setConsumerError text => some text
      | _ => s.consumerError) := by
  cases op <;> simp [Op.exec]
  split <;> simp

theorem adds_eq_zero {op : Op} {c : Counter} (foreign : op.owner ≠ some c.owner) :
    op.adds c = 0 := by
  cases op with
  | add counter n =>
    have other : counter ≠ c := by
      rintro rfl
      exact foreign rfl
    exact if_neg other
  | _ => rfl

/-! ### What the others leave alone -/

/-- A list of accesses that a thread may make. -/
def OwnedBy (t : Thread) (todo : List Op) : Prop :=
  ∀ op ∈ todo, op.owner = some t ∨ op.owner = none

@[simp] theorem ownedBy_nil (t : Thread) : OwnedBy t [] := by simp [OwnedBy]

@[simp] theorem ownedBy_cons (t : Thread) (op : Op) (todo : List Op) :
    OwnedBy t (op :: todo) ↔ (op.owner = some t ∨ op.owner = none) ∧ OwnedBy t todo :=
  List.forall_mem_cons

@[simp] theorem ownedBy_append (t : Thread) (todo more : List Op) :
    OwnedBy t (todo ++ more) ↔ OwnedBy t todo ∧ OwnedBy t more :=
  List.forall_mem_append

/-- A change of the shared state that keeps what belongs to a thread. Flags are only raised. -/
structure Untouched (t : Thread) (s s' : Shared cfg) : Prop where
  stats : ∀ c, c.owner = t → s'.stats c = s.stats c
  stop : s.stopRequested = true → s'.stopRequested = true
  producer : t = .producer → s'.producerDone = s.producerDone ∧ s'.producerError = s.producerError
  consumer : t = .consumer → s'.consumerDone = s.consumerDone ∧ s'.consumerError = s.consumerError

theorem exec_untouched (s : Shared cfg) {op : Op} {t : Thread} (foreign : op.owner ≠ some t) :
    Untouched t s (op.exec s) := by
  obtain ⟨stop, producerDone, consumerDone⟩ := exec_flags s op
  obtain ⟨producerError, consumerError⟩ := exec_errors s op
  -- The flags and errors of a thread change by its own accesses only.
  refine ⟨fun c owner => ?_, fun set => by rw [stop, set, Bool.true_or], ?_, ?_⟩
  · rw [exec_stats, adds_eq_zero (owner ▸ foreign), Nat.add_zero]
  · rintro rfl
    rw [producerDone, producerError]
    cases op <;> simp_all [Op.owner]
  · rintro rfl
    rw [consumerDone, consumerError]
    cases op <;> simp_all [Op.owner]

theorem OwnedBy.foreign {t u : Thread} {op : Op} {todo : List Op} (owned : OwnedBy t (op :: todo))
    (other : t ≠ u) : op.owner ≠ some u := by
  intro same
  rcases owned op List.mem_cons_self with mine | nobody
  · exact other (Option.some.inj (mine.symm.trans same))
  · rw [same] at nobody
    cases nobody

/-- An access of one thread leaves alone what belongs to another. -/
theorem OwnedBy.untouched {t u : Thread} {op : Op} {todo : List Op} (s : Shared cfg)
    (owned : OwnedBy t (op :: todo)) (other : t ≠ u) : Untouched u s (op.exec s) :=
  exec_untouched s (owned.foreign other)

/-- Only the producer pushes into the ring. -/
theorem OwnedBy.ring_eq {t : Thread} {op : Op} {todo : List Op} (s : Shared cfg)
    (owned : OwnedBy t (op :: todo)) (other : t ≠ .producer) :
    (op.exec s).ring.toQueue = s.ring.toQueue := by
  have foreign := owned.foreign other
  rw [exec_ring]
  cases op with
  | pushRing => exact absurd rfl foreign
  | _ => rfl

/-- Only the consumer pushes into the TCP queue. -/
theorem OwnedBy.tcpRing_eq {t : Thread} {op : Op} {todo : List Op} (s : Shared cfg)
    (owned : OwnedBy t (op :: todo)) (other : t ≠ .consumer) :
    (op.exec s).tcpRing.toQueue = s.tcpRing.toQueue := by
  have foreign := owned.foreign other
  rw [exec_tcpRing]
  cases op with
  | pushTcpRing => exact absurd rfl foreign
  | _ => rfl

end V4l2Capture.Pipeline
