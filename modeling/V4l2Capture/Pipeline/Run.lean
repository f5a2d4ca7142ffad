import V4l2Capture.Library.DropQueue
import V4l2Capture.Library.Transition
import V4l2Capture.Pipeline.Consumer
import V4l2Capture.Pipeline.Producer
import V4l2Capture.Pipeline.Sender

/-!
# The pipeline

`run_pipeline` from the start of its threads to the rethrow of their errors. The threads
take their steps in any order; a thread either makes its next writing access or, when it
has none left to make, decides how it goes on. `PipelineInv` holds in every state that is
reached.
-/
namespace V4l2Capture.Pipeline

open Camera DropQueue Transition

structure PipelineState (cfg : PipelineConfig) where
  shared : Shared cfg
  producer : Producer
  consumer : Consumer
  sender : Sender

/-- The threads are started, on a camera that was set up. -/
def PipelineState.initial (cfg : PipelineConfig) (camera : CameraDevice) : PipelineState cfg where
  shared := Shared.initial cfg
  producer := { camera := camera }
  consumer := {}
  sender := Sender.initial cfg

inductive Action where
  | producerAccess
  | producer (input : ProducerInput)
  | consumerAccess
  | consumer (input : ConsumerInput)
  | senderAccess
  | sender (input : SenderInput)

variable {cfg : PipelineConfig}

def PipelineState.step (s : PipelineState cfg) : Action → Option (PipelineState cfg)
  | .producerAccess =>
    match s.producer.todo with
    | [] => none
    | op :: rest =>
      some { s with shared := op.exec s.shared, producer := { s.producer with todo := rest } }
  | .producer input =>
    if s.producer.todo = [] then
      (producerControl cfg s.shared s.producer input).map fun producer =>
        { s with producer := producer }
    else none
  | .consumerAccess =>
    match s.consumer.todo with
    | [] => none
    | op :: rest =>
      some { s with shared := op.exec s.shared, consumer := { s.consumer with todo := rest } }
  | .consumer input =>
    if s.consumer.todo = [] then
      (consumerControl cfg s.shared s.consumer input).map fun (shared, consumer) =>
        { s with shared := shared, consumer := consumer }
    else none
  | .senderAccess =>
    match s.sender.todo with
    | [] => none
    | op :: rest =>
      some { s with shared := op.exec s.shared, sender := { s.sender with todo := rest } }
  | .sender input =>
    if s.sender.todo = [] then
      (senderControl cfg s.shared s.sender input).map fun (shared, sender) =>
        { s with shared := shared, sender := sender }
    else none

/-- The states of all runs. -/
abbrev Reachable (cfg : PipelineConfig) (camera : CameraDevice) (s : PipelineState cfg) : Prop :=
  Reaches PipelineState.step (PipelineState.initial cfg camera) s

/-- All threads are joined. -/
structure PipelineState.Ended (s : PipelineState cfg) : Prop where
  producer : s.producer.ctl.isFinished = true
  producerTodo : s.producer.todo = []
  consumer : s.consumer.ctl.isFinished = true
  consumerTodo : s.consumer.todo = []
  sender : s.sender.ctl.isFinished = true
  senderTodo : s.sender.todo = []

instance (s : PipelineState cfg) : Decidable s.Ended :=
  decidable_of_iff ((s.producer.ctl.isFinished = true ∧ s.producer.todo = []) ∧
      (s.consumer.ctl.isFinished = true ∧ s.consumer.todo = []) ∧
      s.sender.ctl.isFinished = true ∧ s.sender.todo = [])
    ⟨fun ⟨⟨p, p'⟩, ⟨c, c'⟩, t, t'⟩ => ⟨p, p', c, c', t, t'⟩,
      fun ⟨p, p', c, c', t, t'⟩ => ⟨⟨p, p'⟩, ⟨c, c'⟩, t, t'⟩⟩

/-- The end of `run_pipeline`: it rethrows what the threads left behind. -/
def PipelineState.runResult (s : PipelineState cfg) : Except String Unit :=
  -- The order of the rethrows: producer, consumer, then a failed connection.
  match s.shared.producerError with
  | some text => .error text
  | none =>
    match s.shared.consumerError with
    | some text => .error text
    | none =>
      if s.shared.stats .tcpSendErrors > 0 then
        .error ("TCP transmission failed: " ++ s.shared.lastError)
      else .ok ()

/-! ### A small run -/

def smallConfig : PipelineConfig where
  frameCount := 1
  ringCapacity := 1
  tcpQueueCapacity := 1
  pipelineSave := false
  saveLimit := 0
  tcpEnabled := true
  tcpSendTimeoutMs := 1000
  cameraRecoveryEnabled := true
  limits := ⟨1, 1, 1, 2, 1, Nat.one_pos, Nat.one_pos, Nat.one_pos, Nat.one_pos⟩
  strerror _ := ""
  frameCount_pos := Nat.one_pos
  ringCapacity_pos := Nat.one_pos
  tcpQueueCapacity_pos := Nat.one_pos

/-- A camera with one buffer, which holds a frame of two pixels. -/
def smallCamera : CameraDevice := ⟨true, true, [4], 2, 1, Protocol.V4L2_PIX_FMT_YUYV⟩

def smallCapture (bytesused : UInt32) : CaptureCalls where
  poll := .ready POLLIN
  dqbuf := .ok ⟨0, bytesused, 0, 0⟩
  qbuf := none
  memory _ := 0
  steadyTimeNs := 0
  systemTimeNs := 1
  strerror _ := ""

/-- The producer captures one frame and ends, the consumer hands it on and ends. -/
def captureOne : List Action :=
  [.producer .go, .producer (.captured (smallCapture 4)), .producerAccess, .producerAccess,
    .producerAccess, .producer .go, .producerAccess,
    .consumer .go, .consumer .go, .consumer .go, .consumer .go, .consumerAccess, .consumerAccess,
    .consumer .go, .consumer .go, .consumerAccess, .consumerAccess,
    .consumer .go, .consumer .go, .consumer .go, .consumerAccess]

/-- The sender takes the frame out and begins to send it. -/
def beginOne : List Action :=
  [.sender .go, .sender .go, .sender .go, .sender (.event (.clock 0)),
    .sender .go, .sender (.event (.clock 0))]

/-- Both parts of the frame are accepted at once. -/
def sendOne : List Action :=
  [.sender (.event (.sendReturned (.accepted 44))), .sender .go, .sender (.event (.clock 0)),
    .sender (.event (.sendReturned (.accepted 4))), .senderAccess, .senderAccess,
    .sender .go, .sender .go]

/-- Part of the header is accepted, then the connection breaks. -/
def breakOne : List Action :=
  [.sender (.event (.sendReturned (.accepted 10))), .sender .go, .sender (.event (.clock 0)),
    .sender (.event (.sendReturned (.failed 104))), .senderAccess, .senderAccess, .senderAccess]

/-! ### Steps -/

inductive PipelineStep (s : PipelineState cfg) : PipelineState cfg → Prop
  | producerAccess (op : Op) (rest : List Op) (next : s.producer.todo = op :: rest) :
      PipelineStep s
        { s with shared := op.exec s.shared, producer := { s.producer with todo := rest } }
  | producer (idle : s.producer.todo = []) (producer : Producer)
      (step : ProducerStep cfg s.shared.stopRequested s.producer producer) :
      PipelineStep s { s with producer := producer }
  | consumerAccess (op : Op) (rest : List Op) (next : s.consumer.todo = op :: rest) :
      PipelineStep s
        { s with shared := op.exec s.shared, consumer := { s.consumer with todo := rest } }
  | consumer (idle : s.consumer.todo = []) (shared : Shared cfg) (consumer : Consumer)
      (step : ConsumerStep cfg s.shared s.consumer shared consumer) :
      PipelineStep s { s with shared := shared, consumer := consumer }
  | senderAccess (op : Op) (rest : List Op) (next : s.sender.todo = op :: rest) :
      PipelineStep s
        { s with shared := op.exec s.shared, sender := { s.sender with todo := rest } }
  | sender (idle : s.sender.todo = []) (shared : Shared cfg) (sender : Sender)
      (step : SenderStep cfg s.shared s.sender shared sender) :
      PipelineStep s { s with shared := shared, sender := sender }

theorem PipelineState.step_cases {s s' : PipelineState cfg} {action : Action}
    (step : s.step action = some s') : PipelineStep s s' := by
  cases action with
  | producerAccess =>
    simp only [PipelineState.step] at step
    split at step
    · cases step
    next op rest next => cases step; exact .producerAccess op rest next
  | producer input =>
    simp only [PipelineState.step] at step
    split at step
    next idle =>
      obtain ⟨producer, taken, rfl⟩ := Option.map_eq_some_iff.mp step
      exact .producer idle producer (producerControl_step taken)
    · cases step
  | consumerAccess =>
    simp only [PipelineState.step] at step
    split at step
    · cases step
    next op rest next => cases step; exact .consumerAccess op rest next
  | consumer input =>
    simp only [PipelineState.step] at step
    split at step
    next idle =>
      obtain ⟨⟨shared, consumer⟩, taken, rfl⟩ := Option.map_eq_some_iff.mp step
      exact .consumer idle shared consumer (consumerControl_step taken)
    · cases step
  | senderAccess =>
    simp only [PipelineState.step] at step
    split at step
    · cases step
    next op rest next => cases step; exact .senderAccess op rest next
  | sender input =>
    simp only [PipelineState.step] at step
    split at step
    next idle =>
      obtain ⟨⟨shared, sender⟩, taken, rfl⟩ := Option.map_eq_some_iff.mp step
      exact .sender idle shared sender (senderControl_step taken)
    · cases step

/-! ### The invariant -/

/-- A thread ended with an error that `run_pipeline` reports. -/
def PipelineState.Failed (s : PipelineState cfg) : Prop :=
  s.producer.ctl.failed = true ∨ s.consumer.ctl = .finished true ∨
    s.sender.ctl = .finished .failed

/-- What the consumer hands on to the TCP queue. -/
def PipelineState.handedOn (s : PipelineState cfg) : List Frame :=
  if cfg.tcpEnabled then s.consumer.passed else []

structure PipelineInv (s : PipelineState cfg) : Prop where
  producer : ProducerInv cfg s.shared s.producer
  consumer : ConsumerInv cfg s.shared s.consumer
  sender : SenderInv cfg s.shared s.sender
  ring : Channel s.consumer.popped s.shared.ring.toQueue (ringPushes s.producer.todo)
    s.producer.captured
  tcpRing : Channel s.sender.popped s.shared.tcpRing.toQueue (tcpPushes s.consumer.todo) s.handedOn
  stop : s.shared.stopRequested = true → s.Failed
  checking : s.consumer.ctl = .checkEmpty → s.shared.producerDone = true
  drained : s.consumer.ctl = .finished false → s.shared.stopRequested = true ∨
    s.shared.producerDone = true ∧ s.shared.ring.toQueue.items = []
  tcpChecking : s.sender.ctl = .checkEmpty → s.shared.consumerDone = true
  tcpDrained : s.sender.ctl = .finished .drained →
    s.shared.consumerDone = true ∧ s.shared.tcpRing.toQueue.items = []

theorem PipelineInv.initial (cfg : PipelineConfig) (camera : CameraDevice) :
    PipelineInv (PipelineState.initial cfg camera) where
  producer := ProducerInv.initial cfg camera
  consumer := ConsumerInv.initial cfg
  sender := SenderInv.initial cfg
  ring := by
    show Channel [] (RingBuffer.new _).toQueue [] []
    rw [RingBuffer.toQueue_new]
    exact Channel.empty
  tcpRing := by
    have none : (PipelineState.initial cfg camera).handedOn = [] := by
      simp [PipelineState.handedOn, PipelineState.initial]
    rw [none]
    show Channel (Sender.initial cfg).popped (RingBuffer.new _).toQueue [] []
    rw [RingBuffer.toQueue_new]
    exact Channel.empty
  stop set := by cases set
  checking at_check := by cases at_check
  drained at_end := by cases at_end
  tcpChecking at_check := by
    simp only [PipelineState.initial, Sender.initial] at at_check
    split at at_check <;> cases at_check
  tcpDrained at_end := by
    simp only [PipelineState.initial, Sender.initial] at at_end
    split at at_end <;> cases at_end

/-- Flags are only raised, `stop_requested` by an access that is in the list. -/
theorem exec_raises (s : Shared cfg) (op : Op) :
    (s.producerDone = true → (op.exec s).producerDone = true) ∧
      (s.consumerDone = true → (op.exec s).consumerDone = true) ∧
      ((op.exec s).stopRequested = true → s.stopRequested = true ∨ op = .requestStop) ∧
      (s.stopRequested = true → (op.exec s).stopRequested = true) := by
  obtain ⟨stop, producerDone, consumerDone⟩ := exec_flags s op
  rw [stop, producerDone, consumerDone]
  refine ⟨fun set => by rw [set, Bool.true_or], fun set => by rw [set, Bool.true_or],
    fun set => ?_, fun set => by rw [set, Bool.true_or]⟩
  simpa using set

theorem ring_exec {got put : List Frame} {s : Shared cfg} {op : Op} {rest : List Op}
    (channel : Channel got s.ring.toQueue (ringPushes (op :: rest)) put) :
    Channel got (op.exec s).ring.toQueue (ringPushes rest) put := by
  rw [ringPushes_cons] at channel
  rw [exec_ring]
  cases push : op.ringPush? with
  | none => rw [push] at channel; exact channel
  | some frame => rw [push] at channel; exact channel.push cfg.ringCapacity_pos

theorem tcpRing_exec {got put : List Frame} {s : Shared cfg} {op : Op} {rest : List Op}
    (channel : Channel got s.tcpRing.toQueue (tcpPushes (op :: rest)) put) :
    Channel got (op.exec s).tcpRing.toQueue (tcpPushes rest) put := by
  rw [tcpPushes_cons] at channel
  rw [exec_tcpRing]
  cases push : op.tcpPush? with
  | none => rw [push] at channel; exact channel
  | some frame => rw [push] at channel; exact channel.push cfg.tcpQueueCapacity_pos

/-- A finished producer pushes nothing any more. -/
theorem ring_quiet {s : Shared cfg} {op : Op} {rest : List Op}
    (quiet : ringPushes (op :: rest) = []) : (op.exec s).ring.toQueue = s.ring.toQueue := by
  rw [ringPushes_cons, List.append_eq_nil_iff, Option.toList_eq_nil_iff] at quiet
  rw [exec_ring, quiet.1]

theorem tcpRing_quiet {s : Shared cfg} {op : Op} {rest : List Op}
    (quiet : tcpPushes (op :: rest) = []) : (op.exec s).tcpRing.toQueue = s.tcpRing.toQueue := by
  rw [tcpPushes_cons, List.append_eq_nil_iff, Option.toList_eq_nil_iff] at quiet
  rw [exec_tcpRing, quiet.1]

section Steps

variable {s : PipelineState cfg}

/-- An access keeps what relates the threads, as long as it leaves a queue alone whose
pushing thread has declared itself done. -/
theorem PipelineInv.access (inv : PipelineInv s) {s' : PipelineState cfg} {op : Op}
    (shared : s'.shared = op.exec s.shared)
    (places : s'.producer.ctl = s.producer.ctl ∧ s'.consumer.ctl = s.consumer.ctl ∧
      s'.sender.ctl = s.sender.ctl)
    (producer : ProducerInv cfg s'.shared s'.producer)
    (consumer : ConsumerInv cfg s'.shared s'.consumer)
    (sender : SenderInv cfg s'.shared s'.sender)
    (ring : Channel s'.consumer.popped s'.shared.ring.toQueue (ringPushes s'.producer.todo)
      s'.producer.captured)
    (tcpRing : Channel s'.sender.popped s'.shared.tcpRing.toQueue (tcpPushes s'.consumer.todo)
      s'.handedOn)
    (stops : op = .requestStop → s.Failed)
    (quiet : s.shared.producerDone = true → s'.shared.ring.toQueue = s.shared.ring.toQueue)
    (tcpQuiet : s.shared.consumerDone = true →
      s'.shared.tcpRing.toQueue = s.shared.tcpRing.toQueue) : PipelineInv s' := by
  obtain ⟨producerDone, consumerDone, stop, stays⟩ := exec_raises s.shared op
  rw [← shared] at producerDone consumerDone stop stays
  obtain ⟨producerCtl, consumerCtl, senderCtl⟩ := places
  exact {
    producer := producer
    consumer := consumer
    sender := sender
    ring := ring
    tcpRing := tcpRing
    stop := fun set => by
      rw [PipelineState.Failed, producerCtl, consumerCtl, senderCtl]
      exact (stop set).elim inv.stop stops
    checking := fun at_check => producerDone (inv.checking (by rw [← consumerCtl, at_check]))
    drained := fun at_end => by
      rw [consumerCtl] at at_end
      rcases inv.drained at_end with set | ⟨done, empty⟩
      · exact .inl (stays set)
      · exact .inr ⟨producerDone done, by rw [quiet done]; exact empty⟩
    tcpChecking := fun at_check =>
      consumerDone (inv.tcpChecking (by rw [← senderCtl, at_check]))
    tcpDrained := fun at_end => by
      rw [senderCtl] at at_end
      obtain ⟨done, empty⟩ := inv.tcpDrained at_end
      exact ⟨consumerDone done, by rw [tcpQuiet done]; exact empty⟩ }

theorem PipelineInv.producerAccess (inv : PipelineInv s) {op : Op} {rest : List Op}
    (next : s.producer.todo = op :: rest) :
    PipelineInv
      { s with shared := op.exec s.shared, producer := { s.producer with todo := rest } } := by
  have owned := inv.producer.owned
  rw [next] at owned
  have ring := inv.ring
  rw [next] at ring
  have tcpRing := owned.tcpRing_eq s.shared nofun
  refine inv.access rfl ⟨rfl, rfl, rfl⟩ (inv.producer.exec next)
    (inv.consumer.untouched (owned.untouched _ nofun))
    (inv.sender.untouched (owned.untouched _ nofun)) (ring_exec ring) ?_ ?_ ?_ fun _ => tcpRing
  · show Channel _ (op.exec s.shared).tcpRing.toQueue _ _
    rw [tcpRing]
    exact inv.tcpRing
  · rintro rfl
    exact .inl (inv.producer.stops (mem_of_next next).1)
  · intro done
    have quiet := inv.producer.quiet (inv.producer.done (.inl done))
    rw [next] at quiet
    exact ring_quiet quiet

theorem PipelineInv.consumerAccess (inv : PipelineInv s) {op : Op} {rest : List Op}
    (next : s.consumer.todo = op :: rest) :
    PipelineInv
      { s with shared := op.exec s.shared, consumer := { s.consumer with todo := rest } } := by
  have owned := inv.consumer.owned
  rw [next] at owned
  have tcpRing := inv.tcpRing
  rw [next] at tcpRing
  have ring := owned.ring_eq s.shared nofun
  refine inv.access rfl ⟨rfl, rfl, rfl⟩ (inv.producer.untouched (owned.untouched _ nofun))
    (inv.consumer.exec next) (inv.sender.untouched (owned.untouched _ nofun)) ?_
    (tcpRing_exec tcpRing) ?_ (fun _ => ring) ?_
  · show Channel _ (op.exec s.shared).ring.toQueue _ _
    rw [ring]
    exact inv.ring
  · rintro rfl
    exact .inr (.inl (inv.consumer.stops (mem_of_next next).1))
  · intro done
    have quiet := inv.consumer.quiet (inv.consumer.done (.inl done))
    rw [next] at quiet
    exact tcpRing_quiet quiet

theorem PipelineInv.senderAccess (inv : PipelineInv s) {op : Op} {rest : List Op}
    (next : s.sender.todo = op :: rest) :
    PipelineInv
      { s with shared := op.exec s.shared, sender := { s.sender with todo := rest } } := by
  have owned := inv.sender.owned
  rw [next] at owned
  have ring := owned.ring_eq s.shared nofun
  have tcpRing := owned.tcpRing_eq s.shared nofun
  refine inv.access rfl ⟨rfl, rfl, rfl⟩ (inv.producer.untouched (owned.untouched _ nofun))
    (inv.consumer.untouched (owned.untouched _ nofun)) (inv.sender.exec next) ?_ ?_ ?_
    (fun _ => ring) fun _ => tcpRing
  · show Channel _ (op.exec s.shared).ring.toQueue _ _
    rw [ring]
    exact inv.ring
  · show Channel _ (op.exec s.shared).tcpRing.toQueue _ _
    rw [tcpRing]
    exact inv.tcpRing
  · rintro rfl
    exact .inr (.inr (inv.sender.stops (mem_of_next next).1))

theorem PipelineInv.producerControl (inv : PipelineInv s) (idle : s.producer.todo = [])
    {producer : Producer} (step : ProducerStep cfg s.shared.stopRequested s.producer producer) :
    PipelineInv { s with producer := producer } := by
  have ring := inv.ring.put (ringPushes producer.todo)
  rw [idle, ← step.pushes idle] at ring
  exact { inv with
    producer := inv.producer.control idle step
    ring := ring
    stop := fun set => by
      -- A producer that takes steps has not failed, so another thread has.
      rcases inv.stop set with failed | other
      · have running := step.running
        cases ctl : s.producer.ctl with
        | finished => rw [ctl] at running; cases running
        | _ => rw [ctl] at failed; cases failed
      · exact .inr other }

theorem PipelineInv.consumerControl (inv : PipelineInv s) (idle : s.consumer.todo = [])
    {shared : Shared cfg} {consumer : Consumer}
    (step : ConsumerStep cfg s.shared s.consumer shared consumer) :
    PipelineInv { s with shared := shared, consumer := consumer } := by
  obtain ⟨same, _⟩ := step.shared_eq
  have stop : shared.stopRequested = s.shared.stopRequested := by rw [same]
  have producerDone : shared.producerDone = s.shared.producerDone := by rw [same]
  have consumerDone : shared.consumerDone = s.shared.consumerDone := by rw [same]
  have tcpSame : shared.tcpRing = s.shared.tcpRing := by rw [same]
  have running := step.running
  have unfinished : ∀ saveFailed, s.consumer.ctl ≠ .finished saveFailed := fun _ at_end => by
    rw [at_end] at running
    cases running
  have tcpRing := inv.tcpRing.put (tcpPushes consumer.todo)
  rw [idle] at tcpRing
  exact {
    producer := inv.producer.untouched (step.untouched nofun)
    consumer := inv.consumer.control idle step
    sender := inv.sender.untouched (step.untouched nofun)
    ring := by
      rcases step.pops with ⟨popped, ring⟩ | ⟨frame, pop, popped⟩
      · show Channel consumer.popped shared.ring.toQueue _ _
        rw [popped, ring]
        exact inv.ring
      · show Channel consumer.popped shared.ring.toQueue _ _
        rw [popped]
        exact inv.ring.pop pop
    tcpRing := by
      show Channel _ shared.tcpRing.toQueue _ (if cfg.tcpEnabled then consumer.passed else [])
      rw [tcpSame, step.pushes idle]
      exact tcpRing
    stop := fun set => by
      rw [stop] at set
      rcases inv.stop set with failed | failed | failed
      · exact .inl failed
      · exact absurd failed (unfinished _)
      · exact .inr (.inr failed)
    checking := fun at_check => by
      show shared.producerDone = true
      rw [producerDone]
      exact step.checks at_check
    drained := fun at_end => by
      show shared.stopRequested = true ∨ shared.producerDone = true ∧ _
      rw [stop, producerDone]
      -- The flag was loaded before the ring, and behind the flag nothing is pushed.
      rcases step.ends at_end with stopping | ⟨⟨at_check, empty⟩, ring⟩
      · exact .inl stopping
      · refine .inr ⟨inv.checking at_check, ?_⟩
        show shared.ring.toQueue.items = []
        rw [ring]
        exact s.shared.ring.empty_iff.mp empty
    tcpChecking := fun at_check => by
      show shared.consumerDone = true
      rw [consumerDone]
      exact inv.tcpChecking at_check
    tcpDrained := fun at_end => by
      show shared.consumerDone = true ∧ shared.tcpRing.toQueue.items = []
      rw [consumerDone, tcpSame]
      exact inv.tcpDrained at_end }

theorem PipelineInv.senderControl (inv : PipelineInv s) (idle : s.sender.todo = [])
    {shared : Shared cfg} {sender : Sender}
    (step : SenderStep cfg s.shared s.sender shared sender) :
    PipelineInv { s with shared := shared, sender := sender } := by
  have same := step.shared_eq
  have stop : shared.stopRequested = s.shared.stopRequested := by rw [same]
  have producerDone : shared.producerDone = s.shared.producerDone := by rw [same]
  have consumerDone : shared.consumerDone = s.shared.consumerDone := by rw [same]
  have ringSame : shared.ring = s.shared.ring := by rw [same]
  exact {
    producer := inv.producer.untouched (step.untouched _)
    consumer := inv.consumer.untouched (step.untouched _)
    sender := inv.sender.control idle step
    ring := by
      show Channel _ shared.ring.toQueue _ _
      rw [ringSame]
      exact inv.ring
    tcpRing := by
      show Channel sender.popped shared.tcpRing.toQueue _ _
      rcases step.pops with ⟨popped, ring⟩ | ⟨frame, pop, popped⟩
      · rw [popped, ring]
        exact inv.tcpRing
      · rw [popped]
        exact inv.tcpRing.pop pop
    stop := fun set => by
      rw [stop] at set
      rcases inv.stop set with failed | failed | failed
      · exact .inl failed
      · exact .inr (.inl failed)
      · exact absurd failed (step.running _)
    checking := fun at_check => by
      show shared.producerDone = true
      rw [producerDone]
      exact inv.checking at_check
    drained := fun at_end => by
      show shared.stopRequested = true ∨
        shared.producerDone = true ∧ shared.ring.toQueue.items = []
      rw [stop, producerDone, ringSame]
      exact inv.drained at_end
    tcpChecking := fun at_check => by
      show shared.consumerDone = true
      rw [consumerDone]
      exact step.checks at_check
    tcpDrained := fun at_end => by
      obtain ⟨at_check, empty, rfl⟩ := step.ends at_end
      exact ⟨inv.tcpChecking at_check, s.shared.tcpRing.empty_iff.mp empty⟩ }

theorem PipelineInv.step (inv : PipelineInv s) {s' : PipelineState cfg} (step : PipelineStep s s') :
    PipelineInv s' := by
  cases step with
  | producerAccess op rest next => exact inv.producerAccess next
  | producer idle producer step => exact inv.producerControl idle step
  | consumerAccess op rest next => exact inv.consumerAccess next
  | consumer idle shared consumer step => exact inv.consumerControl idle step
  | senderAccess op rest next => exact inv.senderAccess next
  | sender idle shared sender step => exact inv.senderControl idle step

end Steps

/-- Every interleaving keeps the invariant. -/
theorem reachable_inv {camera : CameraDevice} {s : PipelineState cfg}
    (reached : Reachable cfg camera s) : PipelineInv s :=
  invariant PipelineInv (PipelineInv.initial cfg camera)
    (fun _ _ _ _ inv step => inv.step (PipelineState.step_cases step)) reached

/-- What a step is to the producer: one of its own, or a change that leaves alone what belongs
to it. -/
inductive ProducerSees (s s' : PipelineState cfg) : Prop
  | access (op : Op) (rest : List Op) (next : s.producer.todo = op :: rest)
      (shared : s'.shared = op.exec s.shared)
      (same : s'.producer = { s.producer with todo := rest })
  | control (idle : s.producer.todo = [])
      (step : ProducerStep cfg s.shared.stopRequested s.producer s'.producer)
      (shared : s'.shared = s.shared)
  | foreign (untouched : Untouched .producer s.shared s'.shared) (same : s'.producer = s.producer)

theorem PipelineStep.producerSees {s s' : PipelineState cfg} (inv : PipelineInv s)
    (step : PipelineStep s s') : ProducerSees s s' := by
  cases step with
  | producerAccess op rest next => exact .access op rest next rfl rfl
  | producer idle producer taken => exact .control idle taken rfl
  | consumerAccess op rest next =>
    have owned := inv.consumer.owned
    rw [next] at owned
    exact .foreign (owned.untouched _ nofun) rfl
  | consumer idle shared consumer taken => exact .foreign (taken.untouched nofun) rfl
  | senderAccess op rest next =>
    have owned := inv.sender.owned
    rw [next] at owned
    exact .foreign (owned.untouched _ nofun) rfl
  | sender idle shared sender taken => exact .foreign (taken.untouched _) rfl

/-- What the producer keeps, by its accesses and by its other steps, it keeps in every
interleaving. -/
theorem producer_invariant {camera : CameraDevice} (holds : Shared cfg → Producer → Prop)
    (initially : holds (Shared.initial cfg) { camera := camera })
    (untouched : ∀ s s' p, holds s p → Untouched .producer s s' → holds s' p)
    (exec : ∀ s p op rest, holds s p → p.todo = op :: rest →
      holds (op.exec s) { p with todo := rest })
    (control : ∀ s p p', holds s p → p.todo = [] →
      ProducerStep cfg s.stopRequested p p' → holds s p')
    {s : PipelineState cfg} (reached : Reachable cfg camera s) : holds s.shared s.producer := by
  refine invariant (fun s => holds s.shared s.producer) initially
    (fun s _ s' before kept step => ?_) reached
  cases (PipelineState.step_cases step).producerSees (reachable_inv before) with
  | access op rest next shared same =>
    rw [shared, same]
    exact exec _ _ op rest kept next
  | control idle taken shared =>
    rw [shared]
    exact control _ _ _ kept idle taken
  | foreign changed same =>
    rw [same]
    exact untouched _ _ _ kept changed

end V4l2Capture.Pipeline
