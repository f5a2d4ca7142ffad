import V4l2Capture.Pipeline.Shared

/-!
# The consumer thread

Takes frames out of the ring buffer, sorts out the unusable ones, saves the first ones when
asked to and queues the rest for the TCP sender. `ConsumerStep` lists what a step between
two writing accesses can be.
-/
namespace V4l2Capture.Pipeline

/-- Where the consumer is, with the frame it holds. -/
inductive ConsumerCtl where
  | loopHead
  | checkProducerDone
  | checkEmpty
  | pop
  | examine (frame : Frame)
  | loadSaved (frame : Frame)
  | fetchAddSaved (frame : Frame)
  | save (frame : Frame)
  | queue (frame : Frame)
  | finished (saveFailed : Bool)
  deriving DecidableEq, Repr

structure Consumer where
  ctl : ConsumerCtl := .loopHead
  todo : List Op := []
  /-- History: the frames taken out, those found unusable and those handed on. -/
  popped : List Frame := []
  rejected : List Frame := []
  passed : List Frame := []
  deriving DecidableEq, Repr

/-- What the system decides about a step of the consumer: whether saving a frame throws. -/
inductive ConsumerInput where
  | go
  | saved (error : Option String)
  deriving DecidableEq, Repr

/-- Behind a successful `try_pop_oldest`. -/
def Consumer.take (c : Consumer) (frame : Frame) : Consumer :=
  { c with
    ctl := .examine frame
    todo := [.add .consumed 1, .add .consumedBytes frame.bytesused.toNat]
    popped := c.popped ++ [frame] }

def Consumer.examineFrame (cfg : PipelineConfig) (c : Consumer) (frame : Frame) : Consumer :=
  if isFrameUsable frame then
    { c with ctl := if cfg.pipelineSave then .loadSaved frame else .queue frame }
  else
    { c with
      ctl := .loopHead
      todo := [.add .invalid 1]
      rejected := c.rejected ++ [frame] }

def Consumer.queueFrame (cfg : PipelineConfig) (c : Consumer) (frame : Frame) : Consumer :=
  { c with
    ctl := .loopHead
    -- Without TCP the frame is dropped here, and nothing is counted.
    todo := if cfg.tcpEnabled then [.pushTcpRing frame, .add .tcpQueued 1] else []
    passed := c.passed ++ [frame] }

def Consumer.finish (c : Consumer) : Consumer :=
  { c with ctl := .finished false, todo := [.setConsumerDone] }

def Consumer.fail (c : Consumer) (message : String) : Consumer :=
  { c with
    ctl := .finished true
    todo := [.setConsumerError message, .setConsumerDone, .requestStop] }

/-- What the consumer does when it has no writing access left to make. -/
def consumerControl (cfg : PipelineConfig) (shared : Shared cfg) (c : Consumer)
    (input : ConsumerInput) : Option (Shared cfg × Consumer) :=
  match c.ctl, input with
  | .loopHead, .go =>
    some (shared, if shared.stopRequested then c.finish else { c with ctl := .checkProducerDone })
  -- `!producer_done || !ring.empty()`: the second operand is a step of its own.
  | .checkProducerDone, .go =>
    some (shared, { c with ctl := if shared.producerDone then .checkEmpty else .pop })
  | .checkEmpty, .go =>
    some (shared, if shared.ring.empty then c.finish else { c with ctl := .pop })
  | .pop, .go =>
    match shared.ring.tryPopOldest with
    | some (frame, ring) => some ({ shared with ring := ring }, c.take frame)
    -- `wait_for` on the condition variable ends sooner or later.
    | none => some (shared, { c with ctl := .loopHead })
  | .examine frame, .go => some (shared, c.examineFrame cfg frame)
  | .loadSaved frame, .go =>
    some (shared, { c with
      ctl := if shared.stats .saved < cfg.saveLimit then .fetchAddSaved frame else .queue frame })
  -- `fetch_add` returns the old value, which is the index of the file.
  | .fetchAddSaved frame, .go =>
    some (Op.exec shared (.add .saved 1), { c with
      ctl := if shared.stats .saved < cfg.saveLimit then .save frame else .queue frame })
  | .save frame, .saved none => some (shared, { c with ctl := .queue frame })
  | .save _, .saved (some message) => some (shared, c.fail message)
  | .queue frame, .go => some (shared, c.queueFrame cfg frame)
  | _, _ => none

/-- The frame that is held on its way to the queue. -/
@[simp] def ConsumerCtl.saving? : ConsumerCtl → Option Frame
  | .loadSaved frame => some frame
  | .fetchAddSaved frame => some frame
  | .save frame => some frame
  | _ => none

/-- Everything that a step of the consumer can do, to itself and to the shared state. -/
inductive ConsumerStep (cfg : PipelineConfig) (s : Shared cfg) (c : Consumer) :
    Shared cfg → Consumer → Prop
  | stopped (at_head : c.ctl = .loopHead) (stopping : s.stopRequested = true) :
      ConsumerStep cfg s c s c.finish
  | again (at_head : c.ctl = .loopHead) :
      ConsumerStep cfg s c s { c with ctl := .checkProducerDone }
  | producing (at_check : c.ctl = .checkProducerDone) :
      ConsumerStep cfg s c s { c with ctl := .pop }
  | producerDone (at_check : c.ctl = .checkProducerDone) (done : s.producerDone = true) :
      ConsumerStep cfg s c s { c with ctl := .checkEmpty }
  | drained (at_check : c.ctl = .checkEmpty) (empty : s.ring.empty = true) :
      ConsumerStep cfg s c s c.finish
  | left (at_check : c.ctl = .checkEmpty) : ConsumerStep cfg s c s { c with ctl := .pop }
  | popped (at_pop : c.ctl = .pop) (frame : Frame) (ring : RingBuffer Frame cfg.ringCapacity)
      (pop : s.ring.tryPopOldest = some (frame, ring)) :
      ConsumerStep cfg s c { s with ring := ring } (c.take frame)
  | waited (at_pop : c.ctl = .pop) : ConsumerStep cfg s c s { c with ctl := .loopHead }
  | examined (frame : Frame) (at_examine : c.ctl = .examine frame) :
      ConsumerStep cfg s c s (c.examineFrame cfg frame)
  | saving (frame : Frame) (s' : Shared cfg) (ctl : ConsumerCtl)
      (held : c.ctl.saving? = some frame) (kept : ctl.saving? = some frame ∨ ctl = .queue frame)
      (counted : s' = s ∨ s' = Op.exec s (.add .saved 1)) :
      ConsumerStep cfg s c s' { c with ctl := ctl }
  | failed (frame : Frame) (at_save : c.ctl = .save frame) (message : String) :
      ConsumerStep cfg s c s (c.fail message)
  | queued (frame : Frame) (at_queue : c.ctl = .queue frame) :
      ConsumerStep cfg s c s (c.queueFrame cfg frame)

theorem consumerControl_step {cfg : PipelineConfig} {s s' : Shared cfg} {c c' : Consumer}
    {input : ConsumerInput} (step : consumerControl cfg s c input = some (s', c')) :
    ConsumerStep cfg s c s' c' := by
  unfold consumerControl at step
  split at step
  next _ at_head =>
    cases step
    split
    next stopping => exact .stopped at_head stopping
    next => exact .again at_head
  next _ at_check =>
    cases step
    split
    next done => exact .producerDone at_check done
    next => exact .producing at_check
  next _ at_check =>
    cases step
    split
    next empty => exact .drained at_check empty
    next => exact .left at_check
  next _ at_pop =>
    split at step
    next frame ring pop => cases step; exact .popped at_pop frame ring pop
    next => cases step; exact .waited at_pop
  next frame at_examine => cases step; exact .examined frame at_examine
  next frame at_load =>
    cases step
    refine .saving frame _ _ (by rw [at_load]; rfl) ?_ (.inl rfl)
    split <;> simp
  next frame at_add =>
    cases step
    refine .saving frame _ _ (by rw [at_add]; rfl) ?_ (.inr rfl)
    split <;> simp
  next frame at_save =>
    cases step
    exact .saving frame _ _ (by rw [at_save]; rfl) (.inr rfl) (.inl rfl)
  next frame message at_save => cases step; exact .failed frame at_save message
  next frame at_queue => cases step; exact .queued frame at_queue
  next => cases step

/-! ### The invariant of the consumer -/

/-- The frame that the consumer has taken out and not yet disposed of. -/
@[simp] def ConsumerCtl.held : ConsumerCtl → List Frame
  | .examine frame => [frame]
  | .loadSaved frame => [frame]
  | .fetchAddSaved frame => [frame]
  | .save frame => [frame]
  | .queue frame => [frame]
  | _ => []

/-- The consumer lost the frame that it could not save. -/
@[simp] def ConsumerCtl.lost : ConsumerCtl → Nat
  | .finished true => 1
  | _ => 0

@[simp] def ConsumerCtl.isFinished : ConsumerCtl → Bool
  | .finished _ => true
  | _ => false

structure ConsumerInv (cfg : PipelineConfig) (s : Shared cfg) (c : Consumer) : Prop where
  owned : OwnedBy .consumer c.todo
  consumed : s.stats .consumed + adds .consumed c.todo = c.popped.length
  invalid : s.stats .invalid + adds .invalid c.todo = c.rejected.length
  queued : s.stats .tcpQueued + adds .tcpQueued c.todo =
    if cfg.tcpEnabled then c.passed.length else 0
  flow : c.popped.length = c.rejected.length + c.passed.length + c.ctl.held.length + c.ctl.lost
  usable : ∀ frame, c.ctl.saving? = some frame ∨ c.ctl = .queue frame → isFrameUsable frame = true
  order : (c.passed ++ c.ctl.held.filter isFrameUsable).Sublist (c.popped.filter isFrameUsable)
  done : s.consumerDone = true ∨ .setConsumerDone ∈ c.todo → c.ctl.isFinished = true
  quiet : c.ctl.isFinished = true → tcpPushes c.todo = []
  failed : c.ctl = .finished true ↔ s.consumerError.isSome = true ∨
    ∃ text, .setConsumerError text ∈ c.todo
  stops : .requestStop ∈ c.todo → c.ctl = .finished true

theorem ConsumerInv.initial (cfg : PipelineConfig) : ConsumerInv cfg (Shared.initial cfg) {} := by
  constructor <;> simp [Shared.initial]

theorem ConsumerInv.untouched {cfg : PipelineConfig} {s s' : Shared cfg} {c : Consumer}
    (inv : ConsumerInv cfg s c) (same : Untouched .consumer s s') : ConsumerInv cfg s' c := by
  obtain ⟨done, error⟩ := same.consumer rfl
  exact { inv with
    consumed := by rw [same.stats _ rfl]; exact inv.consumed
    invalid := by rw [same.stats _ rfl]; exact inv.invalid
    queued := by rw [same.stats _ rfl]; exact inv.queued
    done := by rw [done]; exact inv.done
    failed := by rw [error]; exact inv.failed }

/-- The consumer makes its next access. -/
theorem ConsumerInv.exec {cfg : PipelineConfig} {s : Shared cfg} {c : Consumer} {op : Op}
    {rest : List Op} (inv : ConsumerInv cfg s c) (next : c.todo = op :: rest) :
    ConsumerInv cfg (op.exec s) { c with todo := rest } := by
  obtain ⟨_, _, done⟩ := exec_flags s op
  obtain ⟨_, error⟩ := exec_errors s op
  have counted : ∀ counter, (op.exec s).stats counter + adds counter rest =
      s.stats counter + adds counter c.todo := by
    intro counter
    rw [exec_adds, next]
  obtain ⟨now, earlier⟩ := mem_of_next next
  have owned := inv.owned
  rw [next] at owned
  exact { inv with
    owned := ((ownedBy_cons _ _ _).mp owned).2
    consumed := by rw [counted]; exact inv.consumed
    invalid := by rw [counted]; exact inv.invalid
    queued := by rw [counted]; exact inv.queued
    done := by
      rw [done, Bool.or_eq_true, beq_iff_eq]
      rintro ((set | rfl) | member)
      · exact inv.done (.inl set)
      · exact inv.done (.inr now)
      · exact inv.done (.inr (earlier _ member))
    quiet := fun finished => by
      have quiet := inv.quiet finished
      rw [next, tcpPushes_cons] at quiet
      exact (List.append_eq_nil_iff.mp quiet).2
    failed := by
      rw [inv.failed, error, next]
      cases op <;> simp
    stops := fun member => inv.stops (earlier _ member) }

/-- What the invariant says while no access is left to make. -/
theorem ConsumerInv.idle {cfg : PipelineConfig} {s : Shared cfg} {c : Consumer}
    (inv : ConsumerInv cfg s c) (idle : c.todo = []) (running : c.ctl.isFinished = false) :
    s.stats .consumed = c.popped.length ∧ s.stats .invalid = c.rejected.length ∧
      s.stats .tcpQueued = (if cfg.tcpEnabled then c.passed.length else 0) ∧
      s.consumerDone = false ∧ s.consumerError = none ∧ c.ctl.lost = 0 := by
  have consumed := inv.consumed
  have invalid := inv.invalid
  have queued := inv.queued
  rw [idle, adds_nil, Nat.add_zero] at consumed invalid queued
  refine ⟨consumed, invalid, queued, ?_, ?_, ?_⟩
  -- Flag and error are only set behind the loop.
  · cases set : s.consumerDone with
    | false => rfl
    | true => rw [inv.done (.inl set)] at running; cases running
  · cases set : s.consumerError with
    | none => rfl
    | some text =>
      have finished := inv.failed.mpr (.inl (by rw [set]; rfl))
      rw [finished] at running
      cases running
  · cases ctl : c.ctl with
    | finished => rw [ctl] at running; cases running
    | _ => rfl

/-- Going on with the frame in hand, or with none. -/
theorem ConsumerInv.move {cfg : PipelineConfig} {s : Shared cfg} {c : Consumer}
    (inv : ConsumerInv cfg s c) (idle : c.todo = []) (running : c.ctl.isFinished = false)
    {ctl : ConsumerCtl} (running' : ctl.isFinished = false) (held : ctl.held = c.ctl.held)
    (usable : ∀ frame, ctl.saving? = some frame ∨ ctl = .queue frame → isFrameUsable frame = true) :
    ConsumerInv cfg s { c with ctl := ctl } := by
  obtain ⟨_, _, _, notDone, noError, lost⟩ := inv.idle idle running
  have lost' : ctl.lost = 0 := by
    cases ctl with
    | finished => cases running'
    | _ => rfl
  have notFailed : ctl ≠ .finished true := by
    rintro rfl
    cases running'
  exact { inv with
    flow := by rw [held, lost', ← lost]; exact inv.flow
    usable := usable
    order := by rw [held]; exact inv.order
    done := by simp [notDone, idle]
    quiet := fun finished => by rw [running'] at finished; cases finished
    failed := by simp [notFailed, noError, idle]
    stops := by simp [idle] }

theorem ConsumerInv.countSaved {cfg : PipelineConfig} {s : Shared cfg} {c : Consumer}
    (inv : ConsumerInv cfg s c) : ConsumerInv cfg (Op.exec s (.add .saved 1)) c :=
  { inv with
    consumed := by rw [exec_stats]; exact inv.consumed
    invalid := by rw [exec_stats]; exact inv.invalid
    queued := by rw [exec_stats]; exact inv.queued }

theorem held_of_saving {ctl : ConsumerCtl} {frame : Frame} (saving : ctl.saving? = some frame) :
    ctl.held = [frame] ∧ ctl.isFinished = false := by
  cases ctl <;> simp_all

theorem ConsumerInv.examine {cfg : PipelineConfig} {s : Shared cfg} {c : Consumer}
    (inv : ConsumerInv cfg s c) (idle : c.todo = []) {frame : Frame}
    (at_examine : c.ctl = .examine frame) : ConsumerInv cfg s (c.examineFrame cfg frame) := by
  have running : c.ctl.isFinished = false := by rw [at_examine]; rfl
  rw [Consumer.examineFrame]
  split
  next good =>
    split
    · refine inv.move idle running rfl (by rw [at_examine]; rfl) ?_
      rintro other (saving | queue)
      · cases saving; exact good
      · cases queue
    · refine inv.move idle running rfl (by rw [at_examine]; rfl) ?_
      rintro other (saving | queue)
      · cases saving
      · cases queue; exact good
  -- The filter removes the frame from the taken ones, so the order is kept.
  next bad =>
    obtain ⟨consumed, invalid, queued, notDone, noError, _⟩ := inv.idle idle running
    have flow := inv.flow
    have order := inv.order
    rw [at_examine] at flow order
    simp only [ConsumerCtl.held, ConsumerCtl.lost, List.length_singleton] at flow
    simp only [ConsumerCtl.held, List.filter_cons, bad] at order
    exact {
      owned := by simp
      consumed := by simpa using consumed
      invalid := by simpa using invalid
      queued := by simpa using queued
      flow := by simp only [List.length_append, List.length_singleton, ConsumerCtl.held,
        List.length_nil, ConsumerCtl.lost]; omega
      usable := by simp
      order := by simpa using order
      done := by simp [notDone]
      quiet := by simp
      failed := by simp [noError]
      stops := by simp }

theorem ConsumerInv.queue {cfg : PipelineConfig} {s : Shared cfg} {c : Consumer}
    (inv : ConsumerInv cfg s c) (idle : c.todo = []) {frame : Frame}
    (at_queue : c.ctl = .queue frame) : ConsumerInv cfg s (c.queueFrame cfg frame) := by
  obtain ⟨consumed, invalid, queued, notDone, noError, _⟩ :=
    inv.idle idle (by rw [at_queue]; rfl)
  have flow := inv.flow
  have order := inv.order
  rw [at_queue] at flow order
  simp only [ConsumerCtl.held, ConsumerCtl.lost, List.length_singleton] at flow
  simp only [ConsumerCtl.held, List.filter_cons, inv.usable frame (.inr at_queue)] at order
  have shared : OwnedBy .consumer (c.queueFrame cfg frame).todo ∧
      adds .consumed (c.queueFrame cfg frame).todo = 0 ∧
      adds .invalid (c.queueFrame cfg frame).todo = 0 ∧
      adds .tcpQueued (c.queueFrame cfg frame).todo = (if cfg.tcpEnabled then 1 else 0) := by
    rw [Consumer.queueFrame]
    split <;> simp
  obtain ⟨owned, none, none', one⟩ := shared
  exact {
    owned := owned
    consumed := by rw [none]; exact consumed
    invalid := by rw [none']; exact invalid
    queued := by
      rw [one, queued, Consumer.queueFrame]
      split <;> simp
    flow := by
      simp only [Consumer.queueFrame, List.length_append, List.length_singleton,
        ConsumerCtl.held, List.length_nil, ConsumerCtl.lost]
      omega
    usable := by simp [Consumer.queueFrame]
    order := by simpa [Consumer.queueFrame] using order
    done := by
      rw [notDone, Consumer.queueFrame]
      split <;> simp
    quiet := by simp [Consumer.queueFrame]
    failed := by
      rw [noError, Consumer.queueFrame]
      split <;> simp
    stops := by
      rw [Consumer.queueFrame]
      split <;> simp }

theorem ConsumerStep.running {cfg : PipelineConfig} {s s' : Shared cfg} {c c' : Consumer}
    (step : ConsumerStep cfg s c s' c') : c.ctl.isFinished = false := by
  cases step with
  | saving _ _ _ held => exact (held_of_saving held).2
  | _ => simp [*]

theorem ConsumerInv.control {cfg : PipelineConfig} {s s' : Shared cfg} {c c' : Consumer}
    (inv : ConsumerInv cfg s c) (idle : c.todo = []) (step : ConsumerStep cfg s c s' c') :
    ConsumerInv cfg s' c' := by
  have running := step.running
  obtain ⟨consumed, invalid, queued, notDone, noError, lost⟩ := inv.idle idle running
  have flow := inv.flow
  have order := inv.order
  cases step with
  | again at_head => exact inv.move idle running rfl (by rw [at_head]; rfl) (by simp)
  | producing at_check => exact inv.move idle running rfl (by rw [at_check]; rfl) (by simp)
  | producerDone at_check => exact inv.move idle running rfl (by rw [at_check]; rfl) (by simp)
  | left at_check => exact inv.move idle running rfl (by rw [at_check]; rfl) (by simp)
  | waited at_pop => exact inv.move idle running rfl (by rw [at_pop]; rfl) (by simp)
  | examined frame at_examine => exact inv.examine idle at_examine
  | queued frame at_queue => exact inv.queue idle at_queue
  | saving frame s' ctl held kept counted =>
    have counted : ConsumerInv cfg s' c := by
      rcases counted with rfl | rfl
      · exact inv
      · exact inv.countSaved
    have good := inv.usable frame (.inl held)
    rcases kept with saving | rfl
    · refine counted.move idle running (held_of_saving saving).2
        (by rw [(held_of_saving saving).1, (held_of_saving held).1]) ?_
      rintro other (same | rfl)
      · cases saving.symm.trans same; exact good
      · cases saving
    · refine counted.move idle running rfl (held_of_saving held).1.symm ?_
      rintro other (saving | same)
      · cases saving
      · cases same; exact good
  | stopped at_head stopping =>
    rw [at_head] at flow order
    constructor <;> simp_all [Consumer.finish]
  | drained at_check empty =>
    rw [at_check] at flow order
    constructor <;> simp_all [Consumer.finish]
  | popped at_pop frame ring pop =>
    rw [at_pop] at flow order
    constructor <;> simp_all [Consumer.take]
  -- The frame in hand is lost; what was handed on before is still in order.
  | failed frame at_save message =>
    rw [at_save] at flow order
    have order := (List.sublist_append_left _ _).trans order
    constructor <;> simp_all [Consumer.fail]

/-! ### What a step does to the queues -/

section Steps

variable {cfg : PipelineConfig} {s s' : Shared cfg} {c c' : Consumer}

theorem ConsumerStep.shared_eq (step : ConsumerStep cfg s c s' c') :
    s' = { s with ring := s'.ring, stats := s'.stats } ∧
      ∀ counter, counter.owner ≠ .consumer → s'.stats counter = s.stats counter := by
  cases step with
  | saving _ _ _ _ _ counted =>
    rcases counted with rfl | rfl
    · exact ⟨rfl, fun _ _ => rfl⟩
    · refine ⟨rfl, fun counter foreign => ?_⟩
      have other : Counter.saved ≠ counter := by
        rintro rfl
        exact foreign rfl
      rw [exec_stats, Op.adds, if_neg other, Nat.add_zero]
  | _ => exact ⟨rfl, fun _ _ => rfl⟩

theorem ConsumerStep.untouched (step : ConsumerStep cfg s c s' c') {t : Thread}
    (other : t ≠ .consumer) : Untouched t s s' := by
  obtain ⟨same, stats⟩ := step.shared_eq
  refine ⟨fun counter owner => stats counter (owner ▸ other), ?_, ?_, ?_⟩
  · rw [same]; exact id
  · rw [same]; exact fun _ => ⟨rfl, rfl⟩
  · exact fun consumer => absurd consumer other

/-- A step takes the oldest frame out of the ring, or leaves it alone. -/
theorem ConsumerStep.pops (step : ConsumerStep cfg s c s' c') :
    (c'.popped = c.popped ∧ s'.ring = s.ring) ∨
      ∃ frame, s.ring.toQueue.pop = some (frame, s'.ring.toQueue) ∧
        c'.popped = c.popped ++ [frame] := by
  cases step with
  | popped at_pop frame ring pop =>
    refine .inr ⟨frame, ?_, rfl⟩
    rw [← RingBuffer.toQueue_tryPopOldest, pop]
    rfl
  | examined =>
    rw [Consumer.examineFrame]
    split <;> exact .inl ⟨rfl, rfl⟩
  | saving _ _ _ _ _ counted => rcases counted with rfl | rfl <;> exact .inl ⟨rfl, rfl⟩
  | _ => exact .inl ⟨rfl, rfl⟩

/-- A step is about to push what it hands on. -/
theorem ConsumerStep.pushes (step : ConsumerStep cfg s c s' c') (idle : c.todo = []) :
    (if cfg.tcpEnabled then c'.passed else []) =
      (if cfg.tcpEnabled then c.passed else []) ++ tcpPushes c'.todo := by
  cases step with
  | examined frame =>
    have kept : (c.examineFrame cfg frame).passed = c.passed ∧
        tcpPushes (c.examineFrame cfg frame).todo = [] := by
      rw [Consumer.examineFrame]
      split <;> simp [idle]
    rw [kept.1, kept.2, List.append_nil]
  | queued =>
    rw [Consumer.queueFrame]
    split <;> simp
  | _ => simp [Consumer.finish, Consumer.take, Consumer.fail, idle]

/-- The consumer ends in order when it sees a stop, or an empty ring behind the producer. -/
theorem ConsumerStep.ends (step : ConsumerStep cfg s c s' c') (at_end : c'.ctl = .finished false) :
    s.stopRequested = true ∨ (c.ctl = .checkEmpty ∧ s.ring.empty = true) ∧ s'.ring = s.ring := by
  cases step with
  | stopped _ stopping => exact .inl stopping
  | drained at_check empty => exact .inr ⟨⟨at_check, empty⟩, rfl⟩
  | examined =>
    rw [Consumer.examineFrame] at at_end
    split at at_end
    · split at at_end <;> cases at_end
    · cases at_end
  | saving _ _ ctl _ kept =>
    have at_end : ctl = .finished false := at_end
    subst at_end
    rcases kept with saving | queue
    · cases saving
    · cases queue
  | _ => cases at_end

theorem ConsumerStep.checks (step : ConsumerStep cfg s c s' c') (at_check : c'.ctl = .checkEmpty) :
    s.producerDone = true := by
  cases step with
  | producerDone _ done => exact done
  | examined =>
    rw [Consumer.examineFrame] at at_check
    split at at_check
    · split at at_check <;> cases at_check
    · cases at_check
  | saving _ _ ctl _ kept =>
    have at_check : ctl = .checkEmpty := at_check
    subst at_check
    rcases kept with saving | queue
    · cases saving
    · cases queue
  | _ => cases at_check

end Steps

end V4l2Capture.Pipeline
