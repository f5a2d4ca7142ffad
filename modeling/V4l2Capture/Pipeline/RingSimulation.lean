import V4l2Capture.Library.Calls
import V4l2Capture.Pipeline.RingBuffer

/-!
# The ring buffer over sequences of calls

`ringCall` is the ring buffer as a caller sees it, with the out-parameter of
`try_pop_oldest`, and `queueCall` the drop-oldest queue under the same calls. One call on
related objects returns the same and keeps them related, so every sequence of calls does.
-/
namespace V4l2Capture.Pipeline

variable {α : Type} {capacity : Nat}

inductive RingCall (α : Type)
  | push (item : α)
  -- The argument is what the caller's variable holds before the call.
  | tryPopOldest (out : α)
  deriving DecidableEq, Repr

inductive RingResult (α : Type)
  | pushed
  -- The returned flag, and what the caller's variable holds after the call.
  | popped (ok : Bool) (out : α)
  deriving DecidableEq, Repr

def ringCall (b : RingBuffer α capacity) : RingCall α → RingResult α × RingBuffer α capacity
  | .push item => (.pushed, b.push item)
  | .tryPopOldest out =>
    match b.tryPopOldest with
    | none => (.popped false out, b)
    | some (item, rest) => (.popped true item, rest)

def queueCall (capacity : Nat) (q : DropQueue.Queue α) :
    RingCall α → RingResult α × DropQueue.Queue α
  | .push item => (.pushed, q.push capacity item)
  | .tryPopOldest out =>
    match q.pop with
    | none => (.popped false out, q)
    | some (item, rest) => (.popped true item, rest)

def RingCall.pushes : RingCall α → Nat
  | push _ => 1
  | tryPopOldest _ => 0

def RingResult.successfulPops : RingResult α → Nat
  | popped true _ => 1
  | _ => 0

/-! ### One call -/

theorem ringCall_simulates (b : RingBuffer α capacity) (call : RingCall α) :
    (ringCall b call).1 = (queueCall capacity b.toQueue call).1 ∧
      (ringCall b call).2.toQueue = (queueCall capacity b.toQueue call).2 := by
  cases call with
  | push item =>
    exact ⟨rfl, b.toQueue_push item⟩
  | tryPopOldest out =>
    have refined := b.toQueue_tryPopOldest
    cases popped : b.tryPopOldest with
    | none =>
      rw [popped, Option.map_none] at refined
      simp only [ringCall, queueCall, popped, ← refined, and_self]
    | some pair =>
      rw [popped, Option.map_some] at refined
      simp only [ringCall, queueCall, popped, ← refined, and_self]

/-- Elements stored and elements dropped together grow by a push and shrink by a pop. -/
theorem ringCall_balance (b : RingBuffer α capacity) (call : RingCall α) :
    ((ringCall b call).2.size + (ringCall b call).2.droppedCount) +
        (ringCall b call).1.successfulPops =
      (b.size + b.droppedCount) + call.pushes := by
  cases call with
  | push item =>
    simp only [ringCall, RingBuffer.push, RingResult.successfulPops, RingCall.pushes]
    by_cases full : b.size = capacity
    · rw [if_pos full, if_pos full]
      omega
    · rw [if_neg full, if_neg full]
      omega
  | tryPopOldest out =>
    by_cases occupied : 0 < b.size
    · simp only [ringCall, RingBuffer.tryPopOldest, occupied, dite_true,
        RingResult.successfulPops, RingCall.pushes]
      omega
    · simp only [ringCall, RingBuffer.tryPopOldest, occupied, dite_false,
        RingResult.successfulPops, RingCall.pushes]

/-! ### What a push and a pop do to the snapshot -/

theorem push_full (b : RingBuffer α capacity) (item : α) (full : b.size = capacity) :
    (b.push item).snapshot = b.snapshot.tail ++ [item] ∧
      (b.push item).droppedCount = b.droppedCount + 1 := by
  constructor
  · rw [snapshot_push, if_pos full]
  · simp [RingBuffer.push, full]

theorem push_space (b : RingBuffer α capacity) (item : α) (space : b.size < capacity) :
    (b.push item).snapshot = b.snapshot ++ [item] ∧
      (b.push item).droppedCount = b.droppedCount := by
  have notFull : b.size ≠ capacity := Nat.ne_of_lt space
  constructor
  · rw [snapshot_push, if_neg notFull]
  · simp [RingBuffer.push, notFull]

theorem pop_empty (b : RingBuffer α capacity) (out : α) (empty : b.size = 0) :
    ringCall b (.tryPopOldest out) = (.popped false out, b) := by
  have nothing : ¬ 0 < b.size := by omega
  simp only [ringCall, RingBuffer.tryPopOldest, nothing, dite_false]

/-- A pop returns the oldest element and leaves the others. -/
theorem pop_occupied (b : RingBuffer α capacity) (out oldest : α) (others : List α)
    (content : b.snapshot = oldest :: others) :
    (ringCall b (.tryPopOldest out)).1 = .popped true oldest ∧
      (ringCall b (.tryPopOldest out)).2.snapshot = others ∧
      (ringCall b (.tryPopOldest out)).2.droppedCount = b.droppedCount := by
  have popped : b.toQueue.pop = some (oldest, ⟨others, b.droppedCount⟩) := by
    simp only [DropQueue.Queue.pop, RingBuffer.toQueue, content]
  obtain ⟨result, rest⟩ := ringCall_simulates b (.tryPopOldest out)
  simp only [queueCall, popped] at result rest
  refine ⟨result, ?_, ?_⟩
  · exact congrArg DropQueue.Queue.items rest
  · exact congrArg DropQueue.Queue.dropped rest

/-! ### Sequences of calls -/

/-- What a ring buffer shows of the abstract queue, and what holds of its own fields. -/
structure RingSimulates (b : RingBuffer α capacity) (q : DropQueue.Queue α) : Prop where
  snapshot : b.snapshot = q.items
  dropped : b.droppedCount = q.dropped
  size : b.size = q.items.length
  bounded : b.size ≤ capacity
  writeIndex : b.writeIndex = (b.readIndex + b.size) % capacity
  /-- Every slot that a snapshot or a pop reads holds a frame. -/
  live : ∀ i < b.size, (slotAt b.slots ((b.readIndex + i) % capacity)).isSome
  /-- The snapshot skips no slot. -/
  positions : b.snapshot.map some =
    (List.range b.size).map fun i => slotAt b.slots ((b.readIndex + i) % capacity)

theorem ringSimulates_toQueue (b : RingBuffer α capacity) : RingSimulates b b.toQueue where
  snapshot := rfl
  dropped := rfl
  size := b.snapshot_length.symm
  bounded := b.size_le
  writeIndex := b.writeIndex_eq
  live := b.live
  positions := b.map_snapshot

theorem run_toQueue (b : RingBuffer α capacity) (calls : List (RingCall α)) :
    (Calls.run ringCall b calls).1 = (Calls.run (queueCall capacity) b.toQueue calls).1 ∧
      (Calls.run ringCall b calls).2.toQueue =
        (Calls.run (queueCall capacity) b.toQueue calls).2 := by
  apply Calls.run_simulates (fun (b : RingBuffer α capacity) q => b.toQueue = q)
  · intro b q call related
    subst related
    exact ringCall_simulates b call
  · rfl

theorem run_ring_balance (positive : 0 < capacity) (calls : List (RingCall α)) :
    let ring := Calls.run ringCall (RingBuffer.new positive) calls
    (calls.map RingCall.pushes).sum = (ring.1.map RingResult.successfulPops).sum +
      ring.2.droppedCount + ring.2.size := by
  have balanced := Calls.run_balance (fun b : RingBuffer α capacity => b.size + b.droppedCount)
    RingCall.pushes RingResult.successfulPops ringCall_balance (RingBuffer.new positive) calls
  have start : (RingBuffer.new positive : RingBuffer α capacity).size +
      (RingBuffer.new positive : RingBuffer α capacity).droppedCount = 0 := rfl
  simp only at balanced ⊢
  omega

/-- Every sequence of calls on a new ring buffer returns what the drop-oldest queue returns
and ends related to it, with all pushed elements accounted for; the calls that may come next
behave as the queue's do. -/
theorem ringBuffer_simulates_queue (positive : 0 < capacity) (calls : List (RingCall α)) :
    let ring := Calls.run ringCall (RingBuffer.new positive) calls
    let queue := Calls.run (queueCall capacity) {} calls
    let b := ring.2
    ring.1 = queue.1 ∧ RingSimulates b queue.2 ∧
      (calls.map RingCall.pushes).sum =
        (ring.1.map RingResult.successfulPops).sum + b.droppedCount + b.size ∧
      (∀ item, b.size = capacity → (b.push item).snapshot = b.snapshot.tail ++ [item] ∧
        (b.push item).droppedCount = b.droppedCount + 1) ∧
      (∀ item, b.size < capacity → (b.push item).snapshot = b.snapshot ++ [item] ∧
        (b.push item).droppedCount = b.droppedCount) ∧
      (∀ out, b.size = 0 → ringCall b (.tryPopOldest out) = (.popped false out, b)) ∧
      ∀ out oldest others, b.snapshot = oldest :: others →
        (ringCall b (.tryPopOldest out)).1 = .popped true oldest ∧
          (ringCall b (.tryPopOldest out)).2.snapshot = others ∧
          (ringCall b (.tryPopOldest out)).2.droppedCount = b.droppedCount := by
  intro ring queue b
  obtain ⟨results, last⟩ := run_toQueue (RingBuffer.new positive) calls
  rw [RingBuffer.toQueue_new] at results last
  have simulates : RingSimulates b queue.2 := by
    rw [← last]
    exact ringSimulates_toQueue b
  exact ⟨results, simulates, run_ring_balance positive calls, push_full b, push_space b,
    pop_empty b, pop_occupied b⟩

/-- Capacity three: the fourth push drops the first element, and the pop returns the second. -/
theorem ringBuffer_simulates_queue_three :
    RingSimulates (Calls.run ringCall (RingBuffer.new (by decide : 0 < 3))
        [.push 1, .push 2, .push 3, .push 4, .tryPopOldest 0]).2
      ⟨[3, 4], 1⟩ := by
  exact (ringBuffer_simulates_queue (by decide : 0 < 3)
    [.push 1, .push 2, .push 3, .push 4, .tryPopOldest 0]).2.1

end V4l2Capture.Pipeline
