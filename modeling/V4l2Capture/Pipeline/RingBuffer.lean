import V4l2Capture.Library.DropQueue
import Mathlib.Data.Nat.ModEq

/-!
# The ring buffer

`RingBuffer` is the circular buffer of the pipeline, each operation being one critical
section of its mutex. The fields that follow the data say that the indices and the size
fit together, so every buffer that can be built is a well-formed one. `toQueue_push` and
`toQueue_tryPopOldest` say that it implements the drop-oldest queue.
-/
namespace V4l2Capture.Pipeline

variable {α : Type} {capacity : Nat}

/-- The content of a slot; `none` for a slot that holds no frame of its own, because it
was never written or its frame was moved out. -/
def slotAt (slots : Vector (Option α) capacity) (index : Nat) : Option α :=
  slots[index]?.join

structure RingBuffer (α : Type) (capacity : Nat) where
  slots : Vector (Option α) capacity
  readIndex : Nat
  writeIndex : Nat
  size : Nat
  droppedCount : Nat
  readIndex_lt : readIndex < capacity
  writeIndex_eq : writeIndex = (readIndex + size) % capacity
  size_le : size ≤ capacity
  live : ∀ i < size, (slotAt slots ((readIndex + i) % capacity)).isSome

theorem slotAt_set (slots : Vector (Option α) capacity) (index : Nat) (content : Option α)
    (bound : index < capacity) (j : Nat) :
    slotAt (slots.setIfInBounds index content) j = if index = j then content else slotAt slots j := by
  rw [slotAt, Vector.getElem?_setIfInBounds]
  by_cases same : index = j
  · subst same
    simp [bound]
  · simp [same, slotAt]

/-- Positions less than one turn apart are different. -/
theorem position_ne (start : Nat) {i j : Nat} (order : i < j) (turn : j < i + capacity) :
    (start + i) % capacity ≠ (start + j) % capacity := by
  intro same
  have apart : capacity ∣ (start + j) - (start + i) :=
    (Nat.modEq_iff_dvd' (by omega)).mp same
  have := Nat.le_of_dvd (by omega) apart
  omega

/-- The slots after `push_locked`, read from the new read index on. -/
theorem slotAt_pushed (slots : Vector (Option α) capacity) (item : α) (start i : Nat) {size : Nat}
    (positive : 0 < capacity) (within : size ≤ capacity) :
    (i < size → (size = capacity → 0 < i) →
      slotAt (slots.setIfInBounds ((start + size) % capacity) (some item)) ((start + i) % capacity) =
        slotAt slots ((start + i) % capacity)) ∧
    slotAt (slots.setIfInBounds ((start + size) % capacity) (some item))
      ((start + size) % capacity) = some item := by
  have bound := Nat.mod_lt (start + size) positive
  refine ⟨fun older turn => ?_, ?_⟩
  · rw [slotAt_set _ _ _ bound, if_neg (position_ne start older (by omega)).symm]
  · rw [slotAt_set _ _ _ bound, if_pos rfl]

/-- `RingBuffer(capacity)`; the constructor throws on a capacity of zero. -/
def RingBuffer.new (positive : 0 < capacity) : RingBuffer α capacity where
  slots := Vector.replicate capacity none
  readIndex := 0
  writeIndex := 0
  size := 0
  droppedCount := 0
  readIndex_lt := positive
  writeIndex_eq := by simp
  size_le := Nat.zero_le _
  live i bound := absurd bound (Nat.not_lt_zero i)

def RingBuffer.push (b : RingBuffer α capacity) (item : α) : RingBuffer α capacity where
  slots := b.slots.setIfInBounds b.writeIndex (some item)
  -- On a full buffer the write falls on the oldest frame, and the read index moves on.
  readIndex := if b.size = capacity then (b.readIndex + 1) % capacity else b.readIndex
  writeIndex := (b.writeIndex + 1) % capacity
  size := if b.size = capacity then b.size else b.size + 1
  droppedCount := if b.size = capacity then b.droppedCount + 1 else b.droppedCount
  readIndex_lt := by
    have := b.readIndex_lt
    split
    · exact Nat.mod_lt _ (by omega)
    · exact this
  writeIndex_eq := by
    rw [b.writeIndex_eq]
    split
    · simp only [Nat.mod_add_mod]
      congr 1
      omega
    · rw [Nat.mod_add_mod, Nat.add_assoc]
  size_le := by
    have := b.size_le
    split <;> omega
  live i bound := by
    have positive : 0 < capacity := Nat.zero_lt_of_lt b.readIndex_lt
    rw [b.writeIndex_eq]
    split at bound
    -- Full: position `i` is the old position `i + 1`, and the last one is the new frame.
    next full =>
      obtain ⟨older, newest⟩ := slotAt_pushed b.slots item b.readIndex (i + 1)
        positive b.size_le
      rw [if_pos full, Nat.mod_add_mod, Nat.add_assoc, Nat.add_comm 1 i]
      by_cases last : i + 1 < b.size
      · rw [older last (fun _ => Nat.succ_pos i)]
        exact b.live (i + 1) last
      · have same : i + 1 = b.size := by omega
        rw [same, newest]
        rfl
    next space =>
      obtain ⟨older, newest⟩ := slotAt_pushed b.slots item b.readIndex i
        positive b.size_le
      rw [if_neg space]
      by_cases last : i < b.size
      · rw [older last (fun full => absurd full space)]
        exact b.live i last
      · have same : i = b.size := by omega
        rw [same, newest]
        rfl

/-- The slots after a pop, read from the new read index on. -/
theorem slotAt_popped (slots : Vector (Option α) capacity) {start size i : Nat}
    (bound : start < capacity) (within : size ≤ capacity) (inside : i + 1 < size) :
    slotAt (slots.setIfInBounds start none) (((start + 1) % capacity + i) % capacity) =
      slotAt slots ((start + (i + 1)) % capacity) := by
  have apart := position_ne start (Nat.succ_pos i) (by omega : i + 1 < 0 + capacity)
  rw [Nat.add_zero, Nat.mod_eq_of_lt bound] at apart
  rw [Nat.mod_add_mod, Nat.add_assoc, Nat.add_comm 1 i, slotAt_set _ _ _ bound, if_neg apart]

/-- `try_pop_oldest(out)`: `none` for `false`, else what `out` is assigned. -/
def RingBuffer.tryPopOldest (b : RingBuffer α capacity) : Option (α × RingBuffer α capacity) :=
  if occupied : 0 < b.size then
    some ((slotAt b.slots ((b.readIndex + 0) % capacity)).get (b.live 0 occupied),
      -- The frame is moved out, which leaves its slot without one.
      { slots := b.slots.setIfInBounds b.readIndex none
        readIndex := (b.readIndex + 1) % capacity
        writeIndex := b.writeIndex
        size := b.size - 1
        droppedCount := b.droppedCount
        readIndex_lt := Nat.mod_lt _ (Nat.zero_lt_of_lt b.readIndex_lt)
        writeIndex_eq := by
          rw [b.writeIndex_eq, Nat.mod_add_mod]
          congr 1
          omega
        size_le := by have := b.size_le; omega
        live := by
          intro i bound
          have inside : i + 1 < b.size := by omega
          rw [slotAt_popped b.slots b.readIndex_lt b.size_le inside]
          exact b.live (i + 1) inside })
  else none

def RingBuffer.empty (b : RingBuffer α capacity) : Bool :=
  b.size = 0

/-- `snapshot()`: the live frames from the oldest to the newest. -/
def RingBuffer.snapshot (b : RingBuffer α capacity) : List α :=
  (List.range b.size).filterMap fun i => slotAt b.slots ((b.readIndex + i) % capacity)

/-! ### The drop-oldest queue -/

/-- The abstract queue that a ring buffer stands for. -/
def RingBuffer.toQueue (b : RingBuffer α capacity) : DropQueue.Queue α :=
  ⟨b.snapshot, b.droppedCount⟩

theorem filterMap_range {f : Nat → Option α} {n : Nat} (live : ∀ i < n, (f i).isSome) :
    ((List.range n).filterMap f).map some = (List.range n).map f := by
  induction n with
  | zero => rfl
  | succ n ih =>
    obtain ⟨x, value⟩ := Option.isSome_iff_exists.mp (live n (Nat.lt_succ_self n))
    rw [List.range_succ, List.filterMap_append, List.map_append, List.map_append,
      ih fun i bound => live i (Nat.lt_succ_of_lt bound)]
    simp [value]

/-- The snapshot position by position. -/
theorem RingBuffer.map_snapshot (b : RingBuffer α capacity) :
    b.snapshot.map some =
      (List.range b.size).map fun i => slotAt b.slots ((b.readIndex + i) % capacity) :=
  filterMap_range b.live

@[simp] theorem RingBuffer.snapshot_length (b : RingBuffer α capacity) :
    b.snapshot.length = b.size := by
  have lengths := congrArg List.length b.map_snapshot
  simpa using lengths

theorem RingBuffer.empty_iff (b : RingBuffer α capacity) :
    b.empty = true ↔ b.toQueue.items = [] := by
  rw [RingBuffer.empty, decide_eq_true_iff, ← b.snapshot_length]
  exact List.length_eq_zero_iff

@[simp] theorem RingBuffer.toQueue_new (positive : 0 < capacity) :
    (RingBuffer.new positive : RingBuffer α capacity).toQueue = {} := rfl

theorem snapshot_push (b : RingBuffer α capacity) (item : α) :
    (b.push item).snapshot =
      (if b.size = capacity then b.snapshot.tail else b.snapshot) ++ [item] := by
  have positive : 0 < capacity := Nat.zero_lt_of_lt b.readIndex_lt
  -- Comparing the contents of the slots spares the unwrapping of every one of them.
  apply List.map_injective_iff.mpr (Option.some_injective α)
  rw [RingBuffer.map_snapshot, List.map_append]
  simp only [RingBuffer.push, b.writeIndex_eq]
  split
  next full =>
    obtain ⟨n, size⟩ : ∃ n, b.size = n + 1 := ⟨b.size - 1, by omega⟩
    have newest := (slotAt_pushed b.slots item b.readIndex 0 positive b.size_le).2
    have front : List.range b.size = List.range n ++ [n] := by rw [size, List.range_succ]
    have rest : (List.range b.size).tail = (List.range n).map Nat.succ := by
      rw [size, List.range_succ_eq_map, List.tail_cons]
    rw [List.map_tail, b.map_snapshot, ← List.map_tail, rest, List.map_map, front, List.map_append]
    congr 1
    · refine List.map_congr_left fun i member => ?_
      have bound : i + 1 < b.size := by have := List.mem_range.mp member; omega
      have older := (slotAt_pushed b.slots item b.readIndex (i + 1) positive
        b.size_le).1 bound fun _ => Nat.succ_pos i
      rw [Nat.mod_add_mod, Nat.add_assoc, Nat.add_comm 1 i, older]
      rfl
    · rw [List.map_singleton, List.map_singleton, Nat.mod_add_mod, Nat.add_assoc, Nat.add_comm 1 n,
        ← size, newest]
  next space =>
    have newest := (slotAt_pushed b.slots item b.readIndex 0 positive b.size_le).2
    rw [b.map_snapshot, List.range_succ, List.map_append]
    congr 1
    · refine List.map_congr_left fun i member => ?_
      exact (slotAt_pushed b.slots item b.readIndex i positive b.size_le).1
        (List.mem_range.mp member) fun full => absurd full space
    · rw [List.map_singleton, List.map_singleton, newest]

theorem RingBuffer.toQueue_push (b : RingBuffer α capacity) (item : α) :
    (b.push item).toQueue = b.toQueue.push capacity item := by
  have within := b.size_le
  simp only [RingBuffer.toQueue, DropQueue.Queue.push, snapshot_push, b.snapshot_length]
  by_cases full : b.size = capacity
  · rw [if_pos full, if_neg (by omega)]
    simp [RingBuffer.push, full]
  · rw [if_neg full, if_pos (by omega)]
    simp [RingBuffer.push, full]

theorem RingBuffer.toQueue_tryPopOldest (b : RingBuffer α capacity) :
    b.tryPopOldest.map (fun popped => (popped.1, popped.2.toQueue)) = b.toQueue.pop := by
  have positions := b.map_snapshot
  rw [RingBuffer.tryPopOldest]
  split
  next occupied =>
    obtain ⟨n, size⟩ : ∃ n, b.size = n + 1 := ⟨b.size - 1, by omega⟩
    rw [size, List.range_succ_eq_map, List.map_cons, List.map_map] at positions
    obtain ⟨x, rest, shape, head, tail⟩ := List.map_eq_cons_iff.mp positions
    have popped : b.toQueue.pop = some (x, ⟨rest, b.droppedCount⟩) := by
      simp only [DropQueue.Queue.pop, RingBuffer.toQueue, shape]
    rw [popped, Option.map_some]
    simp only [← head, Option.get_some, RingBuffer.toQueue, Option.some.injEq, Prod.mk.injEq,
      true_and, DropQueue.Queue.mk.injEq, and_true]
    apply List.map_injective_iff.mpr (Option.some_injective α)
    rw [RingBuffer.map_snapshot, tail]
    simp only [size, Nat.add_sub_cancel]
    refine List.map_congr_left fun i member => ?_
    exact slotAt_popped b.slots b.readIndex_lt b.size_le
      (by have := List.mem_range.mp member; omega)
  next none =>
    have empty : b.snapshot = [] := by
      apply List.eq_nil_of_length_eq_zero
      rw [b.snapshot_length]
      omega
    simp [DropQueue.Queue.pop, RingBuffer.toQueue, empty]

end V4l2Capture.Pipeline
