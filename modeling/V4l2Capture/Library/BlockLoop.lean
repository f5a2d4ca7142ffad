import Mathlib.Data.List.Basic

/-!
# Loops that fill a buffer block by block

A loop reads a block of its input, computes a block of its output from it and goes on behind
both. The buffer under way records the indices that were used. `Progress` is the invariant of
such a loop, `Progress.step` what one round does for it.
-/
namespace BlockLoop

variable {α β : Type}

/-- An output buffer under way. `reads` and `writes` are history: the indices that were used so
far, in the input and in the buffer. -/
structure Buffer (β : Type) where
  items : List β
  reads : List Nat := []
  writes : List Nat := []
  deriving DecidableEq, Repr

abbrev Access (β : Type) := StateM (Buffer β)

def load (memory : Nat → α) (i : Nat) : Access β α := fun b =>
  (memory i, { b with reads := b.reads ++ [i] })

def store (i : Nat) (item : β) : Access β Unit := fun b =>
  ((), { b with items := b.items.set i item, writes := b.writes ++ [i] })

/-- Stores at consecutive places. -/
def storeAll (start : Nat) : List β → Access β Unit
  | [] => pure ()
  | item :: rest => do
    store start item
    storeAll (start + 1) rest

theorem storeAll_cons (start : Nat) (item : β) (rest : List β) (b : Buffer β) :
    (storeAll start (item :: rest)).run b =
      (storeAll (start + 1) rest).run (store start item b).2 :=
  rfl

/-- Consecutive stores behind what is there replace blanks. -/
theorem storeAll_run (blank : β) (items done : List β) (room : Nat) (b : Buffer β)
    (content : b.items = done ++ List.replicate (items.length + room) blank)
    (written : b.writes = List.range done.length) :
    (storeAll done.length items).run b = ((), { b with
      items := done ++ items ++ List.replicate room blank
      writes := List.range (done.length + items.length) }) := by
  induction items generalizing done b with
  | nil =>
    have same : b = { b with
        items := done ++ [] ++ List.replicate room blank
        writes := List.range (done.length + ([] : List β).length) } := by
      cases b
      simp_all
    exact congrArg ((), ·) same
  | cons item items ih =>
    have stored : (store done.length item b).2.items =
        (done ++ [item]) ++ List.replicate (items.length + room) blank := by
      have count : (item :: items).length + room = (items.length + room) + 1 := by
        rw [List.length_cons]
        omega
      rw [count, List.replicate_succ] at content
      simp [store, content]
    have next := ih (done ++ [item]) (store done.length item b).2 stored
      (by simp [store, written, List.range_succ])
    rw [List.length_append, List.length_singleton] at next
    rw [storeAll_cons, next]
    simp [store, Nat.add_comm, Nat.add_left_comm]

/-! ### The invariant -/

/-- After `rounds` rounds the buffer starts with the blocks of these rounds, and just the indices
that belong to them were used. -/
structure Progress (blank : β) (block : Nat → List β) (touched : Nat → List Nat)
    (width rounds room : Nat) (b : Buffer β) : Prop where
  items : b.items = (List.range rounds).flatMap block ++ List.replicate room blank
  reads : b.reads = (List.range rounds).flatMap touched
  writes : b.writes = List.range (width * rounds)

section
variable {blank : β} {block : Nat → List β} {touched : Nat → List Nat} {width rounds room : Nat}
  {b : Buffer β}

theorem length_blocks (sizes : ∀ g, (block g).length = width) (rounds : Nat) :
    ((List.range rounds).flatMap block).length = width * rounds := by
  induction rounds with
  | zero => rfl
  | succ rounds ih =>
    rw [List.range_succ, List.flatMap_append, List.length_append, ih, List.flatMap_singleton,
      sizes, Nat.mul_succ]

theorem Progress.start (blank : β) (block : Nat → List β) (touched : Nat → List Nat)
    (width room : Nat) : Progress blank block touched width 0 room
      { items := List.replicate room blank } :=
  ⟨by simp, rfl, rfl⟩

/-- The reads of a round, and then its stores. -/
theorem Progress.step (sizes : ∀ g, (block g).length = width)
    (progress : Progress blank block touched width rounds (width + room) b) :
    Progress blank block touched width (rounds + 1) room
      ((storeAll (width * rounds) (block rounds)).run
        { b with reads := b.reads ++ touched rounds }).2 := by
  obtain ⟨items, reads, writes⟩ := progress
  have length := length_blocks sizes rounds
  have stored := storeAll_run blank (block rounds) ((List.range rounds).flatMap block) room
    { b with reads := b.reads ++ touched rounds } (by rw [sizes]; exact items)
    (by rw [length]; exact writes)
  rw [length, sizes] at stored
  rw [stored]
  refine ⟨?_, ?_, rfl⟩
  · simp [List.range_succ]
  · simp [List.range_succ, reads]

theorem Progress.length (sizes : ∀ g, (block g).length = width)
    (progress : Progress blank block touched width rounds room b) :
    b.items.length = width * rounds + room := by
  rw [progress.items, List.length_append, length_blocks sizes, List.length_replicate]

theorem Progress.writes_lt (sizes : ∀ g, (block g).length = width)
    (progress : Progress blank block touched width rounds room b) (i : Nat)
    (written : i ∈ b.writes) : i < b.items.length := by
  rw [progress.writes, List.mem_range] at written
  rw [progress.length sizes]
  omega

theorem Progress.reads_lt {stride : Nat}
    (within : ∀ g, ∀ i ∈ touched g, i < stride * (g + 1))
    (progress : Progress blank block touched width rounds room b) (i : Nat) (read : i ∈ b.reads) :
    i < stride * rounds := by
  rw [progress.reads, List.mem_flatMap] at read
  obtain ⟨g, round, touches⟩ := read
  have later : g + 1 ≤ rounds := List.mem_range.mp round
  exact Nat.lt_of_lt_of_le (within g i touches) (Nat.mul_le_mul_left _ later)

/-- Where the items of a block are. -/
theorem getElem?_blocks (sizes : ∀ g, (block g).length = width) {g c : Nat} (inside : g < rounds)
    (place : c < width) (rest : List β) :
    ((List.range rounds).flatMap block ++ rest)[width * g + c]? = (block g)[c]? := by
  induction rounds generalizing rest with
  | zero => cases inside
  | succ rounds ih =>
    rw [List.range_succ, List.flatMap_append, List.flatMap_singleton, List.append_assoc]
    by_cases earlier : g < rounds
    · exact ih earlier _
    · have last : g = rounds := by omega
      subst last
      have length := length_blocks sizes g
      rw [List.getElem?_append_right (by omega), length, Nat.add_sub_cancel_left,
        List.getElem?_append_left (by rw [sizes]; exact place)]

/-- Two buffers of blocks are equal when their blocks are. -/
theorem blocks_eq_iff {block' : Nat → List β} (sizes : ∀ g, (block g).length = width)
    (sizes' : ∀ g, (block' g).length = width) (rounds : Nat) :
    (List.range rounds).flatMap block = (List.range rounds).flatMap block' ↔
      ∀ g < rounds, block g = block' g := by
  constructor
  · intro same g inside
    apply List.ext_getElem?
    intro c
    by_cases place : c < width
    · have item := congrArg (fun items => items[width * g + c]?) same
      have first := getElem?_blocks sizes inside place []
      have second := getElem?_blocks sizes' inside place []
      rw [List.append_nil] at first second
      rw [← first, ← second]
      exact item
    · rw [List.getElem?_eq_none (by rw [sizes]; omega),
        List.getElem?_eq_none (by rw [sizes']; omega)]
  · intro each
    exact List.flatMap_congr fun g inside => each g (List.mem_range.mp inside)

end

end BlockLoop
