import Mathlib.Data.List.Basic

/-!
# Drop-oldest queues

A bounded queue that makes room by dropping its oldest element and counts what it
dropped. `Channel` relates the two ends of such a queue between threads: what the
receiver got, what is queued and what the sender is about to push are, in this order, a
part of what the sender put in, and together with the dropped elements they are as many.
-/
namespace DropQueue

structure Queue (α : Type) where
  items : List α := []
  dropped : Nat := 0
  deriving DecidableEq, Repr

variable {α : Type}

def Queue.push (q : Queue α) (capacity : Nat) (x : α) : Queue α :=
  if q.items.length < capacity then { q with items := q.items ++ [x] }
  -- Full: the oldest element makes room and is counted.
  else ⟨q.items.tail ++ [x], q.dropped + 1⟩

def Queue.pop (q : Queue α) : Option (α × Queue α) :=
  match q.items with
  | [] => none
  | x :: rest => some (x, { q with items := rest })

/-- The ends of a queue: what came out, the queue, what is still to be pushed, and all that
was put in. -/
structure Channel (got : List α) (queue : Queue α) (pending put : List α) : Prop where
  order : (got ++ queue.items ++ pending).Sublist put
  count : got.length + queue.items.length + queue.dropped + pending.length = put.length

theorem Channel.empty : Channel ([] : List α) {} [] [] :=
  ⟨List.Sublist.refl [], rfl⟩

/-- The sender decides to push some more. -/
theorem Channel.put {got pending put : List α} {queue : Queue α}
    (channel : Channel got queue pending put) (more : List α) :
    Channel got queue (pending ++ more) (put ++ more) := by
  refine ⟨?_, ?_⟩
  · rw [← List.append_assoc]
    exact channel.order.append (List.Sublist.refl more)
  · have := channel.count
    rw [List.length_append, List.length_append]
    omega

/-- The first pending element is pushed. -/
theorem Channel.push {got pending put : List α} {queue : Queue α} {x : α}
    (channel : Channel got queue (x :: pending) put) {capacity : Nat} (room : 0 < capacity) :
    Channel got (queue.push capacity x) pending put := by
  have order := channel.order
  have count := channel.count
  rw [List.length_cons] at count
  rw [Queue.push]
  split
  next =>
    refine ⟨by simpa using order, ?_⟩
    simp only [List.length_append, List.length_singleton]
    omega
  next full =>
    refine ⟨?_, ?_⟩
    · have fewer : (queue.items.tail ++ (x :: pending)).Sublist (queue.items ++ (x :: pending)) :=
        (List.tail_sublist _).append (List.Sublist.refl _)
      -- The dropped element lay behind everything received, so the order survives.
      have kept := (List.Sublist.refl got).append fewer
      rw [List.append_assoc] at order
      simpa using kept.trans order
    · simp only [List.length_append, List.length_tail, List.length_singleton]
      omega

/-- The receiver takes the oldest element. -/
theorem Channel.pop {got pending put : List α} {queue queue' : Queue α} {x : α}
    (channel : Channel got queue pending put) (popped : queue.pop = some (x, queue')) :
    Channel (got ++ [x]) queue' pending put := by
  rw [Queue.pop] at popped
  split at popped
  · cases popped
  next rest shape =>
    cases popped
    have order := channel.order
    have count := channel.count
    rw [shape] at order count
    refine ⟨by simpa using order, ?_⟩
    rw [List.length_append, List.length_singleton]
    rw [List.length_cons] at count
    simp only
    omega

end DropQueue
