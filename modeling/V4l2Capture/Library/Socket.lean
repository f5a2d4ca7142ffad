import Mathlib.Data.List.Basic

/-!
# Stream sockets

The receiving side of a connection as the kernel presents it: data arrives in
nonempty pieces, a receive call may be interrupted or fail, and the peer has closed
once nothing is left. `recv` takes from the first pieces what fits, so the way a byte
stream is cut into receive results is the way its arrivals are listed.
-/
namespace Socket

/-- What the next receive call meets. -/
inductive Arrival (α ε : Type) where
  | data (first : α) (rest : List α)
  | interrupted
  | failed (error : ε)
  deriving DecidableEq, Repr

inductive Received (α ε : Type) where
  | bytes (data : List α)
  | closed
  | interrupted
  | failed (error : ε)
  deriving DecidableEq, Repr

variable {α ε : Type}

/-- The data that the arrivals carry, in order. -/
def contents : List (Arrival α ε) → List α
  | [] => []
  | .data first rest :: more => first :: rest ++ contents more
  | .interrupted :: more => contents more
  | .failed _ :: more => contents more

/-- No receive call fails for good. -/
def Reliable (arrivals : List (Arrival α ε)) : Prop :=
  ∀ error, Arrival.failed error ∉ arrivals

/-- Bounds the number of receive calls that the arrivals can still serve. -/
def weight (arrivals : List (Arrival α ε)) : Nat :=
  arrivals.length + (contents arrivals).length

/-- A piece that may be empty, back in front of the arrivals. -/
def pushBack (piece : List α) (arrivals : List (Arrival α ε)) : List (Arrival α ε) :=
  match piece with
  | [] => arrivals
  | first :: rest => .data first rest :: arrivals

/-- A receive call with room for `size` elements. -/
def recv (size : Nat) : List (Arrival α ε) → Received α ε × List (Arrival α ε)
  | [] => (.closed, [])
  | .data first rest :: more =>
    (.bytes ((first :: rest).take size), pushBack ((first :: rest).drop size) more)
  | .interrupted :: more => (.interrupted, more)
  | .failed error :: more => (.failed error, more)

@[simp] theorem contents_pushBack (piece : List α) (arrivals : List (Arrival α ε)) :
    contents (pushBack piece arrivals) = piece ++ contents arrivals := by
  cases piece <;> rfl

theorem Reliable.tail {a : Arrival α ε} {arrivals : List (Arrival α ε)}
    (reliable : Reliable (a :: arrivals)) : Reliable arrivals :=
  fun error member => reliable error (List.mem_cons_of_mem _ member)

theorem Reliable.pushBack {piece : List α} {arrivals : List (Arrival α ε)}
    (reliable : Reliable arrivals) : Reliable (pushBack piece arrivals) := by
  cases piece with
  | nil => exact reliable
  | cons first rest =>
    intro error member
    rcases List.mem_cons.mp member with same | later
    · cases same
    · exact reliable error later

/-- What one receive call does to the arrivals. -/
theorem recv_spec (size : Nat) (room : 0 < size) (arrivals : List (Arrival α ε)) :
    match recv size arrivals with
    | (.bytes data, next) => 0 < data.length ∧ data.length ≤ size ∧
        contents arrivals = data ++ contents next ∧ weight next < weight arrivals
    | (.closed, next) => arrivals = [] ∧ next = []
    | (.interrupted, next) => contents arrivals = contents next ∧ weight next < weight arrivals
    | (.failed error, next) => Arrival.failed error ∈ arrivals ∧ weight next < weight arrivals := by
  cases arrivals with
  | nil => exact ⟨rfl, rfl⟩
  | cons a more =>
    cases a with
    | data first rest =>
      -- What does not fit stays in front of the later arrivals.
      have split : (first :: rest).take size ++ (first :: rest).drop size = first :: rest :=
        List.take_append_drop size _
      refine ⟨by rw [List.length_take, List.length_cons]; omega, List.length_take_le size _, ?_, ?_⟩
      · rw [contents_pushBack, ← List.append_assoc, split]
        rfl
      -- At least one element is taken, also when the piece itself remains.
      · have dropped : ((first :: rest).drop size).length ≤ rest.length := by simp; omega
        cases left : (first :: rest).drop size with
        | nil => simp [weight, pushBack, contents]; omega
        | cons x xs =>
          rw [left] at dropped
          simp only [List.length_cons] at dropped
          simp [weight, pushBack, contents]
          omega
    | interrupted => simp [recv, contents, weight]
    | failed error => simp [recv, contents, weight]

theorem recv_reliable (size : Nat) (arrivals : List (Arrival α ε)) (reliable : Reliable arrivals) :
    Reliable (recv size arrivals).2 := by
  cases arrivals with
  | nil => exact reliable
  | cons a more =>
    cases a with
    | data first rest => exact reliable.tail.pushBack
    | interrupted => exact reliable.tail
    | failed error => exact reliable.tail

end Socket
