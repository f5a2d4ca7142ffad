import Mathlib.Data.List.Induction
import V4l2Capture.Library.History

/-!
# Calls on descriptors

A log of calls that obtain, close and use descriptors. A number is handed out again once it
was closed, so `Held` looks behind the last call that obtained it. `held` computes the
descriptors that a log leaves held.
-/
namespace Descriptors

variable {N : Type}

inductive Call (N : Type) where
  | obtain (descriptor : N)
  | close (descriptor : N)
  | use (descriptor : N)
  deriving DecidableEq, Repr

/-- The number was obtained and not closed since. -/
def Held (log : List (Call N)) (n : N) : Prop :=
  ∃ before after, log = before ++ .obtain n :: after ∧ .close n ∉ after

/-- Whatever is used is held at that moment. -/
def UsesHeld (log : List (Call N)) : Prop :=
  History.Before log fun before call => ∀ n, call = .use n → Held before n

theorem not_held_nil (n : N) : ¬ Held [] n := by
  rintro ⟨before, after, shape, _⟩
  simp at shape

theorem held_concat (log : List (Call N)) (call : Call N) (n : N) :
    Held (log ++ [call]) n ↔ call = .obtain n ∨ call ≠ .close n ∧ Held log n := by
  constructor
  · rintro ⟨before, after, shape, kept⟩
    rcases List.eq_nil_or_concat after with rfl | ⟨init, last, rfl⟩
    · left
      exact (List.cons.inj (List.append_inj' shape rfl).2).1
    · rw [List.concat_eq_append, ← List.cons_append, ← List.append_assoc] at shape
      obtain ⟨earlier, same⟩ := List.append_inj' shape rfl
      cases same
      right
      refine ⟨fun closes => kept (by simp [closes]), before, init, earlier, ?_⟩
      exact fun closed => kept (by simp [closed])
  · rintro (rfl | ⟨keeps, before, after, rfl, kept⟩)
    · exact ⟨log, [], rfl, by simp⟩
    · refine ⟨before, after ++ [call], by simp, ?_⟩
      intro closed
      rcases List.mem_append.mp closed with earlier | last
      · exact kept earlier
      · exact keeps (List.mem_singleton.mp last).symm

@[simp] theorem held_obtain (log : List (Call N)) (m n : N) :
    Held (log ++ [.obtain m]) n ↔ n = m ∨ Held log n := by
  rw [held_concat]
  simp [eq_comm]

@[simp] theorem held_close (log : List (Call N)) (m n : N) :
    Held (log ++ [.close m]) n ↔ n ≠ m ∧ Held log n := by
  rw [held_concat]
  simp [eq_comm]

@[simp] theorem held_use (log : List (Call N)) (m n : N) :
    Held (log ++ [.use m]) n ↔ Held log n := by
  rw [held_concat]
  simp

@[simp] theorem usesHeld_nil : UsesHeld ([] : List (Call N)) :=
  History.before_nil _

theorem usesHeld_concat (log : List (Call N)) (call : Call N) :
    UsesHeld (log ++ [call]) ↔ UsesHeld log ∧ ∀ n, call = .use n → Held log n :=
  History.before_concat log call _

namespace UsesHeld

variable {log : List (Call N)} (uses : UsesHeld log)

include uses

theorem obtains (n : N) : UsesHeld (log ++ [.obtain n]) :=
  (usesHeld_concat _ _).mpr ⟨uses, fun m used => by cases used⟩

theorem closes (n : N) : UsesHeld (log ++ [.close n]) :=
  (usesHeld_concat _ _).mpr ⟨uses, fun m used => by cases used⟩

theorem usesOne {n : N} (held : Held log n) : UsesHeld (log ++ [.use n]) := by
  refine (usesHeld_concat _ _).mpr ⟨uses, ?_⟩
  rintro m ⟨⟩
  exact held

end UsesHeld

variable [DecidableEq N]

/-- The descriptors that are held behind one more call. -/
def Call.apply (before : List N) : Call N → List N
  | .obtain n => n :: before
  | .close n => before.filter (· ≠ n)
  | .use _ => before

def held (log : List (Call N)) : List N :=
  log.foldl Call.apply []

theorem mem_held (log : List (Call N)) (n : N) : n ∈ held log ↔ Held log n := by
  induction log using List.reverseRecOn with
  | nil => simp [held, not_held_nil]
  | append_singleton log call ih =>
    rw [held, List.foldl_append, ← held]
    cases call with
    | obtain m => simp [Call.apply, ih]
    | close m => simp [Call.apply, ih, and_comm]
    | use m => simp [Call.apply, ih]

instance (log : List (Call N)) : DecidablePred (Held log) := fun n =>
  decidable_of_iff _ (mem_held log n)

end Descriptors
