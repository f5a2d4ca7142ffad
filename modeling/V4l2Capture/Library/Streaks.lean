import Mathlib.Data.List.Infix
import Mathlib.Data.Nat.Find
import Mathlib.Order.Bounds.Basic
import Mathlib.Order.MinMax

/-!
# Streaks

The runs of one value in a list that grows at its end: the streak its last entries form, and
the longest streak anywhere in it.
-/
namespace Streaks

variable {α : Type} [DecidableEq α]

/-- The length of the streak of `a` with which the list ends. -/
def current (a : α) (l : List α) : Nat :=
  Nat.findGreatest (fun n => List.replicate n a <:+ l) l.length

/-- The length of the longest streak of `a` in the list. -/
def longest (a : α) (l : List α) : Nat :=
  Nat.findGreatest (fun n => List.replicate n a <:+: l) l.length

theorem le_current_iff (a : α) (l : List α) (n : Nat) :
    n ≤ current a l ↔ List.replicate n a <:+ l := by
  constructor
  · intro within
    have whole : List.replicate (current a l) a <:+ l :=
      Nat.findGreatest_spec (P := fun n => List.replicate n a <:+ l) (Nat.zero_le _) (by simp)
    refine List.IsSuffix.trans ⟨List.replicate (current a l - n) a, ?_⟩ whole
    rw [List.replicate_append_replicate, Nat.sub_add_cancel within]
  · intro streak
    exact Nat.le_findGreatest (by simpa using streak.length_le) streak

theorem le_longest_iff (a : α) (l : List α) (n : Nat) :
    n ≤ longest a l ↔ List.replicate n a <:+: l := by
  constructor
  · intro within
    have whole : List.replicate (longest a l) a <:+: l :=
      Nat.findGreatest_spec (P := fun n => List.replicate n a <:+: l) (Nat.zero_le _) (by simp)
    refine List.IsInfix.trans (List.IsSuffix.isInfix ⟨List.replicate (longest a l - n) a, ?_⟩) whole
    rw [List.replicate_append_replicate, Nat.sub_add_cancel within]
  · intro streak
    exact Nat.le_findGreatest (by simpa using streak.length_le) streak

/-- `longest` is what its name says. -/
theorem longest_isGreatest (a : α) (l : List α) :
    IsGreatest {n | List.replicate n a <:+: l} (longest a l) :=
  ⟨(le_longest_iff a l _).mp le_rfl, fun n streak => (le_longest_iff a l n).mpr streak⟩

theorem current_le_longest (a : α) (l : List α) : current a l ≤ longest a l :=
  (le_longest_iff a l _).mpr ((le_current_iff a l _).mp le_rfl).isInfix

@[simp] theorem current_nil (a : α) : current a [] = 0 := rfl

@[simp] theorem longest_nil (a : α) : longest a [] = 0 := rfl

theorem current_concat (a x : α) (l : List α) :
    current a (l ++ [x]) = if x = a then current a l + 1 else 0 := by
  refine eq_of_forall_le_iff fun n => ?_
  rw [le_current_iff, List.suffix_concat_iff]
  cases n with
  | zero => simp
  | succ n =>
    rw [List.replicate_succ']
    split
    next same =>
      subst same
      constructor
      · rintro (empty | ⟨start, shape, inside⟩)
        · simp at empty
        · obtain ⟨rfl, -⟩ := List.append_inj' shape rfl
          exact Nat.succ_le_succ ((le_current_iff x l n).mpr inside)
      · intro within
        exact .inr ⟨_, rfl, (le_current_iff x l n).mp (Nat.le_of_succ_le_succ within)⟩
    next other =>
      constructor
      · rintro (empty | ⟨start, shape, inside⟩)
        · simp at empty
        · obtain ⟨-, last⟩ := List.append_inj' shape rfl
          exact absurd (List.cons.inj last).1.symm other
      · intro within
        omega

theorem longest_concat (a x : α) (l : List α) :
    longest a (l ++ [x]) = max (longest a l) (current a (l ++ [x])) := by
  refine eq_of_forall_le_iff fun n => ?_
  rw [le_longest_iff, List.infix_concat_iff, le_max_iff, le_longest_iff, le_current_iff,
    or_comm]

end Streaks
