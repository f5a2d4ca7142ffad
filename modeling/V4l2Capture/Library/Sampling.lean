import Mathlib.Order.Monotone.Basic

/-!
# Reading a state that grows

A writer changes a shared state access by access, and an observer reads it once for each thing
it wants to know, at any moments between. If the state only grows in an order and a property
holds throughout the writer's accesses, then what the observer ends up with belongs to a chain
of sound moments, one for each reading.
-/
namespace Sampling

variable {σ ρ ω : Type}

/-! ### The writer -/

/-- `holds` of the state and the accesses left, before every access and behind the last. -/
def Throughout (access : σ → ω → σ) (holds : σ → List ω → Prop) : σ → List ω → Prop
  | s, [] => holds s []
  | s, op :: rest => holds s (op :: rest) ∧ Throughout access holds (access s op) rest

section Writer

variable {access : σ → ω → σ} {holds : σ → List ω → Prop} {s : σ}

theorem Throughout.here {todo : List ω} (throughout : Throughout access holds s todo) :
    holds s todo := by
  cases todo with
  | nil => exact throughout
  | cons => exact throughout.1

theorem Throughout.mono {weaker : σ → List ω → Prop} {todo : List ω}
    (throughout : Throughout access holds s todo)
    (implies : ∀ s rest, holds s rest → weaker s rest) : Throughout access weaker s todo := by
  induction todo generalizing s with
  | nil => exact implies s [] throughout
  | cons op rest ih => exact ⟨implies s _ throughout.1, ih throughout.2⟩

/-- The accesses of two parts of the writer's code, one behind the other. -/
theorem throughout_append {first second : List ω}
    (front : Throughout access (fun s rest => holds s (rest ++ second)) s first)
    (behind : Throughout access holds (first.foldl access s) second) :
    Throughout access holds s (first ++ second) := by
  induction first generalizing s with
  | nil => exact behind
  | cons op rest ih => exact ⟨front.1, ih front.2 behind⟩

end Writer

/-! ### The observer -/

/-- What is kept of the state at a reading. -/
abbrev Reading (σ ρ : Type) := σ → ρ → ρ

/-- The readings, each at a moment of its own. -/
def replay : List (Reading σ ρ) → (ℕ → σ) → ρ → ρ
  | [], _, report => report
  | reading :: readings, moment, report =>
    replay readings (fun k => moment (k + 1)) (reading (moment 0) report)

theorem replay_append (done : List (Reading σ ρ)) (reading : Reading σ ρ) (moment : ℕ → σ)
    (report : ρ) :
    replay (done ++ [reading]) moment report =
      reading (moment done.length) (replay done moment report) := by
  induction done generalizing moment report with
  | nil => rfl
  | cons first done ih => exact ih (fun k => moment (k + 1)) (first (moment 0) report)

/-- No reading looks behind the last moment. -/
theorem replay_congr {done : List (Reading σ ρ)} {moment moment' : ℕ → σ}
    (same : ∀ k < done.length, moment k = moment' k) (report : ρ) :
    replay done moment report = replay done moment' report := by
  induction done generalizing moment moment' report with
  | nil => rfl
  | cons first done ih =>
    rw [replay, replay, same 0 (Nat.succ_pos _)]
    exact ih (fun k within => same (k + 1) (Nat.succ_lt_succ within)) _

variable [Preorder σ]

/-- Sound moments in their order, all from `since` to `now`. -/
structure Chain (sound : σ → Prop) (since : σ) (moment : ℕ → σ) (now : σ) : Prop where
  ordered : Monotone moment
  started : ∀ k, since ≤ moment k
  past : ∀ k, moment k ≤ now
  sound : ∀ k, sound (moment k)

/-- An observer in the middle of its readings, of which `todo` are left. -/
def Observing (sound : σ → Prop) (since : σ) (readings : List (Reading σ ρ)) (start : ρ)
    (todo : List (Reading σ ρ)) (report : ρ) (now : σ) : Prop :=
  ∃ done moment, readings = done ++ todo ∧ report = replay done moment start ∧
    Chain sound since moment now

variable {sound : σ → Prop} {readings todo : List (Reading σ ρ)} {start report : ρ}
  {since now later : σ}

theorem observing_start (here : sound now) (readings : List (Reading σ ρ)) (start : ρ) :
    Observing sound now readings start readings start now :=
  ⟨[], fun _ => now, rfl, rfl, monotone_const, fun _ => le_rfl, fun _ => le_rfl, fun _ => here⟩

namespace Observing

/-- The others go on. -/
theorem advance (observing : Observing sound since readings start todo report now)
    (le : now ≤ later) : Observing sound since readings start todo report later := by
  obtain ⟨done, moment, split, replayed, chain⟩ := observing
  exact ⟨done, moment, split, replayed, { chain with past := fun k => (chain.past k).trans le }⟩

theorem read {reading : Reading σ ρ}
    (observing : Observing sound since readings start (reading :: todo) report now)
    (here : sound now) :
    Observing sound since readings start todo (reading now report) now := by
  obtain ⟨done, moment, split, replayed, chain⟩ := observing
  refine ⟨done ++ [reading], fun k => if k < done.length then moment k else now, ?_, ?_, ?_⟩
  · rw [split, List.append_assoc]
    rfl
  · rw [replay_append, if_neg (lt_irrefl _), replayed]
    exact congrArg (reading now) (replay_congr (fun k within => (if_pos within).symm) start)
  · refine ⟨fun k k' le => ?_, fun k => ?_, fun k => ?_, fun k => ?_⟩
    · split
      · split
        · exact chain.ordered le
        · exact chain.past k
      next beyond => rw [if_neg fun within => beyond (le.trans_lt within)]
    · split
      · exact chain.started k
      · exact (chain.started 0).trans (chain.past 0)
    · split
      · exact chain.past k
      · exact le_rfl
    · split
      · exact chain.sound k
      · exact here

/-- Behind the last reading. -/
theorem finished (observing : Observing sound since readings start [] report now) :
    ∃ moment, report = replay readings moment start ∧ Chain sound since moment now := by
  obtain ⟨done, moment, split, replayed, chain⟩ := observing
  rw [List.append_nil] at split
  subst split
  exact ⟨moment, replayed, chain⟩

end Observing

end Sampling
