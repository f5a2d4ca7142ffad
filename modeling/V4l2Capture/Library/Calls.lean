import Mathlib.Algebra.GroupWithZero.Nat
import Mathlib.Data.List.Basic

/-!
# Objects and sequences of calls

An object is a function that takes a state and the arguments of a call to the result and
the next state. `run` makes a list of calls one after the other. `run_simulates` is the
simulation rule for two objects with the same calls, `run_good_iff` an induction rule for one,
and `run_balance` adds up what the single calls bring in and take out.
-/
namespace Calls

variable {σ τ ι ο : Type}

/-- The results of a list of calls, and the state after the last one. -/
def run (call : σ → ι → ο × σ) (s : σ) : List ι → List ο × σ
  | [] => ([], s)
  | i :: rest =>
    let (result, next) := call s i
    let (results, last) := run call next rest
    (result :: results, last)

@[simp] theorem run_nil (call : σ → ι → ο × σ) (s : σ) : run call s [] = ([], s) := rfl

@[simp] theorem run_cons (call : σ → ι → ο × σ) (s : σ) (i : ι) (rest : List ι) :
    run call s (i :: rest) =
      ((call s i).1 :: (run call (call s i).2 rest).1, (run call (call s i).2 rest).2) := rfl

/-- Two objects that return the same and stay related in every call do so in every run. -/
theorem run_simulates {call : σ → ι → ο × σ} {call' : τ → ι → ο × τ} (Related : σ → τ → Prop)
    (step : ∀ s t i, Related s t →
      (call s i).1 = (call' t i).1 ∧ Related (call s i).2 (call' t i).2)
    {s : σ} {t : τ} (start : Related s t) (inputs : List ι) :
    (run call s inputs).1 = (run call' t inputs).1 ∧
      Related (run call s inputs).2 (run call' t inputs).2 := by
  induction inputs generalizing s t with
  | nil => exact ⟨rfl, start⟩
  | cons i rest ih =>
    obtain ⟨same, next⟩ := step s t i start
    obtain ⟨results, last⟩ := ih next
    rw [run_cons, run_cons]
    exact ⟨by rw [same, results], last⟩

/-- Every call is admitted in the state in which it is made. -/
def Admitted (call : σ → ι → ο × σ) (admits : σ → ι → Prop) : σ → List ι → Prop
  | _, [] => True
  | s, i :: rest => admits s i ∧ Admitted call admits (call s i).2 rest

/-- Where a call leads from a good state to a good one exactly if it is admitted, a run stays
in good states exactly if all of its calls are admitted. -/
theorem run_good_iff {call : σ → ι → ο × σ} {admits : σ → ι → Prop} (Holds Good : σ → Prop)
    (step : ∀ s i, Holds s → Good s → Holds (call s i).2 ∧ (Good (call s i).2 ↔ admits s i))
    {s : σ} (start : Holds s) (good : Good s) (inputs : List ι) :
    (∀ before, before <+: inputs → Good (run call s before).2) ↔ Admitted call admits s inputs := by
  induction inputs generalizing s with
  | nil =>
    simp only [List.prefix_nil, Admitted, iff_true]
    rintro _ rfl
    exact good
  | cons i rest ih =>
    obtain ⟨holds, first⟩ := step s i start good
    constructor
    · intro all
      have next : Good (call s i).2 := all [i] (List.prefix_append [i] rest)
      refine ⟨first.mp next, (ih holds next).mp ?_⟩
      intro before initial
      exact all (i :: before) (List.cons_prefix_cons.mpr ⟨rfl, initial⟩)
    · rintro ⟨admitted, later⟩ before initial
      have next : Good (call s i).2 := first.mpr admitted
      cases before with
      | nil => exact good
      | cons j before =>
        obtain ⟨rfl, shorter⟩ := List.cons_prefix_cons.mp initial
        exact (ih holds next).mpr later before shorter

/-- A measure that each call raises by what its arguments bring in and lowers by what its
result takes out is balanced over a run. -/
theorem run_balance {call : σ → ι → ο × σ} (measure : σ → Nat) (brought : ι → Nat)
    (taken : ο → Nat)
    (step : ∀ s i, measure (call s i).2 + taken (call s i).1 = measure s + brought i)
    (s : σ) (inputs : List ι) :
    measure (run call s inputs).2 + ((run call s inputs).1.map taken).sum =
      measure s + (inputs.map brought).sum := by
  induction inputs generalizing s with
  | nil => rfl
  | cons i rest ih =>
    have first := step s i
    have later := ih (call s i).2
    rw [run_cons]
    simp only [List.map_cons, List.sum_cons]
    omega

end Calls
