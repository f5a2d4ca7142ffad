import Mathlib.Logic.Relation

/-!
# Labelled transition functions

A system is given by a function that takes a state and an action to the next state, if
the action is possible there. `Reaches` is the closure of its steps, `invariant` the
induction rule for what holds in every state reached, and `reaches_of_run` turns an
evaluated list of actions into a derivation. `observing` is the system together with a record
of what its steps show.
-/
namespace Transition

variable {σ α ε : Type}

/-- `s'` comes after some steps from `s`. -/
abbrev Reaches (step : σ → α → Option σ) : σ → σ → Prop :=
  Relation.ReflTransGen fun s s' => ∃ a, step s a = some s'

/-- What holds at the start and is kept by every step holds wherever the steps lead. -/
theorem invariant {step : σ → α → Option σ} {start s : σ} (holds : σ → Prop)
    (initially : holds start)
    (keeps : ∀ s a s', Reaches step start s → holds s → step s a = some s' → holds s')
    (reached : Reaches step start s) : holds s := by
  induction reached with
  | refl => exact initially
  | tail before last ih =>
    obtain ⟨a, taken⟩ := last
    exact keeps _ a _ before ih taken

def run (step : σ → α → Option σ) (s : σ) : List α → Option σ
  | [] => some s
  | a :: rest => (step s a).bind fun s' => run step s' rest

theorem reaches_of_run {step : σ → α → Option σ} {s s' : σ} {actions : List α}
    (ran : run step s actions = some s') : Reaches step s s' := by
  induction actions generalizing s with
  | nil =>
    cases ran
    exact .refl
  | cons a rest ih =>
    obtain ⟨next, taken, later⟩ := Option.bind_eq_some_iff.mp ran
    exact .head ⟨a, taken⟩ (ih later)

/-- An evaluated run reaches a state with a decidable property. -/
theorem exists_reached {step : σ → α → Option σ} {s : σ} {holds : σ → Prop}
    [DecidablePred holds] (actions : List α)
    (ran : (run step s actions).any (fun s' => holds s') = true) :
    ∃ s', Reaches step s s' ∧ holds s' := by
  obtain ⟨s', last, property⟩ := (Option.any_eq_true _ _).mp ran
  exact ⟨s', reaches_of_run last, of_decide_eq_true property⟩

/-! ### Observations -/

/-- Every step adds to the record what it shows. -/
def observing (step : σ → α → Option σ) (observe : σ → σ → List ε) :
    σ × List ε → α → Option (σ × List ε) :=
  fun (s, seen) a => (step s a).map fun s' => (s', seen ++ observe s s')

/-- A run leads to the state `s`, and `seen` is its record. -/
abbrev ReachesWith (step : σ → α → Option σ) (observe : σ → σ → List ε) (start s : σ)
    (seen : List ε) : Prop :=
  Reaches (observing step observe) (start, []) (s, seen)

theorem reaches_of_observing {step : σ → α → Option σ} {observe : σ → σ → List ε}
    {r r' : σ × List ε} (observed : Reaches (observing step observe) r r') :
    Reaches step r.1 r'.1 := by
  induction observed with
  | refl => exact .refl
  | tail _ last ih =>
    obtain ⟨a, taken⟩ := last
    obtain ⟨s', step, rfl⟩ := Option.map_eq_some_iff.mp taken
    exact ih.tail ⟨a, step⟩

/-- The induction rule for what relates the record to the state. -/
theorem observed_invariant {step : σ → α → Option σ} {observe : σ → σ → List ε} {start s : σ}
    {seen : List ε} (holds : σ → List ε → Prop) (initially : holds start [])
    (keeps : ∀ s seen a s', Reaches step start s → holds s seen → step s a = some s' →
      holds s' (seen ++ observe s s'))
    (observed : ReachesWith step observe start s seen) : holds s seen := by
  refine invariant (fun r => holds r.1 r.2) initially (fun r a r' before kept taken => ?_) observed
  obtain ⟨s', step, rfl⟩ := Option.map_eq_some_iff.mp taken
  exact keeps r.1 r.2 a s' (reaches_of_observing before) kept step

end Transition
