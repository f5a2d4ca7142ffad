import Mathlib.Data.List.Basic

/-!
# Programs that leave a trace

A program acts on a state, step by step, and returns a value or throws a message. Its
outcome lists the states after each of its steps, so that a claim about every moment of a
call can be stated. `wp` is the weakest precondition for a condition on all moments and
one for each way to end; its rules follow the program's structure.
-/
namespace Traced

variable {σ α β ι : Type}

structure Outcome (σ α : Type) where
  /-- The states after the steps, in their order. -/
  moments : List σ
  result : Except String α
  final : σ

def Program (σ α : Type) := σ → Outcome σ α

namespace Program

protected def pure (a : α) : Program σ α := fun s => ⟨[], .ok a, s⟩

protected def bind (p : Program σ α) (f : α → Program σ β) : Program σ β := fun s =>
  match (p s).result with
  | .ok a =>
    let rest := f a (p s).final
    ⟨(p s).moments ++ rest.moments, rest.result, rest.final⟩
  | .error e => ⟨(p s).moments, .error e, (p s).final⟩

instance : Monad (Program σ) where
  pure := Program.pure
  bind := Program.bind

def read : Program σ σ := fun s => ⟨[], .ok s, s⟩

/-- One step, which no other moment divides. -/
def step (f : σ → σ) : Program σ Unit := fun s => ⟨[f s], .ok (), f s⟩

def fail (message : String) : Program σ α := fun s => ⟨[], .error message, s⟩

def failIf (c : Prop) [Decidable c] (message : String) : Program σ Unit :=
  if c then fail message else Pure.pure ()

/-- Runs the handler behind an exception. -/
def orElse (p : Program σ α) (handler : String → Program σ α) : Program σ α := fun s =>
  match (p s).result with
  | .ok _ => p s
  | .error e =>
    let rest := handler e (p s).final
    ⟨(p s).moments ++ rest.moments, rest.result, rest.final⟩

/-- Runs the second program behind the first, also when that throws, and rethrows. -/
def andFinally (p : Program σ α) (cleanup : Program σ Unit) : Program σ α := fun s =>
  let rest := cleanup (p s).final
  ⟨(p s).moments ++ rest.moments,
    match rest.result with
    | .ok _ => (p s).result
    | .error e => .error e,
    rest.final⟩

def forEach (body : ι → Program σ Unit) : List ι → Program σ Unit
  | [] => Pure.pure ()
  | i :: rest => do
    body i
    forEach body rest

end Program

open Program

/-! ### Weakest preconditions -/

/-- From `s`, every moment satisfies `always`, and the end satisfies the condition for the way
the program ends. -/
structure wp (p : Program σ α) (always : σ → Prop) (returns : α → σ → Prop)
    (throws : String → σ → Prop) (s : σ) : Prop where
  moments : ∀ m ∈ (p s).moments, always m
  returned : ∀ a, (p s).result = .ok a → returns a (p s).final
  thrown : ∀ e, (p s).result = .error e → throws e (p s).final

section Rules

variable {p : Program σ α} {always always' : σ → Prop} {returns returns' : α → σ → Prop}
  {throws throws' : String → σ → Prop} {s : σ}

theorem wp_mono (spec : wp p always returns throws s) (moment : ∀ m, always m → always' m)
    (returned : ∀ a m, returns a m → returns' a m) (thrown : ∀ e m, throws e m → throws' e m) :
    wp p always' returns' throws' s :=
  ⟨fun m member => moment m (spec.moments m member),
    fun a ended => returned a _ (spec.returned a ended),
    fun e ended => thrown e _ (spec.thrown e ended)⟩

/-- What the program ensures however it ends holds in its last state. -/
theorem wp_final {after : σ → Prop}
    (spec : wp p always (fun _ => after) (fun _ => after) s) : after (p s).final := by
  cases ended : (p s).result with
  | ok a => exact spec.returned a ended
  | error e => exact spec.thrown e ended

/-- Other conditions on how the program ends. -/
theorem wp_ends (spec : wp p always returns throws s)
    (returned : ∀ a m, returns a m → returns' a m) (thrown : ∀ e m, throws e m → throws' e m) :
    wp p always returns' throws' s :=
  wp_mono spec (fun _ moment => moment) returned thrown

/-- Another condition on how the program returns. -/
theorem wp_post (spec : wp p always returns throws s)
    (returned : ∀ a m, returns a m → returns' a m) : wp p always returns' throws s :=
  wp_ends spec returned fun _ _ thrown => thrown

@[simp] theorem wp_pure (a : α) : wp (Pure.pure a) always returns throws s ↔ returns a s := by
  constructor
  · intro spec
    exact spec.returned a rfl
  · intro holds
    refine ⟨fun m member => absurd member List.not_mem_nil, ?_, ?_⟩
    · intro b ended
      cases ended
      exact holds
    · intro e ended
      cases ended

@[simp] theorem wp_fail (message : String) :
    wp (fail message : Program σ α) always returns throws s ↔ throws message s := by
  constructor
  · intro spec
    exact spec.thrown message rfl
  · intro holds
    refine ⟨fun m member => absurd member List.not_mem_nil, ?_, ?_⟩
    · intro a ended
      cases ended
    · intro e ended
      cases ended
      exact holds

@[simp] theorem wp_failIf {returns : Unit → σ → Prop} (c : Prop) [Decidable c] (message : String) :
    wp (failIf c message) always returns throws s ↔
      (c → throws message s) ∧ (¬ c → returns () s) := by
  by_cases holds : c
  · simp [failIf, holds]
  · simp [failIf, holds]

@[simp] theorem wp_read {returns : σ → σ → Prop} :
    wp read always returns throws s ↔ returns s s := by
  constructor
  · intro spec
    exact spec.returned s rfl
  · intro holds
    refine ⟨fun m member => absurd member List.not_mem_nil, ?_, ?_⟩
    · intro a ended
      cases ended
      exact holds
    · intro e ended
      cases ended

@[simp] theorem wp_step {returns : Unit → σ → Prop} (f : σ → σ) :
    wp (step f) always returns throws s ↔ always (f s) ∧ returns () (f s) := by
  constructor
  · intro spec
    exact ⟨spec.moments (f s) List.mem_cons_self, spec.returned () rfl⟩
  · rintro ⟨moment, holds⟩
    refine ⟨?_, ?_, ?_⟩
    · intro m member
      rw [List.mem_singleton.mp member]
      exact moment
    · intro a ended
      exact holds
    · intro e ended
      cases ended

/-- Behind the first program, the second one runs from where it ended. -/
@[simp] theorem wp_bind {returns : β → σ → Prop} (f : α → Program σ β) :
    wp (p >>= f) always returns throws s ↔
      wp p always (fun a => wp (f a) always returns throws) throws s := by
  have unfolded : (p >>= f) s = Program.bind p f s := rfl
  cases ended : (p s).result with
  | ok a =>
    have whole : (p >>= f) s = ⟨(p s).moments ++ (f a (p s).final).moments,
        (f a (p s).final).result, (f a (p s).final).final⟩ := by
      rw [unfolded, Program.bind, ended]
    constructor
    -- The moments of both programs follow each other in the list.
    · rintro ⟨moments, returned, thrown⟩
      rw [whole] at moments returned thrown
      refine ⟨fun m member => moments m (List.mem_append_left _ member), ?_, ?_⟩
      · intro b same
        cases ended.symm.trans same
        exact ⟨fun m member => moments m (List.mem_append_right _ member), returned, thrown⟩
      · intro e failed
        cases ended.symm.trans failed
    · rintro ⟨moments, returned, _⟩
      have rest := returned a ended
      refine ⟨?_, ?_, ?_⟩
      · intro m member
        rw [whole] at member
        rcases List.mem_append.mp member with earlier | later
        · exact moments m earlier
        · exact rest.moments m later
      · rw [whole]
        exact rest.returned
      · rw [whole]
        exact rest.thrown
  -- The second program does not run.
  | error e =>
    have whole : (p >>= f) s = ⟨(p s).moments, .error e, (p s).final⟩ := by
      rw [unfolded, Program.bind, ended]
    constructor
    · rintro ⟨moments, _, thrown⟩
      rw [whole] at moments thrown
      refine ⟨moments, ?_, ?_⟩
      · intro a returned
        cases ended.symm.trans returned
      · intro e' failed
        cases ended.symm.trans failed
        exact thrown e rfl
    · rintro ⟨moments, _, thrown⟩
      refine ⟨by rw [whole]; exact moments, ?_, ?_⟩
      · intro b returned
        rw [whole] at returned
        cases returned
      · intro e' failed
        rw [whole] at failed ⊢
        cases failed
        exact thrown e ended

/-- The second program runs under what the first one ensures. -/
theorem wp_seq {returns : β → σ → Prop} {between : α → σ → Prop} {f : α → Program σ β}
    (first : wp p always between throws s)
    (second : ∀ a m, between a m → wp (f a) always returns throws m) :
    wp (p >>= f) always returns throws s :=
  (wp_bind f).mpr (wp_post first second)

/-- An exception is handled from where it was thrown. -/
theorem wp_orElse {handler : String → Program σ α}
    (spec : wp p always returns (fun e => wp (handler e) always returns throws) s) :
    wp (p.orElse handler) always returns throws s := by
  cases ended : (p s).result with
  | ok a =>
    have whole : p.orElse handler s = p s := by rw [orElse, ended]
    refine ⟨by rw [whole]; exact spec.moments, by rw [whole]; exact spec.returned, ?_⟩
    intro e failed
    rw [whole] at failed
    cases ended.symm.trans failed
  | error e =>
    have whole : p.orElse handler s = ⟨(p s).moments ++ (handler e (p s).final).moments,
        (handler e (p s).final).result, (handler e (p s).final).final⟩ := by
      rw [orElse, ended]
    have rest := spec.thrown e ended
    refine ⟨?_, by rw [whole]; exact rest.returned, by rw [whole]; exact rest.thrown⟩
    intro m member
    rw [whole] at member
    rcases List.mem_append.mp member with earlier | later
    · exact spec.moments m earlier
    · exact rest.moments m later

/-- A cleanup that does not throw itself keeps the way its program ends. -/
theorem wp_andFinally {cleanup : Program σ Unit}
    (spec : wp p always (fun a => wp cleanup always (fun _ => returns a) fun _ _ => False)
      (fun e => wp cleanup always (fun _ => throws e) fun _ _ => False) s) :
    wp (p.andFinally cleanup) always returns throws s := by
  -- One condition on the end of the cleanup, whichever way the program ended before it.
  have cleaned : ∃ after : σ → Prop, wp cleanup always (fun _ => after) (fun _ _ => False)
      (p s).final ∧ (∀ a, (p s).result = .ok a → ∀ m, after m → returns a m) ∧
      ∀ e, (p s).result = .error e → ∀ m, after m → throws e m := by
    cases ended : (p s).result with
    | ok a =>
      refine ⟨returns a, spec.returned a ended, ?_, ?_⟩
      · intro b same m holds
        cases same
        exact holds
      · intro e failed
        cases failed
    | error e =>
      refine ⟨throws e, spec.thrown e ended, ?_, ?_⟩
      · intro a returned
        cases returned
      · intro e' same m holds
        cases same
        exact holds
  obtain ⟨after, rest, returned, thrown⟩ := cleaned
  have quiet : ∃ done, (cleanup (p s).final).result = .ok done := by
    cases ended : (cleanup (p s).final).result with
    | ok done => exact ⟨done, rfl⟩
    | error e => exact absurd (rest.thrown e ended) id
  obtain ⟨done, ended⟩ := quiet
  have result : (p.andFinally cleanup s).result = (p s).result := by
    simp only [andFinally, ended]
  refine ⟨?_, ?_, ?_⟩
  · intro m member
    rcases List.mem_append.mp member with earlier | later
    · exact spec.moments m earlier
    · exact rest.moments m later
  · intro a same
    exact returned a (result.symm.trans same) _ (rest.returned done ended)
  · intro e same
    exact thrown e (result.symm.trans same) _ (rest.returned done ended)

/-- A loop over a list keeps an invariant of the items still to come. -/
theorem wp_forEach {body : ι → Program σ Unit} (inv : List ι → σ → Prop)
    (round : ∀ i rest s, inv (i :: rest) s →
      wp (body i) always (fun _ => inv rest) throws s)
    (items : List ι) (start : inv items s) :
    wp (forEach body items) always (fun _ => inv []) throws s := by
  induction items generalizing s with
  | nil => exact (wp_pure ()).mpr start
  | cons i rest ih =>
    apply wp_seq (round i rest s start)
    intro _ m holds
    exact ih holds

end Rules

end Traced
