import Mathlib.Data.List.Basic

/-!
# Distances in a history

A history is a list to which events are added at its end. `Since` relates every event to
what came behind it, `Before` to what came before it, and `Between` every marked event to what
lies between it and a later target. `behind` is what came behind the last marked event. The
lemmas reduce them to the last event.
-/
namespace History

variable {ε : Type}

/-- Every event and what is behind it. -/
def Since (log : List ε) (holds : ε → List ε → Prop) : Prop :=
  ∀ x rest, (x :: rest) <:+ log → holds x rest

/-- Every event and what is before it. -/
def Before (log : List ε) (holds : List ε → ε → Prop) : Prop :=
  ∀ before x after, log = before ++ x :: after → holds before x

/-- What lies between a marked event and a later target. -/
def Between (log : List ε) (mark target : ε → Prop) (holds : List ε → Prop) : Prop :=
  ∀ x middle y rest, mark x → target y → (x :: middle ++ y :: rest) <:+ log → holds middle

@[simp] theorem since_nil (holds : ε → List ε → Prop) : Since [] holds :=
  fun _ _ inside => by cases List.suffix_nil.mp inside

@[simp] theorem between_nil (mark target : ε → Prop) (holds : List ε → Prop) :
    Between [] mark target holds :=
  fun _ _ _ _ _ _ inside => by cases List.suffix_nil.mp inside

theorem Since.imp {log : List ε} {holds holds' : ε → List ε → Prop} (since : Since log holds)
    (weaker : ∀ x rest, holds x rest → holds' x rest) : Since log holds' :=
  fun x rest inside => weaker x rest (since x rest inside)

theorem since_concat (log : List ε) (e : ε) (holds : ε → List ε → Prop) :
    Since (log ++ [e]) holds ↔ holds e [] ∧ Since log fun x rest => holds x (rest ++ [e]) := by
  constructor
  · intro since
    refine ⟨since e [] (List.suffix_append _ _), ?_⟩
    intro x rest ⟨before, shape⟩
    exact since x (rest ++ [e]) ⟨before, by rw [← shape]; simp⟩
  -- A nonempty suffix is the last event alone, or a suffix of the log with it at the end.
  · rintro ⟨last, since⟩ x rest inside
    rcases List.suffix_concat_iff.mp inside with empty | ⟨start, shape, within⟩
    · cases empty
    · cases start with
      | nil =>
        cases shape
        exact last
      | cons y start =>
        cases shape
        exact since x start within

@[simp] theorem before_nil (holds : List ε → ε → Prop) : Before [] holds := by
  intro before x after shape
  simp at shape

theorem before_concat (log : List ε) (e : ε) (holds : List ε → ε → Prop) :
    Before (log ++ [e]) holds ↔ Before log holds ∧ holds log e := by
  constructor
  · intro all
    refine ⟨fun before x after shape => ?_, all log e [] rfl⟩
    exact all before x (after ++ [e]) (by rw [shape]; simp)
  · rintro ⟨earlier, last⟩ before x after shape
    rcases List.eq_nil_or_concat after with rfl | ⟨init, final, rfl⟩
    · obtain ⟨rfl, same⟩ := List.append_inj' shape rfl
      cases same
      exact last
    · rw [List.concat_eq_append, ← List.cons_append, ← List.append_assoc] at shape
      exact earlier before x init (List.append_inj' shape rfl).1

theorem between_concat (log : List ε) (e : ε) (mark target : ε → Prop) (holds : List ε → Prop) :
    Between (log ++ [e]) mark target holds ↔ Between log mark target holds ∧
      (target e → Since log fun x rest => mark x → holds rest) := by
  constructor
  · intro between
    refine ⟨fun x middle y rest marked aimed ⟨before, shape⟩ => ?_,
      fun aimed x rest ⟨before, shape⟩ marked => ?_⟩
    · exact between x middle y (rest ++ [e]) marked aimed ⟨before, by rw [← shape]; simp⟩
    · exact between x rest e [] marked aimed ⟨before, by rw [← shape]; simp⟩
  · rintro ⟨between, since⟩ x middle y rest marked aimed inside
    rcases List.suffix_concat_iff.mp inside with empty | ⟨start, shape, within⟩
    · cases empty
    -- Either the target is the new event, or the new event lies behind the target.
    · rcases List.eq_nil_or_concat rest with rfl | ⟨init, last, rfl⟩
      · have parts : x :: middle = start ∧ y = e := by
          have := List.append_inj' shape rfl
          simpa using this
        obtain ⟨rfl, rfl⟩ := parts
        exact since aimed x middle within marked
      · have shape : (x :: middle ++ y :: init) ++ [last] = start ++ [e] := by simpa using shape
        obtain ⟨rfl, _⟩ := List.append_inj' shape rfl
        exact between x middle y init marked aimed within

/-- The events behind the last marked one, the latest first. -/
def behind (mark : ε → Bool) (log : List ε) : List ε :=
  log.reverse.takeWhile fun e => !mark e

@[simp] theorem behind_concat (mark : ε → Bool) (log : List ε) (e : ε) :
    behind mark (log ++ [e]) = if mark e then [] else e :: behind mark log := by
  rw [behind, List.reverse_append, List.reverse_singleton, List.singleton_append,
    List.takeWhile_cons]
  cases mark e <;> rfl

/-- Unmarked events are all behind the marked one before them. -/
theorem behind_append_cons {mark : ε → Bool} {x : ε} (marked : mark x = true) (before : List ε)
    {later : List ε} (unmarked : ∀ e ∈ later, mark e = false) :
    behind mark (before ++ x :: later) = later.reverse := by
  rw [behind, List.reverse_append, List.reverse_cons, List.append_assoc,
    List.takeWhile_append_of_pos, List.singleton_append, List.takeWhile_cons_of_neg,
    List.append_nil]
  · simp [marked]
  · intro e member
    simp [unmarked e (List.mem_reverse.mp member)]

end History
