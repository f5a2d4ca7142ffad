import Mathlib.Data.List.DropRight

/-!
# Texts made of lines

A text is cut at its separators, where a separator at the end ends the last line and starts
no other. What surrounds a field of a line is trimmed away. Both are inverse to writing the
lines and the padding.
-/
namespace TextLines

variable {α : Type}

/-! ### Lines -/

section Lines

variable [DecidableEq α] (sep : α)

def split : List α → List (List α)
  | [] => []
  | c :: rest =>
    if c = sep then [] :: split rest
    else match split rest with
      | [] => [[c]]
      | line :: more => (c :: line) :: more

/-- The lines with a separator behind each; `ended` says whether behind the last as well. -/
def join (ended : Bool) : List (List α) → List α
  | [] => []
  | [line] => if ended then line ++ [sep] else line
  | line :: next :: rest => line ++ sep :: join ended (next :: rest)

theorem split_line {line : List α} (clean : sep ∉ line) (rest : List α) :
    split sep (line ++ sep :: rest) = line :: split sep rest := by
  induction line with
  | nil => simp [split]
  | cons c line ih =>
    obtain ⟨other, clean⟩ := not_or.mp (List.mem_cons.not.mp clean)
    rw [List.cons_append, split, if_neg (Ne.symm other), ih clean]

theorem split_last {line : List α} (clean : sep ∉ line) :
    split sep line = if line = [] then [] else [line] := by
  induction line with
  | nil => rfl
  | cons c line ih =>
    obtain ⟨other, clean⟩ := not_or.mp (List.mem_cons.not.mp clean)
    rw [split, if_neg (Ne.symm other), ih clean]
    by_cases empty : line = []
    · simp [empty]
    · simp [empty]

/-- Cutting gives back the lines that were joined. Only an empty last line without a
separator leaves no trace. -/
theorem split_join (ended : Bool) (lines : List (List α)) (clean : ∀ line ∈ lines, sep ∉ line) :
    split sep (join sep ended lines) = lines
      ∨ split sep (join sep ended lines) ++ [[]] = lines := by
  induction lines with
  | nil => exact .inl rfl
  | cons line rest ih =>
    obtain ⟨lineClean, restClean⟩ := List.forall_mem_cons.mp clean
    cases rest with
    | nil =>
      cases ended with
      | true => exact .inl (by simp [join, split_line sep lineClean, split])
      | false =>
        rw [join, if_neg Bool.false_ne_true, split_last sep lineClean]
        by_cases empty : line = []
        · exact .inr (by simp [empty])
        · exact .inl (by simp [empty])
    | cons next rest =>
      rw [join, split_line sep lineClean]
      rcases ih restClean with whole | shorter
      · exact .inl (by rw [whole])
      · exact .inr (by rw [List.cons_append, shorter])

end Lines

/-! ### Padding -/

section Padding

variable (pad : α → Bool)

def trim (l : List α) : List α :=
  (l.dropWhile pad).rdropWhile pad

/-- Neither end is padding. -/
def Trimmed (l : List α) : Prop :=
  (∀ c ∈ l.head?, ¬ pad c) ∧ ∀ c ∈ l.getLast?, ¬ pad c

variable {pad} {left right l : List α}

theorem Trimmed.rdropWhile_eq (trimmed : Trimmed pad l) : l.rdropWhile pad = l := by
  rw [List.rdropWhile_eq_self_iff]
  intro nonempty
  exact trimmed.2 _ (List.getLast?_eq_getLast_of_ne_nil nonempty)

theorem dropWhile_pad_append (padding : ∀ c ∈ left, pad c) (l : List α) :
    (left ++ l).dropWhile pad = l.dropWhile pad :=
  List.dropWhile_append_of_pos padding

theorem rdropWhile_append_pad (padding : ∀ c ∈ right, pad c) (l : List α) :
    (l ++ right).rdropWhile pad = l.rdropWhile pad := by
  have reversed : ∀ c ∈ right.reverse, pad c := fun c inRight => padding c (by simpa using inRight)
  rw [List.rdropWhile, List.reverse_append, List.dropWhile_append_of_pos reversed, List.rdropWhile]

/-- What stands before the last entry that is no padding stays. -/
theorem rdropWhile_append_cons {c : α} (solid : ¬ pad c) (before after : List α) :
    (before ++ c :: after).rdropWhile pad = before ++ c :: after.rdropWhile pad := by
  induction after using List.reverseRecOn with
  | nil => exact List.rdropWhile_concat_neg pad before c solid
  | append_singleton after last ih =>
    have regroup : before ++ c :: (after ++ [last]) = (before ++ c :: after) ++ [last] := by simp
    rw [regroup]
    by_cases padding : pad last
    · rw [List.rdropWhile_concat_pos _ _ _ padding, List.rdropWhile_concat_pos _ _ _ padding, ih]
    · rw [List.rdropWhile_concat_neg _ _ _ padding, List.rdropWhile_concat_neg _ _ _ padding,
        ← regroup]

/-- Trimming takes away the padding that was put around a field. -/
theorem trim_padded (leftPad : ∀ c ∈ left, pad c) (rightPad : ∀ c ∈ right, pad c)
    (trimmed : Trimmed pad l) : trim pad (left ++ l ++ right) = l := by
  rw [trim, List.append_assoc, dropWhile_pad_append leftPad]
  cases l with
  | nil =>
    rw [List.nil_append, List.rdropWhile_eq_nil_iff]
    exact fun c inRight => rightPad c (List.dropWhile_subset _ inRight)
  | cons c rest =>
    rw [List.cons_append, List.dropWhile_cons_of_neg (trimmed.1 c rfl), ← List.cons_append,
      rdropWhile_append_pad rightPad, trimmed.rdropWhile_eq]

theorem trim_padding (padding : ∀ c ∈ l, pad c) : trim pad l = [] := by
  rw [trim, List.rdropWhile_eq_nil_iff]
  exact fun c inRest => padding c (List.dropWhile_subset _ inRest)

/-- Trimming the end of a field first makes no difference. -/
theorem trim_rdropWhile_padded (leftPad : ∀ c ∈ left, pad c) (rightPad : ∀ c ∈ right, pad c)
    (trimmed : Trimmed pad l) : trim pad ((left ++ l ++ right).rdropWhile pad) = l := by
  rw [rdropWhile_append_pad rightPad]
  by_cases empty : l = []
  · subst empty
    rw [List.append_nil, List.rdropWhile_eq_nil_iff.mpr leftPad]
    rfl
  · obtain ⟨init, last, rfl⟩ := (List.eq_nil_or_concat l).resolve_left empty
    rw [List.concat_eq_append] at trimmed ⊢
    have solid : ¬ pad last := trimmed.2 last (by simp)
    rw [← List.append_assoc, List.rdropWhile_concat_neg _ _ _ solid, List.append_assoc]
    have nothing : ∀ c ∈ ([] : List α), pad c := by simp
    simpa using trim_padded leftPad nothing trimmed

end Padding

end TextLines
