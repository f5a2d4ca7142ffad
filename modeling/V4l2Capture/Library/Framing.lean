import Mathlib.Data.List.Basic

/-!
# Framed streams

A stream of records, each a header of fixed size and a body whose length the header
announces. The header codec is a bijection with the strings of that size, so a stream
can be cut in one way only: `encodeAll_compare` says that of two decompositions of
one stream, one continues the other. `contained` selects the records that lie wholly
inside a given length, and `prefix_split` describes every prefix of a stream.
-/
namespace Framing

/-- A header codec together with the body length that a header announces, if the
header is acceptable at all. -/
structure Format (η α : Type) where
  headerSize : Nat
  encode : η → List α
  decode : List α → η
  bodySize : η → Option Nat
  headerSize_pos : 0 < headerSize
  encode_length : ∀ h, (encode h).length = headerSize
  decode_encode : ∀ h rest, decode (encode h ++ rest) = h

variable {η α : Type} {fmt : Format η α}

/-- A record carries a body of exactly the announced length. -/
@[ext] structure Record (fmt : Format η α) where
  header : η
  body : List α
  size : fmt.bodySize header = some body.length

def Record.encode (r : Record fmt) : List α := fmt.encode r.header ++ r.body

def encodeAll (rs : List (Record fmt)) : List α := rs.flatMap Record.encode

@[simp] theorem encodeAll_nil : encodeAll ([] : List (Record fmt)) = [] := rfl

@[simp] theorem encodeAll_cons (r : Record fmt) (rs : List (Record fmt)) :
    encodeAll (r :: rs) = r.encode ++ encodeAll rs := rfl

@[simp] theorem encodeAll_append (rs rs' : List (Record fmt)) :
    encodeAll (rs ++ rs') = encodeAll rs ++ encodeAll rs' := List.flatMap_append

@[simp] theorem Record.encode_length (r : Record fmt) :
    r.encode.length = fmt.headerSize + r.body.length := by
  rw [Record.encode, List.length_append, fmt.encode_length]

/-- The first record of a stream is determined by the stream. -/
theorem head_unique (r r' : Record fmt) (t t' : List α) (same : r.encode ++ t = r'.encode ++ t') :
    r = r' ∧ t = t' := by
  -- The decoder sees the same string twice.
  have header : r.header = r'.header := by
    have left := fmt.decode_encode r.header (r.body ++ t)
    have right := fmt.decode_encode r'.header (r'.body ++ t')
    rw [← List.append_assoc] at left right
    change fmt.decode (r.encode ++ t) = _ at left
    change fmt.decode (r'.encode ++ t') = _ at right
    rw [← left, ← right, same]
  -- Equal headers announce equal sizes, so both strings are cut at the same place.
  have lengths : r.body.length = r'.body.length := by
    have size := r.size
    rw [header, r'.size] at size
    exact (Option.some.inj size).symm
  have parts := List.append_inj same (by simp [lengths])
  refine ⟨Record.ext header ?_, parts.2⟩
  have bodies := parts.1
  rw [Record.encode, Record.encode, header] at bodies
  exact List.append_cancel_left bodies

/-- No record is complete at the head of `tail`. -/
def Stuck (fmt : Format η α) (tail : List α) : Prop :=
  ∀ (r : Record fmt) (t : List α), tail ≠ r.encode ++ t

theorem stuck_of_short (fmt : Format η α) (tail : List α) (short : tail.length < fmt.headerSize) :
    Stuck fmt tail := by
  intro r t equal
  rw [equal, List.length_append, Record.encode_length] at short
  omega

/-- A tail that starts with a header is stuck when the header is not acceptable or
announces more than what follows. -/
theorem stuck_of_header (fmt : Format η α) (h : η) (rest : List α)
    (missing : ∀ n, fmt.bodySize h = some n → rest.length < n) :
    Stuck fmt (fmt.encode h ++ rest) := by
  intro r t equal
  have header : h = r.header := by
    rw [← fmt.decode_encode h rest, equal, Record.encode, List.append_assoc, fmt.decode_encode]
  subst header
  have room := missing _ r.size
  have lengths := congrArg List.length equal
  simp only [List.length_append, Record.encode_length, fmt.encode_length] at lengths
  omega

/-- Of two decompositions of one stream, one continues the other. -/
theorem encodeAll_compare (rs rs' : List (Record fmt)) (t t' : List α)
    (same : encodeAll rs ++ t = encodeAll rs' ++ t') :
    (∃ more, rs' = rs ++ more ∧ t = encodeAll more ++ t') ∨
      (∃ more, rs = rs' ++ more ∧ t' = encodeAll more ++ t) := by
  -- The heads agree by `head_unique`; whichever list ends first decides the case.
  induction rs generalizing rs' with
  | nil => exact Or.inl ⟨rs', rfl, same⟩
  | cons r rs ih =>
    cases rs' with
    | nil => exact Or.inr ⟨r :: rs, rfl, same.symm⟩
    | cons r' rs' =>
      simp only [encodeAll_cons, List.append_assoc] at same
      obtain ⟨equal, rest⟩ := head_unique r r' _ _ same
      subst equal
      rcases ih rs' rest with ⟨more, rfl, tail⟩ | ⟨more, rfl, tail⟩
      · exact Or.inl ⟨more, rfl, tail⟩
      · exact Or.inr ⟨more, rfl, tail⟩

/-- A decomposition that ends in a stuck tail extends every other one. -/
theorem encodeAll_maximal (rs rs' : List (Record fmt)) (t t' : List α)
    (same : encodeAll rs ++ t = encodeAll rs' ++ t') (stuck : Stuck fmt t) :
    ∃ more, rs = rs' ++ more ∧ t' = encodeAll more ++ t := by
  rcases encodeAll_compare rs rs' t t' same with ⟨more, rfl, tail⟩ | found
  · cases more with
    | nil => exact ⟨[], by simp, by simpa using tail.symm⟩
    | cons r more =>
      rw [encodeAll_cons, List.append_assoc] at tail
      exact absurd tail (stuck r _)
  · exact found

theorem encodeAll_unique (rs rs' : List (Record fmt)) (t t' : List α)
    (same : encodeAll rs ++ t = encodeAll rs' ++ t') (stuck : Stuck fmt t)
    (stuck' : Stuck fmt t') : rs = rs' ∧ t = t' := by
  obtain ⟨more, rfl, tail⟩ := encodeAll_maximal rs rs' t t' same stuck
  cases more with
  | nil => exact ⟨by simp, by simpa using tail.symm⟩
  | cons r more =>
    rw [encodeAll_cons, List.append_assoc] at tail
    exact absurd tail (stuck' r _)

/-! ### Prefixes -/

/-- The records that lie wholly inside the first `n` elements of their encoding. -/
def contained : Nat → List (Record fmt) → List (Record fmt)
  | _, [] => []
  | n, r :: rs => if r.encode.length ≤ n then r :: contained (n - r.encode.length) rs else []

/-- The strict prefix of one record is stuck. -/
theorem stuck_of_strict_prefix (r : Record fmt) (p : List α) (inside : p <+: r.encode)
    (strict : p.length < r.encode.length) : Stuck fmt p := by
  rintro r' t rfl
  obtain ⟨rest, equal⟩ := inside
  rw [List.append_assoc] at equal
  have same := head_unique r' r (t ++ rest) [] (by rw [equal, List.append_nil])
  rw [same.1, List.length_append] at strict
  omega

/-- A prefix of a stream is the contained records followed by a stuck tail. -/
theorem prefix_split (rs : List (Record fmt)) (p : List α) (inside : p <+: encodeAll rs) :
    ∃ tail, p = encodeAll (contained p.length rs) ++ tail ∧ Stuck fmt tail := by
  induction rs generalizing p with
  | nil =>
    have empty : p = [] := List.prefix_nil.mp inside
    subst empty
    exact ⟨[], rfl, stuck_of_short fmt [] fmt.headerSize_pos⟩
  | cons r rs ih =>
    rw [encodeAll_cons] at inside
    by_cases whole : r.encode.length ≤ p.length
    -- The first record fits: it is a prefix of `p`, and the rest goes on by induction.
    · obtain ⟨q, rfl⟩ : r.encode <+: p :=
        List.prefix_of_prefix_length_le (List.prefix_append _ _) inside whole
      obtain ⟨tail, split, stuck⟩ := ih q ((List.prefix_append_right_inj _).mp inside)
      refine ⟨tail, ?_, stuck⟩
      rw [contained, if_pos whole, List.length_append, Nat.add_sub_cancel_left, encodeAll_cons,
        List.append_assoc, ← split]
    -- The cut lies inside the first record, so nothing of `p` is complete.
    · refine ⟨p, by rw [contained, if_neg whole]; rfl, stuck_of_strict_prefix r p ?_ (by omega)⟩
      exact List.prefix_of_prefix_length_le inside (List.prefix_append _ _) (by omega)

theorem contained_prefix (n : Nat) (rs : List (Record fmt)) : contained n rs <+: rs := by
  induction rs generalizing n with
  | nil => exact List.prefix_rfl
  | cons r rs ih =>
    rw [contained]
    split
    · exact List.prefix_cons_inj r |>.mpr (ih _)
    · exact List.nil_prefix

end Framing
