import V4l2Capture.Library.Decimals
import V4l2Capture.Library.JsonString

/-!
# Flat JSON documents

A reader for one object whose members are strings, truth values and numbers without an exponent,
and the layout of such a document with one member a line. `read_document` says that the reader
finds in the lines what their texts denote.
-/
namespace JsonDocument

open JsonString Decimals

inductive Value where
  | text (bytes : List UInt8)
  | number (value : ℚ)
  | truth (value : Bool)
  deriving DecidableEq, Repr

abbrev Member := List UInt8 × Value

/-! ### The reader -/

def isSpace (b : UInt8) : Bool :=
  b == 0x20 || b == 0x0A || b == 0x0D || b == 0x09

def skip (text : List UInt8) : List UInt8 := text.dropWhile isSpace

def point : UInt8 := 0x2E

/-- Digits without a needless zero in front, and places behind a point, if there is one. -/
def readUnsigned (text : List UInt8) : Option (ℚ × List UInt8) :=
  let whole := text.takeWhile isDigit
  if whole = [] ∨ whole.head? = some (digitByte 0) ∧ whole ≠ [digitByte 0] then none
  else
    match text.dropWhile isDigit with
    | [] => some (valueOf whole, [])
    | b :: behind =>
      if b = point then
        let places := behind.takeWhile isDigit
        if places = [] then none
        else some ((valueOf (whole ++ places) : ℚ) / 10 ^ places.length,
          behind.dropWhile isDigit)
      else some (valueOf whole, b :: behind)

def readNumber : List UInt8 → Option (ℚ × List UInt8)
  | [] => none
  | b :: rest =>
    if b = 0x2D then (readUnsigned rest).map fun (value, left) => (-value, left)
    else readUnsigned (b :: rest)

def trueText : List UInt8 := [0x74, 0x72, 0x75, 0x65]
def falseText : List UInt8 := [0x66, 0x61, 0x6C, 0x73, 0x65]

def readTruth (text : List UInt8) : Option (Bool × List UInt8) :=
  if trueText.isPrefixOf text then some (true, text.drop trueText.length)
  else if falseText.isPrefixOf text then some (false, text.drop falseText.length)
  else none

def readValue (text : List UInt8) : Option (Value × List UInt8) :=
  if text.head? = some quote then (readString text).map (Prod.map .text id)
  else
    match readTruth text with
    | some (value, left) => some (.truth value, left)
    | none => (readNumber text).map (Prod.map .number id)

def readMember (text : List UInt8) : Option (Member × List UInt8) := do
  let (key, behind) ← readString (skip text)
  match skip behind with
  | 0x3A :: rest =>
    let (value, left) ← readValue (skip rest)
    return ((key, value), left)
  | _ => none

/-- Members up to the closing brace, at most as many as `most`. -/
def readMembers : Nat → List UInt8 → Option (List Member × List UInt8)
  | 0, _ => none
  | most + 1, text => do
    let (member, behind) ← readMember text
    match skip behind with
    | 0x2C :: rest => (readMembers most rest).map (Prod.map (member :: ·) id)
    | 0x7D :: rest => some ([member], rest)
    | _ => none

/-- Reads a text that is an object and white space behind it. -/
def read (text : List UInt8) : Option (List Member) :=
  match skip text with
  | 0x7B :: rest =>
    match skip rest with
    | 0x7D :: left => if skip left = [] then some [] else none
    | _ =>
      match readMembers rest.length rest with
      | some (members, left) => if skip left = [] then some members else none
      | none => none
  | _ => none

/-! ### Texts of values -/

/-- No number goes on here. -/
def Ends (rest : List UInt8) : Prop :=
  ∀ b ∈ rest.head?, isDigit b = false ∧ b ≠ point

/-- The text reads as the value, whatever follows it in a document. -/
structure Denotes (text : List UInt8) (value : Value) : Prop where
  solid : ∀ b ∈ text.head?, isSpace b = false
  nonempty : text ≠ []
  reads : ∀ rest, Ends rest → readValue (text ++ rest) = some (value, rest)

theorem span_digits {digits rest : List UInt8} (all : ∀ b ∈ digits, isDigit b = true)
    (ends : ∀ b ∈ rest.head?, isDigit b = false) :
    (digits ++ rest).takeWhile isDigit = digits ∧ (digits ++ rest).dropWhile isDigit = rest := by
  rw [List.takeWhile_append_of_pos all, List.dropWhile_append_of_pos all]
  cases rest with
  | nil => simp
  | cons b rest =>
    have other := ends b rfl
    simp [other]

theorem isDigit_iff (b : UInt8) : isDigit b = true ↔ 0x30 ≤ b ∧ b ≤ 0x39 := by
  rw [isDigit, Bool.and_eq_true, decide_eq_true_iff, decide_eq_true_iff]

section Numbers

variable {rest : List UInt8}

theorem readUnsigned_decimal (n : Nat) (ends : Ends rest) :
    readUnsigned (decimal n ++ rest) = some ((n : ℚ), rest) := by
  obtain ⟨whole, behind⟩ := span_digits (decimal_digits n) fun b head => (ends b head).1
  have plain : ¬ (decimal n = [] ∨
      (decimal n).head? = some (digitByte 0) ∧ decimal n ≠ [digitByte 0]) := by
    rintro (empty | ⟨zero, more⟩)
    · exact decimal_ne_nil n empty
    · exact more (decimal_head zero)
  rw [readUnsigned, whole, behind]
  dsimp only
  rw [if_neg plain, valueOf_decimal]
  cases rest with
  | nil => rfl
  | cons b rest =>
    dsimp only
    rw [if_neg (ends b rfl).2]

theorem readUnsigned_fixed (places n : Nat) (positive : 0 < places) (ends : Ends rest) :
    readUnsigned (decimal (n / 10 ^ places) ++ point :: (padded places n ++ rest)) =
      some ((n : ℚ) / 10 ^ places, rest) := by
  have pointed : ∀ b ∈ (point :: (padded places n ++ rest)).head?, isDigit b = false := by
    intro b head
    obtain rfl := Option.some.inj head
    decide
  obtain ⟨whole, behind⟩ := span_digits (decimal_digits (n / 10 ^ places)) pointed
  obtain ⟨fraction, left⟩ := span_digits (padded_digits places n) fun b head => (ends b head).1
  have plain : ¬ (decimal (n / 10 ^ places) = [] ∨
      (decimal (n / 10 ^ places)).head? = some (digitByte 0) ∧
        decimal (n / 10 ^ places) ≠ [digitByte 0]) := by
    rintro (empty | ⟨zero, more⟩)
    · exact decimal_ne_nil _ empty
    · exact more (decimal_head zero)
  have some : padded places n ≠ [] := by
    intro empty
    have length := padded_length places n
    rw [empty, List.length_nil] at length
    omega
  rw [readUnsigned, whole, behind]
  dsimp only
  rw [if_neg plain, if_pos rfl, fraction, left, if_neg some, valueOf_parts, padded_length]

theorem readTruth_other {b : UInt8} (notTrue : b ≠ 0x74) (notFalse : b ≠ 0x66) :
    readTruth (b :: rest) = none := by
  simp [readTruth, trueText, falseText, List.isPrefixOf, notTrue.symm, notFalse.symm]

/-- What begins with a digit or a minus is read as a number. -/
theorem readValue_number {b : UInt8} (numeral : b = 0x2D ∨ isDigit b = true) :
    readValue (b :: rest) = (readNumber (b :: rest)).map (Prod.map .number id) := by
  have other : b ≠ quote ∧ b ≠ 0x74 ∧ b ≠ 0x66 := by
    refine ⟨?_, ?_, ?_⟩ <;>
      (rintro rfl; revert numeral; decide)
  have notQuote : ¬ (b :: rest).head? = some quote := fun same => other.1 (Option.some.inj same)
  rw [readValue, if_neg notQuote, readTruth_other other.2.1 other.2.2]

theorem readNumber_unsigned {b : UInt8} (digit : isDigit b = true) :
    readNumber (b :: rest) = readUnsigned (b :: rest) := by
  have unsigned : ¬ b = 0x2D := by
    rintro rfl
    exact absurd digit (by decide)
  rw [readNumber, if_neg unsigned]

theorem isSpace_of_numeral {b : UInt8} (numeral : b = 0x2D ∨ isDigit b = true) :
    isSpace b = false := by
  rcases numeral with rfl | digit
  · decide
  · have low := ((isDigit_iff b).mp digit).1
    have other : ∀ c : UInt8, c < 0x30 → b ≠ c :=
      fun c less same => UInt8.not_lt.mpr low (same ▸ less)
    simp [isSpace, other]

/-- What is read as a number, in front of anything that ends it. -/
theorem denotes_number {b : UInt8} {text : List UInt8} {value : ℚ}
    (numeral : b = 0x2D ∨ isDigit b = true)
    (reads : ∀ rest, Ends rest → readNumber (b :: (text ++ rest)) = some (value, rest)) :
    Denotes (b :: text) (.number value) where
  solid c head := by
    obtain rfl := Option.some.inj head
    exact isSpace_of_numeral numeral
  nonempty := List.cons_ne_nil _ _
  reads rest ends := by
    rw [List.cons_append, readValue_number numeral, reads rest ends]
    rfl

theorem denotes_decimal (n : Nat) : Denotes (decimal n) (.number n) := by
  obtain ⟨b, digits, shape⟩ := List.exists_cons_of_ne_nil (decimal_ne_nil n)
  have digit : isDigit b = true := decimal_digits n b (by rw [shape]; simp)
  rw [shape]
  refine denotes_number (.inr digit) fun rest ends => ?_
  rw [readNumber_unsigned digit, ← List.cons_append, ← shape, readUnsigned_decimal n ends]

theorem denotes_integer (n : Int) : Denotes (integer n) (.number n) := by
  rw [integer]
  split
  next negative =>
    have sign : (n : ℚ) = -(n.natAbs : ℚ) := by
      rw [← Int.cast_natCast, ← Int.cast_neg]
      congr 1
      omega
    rw [sign]
    refine denotes_number (.inl rfl) fun rest ends => ?_
    rw [readNumber, if_pos rfl, readUnsigned_decimal n.natAbs ends, Option.map_some]
  next positive =>
    have same : (n : ℚ) = (n.natAbs : ℚ) := by
      rw [← Int.cast_natCast]
      congr 1
      omega
    rw [same]
    exact denotes_decimal n.natAbs

theorem denotes_fixedPoint (places : Nat) (q : ℚ) (positive : 0 < places) :
    Denotes (fixedPoint places q) (.number (fixedValue places q)) := by
  rw [fixedPoint, fixedValue]
  split
  · rw [List.singleton_append]
    refine denotes_number (.inl rfl) fun rest ends => ?_
    rw [readNumber, if_pos rfl, List.append_assoc, List.cons_append]
    have unsigned := readUnsigned_fixed places (units places q) positive ends
    rw [point] at unsigned
    rw [unsigned, Option.map_some, neg_one_mul]
  · obtain ⟨b, digits, shape⟩ :=
      List.exists_cons_of_ne_nil (decimal_ne_nil (units places q / 10 ^ places))
    have digit : isDigit b = true :=
      decimal_digits (units places q / 10 ^ places) b (by rw [shape]; simp)
    rw [List.nil_append, shape, List.cons_append, one_mul]
    refine denotes_number (.inr digit) fun rest ends => ?_
    have unsigned := readUnsigned_fixed places (units places q) positive ends
    rw [point, shape, List.cons_append] at unsigned
    rw [readNumber_unsigned digit, List.append_assoc, List.cons_append, unsigned]

end Numbers

theorem denotes_truth (value : Bool) :
    Denotes (if value then trueText else falseText) (.truth value) := by
  cases value with
  | true => exact ⟨by simp [trueText, isSpace], by decide, fun rest _ => rfl⟩
  | false => exact ⟨by simp [falseText, isSpace], by decide, fun rest _ => rfl⟩

theorem denotes_literal {body bytes : List UInt8}
    (literal : ∀ rest, readString (quote :: body ++ quote :: rest) = some (bytes, rest)) :
    Denotes (quote :: body ++ [quote]) (.text bytes) where
  solid c head := by
    obtain rfl := Option.some.inj head
    decide
  nonempty := List.cons_ne_nil _ _
  reads rest _ := by
    have shape : quote :: body ++ [quote] ++ rest = quote :: body ++ quote :: rest := by simp
    rw [shape, readValue, if_pos (by rfl), literal rest]
    rfl

/-! ### Documents -/

/-- A member as it is printed on a line. -/
structure Line where
  key : List UInt8
  text : List UInt8
  deriving DecidableEq, Repr

def Line.bytes (line : Line) : List UInt8 :=
  [0x20, 0x20, quote] ++ (line.key ++ ([quote, 0x3A, 0x20] ++ line.text))

/-- Lines with a comma behind each but the last one. -/
def linesBytes : List Line → List UInt8
  | [] => []
  | [last] => last.bytes ++ [0x0A]
  | line :: next :: rest => line.bytes ++ ([0x2C, 0x0A] ++ linesBytes (next :: rest))

def document (lines : List Line) : List UInt8 :=
  [0x7B, 0x0A] ++ (linesBytes lines ++ [0x7D, 0x0A])

/-- The key needs no escape. -/
def Plain (key : List UInt8) : Prop :=
  ∀ b ∈ key, 0x20 ≤ b ∧ b ≠ quote ∧ b ≠ backslash

instance : DecidablePred Plain := fun key => List.decidableBAll _ key

/-- The line shows the member. -/
structure Line.Shows (line : Line) (member : Member) : Prop where
  plain : Plain line.key
  key : line.key = member.1
  value : Denotes line.text member.2

theorem lexes_plain {key : List UInt8} (plain : Plain key) :
    Lexes key (key.map .plain) ∧ meaning (key.map .plain) = some key := by
  induction key with
  | nil => exact ⟨.nil, rfl⟩
  | cons b key ih =>
    obtain ⟨lexes, means⟩ := ih fun c member => plain c (List.mem_cons_of_mem b member)
    obtain ⟨printable, notQuote, notBackslash⟩ := plain b List.mem_cons_self
    refine ⟨.unescaped printable notQuote notBackslash lexes, ?_⟩
    rw [List.map_cons, meaning, means, Option.map_some]

theorem skip_solid {text : List UInt8} (solid : ∀ b ∈ text.head?, isSpace b = false) :
    skip text = text := by
  cases text with
  | nil => rfl
  | cons b rest => rw [skip, List.dropWhile_cons_of_neg (by simp [solid b rfl])]

theorem readMember_line {line : Line} {member : Member} {rest : List UInt8}
    (shown : line.Shows member) (ends : Ends rest) :
    readMember (line.bytes ++ rest) = some (member, rest) := by
  obtain ⟨lexes, means⟩ := lexes_plain shown.plain
  obtain ⟨b, text, shape⟩ := List.exists_cons_of_ne_nil shown.value.nonempty
  have spaces : skip (line.bytes ++ rest) =
      quote :: line.key ++ quote :: (0x3A :: 0x20 :: (line.text ++ rest)) := by
    simp [Line.bytes, skip, isSpace, quote]
  have colon : skip (0x3A :: 0x20 :: (line.text ++ rest)) =
      0x3A :: 0x20 :: (line.text ++ rest) := skip_solid (by simp [isSpace])
  have blank : skip (0x20 :: (line.text ++ rest)) = line.text ++ rest := by
    have solid := shown.value.solid
    rw [shape] at solid ⊢
    rw [skip, List.dropWhile_cons_of_pos (by decide), List.cons_append, ← skip]
    exact skip_solid solid
  rw [readMember, spaces, readString_literal lexes means]
  simp only [Option.bind_eq_bind, Option.bind_some, colon, blank, shown.value.reads rest ends]
  rw [shown.key]
  rfl

theorem ends_other {b : UInt8} {rest : List UInt8} (other : isDigit b = false ∧ b ≠ point) :
    Ends (b :: rest) := by
  intro c head
  obtain rfl := Option.some.inj head
  exact other

/-- White space in front of members does not matter. -/
theorem readMembers_space {b : UInt8} (space : isSpace b = true) (most : Nat)
    (text : List UInt8) : readMembers most (b :: text) = readMembers most text := by
  cases most with
  | zero => rfl
  | succ most =>
    have skipped : skip (b :: text) = skip text := List.dropWhile_cons_of_pos space
    rw [readMembers, readMembers, readMember, readMember, skipped]

theorem readMembers_lines {lines : List Line} {members : List Member} {left : List UInt8}
    (shown : List.Forall₂ Line.Shows lines members) (nonempty : lines ≠ []) {most : Nat}
    (enough : lines.length ≤ most) :
    readMembers most (linesBytes lines ++ 0x7D :: left) = some (members, left) := by
  induction shown generalizing most with
  | nil => exact absurd rfl nonempty
  | @cons line member lines members first rest ih =>
    obtain ⟨most, rfl⟩ : ∃ n, most = n + 1 := by
      rw [List.length_cons] at enough
      exact ⟨most - 1, by omega⟩
    rw [List.length_cons, Nat.succ_le_succ_iff] at enough
    rw [readMembers]
    cases rest with
    | nil =>
      have here : readMember (line.bytes ++ ([0x0A] ++ 0x7D :: left)) =
          some (member, [0x0A] ++ 0x7D :: left) := readMember_line first (ends_other (by decide))
      rw [linesBytes, List.append_assoc, here]
      rfl
    | @cons next nextMember lines members second later =>
      have here : ∀ text, readMember (line.bytes ++ ([0x2C, 0x0A] ++ text)) =
          some (member, [0x2C, 0x0A] ++ text) :=
        fun text => readMember_line first (ends_other (by decide))
      rw [linesBytes, List.append_assoc, List.append_assoc, here]
      have again := ih (by simp) enough
      have comma : ∀ text, skip ([0x2C, 0x0A] ++ text) = 0x2C :: 0x0A :: text := fun text => rfl
      simp only [Option.bind_eq_bind, Option.bind_some, comma]
      rw [readMembers_space (by decide), again]
      rfl

theorem length_le_linesBytes (lines : List Line) : lines.length ≤ (linesBytes lines).length := by
  induction lines with
  | nil => exact Nat.zero_le _
  | cons line rest ih =>
    cases rest with
    | nil => simp [linesBytes]
    | cons next rest =>
      rw [linesBytes, List.length_append, List.length_append, List.length_cons]
      simp only [List.length_cons, List.length_nil] at ih ⊢
      omega

/-- A document reads as the members that its lines show. -/
theorem read_document {lines : List Line} {members : List Member}
    (shown : List.Forall₂ Line.Shows lines members) : read (document lines) = some members := by
  cases shown with
  | nil => decide
  | @cons line member lines members first rest =>
    have found : ∀ most, (line :: lines).length ≤ most →
        readMembers most (linesBytes (line :: lines) ++ [0x7D, 0x0A]) =
          some (member :: members, [0x0A]) :=
      fun most enough => readMembers_lines (.cons first rest) (by simp) enough
    have opened : document (line :: lines) =
        0x7B :: 0x0A :: (linesBytes (line :: lines) ++ [0x7D, 0x0A]) := rfl
    obtain ⟨behind, start⟩ : ∃ behind, linesBytes (line :: lines) ++ [0x7D, 0x0A] =
        0x20 :: 0x20 :: quote :: behind := by
      cases lines <;> exact ⟨_, rfl⟩
    have inside : skip (0x0A :: (linesBytes (line :: lines) ++ [0x7D, 0x0A])) =
        quote :: behind := by
      rw [start]
      rfl
    have length := length_le_linesBytes (line :: lines)
    have brace : skip (document (line :: lines)) = document (line :: lines) :=
      skip_solid (by simp [document, isSpace])
    rw [read, brace, opened]
    simp only [inside]
    rw [readMembers_space (by decide), found _ (by simp at length ⊢; omega)]
    rfl

/-- With one member for each key, a lookup finds it. -/
theorem lookup_of_mem {members : List Member} (nodup : (members.map Prod.fst).Nodup)
    {key : List UInt8} {value : Value} (there : (key, value) ∈ members) :
    members.lookup key = some value := by
  induction members with
  | nil => cases there
  | cons member members ih =>
    rw [List.map_cons, List.nodup_cons] at nodup
    rcases List.mem_cons.mp there with rfl | later
    · exact List.lookup_cons_self
    · have other : (key == member.1) = false := by
        rw [beq_eq_false_iff_ne]
        rintro rfl
        exact nodup.1 (List.mem_map.mpr ⟨_, later, rfl⟩)
      rw [List.lookup_cons, other]
      exact ih nodup.2 later

end JsonDocument
