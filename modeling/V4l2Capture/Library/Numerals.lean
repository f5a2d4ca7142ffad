import Mathlib.Data.List.Induction
import Mathlib.Data.List.TakeWhile
import Mathlib.Data.Nat.Digits.Defs

/-!
# Decimal numerals in texts

The longest beginning of a text that reads as white space, a sign and decimal digits, and the
texts that are such a numeral as a whole. What counts as white space is a parameter.
-/
namespace Numerals

inductive Sign where
  | absent
  | plus
  | minus
  deriving DecidableEq, Repr

def Sign.chars : Sign → List Char
  | .absent => []
  | .plus => ['+']
  | .minus => ['-']

/-- The parts of a text behind its white space; `left` starts at the first character that was
not read. -/
structure Scan where
  sign : Sign
  digits : List Char
  left : List Char
  deriving DecidableEq, Repr

def scanSign : List Char → Sign × List Char
  | '+' :: rest => (.plus, rest)
  | '-' :: rest => (.minus, rest)
  | rest => (.absent, rest)

def scan (space : Char → Bool) (text : List Char) : Scan :=
  let (sign, unsigned) := scanSign (text.dropWhile space)
  ⟨sign, unsigned.takeWhile Char.isDigit, unsigned.dropWhile Char.isDigit⟩

/-! ### Values -/

def digitValue (c : Char) : Nat := c.toNat - '0'.toNat

/-- The number as it is read, from the first digit to the last. -/
def number (digits : List Char) : Nat :=
  digits.foldl (fun number c => 10 * number + digitValue c) 0

/-- The number that the digits denote by their positions. -/
def denoted (digits : List Char) : Nat :=
  Nat.ofDigits 10 (digits.reverse.map digitValue)

theorem number_eq_denoted (digits : List Char) : number digits = denoted digits := by
  induction digits using List.reverseRecOn with
  | nil => rfl
  | append_singleton digits c ih =>
    -- The last digit is the one of the ones.
    have read : number (digits ++ [c]) = 10 * number digits + digitValue c := by
      rw [number, List.foldl_append]
      rfl
    have places : denoted (digits ++ [c]) = digitValue c + 10 * denoted digits := by
      rw [denoted, List.reverse_append]
      exact Nat.ofDigits_cons
    rw [read, places, ih, Nat.add_comm]

/-! ### Whole texts -/

/-- The text is a numeral with this sign and these digits, behind white space. -/
structure Numeral (space : Char → Bool) (text : List Char) (sign : Sign) (digits : List Char) :
    Prop where
  shape : ∃ spaces, (∀ c ∈ spaces, space c) ∧ text = spaces ++ (sign.chars ++ digits)
  nonempty : digits ≠ []
  decimal : ∀ c ∈ digits, c.isDigit

/-- White space is neither a digit nor a sign. -/
def Separates (space : Char → Bool) : Prop :=
  ∀ c, space c → ¬ c.isDigit ∧ c ≠ '+' ∧ c ≠ '-'

theorem scanSign_append (text : List Char) :
    (scanSign text).1.chars ++ (scanSign text).2 = text := by
  unfold scanSign
  split <;> rfl

theorem scanSign_length_le (text : List Char) : (scanSign text).2.length ≤ text.length := by
  have parts := congrArg List.length (scanSign_append text)
  rw [List.length_append] at parts
  omega

theorem scan_left_length_le (space : Char → Bool) (text : List Char) :
    (scan space text).left.length ≤ text.length :=
  calc (scan space text).left.length ≤ (scanSign (text.dropWhile space)).2.length :=
        (List.dropWhile_suffix _).length_le
    _ ≤ (text.dropWhile space).length := scanSign_length_le _
    _ ≤ text.length := (List.dropWhile_suffix _).length_le

/-- The position behind the digits is the end of the text. -/
theorem scan_pos_whole_iff (space : Char → Bool) (text : List Char) :
    text.length - (scan space text).left.length = text.length ↔ (scan space text).left = [] := by
  have most := scan_left_length_le space text
  rw [← List.length_eq_zero_iff]
  omega

section Whole

variable {space : Char → Bool} {text digits : List Char} {sign : Sign}

theorem scanSign_of_digits (decimal : ∀ c ∈ digits, c.isDigit) (sign : Sign) :
    scanSign (sign.chars ++ digits) = (sign, digits) := by
  cases sign with
  | plus => rfl
  | minus => rfl
  | absent =>
    -- The first character is a digit, so it is taken for no sign.
    rw [Sign.chars, List.nil_append]
    unfold scanSign
    split
    · exact absurd (decimal '+' List.mem_cons_self) (by decide)
    · exact absurd (decimal '-' List.mem_cons_self) (by decide)
    · rfl

namespace Numeral

variable (numeral : Numeral space text sign digits) (separates : Separates space)

include numeral separates

theorem dropWhile_sign :
    (sign.chars ++ digits).dropWhile space = sign.chars ++ digits := by
  have solid : ∀ c, c.isDigit ∨ c = '+' ∨ c = '-' → ¬ space c := by
    intro c kind blank
    obtain ⟨notDigit, notPlus, notMinus⟩ := separates c blank
    rcases kind with digit | plus | minus
    · exact notDigit digit
    · exact notPlus plus
    · exact notMinus minus
  cases sign with
  | plus => exact List.dropWhile_cons_of_neg (solid '+' (.inr (.inl rfl)))
  | minus => exact List.dropWhile_cons_of_neg (solid '-' (.inr (.inr rfl)))
  | absent =>
    obtain ⟨c, rest, rfl⟩ := List.exists_cons_of_ne_nil numeral.nonempty
    exact List.dropWhile_cons_of_neg (solid c (.inl (numeral.decimal c List.mem_cons_self)))

/-- Nothing of a numeral is left. -/
theorem scan_eq : scan space text = ⟨sign, digits, []⟩ := by
  have all : digits.takeWhile Char.isDigit = digits :=
    List.takeWhile_eq_self_iff.mpr numeral.decimal
  have nothing : digits.dropWhile Char.isDigit = [] :=
    List.dropWhile_eq_nil_iff.mpr numeral.decimal
  have behind := numeral.dropWhile_sign separates
  obtain ⟨spaces, blank, rfl⟩ := numeral.shape
  rw [scan, List.dropWhile_append_of_pos blank, behind, scanSign_of_digits numeral.decimal]
  simp only [all, nothing]

/-- A minus stands in no numeral without that sign. -/
theorem minus_not_mem (unsigned : sign ≠ .minus) : '-' ∉ text := by
  obtain ⟨spaces, blank, rfl⟩ := numeral.shape
  rw [List.mem_append, List.mem_append]
  rintro (inSpaces | inSign | inDigits)
  · exact (separates '-' (blank '-' inSpaces)).2.2 rfl
  · cases sign with
    | absent => cases inSign
    | plus => exact absurd (List.mem_singleton.mp inSign) (by decide)
    | minus => exact unsigned rfl
  · exact absurd (numeral.decimal '-' inDigits) (by decide)

end Numeral

/-- A text that is read to its end is a numeral. -/
theorem numeral_of_scan (nothing : (scan space text).left = [])
    (nonempty : (scan space text).digits ≠ []) :
    Numeral space text (scan space text).sign (scan space text).digits := by
  refine ⟨⟨text.takeWhile space, fun c => List.mem_takeWhile_imp, ?_⟩, nonempty,
    fun c => List.mem_takeWhile_imp⟩
  have signed : (scan space text).sign.chars ++ (scanSign (text.dropWhile space)).2 =
      text.dropWhile space := scanSign_append _
  have parts : (scan space text).digits ++ (scan space text).left =
      (scanSign (text.dropWhile space)).2 := List.takeWhile_append_dropWhile
  rw [nothing, List.append_nil] at parts
  calc text = text.takeWhile space ++ text.dropWhile space := List.takeWhile_append_dropWhile.symm
    _ = text.takeWhile space ++ ((scan space text).sign.chars ++ (scan space text).digits) := by
      rw [parts, signed]

end Whole

end Numerals
