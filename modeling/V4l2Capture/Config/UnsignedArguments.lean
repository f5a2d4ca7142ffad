import V4l2Capture.Config.Settings
import V4l2Capture.Library.Numerals

/-!
# The unsigned arguments of the receiver and the fixture

`parse_u32_arg` of `tcp_receiver` and `parse_positive_u64` of `protocol_fixture` read a number
by `std::stoull`, which takes a sign and negates modulo 2^64. The range check comes behind it,
so the two accept some texts with a minus sign besides the numerals.
-/
namespace V4l2Capture.Config

open Numerals

/-- `std::stoull(text, &pos, 10)`: the number and `pos`, or nothing where it throws. -/
def stoull (text : String) : Option (UInt64 × Nat) :=
  let scanned := scan isSpace text.toList
  let magnitude := number scanned.digits
  -- No digits is `std::invalid_argument`, a magnitude that does not fit is `std::out_of_range`.
  if scanned.digits = [] ∨ 2 ^ 64 ≤ magnitude then none
  else
    let value := UInt64.ofNat magnitude
    some (if scanned.sign = .minus then -value else value,
      text.toList.length - scanned.left.length)

/-- The common body of the two functions. Whatever is thrown inside is caught and replaced by
the same exception. -/
def parseUnsigned (kind : String) (limit : UInt64) (text name : String) : Except String UInt64 :=
  match stoull text with
  | some (value, pos) =>
    if pos ≠ text.toList.length ∨ value = 0 ∨ value > limit then
      .error ("Invalid " ++ kind ++ " integer for " ++ name ++ ": " ++ text)
    else .ok value
  | none => .error ("Invalid " ++ kind ++ " integer for " ++ name ++ ": " ++ text)

def parseU32Arg (text name : String) : Except String UInt32 :=
  UInt64.toUInt32 <$> parseUnsigned "unsigned" 4294967295 text name

def parsePositiveU64 (text name : String) : Except String UInt64 :=
  parseUnsigned "positive" 1000000 text name

example : parseU32Arg " +0065536" "--max-payload-bytes" = .ok 65536 := by decide +kernel

/-! ### What is accepted -/

theorem isSpace_separates : Separates isSpace := by
  intro c blank
  simp only [isSpace, Bool.or_eq_true, decide_eq_true_eq] at blank
  rcases blank with ((((rfl | rfl) | rfl) | rfl) | rfl) | rfl
  all_goals decide

/-- The value that `std::stoull` gives for a numeral. -/
def signedValue (sign : Sign) (digits : List Char) : UInt64 :=
  if sign = .minus then -UInt64.ofNat (denoted digits) else UInt64.ofNat (denoted digits)

/-- The whole text is read exactly if it is a numeral that fits, whatever its sign. -/
theorem stoull_whole_iff (text : String) (value : UInt64) :
    stoull text = some (value, text.toList.length) ↔
      ∃ sign digits, Numeral isSpace text.toList sign digits ∧ denoted digits < 2 ^ 64 ∧
        signedValue sign digits = value := by
  simp only [stoull, number_eq_denoted]
  constructor
  · intro read
    split at read
    · cases read
    next fits =>
      obtain ⟨nonempty, small⟩ := not_or.mp fits
      obtain ⟨signed, pos⟩ := Prod.mk.inj (Option.some.inj read)
      have nothing := (scan_pos_whole_iff isSpace text.toList).mp pos
      exact ⟨_, _, numeral_of_scan nothing nonempty, Nat.lt_of_not_le small, signed⟩
  · rintro ⟨sign, digits, numeral, small, rfl⟩
    rw [numeral.scan_eq isSpace_separates, if_neg]
    · rfl
    · exact not_or.mpr ⟨numeral.nonempty, Nat.not_le_of_lt small⟩

theorem parseUnsigned_ok_iff (kind : String) (limit : UInt64) (text name : String)
    (value : UInt64) :
    parseUnsigned kind limit text name = .ok value ↔
      stoull text = some (value, text.toList.length) ∧ value ≠ 0 ∧ value ≤ limit := by
  have checked := checked_ok_iff (stoull text) text.toList.length
    (fun value => value = 0 ∨ value > limit)
    ("Invalid " ++ kind ++ " integer for " ++ name ++ ": " ++ text) value
  rw [not_or, gt_iff_lt, UInt64.not_lt] at checked
  rw [parseUnsigned]
  generalize stoull text = read at checked ⊢
  cases read with
  | none => exact checked
  | some result => exact checked

theorem signedValue_toNat (sign : Sign) {digits : List Char} (small : denoted digits < 2 ^ 64) :
    (signedValue sign digits).toNat =
      if sign = .minus then (2 ^ 64 - denoted digits) % 2 ^ 64 else denoted digits := by
  have magnitude : (UInt64.ofNat (denoted digits)).toNat = denoted digits := by
    rw [UInt64.toNat_ofNat', Nat.mod_eq_of_lt small]
  rw [signedValue]
  split
  · rw [UInt64.toNat_neg, magnitude]
    rfl
  · exact magnitude

/-! ### What is meant -/

/-- The text is an unsigned numeral for `n`. -/
def Denotes (text : String) (n : Nat) : Prop :=
  ∃ sign digits, sign ≠ .minus ∧ Numeral isSpace text.toList sign digits ∧ denoted digits = n

/-- The result is the number of a numeral from 1 to the limit, and an exception for every other
text, so for every text with a minus sign. -/
def ReadsNumerals (limit : Nat) (text : String) (result : Except String Nat) : Prop :=
  (∀ n, result = .ok n ↔ Denotes text n ∧ 1 ≤ n ∧ n ≤ limit) ∧
    ('-' ∈ text.toList → ∀ n, result ≠ .ok n)

/-- The text is a negative numeral whose negation modulo 2^64 is from 1 to the limit. -/
def WrapsInto (limit : Nat) (text : String) : Prop :=
  ∃ digits, Numeral isSpace text.toList .minus digits ∧ 2 ^ 64 ≤ denoted digits + limit ∧
    denoted digits < 2 ^ 64

/-- The accepted texts are the unsigned numerals in range, and the negative ones whose negation
modulo 2^64 is in range. -/
theorem parseUnsigned_accepts_iff (kind : String) (limit : UInt64) (text name : String) (n : Nat) :
    UInt64.toNat <$> parseUnsigned kind limit text name = .ok n ↔
      (1 ≤ n ∧ n ≤ limit.toNat) ∧ (Denotes text n ∨
        ∃ digits, Numeral isSpace text.toList .minus digits ∧ denoted digits + n = 2 ^ 64) := by
  have accepted (value : UInt64) :=
    (parseUnsigned_ok_iff kind limit text name value).trans
      (and_congr_left' (stoull_whole_iff text value))
  rw [map_eq_ok_iff]
  constructor
  · rintro ⟨value, ok, rfl⟩
    obtain ⟨⟨sign, digits, numeral, small, rfl⟩, nonzero, within⟩ := (accepted value).mp ok
    have positive : (signedValue sign digits).toNat ≠ 0 := fun zero =>
      nonzero (UInt64.toNat_inj.mp zero)
    refine ⟨⟨Nat.one_le_iff_ne_zero.mpr positive, within⟩, ?_⟩
    rw [signedValue_toNat sign small] at positive ⊢
    split
    -- The negation of zero is zero, so the magnitude is positive.
    next minus =>
      rw [if_pos minus] at positive
      subst minus
      exact .inr ⟨digits, numeral, by omega⟩
    next unsigned => exact .inl ⟨sign, digits, unsigned, numeral, rfl⟩
  · rintro ⟨⟨positive, within⟩, meant⟩
    have small : n < 2 ^ 64 := within.trans_lt limit.toNat_lt
    have inRange {value : UInt64} (same : value.toNat = n) : value ≠ 0 ∧ value ≤ limit := by
      refine ⟨?_, by rwa [UInt64.le_iff_toNat_le, same]⟩
      rintro rfl
      rw [← same] at positive
      cases positive
    rcases meant with ⟨sign, digits, unsigned, numeral, rfl⟩ | ⟨digits, numeral, wraps⟩
    · have same := signedValue_toNat sign small
      rw [if_neg unsigned] at same
      exact ⟨_, (accepted _).mpr ⟨⟨sign, digits, numeral, small, rfl⟩, inRange same⟩, same⟩
    · have fits : denoted digits < 2 ^ 64 := by omega
      have same : (signedValue .minus digits).toNat = n := by
        rw [signedValue_toNat _ fits, if_pos rfl]
        omega
      exact ⟨_, (accepted _).mpr ⟨⟨.minus, digits, numeral, fits, rfl⟩, inRange same⟩, same⟩

/-! ### When the functions do what is meant -/

theorem Denotes.minus_not_mem {text : String} {n : Nat} (denotes : Denotes text n) :
    '-' ∉ text.toList := by
  obtain ⟨sign, digits, unsigned, numeral, _⟩ := denotes
  exact numeral.minus_not_mem isSpace_separates unsigned

theorem minus_mem_of_numeral {text : List Char} {digits : List Char}
    (numeral : Numeral isSpace text .minus digits) : '-' ∈ text := by
  obtain ⟨spaces, _, rfl⟩ := numeral.shape
  simp [Sign.chars]

theorem parseUnsigned_reads_iff (kind : String) (limit : UInt64) (text name : String) :
    ReadsNumerals limit.toNat text (UInt64.toNat <$> parseUnsigned kind limit text name) ↔
      ¬ WrapsInto limit.toNat text := by
  have accepts := parseUnsigned_accepts_iff kind limit text name
  constructor
  · rintro ⟨_, rejects⟩ ⟨digits, numeral, most, fits⟩
    -- The negative numeral is accepted as its negation.
    apply rejects (minus_mem_of_numeral numeral) (2 ^ 64 - denoted digits)
    exact (accepts _).mpr ⟨⟨by omega, by omega⟩, .inr ⟨digits, numeral, by omega⟩⟩
  · intro straight
    have meant : ∀ n, UInt64.toNat <$> parseUnsigned kind limit text name = .ok n ↔
        Denotes text n ∧ 1 ≤ n ∧ n ≤ limit.toNat := by
      intro n
      rw [accepts, and_comm]
      refine and_congr_left fun range => ⟨?_, .inl⟩
      rintro (denotes | ⟨digits, numeral, wraps⟩)
      · exact denotes
      · exact absurd ⟨digits, numeral, by omega, by omega⟩ straight
    refine ⟨meant, fun minus n ok => ?_⟩
    exact ((meant n).mp ok).1.minus_not_mem minus

/-- No bit is lost in the narrower type. -/
theorem parseU32Arg_toNat (text name : String) :
    UInt32.toNat <$> parseU32Arg text name =
      UInt64.toNat <$> parseUnsigned "unsigned" 4294967295 text name := by
  rw [parseU32Arg]
  cases result : parseUnsigned "unsigned" 4294967295 text name with
  | error message => rfl
  | ok value =>
    have within := ((parseUnsigned_ok_iff _ _ _ _ _).mp result).2.2
    have small : value.toNat < 2 ^ 32 := Nat.lt_succ_of_le within
    exact congrArg Except.ok (Nat.mod_eq_of_lt small)

/-- Both functions read exactly the numerals in their range unless the text is a negative numeral
that wraps into the range. -/
theorem unsignedArguments_read_iff (text name : String) :
    (ReadsNumerals 4294967295 text (UInt32.toNat <$> parseU32Arg text name) ↔
      ¬ WrapsInto 4294967295 text) ∧
    (ReadsNumerals 1000000 text (UInt64.toNat <$> parsePositiveU64 text name) ↔
      ¬ WrapsInto 1000000 text) := by
  rw [parseU32Arg_toNat]
  exact ⟨parseUnsigned_reads_iff "unsigned" 4294967295 text name,
    parseUnsigned_reads_iff "positive" 1000000 text name⟩

/-- Both functions read `-18446744073709551615` as 1. -/
theorem negative_numeral_is_accepted :
    (¬ ∀ text name, ReadsNumerals 4294967295 text (UInt32.toNat <$> parseU32Arg text name)) ∧
      ¬ ∀ text name, ReadsNumerals 1000000 text (UInt64.toNat <$> parsePositiveU64 text name) := by
  have minus : '-' ∈ "-18446744073709551615".toList := by decide +kernel
  constructor
  · intro all
    have reads := all "-18446744073709551615" "--max-payload-bytes"
    exact reads.2 minus 1 (by decide +kernel)
  · intro all
    have reads := all "-18446744073709551615" "--frames"
    exact reads.2 minus 1 (by decide +kernel)

/-! ### The signed sibling -/

theorem scanSign_minus_iff (text : List Char) :
    (scanSign text).1 = .minus ↔ text.head? = some '-' := by
  unfold scanSign
  split
  · simp
  · simp
  next notMinus =>
    cases text with
    | nil => simp
    | cons c rest => simpa using fun same => notMinus rest (by rw [same])

theorem scanSign_unsigned (text : List Char) :
    (scanSign text).2 =
      if text.head? = some '-' ∨ text.head? = some '+' then text.tail else text := by
  unfold scanSign
  split
  · simp
  · simp
  next notPlus notMinus =>
    cases text with
    | nil => simp
    | cons c rest =>
      have plus : c ≠ '+' := fun same => notPlus rest (by rw [same])
      have minus : c ≠ '-' := fun same => notMinus rest (by rw [same])
      simp [plus, minus]

/-- The value that `std::stol` gives for a numeral. -/
def signedInt (sign : Sign) (digits : List Char) : Int :=
  if sign = .minus then -(denoted digits : Int) else denoted digits

/-- `std::stol` reads the same parts as `std::stoull`. -/
theorem stol_eq_scan (text : String) :
    stol text =
      let scanned := scan isSpace text.toList
      let value := signedInt scanned.sign scanned.digits
      if scanned.digits = [] ∨ value < -9223372036854775808 ∨ 9223372036854775807 < value then none
      else some (value, text.toList.length - scanned.left.length) := by
  have minus : (scan isSpace text.toList).sign = .minus ↔
      (text.toList.dropWhile isSpace).head? = some '-' := scanSign_minus_iff _
  have unsigned := scanSign_unsigned (text.toList.dropWhile isSpace)
  have parts : (scan isSpace text.toList).digits ++ (scan isSpace text.toList).left =
      (scanSign (text.toList.dropWhile isSpace)).2 := List.takeWhile_append_dropWhile
  have left : (scan isSpace text.toList).left.length =
      (scanSign (text.toList.dropWhile isSpace)).2.length -
        (scan isSpace text.toList).digits.length := by
    rw [← parts, List.length_append, Nat.add_sub_cancel_left]
  simp only [signedInt, left, minus, ← number_eq_denoted]
  rw [stol, ← unsigned]
  rfl

theorem stol_whole_iff (text : String) (value : Int) :
    stol text = some (value, text.toList.length) ↔
      ∃ sign digits, Numeral isSpace text.toList sign digits ∧
        (-9223372036854775808 ≤ value ∧ value ≤ 9223372036854775807) ∧
        signedInt sign digits = value := by
  rw [stol_eq_scan]
  constructor
  · intro read
    simp only at read
    split at read
    · cases read
    next fits =>
      obtain ⟨nonempty, least, most⟩ := not_or.mp fits |>.imp_right not_or.mp
      obtain ⟨rfl, pos⟩ := Prod.mk.inj (Option.some.inj read)
      have nothing := (scan_pos_whole_iff isSpace text.toList).mp pos
      exact ⟨_, _, numeral_of_scan nothing nonempty,
        ⟨Int.not_lt.mp least, Int.not_lt.mp most⟩, rfl⟩
  · rintro ⟨sign, digits, numeral, ⟨least, most⟩, rfl⟩
    rw [numeral.scan_eq isSpace_separates]
    apply if_neg
    rintro (empty | below | above)
    · exact numeral.nonempty empty
    · exact Int.not_lt.mpr least below
    · exact Int.not_lt.mpr most above

/-- The sibling for signed numbers accepts no text with a minus: its range check sees the sign. -/
theorem parsePositiveInt_ok_iff (text name : String) {maxValue : Int}
    (fits : maxValue ≤ 9223372036854775807) (parsed : Int) :
    parsePositiveInt text name maxValue = .ok parsed ↔
      (1 ≤ parsed ∧ parsed ≤ maxValue) ∧ Denotes text parsed.toNat := by
  rw [parsePositiveInt_eq_ok_iff, stol_whole_iff, and_comm]
  refine and_congr_right fun ⟨positive, within⟩ => ?_
  constructor
  · rintro ⟨sign, digits, numeral, _, rfl⟩
    have unsigned : sign ≠ .minus := by
      rintro rfl
      rw [signedInt, if_pos rfl] at positive
      omega
    exact ⟨sign, digits, unsigned, numeral, by rw [signedInt, if_neg unsigned, Int.toNat_natCast]⟩
  · rintro ⟨sign, digits, unsigned, numeral, same⟩
    refine ⟨sign, digits, numeral, ⟨by omega, by omega⟩, ?_⟩
    rw [signedInt, if_neg unsigned, same]
    omega

end V4l2Capture.Config
