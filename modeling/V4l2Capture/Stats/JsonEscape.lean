import V4l2Capture.Library.JsonString

/-!
# Escaping texts for JSON

The three functions `json_escape` of the program, over bytes. They agree in the short escapes and
differ in the remaining control characters.
-/
namespace V4l2Capture.Stats

open JsonString

/-- The letter of the short escape of a character. -/
def shortEscape (ch : UInt8) : Option UInt8 :=
  if ch = backslash then some backslash
  else if ch = quote then some quote
  else if ch = 0x0A then some 0x6E
  else if ch = 0x0D then some 0x72
  else if ch = 0x09 then some 0x74
  else none

/-- The `switch` of the three functions, with its `default` case. -/
def escapeChar (other : UInt8 → List UInt8) (ch : UInt8) : List UInt8 :=
  match shortEscape ch with
  | some letter => [backslash, letter]
  | none => other ch

/-- `std::hex`, `std::setw(4)` and `std::setfill('0')` for a number. -/
def hex4 (value : Nat) : List UInt8 :=
  ((Nat.toDigits 16 value).leftpad 4 '0').map Char.toUInt8

def controlOrSelf (ch : UInt8) : List UInt8 :=
  if ch < 0x20 then backslash :: 0x75 :: hex4 ch.toNat else [ch]

/-- `json_escape` of `stats_json.cpp`. -/
def jsonEscape (value : List UInt8) : List UInt8 :=
  value.flatMap (escapeChar controlOrSelf)

example : jsonEscape [0x61, 0x22, 0x1B, 0x0A] =
    "a\\\"\\u001b\\n".toUTF8.toList := by decide +kernel

theorem simpleEscape_shortEscape {ch letter : UInt8} (short : shortEscape ch = some letter) :
    simpleEscape letter = some ch := by
  rw [shortEscape] at short
  -- One case of the `switch` after the other.
  repeat' split at short
  all_goals cases short
  all_goals subst ch
  all_goals rfl

theorem notQuote_of_not_short {ch : UInt8} (long : shortEscape ch = none) :
    ch ≠ quote ∧ ch ≠ backslash := by
  constructor
  · rintro rfl
    cases long
  · rintro rfl
    cases long

/-- Four digits are read back as the number. -/
theorem hexCode_hex4 : ∀ value < 0x20,
    (match hex4 value with
      | [h3, h2, h1, h0] => hexCode h3 h2 h1 h0
      | _ => none) = some value := by
  decide +kernel

/-- The token that a character becomes. -/
def escapeToken (ch : UInt8) : Token :=
  if shortEscape ch = none ∧ ch < 0x20 then .unit ch.toNat else .plain ch

theorem lexes_controlOrSelf {ch : UInt8} (long : shortEscape ch = none) :
    Lexes (controlOrSelf ch) [escapeToken ch] := by
  rw [controlOrSelf]
  split
  -- The long form is a code unit below 0x20.
  next control =>
    rw [escapeToken, if_pos ⟨long, control⟩]
    have digits := hexCode_hex4 ch.toNat control
    split at digits
    next h3 h2 h1 h0 four =>
      rw [four]
      exact .unicode digits .nil
    · cases digits
  next printable =>
    rw [escapeToken, if_neg fun both => printable both.2]
    obtain ⟨notQuote, notBackslash⟩ := notQuote_of_not_short long
    exact .unescaped (UInt8.not_lt.mp printable) notQuote notBackslash .nil

theorem lexes_escapeChar (ch : UInt8) :
    Lexes (escapeChar controlOrSelf ch) [escapeToken ch] := by
  rw [escapeChar]
  split
  next letter short =>
    rw [escapeToken, if_neg (by simp [short])]
    exact .escape (simpleEscape_shortEscape short) .nil
  next long => exact lexes_controlOrSelf long

theorem lexes_jsonEscape (value : List UInt8) :
    Lexes (jsonEscape value) (value.map escapeToken) := by
  induction value with
  | nil => exact .nil
  | cons ch rest ih => exact (lexes_escapeChar ch).append ih

theorem utf8_control : ∀ value < 0x20, utf8 value = [UInt8.ofNat value] := by
  decide +kernel

theorem meaning_escapeToken (ch : UInt8) (rest : List Token) :
    meaning (escapeToken ch :: rest) = (meaning rest).map (ch :: ·) := by
  rw [escapeToken]
  split
  next control =>
    have small : ch.toNat < 0x20 := control.2
    rw [meaning_unit (by omega), utf8_control _ small, UInt8.ofNat_toNat]
    rfl
  · rfl

theorem meaning_jsonEscape (value : List UInt8) :
    meaning (value.map escapeToken) = some value := by
  induction value with
  | nil => rfl
  | cons ch rest ih => rw [List.map_cons, meaning_escapeToken, ih, Option.map_some]

theorem readString_jsonEscape (value rest : List UInt8) :
    readString (quote :: jsonEscape value ++ quote :: rest) = some (value, rest) :=
  readString_literal (lexes_jsonEscape value) (meaning_jsonEscape value) rest

theorem jsonEscape_append (first second : List UInt8) :
    jsonEscape (first ++ second) = jsonEscape first ++ jsonEscape second :=
  List.flatMap_append

/-- The escaped text is valid between quotes, and reading the literal gives the text back. -/
theorem jsonEscape_roundtrip (value : List UInt8) :
    Valid (jsonEscape value) ∧ (∀ ch ∈ jsonEscape value, 0x20 ≤ ch)
      ∧ (∀ rest, readString (quote :: jsonEscape value ++ quote :: rest) = some (value, rest))
      ∧ (∀ other, jsonEscape other = jsonEscape value → other = value)
      ∧ ∀ other, jsonEscape (value ++ other) = jsonEscape value ++ jsonEscape other := by
  have valid : Valid (jsonEscape value) := ⟨_, lexes_jsonEscape value⟩
  refine ⟨valid, valid.printable, readString_jsonEscape value, ?_, jsonEscape_append value⟩
  intro other same
  have read := readString_jsonEscape other []
  rw [same, readString_jsonEscape] at read
  cases read
  rfl

/-! ### The copies -/

/-- `json_escape` of `protocol_fixture.cpp`. -/
def fixtureJsonEscape (text : List UInt8) : List UInt8 :=
  text.flatMap (escapeChar fun ch => [ch])

/-- `ImageThroughputCheck::json_escape`. -/
def throughputJsonEscape (input : List UInt8) : List UInt8 :=
  input.flatMap (escapeChar fun ch => [ch])

/-- The control characters are the ones with a short escape. -/
def ShortControls (text : List UInt8) : Prop :=
  ∀ ch ∈ text, ch < 0x20 → ch = 0x0A ∨ ch = 0x0D ∨ ch = 0x09

theorem short_of_control {ch : UInt8} (control : ch < 0x20) :
    shortEscape ch ≠ none ↔ ch = 0x0A ∨ ch = 0x0D ∨ ch = 0x09 := by
  constructor
  · intro short
    by_contra other
    rw [not_or, not_or] at other
    have notQuote : ch ≠ quote := by
      rintro rfl
      exact absurd control (by decide)
    have notBackslash : ch ≠ backslash := by
      rintro rfl
      exact absurd control (by decide)
    exact short (by simp [shortEscape, other, notQuote, notBackslash])
  · rintro (rfl | rfl | rfl) <;> decide

theorem fixtureJsonEscape_of_short {text : List UInt8} (short : ShortControls text) :
    fixtureJsonEscape text = jsonEscape text := by
  apply List.flatMap_congr
  intro ch member
  rw [escapeChar, escapeChar]
  split
  · rfl
  next long =>
    rw [controlOrSelf, if_neg]
    exact fun control => (short_of_control control).mpr (short ch member control) long

/-- A control character without a short escape stands in the copies as it is. -/
theorem short_of_valid {text : List UInt8} (valid : Valid (fixtureJsonEscape text)) :
    ShortControls text := by
  intro ch member control
  apply (short_of_control control).mp
  intro long
  have stays : ch ∈ fixtureJsonEscape text := by
    apply List.mem_flatMap.mpr
    exact ⟨ch, member, by simp [escapeChar, long]⟩
  exact UInt8.not_lt.mpr (valid.printable ch stays) control

theorem fixtureJsonEscape_eq_iff (text : List UInt8) :
    fixtureJsonEscape text = jsonEscape text ↔ ShortControls text := by
  refine ⟨fun same => short_of_valid ?_, fixtureJsonEscape_of_short⟩
  rw [same]
  exact ⟨_, lexes_jsonEscape text⟩

theorem readString_fixtureJsonEscape_iff (text rest : List UInt8) :
    (∃ bytes, readString (quote :: fixtureJsonEscape text ++ quote :: rest) = some (bytes, rest)) ↔
      ShortControls text := by
  constructor
  · rintro ⟨bytes, read⟩
    exact short_of_valid (valid_of_readString read)
  · intro short
    rw [fixtureJsonEscape_of_short short]
    exact ⟨text, readString_jsonEscape text rest⟩

/-- The three functions agree, and a reader finds the literals of the copies, exactly if the text
has no control character besides line feed, carriage return and tab. -/
theorem jsonEscape_copies_iff (text : List UInt8) :
    (fixtureJsonEscape text = jsonEscape text ∧ throughputJsonEscape text = jsonEscape text ↔
      ShortControls text)
      ∧ (∀ rest, (∃ bytes, readString (quote :: fixtureJsonEscape text ++ quote :: rest) =
        some (bytes, rest)) ↔ ShortControls text)
      ∧ ∀ rest, (∃ bytes, readString (quote :: throughputJsonEscape text ++ quote :: rest) =
        some (bytes, rest)) ↔ ShortControls text := by
  have same : throughputJsonEscape text = fixtureJsonEscape text := rfl
  rw [same, and_self]
  have reads := readString_fixtureJsonEscape_iff text
  exact ⟨fixtureJsonEscape_eq_iff text, reads, reads⟩

/-- The path `a`, 0x01, `b`. -/
theorem control_in_path_is_not_escaped :
    ¬ ∀ text, fixtureJsonEscape text = jsonEscape text
      ∧ throughputJsonEscape text = jsonEscape text := by
  intro all
  exact absurd (all [0x61, 0x01, 0x62]).1 (by decide +kernel)

end V4l2Capture.Stats
