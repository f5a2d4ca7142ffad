import Mathlib.Data.List.Basic

/-!
# The string literals of JSON

The grammar of what stands between the quotes, as a relation to the tokens it consists of, and
a scanner that reads up to the closing quote. `meaning` turns the tokens into bytes, with the
code units of escapes in UTF-8. Bytes that are not escaped stand for themselves: what is valid
is said byte by byte, and it is not checked that the bytes are UTF-8.
-/
namespace JsonString

def quote : UInt8 := 0x22
def backslash : UInt8 := 0x5C

inductive Token where
  | plain (byte : UInt8)
  /-- A UTF-16 code unit. -/
  | unit (code : Nat)
  deriving DecidableEq, Repr

/-- The escapes of two characters. -/
def simpleEscapes : List (UInt8 × UInt8) :=
  [(quote, quote), (backslash, backslash), (0x2F, 0x2F), (0x62, 0x08), (0x66, 0x0C),
    (0x6E, 0x0A), (0x72, 0x0D), (0x74, 0x09)]

def simpleEscape (e : UInt8) : Option UInt8 :=
  simpleEscapes.lookup e

def hexDigit (h : UInt8) : Option Nat :=
  if 0x30 ≤ h ∧ h ≤ 0x39 then some (h.toNat - 0x30)
  else if 0x41 ≤ h ∧ h ≤ 0x46 then some (h.toNat - 0x41 + 10)
  else if 0x61 ≤ h ∧ h ≤ 0x66 then some (h.toNat - 0x61 + 10)
  else none

def hexCode (h3 h2 h1 h0 : UInt8) : Option Nat := do
  return ((← hexDigit h3) * 16 + (← hexDigit h2)) * 256
    + (← hexDigit h1) * 16 + (← hexDigit h0)

/-- What may stand between the quotes, and its tokens. -/
inductive Lexes : List UInt8 → List Token → Prop
  | nil : Lexes [] []
  | unescaped {b : UInt8} {body : List UInt8} {tokens : List Token} (printable : 0x20 ≤ b)
      (notQuote : b ≠ quote) (notBackslash : b ≠ backslash) (later : Lexes body tokens) :
      Lexes (b :: body) (.plain b :: tokens)
  | escape {e b : UInt8} {body : List UInt8} {tokens : List Token}
      (known : simpleEscape e = some b) (later : Lexes body tokens) :
      Lexes (backslash :: e :: body) (.plain b :: tokens)
  | unicode {h3 h2 h1 h0 : UInt8} {code : Nat} {body : List UInt8} {tokens : List Token}
      (digits : hexCode h3 h2 h1 h0 = some code) (later : Lexes body tokens) :
      Lexes (backslash :: 0x75 :: h3 :: h2 :: h1 :: h0 :: body) (.unit code :: tokens)

/-- Reads behind the opening quote to the closing one, and returns what is left behind it. -/
def scan : List UInt8 → Option (List Token × List UInt8)
  | [] => none
  | c :: rest =>
    if c = quote then some ([], rest)
    else if c = backslash then
      match rest with
      | 0x75 :: h3 :: h2 :: h1 :: h0 :: rest =>
        (hexCode h3 h2 h1 h0).bind fun code => (scan rest).map (Prod.map (.unit code :: ·) id)
      -- A `u` without its four digits comes here too and is no short escape.
      | e :: rest => (simpleEscape e).bind fun b => (scan rest).map (Prod.map (.plain b :: ·) id)
      | [] => none
    else if c < 0x20 then none
    else (scan rest).map (Prod.map (.plain c :: ·) id)

def utf8 (code : Nat) : List UInt8 :=
  String.utf8EncodeChar (Char.ofNat code)

def IsHighSurrogate (code : Nat) : Prop := 0xD800 ≤ code ∧ code < 0xDC00
def IsLowSurrogate (code : Nat) : Prop := 0xDC00 ≤ code ∧ code < 0xE000

instance : DecidablePred IsHighSurrogate := fun code =>
  inferInstanceAs (Decidable (0xD800 ≤ code ∧ code < 0xDC00))

instance : DecidablePred IsLowSurrogate := fun code =>
  inferInstanceAs (Decidable (0xDC00 ≤ code ∧ code < 0xE000))

/-- The bytes that the tokens stand for; a surrogate needs its other half. -/
def meaning : List Token → Option (List UInt8)
  | [] => some []
  | .plain b :: rest => (meaning rest).map (b :: ·)
  | .unit high :: .unit low :: rest =>
    if IsHighSurrogate high then
      if IsLowSurrogate low then
        (meaning rest).map
          (utf8 (0x10000 + (high - 0xD800) * 0x400 + (low - 0xDC00)) ++ ·)
      else none
    else if IsLowSurrogate high then none
    else (meaning (.unit low :: rest)).map (utf8 high ++ ·)
  | .unit code :: rest =>
    if IsHighSurrogate code ∨ IsLowSurrogate code then none
    else (meaning rest).map (utf8 code ++ ·)

/-- Reads a literal in front of a text. -/
def readString : List UInt8 → Option (List UInt8 × List UInt8)
  | [] => none
  | c :: rest =>
    if c = quote then
      (scan rest).bind fun (tokens, left) => (meaning tokens).map fun bytes => (bytes, left)
    else none

example : readString "\"\\u00e9\\ud83d\\ude00\"".toUTF8.toList =
    some ([0xC3, 0xA9, 0xF0, 0x9F, 0x98, 0x80], []) := by decide +kernel

/-! ### The grammar and the scanner -/

theorem Lexes.append {first second : List UInt8} {ts us : List Token} (before : Lexes first ts)
    (behind : Lexes second us) : Lexes (first ++ second) (ts ++ us) := by
  induction before with
  | nil => exact behind
  | unescaped printable notQuote notBackslash _ ih =>
    exact .unescaped printable notQuote notBackslash ih
  | escape known _ ih => exact .escape known ih
  | unicode digits _ ih => exact .unicode digits ih

theorem scan_quote (rest : List UInt8) : scan (quote :: rest) = some ([], rest) := by
  rw [scan.eq_def]
  exact if_pos rfl

theorem scan_unescaped {b : UInt8} (printable : 0x20 ≤ b) (notQuote : b ≠ quote)
    (notBackslash : b ≠ backslash) (rest : List UInt8) :
    scan (b :: rest) = (scan rest).map (Prod.map (.plain b :: ·) id) := by
  rw [scan.eq_def]
  simp only [if_neg notQuote, if_neg notBackslash, if_neg (UInt8.not_lt.mpr printable)]

theorem scan_escape {e b : UInt8} (known : simpleEscape e = some b) (rest : List UInt8) :
    scan (backslash :: e :: rest) = (scan rest).map (Prod.map (.plain b :: ·) id) := by
  rw [scan.eq_def]
  simp only [if_neg (show backslash ≠ quote by decide), if_true]
  split
  next shape =>
    -- The letter of the long escapes is none of the short ones.
    cases shape
    cases known
  next shape =>
    cases shape
    rw [known, Option.bind_some]
  next shape => cases shape

theorem scan_unicode {h3 h2 h1 h0 : UInt8} {code : Nat}
    (digits : hexCode h3 h2 h1 h0 = some code) (rest : List UInt8) :
    scan (backslash :: 0x75 :: h3 :: h2 :: h1 :: h0 :: rest) =
      (scan rest).map (Prod.map (.unit code :: ·) id) := by
  rw [scan.eq_def]
  simp only [if_neg (show backslash ≠ quote by decide), if_true, digits, Option.bind_some]

theorem scan_of_lexes {body : List UInt8} {tokens : List Token} (lexes : Lexes body tokens)
    (rest : List UInt8) : scan (body ++ quote :: rest) = some (tokens, rest) := by
  induction lexes with
  | nil => exact scan_quote rest
  | unescaped printable notQuote notBackslash _ ih =>
    rw [List.cons_append, scan_unescaped printable notQuote notBackslash, ih]
    rfl
  | escape known _ ih =>
    rw [List.cons_append, List.cons_append, scan_escape known, ih]
    rfl
  | unicode digits _ ih =>
    simp only [List.cons_append, scan_unicode digits, ih]
    rfl

/-- One more token in front of what was scanned. -/
theorem of_map_push {token : Token} {scanned : Option (List Token × List UInt8)}
    {tokens : List Token} {rest : List UInt8}
    (pushed : scanned.map (Prod.map (token :: ·) id) = some (tokens, rest)) :
    ∃ later, scanned = some (later, rest) ∧ tokens = token :: later := by
  obtain ⟨⟨later, left⟩, result, same⟩ := Option.map_eq_some_iff.mp pushed
  cases same
  exact ⟨later, result, rfl⟩

/-- The scanner accepts nothing but the grammar. -/
theorem lexes_of_scan {text : List UInt8} {tokens : List Token} {rest : List UInt8}
    (scanned : scan text = some (tokens, rest)) :
    ∃ body, Lexes body tokens ∧ text = body ++ quote :: rest := by
  fun_induction scan text generalizing tokens with
  | case1 => cases scanned
  -- The closing quote.
  | case2 =>
    cases scanned
    exact ⟨[], .nil, rfl⟩
  | case3 h3 h2 h1 h0 behind _ ih =>
    obtain ⟨code, digits, pushed⟩ := Option.bind_eq_some_iff.mp scanned
    obtain ⟨later, result, rfl⟩ := of_map_push pushed
    obtain ⟨body, lexes, rfl⟩ := ih result
    exact ⟨_, .unicode digits lexes, rfl⟩
  | case4 e behind _ _ ih =>
    obtain ⟨b, known, pushed⟩ := Option.bind_eq_some_iff.mp scanned
    obtain ⟨later, result, rfl⟩ := of_map_push pushed
    obtain ⟨body, lexes, rfl⟩ := ih result
    exact ⟨_, .escape known lexes, rfl⟩
  -- The text ends behind a backslash, or there is a control character.
  | case5 => cases scanned
  | case6 => cases scanned
  | case7 c behind notQuote notBackslash printable ih =>
    obtain ⟨later, result, rfl⟩ := of_map_push scanned
    obtain ⟨body, lexes, rfl⟩ := ih result
    exact ⟨_, .unescaped (UInt8.not_lt.mp printable) notQuote notBackslash lexes, rfl⟩

/-- What may stand between the quotes. -/
def Valid (body : List UInt8) : Prop :=
  ∃ tokens, Lexes body tokens

theorem simpleEscape_printable {e b : UInt8} (known : simpleEscape e = some b) : 0x20 ≤ e := by
  obtain ⟨before, after, table, _⟩ := List.lookup_eq_some_iff.mp known
  have member : (e, b) ∈ simpleEscapes := by
    rw [table]
    exact List.mem_append_right _ List.mem_cons_self
  have all : simpleEscapes.all (fun entry => 0x20 ≤ entry.1) = true := by decide
  exact of_decide_eq_true (List.all_eq_true.mp all (e, b) member)

theorem hexDigit_printable {h : UInt8} {d : Nat} (digit : hexDigit h = some d) : 0x20 ≤ h := by
  rw [hexDigit] at digit
  split at digit
  next decimal => exact UInt8.le_trans (by decide) decimal.1
  split at digit
  next upper => exact UInt8.le_trans (by decide) upper.1
  split at digit
  next lower => exact UInt8.le_trans (by decide) lower.1
  · cases digit

theorem hexCode_printable {h3 h2 h1 h0 : UInt8} {code : Nat}
    (digits : hexCode h3 h2 h1 h0 = some code) : ∀ h ∈ [h3, h2, h1, h0], 0x20 ≤ h := by
  obtain ⟨d3, digit3, digits⟩ := Option.bind_eq_some_iff.mp digits
  obtain ⟨d2, digit2, digits⟩ := Option.bind_eq_some_iff.mp digits
  obtain ⟨d1, digit1, digits⟩ := Option.bind_eq_some_iff.mp digits
  obtain ⟨d0, digit0, _⟩ := Option.bind_eq_some_iff.mp digits
  simp [hexDigit_printable digit3, hexDigit_printable digit2, hexDigit_printable digit1,
    hexDigit_printable digit0]

/-- Control characters stand nowhere, also not inside of an escape. -/
theorem Valid.printable {body : List UInt8} (valid : Valid body) : ∀ b ∈ body, 0x20 ≤ b := by
  obtain ⟨tokens, lexes⟩ := valid
  induction lexes with
  | nil => simp
  | unescaped printable _ _ _ ih => exact List.forall_mem_cons.mpr ⟨printable, ih⟩
  | escape known _ ih =>
    refine List.forall_mem_cons.mpr ⟨by decide, ?_⟩
    exact List.forall_mem_cons.mpr ⟨simpleEscape_printable known, ih⟩
  | unicode digits _ ih =>
    refine List.forall_mem_cons.mpr ⟨by decide, List.forall_mem_cons.mpr ⟨by decide, ?_⟩⟩
    exact List.forall_mem_append.mpr ⟨hexCode_printable digits, ih⟩

/-! ### The meaning -/

theorem meaning_unit {code : Nat} (basic : code < 0xD800) (rest : List Token) :
    meaning (.unit code :: rest) = (meaning rest).map (utf8 code ++ ·) := by
  have notHigh : ¬ IsHighSurrogate code := fun high => Nat.not_lt.mpr high.1 basic
  have notLow : ¬ IsLowSurrogate code := fun low =>
    Nat.not_lt.mpr (Nat.le_trans (by decide) low.1) basic
  -- The token behind it decides which equation of `meaning` applies.
  match rest with
  | [] => simp [meaning, notHigh, notLow]
  | .plain _ :: _ => simp [meaning, notHigh, notLow]
  | .unit _ :: _ => simp [meaning, notHigh, notLow]

theorem readString_literal {body : List UInt8} {tokens : List Token} (lexes : Lexes body tokens)
    {bytes : List UInt8} (means : meaning tokens = some bytes) (rest : List UInt8) :
    readString (quote :: body ++ quote :: rest) = some (bytes, rest) := by
  simp only [List.cons_append, readString, if_true, scan_of_lexes lexes, Option.bind_some, means,
    Option.map_some]

/-- A literal that is read up to its last quote is valid. -/
theorem valid_of_readString {body bytes rest : List UInt8}
    (read : readString (quote :: body ++ quote :: rest) = some (bytes, rest)) : Valid body := by
  simp only [List.cons_append, readString, if_true] at read
  obtain ⟨⟨tokens, left⟩, scanned, means⟩ := Option.bind_eq_some_iff.mp read
  obtain ⟨meant, _, same⟩ := Option.map_eq_some_iff.mp means
  cases same
  obtain ⟨body', lexes, shape⟩ := lexes_of_scan scanned
  rw [List.append_cancel_right shape]
  exact ⟨tokens, lexes⟩

end JsonString
