import V4l2Capture.Config.ConfigFile

/-!
# Printing a configuration file

The ways in which a list of pairs can be written as a file: white space around keys and
values, comments, blank lines, both kinds of line ends, with or without a newline at the
end. Reading any of them applies the pairs in order.
-/
namespace V4l2Capture.Config

open TextLines

/-! ### Layouts -/

/-- A key and a value that a line can hold. -/
structure ConfigPair where
  key : List Char
  value : List Char
  key_nonempty : key ≠ []
  key_plain : '=' ∉ key ∧ '#' ∉ key ∧ '\n' ∉ key
  key_trimmed : Trimmed isSpace key
  value_plain : '#' ∉ value ∧ '\n' ∉ value
  value_trimmed : Trimmed isSpace value

/-- White space within a line. -/
structure Padding where
  chars : List Char
  spaces : ∀ c ∈ chars, isSpace c
  oneLine : '\n' ∉ chars

structure Comment where
  chars : List Char
  oneLine : '\n' ∉ chars

inductive LineBody where
  | entry (indent : Padding) (pair : ConfigPair) (beforeEquals afterEquals trailing : Padding)
  | blank (padding : Padding)

inductive LineEnd where
  | lf
  | crlf

structure LayoutLine where
  body : LineBody
  comment : Option Comment
  ending : LineEnd

structure Layout where
  lines : List LayoutLine
  finalNewline : Bool

def LineBody.text : LineBody → List Char
  | .entry indent pair beforeEquals afterEquals trailing =>
    indent.chars ++ pair.key ++ beforeEquals.chars
      ++ '=' :: (afterEquals.chars ++ pair.value ++ trailing.chars)
  | .blank padding => padding.chars

def LineBody.pair? : LineBody → Option ConfigPair
  | .entry _ pair _ _ _ => some pair
  | .blank _ => none

def commentText : Option Comment → List Char
  | some comment => '#' :: comment.chars
  | none => []

/-- What stands before the newline. -/
def LineEnd.carriageReturn : LineEnd → List Char
  | .lf => []
  | .crlf => ['\r']

def LayoutLine.text (line : LayoutLine) : List Char :=
  line.body.text ++ (commentText line.comment ++ line.ending.carriageReturn)

def Layout.text (layout : Layout) : List Char :=
  join '\n' layout.finalNewline (layout.lines.map LayoutLine.text)

/-- The pairs of a layout with the number of the line that each stands on. -/
def numberedPairs (lineNo : Nat) : List LayoutLine → List (Nat × ConfigPair)
  | [] => []
  | line :: rest =>
    match line.body.pair? with
    | some pair => (lineNo, pair) :: numberedPairs (lineNo + 1) rest
    | none => numberedPairs (lineNo + 1) rest

def Layout.pairs (layout : Layout) : List (Nat × ConfigPair) :=
  numberedPairs 1 layout.lines

/-- The pairs in order. A failure says which line the first rejected pair stands on. -/
def applyPairs (config : AppConfig) : List (Nat × ConfigPair) → Except (Nat × String) AppConfig
  | [] => .ok config
  | (lineNo, pair) :: rest =>
    match applyKeyValue config (String.ofList pair.key) (String.ofList pair.value) with
    | .ok config => applyPairs config rest
    | .error what => .error (lineNo, what)

/-! ### One line -/

theorem not_mem_of_spaces {l : List Char} (spaces : ∀ c ∈ l, isSpace c) (c : Char)
    (solid : isSpace c = false) : c ∉ l := by
  intro inside
  rw [spaces c inside] at solid
  exact absurd solid (by decide)

theorem LineBody.no_hash (body : LineBody) : '#' ∉ body.text := by
  cases body with
  | entry indent pair beforeEquals afterEquals trailing =>
    have around := fun p : Padding => not_mem_of_spaces p.spaces '#' (by decide)
    simp [LineBody.text, around, pair.key_plain.2.1, pair.value_plain.1]
  | blank padding => exact not_mem_of_spaces padding.spaces '#' (by decide)

theorem LineBody.one_line (body : LineBody) : '\n' ∉ body.text := by
  cases body with
  | entry indent pair beforeEquals afterEquals trailing =>
    simp [LineBody.text, Padding.oneLine, pair.key_plain.2.2, pair.value_plain.2]
  | blank padding => exact padding.oneLine

theorem LayoutLine.one_line (line : LayoutLine) : '\n' ∉ line.text := by
  obtain ⟨body, comment, ending⟩ := line
  have noComment : '\n' ∉ commentText comment := by
    cases comment with
    | none => simp [commentText]
    | some comment => simp [commentText, comment.oneLine]
  have noEnding : '\n' ∉ ending.carriageReturn := by
    cases ending <;> decide
  simp [LayoutLine.text, body.one_line, noComment, noEnding]

/-- Behind the cut only the carriage return of a line without a comment is left. -/
theorem LayoutLine.cut (line : LayoutLine) :
    ∃ rest, (∀ c ∈ rest, isSpace c)
      ∧ line.text.takeWhile (· ≠ '#') = line.body.text ++ rest := by
  obtain ⟨body, comment, ending⟩ := line
  have kept : ∀ c ∈ body.text, decide (c ≠ '#') = true := by
    intro c inside
    simpa using fun hash : c = '#' => body.no_hash (hash ▸ inside)
  rw [LayoutLine.text, List.takeWhile_append_of_pos kept]
  cases comment with
  | some comment => exact ⟨[], by simp, by simp [commentText]⟩
  | none =>
    cases ending with
    | lf => exact ⟨[], by simp, rfl⟩
    | crlf => exact ⟨['\r'], by simp [isSpace], rfl⟩

theorem scanLine_pair (pair : ConfigPair) {indent before after trailing : List Char}
    (indentSpaces : ∀ c ∈ indent, isSpace c) (beforeSpaces : ∀ c ∈ before, isSpace c)
    (afterSpaces : ∀ c ∈ after, isSpace c) (trailingSpaces : ∀ c ∈ trailing, isSpace c)
    {line : List Char}
    (cut : line.takeWhile (· ≠ '#')
      = indent ++ pair.key ++ before ++ '=' :: (after ++ pair.value ++ trailing)) :
    scanLine line = .pair (String.ofList pair.key) (String.ofList pair.value) := by
  have solid : ¬ isSpace '=' = true := by decide
  obtain ⟨first, rest, key⟩ := List.exists_cons_of_ne_nil pair.key_nonempty
  have firstSolid : ¬ isSpace first = true := pair.key_trimmed.1 first (by simp [key])
  -- The first `=` is no white space, so both ends are trimmed on their side of it.
  have trimmed : trimChars (line.takeWhile (· ≠ '#'))
      = pair.key ++ before ++ '=' :: (after ++ pair.value ++ trailing).rdropWhile isSpace := by
    rw [cut, trimChars, TextLines.trim, List.append_assoc, List.append_assoc,
      dropWhile_pad_append indentSpaces, key, List.cons_append,
      List.dropWhile_cons_of_neg firstSolid, ← List.cons_append, ← List.append_assoc,
      rdropWhile_append_cons solid]
  have keyPart : ∀ c ∈ pair.key ++ before, decide (c ≠ '=') = true := by
    intro c inside
    have noEquals : '=' ∉ pair.key ++ before := by
      simp [pair.key_plain.1, not_mem_of_spaces beforeSpaces '=' (by decide)]
    simpa using fun equals : c = '=' => noEquals (equals ▸ inside)
  have keyTrimmed : trimChars (pair.key ++ before) = pair.key := by
    have noIndent : ∀ c ∈ ([] : List Char), isSpace c := by simp
    exact trim_padded noIndent beforeSpaces pair.key_trimmed
  have valueTrimmed :
      trimChars ((after ++ pair.value ++ trailing).rdropWhile isSpace) = pair.value :=
    trim_rdropWhile_padded afterSpaces trailingSpaces pair.value_trimmed
  have keyCut (rest : List Char) :
      (pair.key ++ before ++ '=' :: rest).takeWhile (· ≠ '=') = pair.key ++ before := by
    rw [List.takeWhile_append_of_pos keyPart, List.takeWhile_cons_of_neg (by decide),
      List.append_nil]
  have valueCut (rest : List Char) :
      ((pair.key ++ before ++ '=' :: rest).dropWhile (· ≠ '=')).tail = rest := by
    rw [List.dropWhile_append_of_pos keyPart, List.dropWhile_cons_of_neg (by decide),
      List.tail_cons]
  simp only [scanLine, trimmed]
  rw [if_neg (by simp), if_neg (by simp), keyCut, valueCut, keyTrimmed, valueTrimmed,
    if_neg pair.key_nonempty]

theorem scanLine_text (line : LayoutLine) :
    scanLine line.text
      = match line.body.pair? with
        | some pair => .pair (String.ofList pair.key) (String.ofList pair.value)
        | none => .blank := by
  obtain ⟨rest, restSpaces, cut⟩ := line.cut
  cases body : line.body with
  | blank padding =>
    rw [body, LineBody.text] at cut
    have spaces : ∀ c ∈ padding.chars ++ rest, isSpace c :=
      List.forall_mem_append.mpr ⟨padding.spaces, restSpaces⟩
    have nothing : trimChars (line.text.takeWhile (· ≠ '#')) = [] := by
      rw [cut]
      exact trim_padding spaces
    simp only [scanLine, nothing, if_true, LineBody.pair?]
  | entry indent pair before after trailing =>
    rw [body, LineBody.text] at cut
    have spaces : ∀ c ∈ trailing.chars ++ rest, isSpace c :=
      List.forall_mem_append.mpr ⟨trailing.spaces, restSpaces⟩
    exact scanLine_pair pair indent.spaces before.spaces after.spaces spaces (by simpa using cut)

/-! ### The whole file -/

theorem applyLine_text (config : AppConfig) (path : String) (lineNo : Nat) (line : LayoutLine) :
    applyLine config path lineNo line.text
      = match line.body.pair? with
        | some pair =>
          (applyKeyValue config (String.ofList pair.key) (String.ofList pair.value)).mapError
            (configErrorAt path lineNo)
        | none => .ok config := by
  rw [applyLine, scanLine_text]
  cases line.body.pair? <;> rfl

theorem applyLines_text (config : AppConfig) (path : String) (lineNo : Nat)
    (lines : List LayoutLine) :
    applyLines config path lineNo (lines.map LayoutLine.text)
      = (applyPairs config (numberedPairs lineNo lines)).mapError
        fun rejected => configErrorAt path rejected.1 rejected.2 := by
  induction lines generalizing config lineNo with
  | nil => rfl
  | cons line rest ih =>
    rw [List.map_cons, applyLines, applyLine_text, numberedPairs]
    cases line.body.pair? with
    | none => exact ih config (lineNo + 1)
    | some pair =>
      simp only [applyPairs]
      cases applyKeyValue config (String.ofList pair.key) (String.ofList pair.value) with
      | error what => rfl
      | ok config => exact ih config (lineNo + 1)

/-- An empty line at the end makes no difference. -/
theorem applyLines_append_empty (config : AppConfig) (path : String) (lineNo : Nat)
    (lines : List (List Char)) :
    applyLines config path lineNo (lines ++ [[]]) = applyLines config path lineNo lines := by
  induction lines generalizing config lineNo with
  | nil => rfl
  | cons line rest ih => simp only [List.cons_append, applyLines, ih]

/-- Reading a printed list of pairs applies them in order, and fails at the first pair that is
rejected, with the number of its line. -/
theorem loadConfigFileInto_layout (files : ConfigFiles) (config : AppConfig) (path : String)
    (required : Bool) (layout : Layout) (stored : files path = some layout.text) :
    loadConfigFileInto files config path required
      = (applyPairs config layout.pairs).mapError
        fun rejected => configErrorAt path rejected.1 rejected.2 := by
  have clean : ∀ line ∈ layout.lines.map LayoutLine.text, '\n' ∉ line := by
    intro text inLines
    obtain ⟨line, -, rfl⟩ := List.mem_map.mp inLines
    exact line.one_line
  simp only [loadConfigFileInto, stored]
  rw [Layout.pairs, ← applyLines_text, getLines, Layout.text]
  rcases split_join '\n' layout.finalNewline _ clean with whole | shorter
  · rw [whole]
  · rw [← shorter, applyLines_append_empty, shorter]

def noPadding : Padding := ⟨[], by simp, by decide⟩

def oneSpace : Padding := ⟨[' '], by simp [isSpace], by decide⟩

def widthPair : ConfigPair where
  key := ['w', 'i', 'd', 't', 'h']
  value := ['6', '4', '0']
  key_nonempty := by decide
  key_plain := by decide
  key_trimmed := by simp [Trimmed, isSpace]
  value_plain := by decide
  value_trimmed := by simp [Trimmed, isSpace]

/-- The value has a `=` of its own. -/
def hostPair : ConfigPair where
  key := ['t', 'c', 'p', '_', 'h', 'o', 's', 't']
  value := ['h', '=', '1']
  key_nonempty := by decide
  key_plain := by decide
  key_trimmed := by simp [Trimmed, isSpace]
  value_plain := by decide
  value_trimmed := by simp [Trimmed, isSpace]

/-- A key that there is not. -/
def depthPair : ConfigPair where
  key := ['d', 'e', 'p', 't', 'h']
  value := []
  key_nonempty := by decide
  key_plain := by decide
  key_trimmed := by simp [Trimmed, isSpace]
  value_plain := by decide
  value_trimmed := by simp [Trimmed]

/-- `" width =\t640 # pixels"` with a carriage return, a blank line, a comment and
`"tcp_host=h=1"`. -/
def cameraLayout : Layout where
  lines := [
    { body := .entry oneSpace widthPair oneSpace ⟨['\t'], by simp [isSpace], by decide⟩ oneSpace
      comment := some ⟨[' ', 'p', 'i', 'x', 'e', 'l', 's'], by decide⟩
      ending := .crlf },
    { body := .blank oneSpace, comment := none, ending := .lf },
    { body := .blank noPadding, comment := some ⟨['w', '=', '3'], by decide⟩, ending := .crlf },
    { body := .entry noPadding hostPair noPadding noPadding noPadding
      comment := none
      ending := .lf }]
  finalNewline := false

/-- The same lines and `"depth="` behind them. -/
def depthLayout : Layout where
  lines := cameraLayout.lines ++ [
    { body := .entry noPadding depthPair noPadding noPadding noPadding
      comment := none
      ending := .lf }]
  finalNewline := true

theorem loadConfigFileInto_cameraLayout :
    loadConfigFileInto (fun _ => some cameraLayout.text) {} "camera.conf" true
        = .ok { width := some 640, tcpHost := some "h=1" }
      ∧ loadConfigFileInto (fun _ => some depthLayout.text) {} "camera.conf" true
        = .error "Config error at camera.conf:5: Unknown config key: depth" :=
  ⟨(loadConfigFileInto_layout _ {} "camera.conf" true cameraLayout rfl).trans rfl,
    (loadConfigFileInto_layout _ {} "camera.conf" true depthLayout rfl).trans rfl⟩

end V4l2Capture.Config
