import V4l2Capture.Config.KeyValue

/-!
# The configuration file

`load_config_file_into`: the lines of the file one behind the other, and what each sets.
-/
namespace V4l2Capture.Config

open LastWriter

/-- The contents of the files that can be opened, by their path. -/
abbrev ConfigFiles := String → Option (List Char)

/-- What the loop finds on a line. -/
inductive LineContent where
  | blank
  | missingEquals
  | emptyKey
  | pair (key value : String)
  deriving DecidableEq, Repr

/-- A comment is cut off and white space trimmed away before the line is looked at. -/
def scanLine (line : List Char) : LineContent :=
  let line := trimChars (line.takeWhile (· ≠ '#'))
  if line = [] then .blank
  else if '=' ∉ line then .missingEquals
  else
    -- The first `=` ends the key.
    let key := trimChars (line.takeWhile (· ≠ '='))
    let value := trimChars (line.dropWhile (· ≠ '=')).tail
    if key = [] then .emptyKey else .pair (String.ofList key) (String.ofList value)

def invalidConfigLine (path : String) (lineNo : Nat) (problem : String) : String :=
  "Invalid config line " ++ toString lineNo ++ " in " ++ path ++ ": " ++ problem

def configErrorAt (path : String) (lineNo : Nat) (what : String) : String :=
  "Config error at " ++ path ++ ":" ++ toString lineNo ++ ": " ++ what

/-- The body of the loop for one line. -/
def applyLine (config : AppConfig) (path : String) (lineNo : Nat) (line : List Char) :
    Except String AppConfig :=
  match scanLine line with
  | .blank => .ok config
  | .missingEquals => .error (invalidConfigLine path lineNo "missing '='")
  | .emptyKey => .error (invalidConfigLine path lineNo "empty key")
  | .pair key value => (applyKeyValue config key value).mapError (configErrorAt path lineNo)

/-- The loop from the line with the number `lineNo`. -/
def applyLines (config : AppConfig) (path : String) (lineNo : Nat) :
    List (List Char) → Except String AppConfig
  | [] => .ok config
  | line :: rest => do
    let config ← applyLine config path lineNo line
    applyLines config path (lineNo + 1) rest

/-- `std::getline` yields the text up to each newline, and no line behind the last one. -/
def getLines (content : List Char) : List (List Char) :=
  TextLines.split '\n' content

def loadConfigFileInto (files : ConfigFiles) (config : AppConfig) (path : String)
    (required : Bool) : Except String AppConfig :=
  match files path with
  | none => if required then .error ("Config file not found: " ++ path) else .ok config
  | some content => applyLines config path 1 (getLines content)

/-! ### What a line sets -/

def lineSetting (line : List Char) : Except String (Option Setting) :=
  match scanLine line with
  | .blank => .ok none
  | .missingEquals => .error "missing '='"
  | .emptyKey => .error "empty key"
  | .pair key value => do return some (← keySetting key value)

def fileSettings (content : List Char) : List Setting :=
  (getLines content).filterMap (accepted lineSetting)

theorem mapError_eq_ok_iff {α : Type} {result : Except String α} {f : String → String} {a : α} :
    result.mapError f = .ok a ↔ result = .ok a := by
  cases result <;> simp [Except.mapError]

theorem applyLine_ok_iff (config after : AppConfig) (path : String) (lineNo : Nat)
    (line : List Char) :
    applyLine config path lineNo line = .ok after
      ↔ ∃ set, lineSetting line = .ok set
        ∧ after = configFields.writeAll set.toList config := by
  simp only [applyLine, lineSetting]
  cases scanLine line with
  | blank => simp [eq_comm]
  | missingEquals => simp
  | emptyKey => simp
  | pair key value =>
    simp only [mapError_eq_ok_iff, applyKeyValue_eq, map_eq_ok_iff, bind_pure_comp]
    constructor
    · rintro ⟨setting, ok, rfl⟩
      exact ⟨some setting, ⟨setting, ok, rfl⟩, rfl⟩
    · rintro ⟨_, ⟨setting, ok, rfl⟩, rfl⟩
      exact ⟨setting, ok, rfl⟩

/-- The file is accepted exactly if each of its lines is, and then the settings are written
one behind the other. -/
theorem applyLines_ok_iff (config after : AppConfig) (path : String) (lineNo : Nat)
    (lines : List (List Char)) :
    applyLines config path lineNo lines = .ok after
      ↔ WritesAll lineSetting lines config after := by
  induction lines generalizing config lineNo with
  | nil => simp [applyLines, eq_comm]
  | cons line rest ih =>
    rw [applyLines, bind_eq_ok_iff, writesAll_cons]
    simp only [applyLine_ok_iff, ih]
    constructor
    · rintro ⟨_, ⟨set, ok, rfl⟩, restOk⟩
      exact ⟨set, ok, restOk⟩
    · rintro ⟨set, ok, restOk⟩
      exact ⟨_, ⟨set, ok, rfl⟩, restOk⟩

end V4l2Capture.Config
