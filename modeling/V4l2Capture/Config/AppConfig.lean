import V4l2Capture.Library.TextLines

/-!
# The configuration and its values

`AppConfig` with its built-in defaults, and the parsers for the values of its fields. A
`std::string` is a `String` with one character for each byte.
-/
namespace V4l2Capture.Config

def defaultConfigPath : String := "config/v4l2_tcp_pipeline.conf"

/-- An `int` is an `Int`: every value that is parsed is at most a million. -/
@[ext] structure AppConfig where
  configPath : String := defaultConfigPath
  device : String := "/dev/video10"
  listFormats : Bool := false
  captureOne : Bool := false
  saveOne : Bool := false
  captureFrames : Int := 0
  pipelineFrames : Int := 0
  ringCapacity : Int := 8
  consumerDelayMs : Int := 0
  pipelineSave : Bool := false
  saveLimit : Int := 5
  timeoutMs : Int := 2000
  cameraRecoveryEnabled : Bool := true
  cameraTimeoutRecoveryThreshold : Int := 3
  cameraInvalidFrameRecoveryThreshold : Int := 30
  cameraInvalidFrameRecoveryCooldownFrames : Int := 300
  cameraInvalidFrameRecoveryMaxCount : Int := 3
  cameraRecoveryMaxAttempts : Int := 5
  cameraRecoveryRetryDelayMs : Int := 1000
  outputDir : String := "output"
  statsOutput : String := "output/stats/pipeline_stats.json"
  tcpHost : Option String := none
  tcpPort : Int := 0
  tcpQueueCapacity : Int := 8
  tcpConnectMaxAttempts : Int := 5
  tcpConnectRetryDelayMs : Int := 500
  tcpSendTimeoutMs : Int := 2000
  width : Option UInt32 := none
  height : Option UInt32 := none
  pixelFormat : Option String := none
  mmapBuffers : Option UInt32 := none
  logLevel : String := "INFO"
  deriving DecidableEq, Repr

/-! ### Characters -/

/-- `std::isspace` in the locale the program starts with. -/
def isSpace (c : Char) : Bool :=
  c = ' ' || c = '\t' || c = '\n' || c = '\x0b' || c = '\x0c' || c = '\r'

/-- The loop over `begin` and then the one over `end`. -/
def trimChars (input : List Char) : List Char :=
  TextLines.trim isSpace input

def trim (input : String) : String :=
  String.ofList (trimChars input.toList)

def toLower (value : String) : String :=
  String.ofList (value.toList.map Char.toLower)

/-! ### Numbers -/

/-- `std::stol(value, &pos, 10)`: the number and `pos`, or nothing where it throws. -/
def stol (value : String) : Option (Int × Nat) :=
  let unspaced := value.toList.dropWhile isSpace
  let negative := unspaced.head? = some '-'
  let unsigned :=
    if unspaced.head? = some '-' ∨ unspaced.head? = some '+' then unspaced.tail else unspaced
  let digits := unsigned.takeWhile Char.isDigit
  let magnitude := digits.foldl (fun number c => 10 * number + (c.toNat - '0'.toNat)) 0
  let number : Int := if negative then -magnitude else magnitude
  -- No digits is `std::invalid_argument`, a number that is no `long` is `std::out_of_range`.
  if digits = [] ∨ number < -9223372036854775808 ∨ 9223372036854775807 < number then none
  else some (number, value.toList.length - (unsigned.length - digits.length))

def invalidInteger (value name : String) : String :=
  "Invalid integer for " ++ name ++ ": " ++ value

/-- The `max_value` of a call that gives none. -/
def defaultMaxValue : Int := 1000000

def parsePositiveInt (value name : String) (maxValue : Int) : Except String Int :=
  match stol value with
  | some (parsed, pos) =>
    if pos ≠ value.toList.length ∨ parsed ≤ 0 ∨ parsed > maxValue then
      .error (invalidInteger value name)
    else .ok parsed
  | none => .error (invalidInteger value name)

def parseNonNegativeInt (value name : String) (maxValue : Int) : Except String Int :=
  match stol value with
  | some (parsed, pos) =>
    if pos ≠ value.toList.length ∨ parsed < 0 ∨ parsed > maxValue then
      .error (invalidInteger value name)
    else .ok parsed
  | none => .error (invalidInteger value name)

def parseU32Value (value name : String) : Except String UInt32 := do
  let parsed ← parsePositiveInt value name 1000000
  .ok (UInt32.ofInt parsed)

def parseBool (value name : String) : Except String Bool :=
  let lowered := toLower (trim value)
  if lowered = "1" ∨ lowered = "true" ∨ lowered = "yes" ∨ lowered = "on" then .ok true
  else if lowered = "0" ∨ lowered = "false" ∨ lowered = "no" ∨ lowered = "off" then .ok false
  else .error ("Invalid bool for " ++ name ++ ": " ++ value)

/-! ### Accepted numbers -/

/-- A number is accepted if it was read from the whole text and is in range. -/
theorem checked_ok_iff {α : Type} (read : Option (α × Nat)) (length : Nat) (outOfRange : α → Prop)
    [DecidablePred outOfRange] (message : String) (value : α) :
    (match read with
      | some (value, pos) =>
        if pos ≠ length ∨ outOfRange value then Except.error message else .ok value
      | none => .error message) = .ok value ↔ read = some (value, length) ∧ ¬ outOfRange value := by
  split
  next result pos =>
    split
    next refused =>
      refine iff_of_false (fun ok => by cases ok) ?_
      rintro ⟨whole, inRange⟩
      cases whole
      rcases refused with cut | outside
      · exact cut rfl
      · exact inRange outside
    next accepted =>
      obtain ⟨whole, inRange⟩ := not_or.mp accepted
      constructor
      · intro ok
        cases ok
        exact ⟨by rw [not_not.mp whole], inRange⟩
      · rintro ⟨same, _⟩
        cases same
        rfl
  next => exact iff_of_false (fun ok => by cases ok) fun read => by cases read.1

theorem parsePositiveInt_eq_ok_iff (value name : String) (maxValue parsed : Int) :
    parsePositiveInt value name maxValue = .ok parsed ↔
      stol value = some (parsed, value.toList.length) ∧ 1 ≤ parsed ∧ parsed ≤ maxValue := by
  have checked := checked_ok_iff (stol value) value.toList.length
    (fun parsed => parsed ≤ 0 ∨ parsed > maxValue) (invalidInteger value name) parsed
  rw [not_or, gt_iff_lt, Int.not_le, Int.not_lt] at checked
  rw [parsePositiveInt]
  generalize stol value = read at checked ⊢
  cases read with
  | none => exact checked
  | some result => exact checked

theorem parseNonNegativeInt_eq_ok_iff (value name : String) (maxValue parsed : Int) :
    parseNonNegativeInt value name maxValue = .ok parsed ↔
      stol value = some (parsed, value.toList.length) ∧ 0 ≤ parsed ∧ parsed ≤ maxValue := by
  have checked := checked_ok_iff (stol value) value.toList.length
    (fun parsed => parsed < 0 ∨ parsed > maxValue) (invalidInteger value name) parsed
  rw [not_or, gt_iff_lt, Int.not_lt, Int.not_lt] at checked
  rw [parseNonNegativeInt]
  generalize stol value = read at checked ⊢
  cases read with
  | none => exact checked
  | some result => exact checked

end V4l2Capture.Config
