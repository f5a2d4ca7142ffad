import V4l2Capture.Config.CommandLine

/-!
# The same option in the file and on the command line

A key and the flag of the same name set the same field to the same value, with two
exceptions: the key `frames` is another name of `pipeline_frames` where the flag is one of
`--capture-frames`, and an empty `tcp_host` unsets the field only in the file.
-/
namespace V4l2Capture.Config

open LastWriter

/-- The flag of the same name, with dashes for the underscores. -/
def flagOfKey (key : String) : String :=
  "--" ++ String.ofList (key.toList.map fun c => if c = '_' then '-' else c)

/-- Some line with this key is accepted. -/
def IsConfigKey (key : String) : Prop :=
  ∃ config value after, applyKeyValue config key value = .ok after

/-! ### Values -/

theorem parsePositiveInt_renamed {value name other : String} {maxValue parsed : Int}
    (accepted : parsePositiveInt value name maxValue = .ok parsed) :
    parsePositiveInt value other maxValue = .ok parsed := by
  rw [parsePositiveInt_eq_ok_iff] at accepted ⊢
  exact accepted

theorem parseNonNegativeInt_renamed {value name other : String} {maxValue parsed : Int}
    (accepted : parseNonNegativeInt value name maxValue = .ok parsed) :
    parseNonNegativeInt value other maxValue = .ok parsed := by
  rw [parseNonNegativeInt_eq_ok_iff] at accepted ⊢
  exact accepted

theorem parseNonNegativeInt_of_positive {value name other : String} {maxValue parsed : Int}
    (accepted : parsePositiveInt value name maxValue = .ok parsed) :
    parseNonNegativeInt value other maxValue = .ok parsed := by
  obtain ⟨read, positive, within⟩ := (parsePositiveInt_eq_ok_iff _ _ _ _).mp accepted
  exact (parseNonNegativeInt_eq_ok_iff _ _ _ _).mpr ⟨read, by omega, within⟩

theorem parseU32Value_renamed {value name other : String} {parsed : UInt32}
    (accepted : parseU32Value value name = .ok parsed) :
    parseU32Value value other = .ok parsed := by
  simp only [parseU32Value, bind_eq_ok_iff] at accepted ⊢
  obtain ⟨number, ok, rest⟩ := accepted
  exact ⟨number, parsePositiveInt_renamed ok, rest⟩

theorem return_renamed {α β : Type} {f : α → β} {first second : Except String α} {b : β}
    (same : ∀ {a}, first = .ok a → second = .ok a)
    (ok : (do return f (← first)) = Except.ok b) : (do return f (← second)) = Except.ok b := by
  rw [bind_eq_ok_iff] at ok ⊢
  obtain ⟨a, firstOk, rest⟩ := ok
  exact ⟨a, same firstOk, rest⟩

/-! ### Names -/

theorem ite_eq_of {α : Type} {p : Prop} [Decidable p] {first second result : α}
    (yes : p → first = result) (no : ¬ p → second = result) :
    (if p then first else second) = result := by
  split
  next holds => exact yes holds
  next fails => exact no fails

/-- In the branch of a key the flag is the one of its name. -/
theorem branch_of_flag {key name : String} {parse : String → Except String Setting}
    {first second result : Except String Setting}
    (flag : flagNamed (flagOfKey key) = .value parse)
    (yes : flagNamed (flagOfKey name) = .value parse → first = result)
    (no : key ≠ name → second = result) : (if key = name then first else second) = result := by
  apply ite_eq_of
  · rintro rfl
    exact yes flag
  · exact no

/-- What the flag accepts the line accepts, one case for each branch of `apply_key_value`. -/
theorem keySetting_of_flag {key : String} (known : key ∈ configKeys) (notFrames : key ≠ "frames")
    (notHost : key ≠ "tcp_host") {parse : String → Except String Setting}
    (flag : flagNamed (flagOfKey key) = .value parse) {value : String} {setting : Setting}
    (ok : parse value = .ok setting) : keySetting key value = .ok setting := by
  unfold keySetting
  refine branch_of_flag flag (fun flag => ?_) fun _ => ?_
  · cases flag
    exact ok
  refine branch_of_flag flag (fun flag => ?_) fun _ => ?_
  · cases flag
  refine branch_of_flag flag (fun flag => ?_) fun _ => ?_
  · cases flag
    exact return_renamed parseU32Value_renamed ok
  refine branch_of_flag flag (fun flag => ?_) fun _ => ?_
  · cases flag
    exact return_renamed parseU32Value_renamed ok
  refine ite_eq_of (fun name => ?_) fun _ => ?_
  · rcases name with rfl | rfl
    · cases flag; exact ok
    · cases flag
  refine branch_of_flag flag (fun flag => ?_) fun _ => ?_
  · cases flag
    exact return_renamed parseU32Value_renamed ok
  refine branch_of_flag flag (fun flag => ?_) fun _ => ?_
  · cases flag
  refine branch_of_flag flag (fun flag => ?_) fun _ => ?_
  · cases flag
  refine branch_of_flag flag (fun flag => ?_) fun _ => ?_
  · cases flag
    exact return_renamed parseNonNegativeInt_of_positive ok
  refine ite_eq_of (fun name => ?_) fun _ => ?_
  · rcases name with rfl | rfl
    · exact absurd rfl notFrames
    · cases flag; exact return_renamed parseNonNegativeInt_of_positive ok
  refine branch_of_flag flag (fun flag => ?_) fun _ => ?_
  · cases flag
    exact return_renamed parsePositiveInt_renamed ok
  refine branch_of_flag flag (fun flag => ?_) fun _ => ?_
  · cases flag
    exact return_renamed parseNonNegativeInt_renamed ok
  refine branch_of_flag flag (fun flag => ?_) fun _ => ?_
  · cases flag
  refine branch_of_flag flag (fun flag => ?_) fun _ => ?_
  · cases flag
    exact return_renamed parsePositiveInt_renamed ok
  refine branch_of_flag flag (fun flag => ?_) fun _ => ?_
  · cases flag
  refine branch_of_flag flag (fun flag => ?_) fun _ => ?_
  · cases flag
    exact ok
  refine ite_eq_of (fun name => ?_) fun _ => ?_
  · exact absurd name notHost
  refine branch_of_flag flag (fun flag => ?_) fun _ => ?_
  · cases flag
    exact return_renamed parseNonNegativeInt_of_positive ok
  refine branch_of_flag flag (fun flag => ?_) fun _ => ?_
  · cases flag
    exact return_renamed parsePositiveInt_renamed ok
  refine branch_of_flag flag (fun flag => ?_) fun _ => ?_
  · cases flag
    exact return_renamed parsePositiveInt_renamed ok
  refine branch_of_flag flag (fun flag => ?_) fun _ => ?_
  · cases flag
    exact return_renamed parseNonNegativeInt_renamed ok
  refine branch_of_flag flag (fun flag => ?_) fun _ => ?_
  · cases flag
    exact return_renamed parsePositiveInt_renamed ok
  refine branch_of_flag flag (fun flag => ?_) fun _ => ?_
  · cases flag
    exact return_renamed parsePositiveInt_renamed ok
  refine branch_of_flag flag (fun flag => ?_) fun _ => ?_
  · cases flag
  refine branch_of_flag flag (fun flag => ?_) fun _ => ?_
  · cases flag
    exact return_renamed parsePositiveInt_renamed ok
  refine branch_of_flag flag (fun flag => ?_) fun _ => ?_
  · cases flag
    exact return_renamed parsePositiveInt_renamed ok
  refine branch_of_flag flag (fun flag => ?_) fun _ => ?_
  · cases flag
    exact return_renamed parseNonNegativeInt_renamed ok
  refine branch_of_flag flag (fun flag => ?_) fun _ => ?_
  · cases flag
    exact return_renamed parsePositiveInt_renamed ok
  refine branch_of_flag flag (fun flag => ?_) fun _ => ?_
  · cases flag
    exact return_renamed parsePositiveInt_renamed ok
  refine branch_of_flag flag (fun flag => ?_) fun _ => ?_
  · cases flag
    exact return_renamed parseNonNegativeInt_renamed ok
  refine branch_of_flag flag (fun flag => ?_) fun _ => ?_
  · cases flag
    exact ok
  simp only [not_or] at *
  exact absurd known (by simp [configKeys, *])

theorem applyCliArgs_pair {arg value : String} {parse : String → Except String Setting}
    (flag : flagNamed arg = .value parse) (config after : AppConfig) :
    applyCliArgs config [arg, value] = .ok after
      ↔ ∃ setting, parse value = .ok setting ∧ after = configFields.write setting config := by
  have one : cliOptions [arg, value] = [optionAt arg (some value)] := by
    rw [cliOptions_cons, flag, Flag.takesValue, if_pos rfl, cliOptions]
  rw [applyCliArgs_ok_iff, one, writesAll_cons]
  simp only [optionAt, CliOption.setting, flag, Flag.takesValue, if_true, writesAll_nil,
    bind_eq_ok_iff, pure, Except.pure, Except.ok.injEq]
  constructor
  · rintro ⟨_, ⟨setting, ok, rfl⟩, rfl⟩
    exact ⟨setting, ok, rfl⟩
  · rintro ⟨setting, ok, rfl⟩
    exact ⟨_, ⟨setting, ok, rfl⟩, rfl⟩

theorem applyKeyValue_ok {key value : String} {setting : Setting}
    (ok : keySetting key value = .ok setting) (config : AppConfig) :
    applyKeyValue config key value = .ok (configFields.write setting config) := by
  rw [applyKeyValue_eq, ok, Except.map_ok]

theorem IsConfigKey.known {key : String} (isKey : IsConfigKey key) : key ∈ configKeys := by
  obtain ⟨config, value, after, ok⟩ := isKey
  by_contra unknown
  rw [applyKeyValue_eq, keySetting_unknown unknown, Except.map_error] at ok
  exact absurd ok (by simp)

theorem Flag.takesValue_iff {flag : Flag} : flag.takesValue ↔ ∃ parse, flag = .value parse := by
  cases flag <;> simp [Flag.takesValue]

/-! ### When the line and the flag mean the same -/

theorem flagNamed_frames : flagNamed (flagOfKey "frames") = .value fun value => do
    return ⟨.captureFrames, ← parsePositiveInt value "--frames" defaultMaxValue⟩ := rfl

theorem flagNamed_tcpHost :
    flagNamed (flagOfKey "tcp_host") = .value fun value => .ok ⟨.tcpHost, some value⟩ := rfl

theorem keySetting_tcpHost (value : String) :
    keySetting "tcp_host" value
      = if value = "" then .ok ⟨.tcpHost, none⟩ else .ok ⟨.tcpHost, some value⟩ := rfl

/-- The line `frames` leaves the field alone that the flag `--frames` sets. -/
theorem applyKeyValue_frames {config after : AppConfig} {value : String}
    (ok : applyKeyValue config "frames" value = .ok after) :
    after.captureFrames = config.captureFrames := by
  have setting : keySetting "frames" value = do
      return ⟨.pipelineFrames, ← parseNonNegativeInt value "frames" defaultMaxValue⟩ := rfl
  rw [applyKeyValue_eq, setting, map_eq_ok_iff] at ok
  obtain ⟨_, frames, rfl⟩ := ok
  obtain ⟨_, _, ends⟩ := bind_eq_ok_iff.mp frames
  injection ends with ends
  rw [← ends]
  rfl

theorem parsePositiveInt_pos {value name : String} {maxValue parsed : Int}
    (ok : parsePositiveInt value name maxValue = .ok parsed) : 0 < parsed :=
  ((parsePositiveInt_eq_ok_iff _ _ _ _).mp ok).2.1

/-- For a key that has a flag of its name and a value the flag accepts, the two dispatchers
agree from every configuration, except for the two keys that mean something else. -/
theorem applyKeyValue_eq_applyCliArgs_iff {key value : String} (isKey : IsConfigKey key)
    (takesValue : (flagNamed (flagOfKey key)).takesValue = true)
    (accepts : ∃ config after, applyCliArgs config [flagOfKey key, value] = .ok after) :
    (∀ config, applyKeyValue config key value = applyCliArgs config [flagOfKey key, value])
      ↔ key ≠ "frames" ∧ ¬ (key = "tcp_host" ∧ value = "") := by
  obtain ⟨parse, flag⟩ := Flag.takesValue_iff.mp takesValue
  obtain ⟨start, reached, accepted⟩ := accepts
  obtain ⟨setting, parsed, -⟩ := (applyCliArgs_pair flag start reached).mp accepted
  have onCli (config : AppConfig) :
      applyCliArgs config [flagOfKey key, value] = .ok (configFields.write setting config) :=
    (applyCliArgs_pair flag config _).mpr ⟨setting, parsed, rfl⟩
  simp only [onCli]
  constructor
  · intro same
    constructor
    · rintro rfl
      obtain rfl := Flag.value.inj (flagNamed_frames.symm.trans flag)
      obtain ⟨frames, positive, ends⟩ := bind_eq_ok_iff.mp parsed
      obtain rfl := Except.ok.inj ends
      have kept := applyKeyValue_frames (same {})
      have set : frames = 0 := kept
      have := parsePositiveInt_pos positive
      omega
    · rintro ⟨rfl, rfl⟩
      obtain rfl := Flag.value.inj (flagNamed_tcpHost.symm.trans flag)
      obtain rfl := Except.ok.inj parsed
      have unset := (applyKeyValue_ok (keySetting_tcpHost "") {}).symm.trans (same {})
      have hosts := congrArg AppConfig.tcpHost (Except.ok.inj unset)
      simp [configFields_write, AppConfig.set] at hosts
  · rintro ⟨notFrames, notUnset⟩ config
    apply applyKeyValue_ok
    by_cases host : key = "tcp_host"
    · subst host
      obtain rfl := Flag.value.inj (flagNamed_tcpHost.symm.trans flag)
      rw [keySetting_tcpHost, if_neg fun empty => notUnset ⟨rfl, empty⟩]
      exact parsed
    · exact keySetting_of_flag isKey.known notFrames host flag parsed

theorem applyKeyValue_eq_applyCliArgs_iff_width :
    (∀ config, applyKeyValue config "width" "640" = applyCliArgs config [flagOfKey "width", "640"])
      ↔ "width" ≠ "frames" ∧ ¬ ("width" = "tcp_host" ∧ "640" = "") :=
  applyKeyValue_eq_applyCliArgs_iff ⟨{}, "640", { width := some 640 }, rfl⟩ rfl
    ⟨{}, { width := some 640 }, rfl⟩

/-- `frames=100` in the file asks for a pipeline, `--frames 100` for a plain capture. -/
theorem frames_on_cli_is_not_frames_in_file :
    ¬ ∀ key value, IsConfigKey key → (flagNamed (flagOfKey key)).takesValue = true →
      (∃ config after, applyCliArgs config [flagOfKey key, value] = .ok after) →
        ∀ config, applyKeyValue config key value = applyCliArgs config [flagOfKey key, value] := by
  intro same
  have equal := same "frames" "100" ⟨{}, "100", { pipelineFrames := 100 }, rfl⟩ rfl
    ⟨{}, { captureFrames := 100 }, rfl⟩ {}
  have inFile : applyKeyValue {} "frames" "100" = .ok { pipelineFrames := 100 } := rfl
  have onCli : applyCliArgs {} [flagOfKey "frames", "100"] = .ok { captureFrames := 100 } := rfl
  rw [inFile, onCli] at equal
  exact absurd (congrArg AppConfig.pipelineFrames (Except.ok.inj equal)) (by decide)

end V4l2Capture.Config
