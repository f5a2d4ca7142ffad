import V4l2Capture.Config.KeyValue

/-!
# The command line

`find_config_arg` and the option loop `apply_cli_args`. An argument vector is given without
the name of the program. The loop reads it as a list of options, each of which sets at most
one field.
-/
namespace V4l2Capture.Config

open LastWriter

/-- What follows a `--config`. -/
def configArgOf : List String → Except String (Option String)
  | [] => .error "--config requires a file path"
  | value :: _ => .ok (some value)

/-- The argument behind the first `--config`, wherever that stands. -/
def findConfigArg : List String → Except String (Option String)
  | [] => .ok none
  | arg :: rest => if arg = "--config" then configArgOf rest else findConfigArg rest

def incompleteArgument (arg : String) : String :=
  "Unknown or incomplete argument: " ++ arg

/-- A branch that takes `argv[++i]`. Without a next argument its condition fails, and so do
those of the branches behind it. -/
def withValue (arg : String) (next : Option String) (assign : String → Except String AppConfig) :
    Except String (AppConfig × Bool) :=
  match next with
  | some value => do return (← assign value, true)
  | none => .error (incompleteArgument arg)

/-- The body of the loop for `argv[i]` and, where there is one, `argv[i + 1]`. The flag says
whether `i` was moved past the next argument. -/
def cliOption (config : AppConfig) (arg : String) (next : Option String) :
    Except String (AppConfig × Bool) :=
  if arg = "--config" then
    withValue arg next fun value => .ok { config with configPath := value }
  else if arg = "--device" ∨ arg = "-d" then
    withValue arg next fun value => .ok { config with device := value }
  else if arg = "--list-formats" then
    .ok ({ config with listFormats := true }, false)
  else if arg = "--width" then
    withValue arg next fun value =>
      do return { config with width := some (← parseU32Value value "--width") }
  else if arg = "--height" then
    withValue arg next fun value =>
      do return { config with height := some (← parseU32Value value "--height") }
  else if arg = "--format" then
    withValue arg next fun value => .ok { config with pixelFormat := some value }
  else if arg = "--mmap-buffers" then
    withValue arg next fun value =>
      do return { config with mmapBuffers := some (← parseU32Value value "--mmap-buffers") }
  else if arg = "--capture-one" then
    .ok ({ config with captureOne := true }, false)
  else if arg = "--save-one" then
    .ok ({ config with saveOne := true }, false)
  else if arg = "--frames" ∨ arg = "--capture-frames" then
    withValue arg next fun value =>
      do return { config with captureFrames := ← parsePositiveInt value arg defaultMaxValue }
  else if arg = "--pipeline-frames" then
    withValue arg next fun value =>
      do return { config with pipelineFrames := ← parsePositiveInt value arg defaultMaxValue }
  else if arg = "--ring-capacity" then
    withValue arg next fun value =>
      do return { config with ringCapacity := ← parsePositiveInt value arg defaultMaxValue }
  else if arg = "--consumer-delay-ms" then
    withValue arg next fun value =>
      do return { config with consumerDelayMs := ← parseNonNegativeInt value arg defaultMaxValue }
  else if arg = "--pipeline-save" then
    .ok ({ config with pipelineSave := true }, false)
  else if arg = "--save-limit" then
    withValue arg next fun value =>
      do return { config with saveLimit := ← parsePositiveInt value arg defaultMaxValue }
  else if arg = "--output" then
    withValue arg next fun value => .ok { config with outputDir := value }
  else if arg = "--stats-output" then
    withValue arg next fun value => .ok { config with statsOutput := value }
  else if arg = "--tcp-host" then
    withValue arg next fun value => .ok { config with tcpHost := some value }
  else if arg = "--tcp-port" then
    withValue arg next fun value =>
      do return { config with tcpPort := ← parsePositiveInt value arg 65535 }
  else if arg = "--tcp-queue-capacity" then
    withValue arg next fun value =>
      do return { config with tcpQueueCapacity := ← parsePositiveInt value arg defaultMaxValue }
  else if arg = "--tcp-connect-max-attempts" then
    withValue arg next fun value =>
      do return { config with tcpConnectMaxAttempts := ← parsePositiveInt value arg 1000 }
  else if arg = "--tcp-connect-retry-delay-ms" then
    withValue arg next fun value =>
      do return { config with tcpConnectRetryDelayMs := ← parseNonNegativeInt value arg 60000 }
  else if arg = "--tcp-send-timeout-ms" then
    withValue arg next fun value =>
      do return { config with tcpSendTimeoutMs := ← parsePositiveInt value arg 600000 }
  else if arg = "--timeout-ms" then
    withValue arg next fun value =>
      do return { config with timeoutMs := ← parsePositiveInt value arg defaultMaxValue }
  else if arg = "--camera-recovery" then
    .ok ({ config with cameraRecoveryEnabled := true }, false)
  else if arg = "--no-camera-recovery" then
    .ok ({ config with cameraRecoveryEnabled := false }, false)
  else if arg = "--camera-timeout-recovery-threshold" then
    withValue arg next fun value =>
      do return { config with cameraTimeoutRecoveryThreshold := ← parsePositiveInt value arg 1000 }
  else if arg = "--camera-invalid-frame-recovery-threshold" then
    withValue arg next fun value => do return { config with
      cameraInvalidFrameRecoveryThreshold := ← parsePositiveInt value arg 1000 }
  else if arg = "--camera-invalid-frame-recovery-cooldown-frames" then
    withValue arg next fun value => do return { config with
      cameraInvalidFrameRecoveryCooldownFrames := ← parseNonNegativeInt value arg 1000000 }
  else if arg = "--camera-invalid-frame-recovery-max-count" then
    withValue arg next fun value => do return { config with
      cameraInvalidFrameRecoveryMaxCount := ← parsePositiveInt value arg 1000 }
  else if arg = "--camera-recovery-max-attempts" then
    withValue arg next fun value =>
      do return { config with cameraRecoveryMaxAttempts := ← parsePositiveInt value arg 1000 }
  else if arg = "--camera-recovery-retry-delay-ms" then
    withValue arg next fun value =>
      do return { config with cameraRecoveryRetryDelayMs := ← parseNonNegativeInt value arg 600000 }
  else if arg = "--log-level" then
    withValue arg next fun value => .ok { config with logLevel := value }
  -- Handled by `main` before.
  else if arg = "--help" ∨ arg = "-h" then .ok (config, false)
  else .error (incompleteArgument arg)

def applyCliArgs (config : AppConfig) : List String → Except String AppConfig
  | [] => .ok config
  | [arg] => do return (← cliOption config arg none).1
  | arg :: next :: rest => do
    let (config, taken) ← cliOption config arg (some next)
    if taken then applyCliArgs config rest else applyCliArgs config (next :: rest)

/-! ### What an option sets -/

inductive Flag where
  | value (parse : String → Except String Setting)
  | switch (setting : Option Setting)
  | unknown

def flagNamed (arg : String) : Flag :=
  if arg = "--config" then
    .value fun value => .ok ⟨.configPath, value⟩
  else if arg = "--device" ∨ arg = "-d" then
    .value fun value => .ok ⟨.device, value⟩
  else if arg = "--list-formats" then
    .switch (some ⟨.listFormats, true⟩)
  else if arg = "--width" then
    .value fun value => do return ⟨.width, some (← parseU32Value value "--width")⟩
  else if arg = "--height" then
    .value fun value => do return ⟨.height, some (← parseU32Value value "--height")⟩
  else if arg = "--format" then
    .value fun value => .ok ⟨.pixelFormat, some value⟩
  else if arg = "--mmap-buffers" then
    .value fun value => do return ⟨.mmapBuffers, some (← parseU32Value value "--mmap-buffers")⟩
  else if arg = "--capture-one" then
    .switch (some ⟨.captureOne, true⟩)
  else if arg = "--save-one" then
    .switch (some ⟨.saveOne, true⟩)
  else if arg = "--frames" ∨ arg = "--capture-frames" then
    .value fun value => do return ⟨.captureFrames, ← parsePositiveInt value arg defaultMaxValue⟩
  else if arg = "--pipeline-frames" then
    .value fun value => do return ⟨.pipelineFrames, ← parsePositiveInt value arg defaultMaxValue⟩
  else if arg = "--ring-capacity" then
    .value fun value => do return ⟨.ringCapacity, ← parsePositiveInt value arg defaultMaxValue⟩
  else if arg = "--consumer-delay-ms" then
    .value fun value => do
      return ⟨.consumerDelayMs, ← parseNonNegativeInt value arg defaultMaxValue⟩
  else if arg = "--pipeline-save" then
    .switch (some ⟨.pipelineSave, true⟩)
  else if arg = "--save-limit" then
    .value fun value => do return ⟨.saveLimit, ← parsePositiveInt value arg defaultMaxValue⟩
  else if arg = "--output" then
    .value fun value => .ok ⟨.outputDir, value⟩
  else if arg = "--stats-output" then
    .value fun value => .ok ⟨.statsOutput, value⟩
  else if arg = "--tcp-host" then
    .value fun value => .ok ⟨.tcpHost, some value⟩
  else if arg = "--tcp-port" then
    .value fun value => do return ⟨.tcpPort, ← parsePositiveInt value arg 65535⟩
  else if arg = "--tcp-queue-capacity" then
    .value fun value => do return ⟨.tcpQueueCapacity, ← parsePositiveInt value arg defaultMaxValue⟩
  else if arg = "--tcp-connect-max-attempts" then
    .value fun value => do return ⟨.tcpConnectMaxAttempts, ← parsePositiveInt value arg 1000⟩
  else if arg = "--tcp-connect-retry-delay-ms" then
    .value fun value => do return ⟨.tcpConnectRetryDelayMs, ← parseNonNegativeInt value arg 60000⟩
  else if arg = "--tcp-send-timeout-ms" then
    .value fun value => do return ⟨.tcpSendTimeoutMs, ← parsePositiveInt value arg 600000⟩
  else if arg = "--timeout-ms" then
    .value fun value => do return ⟨.timeoutMs, ← parsePositiveInt value arg defaultMaxValue⟩
  else if arg = "--camera-recovery" then
    .switch (some ⟨.cameraRecoveryEnabled, true⟩)
  else if arg = "--no-camera-recovery" then
    .switch (some ⟨.cameraRecoveryEnabled, false⟩)
  else if arg = "--camera-timeout-recovery-threshold" then
    .value fun value => do
      return ⟨.cameraTimeoutRecoveryThreshold, ← parsePositiveInt value arg 1000⟩
  else if arg = "--camera-invalid-frame-recovery-threshold" then
    .value fun value => do
      return ⟨.cameraInvalidFrameRecoveryThreshold, ← parsePositiveInt value arg 1000⟩
  else if arg = "--camera-invalid-frame-recovery-cooldown-frames" then
    .value fun value => do
      return ⟨.cameraInvalidFrameRecoveryCooldownFrames, ← parseNonNegativeInt value arg 1000000⟩
  else if arg = "--camera-invalid-frame-recovery-max-count" then
    .value fun value => do
      return ⟨.cameraInvalidFrameRecoveryMaxCount, ← parsePositiveInt value arg 1000⟩
  else if arg = "--camera-recovery-max-attempts" then
    .value fun value => do return ⟨.cameraRecoveryMaxAttempts, ← parsePositiveInt value arg 1000⟩
  else if arg = "--camera-recovery-retry-delay-ms" then
    .value fun value => do
      return ⟨.cameraRecoveryRetryDelayMs, ← parseNonNegativeInt value arg 600000⟩
  else if arg = "--log-level" then
    .value fun value => .ok ⟨.logLevel, value⟩
  else if arg = "--help" ∨ arg = "-h" then .switch none
  else .unknown

/-- One pass of the loop, by what the flag sets. -/
def Flag.option (flag : Flag) (config : AppConfig) (arg : String) (next : Option String) :
    Except String (AppConfig × Bool) :=
  match flag with
  | .value parse =>
    withValue arg next fun value => do return configFields.write (← parse value) config
  | .switch (some setting) => .ok (configFields.write setting config, false)
  | .switch none => .ok (config, false)
  | .unknown => .error (incompleteArgument arg)

theorem Flag.option_ite (p : Prop) [Decidable p] (first second : Flag) (config : AppConfig)
    (arg : String) (next : Option String) :
    (if p then first else second).option config arg next
      = if p then first.option config arg next else second.option config arg next := by
  split <;> rfl

theorem cliOption_eq (config : AppConfig) (arg : String) (next : Option String) :
    cliOption config arg next = (flagNamed arg).option config arg next := by
  unfold cliOption flagNamed
  simp only [Flag.option_ite]
  simp only [Flag.option, bind_pure_comp, Functor.map_map, configFields_write, AppConfig.set,
    Except.map_ok]

/-! ### The options of an argument vector -/

structure CliOption where
  name : String
  value : Option String
  deriving DecidableEq, Repr

def Flag.takesValue : Flag → Bool
  | .value _ => true
  | .switch _ => false
  | .unknown => false

/-- The argument vector as the loop reads it: a flag with a value takes the next argument,
whatever that is. -/
def cliOptions : List String → List CliOption
  | [] => []
  | [arg] => [⟨arg, none⟩]
  | arg :: next :: rest =>
    if (flagNamed arg).takesValue then ⟨arg, some next⟩ :: cliOptions rest
    else ⟨arg, none⟩ :: cliOptions (next :: rest)

/-- What an option sets; the one for help sets nothing. -/
def CliOption.setting (o : CliOption) : Except String (Option Setting) :=
  match flagNamed o.name, o.value with
  | .value parse, some value => do return some (← parse value)
  | .switch setting, none => .ok setting
  | _, _ => .error (incompleteArgument o.name)

def cliSettings (args : List String) : List Setting :=
  (cliOptions args).filterMap (accepted CliOption.setting)

/-- The option that stands at `arg`. -/
def optionAt (arg : String) (next : Option String) : CliOption :=
  ⟨arg, if (flagNamed arg).takesValue then next else none⟩

/-- One pass of the loop reads one option and writes its setting. -/
theorem cliOption_ok_iff (config after : AppConfig) (arg : String) (next : Option String)
    (taken : Bool) :
    cliOption config arg next = .ok (after, taken)
      ↔ taken = (flagNamed arg).takesValue
        ∧ ∃ setting, (optionAt arg next).setting = .ok setting
          ∧ after = configFields.writeAll setting.toList config := by
  rw [cliOption_eq]
  simp only [optionAt, CliOption.setting]
  cases flag : flagNamed arg with
  | value parse =>
    cases next with
    | none => simp [Flag.option, withValue, Flag.takesValue]
    | some value =>
      cases parsed : parse value with
      | error message => simp [Flag.option, withValue, Flag.takesValue, parsed]
      | ok setting => simp [Flag.option, withValue, Flag.takesValue, parsed, eq_comm, and_comm]
  | switch setting =>
    cases setting with
    | none => simp [Flag.option, Flag.takesValue, eq_comm, and_comm]
    | some setting => simp [Flag.option, Flag.takesValue, eq_comm, and_comm]
  | unknown => simp [Flag.option]

theorem cliOptions_cons (arg next : String) (rest : List String) :
    cliOptions (arg :: next :: rest)
      = optionAt arg (some next)
        :: cliOptions (if (flagNamed arg).takesValue then rest else next :: rest) := by
  rw [cliOptions, optionAt]
  split <;> rfl

/-- Behind one pass the loop goes on with what is left of the vector. -/
theorem cliOption_bind_ok_iff (config after : AppConfig) (arg : String) (next : Option String)
    (goOn : AppConfig × Bool → Except String AppConfig) :
    (cliOption config arg next >>= goOn) = .ok after
      ↔ ∃ setting, (optionAt arg next).setting = .ok setting
        ∧ goOn (configFields.writeAll setting.toList config, (flagNamed arg).takesValue)
          = .ok after := by
  rw [bind_eq_ok_iff]
  constructor
  · rintro ⟨⟨reached, taken⟩, pass, ends⟩
    obtain ⟨rfl, setting, ok, rfl⟩ := (cliOption_ok_iff config reached arg next taken).mp pass
    exact ⟨setting, ok, ends⟩
  · rintro ⟨setting, ok, ends⟩
    exact ⟨_, (cliOption_ok_iff config _ arg next _).mpr ⟨rfl, setting, ok, rfl⟩, ends⟩

/-- The loop accepts a vector exactly if it accepts each option, and then it writes the
settings one behind the other. -/
theorem applyCliArgs_ok_iff (config after : AppConfig) (args : List String) :
    applyCliArgs config args = .ok after
      ↔ WritesAll CliOption.setting (cliOptions args) config after := by
  induction args using cliOptions.induct generalizing config with
  | case1 => simp [applyCliArgs, cliOptions, eq_comm]
  | case2 arg =>
    have one : cliOptions [arg] = [optionAt arg none] := by simp [cliOptions, optionAt]
    rw [one, writesAll_cons, applyCliArgs, cliOption_bind_ok_iff]
    simp only [writesAll_nil, pure, Except.pure, Except.ok.injEq, eq_comm]
  | case3 arg next rest takes ih =>
    rw [cliOptions_cons, if_pos takes, writesAll_cons, applyCliArgs, cliOption_bind_ok_iff]
    simp only [takes, if_true, ih]
  | case4 arg next rest takes ih =>
    rw [cliOptions_cons, if_neg takes, writesAll_cons, applyCliArgs, cliOption_bind_ok_iff]
    simp only [takes, Bool.false_eq_true, if_false, ih]

end V4l2Capture.Config
