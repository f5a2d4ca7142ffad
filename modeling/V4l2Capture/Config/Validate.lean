import V4l2Capture.Config.Settings
import V4l2Capture.Pipeline.RingBuffer
import V4l2Capture.Pipeline.Shared
import V4l2Capture.Stats.AtomicFile

/-!
# Validation

`validate_app_config`, the guards that a valid configuration meets again on the way through
the pipeline, and why none of them can fire.
-/
namespace V4l2Capture.Config

open Pipeline Traced

def throwIf (bad : Prop) [Decidable bad] (message : String) : Except String Unit :=
  if bad then .error message else .ok ()

def wantsSetFormat (config : AppConfig) : Bool :=
  config.width.isSome || config.height.isSome || config.pixelFormat.isSome

def captureModeCount (config : AppConfig) : Nat :=
  (if config.captureOne then 1 else 0) + (if config.saveOne then 1 else 0)
    + (if config.captureFrames > 0 then 1 else 0) + (if config.pipelineFrames > 0 then 1 else 0)

def validateAppConfig (config : AppConfig) : Except String Unit := do
  throwIf (wantsSetFormat config
      ∧ ¬ (config.width.isSome ∧ config.height.isSome ∧ config.pixelFormat.isSome))
    "Setting format requires width, height and format together"
  throwIf (config.mmapBuffers.isSome ∧ ¬ wantsSetFormat config)
    "Initializing MMAP buffers requires setting format first"
  throwIf (captureModeCount config > 1)
    "Use only one capture mode: capture_one, save_one, capture_frames, or pipeline_frames"
  let tcpEnabled := config.tcpHost.isSome || config.tcpPort > 0
  throwIf (tcpEnabled ∧ ¬ (config.tcpHost.isSome ∧ config.tcpPort > 0))
    "TCP sending requires tcp_host and tcp_port together"
  throwIf (tcpEnabled ∧ config.pipelineFrames ≤ 0)
    "TCP sending is currently supported only with pipeline_frames"
  throwIf (captureModeCount config > 0 ∧ ¬ config.mmapBuffers.isSome)
    "Capturing frames requires mmap_buffers"
  throwIf (config.device = "") "device must not be empty"
  throwIf (config.outputDir = "") "output_dir must not be empty"
  throwIf (config.statsOutput = "") "stats_output must not be empty"
  throwIf (config.tcpPort < 0 ∨ config.tcpPort > 65535) "tcp_port must be between 0 and 65535"
  throwIf (config.ringCapacity ≤ 0 ∨ config.tcpQueueCapacity ≤ 0)
    "ring capacities must be positive"
  throwIf (config.tcpConnectMaxAttempts ≤ 0) "tcp_connect_max_attempts must be positive"
  throwIf (config.tcpConnectRetryDelayMs < 0) "tcp_connect_retry_delay_ms must be non-negative"
  throwIf (config.tcpSendTimeoutMs ≤ 0) "tcp_send_timeout_ms must be positive"
  throwIf (config.cameraTimeoutRecoveryThreshold ≤ 0)
    "camera_timeout_recovery_threshold must be positive"
  throwIf (config.cameraInvalidFrameRecoveryThreshold ≤ 0)
    "camera_invalid_frame_recovery_threshold must be positive"
  throwIf (config.cameraInvalidFrameRecoveryCooldownFrames < 0)
    "camera_invalid_frame_recovery_cooldown_frames must be non-negative"
  throwIf (config.cameraInvalidFrameRecoveryMaxCount ≤ 0)
    "camera_invalid_frame_recovery_max_count must be positive"
  throwIf (config.cameraRecoveryMaxAttempts ≤ 0) "camera_recovery_max_attempts must be positive"
  throwIf (config.cameraRecoveryRetryDelayMs < 0)
    "camera_recovery_retry_delay_ms must be non-negative"
  throwIf (config.logLevel ∉ ["DEBUG", "INFO", "WARN", "ERROR"])
    "log_level must be one of DEBUG, INFO, WARN, ERROR"

/-! ### What validation establishes -/

/-- The conditions of a valid configuration that the later guards ask for again. -/
structure Valid (config : AppConfig) : Prop where
  formatTogether : wantsSetFormat config →
    config.width.isSome ∧ config.height.isSome ∧ config.pixelFormat.isSome
  buffersNeedFormat : config.mmapBuffers.isSome → wantsSetFormat config
  oneMode : captureModeCount config ≤ 1
  tcpTogether : config.tcpHost.isSome ↔ 0 < config.tcpPort
  tcpNeedsPipeline : config.tcpHost.isSome → 0 < config.pipelineFrames
  modeNeedsBuffers : 0 < captureModeCount config → config.mmapBuffers.isSome
  device : config.device ≠ ""
  outputDir : config.outputDir ≠ ""
  statsOutput : config.statsOutput ≠ ""
  tcpPort : 0 ≤ config.tcpPort ∧ config.tcpPort ≤ 65535
  ringCapacities : 0 < config.ringCapacity ∧ 0 < config.tcpQueueCapacity
  tcpConnectMaxAttempts : 0 < config.tcpConnectMaxAttempts
  tcpConnectRetryDelayMs : 0 ≤ config.tcpConnectRetryDelayMs
  tcpSendTimeoutMs : 0 < config.tcpSendTimeoutMs
  cameraTimeoutRecoveryThreshold : 0 < config.cameraTimeoutRecoveryThreshold
  cameraInvalidFrameRecoveryThreshold : 0 < config.cameraInvalidFrameRecoveryThreshold
  cameraInvalidFrameRecoveryCooldownFrames : 0 ≤ config.cameraInvalidFrameRecoveryCooldownFrames
  cameraInvalidFrameRecoveryMaxCount : 0 < config.cameraInvalidFrameRecoveryMaxCount
  cameraRecoveryMaxAttempts : 0 < config.cameraRecoveryMaxAttempts
  cameraRecoveryRetryDelayMs : 0 ≤ config.cameraRecoveryRetryDelayMs
  logLevel : config.logLevel ∈ ["DEBUG", "INFO", "WARN", "ERROR"]

theorem throwIf_ok_iff {bad : Prop} [Decidable bad] {message : String} :
    throwIf bad message = .ok () ↔ ¬ bad := by
  unfold throwIf
  split
  next holds => simp [holds]
  next fails => simp [fails]

theorem throwIf_bind_ok_iff {bad : Prop} [Decidable bad] {message : String}
    {rest : Unit → Except String Unit} :
    (throwIf bad message >>= rest) = .ok () ↔ ¬ bad ∧ rest () = .ok () := by
  unfold throwIf
  split
  next holds => simp [holds, bind, Except.bind]
  next fails => simp [fails, bind, Except.bind]

theorem validateAppConfig_ok_iff (config : AppConfig) :
    validateAppConfig config = .ok () ↔ Valid config := by
  simp only [validateAppConfig, throwIf_bind_ok_iff, throwIf_ok_iff, not_and_not_right]
  have none_of (p : Prop) (n : Int) : ¬ (p ∧ n ≤ 0) ↔ p → 0 < n := by simp
  simp only [none_of, not_or, not_lt, not_le, gt_iff_lt, not_not, Bool.or_eq_true,
    decide_eq_true_eq]
  constructor
  · rintro ⟨format, buffers, mode, tcp, pipeline, modeBuffers, device, outputDir, statsOutput,
      port, capacities, attempts, delay, timeout, threshold, invalid, cooldown, count,
      cameraAttempts, cameraDelay, level⟩
    exact {
      formatTogether := format
      buffersNeedFormat := buffers
      oneMode := mode
      tcpTogether := ⟨fun host => (tcp (.inl host)).2, fun port => (tcp (.inr port)).1⟩
      tcpNeedsPipeline := fun host => pipeline (.inl host)
      modeNeedsBuffers := modeBuffers
      device := device
      outputDir := outputDir
      statsOutput := statsOutput
      tcpPort := port
      ringCapacities := capacities
      tcpConnectMaxAttempts := attempts
      tcpConnectRetryDelayMs := delay
      tcpSendTimeoutMs := timeout
      cameraTimeoutRecoveryThreshold := threshold
      cameraInvalidFrameRecoveryThreshold := invalid
      cameraInvalidFrameRecoveryCooldownFrames := cooldown
      cameraInvalidFrameRecoveryMaxCount := count
      cameraRecoveryMaxAttempts := cameraAttempts
      cameraRecoveryRetryDelayMs := cameraDelay
      logLevel := level }
  · intro v
    have host (enabled : config.tcpHost.isSome ∨ 0 < config.tcpPort) : config.tcpHost.isSome :=
      enabled.elim id v.tcpTogether.mpr
    exact ⟨v.formatTogether, v.buffersNeedFormat, v.oneMode,
      fun enabled => ⟨host enabled, v.tcpTogether.mp (host enabled)⟩,
      fun enabled => v.tcpNeedsPipeline (host enabled), v.modeNeedsBuffers, v.device, v.outputDir,
      v.statsOutput, v.tcpPort, v.ringCapacities, v.tcpConnectMaxAttempts,
      v.tcpConnectRetryDelayMs, v.tcpSendTimeoutMs, v.cameraTimeoutRecoveryThreshold,
      v.cameraInvalidFrameRecoveryThreshold, v.cameraInvalidFrameRecoveryCooldownFrames,
      v.cameraInvalidFrameRecoveryMaxCount, v.cameraRecoveryMaxAttempts,
      v.cameraRecoveryRetryDelayMs, v.logLevel⟩

/-! ### The guards on the way through the pipeline -/

/-- The checks at the start of `run_pipeline`, on those of its arguments that they look at. -/
def runPipelineGuards (frameCount ringCapacity tcpQueueCapacity tcpConnectMaxAttempts
    tcpConnectRetryDelayMs tcpSendTimeoutMs : Int) (cameraConfig : AppConfig) :
    Except String Unit := do
  throwIf (frameCount ≤ 0) "Pipeline frame count must be positive"
  throwIf (ringCapacity ≤ 0) "Ring capacity must be positive"
  throwIf (tcpQueueCapacity ≤ 0) "TCP queue capacity must be positive"
  throwIf (tcpConnectMaxAttempts ≤ 0) "TCP connect max attempts must be positive"
  throwIf (tcpConnectRetryDelayMs < 0) "TCP connect retry delay must be non-negative"
  throwIf (tcpSendTimeoutMs ≤ 0) "TCP send timeout must be positive"
  throwIf (cameraConfig.cameraTimeoutRecoveryThreshold ≤ 0
      ∨ cameraConfig.cameraInvalidFrameRecoveryThreshold ≤ 0
      ∨ cameraConfig.cameraInvalidFrameRecoveryCooldownFrames < 0
      ∨ cameraConfig.cameraInvalidFrameRecoveryMaxCount ≤ 0
      ∨ cameraConfig.cameraRecoveryMaxAttempts ≤ 0
      ∨ cameraConfig.cameraRecoveryRetryDelayMs < 0)
    "Invalid camera recovery configuration"

/-- The local variable `tcp_enabled` of `run_pipeline`. -/
def tcpEnabled (tcpHost : Option String) (tcpPort : Int) : Bool :=
  tcpHost.isSome && tcpPort > 0

/-- `static_cast<std::size_t>` of an `int`. -/
def toSizeT (n : Int) : Nat :=
  if n < 0 then (n + 18446744073709551616).toNat else n.toNat

/-- The constructor of `RingBuffer`. -/
def ringBufferOf (α : Type) (capacity : Nat) : Except String (RingBuffer α capacity) :=
  if positive : 0 < capacity then .ok (RingBuffer.new positive)
  else .error "RingBuffer capacity must be greater than 0"

def captureRecoveryControllerOf (timeoutThreshold maxRecoveryAttempts : Int) :
    Except String CaptureRecoveryController := do
  throwIf (timeoutThreshold ≤ 0) "timeout_threshold must be positive"
  throwIf (maxRecoveryAttempts ≤ 0) "max_recovery_attempts must be positive"
  return {}

def invalidFrameRecoveryControllerOf (threshold cooldownFrames maxRecoveries : Int) :
    Except String InvalidFrameRecoveryController := do
  throwIf (threshold ≤ 0) "invalid-frame threshold must be positive"
  throwIf (cooldownFrames < 0) "invalid-frame cooldown must be non-negative"
  throwIf (maxRecoveries ≤ 0) "invalid-frame recovery budget must be positive"
  return {}

/-- The check in front of `initialize_pipeline_camera`, and the values that it reads then. -/
def pipelineCameraArguments (config : AppConfig) :
    Except String (UInt32 × UInt32 × String × UInt32) :=
  match config.width, config.height, config.pixelFormat, config.mmapBuffers with
  | some width, some height, some pixelFormat, some mmapBuffers =>
    .ok (width, height, pixelFormat, mmapBuffers)
  | _, _, _, _ =>
    .error "Pipeline camera initialization requires width, height, format and mmap_buffers"

/-- The file operations of `prepare_output_directory`; an error is given by its message. -/
structure ProbeCalls where
  createDirectories : Option String
  openProbe : Bool
  writeProbe : Bool

def probeOutputDirectory (outputDir : String) (calls : ProbeCalls) : Except String Unit := do
  match calls.createDirectories with
  | some message => .error message
  | none => .ok ()
  throwIf (calls.openProbe = false) ("Output directory is not writable: " ++ outputDir)
  throwIf (calls.writeProbe = false)
    ("Failed to write test file in output directory: " ++ outputDir)

def prepareOutputDirectory (outputDir : String) (calls : ProbeCalls) : Except String Unit := do
  throwIf (outputDir = "") "Output directory must not be empty"
  probeOutputDirectory outputDir calls

inductive LogLevel where
  | debug
  | info
  | warn
  | error
  deriving DecidableEq, Repr

def toUpper (value : String) : String :=
  String.ofList (value.toList.map Char.toUpper)

def parseLogLevel (levelText : String) : Except String LogLevel :=
  let level := toUpper levelText
  if level = "DEBUG" then .ok .debug
  else if level = "INFO" then .ok .info
  else if level = "WARN" ∨ level = "WARNING" then .ok .warn
  else if level = "ERROR" then .ok .error
  else .error ("Unknown log level: " ++ levelText)

/-- No guard fires, and what is left of each function is its work. -/
structure GuardsPass (config : AppConfig) : Prop where
  runPipeline : runPipelineGuards config.pipelineFrames config.ringCapacity
    config.tcpQueueCapacity config.tcpConnectMaxAttempts config.tcpConnectRetryDelayMs
    config.tcpSendTimeoutMs config = .ok ()
  camera : ∃ width height pixelFormat mmapBuffers,
    pipelineCameraArguments config = .ok (width, height, pixelFormat, mmapBuffers)
  ring : ∃ ring, ringBufferOf Frame (toSizeT config.ringCapacity) = .ok ring
  tcpRing : ∃ ring, ringBufferOf Frame (toSizeT config.tcpQueueCapacity) = .ok ring
  recoveryController : captureRecoveryControllerOf config.cameraTimeoutRecoveryThreshold
    config.cameraRecoveryMaxAttempts = .ok {}
  invalidFrameController : invalidFrameRecoveryControllerOf
    config.cameraInvalidFrameRecoveryThreshold config.cameraInvalidFrameRecoveryCooldownFrames
    config.cameraInvalidFrameRecoveryMaxCount = .ok {}
  outputDirectory : ∀ calls, prepareOutputDirectory config.outputDir calls
    = probeOutputDirectory config.outputDir calls
  statsFile : ∀ text calls, Stats.writeAtomicTextFile config.statsOutput text calls = do
    Stats.createParent config.statsOutput calls
    Stats.writeTemp config.statsOutput text calls
    Stats.replaceTarget config.statsOutput calls
  logLevel : ∃ level, parseLogLevel config.logLevel = .ok level
  tcpEnabled : tcpEnabled config.tcpHost config.tcpPort = config.tcpHost.isSome

theorem throwIf_of_not {bad : Prop} [Decidable bad] (fails : ¬ bad) (message : String) :
    throwIf bad message = .ok () :=
  if_neg fails

theorem Valid.runPipeline_guards {config : AppConfig} (valid : Valid config)
    (pipeline : 0 < config.pipelineFrames) :
    runPipelineGuards config.pipelineFrames config.ringCapacity config.tcpQueueCapacity
      config.tcpConnectMaxAttempts config.tcpConnectRetryDelayMs config.tcpSendTimeoutMs config
        = .ok () := by
  have recovery : ¬ (config.cameraTimeoutRecoveryThreshold ≤ 0
      ∨ config.cameraInvalidFrameRecoveryThreshold ≤ 0
      ∨ config.cameraInvalidFrameRecoveryCooldownFrames < 0
      ∨ config.cameraInvalidFrameRecoveryMaxCount ≤ 0
      ∨ config.cameraRecoveryMaxAttempts ≤ 0
      ∨ config.cameraRecoveryRetryDelayMs < 0) := by
    simp only [not_or, not_le, not_lt]
    exact ⟨valid.cameraTimeoutRecoveryThreshold, valid.cameraInvalidFrameRecoveryThreshold,
      valid.cameraInvalidFrameRecoveryCooldownFrames, valid.cameraInvalidFrameRecoveryMaxCount,
      valid.cameraRecoveryMaxAttempts, valid.cameraRecoveryRetryDelayMs⟩
  simp only [runPipelineGuards, throwIf_bind_ok_iff, throwIf_ok_iff, not_le, not_lt]
  exact ⟨pipeline, valid.ringCapacities.1, valid.ringCapacities.2, valid.tcpConnectMaxAttempts,
    valid.tcpConnectRetryDelayMs, valid.tcpSendTimeoutMs, recovery⟩

/-- A capture mode needs buffers, buffers need a format, and the parts of a format come
together. -/
theorem Valid.camera_arguments {config : AppConfig} (valid : Valid config)
    (pipeline : 0 < config.pipelineFrames) :
    ∃ width height pixelFormat mmapBuffers,
      pipelineCameraArguments config = .ok (width, height, pixelFormat, mmapBuffers) := by
  have mode : 0 < captureModeCount config := by
    simp only [captureModeCount, gt_iff_lt, if_pos pipeline]
    omega
  have buffers := valid.modeNeedsBuffers mode
  obtain ⟨width, height, pixelFormat⟩ := valid.formatTogether (valid.buffersNeedFormat buffers)
  obtain ⟨w, hasWidth⟩ := Option.isSome_iff_exists.mp width
  obtain ⟨h, hasHeight⟩ := Option.isSome_iff_exists.mp height
  obtain ⟨format, hasFormat⟩ := Option.isSome_iff_exists.mp pixelFormat
  obtain ⟨count, hasBuffers⟩ := Option.isSome_iff_exists.mp buffers
  refine ⟨w, h, format, count, ?_⟩
  simp only [pipelineCameraArguments, hasWidth, hasHeight, hasFormat, hasBuffers]

theorem Valid.parse_logLevel {config : AppConfig} (valid : Valid config) :
    ∃ level, parseLogLevel config.logLevel = .ok level := by
  have level := valid.logLevel
  simp only [List.mem_cons, List.not_mem_nil, or_false] at level
  rcases level with debug | info | warn | error
  · exact ⟨.debug, by rw [debug]; rfl⟩
  · exact ⟨.info, by rw [info]; rfl⟩
  · exact ⟨.warn, by rw [warn]; rfl⟩
  · exact ⟨.error, by rw [error]; rfl⟩

theorem Valid.tcpEnabled_eq {config : AppConfig} (valid : Valid config) :
    tcpEnabled config.tcpHost config.tcpPort = config.tcpHost.isSome := by
  rw [Bool.eq_iff_iff, tcpEnabled, Bool.and_eq_true, decide_eq_true_eq]
  exact ⟨And.left, fun host => ⟨host, valid.tcpTogether.mp host⟩⟩

theorem toSizeT_pos {n : Int} (positive : 0 < n) : 0 < toSizeT n := by
  rw [toSizeT, if_neg (by omega)]
  omega

theorem ringBufferOf_ok {capacity : Int} (positive : 0 < capacity) :
    ∃ ring, ringBufferOf Frame (toSizeT capacity) = .ok ring :=
  ⟨RingBuffer.new (toSizeT_pos positive), dif_pos (toSizeT_pos positive)⟩

/-- The arguments with which `main` calls `run_pipeline`, as the model of the threads takes
them. -/
def Valid.pipelineConfig {config : AppConfig} (valid : Valid config)
    (pipeline : 0 < config.pipelineFrames) (strerror : Camera.Errno → String) :
    PipelineConfig where
  frameCount := config.pipelineFrames.toNat
  ringCapacity := toSizeT config.ringCapacity
  tcpQueueCapacity := toSizeT config.tcpQueueCapacity
  pipelineSave := config.pipelineSave
  saveLimit := config.saveLimit.toNat
  tcpEnabled := tcpEnabled config.tcpHost config.tcpPort
  tcpSendTimeoutMs := config.tcpSendTimeoutMs.toNat
  cameraRecoveryEnabled := config.cameraRecoveryEnabled
  limits := {
    timeoutThreshold := config.cameraTimeoutRecoveryThreshold.toNat
    maxRecoveryAttempts := config.cameraRecoveryMaxAttempts.toNat
    invalidThreshold := config.cameraInvalidFrameRecoveryThreshold.toNat
    cooldownFrames := config.cameraInvalidFrameRecoveryCooldownFrames.toNat
    maxRecoveries := config.cameraInvalidFrameRecoveryMaxCount.toNat
    timeoutThreshold_pos := Int.pos_iff_toNat_pos.mp valid.cameraTimeoutRecoveryThreshold
    maxRecoveryAttempts_pos := Int.pos_iff_toNat_pos.mp valid.cameraRecoveryMaxAttempts
    invalidThreshold_pos := Int.pos_iff_toNat_pos.mp valid.cameraInvalidFrameRecoveryThreshold
    maxRecoveries_pos := Int.pos_iff_toNat_pos.mp valid.cameraInvalidFrameRecoveryMaxCount }
  strerror := strerror
  frameCount_pos := Int.pos_iff_toNat_pos.mp pipeline
  ringCapacity_pos := toSizeT_pos valid.ringCapacities.1
  tcpQueueCapacity_pos := toSizeT_pos valid.ringCapacities.2

/-- The threads send exactly if a host is set, and then a port is set too. -/
theorem Valid.pipelineConfig_tcpEnabled {config : AppConfig} (valid : Valid config)
    (pipeline : 0 < config.pipelineFrames) (strerror : Camera.Errno → String) :
    (valid.pipelineConfig pipeline strerror).tcpEnabled = config.tcpHost.isSome :=
  valid.tcpEnabled_eq

/-- Behind the validation of a configuration for the pipeline no later guard can fire. -/
theorem validateAppConfig_guards_pass (config : AppConfig)
    (accepted : validateAppConfig config = .ok ()) (pipeline : 0 < config.pipelineFrames) :
    GuardsPass config := by
  have valid := (validateAppConfig_ok_iff config).mp accepted
  exact {
    runPipeline := valid.runPipeline_guards pipeline
    camera := valid.camera_arguments pipeline
    ring := ringBufferOf_ok valid.ringCapacities.1
    tcpRing := ringBufferOf_ok valid.ringCapacities.2
    recoveryController := by
      rw [captureRecoveryControllerOf, throwIf_of_not valid.cameraTimeoutRecoveryThreshold.not_ge,
        throwIf_of_not valid.cameraRecoveryMaxAttempts.not_ge]
      rfl
    invalidFrameController := by
      rw [invalidFrameRecoveryControllerOf,
        throwIf_of_not valid.cameraInvalidFrameRecoveryThreshold.not_ge,
        throwIf_of_not valid.cameraInvalidFrameRecoveryCooldownFrames.not_gt,
        throwIf_of_not valid.cameraInvalidFrameRecoveryMaxCount.not_ge]
      rfl
    outputDirectory := by
      intro calls
      rw [prepareOutputDirectory, throwIf_of_not valid.outputDir]
      rfl
    statsFile := by
      intro text calls
      rw [Stats.writeAtomicTextFile, if_neg valid.statsOutput]
    logLevel := valid.parse_logLevel
    tcpEnabled := valid.tcpEnabled_eq }

/-- The configuration file of the repository. -/
def shippedConfig : AppConfig where
  device := "/dev/video0"
  width := some 640
  height := some 360
  pixelFormat := some "YUYV"
  mmapBuffers := some 4
  pipelineFrames := 300
  tcpHost := some "127.0.0.1"
  tcpPort := 9000

theorem shippedConfig_guards_pass : GuardsPass shippedConfig :=
  validateAppConfig_guards_pass shippedConfig rfl (by decide)

end V4l2Capture.Config
