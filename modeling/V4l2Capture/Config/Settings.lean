import V4l2Capture.Config.AppConfig
import V4l2Capture.Library.LastWriter

/-!
# The fields of the configuration

What a line of the file or an option of the command line sets is one field of `AppConfig`.
-/
namespace V4l2Capture.Config

open LastWriter

/-- The fields of `AppConfig`, in its order. -/
inductive Field where
  | configPath
  | device
  | listFormats
  | captureOne
  | saveOne
  | captureFrames
  | pipelineFrames
  | ringCapacity
  | consumerDelayMs
  | pipelineSave
  | saveLimit
  | timeoutMs
  | cameraRecoveryEnabled
  | cameraTimeoutRecoveryThreshold
  | cameraInvalidFrameRecoveryThreshold
  | cameraInvalidFrameRecoveryCooldownFrames
  | cameraInvalidFrameRecoveryMaxCount
  | cameraRecoveryMaxAttempts
  | cameraRecoveryRetryDelayMs
  | outputDir
  | statsOutput
  | tcpHost
  | tcpPort
  | tcpQueueCapacity
  | tcpConnectMaxAttempts
  | tcpConnectRetryDelayMs
  | tcpSendTimeoutMs
  | width
  | height
  | pixelFormat
  | mmapBuffers
  | logLevel
  deriving DecidableEq, Repr

abbrev Field.Value : Field → Type
  | .configPath | .device | .outputDir | .statsOutput | .logLevel => String
  | .listFormats | .captureOne | .saveOne | .pipelineSave | .cameraRecoveryEnabled => Bool
  | .captureFrames | .pipelineFrames | .ringCapacity | .consumerDelayMs | .saveLimit
  | .timeoutMs | .cameraTimeoutRecoveryThreshold | .cameraInvalidFrameRecoveryThreshold
  | .cameraInvalidFrameRecoveryCooldownFrames | .cameraInvalidFrameRecoveryMaxCount
  | .cameraRecoveryMaxAttempts | .cameraRecoveryRetryDelayMs | .tcpPort | .tcpQueueCapacity
  | .tcpConnectMaxAttempts | .tcpConnectRetryDelayMs | .tcpSendTimeoutMs => Int
  | .tcpHost | .pixelFormat => Option String
  | .width | .height | .mmapBuffers => Option UInt32

def AppConfig.get (config : AppConfig) : (field : Field) → field.Value
  | .configPath => config.configPath
  | .device => config.device
  | .listFormats => config.listFormats
  | .captureOne => config.captureOne
  | .saveOne => config.saveOne
  | .captureFrames => config.captureFrames
  | .pipelineFrames => config.pipelineFrames
  | .ringCapacity => config.ringCapacity
  | .consumerDelayMs => config.consumerDelayMs
  | .pipelineSave => config.pipelineSave
  | .saveLimit => config.saveLimit
  | .timeoutMs => config.timeoutMs
  | .cameraRecoveryEnabled => config.cameraRecoveryEnabled
  | .cameraTimeoutRecoveryThreshold => config.cameraTimeoutRecoveryThreshold
  | .cameraInvalidFrameRecoveryThreshold => config.cameraInvalidFrameRecoveryThreshold
  | .cameraInvalidFrameRecoveryCooldownFrames => config.cameraInvalidFrameRecoveryCooldownFrames
  | .cameraInvalidFrameRecoveryMaxCount => config.cameraInvalidFrameRecoveryMaxCount
  | .cameraRecoveryMaxAttempts => config.cameraRecoveryMaxAttempts
  | .cameraRecoveryRetryDelayMs => config.cameraRecoveryRetryDelayMs
  | .outputDir => config.outputDir
  | .statsOutput => config.statsOutput
  | .tcpHost => config.tcpHost
  | .tcpPort => config.tcpPort
  | .tcpQueueCapacity => config.tcpQueueCapacity
  | .tcpConnectMaxAttempts => config.tcpConnectMaxAttempts
  | .tcpConnectRetryDelayMs => config.tcpConnectRetryDelayMs
  | .tcpSendTimeoutMs => config.tcpSendTimeoutMs
  | .width => config.width
  | .height => config.height
  | .pixelFormat => config.pixelFormat
  | .mmapBuffers => config.mmapBuffers
  | .logLevel => config.logLevel

def AppConfig.set (config : AppConfig) : (field : Field) → field.Value → AppConfig
  | .configPath, value => { config with configPath := value }
  | .device, value => { config with device := value }
  | .listFormats, value => { config with listFormats := value }
  | .captureOne, value => { config with captureOne := value }
  | .saveOne, value => { config with saveOne := value }
  | .captureFrames, value => { config with captureFrames := value }
  | .pipelineFrames, value => { config with pipelineFrames := value }
  | .ringCapacity, value => { config with ringCapacity := value }
  | .consumerDelayMs, value => { config with consumerDelayMs := value }
  | .pipelineSave, value => { config with pipelineSave := value }
  | .saveLimit, value => { config with saveLimit := value }
  | .timeoutMs, value => { config with timeoutMs := value }
  | .cameraRecoveryEnabled, value => { config with cameraRecoveryEnabled := value }
  | .cameraTimeoutRecoveryThreshold, value =>
    { config with cameraTimeoutRecoveryThreshold := value }
  | .cameraInvalidFrameRecoveryThreshold, value =>
    { config with cameraInvalidFrameRecoveryThreshold := value }
  | .cameraInvalidFrameRecoveryCooldownFrames, value =>
    { config with cameraInvalidFrameRecoveryCooldownFrames := value }
  | .cameraInvalidFrameRecoveryMaxCount, value =>
    { config with cameraInvalidFrameRecoveryMaxCount := value }
  | .cameraRecoveryMaxAttempts, value => { config with cameraRecoveryMaxAttempts := value }
  | .cameraRecoveryRetryDelayMs, value => { config with cameraRecoveryRetryDelayMs := value }
  | .outputDir, value => { config with outputDir := value }
  | .statsOutput, value => { config with statsOutput := value }
  | .tcpHost, value => { config with tcpHost := value }
  | .tcpPort, value => { config with tcpPort := value }
  | .tcpQueueCapacity, value => { config with tcpQueueCapacity := value }
  | .tcpConnectMaxAttempts, value => { config with tcpConnectMaxAttempts := value }
  | .tcpConnectRetryDelayMs, value => { config with tcpConnectRetryDelayMs := value }
  | .tcpSendTimeoutMs, value => { config with tcpSendTimeoutMs := value }
  | .width, value => { config with width := value }
  | .height, value => { config with height := value }
  | .pixelFormat, value => { config with pixelFormat := value }
  | .mmapBuffers, value => { config with mmapBuffers := value }
  | .logLevel, value => { config with logLevel := value }

theorem AppConfig.get_set_same (config : AppConfig) (field : Field) (value : field.Value) :
    (config.set field value).get field = value := by
  cases field <;> rfl

theorem AppConfig.get_set_other (config : AppConfig) {field other : Field} (value : field.Value)
    (distinct : field ≠ other) : (config.set field value).get other = config.get other := by
  cases field <;> cases other <;> first | rfl | exact absurd rfl distinct

theorem AppConfig.ext_get {first second : AppConfig}
    (same : ∀ field, first.get field = second.get field) : first = second := by
  exact AppConfig.ext (same .configPath) (same .device) (same .listFormats) (same .captureOne)
    (same .saveOne) (same .captureFrames) (same .pipelineFrames) (same .ringCapacity)
    (same .consumerDelayMs) (same .pipelineSave) (same .saveLimit) (same .timeoutMs)
    (same .cameraRecoveryEnabled) (same .cameraTimeoutRecoveryThreshold)
    (same .cameraInvalidFrameRecoveryThreshold) (same .cameraInvalidFrameRecoveryCooldownFrames)
    (same .cameraInvalidFrameRecoveryMaxCount) (same .cameraRecoveryMaxAttempts)
    (same .cameraRecoveryRetryDelayMs) (same .outputDir) (same .statsOutput) (same .tcpHost)
    (same .tcpPort) (same .tcpQueueCapacity) (same .tcpConnectMaxAttempts)
    (same .tcpConnectRetryDelayMs) (same .tcpSendTimeoutMs) (same .width) (same .height)
    (same .pixelFormat) (same .mmapBuffers) (same .logLevel)

/-- Setting a field changes it and no other. -/
def configFields : Fields AppConfig Field.Value where
  get := AppConfig.get
  set := AppConfig.set
  get_set_same := AppConfig.get_set_same
  get_set_other := AppConfig.get_set_other
  ext := AppConfig.ext_get

/-- One field and the value it is given. -/
abbrev Setting := Write Field.Value

theorem configFields_write (field : Field) (value : field.Value) (config : AppConfig) :
    configFields.write ⟨field, value⟩ config = config.set field value := rfl

/-! ### Computations that can throw -/

theorem bind_eq_ok_iff {α β : Type} {first : Except String α} {next : α → Except String β}
    {b : β} : (first >>= next) = .ok b ↔ ∃ a, first = .ok a ∧ next a = .ok b := by
  cases first with
  | error message => simp [bind, Except.bind]
  | ok a => simp [bind, Except.bind]

theorem map_eq_ok_iff {α β : Type} {f : α → β} {first : Except String α} {b : β} :
    f <$> first = .ok b ↔ ∃ a, first = .ok a ∧ f a = b := by
  cases first with
  | error message => simp
  | ok a => simp

theorem map_ite {α β : Type} (f : α → β) (p : Prop) [Decidable p]
    (first second : Except String α) :
    f <$> (if p then first else second) = if p then f <$> first else f <$> second :=
  apply_ite _ _ _ _

/-! ### Lists of what can be set

Each item, a line of the file or an option of the command line, is rejected or sets at most
one field. -/

variable {α : Type} (setting : α → Except String (Option Setting))

/-- The setting of an item that is not rejected. -/
def accepted (item : α) : Option Setting :=
  match setting item with
  | .ok setting => setting
  | .error _ => none

/-- No item is rejected, and their settings lead from one configuration to the other. -/
def WritesAll (items : List α) (config after : AppConfig) : Prop :=
  (∀ item ∈ items, ∃ set, setting item = .ok set)
    ∧ after = configFields.writeAll (items.filterMap (accepted setting)) config

variable {setting}

theorem accepted_of_ok {item : α} {set : Option Setting} (ok : setting item = .ok set) :
    accepted setting item = set := by
  simp only [accepted, ok]

@[simp] theorem writesAll_nil (config after : AppConfig) :
    WritesAll setting [] config after ↔ after = config := by
  simp [WritesAll]

theorem writesAll_cons (item : α) (rest : List α) (config after : AppConfig) :
    WritesAll setting (item :: rest) config after
      ↔ ∃ set, setting item = .ok set
        ∧ WritesAll setting rest (configFields.writeAll set.toList config) after := by
  constructor
  · rintro ⟨accepts, written⟩
    obtain ⟨set, ok⟩ := accepts item List.mem_cons_self
    refine ⟨set, ok, fun other inRest => accepts other (List.mem_cons_of_mem _ inRest), ?_⟩
    rw [written, List.filterMap_cons, accepted_of_ok ok]
    cases set <;> rfl
  · rintro ⟨set, ok, accepts, written⟩
    refine ⟨List.forall_mem_cons.mpr ⟨⟨set, ok⟩, accepts⟩, ?_⟩
    rw [written, List.filterMap_cons, accepted_of_ok ok]
    cases set <;> rfl

end V4l2Capture.Config
