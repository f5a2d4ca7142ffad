import V4l2Capture.Config.Settings

/-!
# Lines of the configuration file

`apply_key_value`, and the setting that a key with a value stands for. Every branch of the
function writes the field of this setting and no other.
-/
namespace V4l2Capture.Config

open LastWriter

def applyKeyValue (config : AppConfig) (key value : String) : Except String AppConfig :=
  if key = "device" then
    .ok { config with device := value }
  else if key = "list_formats" then
    do return { config with listFormats := ← parseBool value key }
  else if key = "width" then
    do return { config with width := some (← parseU32Value value key) }
  else if key = "height" then
    do return { config with height := some (← parseU32Value value key) }
  else if key = "format" ∨ key = "pixel_format" then
    .ok { config with pixelFormat := some value }
  else if key = "mmap_buffers" then
    do return { config with mmapBuffers := some (← parseU32Value value key) }
  else if key = "capture_one" then
    do return { config with captureOne := ← parseBool value key }
  else if key = "save_one" then
    do return { config with saveOne := ← parseBool value key }
  else if key = "capture_frames" then
    do return { config with captureFrames := ← parseNonNegativeInt value key defaultMaxValue }
  else if key = "frames" ∨ key = "pipeline_frames" then
    do return { config with pipelineFrames := ← parseNonNegativeInt value key defaultMaxValue }
  else if key = "ring_capacity" then
    do return { config with ringCapacity := ← parsePositiveInt value key defaultMaxValue }
  else if key = "consumer_delay_ms" then
    do return { config with consumerDelayMs := ← parseNonNegativeInt value key defaultMaxValue }
  else if key = "pipeline_save" then
    do return { config with pipelineSave := ← parseBool value key }
  else if key = "save_limit" then
    do return { config with saveLimit := ← parsePositiveInt value key defaultMaxValue }
  else if key = "output_dir" then
    .ok { config with outputDir := value }
  else if key = "stats_output" then
    .ok { config with statsOutput := value }
  else if key = "tcp_host" then
    if value = "" then .ok { config with tcpHost := none }
    else .ok { config with tcpHost := some value }
  else if key = "tcp_port" then
    do return { config with tcpPort := ← parseNonNegativeInt value key 65535 }
  else if key = "tcp_queue_capacity" then
    do return { config with tcpQueueCapacity := ← parsePositiveInt value key defaultMaxValue }
  else if key = "tcp_connect_max_attempts" then
    do return { config with tcpConnectMaxAttempts := ← parsePositiveInt value key 1000 }
  else if key = "tcp_connect_retry_delay_ms" then
    do return { config with tcpConnectRetryDelayMs := ← parseNonNegativeInt value key 60000 }
  else if key = "tcp_send_timeout_ms" then
    do return { config with tcpSendTimeoutMs := ← parsePositiveInt value key 600000 }
  else if key = "timeout_ms" then
    do return { config with timeoutMs := ← parsePositiveInt value key defaultMaxValue }
  else if key = "camera_recovery_enabled" then
    do return { config with cameraRecoveryEnabled := ← parseBool value key }
  else if key = "camera_timeout_recovery_threshold" then
    do return { config with cameraTimeoutRecoveryThreshold := ← parsePositiveInt value key 1000 }
  else if key = "camera_invalid_frame_recovery_threshold" then
    do return { config with
      cameraInvalidFrameRecoveryThreshold := ← parsePositiveInt value key 1000 }
  else if key = "camera_invalid_frame_recovery_cooldown_frames" then
    do return { config with
      cameraInvalidFrameRecoveryCooldownFrames := ← parseNonNegativeInt value key 1000000 }
  else if key = "camera_invalid_frame_recovery_max_count" then
    do return { config with
      cameraInvalidFrameRecoveryMaxCount := ← parsePositiveInt value key 1000 }
  else if key = "camera_recovery_max_attempts" then
    do return { config with cameraRecoveryMaxAttempts := ← parsePositiveInt value key 1000 }
  else if key = "camera_recovery_retry_delay_ms" then
    do return { config with cameraRecoveryRetryDelayMs := ← parseNonNegativeInt value key 600000 }
  else if key = "log_level" then
    .ok { config with logLevel := value }
  else .error ("Unknown config key: " ++ key)

/-- The setting of a line, on its own. -/
def keySetting (key value : String) : Except String Setting :=
  if key = "device" then
    .ok ⟨.device, value⟩
  else if key = "list_formats" then
    do return ⟨.listFormats, ← parseBool value key⟩
  else if key = "width" then
    do return ⟨.width, some (← parseU32Value value key)⟩
  else if key = "height" then
    do return ⟨.height, some (← parseU32Value value key)⟩
  else if key = "format" ∨ key = "pixel_format" then
    .ok ⟨.pixelFormat, some value⟩
  else if key = "mmap_buffers" then
    do return ⟨.mmapBuffers, some (← parseU32Value value key)⟩
  else if key = "capture_one" then
    do return ⟨.captureOne, ← parseBool value key⟩
  else if key = "save_one" then
    do return ⟨.saveOne, ← parseBool value key⟩
  else if key = "capture_frames" then
    do return ⟨.captureFrames, ← parseNonNegativeInt value key defaultMaxValue⟩
  else if key = "frames" ∨ key = "pipeline_frames" then
    do return ⟨.pipelineFrames, ← parseNonNegativeInt value key defaultMaxValue⟩
  else if key = "ring_capacity" then
    do return ⟨.ringCapacity, ← parsePositiveInt value key defaultMaxValue⟩
  else if key = "consumer_delay_ms" then
    do return ⟨.consumerDelayMs, ← parseNonNegativeInt value key defaultMaxValue⟩
  else if key = "pipeline_save" then
    do return ⟨.pipelineSave, ← parseBool value key⟩
  else if key = "save_limit" then
    do return ⟨.saveLimit, ← parsePositiveInt value key defaultMaxValue⟩
  else if key = "output_dir" then
    .ok ⟨.outputDir, value⟩
  else if key = "stats_output" then
    .ok ⟨.statsOutput, value⟩
  else if key = "tcp_host" then
    if value = "" then .ok ⟨.tcpHost, none⟩ else .ok ⟨.tcpHost, some value⟩
  else if key = "tcp_port" then
    do return ⟨.tcpPort, ← parseNonNegativeInt value key 65535⟩
  else if key = "tcp_queue_capacity" then
    do return ⟨.tcpQueueCapacity, ← parsePositiveInt value key defaultMaxValue⟩
  else if key = "tcp_connect_max_attempts" then
    do return ⟨.tcpConnectMaxAttempts, ← parsePositiveInt value key 1000⟩
  else if key = "tcp_connect_retry_delay_ms" then
    do return ⟨.tcpConnectRetryDelayMs, ← parseNonNegativeInt value key 60000⟩
  else if key = "tcp_send_timeout_ms" then
    do return ⟨.tcpSendTimeoutMs, ← parsePositiveInt value key 600000⟩
  else if key = "timeout_ms" then
    do return ⟨.timeoutMs, ← parsePositiveInt value key defaultMaxValue⟩
  else if key = "camera_recovery_enabled" then
    do return ⟨.cameraRecoveryEnabled, ← parseBool value key⟩
  else if key = "camera_timeout_recovery_threshold" then
    do return ⟨.cameraTimeoutRecoveryThreshold, ← parsePositiveInt value key 1000⟩
  else if key = "camera_invalid_frame_recovery_threshold" then
    do return ⟨.cameraInvalidFrameRecoveryThreshold, ← parsePositiveInt value key 1000⟩
  else if key = "camera_invalid_frame_recovery_cooldown_frames" then
    do return ⟨.cameraInvalidFrameRecoveryCooldownFrames, ← parseNonNegativeInt value key 1000000⟩
  else if key = "camera_invalid_frame_recovery_max_count" then
    do return ⟨.cameraInvalidFrameRecoveryMaxCount, ← parsePositiveInt value key 1000⟩
  else if key = "camera_recovery_max_attempts" then
    do return ⟨.cameraRecoveryMaxAttempts, ← parsePositiveInt value key 1000⟩
  else if key = "camera_recovery_retry_delay_ms" then
    do return ⟨.cameraRecoveryRetryDelayMs, ← parseNonNegativeInt value key 600000⟩
  else if key = "log_level" then
    .ok ⟨.logLevel, value⟩
  else .error ("Unknown config key: " ++ key)

theorem applyKeyValue_eq (config : AppConfig) (key value : String) :
    applyKeyValue config key value
      = (fun setting => configFields.write setting config) <$> keySetting key value := by
  unfold applyKeyValue keySetting
  simp only [map_ite, Functor.map_map, bind_pure_comp, configFields_write, AppConfig.set]
  rfl

/-- The keys, in the order of the branches. -/
def configKeys : List String :=
  ["device", "list_formats", "width", "height", "format", "pixel_format", "mmap_buffers",
   "capture_one", "save_one", "capture_frames", "frames", "pipeline_frames", "ring_capacity",
   "consumer_delay_ms", "pipeline_save", "save_limit", "output_dir", "stats_output", "tcp_host",
   "tcp_port", "tcp_queue_capacity", "tcp_connect_max_attempts", "tcp_connect_retry_delay_ms",
   "tcp_send_timeout_ms", "timeout_ms", "camera_recovery_enabled",
   "camera_timeout_recovery_threshold", "camera_invalid_frame_recovery_threshold",
   "camera_invalid_frame_recovery_cooldown_frames", "camera_invalid_frame_recovery_max_count",
   "camera_recovery_max_attempts", "camera_recovery_retry_delay_ms", "log_level"]

theorem keySetting_unknown {key : String} (unknown : key ∉ configKeys) (value : String) :
    keySetting key value = .error ("Unknown config key: " ++ key) := by
  simp only [configKeys, List.mem_cons, List.not_mem_nil, or_false, not_or] at unknown
  simp only [keySetting, unknown, or_self, if_false]

end V4l2Capture.Config
