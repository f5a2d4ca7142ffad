import V4l2Capture.Config.CommandLine
import V4l2Capture.Config.ConfigFile
import V4l2Capture.Config.Validate

/-!
# Loading the configuration

`load_app_config`: the built-in defaults, the configuration file and the command line, each
above the one before. The last one that sets a field decides its value.
-/
namespace V4l2Capture.Config

open LastWriter

/-- The branches on the explicit path. Only a file that is named must exist. -/
def configFromFile (files : ConfigFiles) (explicitConfigPath : Option String) :
    Except String AppConfig :=
  let config : AppConfig := {}
  match explicitConfigPath with
  | some path => loadConfigFileInto files { config with configPath := path } path true
  | none => loadConfigFileInto files config config.configPath false

def loadAppConfig (files : ConfigFiles) (args : List String) : Except String AppConfig := do
  let explicitConfigPath ← findConfigArg args
  let config ← configFromFile files explicitConfigPath
  let config ← applyCliArgs config args
  validateAppConfig config
  return config

/-- The path of the file that `load_app_config` opens. -/
def openedPath (args : List String) : String :=
  match findConfigArg args with
  | .ok (some path) => path
  | .ok none => defaultConfigPath
  | .error _ => defaultConfigPath

/-- The lines that are applied, none when the default file is missing. -/
def openedContent (files : ConfigFiles) (args : List String) : List Char :=
  (files (openedPath args)).getD []

/-- The configuration that the lines of the file are applied to. -/
def startConfig (args : List String) : AppConfig :=
  { configPath := openedPath args }

theorem loadConfigFileInto_ok_iff (files : ConfigFiles) (config after : AppConfig)
    (path : String) (required : Bool) :
    loadConfigFileInto files config path required = .ok after
      ↔ (required = true → files path ≠ none)
        ∧ WritesAll lineSetting (getLines ((files path).getD [])) config after := by
  unfold loadConfigFileInto
  cases files path with
  | none =>
    cases required with
    | true => simp
    | false => simp [getLines, TextLines.split, eq_comm]
  | some content => simp [applyLines_ok_iff]

theorem configFromFile_ok_iff {files : ConfigFiles} {args : List String}
    {explicit : Option String} (found : findConfigArg args = .ok explicit) (after : AppConfig) :
    configFromFile files explicit = .ok after
      ↔ (explicit.isSome → files (openedPath args) ≠ none)
        ∧ WritesAll lineSetting (getLines (openedContent files args)) (startConfig args)
          after := by
  cases explicit with
  | none =>
    have opened : openedPath args = defaultConfigPath := by rw [openedPath, found]
    simp only [openedContent, startConfig, opened]
    exact loadConfigFileInto_ok_iff files _ after _ false
  | some path =>
    have opened : openedPath args = path := by rw [openedPath, found]
    simp only [openedContent, startConfig, opened]
    exact loadConfigFileInto_ok_iff files _ after _ true

/-- What `load_app_config` returns, and when it does. -/
theorem loadAppConfig_ok_iff (files : ConfigFiles) (args : List String) (config : AppConfig) :
    loadAppConfig files args = .ok config
      ↔ ∃ explicit fromFile, findConfigArg args = .ok explicit
        ∧ configFromFile files explicit = .ok fromFile
        ∧ WritesAll CliOption.setting (cliOptions args) fromFile config
        ∧ validateAppConfig config = .ok () := by
  simp only [loadAppConfig, bind_eq_ok_iff, applyCliArgs_ok_iff, pure, Except.pure,
    Except.ok.injEq]
  constructor
  · rintro ⟨explicit, found, fromFile, read, _, written, _, valid, rfl⟩
    exact ⟨explicit, fromFile, found, read, written, valid⟩
  · rintro ⟨explicit, fromFile, found, read, written, valid⟩
    exact ⟨explicit, found, fromFile, read, config, written, (), valid, rfl⟩

/-- Behind a return the settings of the file and then those of the options are written. -/
theorem loadAppConfig_settings {files : ConfigFiles} {args : List String} {config : AppConfig}
    (loaded : loadAppConfig files args = .ok config) :
    config = configFields.writeAll (fileSettings (openedContent files args) ++ cliSettings args)
      (startConfig args) := by
  obtain ⟨explicit, fromFile, found, read, options, -⟩ :=
    (loadAppConfig_ok_iff files args config).mp loaded
  have lines := ((configFromFile_ok_iff found fromFile).mp read).2
  rw [configFields.writeAll_append, options.2, lines.2]
  rfl

/-- No other file is looked at. -/
theorem loadAppConfig_of_same_file {files others : ConfigFiles} {args : List String}
    (same : files (openedPath args) = others (openedPath args)) :
    loadAppConfig files args = loadAppConfig others args := by
  rw [loadAppConfig, loadAppConfig]
  cases found : findConfigArg args with
  | error message => rfl
  | ok explicit =>
    have read : configFromFile files explicit = configFromFile others explicit := by
      cases explicit with
      | none =>
        rw [openedPath, found] at same
        simp only [configFromFile, loadConfigFileInto, same]
      | some path =>
        rw [openedPath, found] at same
        simp only [configFromFile, loadConfigFileInto, same]
    change configFromFile files explicit >>= _ = configFromFile others explicit >>= _
    rw [read]

/-! ### The last writer of a field -/

/-- The value that the last option gives to the field. -/
def lastOption (args : List String) (field : Field) : Option field.Value :=
  lastOf field (cliSettings args)

/-- The value that the last line of the loaded file gives to the field. -/
def lastLine (files : ConfigFiles) (args : List String) (field : Field) : Option field.Value :=
  lastOf field (fileSettings (openedContent files args))

theorem get_loadAppConfig {files : ConfigFiles} {args : List String} {config : AppConfig}
    (loaded : loadAppConfig files args = .ok config) (field : Field) :
    config.get field
      = ((lastOption args field).or (lastLine files args field)).getD
        ((startConfig args).get field) := by
  have written := loadAppConfig_settings loaded
  have last := configFields.get_writeAll
    (fileSettings (openedContent files args) ++ cliSettings args) (startConfig args) field
  rw [lastOf_append] at last
  rw [written]
  exact last

theorem startConfig_get (args : List String) {field : Field} (other : field ≠ .configPath) :
    (startConfig args).get field = AppConfig.get {} field := by
  cases field <;> first | rfl | exact absurd rfl other

/-- The same options in another order, where those that set one field keep theirs. -/
structure Reordered (args other : List String) : Prop where
  options : (cliOptions other).Perm (cliOptions args)
  sameByField : SameByField (cliSettings other) (cliSettings args)

theorem Reordered.lastOption {args other : List String} (reordered : Reordered args other)
    (field : Field) : lastOption other field = lastOption args field :=
  reordered.sameByField.lastOf field

theorem Reordered.applyCliArgs {args other : List String} (reordered : Reordered args other)
    (start after : AppConfig) :
    applyCliArgs start other = .ok after ↔ applyCliArgs start args = .ok after := by
  have written : configFields.writeAll (cliSettings other) start
      = configFields.writeAll (cliSettings args) start :=
    configFields.writeAll_sameByField reordered.sameByField start
  rw [applyCliArgs_ok_iff, applyCliArgs_ok_iff, WritesAll, WritesAll]
  refine and_congr ?_ (by rw [← cliSettings, ← cliSettings, written])
  exact ⟨fun all o inArgs => all o (reordered.options.mem_iff.mpr inArgs),
    fun all o inOther => all o (reordered.options.mem_iff.mp inOther)⟩

/-- The rule for the fields of a configuration that was loaded. -/
structure LastWriterWins (files : ConfigFiles) (args : List String) (config : AppConfig) :
    Prop where
  /-- The last option that sets the field, else the last line, else the built-in default. -/
  rule : ∀ field ≠ .configPath, config.get field
    = ((lastOption args field).or (lastLine files args field)).getD (AppConfig.get {} field)
  /-- The option loop does the same from every configuration. -/
  optionOrder : ∀ other, Reordered args other → ∀ start after,
    applyCliArgs start other = .ok after ↔ applyCliArgs start args = .ok after
  /-- With the same lines loaded, the result has the same fields. -/
  order : ∀ other, Reordered args other → openedContent files other = openedContent files args →
    ∀ reached, loadAppConfig files other = .ok reached →
      ∀ field ≠ .configPath, reached.get field = config.get field

theorem loadAppConfig_rule {files : ConfigFiles} {args : List String} {config : AppConfig}
    (loaded : loadAppConfig files args = .ok config) {field : Field} (other : field ≠ .configPath) :
    config.get field
      = ((lastOption args field).or (lastLine files args field)).getD (AppConfig.get {} field) := by
  rw [get_loadAppConfig loaded field, startConfig_get args other]

theorem loadAppConfig_lastWriterWins {files : ConfigFiles} {args : List String}
    {config : AppConfig} (loaded : loadAppConfig files args = .ok config) :
    LastWriterWins files args config where
  rule := fun _ other => loadAppConfig_rule loaded other
  optionOrder := fun _ reordered => reordered.applyCliArgs
  order := by
    intro other reordered sameLines reached otherLoaded field notPath
    rw [loadAppConfig_rule otherLoaded notPath, loadAppConfig_rule loaded notPath,
      reordered.lastOption field, lastLine, lastLine, sameLines]

/-- The option decides the level, the file the timeout. -/
theorem loadAppConfig_lastWriterWins_level :
    LastWriterWins
      (fun _ => some "timeout_ms=5\nlog_level=WARN".toList) ["--log-level", "DEBUG"]
      { timeoutMs := 5, logLevel := "DEBUG" } :=
  loadAppConfig_lastWriterWins rfl

/-! ### Who writes the path -/

/-- Where the result sets a field, it is not the path of the file. -/
def SetsOther (result : Except String Setting) : Prop :=
  ∀ setting, result = .ok setting → setting.field ≠ .configPath

theorem setsOther_ok {field : Field} (other : field ≠ .configPath) (value : field.Value) :
    SetsOther (.ok ⟨field, value⟩) := by
  rintro _ ⟨⟩
  exact other

theorem setsOther_return {α : Type} {field : Field} (other : field ≠ .configPath)
    (f : α → field.Value) (parsed : Except String α) :
    SetsOther (do return ⟨field, f (← parsed)⟩) := by
  intro setting ok
  obtain ⟨_, -, ends⟩ := bind_eq_ok_iff.mp ok
  obtain rfl := Except.ok.inj ends
  exact other

theorem setsOther_error (message : String) : SetsOther (.error message) := by
  rintro _ ⟨⟩

theorem setsOther_ite {p : Prop} [Decidable p] {first second : Except String Setting}
    (yes : SetsOther first) (no : SetsOther second) : SetsOther (if p then first else second) := by
  split
  · exact yes
  · exact no

theorem keySetting_setsOther (key value : String) : SetsOther (keySetting key value) := by
  unfold keySetting
  repeat' with_reducible first
    | apply setsOther_ite
    | exact setsOther_ok (by decide) _
    | exact setsOther_return (by decide) _ _
    | exact setsOther_error _

def Flag.SetsOther : Flag → Prop
  | .value parse => ∀ value, Config.SetsOther (parse value)
  | .switch (some setting) => setting.field ≠ .configPath
  | .switch none => True
  | .unknown => True

theorem Flag.setsOther_ite {p : Prop} [Decidable p] {first second : Flag}
    (yes : first.SetsOther) (no : second.SetsOther) : (if p then first else second).SetsOther := by
  split
  · exact yes
  · exact no

theorem Flag.setsOther_value {parse : String → Except String Setting}
    (other : ∀ value, Config.SetsOther (parse value)) : (Flag.value parse).SetsOther := other

theorem Flag.setsOther_switch {field : Field} (other : field ≠ .configPath)
    (value : field.Value) : (Flag.switch (some ⟨field, value⟩)).SetsOther := other

/-- `--config` is the only flag that sets the path. -/
theorem flagNamed_setsOther {arg : String} (notConfig : arg ≠ "--config") :
    (flagNamed arg).SetsOther := by
  unfold flagNamed
  rw [if_neg notConfig]
  repeat' with_reducible first
    | apply Flag.setsOther_ite
    | exact Flag.setsOther_value fun _ => setsOther_ok (by decide) _
    | exact Flag.setsOther_value fun _ => setsOther_return (by decide) _ _
    | exact Flag.setsOther_switch (by decide) _
  · exact trivial
  · exact trivial

/-- The value of the last option that is a `--config`. -/
def lastConfigOption (args : List String) : Option String :=
  ((cliOptions args).filterMap fun o => if o.name = "--config" then o.value else none).getLast?

/-- The argument behind the first `--config`, option or not. -/
def behindFirstConfig (args : List String) : Option String :=
  (args.dropWhile (· ≠ "--config"))[1]?

theorem valueAt_none_of_other {result : Except String Setting} (other : SetsOther result)
    {setting : Setting} (ok : result = .ok setting) : setting.valueAt .configPath = none :=
  Write.valueAt_other (other setting ok)

theorem accepted_configPath (o : CliOption) :
    (accepted CliOption.setting o).bind (Write.valueAt .configPath)
      = if o.name = "--config" then o.value else none := by
  obtain ⟨name, value⟩ := o
  by_cases config : name = "--config"
  · subst config
    have flag : flagNamed "--config" = .value fun value => .ok ⟨.configPath, value⟩ := rfl
    cases value with
    | none => simp [accepted, CliOption.setting, flag]
    | some value => simp [accepted, CliOption.setting, flag]
  · have other := flagNamed_setsOther config
    simp only [accepted, CliOption.setting, if_neg config]
    cases flag : flagNamed name with
    | unknown => rfl
    | switch setting =>
      rw [flag] at other
      cases value with
      | some value => rfl
      | none =>
        cases setting with
        | none => rfl
        | some setting => exact Write.valueAt_other other
    | value parse =>
      rw [flag] at other
      cases value with
      | none => rfl
      | some value =>
        cases ok : parse value with
        | error message => simp [ok]
        | ok setting => simpa [ok] using valueAt_none_of_other (other value) ok

theorem lastOption_configPath (args : List String) :
    lastOption args .configPath = lastConfigOption args := by
  rw [lastOption, lastOf_eq_getLast?, cliSettings, List.filterMap_filterMap, lastConfigOption]
  exact congrArg List.getLast? (List.filterMap_congr fun o _ => accepted_configPath o)

theorem lastLine_configPath (files : ConfigFiles) (args : List String) :
    lastLine files args .configPath = none := by
  have other (line : List Char) :
      (accepted lineSetting line).bind (Write.valueAt .configPath) = none := by
    simp only [accepted, lineSetting]
    cases scanLine line with
    | blank => rfl
    | missingEquals => rfl
    | emptyKey => rfl
    | pair key value =>
      cases ok : keySetting key value with
      | error message => simp [ok]
      | ok setting => simpa [ok] using valueAt_none_of_other (keySetting_setsOther key value) ok
  rw [lastLine, lastOf_eq_getLast?, fileSettings, List.filterMap_filterMap,
    List.filterMap_eq_nil_iff.mpr fun line _ => other line]
  rfl

/-- The path that is returned is that of the last `--config` option, if there is one. -/
theorem configPath_of_loaded {files : ConfigFiles} {args : List String} {config : AppConfig}
    (loaded : loadAppConfig files args = .ok config) :
    config.configPath = (lastConfigOption args).getD (openedPath args) := by
  have path := get_loadAppConfig loaded .configPath
  rw [lastOption_configPath, lastLine_configPath, Option.or_none] at path
  exact path

/-! ### Which file is opened -/

theorem findConfigArg_eq_behind {args : List String} {explicit : Option String}
    (found : findConfigArg args = .ok explicit) : explicit = behindFirstConfig args := by
  induction args with
  | nil =>
    obtain rfl := Except.ok.inj found
    rfl
  | cons arg rest ih =>
    by_cases config : arg = "--config"
    · rw [findConfigArg, if_pos config] at found
      cases rest with
      | nil => exact absurd found (by simp [configArgOf])
      | cons value rest =>
        obtain rfl := Except.ok.inj found
        simp [behindFirstConfig, config]
    · rw [findConfigArg, if_neg config] at found
      rw [ih found, behindFirstConfig, behindFirstConfig, List.dropWhile_cons_of_pos (by simpa)]

theorem findConfigArg_isSome {args : List String} (present : "--config" ∈ args)
    {explicit : Option String} (found : findConfigArg args = .ok explicit) :
    ∃ path, explicit = some path := by
  induction args with
  | nil => exact absurd present List.not_mem_nil
  | cons arg rest ih =>
    by_cases config : arg = "--config"
    · rw [findConfigArg, if_pos config] at found
      cases rest with
      | nil => exact absurd found (by simp [configArgOf])
      | cons value rest => exact ⟨value, (Except.ok.inj found).symm⟩
    · rw [findConfigArg, if_neg config] at found
      exact ih ((List.mem_cons.mp present).resolve_left (Ne.symm config)) found

theorem mem_of_mem_cliOptions {args : List String} {o : CliOption} (option : o ∈ cliOptions args) :
    o.name ∈ args := by
  induction args using cliOptions.induct with
  | case1 => exact absurd option List.not_mem_nil
  | case2 arg =>
    obtain rfl := List.mem_singleton.mp option
    exact List.mem_singleton.mpr rfl
  | case3 arg next rest takes ih =>
    rw [cliOptions, if_pos takes] at option
    rcases List.mem_cons.mp option with rfl | inRest
    · exact List.mem_cons_self
    · exact List.mem_cons_of_mem _ (List.mem_cons_of_mem _ (ih inRest))
  | case4 arg next rest takes ih =>
    rw [cliOptions, if_neg takes] at option
    rcases List.mem_cons.mp option with rfl | inRest
    · exact List.mem_cons_self
    · exact List.mem_cons_of_mem _ (ih inRest)

theorem present_of_lastConfigOption {args : List String} {path : String}
    (last : lastConfigOption args = some path) : "--config" ∈ args := by
  obtain ⟨o, option, value⟩ := List.mem_filterMap.mp (List.mem_of_getLast? last)
  by_cases config : o.name = "--config"
  · exact config ▸ mem_of_mem_cliOptions option
  · simp [config] at value

theorem openedPath_eq_configPath_iff {files : ConfigFiles} {args : List String}
    {config : AppConfig} (loaded : loadAppConfig files args = .ok config) :
    openedPath args = config.configPath
      ↔ lastConfigOption args = none ∨ lastConfigOption args = behindFirstConfig args := by
  obtain ⟨explicit, _, found, -⟩ := (loadAppConfig_ok_iff files args config).mp loaded
  rw [configPath_of_loaded loaded]
  cases last : lastConfigOption args with
  | none => simp
  | some path =>
    obtain ⟨opened, rfl⟩ := findConfigArg_isSome (present_of_lastConfigOption last) found
    rw [← findConfigArg_eq_behind found, openedPath, found]
    simp [eq_comm]

/-- The two scans agree, and with them the file that is opened and the path in the result,
exactly if the last `--config` that the loop sees names the argument behind the first
`--config` of the vector. When the loop sees none, the path is still that of the file. -/
theorem loadAppConfig_scans_agree_iff {files : ConfigFiles} {args : List String}
    {config : AppConfig} (loaded : loadAppConfig files args = .ok config) :
    ((openedPath args = config.configPath ∧ findConfigArg args = .ok (lastConfigOption args))
        ↔ lastConfigOption args = behindFirstConfig args)
      ∧ (openedPath args = config.configPath
        ↔ lastConfigOption args = none ∨ lastConfigOption args = behindFirstConfig args) := by
  obtain ⟨explicit, _, found, -⟩ := (loadAppConfig_ok_iff files args config).mp loaded
  have path := openedPath_eq_configPath_iff loaded
  rw [findConfigArg_eq_behind found] at found
  refine ⟨?_, path⟩
  rw [path, found, Except.ok.injEq, eq_comm (a := behindFirstConfig args)]
  exact ⟨And.right, fun same => ⟨.inr same, same⟩⟩

/-- `a.conf` sets the capture timeout, and every other file is empty. -/
def timeoutFiles : ConfigFiles := fun path =>
  some (if path = "a.conf" then "timeout_ms=500".toList else [])

/-- Each vector has a `--config` that is the value of `--device`. Behind the first option it
changes nothing; in front of it the scan for the file takes `--config` for the path. -/
theorem loadAppConfig_scans_agree_device :
    (loadAppConfig timeoutFiles
          ["--config", "a.conf", "--device", "--config", "--config", "a.conf"]
        = .ok { configPath := "a.conf", device := "--config", timeoutMs := 500 }
      ∧ openedPath ["--config", "a.conf", "--device", "--config", "--config", "a.conf"] = "a.conf"
      ∧ findConfigArg ["--config", "a.conf", "--device", "--config", "--config", "a.conf"]
        = .ok (lastConfigOption
          ["--config", "a.conf", "--device", "--config", "--config", "a.conf"]))
    ∧ loadAppConfig timeoutFiles ["--device", "--config", "--config", "a.conf"]
        = .ok { configPath := "a.conf", device := "--config" }
      ∧ openedPath ["--device", "--config", "--config", "a.conf"] ≠ "a.conf" := by
  have behind : loadAppConfig timeoutFiles
      ["--config", "a.conf", "--device", "--config", "--config", "a.conf"]
        = .ok { configPath := "a.conf", device := "--config", timeoutMs := 500 } := rfl
  have before : loadAppConfig timeoutFiles ["--device", "--config", "--config", "a.conf"]
      = .ok { configPath := "a.conf", device := "--config" } := rfl
  refine ⟨⟨behind, (loadAppConfig_scans_agree_iff behind).1.mpr (by decide)⟩, before, ?_⟩
  rw [Ne, (loadAppConfig_scans_agree_iff before).2]
  decide

/-- With two options the lines of `a.conf` are applied and `b.conf` is named. -/
theorem two_config_options_disagree :
    ¬ ∀ files args config, loadAppConfig files args = .ok config →
      openedPath args = config.configPath := by
  intro agree
  have opened := agree (fun _ => some []) ["--config", "a.conf", "--config", "b.conf"]
    { configPath := "b.conf" } rfl
  exact absurd opened (by decide)

end V4l2Capture.Config
