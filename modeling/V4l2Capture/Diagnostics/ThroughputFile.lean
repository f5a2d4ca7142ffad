import V4l2Capture.Stats.Documents

/-!
# The file of the throughput check

`image_throughput_check` ends with `write_json`, which writes a document next to its target,
removes the target and renames the document. `writeJson_atomic_iff` says when a reader of the
target finds the old content or the document at every moment. The directories of the target are
created by a function that throws, and nobody catches what it throws.
-/
namespace V4l2Capture.Diagnostics

open Stats JsonDocument JsonString Decimals Traced
open Traced.Program (step)

/-- The parameters. The two durations are finite. -/
structure CheckConfig where
  topic : String
  warmupSeconds : ℚ
  measurementSeconds : ℚ
  expectedWidth : Int64
  expectedHeight : Int64
  expectedEncoding : String
  outputPath : String

/-- What `finish` computes, prints and writes. -/
structure CheckReport where
  warmupImages : Nat
  measuredImages : Nat
  validImages : Nat
  invalidImages : Nat
  totalBytes : Nat
  callbackSpanSeconds : ℚ
  receiveRateHz : ℚ
  windowRateHz : ℚ
  passed : Bool
  deriving DecidableEq, Repr

/-! ### The document -/

def valueLine (key : String) (text : List UInt8) : Line := ⟨textBytes key, text⟩

/-- A text between quotes, escaped by the function of the check. -/
def escapedText (text : String) : List UInt8 :=
  quote :: throughputJsonEscape (textBytes text) ++ [quote]

def throughputLines (cfg : CheckConfig) (report : CheckReport) : List Line :=
  [valueLine "topic" (escapedText cfg.topic),
    valueLine "qos_reliability" (quote :: textBytes "BEST_EFFORT" ++ [quote]),
    valueLine "qos_depth" (decimal 1),
    valueLine "warmup_seconds" (fixedPoint 6 cfg.warmupSeconds),
    valueLine "measurement_seconds" (fixedPoint 6 cfg.measurementSeconds),
    valueLine "warmup_images" (decimal report.warmupImages),
    valueLine "measured_images" (decimal report.measuredImages),
    valueLine "valid_images" (decimal report.validImages),
    valueLine "invalid_images" (decimal report.invalidImages),
    valueLine "total_bytes" (decimal report.totalBytes),
    valueLine "callback_span_seconds" (fixedPoint 6 report.callbackSpanSeconds),
    valueLine "receive_rate_hz" (fixedPoint 6 report.receiveRateHz),
    valueLine "window_rate_hz" (fixedPoint 6 report.windowRateHz),
    valueLine "expected_width" (integer cfg.expectedWidth.toInt),
    valueLine "expected_height" (integer cfg.expectedHeight.toInt),
    valueLine "expected_encoding" (escapedText cfg.expectedEncoding),
    valueLine "passed" (if report.passed then trueText else falseText)]

/-- The text that `write_json` streams. -/
def throughputJson (cfg : CheckConfig) (report : CheckReport) : List UInt8 :=
  document (throughputLines cfg report)

/-- What a reader finds. -/
def throughputMembers (cfg : CheckConfig) (report : CheckReport) : List Member :=
  [(textBytes "topic", .text (textBytes cfg.topic)),
    (textBytes "qos_reliability", .text (textBytes "BEST_EFFORT")),
    (textBytes "qos_depth", .number (1 : Nat)),
    (textBytes "warmup_seconds", .number (fixedValue 6 cfg.warmupSeconds)),
    (textBytes "measurement_seconds", .number (fixedValue 6 cfg.measurementSeconds)),
    (textBytes "warmup_images", .number report.warmupImages),
    (textBytes "measured_images", .number report.measuredImages),
    (textBytes "valid_images", .number report.validImages),
    (textBytes "invalid_images", .number report.invalidImages),
    (textBytes "total_bytes", .number report.totalBytes),
    (textBytes "callback_span_seconds", .number (fixedValue 6 report.callbackSpanSeconds)),
    (textBytes "receive_rate_hz", .number (fixedValue 6 report.receiveRateHz)),
    (textBytes "window_rate_hz", .number (fixedValue 6 report.windowRateHz)),
    (textBytes "expected_width", .number cfg.expectedWidth.toInt),
    (textBytes "expected_height", .number cfg.expectedHeight.toInt),
    (textBytes "expected_encoding", .text (textBytes cfg.expectedEncoding)),
    (textBytes "passed", .truth report.passed)]

theorem throughputKeys (cfg : CheckConfig) (report : CheckReport) :
    (∀ line ∈ throughputLines cfg report, Plain line.key) ∧
      ((throughputMembers cfg report).map Prod.fst).Nodup := by
  have keys : (throughputLines cfg report).map Line.key =
      (throughputMembers cfg report).map Prod.fst := rfl
  have closed : (throughputMembers cfg report).map Prod.fst =
      ["topic", "qos_reliability", "qos_depth", "warmup_seconds", "measurement_seconds",
        "warmup_images", "measured_images", "valid_images", "invalid_images", "total_bytes",
        "callback_span_seconds", "receive_rate_hz", "window_rate_hz", "expected_width",
        "expected_height", "expected_encoding", "passed"].map textBytes := rfl
  have checked : ∀ key ∈ (throughputMembers cfg report).map Prod.fst, Plain key := by
    rw [closed]
    decide +kernel
  refine ⟨fun line member => checked _ ?_, ?_⟩
  · rw [← keys]
    exact List.mem_map_of_mem member
  · rw [closed]
    decide +kernel

theorem denotes_escapedText {text : String} (short : ShortControls (textBytes text)) :
    Denotes (escapedText text) (.text (textBytes text)) := by
  have same : throughputJsonEscape (textBytes text) = jsonEscape (textBytes text) :=
    fixtureJsonEscape_of_short short
  rw [escapedText, same]
  exact denotes_literal (readString_jsonEscape (textBytes text))

/-- The two texts of the parameters are the only ones that a reader may stumble over. -/
theorem read_throughputJson {cfg : CheckConfig} (topic : ShortControls (textBytes cfg.topic))
    (encoding : ShortControls (textBytes cfg.expectedEncoding)) (report : CheckReport) :
    read (throughputJson cfg report) = some (throughputMembers cfg report) := by
  have reliability : Denotes (quote :: textBytes "BEST_EFFORT" ++ [quote])
      (.text (textBytes "BEST_EFFORT")) := by
    obtain ⟨lexes, means⟩ := lexes_plain (show Plain (textBytes "BEST_EFFORT") by decide +kernel)
    exact denotes_literal (readString_literal lexes means)
  have values : List.Forall₂ (fun line member => line.key = member.1 ∧ Denotes line.text member.2)
      (throughputLines cfg report) (throughputMembers cfg report) :=
    .cons ⟨rfl, denotes_escapedText topic⟩ <|
    .cons ⟨rfl, reliability⟩ <|
    .cons ⟨rfl, denotes_decimal 1⟩ <|
    .cons ⟨rfl, denotes_fixedPoint 6 _ (by decide)⟩ <|
    .cons ⟨rfl, denotes_fixedPoint 6 _ (by decide)⟩ <|
    .cons ⟨rfl, denotes_decimal _⟩ <|
    .cons ⟨rfl, denotes_decimal _⟩ <|
    .cons ⟨rfl, denotes_decimal _⟩ <|
    .cons ⟨rfl, denotes_decimal _⟩ <|
    .cons ⟨rfl, denotes_decimal _⟩ <|
    .cons ⟨rfl, denotes_fixedPoint 6 _ (by decide)⟩ <|
    .cons ⟨rfl, denotes_fixedPoint 6 _ (by decide)⟩ <|
    .cons ⟨rfl, denotes_fixedPoint 6 _ (by decide)⟩ <|
    .cons ⟨rfl, denotes_integer _⟩ <|
    .cons ⟨rfl, denotes_integer _⟩ <|
    .cons ⟨rfl, denotes_escapedText encoding⟩ <|
    .cons ⟨rfl, denotes_truth _⟩ .nil
  apply read_document
  refine List.forall₂_iff_zip.mpr ⟨values.length_eq, fun member => ?_⟩
  obtain ⟨key, value⟩ := (List.forall₂_iff_zip.mp values).2 member
  exact ⟨(throughputKeys cfg report).1 _ (List.of_mem_zip member).1, key, value⟩

/-! ### Writing it -/

/-- Nobody looks at the outcome of the writes, nor at that of the removal. Of the outcomes in
`calls`, those of the writes and of a second renaming are not asked for. -/
def writeJson (path : String) (text : List UInt8) (calls : WriteCalls) :
    Program FileSystem Unit := do
  if path = "" then pure ()
  else
    createParent path calls
    let temporary := tempPath path
    if calls.openTemp then
      step fun fs => fs.write temporary []
      step fun fs => fs.write temporary (text.take calls.written)
      step fun fs => fs.write temporary (text.take calls.flushed)
      step fun fs => if calls.remove then fs.remove path else fs
      match calls.rename with
      | none => step fun fs => fs.rename temporary path
      | some _ => pure ()
    else pure ()

/-- What the target holds when `write_json` is done. -/
def leftAt (fs : FileSystem) (path : String) (text : List UInt8) (calls : WriteCalls) :
    Option (List UInt8) :=
  if calls.openTemp then
    if calls.rename = none then some (text.take calls.flushed)
    else if calls.remove then none
    else fs path
  else fs path

section Specs

variable {throws : String → FileSystem → Prop} {fs : FileSystem} {path : String}
  {text : List UInt8} {calls : WriteCalls}

/-- The contents of the target: the old one, none where the removal works, and the file that is
renamed. -/
theorem wp_writeJson (always ends : Option (List UInt8) → Prop)
    (throws : String → FileSystem → Prop) (named : path ≠ "")
    (directories : '/' ∈ path.toList → calls.createDirectories = none) :
    wp (writeJson path text calls) (fun now => always (now path))
        (fun _ after => ends (after path)) throws fs ↔
      (calls.openTemp = true → always (fs path) ∧ (calls.remove = true → always none) ∧
        (calls.rename = none → always (some (text.take calls.flushed)))) ∧
      ends (leftAt fs path text calls) := by
  have distinct := path_ne_tempPath path
  rw [writeJson, if_neg named, wp_bind, wp_createParent directories, leftAt]
  cases opened : calls.openTemp with
  | false => simp
  | true =>
    cases renamed : calls.rename with
    | none => cases removed : calls.remove <;> simp [distinct, distinct.symm, and_assoc]
    | some error => cases removed : calls.remove <;> simp [distinct, and_assoc]

/-- The calls before the removal succeed. -/
structure Publishes (path : String) (calls : WriteCalls) : Prop where
  named : path ≠ ""
  directories : '/' ∈ path.toList → calls.createDirectories = none
  opened : calls.openTemp = true

theorem wp_writeJson_unpublished {always : FileSystem → Prop}
    {returns : Unit → FileSystem → Prop} (unpublished : ¬ Publishes path calls)
    (returned : returns () fs) (thrown : ∀ message, throws message fs) :
    wp (writeJson path text calls) always returns throws fs := by
  by_cases named : path = ""
  · rw [writeJson, if_pos named]
    exact (wp_pure ()).mpr returned
  by_cases directories : '/' ∈ path.toList → calls.createDirectories = none
  · have closed : calls.openTemp = false := by
      by_contra opened
      exact unpublished ⟨named, directories, by simpa using opened⟩
    rw [writeJson, if_neg named, wp_bind, wp_createParent directories]
    simpa [closed] using returned
  · rw [writeJson, if_neg named, wp_bind]
    exact wp_createParent_fails directories thrown

/-- The directories of the target are missing and cannot be created. -/
def DirectoryFails (path : String) (calls : WriteCalls) : Prop :=
  '/' ∈ path.toList ∧ calls.createDirectories ≠ none

instance (path : String) (calls : WriteCalls) : Decidable (DirectoryFails path calls) :=
  inferInstanceAs (Decidable (_ ∧ _))

/-- Of all that can fail, only that is thrown. -/
theorem writeJson_throws_iff :
    (∃ message, (writeJson path text calls fs).result = .error message) ↔
      DirectoryFails path calls := by
  constructor
  · rintro ⟨message, thrown⟩
    by_contra fine
    have directories : '/' ∈ path.toList → calls.createDirectories = none := by
      intro below
      by_contra fails
      exact fine ⟨below, fails⟩
    have quiet : wp (writeJson path text calls) (fun _ => True) (fun _ _ => True)
        (fun _ _ => False) fs := by
      by_cases named : path = ""
      · rw [writeJson, if_pos named]
        exact (wp_pure ()).mpr trivial
      · exact (wp_writeJson (fun _ => True) (fun _ => True) _ named directories).mpr
          ⟨fun _ => ⟨trivial, fun _ => trivial, fun _ => trivial⟩, trivial⟩
    exact quiet.thrown message thrown
  · rintro ⟨below, fails⟩
    have named : path ≠ "" := by
      rintro rfl
      cases below
    have loud : wp (writeJson path text calls) (fun _ => True) (fun _ _ => False)
        (fun _ _ => True) fs := by
      rw [writeJson, if_neg named, wp_bind]
      exact wp_createParent_fails (fun directories => fails (directories below)) fun _ => trivial
    cases result : (writeJson path text calls fs).result with
    | ok done => exact absurd (loud.returned done result) id
    | error message => exact ⟨message, rfl⟩

end Specs

/-- A reader finds the old content or the new text, at every moment and in the end. -/
def KeepsReaders (fs : FileSystem) (path : String) (text : List UInt8) (calls : WriteCalls) :
    Prop :=
  wp (writeJson path text calls) (fun now => now path = fs path ∨ now path = some text)
    (fun _ after => after path = fs path ∨ after path = some text)
    (fun _ after => after path = fs path) fs

/-- Even where no call fails, an old file is gone for a moment: the removal in front of the
renaming must have nothing to remove, and what is renamed must be the whole text, or as much as
was there before. -/
theorem writeJson_atomic_iff (fs : FileSystem) (path : String) (text : List UInt8)
    (calls : WriteCalls) :
    KeepsReaders fs path text calls ↔
      (Publishes path calls → (calls.remove = true → fs path = none) ∧
        (calls.rename = none →
          some (text.take calls.flushed) = fs path ∨ text.length ≤ calls.flushed)) := by
  rw [KeepsReaders]
  by_cases publishes : Publishes path calls
  · rw [wp_writeJson (fun content => content = fs path ∨ content = some text)
      (fun content => content = fs path ∨ content = some text)
      (fun _ after => after path = fs path) publishes.named publishes.directories, leftAt]
    simp only [publishes, publishes.opened, if_true, true_imp_iff, true_or, true_and,
      Option.some.injEq, List.take_eq_self_iff]
    cases renamed : calls.rename with
    | none => cases removed : calls.remove <;> simp [eq_comm]
    | some error => cases removed : calls.remove <;> simp [eq_comm]
  · simp only [publishes, false_imp_iff, iff_true]
    exact wp_writeJson_unpublished publishes (.inl rfl) fun _ => rfl

/-- An existing file, and calls of which none fails. -/
def replaces : WriteCalls where
  createDirectories := none
  openTemp := true
  written := 0
  writeFails := false
  flushed := 2
  rename := none
  remove := true
  renameAgain := none

/-- `writeJson_atomic_iff` over `replaces`: a new file appears whole, and an old one is gone for
a moment. -/
theorem writeJson_atomic_replaces :
    KeepsReaders (fun _ => none) "check.json" [0x7b, 0x7d] replaces ∧
      ¬ KeepsReaders (fun _ => some [0x7b]) "check.json" [0x7b, 0x7d] replaces := by
  rw [writeJson_atomic_iff, writeJson_atomic_iff]
  constructor
  · exact fun _ => ⟨fun _ => rfl, fun _ => .inr (by decide)⟩
  · intro keeps
    have gone := (keeps ⟨by decide, fun _ => rfl, rfl⟩).1 rfl
    cases gone

end V4l2Capture.Diagnostics
