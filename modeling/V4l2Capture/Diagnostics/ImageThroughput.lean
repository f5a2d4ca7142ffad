import V4l2Capture.Diagnostics.PublishFrame
import V4l2Capture.Diagnostics.ReceiverLoop
import V4l2Capture.Diagnostics.ThroughputFile

/-!
# The image throughput check

`image_throughput_check` subscribes to the images of the node, counts the ones that arrive in a
window of the steady clock, judges them behind its end and writes its file. Its callbacks run one
after the other, so that the clock readings of a run do not decrease. `imageThroughput_run`
describes the counters and the verdict by the images that arrived, `imageThroughput_node` applies
this to the images that the node publishes, and `imageThroughput_file` says what the file tells.

How the result of an operation is rounded to a `double` is a parameter.
-/
namespace V4l2Capture.Diagnostics

open Protocol Receiver Stats JsonDocument Decimals Traced

/-- The rounding of a result to a `double`, what the files hold when `write_json` begins, and the
outcomes of its calls. -/
structure CheckEnv where
  double : ℚ → ℚ
  files : FileSystem
  calls : WriteCalls

/-- Readings of the steady clock are in nanoseconds. `reports` and `writing` are history: what
`finish` made, and how its `write_json` went. -/
structure CheckState where
  warmupImages : Nat := 0
  measuredImages : Nat := 0
  validImages : Nat := 0
  invalidImages : Nat := 0
  totalBytes : Nat := 0
  finished : Bool := false
  exitCode : Nat := 1
  firstReceiveTime : Int := 0
  lastReceiveTime : Int := 0
  reports : List CheckReport := []
  writing : Option (Outcome FileSystem Unit) := none

/-- The cast of a duration to the ticks of the clock: a product of two doubles, cut off behind
the point. -/
def nanoseconds (double : ℚ → ℚ) (seconds : ℚ) : Int :=
  let product := double (seconds * 1000000000)
  product.num.tdiv product.den

def CheckConfig.warmupEndTime (cfg : CheckConfig) (double : ℚ → ℚ) (startTime : Int) : Int :=
  startTime + nanoseconds double cfg.warmupSeconds

def CheckConfig.measurementEndTime (cfg : CheckConfig) (double : ℚ → ℚ) (startTime : Int) : Int :=
  cfg.warmupEndTime double startTime + nanoseconds double cfg.measurementSeconds

/-- The checks of one image. The expected sizes are narrowed to 32 bits. -/
def imageValid (cfg : CheckConfig) (message : ImageMessage) : Bool :=
  decide (message.width = cfg.expectedWidth.toUInt64.toUInt32) &&
    decide (message.height = cfg.expectedHeight.toUInt64.toUInt32) &&
    decide (message.encoding = cfg.expectedEncoding) &&
    decide (message.data.length = message.step.toNat * message.height.toNat)

def onImage (cfg : CheckConfig) (env : CheckEnv) (startTime : Int) (s : CheckState)
    (message : ImageMessage) (now : Int) : CheckState :=
  if now < cfg.warmupEndTime env.double startTime then
    { s with warmupImages := s.warmupImages + 1 }
  else if now ≥ cfg.measurementEndTime env.double startTime ∨ s.finished = true then s
  else
    let s := { s with
      firstReceiveTime := if s.measuredImages = 0 then now else s.firstReceiveTime
      lastReceiveTime := now
      measuredImages := s.measuredImages + 1
      totalBytes := s.totalBytes + message.data.length }
    if imageValid cfg message then { s with validImages := s.validImages + 1 }
    else { s with invalidImages := s.invalidImages + 1 }

/-- The numbers of `finish`. -/
def makeReport (cfg : CheckConfig) (double : ℚ → ℚ) (s : CheckState) : CheckReport :=
  let callbackSpanSeconds : ℚ :=
    if s.measuredImages ≥ 2 then
      double (double (s.lastReceiveTime - s.firstReceiveTime : Int) / 1000000000)
    else 0
  { warmupImages := s.warmupImages
    measuredImages := s.measuredImages
    validImages := s.validImages
    invalidImages := s.invalidImages
    totalBytes := s.totalBytes
    callbackSpanSeconds := callbackSpanSeconds
    -- With fewer than two images the span is zero.
    receiveRateHz :=
      if callbackSpanSeconds > 0 then
        double (double (s.measuredImages - 1 : Nat) / callbackSpanSeconds)
      else 0
    windowRateHz :=
      if cfg.measurementSeconds > 0 then double (double s.measuredImages / cfg.measurementSeconds)
      else 0
    passed := decide (s.measuredImages ≥ 2) && decide (s.validImages = s.measuredImages) &&
      decide (s.invalidImages = 0) }

/-- `finish` up to the shutdown. -/
def finish (cfg : CheckConfig) (env : CheckEnv) (s : CheckState) : CheckState :=
  let report := makeReport cfg env.double s
  { s with
    finished := true
    exitCode := if report.passed then 0 else 1
    reports := s.reports ++ [report]
    writing := some (writeJson cfg.outputPath (throughputJson cfg report) env.calls env.files) }

def checkDeadline (cfg : CheckConfig) (env : CheckEnv) (startTime : Int) (s : CheckState)
    (now : Int) : CheckState :=
  if s.finished = false ∧ now ≥ cfg.measurementEndTime env.double startTime then finish cfg env s
  else s

/-- A callback with its reading of the clock. -/
inductive CheckEvent where
  | image (message : ImageMessage) (now : Int)
  | timer (now : Int)

def CheckEvent.now : CheckEvent → Int
  | .image _ now => now
  | .timer now => now

def checkStep (cfg : CheckConfig) (env : CheckEnv) (startTime : Int) (s : CheckState) :
    CheckEvent → CheckState
  | .image message now => onImage cfg env startTime s message now
  | .timer now => checkDeadline cfg env startTime s now

/-- The node that `main` spins until `finish` shuts it down or throws; callbacks behind that
change nothing that is reported. -/
def runCheck (cfg : CheckConfig) (env : CheckEnv) (startTime : Int) (events : List CheckEvent) :
    CheckState :=
  events.foldl (checkStep cfg env startTime) {}

/-- The exit status of `main`. What `write_json` throws leaves the callback, `spin` and `main`,
so that the process is aborted and has none. -/
def CheckState.exitStatus (s : CheckState) : Option Nat :=
  match s.writing with
  | some ⟨_, .error _, _⟩ => none
  | _ => some s.exitCode

/-! ### What arrived -/

def CheckEvent.image? : CheckEvent → Option (ImageMessage × Int)
  | .image message now => some (message, now)
  | .timer _ => none

/-- The images of a run with the times of their arrival. -/
def arrivals (events : List CheckEvent) : List (ImageMessage × Int) :=
  events.filterMap CheckEvent.image?

/-- The images in the window between the warm-up and the end of the measurement. -/
def inWindow (cfg : CheckConfig) (double : ℚ → ℚ) (startTime : Int) (events : List CheckEvent) :
    List (ImageMessage × Int) :=
  (arrivals events).filter fun arrival =>
    decide (cfg.warmupEndTime double startTime ≤ arrival.2) &&
      decide (arrival.2 < cfg.measurementEndTime double startTime)

/-- The timer has seen the end of the measurement. -/
def Ended (cfg : CheckConfig) (double : ℚ → ℚ) (startTime : Int) (events : List CheckEvent) :
    Prop :=
  ∃ now, .timer now ∈ events ∧ cfg.measurementEndTime double startTime ≤ now

/-- The verdict over the measured images. -/
def Passes (cfg : CheckConfig) (images : List (ImageMessage × Int)) : Prop :=
  2 ≤ images.length ∧ ∀ arrival ∈ images, imageValid cfg arrival.1 = true

/-- The counters of a run, by the images that arrived in it. -/
structure CheckCounts (cfg : CheckConfig) (double : ℚ → ℚ) (startTime : Int)
    (events : List CheckEvent)
    (s : CheckState) : Prop where
  warmup : s.warmupImages =
    (arrivals events).countP fun arrival => arrival.2 < cfg.warmupEndTime double startTime
  measured : s.measuredImages = (inWindow cfg double startTime events).length
  bytes : s.totalBytes = ((inWindow cfg double startTime events).map (·.1.data.length)).sum
  valid : s.validImages = (inWindow cfg double startTime events).countP (imageValid cfg ·.1)
  invalid : s.invalidImages = (inWindow cfg double startTime events).countP (!imageValid cfg ·.1)
  first : ∀ arrival, (inWindow cfg double startTime events).head? = some arrival →
    s.firstReceiveTime = arrival.2
  last : ∀ arrival, (inWindow cfg double startTime events).getLast? = some arrival →
    s.lastReceiveTime = arrival.2

/-- The counters, the only report of a run and what is written of it. -/
structure CheckInv (cfg : CheckConfig) (env : CheckEnv) (startTime : Int)
    (events : List CheckEvent) (s : CheckState) : Prop where
  counts : CheckCounts cfg env.double startTime events s
  finished : s.finished = true ↔ Ended cfg env.double startTime events
  running : s.finished = false → s.reports = [] ∧ s.exitCode = 1 ∧ s.writing = none
  /-- Only the images of the warm-up can go on behind the report. -/
  reported : s.finished = true → ∃ report warmupImages,
    report = { makeReport cfg env.double s with warmupImages := warmupImages } ∧
    s.reports = [report] ∧ s.exitCode = (if report.passed then 0 else 1) ∧
    s.writing =
      some (writeJson cfg.outputPath (throughputJson cfg report) env.calls env.files)

theorem arrivals_append (events : List CheckEvent) (event : CheckEvent) :
    arrivals (events ++ [event]) = arrivals events ++ event.image?.toList := by
  rw [arrivals, List.filterMap_append, ← arrivals]
  cases event <;> rfl

theorem inWindow_timer (cfg : CheckConfig) (double : ℚ → ℚ) (startTime : Int)
    (events : List CheckEvent)
    (now : Int) :
    inWindow cfg double startTime (events ++ [.timer now]) =
      inWindow cfg double startTime events := by
  rw [inWindow, arrivals_append]
  simp [CheckEvent.image?, inWindow]

theorem inWindow_image (cfg : CheckConfig) (double : ℚ → ℚ) (startTime : Int)
    (events : List CheckEvent)
    (message : ImageMessage) (now : Int) :
    inWindow cfg double startTime (events ++ [.image message now]) =
      inWindow cfg double startTime events ++
        if cfg.warmupEndTime double startTime ≤ now ∧
            now < cfg.measurementEndTime double startTime then
          [(message, now)]
        else [] := by
  rw [inWindow, arrivals_append, List.filter_append]
  simp only [CheckEvent.image?, Option.toList_some, List.filter_cons, List.filter_nil,
    Bool.and_eq_true, decide_eq_true_eq]
  rfl

theorem ended_append (cfg : CheckConfig) (double : ℚ → ℚ) (startTime : Int)
    (events : List CheckEvent)
    (event : CheckEvent) :
    Ended cfg double startTime (events ++ [event]) ↔ Ended cfg double startTime events ∨
      ∃ now, event = .timer now ∧ cfg.measurementEndTime double startTime ≤ now := by
  simp only [Ended, List.mem_append, List.mem_singleton]
  constructor
  · rintro ⟨now, before | rfl, late⟩
    · exact .inl ⟨now, before, late⟩
    · exact .inr ⟨now, rfl, late⟩
  · rintro (⟨now, before, late⟩ | ⟨now, rfl, late⟩)
    · exact ⟨now, .inl before, late⟩
    · exact ⟨now, .inr rfl, late⟩

/-! ### The callbacks -/

section Callbacks

variable {cfg : CheckConfig} {env : CheckEnv} {startTime : Int} {events : List CheckEvent}
  {s s' : CheckState}

/-- The counters of the window stay when nothing arrives in it. -/
theorem CheckCounts.outside (counts : CheckCounts cfg env.double startTime events s)
    {event : CheckEvent}
    (same : inWindow cfg env.double startTime (events ++ [event]) =
      inWindow cfg env.double startTime events)
    (warmup : s'.warmupImages = (arrivals (events ++ [event])).countP fun arrival =>
      arrival.2 < cfg.warmupEndTime env.double startTime)
    (counters : s'.measuredImages = s.measuredImages ∧ s'.totalBytes = s.totalBytes ∧
      s'.validImages = s.validImages ∧ s'.invalidImages = s.invalidImages)
    (times : s'.firstReceiveTime = s.firstReceiveTime ∧ s'.lastReceiveTime = s.lastReceiveTime) :
    CheckCounts cfg env.double startTime (events ++ [event]) s' where
  warmup := warmup
  measured := by rw [same, counters.1, counts.measured]
  bytes := by rw [same, counters.2.1, counts.bytes]
  valid := by rw [same, counters.2.2.1, counts.valid]
  invalid := by rw [same, counters.2.2.2, counts.invalid]
  first := by rw [same, times.1]; exact counts.first
  last := by rw [same, times.2]; exact counts.last

/-- An image, which behind the report arrives too late for the window. -/
theorem CheckCounts.image (counts : CheckCounts cfg env.double startTime events s)
    (message : ImageMessage)
    {now : Int} (closed : s.finished = true → cfg.measurementEndTime env.double startTime ≤ now) :
    CheckCounts cfg env.double startTime (events ++ [.image message now])
      (onImage cfg env startTime s message now) := by
  have window := inWindow_image cfg env.double startTime events message now
  have warmups : (arrivals (events ++ [.image message now])).countP
      (fun arrival => arrival.2 < cfg.warmupEndTime env.double startTime) =
      s.warmupImages + if now < cfg.warmupEndTime env.double startTime then 1 else 0 := by
    rw [arrivals_append, List.countP_append, ← counts.warmup]
    simp [CheckEvent.image?, List.countP_cons]
  rw [onImage]
  split
  next early =>
    rw [if_pos early] at warmups
    rw [if_neg (by omega), List.append_nil] at window
    exact counts.outside window warmups.symm ⟨rfl, rfl, rfl, rfl⟩ ⟨rfl, rfl⟩
  next warm =>
    rw [if_neg warm, Nat.add_zero] at warmups
    split
    next late =>
      have outside : ¬ now < cfg.measurementEndTime env.double startTime := by
        rcases late with late | ended
        · omega
        · have := closed ended
          omega
      rw [if_neg fun inside => outside inside.2, List.append_nil] at window
      exact counts.outside window warmups.symm ⟨rfl, rfl, rfl, rfl⟩ ⟨rfl, rfl⟩
    next inside =>
      rw [not_or, not_le] at inside
      rw [if_pos ⟨not_lt.mp warm, inside.1⟩] at window
      have counted : CheckCounts cfg env.double startTime (events ++ [.image message now]) { s with
          firstReceiveTime := if s.measuredImages = 0 then now else s.firstReceiveTime
          lastReceiveTime := now
          measuredImages := s.measuredImages + 1
          totalBytes := s.totalBytes + message.data.length
          validImages := s.validImages + if imageValid cfg message then 1 else 0
          invalidImages := s.invalidImages + if imageValid cfg message then 0 else 1 } := by
        refine ⟨warmups.symm, ?_, ?_, ?_, ?_, ?_, ?_⟩
        · rw [window, List.length_append, counts.measured]
          rfl
        · rw [window, List.map_append, List.sum_append, counts.bytes]
          simp
        · rw [window, List.countP_append, counts.valid]
          simp [List.countP_cons]
        · rw [window, List.countP_append, counts.invalid]
          cases valid : imageValid cfg message <;> simp [valid]
        -- The first image sets the time that later ones leave alone.
        · intro arrival isFirst
          rw [window] at isFirst
          cases earlier : inWindow cfg env.double startTime events with
          | nil =>
            rw [earlier] at isFirst
            cases isFirst
            exact if_pos (by rw [counts.measured, earlier]; rfl)
          | cons front rest =>
            rw [earlier] at isFirst
            cases isFirst
            have some_counted : ¬ s.measuredImages = 0 := by
              rw [counts.measured, earlier]
              exact Nat.succ_ne_zero _
            exact (if_neg some_counted).trans (counts.first _ (by rw [earlier]; rfl))
        · intro arrival isLast
          rw [window, List.getLast?_concat] at isLast
          cases isLast
          rfl
      cases valid : imageValid cfg message with
      | true =>
        rw [valid] at counted
        exact counted
      | false =>
        rw [valid] at counted
        exact counted

/-- Every image in the window is valid or not. -/
theorem CheckCounts.judged (counts : CheckCounts cfg env.double startTime events s) :
    s.validImages + s.invalidImages = s.measuredImages := by
  rw [counts.valid, counts.invalid, counts.measured,
    List.length_eq_countP_add_countP (fun arrival => imageValid cfg arrival.1)]
  simp

theorem CheckCounts.passed_iff (counts : CheckCounts cfg env.double startTime events s) :
    (makeReport cfg env.double s).passed = true ↔
      Passes cfg (inWindow cfg env.double startTime events) := by
  have judged := counts.judged
  have all : s.validImages = s.measuredImages ↔
      ∀ arrival ∈ inWindow cfg env.double startTime events, imageValid cfg arrival.1 = true := by
    rw [counts.valid, counts.measured, List.countP_eq_length]
  simp only [makeReport, Bool.and_eq_true, decide_eq_true_eq, and_assoc, ge_iff_le, Passes, ← all,
    ← counts.measured]
  constructor
  · rintro ⟨enough, valid, -⟩
    exact ⟨enough, valid⟩
  · rintro ⟨enough, valid⟩
    exact ⟨enough, valid, by omega⟩

theorem onImage_outcome (env : CheckEnv) (s : CheckState) (message : ImageMessage) (now : Int) :
    (onImage cfg env startTime s message now).finished = s.finished ∧
      (onImage cfg env startTime s message now).reports = s.reports ∧
      (onImage cfg env startTime s message now).exitCode = s.exitCode ∧
      (onImage cfg env startTime s message now).writing = s.writing := by
  rw [onImage]
  split
  · exact ⟨rfl, rfl, rfl, rfl⟩
  split
  · exact ⟨rfl, rfl, rfl, rfl⟩
  simp only
  cases imageValid cfg message <;> exact ⟨rfl, rfl, rfl, rfl⟩

/-- Behind the end of the measurement an image adds to nothing but the warm-up. -/
theorem onImage_late (env : CheckEnv) (s : CheckState) (message : ImageMessage) {now : Int}
    (late : cfg.measurementEndTime env.double startTime ≤ now) :
    ∃ warmupImages, onImage cfg env startTime s message now =
      { s with warmupImages := warmupImages } := by
  rw [onImage]
  split
  · exact ⟨s.warmupImages + 1, rfl⟩
  · rw [if_pos (.inl late)]
    exact ⟨s.warmupImages, rfl⟩

theorem checkInv_initial : CheckInv cfg env startTime [] {} where
  counts := ⟨rfl, rfl, rfl, rfl, rfl, fun _ first => (by cases first),
    fun _ last => (by cases last)⟩
  finished := ⟨fun ended => (by cases ended), fun ⟨_, member, _⟩ => (by cases member)⟩
  running _ := ⟨rfl, rfl, rfl⟩
  reported ended := by cases ended

/-- Step lemma: one callback, with a reading of the clock not before the others. -/
theorem CheckInv.step (inv : CheckInv cfg env startTime events s) {event : CheckEvent}
    (latest : ∀ earlier ∈ events, earlier.now ≤ event.now) :
    CheckInv cfg env startTime (events ++ [event]) (checkStep cfg env startTime s event) := by
  have closed : s.finished = true → cfg.measurementEndTime env.double startTime ≤ event.now := by
    intro ended
    obtain ⟨seen, member, late⟩ := inv.finished.mp ended
    exact late.trans (latest _ member)
  cases event with
  | image message now =>
    obtain ⟨finished, reports, exitCode, writing⟩ := onImage_outcome env s message now
    refine ⟨inv.counts.image message closed, ?_, ?_, ?_⟩
    · rw [checkStep, finished, inv.finished, ended_append]
      simp
    · rw [checkStep, finished, reports, exitCode, writing]
      exact inv.running
    · rw [checkStep, finished, reports, exitCode, writing]
      intro ended
      obtain ⟨report, warmupImages, made, outcome⟩ := inv.reported ended
      obtain ⟨later, unchanged⟩ := onImage_late env s message
        (show cfg.measurementEndTime env.double startTime ≤ now from closed ended)
      rw [unchanged]
      exact ⟨report, warmupImages, made, outcome⟩
  | timer now =>
    have counts : CheckCounts cfg env.double startTime (events ++ [.timer now]) s :=
      inv.counts.outside (inWindow_timer ..)
        (by rw [inv.counts.warmup, arrivals_append]; simp [CheckEvent.image?])
        ⟨rfl, rfl, rfl, rfl⟩ ⟨rfl, rfl⟩
    have ended := ended_append cfg env.double startTime events (.timer now)
    simp only [CheckEvent.timer.injEq, exists_eq_left'] at ended
    rw [checkStep, checkDeadline]
    split
    next due =>
      obtain ⟨none_before, _⟩ := inv.running due.1
      refine ⟨{ counts with }, ?_, ?_, fun _ => ⟨makeReport cfg env.double s, s.warmupImages, rfl,
        ?_, rfl, rfl⟩⟩
      · rw [ended]
        exact ⟨fun _ => .inr due.2, fun _ => rfl⟩
      · exact fun going => by cases going
      · rw [finish, none_before]
        rfl
    next notDue =>
      refine ⟨counts, ?_, inv.running, inv.reported⟩
      rw [ended, inv.finished]
      constructor
      · exact .inl
      · rintro (before | late)
        · exact before
        · by_contra going
          rw [← inv.finished, Bool.not_eq_true] at going
          exact notDue ⟨going, late⟩

/-- Run lemma. -/
theorem runCheck_inv (ordered : (events.map CheckEvent.now).Pairwise (· ≤ ·)) :
    CheckInv cfg env startTime events (runCheck cfg env startTime events) := by
  induction events using List.reverseRecOn with
  | nil => exact checkInv_initial
  | append_singleton events event ih =>
    rw [List.map_append, List.pairwise_append] at ordered
    rw [runCheck, List.foldl_append]
    refine (ih ordered.1).step fun earlier member => ?_
    exact ordered.2.2 _ (List.mem_map_of_mem member) _ (by simp)

/-! ### The verdict -/

/-- How the process ends. -/
structure Exits (cfg : CheckConfig) (env : CheckEnv) (startTime : Int) (events : List CheckEvent)
    (status : Option Nat) : Prop where
  success : status = some 0 ↔ Ended cfg env.double startTime events ∧
    Passes cfg (inWindow cfg env.double startTime events) ∧
    ¬ DirectoryFails cfg.outputPath env.calls
  aborted : status = none ↔ Ended cfg env.double startTime events ∧
    DirectoryFails cfg.outputPath env.calls
  other : status = some 0 ∨ status = some 1 ∨ status = none

theorem CheckInv.exits (inv : CheckInv cfg env startTime events s) :
    Exits cfg env startTime events s.exitStatus := by
  cases finished : s.finished with
  | false =>
    obtain ⟨_, code, quiet⟩ := inv.running finished
    have going : ¬ Ended cfg env.double startTime events := by
      rw [← inv.finished, finished]
      exact Bool.false_ne_true
    have status : s.exitStatus = some 1 := by rw [CheckState.exitStatus, quiet, code]
    rw [status]
    exact ⟨by simp [going], by simp [going], .inr (.inl rfl)⟩
  | true =>
    obtain ⟨report, warmupImages, made, _, code, written⟩ := inv.reported finished
    have ended := inv.finished.mp finished
    have passed : report.passed = true ↔ Passes cfg (inWindow cfg env.double startTime events) := by
      rw [made]
      exact inv.counts.passed_iff
    have throws : (∃ message, (writeJson cfg.outputPath (throughputJson cfg report) env.calls
        env.files).result = .error message) ↔ DirectoryFails cfg.outputPath env.calls :=
      writeJson_throws_iff
    have status : s.exitStatus =
        if DirectoryFails cfg.outputPath env.calls then none
        else some (if report.passed then 0 else 1) := by
      rw [CheckState.exitStatus, written, code]
      cases outcome : writeJson cfg.outputPath (throughputJson cfg report) env.calls env.files with
      | mk moments result final =>
        rw [outcome] at throws
        cases result with
        | ok done =>
          have fine : ¬ DirectoryFails cfg.outputPath env.calls := by
            intro fails
            obtain ⟨message, thrown⟩ := throws.mpr fails
            cases thrown
          rw [if_neg fine]
        | error message => rw [if_pos (throws.mp ⟨message, rfl⟩)]
    rw [status]
    refine ⟨?_, ?_, ?_⟩
    · rw [← passed]
      split <;> simp [*]
    · split <;> simp [*]
    · split
      · exact .inr (.inr rfl)
      split
      · exact .inl rfl
      · exact .inr (.inl rfl)

/-- Images of the window in the order of their arrival, from the first to the last. -/
theorem window_span (ordered : (events.map CheckEvent.now).Pairwise (· ≤ ·))
    (counts : CheckCounts cfg env.double startTime events s)
    (some_measured : inWindow cfg env.double startTime events ≠ []) :
    s.firstReceiveTime ≤ s.lastReceiveTime ∧
      s.lastReceiveTime - s.firstReceiveTime < nanoseconds env.double cfg.measurementSeconds := by
  have arrived : (inWindow cfg env.double startTime events).Pairwise fun first second =>
      first.2 ≤ second.2 := by
    refine List.Pairwise.filter _ (List.Pairwise.filterMap _ ?_ (List.pairwise_map.mp ordered))
    intro event later le first isFirst second isSecond
    cases event with
    | timer now => cases isFirst
    | image message now =>
      cases later with
      | timer now' => cases isSecond
      | image message' now' =>
        cases isFirst
        cases isSecond
        exact le
  have inside : ∀ arrival ∈ inWindow cfg env.double startTime events,
      cfg.warmupEndTime env.double startTime ≤ arrival.2 ∧
        arrival.2 < cfg.measurementEndTime env.double startTime := by
    intro arrival member
    simpa using (List.mem_filter.mp member).2
  obtain ⟨first, rest, shape⟩ := List.exists_cons_of_ne_nil some_measured
  have firstTime := counts.first first (by rw [shape]; rfl)
  have lastTime := counts.last _ (List.getLast?_eq_some_getLast some_measured)
  have lastMember := List.getLast_mem some_measured
  generalize (inWindow cfg env.double startTime events).getLast some_measured = last
    at lastTime lastMember
  have firstInside := inside first (by rw [shape]; exact List.mem_cons_self)
  have lastInside := inside last lastMember
  have le : first.2 ≤ last.2 := by
    rw [shape, List.pairwise_cons] at arrived
    rw [shape] at lastMember
    rcases List.mem_cons.mp lastMember with rfl | later
    · exact le_rfl
    · exact arrived.1 last later
  rw [firstTime, lastTime]
  refine ⟨le, ?_⟩
  have window : cfg.measurementEndTime env.double startTime =
      cfg.warmupEndTime env.double startTime + nanoseconds env.double cfg.measurementSeconds := rfl
  omega

/-- The numbers of a report, by the images in the window. -/
structure CheckReport.Sound (cfg : CheckConfig) (double : ℚ → ℚ)
    (images : List (ImageMessage × Int)) (report : CheckReport) : Prop where
  measured : report.measuredImages = images.length
  valid : report.validImages = images.countP (imageValid cfg ·.1)
  invalid : report.invalidImages = images.countP (!imageValid cfg ·.1)
  bytes : report.totalBytes = (images.map (·.1.data.length)).sum
  passed : report.passed = true ↔ Passes cfg images
  span : ∀ first last, images.head? = some first → images.getLast? = some last →
    first.2 ≤ last.2 ∧ last.2 - first.2 < nanoseconds double cfg.measurementSeconds ∧
    (2 ≤ images.length →
      report.callbackSpanSeconds = double (double (last.2 - first.2 : Int) / 1000000000))
  noSpan : images.length < 2 → report.callbackSpanSeconds = 0
  receiveRate : report.receiveRateHz = if 0 < report.callbackSpanSeconds then
    double (double (images.length - 1 : Nat) / report.callbackSpanSeconds) else 0
  windowRate : report.windowRateHz = if 0 < cfg.measurementSeconds then
    double (double images.length / cfg.measurementSeconds) else 0

theorem makeReport_sound (ordered : (events.map CheckEvent.now).Pairwise (· ≤ ·))
    (counts : CheckCounts cfg env.double startTime events s) (warmupImages : Nat) :
    CheckReport.Sound cfg env.double (inWindow cfg env.double startTime events)
      { makeReport cfg env.double s with warmupImages := warmupImages } where
  measured := counts.measured
  valid := counts.valid
  invalid := counts.invalid
  bytes := counts.bytes
  passed := counts.passed_iff
  span := by
    intro first last isFirst isLast
    have some_measured : inWindow cfg env.double startTime events ≠ [] := by
      intro empty
      rw [empty] at isFirst
      cases isFirst
    obtain ⟨le, short⟩ := window_span ordered counts some_measured
    rw [← counts.first first isFirst, ← counts.last last isLast]
    refine ⟨le, short, fun two => if_pos ?_⟩
    rw [counts.measured]
    exact two
  noSpan := by
    intro fewer
    refine if_neg ?_
    rw [counts.measured]
    omega
  receiveRate := by
    rw [← counts.measured]
    rfl
  windowRate := by
    rw [← counts.measured]
    rfl

end Callbacks

/-- A run of the check, whatever arrives: its counters are those of the images in the window of
the clock, and `finish` reports them once, behind the window. The exit status is 0 exactly if the
timer has seen the end of the window, at least two images arrived in it, all were valid and the
directories of the file could be made; where these cannot be made, the process is aborted. -/
theorem imageThroughput_run (cfg : CheckConfig) (env : CheckEnv) (startTime : Int)
    (events : List CheckEvent) (ordered : (events.map CheckEvent.now).Pairwise (· ≤ ·)) :
    CheckCounts cfg env.double startTime events (runCheck cfg env startTime events) ∧
    Exits cfg env startTime events (runCheck cfg env startTime events).exitStatus ∧
    (¬ Ended cfg env.double startTime events →
      (runCheck cfg env startTime events).reports = []) ∧
    (Ended cfg env.double startTime events → ∃ report,
      (runCheck cfg env startTime events).reports = [report] ∧
      report.Sound cfg env.double (inWindow cfg env.double startTime events)) := by
  have inv : CheckInv cfg env startTime events (runCheck cfg env startTime events) :=
    runCheck_inv ordered
  refine ⟨inv.counts, inv.exits, fun going => ?_, fun ended => ?_⟩
  · refine (inv.running ?_).1
    rw [← inv.finished] at going
    simpa using going
  · obtain ⟨report, warmupImages, made, reports, _⟩ := inv.reported (inv.finished.mpr ended)
    refine ⟨report, reports, ?_⟩
    rw [made]
    exact makeReport_sound ordered inv.counts warmupImages

/-- Pairs of pixels in packed form, for one second behind one second of warm-up. -/
def pairCheck : CheckConfig where
  topic := "/camera/image_raw"
  warmupSeconds := 1
  measurementSeconds := 1
  expectedWidth := 2
  expectedHeight := 1
  expectedEncoding := "yuv422_yuy2"
  outputPath := "results/check.json"

/-- Doubles that are exact, no file yet, and calls that succeed. -/
def quietCheck : CheckEnv where
  double := id
  files := fun _ => none
  calls := { replaces with flushed := 1000 }

/-- The same, but for a directory that cannot be created. -/
def noDirectory : CheckEnv :=
  { quietCheck with calls := { replaces with createDirectories := some "Permission denied" } }

def pairImage : ImageMessage :=
  imageMessage packedConfig (pairHeader 1000000000) "yuv422_yuy2" 4 [16, 128, 235, 128]

/-- One image in the warm-up, two in the window and one behind it. -/
def pairEvents : List CheckEvent :=
  [.image pairImage 500000000, .image pairImage 1000000000, .timer 1100000000,
    .image pairImage 1500000000, .timer 2000000000, .image pairImage 2100000000]

/-- `imageThroughput_run` over `pairEvents`, at two images a second, with a directory for the
file and without one. -/
theorem imageThroughput_run_pair :
    (runCheck pairCheck quietCheck 0 pairEvents).exitStatus = some 0 ∧
      (runCheck pairCheck quietCheck 0 pairEvents).reports.map CheckReport.receiveRateHz = [2] ∧
      (runCheck pairCheck noDirectory 0 pairEvents).exitStatus = none := by
  have spec := imageThroughput_run pairCheck quietCheck 0 pairEvents (by decide)
  have failing := imageThroughput_run pairCheck noDirectory 0 pairEvents (by decide)
  refine ⟨spec.2.1.success.mpr ⟨⟨2000000000, by simp [pairEvents], by decide +kernel⟩, ?_, ?_⟩,
    by decide +kernel,
    failing.2.1.aborted.mpr ⟨⟨2000000000, by simp [pairEvents], by decide +kernel⟩, ?_⟩⟩
  · exact ⟨by decide +kernel, by decide +kernel⟩
  · exact fun fails => fails.2 rfl
  · exact ⟨by decide, fun created => by cases created⟩

/-! ### The images of the node -/

/-- The frames that the node has accepted passed all of its checks. -/
def AcceptedChecked (cfg : NodeConfig) (st : NodeState) : Prop :=
  ∀ frame ∈ st.accepted, validateHeader frame.1 cfg.maxPayloadBytes = .ok () ∧
    frame.2.length = frame.1.payloadSize.toNat ∧ computeCrc32 frame.2 = frame.1.payloadCrc32

theorem acceptFrame_accepted (cfg : NodeConfig) (env : NodeEnv) (st : NodeState)
    (header : FrameHeader) (payload : List UInt8) :
    (acceptFrame cfg env st header payload).accepted = st.accepted ++ [(header, payload)] := by
  rw [acceptFrame, (publishFrame_spec cfg env _ header).accepted]
  simp only [(timeFrame_spec st header _).accepted]

theorem AcceptedChecked.step {cfg : NodeConfig} {st : NodeState}
    (checked : AcceptedChecked cfg st) (env : NodeEnv) (input : NodeInput) :
    AcceptedChecked cfg (nodeStep cfg env st input).node := by
  rw [nodeStep]
  split
  · exact checked
  split
  · exact checked
  rw [headerStep]
  split
  · exact checked
  · exact checked
  · exact checked
  next memory _ _ =>
    simp only
    split
    · exact checked
    next valid =>
      rw [payloadStep]
      split
      · exact checked
      · exact checked
      · exact checked
      next payload _ read =>
        split
        · exact checked
        next intact =>
          intro frame member
          rw [NodeIteration.node, acceptFrame_accepted, List.mem_append,
            List.mem_singleton] at member
          rcases member with before | rfl
          · exact checked frame before
          · exact ⟨valid, (readInterruptible_ok read).1, not_not.mp intact⟩

theorem LoopState.fail_accepted (s : LoopState) (text : String) (stop : Bool) :
    (s.fail text stop).node.accepted = s.node.accepted := by
  rw [LoopState.fail]
  split <;> rfl

theorem listenRound_accepted (cfg : LoopConfig) (env : NodeEnv) (s : LoopState)
    (met : LoopRound) : (listenRound cfg env s met).node.accepted = s.node.accepted := by
  have unlessStopped : ∀ text, (s.failUnlessStopped text met).node.accepted = s.node.accepted := by
    intro text
    rw [LoopState.failUnlessStopped]
    split
    · rfl
    · exact s.fail_accepted text _
  rw [listenRound]
  split
  · rfl
  split
  · rfl
  split
  · rfl
  split
  · rfl
  · rfl
  · exact unlessStopped _
  split
  · exact unlessStopped _
  split
  · rfl
  rw [acceptRound]
  split
  · rfl
  · exact unlessStopped _
  · rfl

theorem receiverLoop_accepted {cfg : LoopConfig} {env : NodeEnv} {s : LoopState}
    (reached : Transition.Reaches (loopStep cfg env) {} s) :
    AcceptedChecked cfg.toNodeConfig s.node := by
  apply Transition.invariant (fun s : LoopState => AcceptedChecked cfg.toNodeConfig s.node)
    (fun frame member => by cases member) ?_ reached
  intro before action after _ checked taken
  cases action with
  | setup outcome stopAtCatch =>
    simp only [loopStep] at taken
    split at taken
    · cases taken
      split
      · rw [AcceptedChecked, LoopState.fail_accepted]
        exact checked
      · exact checked
    · cases taken
  | round met =>
    simp only [loopStep] at taken
    split at taken
    · cases taken
      rw [AcceptedChecked, listenRound_accepted]
      exact checked
    · cases taken
  | iterate stopAfterSession =>
    simp only [loopStep] at taken
    split at taken
    next input serving =>
      cases taken
      have kept := checked.step env input
      split
      next node left =>
        rw [left] at kept
        rw [LoopState.closeSession]
        split <;> exact kept
      next node input' again =>
        rw [again] at kept
        exact kept
    · cases taken

/-- The image was built from an accepted frame. -/
def FromNode {R : Type} (publish : PublishConfig R) (st : NodeState) (message : ImageMessage) :
    Prop :=
  ∃ frame ∈ st.accepted, frame.1.pixelFormat = V4L2_PIX_FMT_YUYV ∧
    makeImage publish frame.1 frame.2 = .ok message

/-- An image of the node is never too long or too short for its own dimensions. -/
theorem FromNode.imageValid_iff {R : Type} {publish : PublishConfig R} {cfg : NodeConfig}
    {st : NodeState} {message : ImageMessage} (checked : AcceptedChecked cfg st)
    (fromNode : FromNode publish st message) (check : CheckConfig) :
    imageValid check message = true ↔
      message.width = check.expectedWidth.toUInt64.toUInt32 ∧
      message.height = check.expectedHeight.toUInt64.toUInt32 ∧
      message.encoding = check.expectedEncoding := by
  obtain ⟨frame, member, isYuyv, built⟩ := fromNode
  obtain ⟨valid, size, _⟩ := checked frame member
  obtain ⟨image, same, formed⟩ := (yuyvFrame_of_accepted valid isYuyv size).image publish
  obtain rfl : image = message := by
    rw [built] at same
    exact (Except.ok.inj same).symm
  simp [imageValid, formed, and_assoc]

/-- A check that hears images of the node alone, some of them or all, passes exactly if at
least two arrived in the window, each has the expected size and encoding and the directories of
the file could be made: no image is ever rejected for its payload. -/
theorem imageThroughput_node {R : Type} (check : CheckConfig) (checkEnv : CheckEnv)
    (cfg : LoopConfig) (env : NodeEnv) (publish : PublishConfig R) (s : LoopState)
    (reached : Transition.Reaches (loopStep cfg env) {} s) (startTime : Int)
    (events : List CheckEvent) (ordered : (events.map CheckEvent.now).Pairwise (· ≤ ·))
    (heard : ∀ arrival ∈ arrivals events, FromNode publish s.node arrival.1) :
    (runCheck check checkEnv startTime events).exitStatus = some 0 ↔
      Ended check checkEnv.double startTime events ∧
      (2 ≤ (inWindow check checkEnv.double startTime events).length ∧
      ∀ arrival ∈ inWindow check checkEnv.double startTime events,
        arrival.1.width = check.expectedWidth.toUInt64.toUInt32 ∧
        arrival.1.height = check.expectedHeight.toUInt64.toUInt32 ∧
        arrival.1.encoding = check.expectedEncoding) ∧
      ¬ DirectoryFails check.outputPath checkEnv.calls := by
  have inv : CheckInv check checkEnv startTime events
      (runCheck check checkEnv startTime events) := runCheck_inv ordered
  rw [inv.exits.success, Passes]
  refine and_congr_right fun _ => and_congr_left fun _ => and_congr_right fun _ =>
    forall₂_congr fun arrival member => ?_
  exact (heard arrival (List.mem_filter.mp member).1).imageValid_iff
    (receiverLoop_accepted reached) check

/-- A client that sends two pixels in the layout the node reads. -/
def pairClient : NodeInput where
  conn := byteByByte ((serializeHeader (pairHeader 1000000000)).toList ++ [0, 0, 0, 0] ++
    [16, 128, 235, 128])

/-- `imageThroughput_node` for a node that has accepted the frame of `pairImage`. -/
theorem imageThroughput_node_pair :
    ∃ s, Transition.Reaches (loopStep imageNode plainNodeEnv) {} s ∧
      s.node.accepted = [(pairHeader 1000000000, [16, 128, 235, 128])] ∧
      (runCheck pairCheck quietCheck 0 pairEvents).exitStatus = some 0 := by
  obtain ⟨s, reached, accepted⟩ : ∃ s, Transition.Reaches (loopStep imageNode plainNodeEnv) {} s ∧
      s.node.accepted = [(pairHeader 1000000000, [16, 128, 235, 128])] :=
    Transition.exists_reached [.setup {} false,
      .round { accept := .connected (some "127.0.0.1") 5000 pairClient }, .iterate false]
      (by decide +kernel)
  have heard : ∀ arrival ∈ arrivals pairEvents, FromNode packedConfig s.node arrival.1 := by
    intro arrival member
    have same : arrival.1 = pairImage := by
      simp only [arrivals, pairEvents, List.filterMap_cons, List.filterMap_nil, CheckEvent.image?,
        List.mem_cons, List.not_mem_nil, or_false] at member
      rcases member with rfl | rfl | rfl | rfl <;> rfl
    rw [same, FromNode, accepted]
    exact ⟨_, List.mem_singleton_self _, rfl, rfl⟩
  refine ⟨s, reached, accepted, ?_⟩
  refine (imageThroughput_node pairCheck quietCheck imageNode plainNodeEnv packedConfig s reached 0
    pairEvents (by decide) heard).mpr
      ⟨⟨2000000000, by simp [pairEvents], by decide +kernel⟩, ?_, ?_⟩
  · exact ⟨by decide +kernel, by decide +kernel⟩
  · exact fun fails => fails.2 rfl

/-! ### The file of a run -/

/-- What a reader finds in the document of a run. -/
structure CheckRead (cfg : CheckConfig) (images : List (ImageMessage × Int))
    (report : CheckReport) (members : List Member) : Prop where
  measured : numberAt members "measured_images" = some (images.length : ℚ)
  valid : numberAt members "valid_images" =
    some ((images.countP (imageValid cfg ·.1) : Nat) : ℚ)
  invalid : numberAt members "invalid_images" =
    some ((images.countP (!imageValid cfg ·.1) : Nat) : ℚ)
  passed : ∃ verdict, members.lookup (textBytes "passed") = some (.truth verdict) ∧
    (verdict = true ↔ Passes cfg images)
  rate : ∃ rate, numberAt members "receive_rate_hz" = some rate ∧
    |rate - report.receiveRateHz| ≤ 1 / (2 * 10 ^ 6)

theorem throughputMembers_read {cfg : CheckConfig} {double : ℚ → ℚ}
    {images : List (ImageMessage × Int)} {report : CheckReport}
    (sound : report.Sound cfg double images) :
    CheckRead cfg images report (throughputMembers cfg report) := by
  have lookup : ∀ (k : Nat) (member : Member),
      (throughputMembers cfg report)[k]? = some member →
      (throughputMembers cfg report).lookup member.1 = some member.2 := by
    intro k member there
    exact lookup_of_mem (throughputKeys cfg report).2 (List.mem_of_getElem? there)
  have number : ∀ (k : Nat) (key : String) (value : ℚ),
      (throughputMembers cfg report)[k]? = some (textBytes key, .number value) →
      numberAt (throughputMembers cfg report) key = some value := by
    intro k key value there
    rw [numberAt, lookup k _ there]
  refine ⟨?_, ?_, ?_, ⟨report.passed, lookup 16 _ rfl, sound.passed⟩,
    ⟨_, number 11 _ _ rfl, abs_fixedValue_sub_le 6 _⟩⟩
  · rw [← sound.measured]
    exact number 6 _ _ rfl
  · rw [← sound.valid]
    exact number 7 _ _ rfl
  · rw [← sound.invalid]
    exact number 8 _ _ rfl

/-- What a run that ended leaves of its only report. Where the file is named, its directory exists
or is made and its temporary file can be opened, the target holds its old content, nothing or what
was flushed of one document at every moment, and the document in the end if it was flushed and
renamed; else the target is never touched. A reader finds in the document the images of the
window, the verdict, and the rate up to half of its last printed place. -/
theorem imageThroughput_file (cfg : CheckConfig) (env : CheckEnv) (startTime : Int)
    (events : List CheckEvent) (ordered : (events.map CheckEvent.now).Pairwise (· ≤ ·))
    (ended : Ended cfg env.double startTime events)
    (topic : ShortControls (textBytes cfg.topic))
    (encoding : ShortControls (textBytes cfg.expectedEncoding)) :
    ∃ report members outcome, (runCheck cfg env startTime events).reports = [report] ∧
      report.Sound cfg env.double (inWindow cfg env.double startTime events) ∧
      read (throughputJson cfg report) = some members ∧
      CheckRead cfg (inWindow cfg env.double startTime events) report members ∧
      (runCheck cfg env startTime events).writing = some outcome ∧
      (¬ Publishes cfg.outputPath env.calls →
        (∀ now ∈ outcome.moments, now cfg.outputPath = env.files cfg.outputPath) ∧
        outcome.final cfg.outputPath = env.files cfg.outputPath) ∧
      (Publishes cfg.outputPath env.calls →
        (∀ now ∈ outcome.moments, now cfg.outputPath = env.files cfg.outputPath ∨
          now cfg.outputPath = none ∨
          now cfg.outputPath = some ((throughputJson cfg report).take env.calls.flushed)) ∧
        (env.calls.rename = none → (throughputJson cfg report).length ≤ env.calls.flushed →
          (outcome.final cfg.outputPath).bind read = some members)) := by
  have inv : CheckInv cfg env startTime events (runCheck cfg env startTime events) :=
    runCheck_inv ordered
  obtain ⟨report, warmupImages, made, reports, _, written⟩ :=
    inv.reported (inv.finished.mpr ended)
  have sound : report.Sound cfg env.double (inWindow cfg env.double startTime events) := by
    rw [made]
    exact makeReport_sound ordered inv.counts warmupImages
  have found := read_throughputJson topic encoding report
  refine ⟨report, throughputMembers cfg report, _, reports, sound,
    found, throughputMembers_read sound, written, fun unpublished => ?_, fun publishes => ?_⟩
  · have kept : wp (writeJson cfg.outputPath (throughputJson cfg report) env.calls)
        (fun now => now cfg.outputPath = env.files cfg.outputPath)
        (fun _ after => after cfg.outputPath = env.files cfg.outputPath)
        (fun _ after => after cfg.outputPath = env.files cfg.outputPath) env.files :=
      wp_writeJson_unpublished unpublished rfl fun _ => rfl
    exact ⟨kept.moments, wp_final kept⟩
  · have moments := (wp_writeJson (fun content => content = env.files cfg.outputPath ∨
        content = none ∨ content = some ((throughputJson cfg report).take env.calls.flushed))
      (· = leftAt env.files cfg.outputPath (throughputJson cfg report) env.calls)
      (fun _ after => after cfg.outputPath =
        leftAt env.files cfg.outputPath (throughputJson cfg report) env.calls) publishes.named
      publishes.directories).mpr
        ⟨fun _ => ⟨.inl rfl, fun _ => .inr (.inl rfl), fun _ => .inr (.inr rfl)⟩, rfl⟩
    refine ⟨moments.moments, fun renamed flushed => ?_⟩
    rw [wp_final moments, leftAt, if_pos publishes.opened, if_pos renamed,
      List.take_of_length_le flushed]
    exact found

/-- The report over `pairEvents`. -/
def pairReport : CheckReport where
  warmupImages := 1
  measuredImages := 2
  validImages := 2
  invalidImages := 0
  totalBytes := 8
  callbackSpanSeconds := 1 / 2
  receiveRateHz := 2
  windowRateHz := 2
  passed := true

/-- `imageThroughput_file` over `pairEvents`, whose document replaces no file. -/
theorem imageThroughput_file_pair : ∃ members outcome,
    (runCheck pairCheck quietCheck 0 pairEvents).writing = some outcome ∧
      (outcome.final "results/check.json").bind read = some members ∧
      numberAt members "measured_images" = some 2 ∧
      members.lookup (textBytes "passed") = some (.truth true) := by
  have ended : Ended pairCheck id 0 pairEvents :=
    ⟨2000000000, by simp [pairEvents], by decide +kernel⟩
  obtain ⟨report, members, outcome, reports, -, found, finds, written, -, published⟩ :=
    imageThroughput_file pairCheck quietCheck 0 pairEvents (by decide) ended
      (fun ch member => by revert ch; decide +kernel)
      (fun ch member => by revert ch; decide +kernel)
  have made : (runCheck pairCheck quietCheck 0 pairEvents).reports = [pairReport] := by
    decide +kernel
  obtain rfl : report = pairReport := List.singleton_inj.mp (reports.symm.trans made)
  have publishes : Publishes pairCheck.outputPath quietCheck.calls :=
    ⟨by decide, fun _ => rfl, rfl⟩
  obtain ⟨verdict, passed, isPass⟩ := finds.passed
  have passes : verdict = true := isPass.mpr ⟨by decide +kernel, by decide +kernel⟩
  refine ⟨members, outcome, written, (published publishes).2 rfl (by decide +kernel), ?_, ?_⟩
  · rw [finds.measured]
    decide +kernel
  · rw [passed, passes]

end V4l2Capture.Diagnostics
