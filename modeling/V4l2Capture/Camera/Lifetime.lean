import V4l2Capture.Camera.Operations

/-!
# The camera of the program

`main` sets up one camera, and `run_pipeline` rebuilds it in place: a temporary camera is
moved into it and then initialised step by step. `cameraProgram_sole` says that whatever
fails on the way, the one camera records all that is open and mapped, and that nothing is
left behind the last destructor.
-/
namespace V4l2Capture.Camera.Device

open Traced Program

/-- The settings that concern the camera. -/
structure CameraConfig where
  device : String
  listFormats : Bool
  width : Option UInt32
  height : Option UInt32
  pixelFormat : Option (List UInt8)
  mmapBuffers : Option UInt32

/-- The outcomes of the system calls of one initialisation. -/
structure SetupCalls where
  opened : Option String
  querycap : Option String
  enumFmt : Option String
  format : SetFormatCalls
  init : InitCalls
  streamon : Option String

/-- The camera that `main` declares, and the temporary one of a rebuild. -/
def current : CameraId := 0

def temporary : CameraId := 1

def initializePipelineCamera (camera : CameraId) (config : CameraConfig) (calls : SetupCalls) :
    Operation Unit :=
  match config.width, config.height, config.pixelFormat, config.mmapBuffers with
  | some width, some height, some pixelFormat, some mmapBuffers => do
    openDevice camera calls.opened
    queryCapability camera calls.querycap
    setFormat camera width height pixelFormat calls.format
    initMmapBuffers camera mmapBuffers calls.init
    startStreaming camera calls.streamon
  | _, _, _, _ =>
    fail "Pipeline camera initialization requires width, height, format and mmap_buffers"

/-- `camera = CameraDevice(path)` and the initialisation behind it. -/
def rebuildAttempt (config : CameraConfig) (calls : SetupCalls) : Operation Unit := do
  construct temporary config.device
  moveAssign current temporary
  destroy temporary
  initializePipelineCamera current config calls

/-- What the producer does with the camera. -/
inductive PipelineEvent where
  | rebuild (calls : SetupCalls)
  | capture (calls : CaptureCalls)

/-- The producer catches what is thrown, to try again or to end the pipeline. -/
def PipelineEvent.run (config : CameraConfig) : PipelineEvent → Operation Unit
  | rebuild calls => (rebuildAttempt config calls).orElse fun _ => pure ()
  | capture calls => Program.orElse
      (do let _ ← captureFrameCopy current calls; pure ()) fun _ => pure ()

/-! The steps of `main` that depend on the settings. -/

def listFormatsIfAsked (config : CameraConfig) (calls : SetupCalls) : Operation Unit :=
  if config.listFormats then listFormats current calls.enumFmt else pure ()

def setFormatIfGiven (config : CameraConfig) (calls : SetupCalls) : Operation Unit :=
  match config.width, config.height, config.pixelFormat with
  | some width, some height, some pixelFormat =>
    setFormat current width height pixelFormat calls.format
  | _, _, _ => pure ()

def initMmapBuffersIfGiven (config : CameraConfig) (calls : SetupCalls) : Operation Unit :=
  match config.mmapBuffers with
  | some mmapBuffers => initMmapBuffers current mmapBuffers calls.init
  | none => pure ()

/-- The part of `main` that has a camera, when it runs the pipeline. The output directory is
prepared in between, and the pipeline ends with an exception or without. -/
def useCamera (config : CameraConfig) (calls : SetupCalls) (prepared : Option String)
    (events : List PipelineEvent) (ended : Option String) : Operation Unit := do
  openDevice current calls.opened
  queryCapability current calls.querycap
  listFormatsIfAsked config calls
  setFormatIfGiven config calls
  initMmapBuffersIfGiven config calls
  check prepared ""
  startStreaming current calls.streamon
  forEach (PipelineEvent.run config) events
  check ended ""
  stopStreaming current

def cameraProgram (config : CameraConfig) (calls : SetupCalls) (prepared : Option String)
    (events : List PipelineEvent) (ended : Option String) : Operation Unit := do
  construct current config.device
  (useCamera config calls prepared events ended).andFinally (destroy current)

/-! ### One owner -/

/-- At most one descriptor is open, the one of the camera; every mapping is recorded in its
buffers; nothing was closed or unmapped twice. -/
structure SoleCamera (w : World) : Prop where
  oneDescriptor : w.descriptors.live.length ≤ 1
  descriptor : ∀ fd ∈ w.descriptors.live, (w.cameras current).fd = some fd
  mapping : ∀ start ∈ w.mappings.live,
    ∃ buffer ∈ (w.cameras current).buffers, buffer.start = some start
  closedOnce : w.descriptors.released.Nodup
  unmappedOnce : w.mappings.released.Nodup

/-- Nothing is open or mapped. -/
def AllReleased (w : World) : Prop :=
  w.descriptors.live = [] ∧ w.mappings.live = []

abbrev Kept (w : World) : Prop := Owned True current w

theorem Owned.soleCamera {w : World} (kept : Kept w) : SoleCamera w := by
  have descriptor : ∀ fd ∈ w.descriptors.live, (w.cameras current).fd = some fd := by
    intro fd live
    obtain ⟨camera, rfl, holds⟩ := kept.soleDescriptors trivial fd live
    exact holds
  constructor
  · -- Two open descriptors would both be the one of the camera.
    match all : w.descriptors.live with
    | [] => exact Nat.zero_le 1
    | [fd] => exact Nat.le_refl 1
    | fd :: fd' :: rest =>
      have first := descriptor fd (by simp [all])
      have second := descriptor fd' (by simp [all])
      cases first.symm.trans second
      have distinct := kept.descriptors.live_nodup
      simp [all] at distinct
  · exact descriptor
  · intro start live
    obtain ⟨⟨camera, i⟩, rfl, holds⟩ := kept.soleMappings trivial start live
    have inRange : i < (w.cameras current).buffers.length := by
      by_contra beyond
      rw [World.startOf, World.bufferAt, List.getD_eq_default _ _ (Nat.le_of_not_lt beyond)]
        at holds
      cases holds
    refine ⟨(w.cameras current).buffers[i], List.getElem_mem inRange, ?_⟩
    rwa [World.startOf, World.bufferAt, List.getD_eq_getElem _ _ inRange] at holds
  · exact kept.descriptors.released_nodup
  · exact kept.mappings.released_nodup

/-- What another camera recorded would be recorded twice. -/
theorem Owned.free_of_ne {w : World} {camera : CameraId} (kept : Kept w)
    (distinct : camera ≠ current) : w.Free camera := by
  constructor
  · apply Option.eq_none_iff_forall_ne_some.mpr
    intro fd holds
    obtain ⟨keeper, rfl, sole⟩ :=
      kept.soleDescriptors trivial fd (kept.descriptors.holdsLive camera fd holds)
    exact distinct (kept.descriptors.unique camera current fd holds sole)
  · intro i
    apply Option.eq_none_iff_forall_ne_some.mpr
    intro start holds
    obtain ⟨⟨keeper, j⟩, rfl, sole⟩ :=
      kept.soleMappings trivial start (kept.mappings.holdsLive (camera, i) start holds)
    have same := kept.mappings.unique (camera, i) (current, j) start holds sole
    exact distinct (congrArg Prod.fst same)

theorem Owned.allReleased {w : World} (kept : Kept w) (free : w.Free current) : AllReleased w := by
  constructor
  · apply (kept.soleDescriptors trivial).live_eq_nil
    rintro _ rfl
    exact free.1
  · apply (kept.soleMappings trivial).live_eq_nil
    rintro ⟨_, i⟩ rfl
    exact free.2 i

/-! ### Every step keeps the owner -/

/-- The operation keeps the one owner at each of its moments, however it ends. -/
def Keeps {α : Type} (p : Operation α) : Prop :=
  ∀ w, Kept w → wp p Kept (fun _ => Kept) (fun _ => Kept) w

section Keeps

variable {α β : Type} {p : Operation α} {f : α → Operation β} {w : World}

theorem Keeps.bind (first : Keeps p) (second : ∀ a, Keeps (f a)) : Keeps (p >>= f) := by
  intro w kept
  apply wp_seq (first w kept)
  intro a m kept'
  exact second a m kept'

theorem keeps_pure (a : α) : Keeps (pure a : Operation α) :=
  fun _ kept => (wp_pure a).mpr kept

theorem keeps_fail (message : String) : Keeps (fail message : Operation α) :=
  fun _ kept => (wp_fail message).mpr kept

theorem keeps_of_unchanged
    (spec : ∀ w, wp p Kept (fun _ w' => w' = w) (fun _ w' => w' = w) w) : Keeps p := by
  intro w kept
  refine wp_ends (spec w) ?_ ?_
  · rintro _ _ rfl
    exact kept
  · rintro _ _ rfl
    exact kept

theorem keeps_check {failed : Option String} {text : String} : Keeps (check failed text) :=
  fun _ kept => wp_check (fun _ => kept) fun _ _ => kept

theorem Keeps.orElse {handler : String → Operation α} (body : Keeps p)
    (handled : ∀ message, Keeps (handler message)) : Keeps (p.orElse handler) := by
  intro w kept
  apply wp_orElse
  refine wp_ends (body w kept) (fun _ _ ended => ended) ?_
  intro message m kept'
  exact handled message m kept'

theorem keeps_queryCapability {querycap : Option String} :
    Keeps (queryCapability current querycap) :=
  keeps_of_unchanged fun _ => wp_queryCapability

theorem keeps_setFormat {width height : UInt32} {pixelFormat : List UInt8}
    {calls : SetFormatCalls} : Keeps (setFormat current width height pixelFormat calls) := by
  intro w kept
  refine wp_ends (wp_setFormat kept) ?_ ?_
  · rintro _ w' ⟨_, changed⟩
    exact changed.owned
  · rintro _ _ rfl
    exact kept

theorem keeps_initMmapBuffers {requested : UInt32} {calls : InitCalls} :
    Keeps (initMmapBuffers current requested calls) := by
  intro w kept
  have ends : ∀ w', Initialised True current current requested calls w w' → Kept w' := by
    rintro w' (⟨rfl, _⟩ | ⟨_, _, changed, _⟩)
    · exact kept
    · exact changed.owned
  exact wp_ends (wp_initMmapBuffers kept fun _ => rfl)
    (fun _ => ends) fun _ => ends

theorem keeps_startStreaming {streamon : Option String} :
    Keeps (startStreaming current streamon) := by
  intro w kept
  refine wp_ends (wp_startStreaming kept) ?_ ?_
  · rintro _ w' (⟨rfl, _⟩ | ⟨_, changed⟩)
    · exact kept
    · exact changed.owned
  · rintro _ w' ⟨rfl, _⟩
    exact kept

theorem keeps_stopStreaming : Keeps (stopStreaming current) := by
  intro w kept
  apply wp_post (wp_stopStreaming kept)
  intro _ w' changed
  exact changed.owned

/-- The device is opened where no descriptor can get lost. -/
theorem wp_openDevice_keeps {opened : Option String} {rest : Operation Unit} (kept : Kept w)
    (closed : w.fdOf current = none) (keeps : Keeps rest) :
    wp (do openDevice current opened; rest) Kept (fun _ => Kept) (fun _ => Kept) w := by
  apply (wp_bind _).mpr
  refine wp_ends (wp_openDevice kept fun _ => ⟨rfl, closed⟩) ?_ ?_
  · rintro _ w' ⟨_, changed⟩
    exact keeps w' changed.owned
  · rintro _ w' ⟨_, changed⟩
    exact changed.owned

theorem wp_initializePipelineCamera {config : CameraConfig} {calls : SetupCalls} (kept : Kept w)
    (closed : w.fdOf current = none) :
    wp (initializePipelineCamera current config calls) Kept (fun _ => Kept) (fun _ => Kept) w := by
  rw [initializePipelineCamera]
  split
  · apply wp_openDevice_keeps kept closed
    apply keeps_queryCapability.bind fun _ => ?_
    apply keeps_setFormat.bind fun _ => ?_
    exact keeps_initMmapBuffers.bind fun _ => keeps_startStreaming
  · exact keeps_fail _ w kept

/-- The old camera gives up all it had before the new one opens the device. -/
theorem keeps_rebuildAttempt {config : CameraConfig} {calls : SetupCalls} :
    Keeps (rebuildAttempt config calls) := by
  intro w kept
  have apart : temporary ≠ current := by decide
  apply wp_seq (wp_modify (kept.construct fun _ => kept.free_of_ne apart))
  intro _ w₁ constructed
  apply wp_seq (wp_moveAssign constructed.owned apart.symm fun _ => apart.symm)
  rintro _ w₂ ⟨kept₂, cameras⟩
  apply wp_seq (wp_destroy kept₂)
  intro _ w₃ destroyed
  apply wp_initializePipelineCamera destroyed.owned
  -- The temporary camera had no descriptor to hand over, so the current one has none now.
  rw [World.fdOf, destroyed.frame apart.symm, cameras, World.takeOver,
    modify_cameras_of_ne apart.symm, modify_cameras_self, constructed.self]
  rfl

theorem keeps_event {config : CameraConfig} (event : PipelineEvent) :
    Keeps (event.run config) := by
  cases event with
  | rebuild calls => exact keeps_rebuildAttempt.orElse fun _ => keeps_pure ()
  | capture calls =>
    have captures : Keeps (captureFrameCopy current calls) :=
      keeps_of_unchanged fun _ => wp_captureFrameCopy
    exact (captures.bind fun _ => keeps_pure ()).orElse fun _ => keeps_pure ()

theorem keeps_events {config : CameraConfig} (events : List PipelineEvent) :
    Keeps (forEach (PipelineEvent.run config) events) := by
  intro w kept
  apply wp_forEach (fun _ => Kept)
  · intro event rest m kept'
    exact keeps_event event m kept'
  · exact kept

theorem keeps_listFormatsIfAsked {config : CameraConfig} {calls : SetupCalls} :
    Keeps (listFormatsIfAsked config calls) := by
  rw [listFormatsIfAsked]
  split
  · exact keeps_of_unchanged fun _ => wp_listFormats
  · exact keeps_pure ()

theorem keeps_setFormatIfGiven {config : CameraConfig} {calls : SetupCalls} :
    Keeps (setFormatIfGiven config calls) := by
  rw [setFormatIfGiven]
  split
  · exact keeps_setFormat
  · exact keeps_pure ()

theorem keeps_initMmapBuffersIfGiven {config : CameraConfig} {calls : SetupCalls} :
    Keeps (initMmapBuffersIfGiven config calls) := by
  rw [initMmapBuffersIfGiven]
  split
  · exact keeps_initMmapBuffers
  · exact keeps_pure ()

theorem wp_useCamera {config : CameraConfig} {calls : SetupCalls} {prepared ended : Option String}
    {events : List PipelineEvent} (kept : Kept w) (closed : w.fdOf current = none) :
    wp (useCamera config calls prepared events ended) Kept (fun _ => Kept) (fun _ => Kept) w := by
  apply wp_openDevice_keeps kept closed
  apply keeps_queryCapability.bind fun _ => ?_
  apply keeps_listFormatsIfAsked.bind fun _ => ?_
  apply keeps_setFormatIfGiven.bind fun _ => ?_
  apply keeps_initMmapBuffersIfGiven.bind fun _ => ?_
  apply keeps_check.bind fun _ => ?_
  apply keeps_startStreaming.bind fun _ => ?_
  apply (keeps_events events).bind fun _ => ?_
  exact keeps_check.bind fun _ => keeps_stopStreaming

end Keeps

/-- Whatever fails and however often the camera is rebuilt, it is the sole owner of one open
descriptor and of all mappings at every moment, and its destructor leaves nothing behind. -/
theorem cameraProgram_sole (config : CameraConfig) (calls : SetupCalls) (prepared : Option String)
    (events : List PipelineEvent) (ended : Option String) :
    wp (cameraProgram config calls prepared events ended) SoleCamera (fun _ => AllReleased)
      (fun _ => AllReleased) World.start := by
  have start : Kept World.start := owned_start
  -- The destructor runs on both ways out of the block.
  have final : ∀ w, Kept w → wp (destroy current) Kept (fun _ => AllReleased)
      (fun _ _ => False) w := by
    intro w kept
    apply wp_post (wp_destroy kept)
    intro _ w' destroyed
    exact destroyed.owned.allReleased destroyed.free
  have whole : wp (cameraProgram config calls prepared events ended) Kept (fun _ => AllReleased)
      (fun _ => AllReleased) World.start := by
    apply wp_seq (wp_modify (start.construct fun _ => ⟨rfl, fun _ => rfl⟩))
    intro _ w constructed
    apply wp_andFinally
    have closed : w.fdOf current = none := by
      rw [World.fdOf, constructed.self]
      rfl
    refine wp_ends (wp_useCamera constructed.owned closed) ?_ ?_
    · intro _ m kept
      exact final m kept
    · intro _ m kept
      exact final m kept
  exact wp_mono whole (fun _ kept => kept.soleCamera) (fun _ _ released => released)
    fun _ _ released => released

end V4l2Capture.Camera.Device
