import V4l2Capture.Camera.Operations
import V4l2Capture.Library.Calls

/-!
# Streaming cameras

A camera that streams should have an open descriptor and live buffers only. A list of calls
of the public operations makes the cameras of a program; `streaming_sound_iff` says which
calls, with which outcomes of the system calls, keep that in every state of the list.
-/
namespace V4l2Capture.Camera.Device

open Traced Program

/-- A call of a public operation with the outcomes of the system calls in it. -/
inductive Call where
  | construct (camera : CameraId) (devicePath : String)
  | moveConstruct (camera other : CameraId)
  | moveAssign (camera other : CameraId)
  | destroy (camera : CameraId)
  | openDevice (camera : CameraId) (opened : Option String)
  | queryCapability (camera : CameraId) (querycap : Option String)
  | listFormats (camera : CameraId) (enumFmt : Option String)
  | setFormat (camera : CameraId) (width height : UInt32) (pixelFormat : List UInt8)
      (calls : SetFormatCalls)
  | initMmapBuffers (camera : CameraId) (requested : UInt32) (calls : InitCalls)
  | startStreaming (camera : CameraId) (streamon : Option String)
  | stopStreaming (camera : CameraId)
  | captureOneFrame (camera : CameraId) (ended : Option String)
  | captureOneFrameToFiles (camera : CameraId) (ended : Option String)
  | captureFrames (camera : CameraId) (ended : Option String)
  | captureFrameCopy (camera : CameraId) (calls : CaptureCalls)

namespace Call

def run : Call → Operation Unit
  | construct camera devicePath => Device.construct camera devicePath
  | moveConstruct camera other => Device.moveConstruct camera other
  | moveAssign camera other => Device.moveAssign camera other
  | destroy camera => Device.destroy camera
  | openDevice camera opened => Device.openDevice camera opened
  | queryCapability camera querycap => Device.queryCapability camera querycap
  | listFormats camera enumFmt => Device.listFormats camera enumFmt
  | setFormat camera width height pixelFormat calls =>
    Device.setFormat camera width height pixelFormat calls
  | initMmapBuffers camera requested calls => Device.initMmapBuffers camera requested calls
  | startStreaming camera streamon => Device.startStreaming camera streamon
  | stopStreaming camera => Device.stopStreaming camera
  | captureOneFrame camera ended => Device.captureOneFrame camera ended
  | captureOneFrameToFiles camera ended => Device.captureOneFrameToFiles camera ended
  | captureFrames camera ended => Device.captureFrames camera ended
  | captureFrameCopy camera calls => do
    let _ ← Device.captureFrameCopy camera calls
    pure ()

/-- The caller catches what the operation throws. -/
def make (w : World) (call : Call) : Except String Unit × World :=
  ((call.run w).result, (call.run w).final)

/-- The calls that keep streaming cameras sound. A camera that streams is not opened again in
vain and gets new buffers only if all of them are mapped, and a stream is turned on only
where all buffers are mapped. -/
def Safe (w : World) : Call → Prop
  | openDevice camera opened => (w.cameras camera).streaming = true → opened = none
  | initMmapBuffers camera requested calls => (w.cameras camera).streaming = true →
      (w.cameras camera).AllowsInit requested → calls.MapsAll requested
  | startStreaming camera streamon => (w.cameras camera).TurnsOn streamon →
      ∀ buffer ∈ (w.cameras camera).buffers, buffer.start ≠ none
  | _ => True

end Call

/-- The descriptor of a camera that streams is open, and it has buffers, each with a live
mapping of positive length. -/
def StreamingSound (w : World) : Prop :=
  ∀ camera, (w.cameras camera).streaming = true →
    (∃ fd ∈ w.descriptors.live, (w.cameras camera).fd = some fd) ∧
      (w.cameras camera).buffers ≠ [] ∧
      ∀ buffer ∈ (w.cameras camera).buffers, 0 < buffer.length ∧
        ∃ start ∈ w.mappings.live, buffer.start = some start

/-- What is left of it for the members of one camera, where what is recorded is live. -/
def Members.Sound (members : Members) : Prop :=
  members.streaming = true → members.fd ≠ none ∧ Mapped members.buffers

section Steps

variable {camera other : CameraId} {w w' : World} {f : Members → Members}

/-- Ownership without a keeper: nobody says that all that is live is recorded. -/
abbrev Recorded (w : World) : Prop := Owned False 0 w

theorem streamingSound_iff (recorded : Recorded w) :
    StreamingSound w ↔ ∀ camera, (w.cameras camera).Sound := by
  apply forall_congr'
  intro camera
  apply imp_congr_right
  intro _
  constructor
  · rintro ⟨⟨fd, _, opened⟩, nonempty, mapped⟩
    refine ⟨by simp [opened], nonempty, ?_⟩
    intro buffer member
    obtain ⟨_, start, _, holds⟩ := mapped buffer member
    simp [holds]
  · rintro ⟨opened, nonempty, mapped⟩
    obtain ⟨fd, holds⟩ := Option.ne_none_iff_exists'.mp opened
    refine ⟨⟨fd, recorded.descriptors.holdsLive camera fd holds, holds⟩, nonempty, ?_⟩
    intro buffer member
    obtain ⟨start, records⟩ := Option.ne_none_iff_exists'.mp (mapped buffer member)
    obtain ⟨i, inRange, rfl⟩ := List.mem_iff_getElem.mp member
    have same : w.bufferAt (camera, i) = (w.cameras camera).buffers[i] :=
      List.getD_eq_getElem _ _ inRange
    have starts : w.startOf (camera, i) = some start := by rw [World.startOf, same, records]
    refine ⟨?_, start, recorded.mappings.holdsLive (camera, i) start starts, records⟩
    rw [← same]
    exact recorded.lengths (camera, i) (by simp [starts])

/-- The cameras that were left alone stay sound, so the one that changed decides. -/
theorem Changed.streamingSound_iff (changed : Changed False 0 camera f w w')
    (sound : ∀ camera, (w.cameras camera).Sound) :
    StreamingSound w' ↔ (f (w.cameras camera)).Sound := by
  rw [Device.streamingSound_iff changed.owned]
  constructor
  · intro all
    exact changed.self ▸ all camera
  · intro here other
    by_cases same : other = camera
    · rw [same, changed.self]
      exact here
    · rw [changed.frame same]
      exact sound other

theorem takeOver_sound (sound : ∀ camera, (w.cameras camera).Sound) (c : CameraId) :
    ((w.takeOver camera other).cameras c).Sound := by
  by_cases second : c = other
  · rw [second, World.takeOver, modify_cameras_self]
    intro on
    cases on
  · rw [World.takeOver, modify_cameras_of_ne second]
    by_cases first : c = camera
    · rw [first, modify_cameras_self]
      exact sound other
    · rw [modify_cameras_of_ne first]
      exact sound c

/-- How every call ends: what is recorded is live, and the cameras are sound exactly if the
call was safe. -/
def Call.Outcome (w : World) (call : Call) (w' : World) : Prop :=
  Recorded w' ∧ (StreamingSound w' ↔ call.Safe w)

/-- The calls that write no member. -/
theorem wp_quiet {α : Type} {p : Operation α} (call : Call) (safe : call.Safe w)
    (recorded : Recorded w) (sound : StreamingSound w)
    (spec : wp p Recorded (fun _ w' => w' = w) (fun _ w' => w' = w) w) :
    wp p Recorded (fun _ => call.Outcome w) (fun _ => call.Outcome w) w := by
  refine wp_ends spec ?_ ?_
  · rintro _ _ rfl
    exact ⟨recorded, iff_of_true sound safe⟩
  · rintro _ _ rfl
    exact ⟨recorded, iff_of_true sound safe⟩

/-- The calls that leave a sound camera sound, whatever the outcomes. -/
theorem Changed.outcome {call : Call} (changed : Changed False 0 camera f w w')
    (sound : ∀ camera, (w.cameras camera).Sound) (safe : call.Safe w)
    (kept : (f (w.cameras camera)).Sound) : call.Outcome w w' :=
  ⟨changed.owned, iff_of_true ((changed.streamingSound_iff sound).mpr kept) safe⟩

/-- A stream that is stopped or destroyed is off, as its descriptor was open. -/
theorem Members.Sound.stopped {members : Members} (sound : members.Sound) :
    members.stopped.streaming = false := by
  rw [Members.stopped]
  cases on : members.streaming with
  | false => rfl
  | true =>
    have opened := (sound on).1
    simpa [Option.isSome_iff_ne_none] using opened

theorem Members.sound_of_off {members : Members} (off : members.streaming = false) :
    members.Sound := by
  intro on
  rw [off] at on
  cases on

theorem wp_openDevice_call {opened : Option String} (recorded : Recorded w)
    (sound : ∀ camera, (w.cameras camera).Sound) :
    wp (openDevice camera opened) Recorded (fun _ => (Call.openDevice camera opened).Outcome w)
      (fun _ => (Call.openDevice camera opened).Outcome w) w := by
  refine wp_ends (wp_openDevice recorded False.elim) ?_ ?_
  · rintro _ w' ⟨succeeded, changed⟩
    have safe : (Call.openDevice camera opened).Safe w := fun _ => succeeded
    apply changed.outcome sound safe
    intro on
    exact ⟨by simp, (sound camera on).2⟩
  · rintro _ w' ⟨failed, changed⟩
    refine ⟨changed.owned, ?_⟩
    rw [changed.streamingSound_iff sound]
    -- The failure leaves no descriptor, so the camera must not be streaming.
    constructor
    · intro closed on
      exact absurd rfl (closed on).1
    · intro safe on
      exact absurd (safe on) failed

theorem wp_initMmapBuffers_call {requested : UInt32} {calls : InitCalls} (recorded : Recorded w)
    (sound : ∀ camera, (w.cameras camera).Sound) :
    wp (initMmapBuffers camera requested calls) Recorded
      (fun _ => (Call.initMmapBuffers camera requested calls).Outcome w)
      (fun _ => (Call.initMmapBuffers camera requested calls).Outcome w) w := by
  have ends : ∀ w', Initialised False 0 camera requested calls w w' →
      (Call.initMmapBuffers camera requested calls).Outcome w w' := by
    rintro w' (⟨rfl, refused⟩ | ⟨allows, buffers, changed, same⟩)
    · exact ⟨recorded, iff_of_true ((streamingSound_iff recorded).mpr sound)
        fun _ allows => absurd allows refused⟩
    -- The old buffers are gone, whatever comes next.
    · refine ⟨changed.owned, ?_⟩
      rw [changed.streamingSound_iff sound]
      constructor
      · intro after on _
        exact same.mp (after on).2
      · intro safe on
        exact ⟨allows.opened, same.mpr (safe on allows)⟩
  exact wp_ends (wp_initMmapBuffers recorded False.elim)
    (fun _ => ends) fun _ => ends

theorem wp_startStreaming_call {streamon : Option String} (recorded : Recorded w)
    (sound : ∀ camera, (w.cameras camera).Sound) :
    wp (startStreaming camera streamon) Recorded
      (fun _ => (Call.startStreaming camera streamon).Outcome w)
      (fun _ => (Call.startStreaming camera streamon).Outcome w) w := by
  have idle : ¬ (w.cameras camera).TurnsOn streamon →
      (Call.startStreaming camera streamon).Outcome w w := fun refused =>
    ⟨recorded, iff_of_true ((streamingSound_iff recorded).mpr sound)
      fun turnsOn => absurd turnsOn refused⟩
  refine wp_ends (wp_startStreaming recorded) ?_ ?_
  · rintro _ w' (⟨rfl, refused⟩ | ⟨turnsOn, changed⟩)
    · exact idle refused
    · refine ⟨changed.owned, ?_⟩
      rw [changed.streamingSound_iff sound]
      constructor
      · intro after _
        exact (after rfl).2.2
      · intro safe _
        exact ⟨turnsOn.opened, turnsOn.initialised, safe turnsOn⟩
  · rintro _ w' ⟨rfl, refused⟩
    exact idle refused

theorem wp_call (call : Call) (recorded : Recorded w) (streaming : StreamingSound w) :
    wp call.run Recorded (fun _ => call.Outcome w) (fun _ => call.Outcome w) w := by
  have sound := (streamingSound_iff recorded).mp streaming
  cases call with
  | construct camera devicePath =>
    apply wp_post (wp_modify (recorded.construct False.elim))
    intro _ w' changed
    exact changed.outcome sound trivial (Members.sound_of_off rfl)
  | moveConstruct camera other =>
    have taken : Recorded (w.takeOver camera other) := recorded.takeOver False.elim
    refine (wp_step _).mpr ⟨taken, taken, iff_of_true ?_ trivial⟩
    exact (streamingSound_iff taken).mpr (takeOver_sound sound)
  | moveAssign camera other =>
    by_cases same : camera = other
    · apply wp_quiet (.moveAssign camera other) trivial recorded streaming
      rw [Call.run, moveAssign, if_neg (not_not.mpr same)]
      exact (wp_pure _).mpr rfl
    · apply wp_post (wp_moveAssign recorded same False.elim)
      rintro _ w' ⟨taken, cameras⟩
      refine ⟨taken, iff_of_true ?_ trivial⟩
      rw [streamingSound_iff taken, cameras]
      exact takeOver_sound sound
  | destroy camera =>
    apply wp_post (wp_destroy recorded)
    intro _ w' changed
    exact changed.outcome sound trivial (Members.sound_of_off (sound camera).stopped)
  | openDevice camera opened => exact wp_openDevice_call recorded sound
  | queryCapability camera querycap =>
    exact wp_quiet _ trivial recorded streaming wp_queryCapability
  | listFormats camera enumFmt => exact wp_quiet _ trivial recorded streaming wp_listFormats
  | setFormat camera width height pixelFormat calls =>
    refine wp_ends (wp_setFormat recorded) ?_ ?_
    · rintro _ w' ⟨current, changed⟩
      exact changed.outcome sound trivial (sound camera)
    · rintro _ _ rfl
      exact ⟨recorded, iff_of_true streaming trivial⟩
  | initMmapBuffers camera requested calls => exact wp_initMmapBuffers_call recorded sound
  | startStreaming camera streamon => exact wp_startStreaming_call recorded sound
  | stopStreaming camera =>
    apply wp_post (wp_stopStreaming recorded)
    intro _ w' changed
    exact changed.outcome sound trivial (Members.sound_of_off (sound camera).stopped)
  | captureOneFrame camera ended => exact wp_quiet _ trivial recorded streaming wp_captureOther
  | captureOneFrameToFiles camera ended =>
    exact wp_quiet _ trivial recorded streaming wp_captureOther
  | captureFrames camera ended => exact wp_quiet _ trivial recorded streaming wp_captureOther
  | captureFrameCopy camera calls =>
    apply wp_quiet (.captureFrameCopy camera calls) trivial recorded streaming
    apply wp_seq wp_captureFrameCopy
    rintro _ _ rfl
    exact (wp_pure _).mpr rfl

end Steps

/-- From the start of a program, a streaming camera has an open descriptor and live buffers in
every state exactly if no call turns a stream on, or replaces the buffers or the descriptor
under one, without having them all. -/
theorem streaming_sound_iff (calls : List Call) :
    (∀ before, before <+: calls → StreamingSound (Calls.run Call.make World.start before).2) ↔
      Calls.Admitted Call.make Call.Safe World.start calls := by
  apply Calls.run_good_iff Recorded StreamingSound
  · intro w call recorded sound
    exact wp_final (wp_call call recorded sound)
  · exact owned_start
  · intro camera on
    cases on

/-- The driver grants two buffers, and the second one cannot be mapped. -/
def secondMmapFails : InitCalls where
  reqbufs := fun _ => .ok 2
  buffer := fun index => {
    querybuf := .ok 4096
    mmap := if index = 1 then some "Cannot allocate memory" else none
    qbuf := none }

/-- `init_mmap_buffers` throws and leaves an entry without a mapping, which does not keep
`start_streaming` from turning the stream on. -/
def startsUnmapped : List Call :=
  [.construct 0 "/dev/video0", .openDevice 0 none, .initMmapBuffers 0 2 secondMmapFails,
    .startStreaming 0 none]

theorem not_streamingSound_startsUnmapped :
    ¬ StreamingSound (Calls.run Call.make World.start startsUnmapped).2 := by
  intro sound
  have buffers : ((Calls.run Call.make World.start startsUnmapped).2.cameras 0).buffers =
      [⟨some 0, 4096⟩, .empty] := by
    decide
  have mapped := (sound 0 (by decide)).2.2 .empty (by simp [buffers])
  exact absurd mapped.1 (by decide)

end V4l2Capture.Camera.Device
