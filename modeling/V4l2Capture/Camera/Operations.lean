import V4l2Capture.Camera.Ownership

/-!
# What the operations of a camera do

One specification for each operation: every moment of it keeps the ownership of descriptors
and mappings, and at its end one camera has changed, in a way that the specification names.
-/
namespace V4l2Capture.Camera.Device

open Traced Program

/-! ### Changes of members -/

def Members.stopped (members : Members) : Members :=
  { members with streaming := members.streaming && members.fd.isNone }

def Members.withBuffers (buffers : List MappedBuffer) (members : Members) : Members :=
  { members with buffers := buffers }

def Members.closed (members : Members) : Members :=
  { members with fd := none }

/-- What the destructor leaves of the members. -/
def Members.destroyed (members : Members) : Members :=
  (members.stopped.withBuffers []).closed

def Members.withFormat (current : PixFormat) (members : Members) : Members :=
  { members with
    currentWidth := current.width, currentHeight := current.height,
    currentPixelformat := current.pixelformat, currentSizeimage := current.sizeimage }

/-- There are buffers, and each one has its mapping. -/
def Mapped (buffers : List MappedBuffer) : Prop :=
  buffers ≠ [] ∧ ∀ buffer ∈ buffers, buffer.start ≠ none

/-- The calls that map one buffer succeed. -/
def BufferCalls.Maps (calls : BufferCalls) : Prop :=
  ∃ length, calls.querybuf = .ok length ∧ calls.mmapError length = none

/-- The driver grants buffers, and all of them are mapped. -/
def InitCalls.MapsAll (calls : InitCalls) (requested : UInt32) : Prop :=
  ∃ count, calls.reqbufs requested = .ok count ∧ 2 ≤ count ∧
    ∀ index < count.toNat, (calls.buffer index).Maps

/-- One camera has changed its members by `f`, and the ownership is kept. -/
structure Changed (sole : Prop) (keeper camera : CameraId) (f : Members → Members)
    (w w' : World) : Prop where
  owned : Owned sole keeper w'
  cameras : w'.cameras = (w.modify camera f).cameras

/-- The checks at the start of `init_mmap_buffers` pass. -/
structure Members.AllowsInit (members : Members) (requested : UInt32) : Prop where
  opened : members.fd ≠ none
  positive : requested ≠ 0
  bounded : requested ≤ 32

/-- How `init_mmap_buffers` ends, with or without an exception. Behind its checks all buffers
are mapped exactly if the calls allow it. -/
def Initialised (sole : Prop) (keeper camera : CameraId) (requested : UInt32) (calls : InitCalls)
    (w w' : World) : Prop :=
  w' = w ∧ ¬ (w.cameras camera).AllowsInit requested ∨
    (w.cameras camera).AllowsInit requested ∧
      ∃ buffers, Changed sole keeper camera (Members.withBuffers buffers) w w' ∧
        (Mapped buffers ↔ calls.MapsAll requested)

/-- `start_streaming` gets as far as to turn the stream on. -/
structure Members.TurnsOn (members : Members) (streamon : Option String) : Prop where
  opened : members.fd ≠ none
  initialised : members.buffers ≠ []
  off : members.streaming = false
  accepted : streamon = none

section Specs

variable {sole : Prop} {keeper camera other : CameraId} {w w' w'' : World}
  {f g : Members → Members} {always : World → Prop} {throws : String → World → Prop}

theorem Changed.self (changed : Changed sole keeper camera f w w') :
    w'.cameras camera = f (w.cameras camera) := by
  rw [changed.cameras, modify_cameras_self]

theorem Changed.frame (changed : Changed sole keeper camera f w w') (distinct : other ≠ camera) :
    w'.cameras other = w.cameras other := by
  rw [changed.cameras, modify_cameras_of_ne distinct]

theorem Changed.trans (first : Changed sole keeper camera f w w')
    (second : Changed sole keeper camera g w' w'') :
    Changed sole keeper camera (fun m => g (f m)) w w'' := by
  refine ⟨second.owned, ?_⟩
  rw [second.cameras, World.modify, World.modify]
  simp only [first.self, first.cameras, World.modify, Function.update_idem]

theorem Changed.of_eq (owned : Owned sole keeper w)
    (same : f (w.cameras camera) = w.cameras camera) : Changed sole keeper camera f w w := by
  refine ⟨owned, ?_⟩
  rw [World.modify, same, Function.update_eq_self]

/-- A step that changes members and no resource. -/
theorem wp_modify (owned : Owned sole keeper (w.modify camera f)) :
    wp (step (·.modify camera f)) (Owned sole keeper)
      (fun _ => Changed sole keeper camera f w) throws w :=
  (wp_step _).mpr ⟨owned, owned, rfl⟩

/-! ### Releasing -/

theorem wp_stopStreaming (owned : Owned sole keeper w) :
    wp (stopStreaming camera) (Owned sole keeper)
      (fun _ => Changed sole keeper camera Members.stopped w) throws w := by
  simp only [stopStreaming, wp_bind, wp_read]
  split
  next idle =>
    apply (wp_pure _).mpr
    apply Changed.of_eq owned
    have same : ((w.cameras camera).streaming && (w.cameras camera).fd.isNone) =
        (w.cameras camera).streaming := by
      rcases idle with closed | off
      · simp [closed]
      · simp [off]
    rw [Members.stopped, same]
  next running =>
    have stops : Owned sole keeper (w.modify camera ({ · with streaming := false })) :=
      owned.modify_of_eq rfl rfl
    apply wp_post (wp_modify stops)
    intro _ m changed
    refine ⟨changed.owned, ?_⟩
    rw [changed.cameras]
    simp only [World.modify, Members.stopped]
    have opened : (w.cameras camera).fd.isNone = false := by
      simpa [Option.isSome_iff_ne_none] using fun closed => running (.inl closed)
    rw [opened, Bool.and_false]

theorem wp_closeDevice (owned : Owned sole keeper w) :
    wp (closeDevice camera) (Owned sole keeper)
      (fun _ => Changed sole keeper camera Members.closed w) throws w := by
  simp only [closeDevice, wp_bind, wp_read]
  cases holds : (w.cameras camera).fd with
  | none =>
    apply (wp_pure _).mpr
    apply Changed.of_eq owned
    rw [Members.closed, ← holds]
  | some fd =>
    have closes := owned.closeFd holds
    exact (wp_step _).mpr ⟨closes, closes, rfl⟩

/-- The body of the loop empties one entry, whether or not there was a mapping. -/
theorem wp_releaseBuffer {index : Nat} (owned : Owned sole keeper w)
    (inRange : index < (w.cameras camera).buffers.length) :
    wp (releaseBuffer camera index) (Owned sole keeper)
      (fun _ => Changed sole keeper camera (setBuffer index .empty) w) throws w := by
  simp only [releaseBuffer, wp_bind, wp_read]
  have entry : w.bufferAt (camera, index) = (w.cameras camera).buffers.getD index .empty := rfl
  rw [← entry]
  cases holds : (w.bufferAt (camera, index)).start with
  | none =>
    apply wp_modify
    apply owned.modify rfl
    intro i
    by_cases here : i = index
    · right
      subst i
      exact ⟨by simp [setBuffer, List.getD, inRange, MappedBuffer.empty], holds⟩
    · left
      simp [setBuffer, World.bufferAt, List.getD, List.getElem?_set_ne (Ne.symm here)]
  | some start =>
    have positive := owned.lengths (camera, index) (by rw [World.startOf, holds]; simp)
    have releases := owned.munmap inRange holds
    simp only [positive, if_true]
    exact (wp_step _).mpr ⟨releases, releases, rfl⟩

theorem wp_releaseMmapBuffers (owned : Owned sole keeper w) :
    wp (releaseMmapBuffers camera) (Owned sole keeper)
      (fun _ => Changed sole keeper camera (Members.withBuffers []) w) throws w := by
  simp only [releaseMmapBuffers, wp_bind, wp_read]
  -- Between two rounds the entries that are not to come any more hold no mapping.
  refine wp_post (wp_forEach (fun rest w' => (∀ i ∈ rest, i < (w.cameras camera).buffers.length) ∧
    ∃ buffers, Changed sole keeper camera (Members.withBuffers buffers) w w' ∧
      buffers.length = (w.cameras camera).buffers.length ∧
      ∀ i, i ∉ rest → (buffers.getD i .empty).start = none) ?round _ ?start) ?last
  case start =>
    refine ⟨fun i member => List.mem_range.mp member, (w.cameras camera).buffers,
      .of_eq owned rfl, rfl, ?_⟩
    intro i outside
    have beyond : (w.cameras camera).buffers.length ≤ i := by simpa using outside
    rw [List.getD_eq_default _ _ beyond]
    rfl
  case round =>
    rintro i rest w' ⟨within, buffers, changed, length, emptied⟩
    have inRange : i < (w'.cameras camera).buffers.length := by
      rw [changed.self, Members.withBuffers, length]
      exact within i List.mem_cons_self
    apply wp_post (wp_releaseBuffer changed.owned inRange)
    intro _ w'' released
    refine ⟨fun j member => within j (List.mem_cons_of_mem _ member), buffers.set i .empty,
      changed.trans released, by simp [length], ?_⟩
    intro j outside
    by_cases here : j = i
    · subst j
      simp [List.getD, List.getElem?_set, MappedBuffer.empty]
      split <;> rfl
    · have before := emptied j (by simp [here, outside])
      simpa [List.getD, List.getElem?_set_ne (Ne.symm here)] using before
  case last =>
    rintro _ w' ⟨_, buffers, changed, length, emptied⟩
    have clears : Owned sole keeper (w'.modify camera ({ · with buffers := [] })) := by
      apply changed.owned.modify rfl
      intro i
      right
      refine ⟨by simp [MappedBuffer.empty], ?_⟩
      rw [World.startOf, World.bufferAt, changed.self]
      exact emptied i List.not_mem_nil
    apply wp_post (wp_modify clears)
    intro _ w'' cleared
    exact changed.trans cleared

theorem wp_destroy (owned : Owned sole keeper w) :
    wp (destroy camera) (Owned sole keeper)
      (fun _ => Changed sole keeper camera Members.destroyed w) throws w := by
  apply wp_seq (wp_stopStreaming owned)
  intro _ w₁ stopped
  apply wp_seq (wp_releaseMmapBuffers stopped.owned)
  intro _ w₂ released
  apply wp_post (wp_closeDevice released.owned)
  intro _ w₃ closed
  exact (stopped.trans released).trans closed

theorem Changed.free (changed : Changed sole keeper camera Members.destroyed w w') :
    w'.Free camera := by
  constructor
  · rw [World.fdOf, changed.self]
    rfl
  · intro i
    rw [World.startOf, World.bufferAt, changed.self]
    simp [Members.destroyed, Members.withBuffers, Members.closed, MappedBuffer.empty]

/-- The camera that takes over has released what it held, so nothing is lost. -/
theorem wp_moveAssign (owned : Owned sole keeper w) (distinct : camera ≠ other)
    (elsewhere : sole → keeper ≠ other) :
    wp (moveAssign camera other) (Owned sole keeper)
      (fun _ w' => Owned sole keeper w' ∧ w'.cameras = (w.takeOver camera other).cameras)
      throws w := by
  rw [moveAssign, if_pos distinct]
  apply wp_seq (wp_stopStreaming owned)
  intro _ w₁ stopped
  apply wp_seq (wp_releaseMmapBuffers stopped.owned)
  intro _ w₂ emptied
  apply wp_seq (wp_closeDevice emptied.owned)
  intro _ w₃ closed
  have released : Changed sole keeper camera Members.destroyed w w₃ :=
    (stopped.trans emptied).trans closed
  have takes : Owned sole keeper (w₃.takeOver camera other) :=
    released.owned.takeOver fun only => ⟨released.free, elsewhere only⟩
  refine (wp_step _).mpr ⟨takes, takes, ?_⟩
  rw [World.takeOver, World.takeOver, World.modify, World.modify, World.modify, World.modify]
  simp only [released.frame distinct.symm, released.cameras, World.modify, Function.update_idem]

/-! ### Setting up -/

theorem wp_requireOpened {returns : Unit → World → Prop}
    (closed : (w.cameras camera).fd = none → ∀ message, throws message w)
    (opened : (w.cameras camera).fd ≠ none → returns () w) :
    wp (requireOpened camera) always returns throws w := by
  simp only [requireOpened, wp_bind, wp_read]
  split
  next none => exact (wp_fail _).mpr (closed none _)
  next some => exact (wp_pure _).mpr (opened some)

theorem wp_check {returns : Unit → World → Prop} {failed : Option String} {text : String}
    (accepted : failed = none → returns () w)
    (refused : failed ≠ none → ∀ message, throws message w) :
    wp (check failed text) always returns throws w := by
  cases failed with
  | none => exact (wp_pure ()).mpr (accepted rfl)
  | some message => exact (wp_fail _).mpr (refused (by simp) _)

/-- A camera that is open already loses its descriptor. -/
theorem wp_openDevice {opened : Option String} (owned : Owned sole keeper w)
    (free : sole → camera = keeper ∧ w.fdOf camera = none) :
    wp (openDevice camera opened) (Owned sole keeper)
      (fun _ w' => opened = none ∧
        Changed sole keeper camera ({ · with fd := some w.descriptors.next }) w w')
      (fun _ w' => opened ≠ none ∧ Changed sole keeper camera Members.closed w w') w := by
  cases opened with
  | none =>
    have opens := owned.openFd free
    exact (wp_step _).mpr ⟨opens, rfl, opens, rfl⟩
  | some message =>
    apply wp_seq (wp_modify (owned.forgetFd fun only => (free only).2))
    intro _ w' closed
    simp only [wp_bind, wp_read, wp_fail]
    exact ⟨by simp, closed⟩

theorem wp_queryCapability {querycap : Option String} :
    wp (queryCapability camera querycap) always (fun _ w' => w' = w) (fun _ w' => w' = w) w := by
  apply (wp_bind _).mpr
  apply wp_requireOpened
  · intro _ _
    rfl
  · intro _
    exact wp_check (fun _ => rfl) fun _ _ => rfl

theorem wp_listFormats {enumFmt : Option String} :
    wp (listFormats camera enumFmt) always (fun _ w' => w' = w) (fun _ w' => w' = w) w := by
  apply (wp_bind _).mpr
  apply wp_requireOpened
  · intro _ _
    rfl
  · intro _
    exact wp_check (fun _ => rfl) fun _ _ => rfl

theorem wp_setFormat {width height : UInt32} {pixelFormat : List UInt8} {calls : SetFormatCalls}
    (owned : Owned sole keeper w) :
    wp (setFormat camera width height pixelFormat calls) (Owned sole keeper)
      (fun _ w' => ∃ current, Changed sole keeper camera (Members.withFormat current) w w')
      (fun _ w' => w' = w) w := by
  apply (wp_bind _).mpr
  apply wp_requireOpened
  · intro _ _
    rfl
  intro _
  cases stringToFourcc pixelFormat with
  | error message => exact (wp_fail _).mpr rfl
  | ok requestedFourcc =>
    apply (wp_bind _).mpr
    apply wp_check
    · intro _
      cases calls.gFmt with
      | error message => exact (wp_fail _).mpr rfl
      | ok current =>
        have sets : Owned sole keeper (w.modify camera (Members.withFormat current)) :=
          owned.modify_of_eq rfl rfl
        apply wp_post (wp_modify sets)
        intro _ w' changed
        exact ⟨current, changed⟩
    · intro _ _
      rfl

theorem wp_mapBuffer {calls : InitCalls} {index : Nat} (owned : Owned sole keeper w)
    (inRange : index < (w.cameras camera).buffers.length)
    (free : sole → camera = keeper ∧ w.startOf (camera, index) = none) :
    wp (mapBuffer camera calls index) (Owned sole keeper)
      (fun _ w' => (calls.buffer index).Maps ∧ ∃ buffer : MappedBuffer, buffer.start ≠ none ∧
        Changed sole keeper camera (setBuffer index buffer) w w')
      (fun _ w' => w' = w ∧ ¬ (calls.buffer index).Maps) w := by
  rw [mapBuffer]
  cases queried : (calls.buffer index).querybuf with
  | error message =>
    apply (wp_fail _).mpr
    refine ⟨rfl, ?_⟩
    rintro ⟨length, ok, _⟩
    rw [queried] at ok
    cases ok
  | ok length =>
    dsimp only
    cases refused : (calls.buffer index).mmapError length with
    | some message =>
      apply (wp_fail _).mpr
      refine ⟨rfl, ?_⟩
      rintro ⟨length', ok, accepted⟩
      cases queried.symm.trans ok
      rw [refused] at accepted
      cases accepted
    | none =>
      have positive : 0 < length.toNat := by
        rw [BufferCalls.mmapError] at refused
        split at refused
        · cases refused
        next nonzero =>
          apply Nat.pos_of_ne_zero
          intro zero
          exact nonzero (UInt32.toNat_inj.mp zero)
      have maps := owned.mmap inRange positive free
      apply (wp_step _).mpr
      exact ⟨maps, ⟨length, queried, refused⟩, ⟨some w.mappings.next, length.toNat⟩, by simp, maps,
        rfl⟩

theorem wp_requeueBuffer {calls : InitCalls} {index : Nat} :
    wp (requeueBuffer camera calls index) always (fun _ w' => w' = w) (fun _ w' => w' = w) w := by
  simp only [requeueBuffer, wp_bind, wp_read]
  split
  · exact (wp_fail _).mpr rfl
  · exact wp_check (fun _ => rfl) fun _ _ => rfl

/-- The loop that maps the buffers stops at the first one that cannot be mapped. -/
theorem wp_mapBuffers {calls : InitCalls} {count : Nat} (owned : Owned sole keeper w)
    (keeps : sole → camera = keeper)
    (resized : (w.cameras camera).buffers = List.replicate count .empty) :
    wp (forEach (mapBuffer camera calls) (List.range count)) (Owned sole keeper)
      (fun _ w' => ∃ buffers, Changed sole keeper camera (Members.withBuffers buffers) w w' ∧
        buffers.length = count ∧ (∀ buffer ∈ buffers, buffer.start ≠ none) ∧
          ∀ index < count, (calls.buffer index).Maps)
      (fun _ w' => ∃ buffers, Changed sole keeper camera (Members.withBuffers buffers) w w' ∧
        ¬ Mapped buffers ∧ ¬ ∀ index < count, (calls.buffer index).Maps) w := by
  -- Between two rounds the entries to come are empty and all others are mapped.
  refine wp_post (wp_forEach (fun rest w' => rest.Nodup ∧ (∀ i ∈ rest, i < count) ∧
    ∃ buffers, Changed sole keeper camera (Members.withBuffers buffers) w w' ∧
      buffers.length = count ∧ (∀ i ∈ rest, (buffers.getD i .empty).start = none) ∧
      ∀ i < count, i ∉ rest → (buffers.getD i .empty).start ≠ none ∧ (calls.buffer i).Maps)
    ?round _ ?start) ?last
  case start =>
    refine ⟨List.nodup_range, fun i member => List.mem_range.mp member,
      List.replicate count .empty, .of_eq owned ?_, List.length_replicate, ?_, ?_⟩
    · rw [Members.withBuffers, ← resized]
    · intro i member
      simp [List.getD, List.mem_range.mp member, MappedBuffer.empty]
    · intro i below outside
      exact absurd (List.mem_range.mpr below) outside
  case round =>
    rintro i rest w' ⟨distinct, within, buffers, changed, length, unmapped, mapped⟩
    obtain ⟨fresh, distinct⟩ := List.nodup_cons.mp distinct
    have below := within i List.mem_cons_self
    have here : (w'.cameras camera).buffers = buffers := by
      rw [changed.self, Members.withBuffers]
    have empty : w'.startOf (camera, i) = none := by
      rw [World.startOf, World.bufferAt, here]
      exact unmapped i List.mem_cons_self
    refine wp_ends (wp_mapBuffer changed.owned (by rw [here, length]; exact below)
      fun only => ⟨keeps only, empty⟩) ?_ ?_
    · rintro _ w'' ⟨maps, buffer, recorded, stored⟩
      refine ⟨distinct, fun j member => within j (List.mem_cons_of_mem _ member),
        buffers.set i buffer, changed.trans stored, by simp [length], ?_, ?_⟩
      · intro j member
        have apart : i ≠ j := by
          rintro rfl
          exact fresh member
        have before := unmapped j (List.mem_cons_of_mem _ member)
        simpa [List.getD, List.getElem?_set_ne apart] using before
      · intro j inRange outside
        by_cases same : j = i
        · subst j
          refine ⟨?_, maps⟩
          simpa [List.getD, length, below] using recorded
        · have before := mapped j inRange (by simp [same, outside])
          simpa [List.getD, List.getElem?_set_ne (Ne.symm same)] using before
    -- The entry at which the loop stops stays without a mapping.
    · rintro _ w'' ⟨rfl, refused⟩
      refine ⟨buffers, changed, ?_, fun all => refused (all i below)⟩
      intro all
      have inRange : i < buffers.length := length ▸ below
      have none := unmapped i List.mem_cons_self
      rw [List.getD_eq_getElem _ _ inRange] at none
      exact all.2 _ (List.getElem_mem inRange) none
  case last =>
    rintro _ w' ⟨_, _, buffers, changed, length, _, mapped⟩
    refine ⟨buffers, changed, length, ?_, fun i below => (mapped i below List.not_mem_nil).2⟩
    intro buffer member
    obtain ⟨i, inRange, rfl⟩ := List.mem_iff_getElem.mp member
    have recorded := (mapped i (length ▸ inRange) List.not_mem_nil).1
    rwa [List.getD_eq_getElem _ _ inRange] at recorded

theorem wp_requeueBuffers {calls : InitCalls} {indices : List Nat} :
    wp (forEach (requeueBuffer camera calls) indices) always (fun _ w' => w' = w)
      (fun _ w' => w' = w) w := by
  apply wp_forEach (fun _ w' => w' = w)
  · rintro i rest w' rfl
    exact wp_requeueBuffer
  · rfl

theorem wp_requestBuffers {requested : UInt32} {calls : InitCalls} (owned : Owned sole keeper w)
    (keeps : sole → camera = keeper) :
    wp (requestBuffers camera requested calls) (Owned sole keeper)
      (fun _ w' => ∃ buffers, Changed sole keeper camera (Members.withBuffers buffers) w w' ∧
        (Mapped buffers ↔ calls.MapsAll requested))
      (fun _ w' => ∃ buffers, Changed sole keeper camera (Members.withBuffers buffers) w w' ∧
        (Mapped buffers ↔ calls.MapsAll requested)) w := by
  have emptyUnmapped : ¬ Mapped [] := fun mapped => mapped.1 rfl
  apply wp_seq (wp_releaseMmapBuffers owned)
  intro _ w₁ released
  cases granted : calls.reqbufs requested with
  | error message =>
    refine (wp_fail _).mpr ⟨[], released, iff_of_false emptyUnmapped ?_⟩
    rintro ⟨count, ok, _⟩
    rw [granted] at ok
    cases ok
  | ok count =>
    have mapsAll : calls.MapsAll requested ↔
        2 ≤ count ∧ ∀ index < count.toNat, (calls.buffer index).Maps := by
      simp [InitCalls.MapsAll, granted]
    dsimp only
    split
    next few =>
      refine (wp_fail _).mpr ⟨[], released, iff_of_false emptyUnmapped ?_⟩
      intro all
      exact absurd few (UInt32.not_lt.mpr (mapsAll.mp all).1)
    next enough =>
      have resizes : Owned sole keeper (w₁.modify camera
          ({ · with buffers := List.replicate count.toNat .empty })) := by
        apply released.owned.modify rfl
        intro i
        right
        constructor
        · by_cases below : i < count.toNat
          · simp [List.getD, below, MappedBuffer.empty]
          · simp [List.getD, below, MappedBuffer.empty]
        · rw [World.startOf, World.bufferAt, released.self]
          rfl
      apply wp_seq (wp_modify resizes)
      intro _ w₂ resized
      apply (wp_bind _).mpr
      refine wp_ends (wp_mapBuffers resized.owned keeps (by rw [resized.self])) ?_ ?_
      · rintro _ w₃ ⟨buffers, filled, length, recorded, all⟩
        have nonempty : buffers ≠ [] := by
          rintro rfl
          have none : count.toNat = 0 := length.symm
          exact enough (UInt32.lt_iff_toNat_lt.mpr (by rw [none]; decide))
        have whole : Changed sole keeper camera (Members.withBuffers buffers) w w₃ :=
          (released.trans resized).trans filled
        have same : Mapped buffers ↔ calls.MapsAll requested :=
          iff_of_true ⟨nonempty, recorded⟩ (mapsAll.mpr ⟨UInt32.not_lt.mp enough, all⟩)
        refine wp_ends wp_requeueBuffers ?_ ?_
        · rintro _ _ rfl
          exact ⟨buffers, whole, same⟩
        · rintro _ _ rfl
          exact ⟨buffers, whole, same⟩
      -- The mapping loop threw, so the calls did not allow to map all.
      · rintro _ w₃ ⟨buffers, filled, unmapped, refused⟩
        refine ⟨buffers, (released.trans resized).trans filled, iff_of_false unmapped ?_⟩
        intro all
        exact refused (mapsAll.mp all).2

theorem wp_initMmapBuffers {requested : UInt32} {calls : InitCalls} (owned : Owned sole keeper w)
    (keeps : sole → camera = keeper) :
    wp (initMmapBuffers camera requested calls) (Owned sole keeper)
      (fun _ => Initialised sole keeper camera requested calls w)
      (fun _ => Initialised sole keeper camera requested calls w) w := by
  apply (wp_bind _).mpr
  apply wp_requireOpened
  · intro closed _
    exact .inl ⟨rfl, fun allows => allows.opened closed⟩
  intro opened
  split
  next refused =>
    apply (wp_fail _).mpr
    refine .inl ⟨rfl, fun allows => ?_⟩
    rcases refused with zero | many
    · exact allows.positive zero
    · exact absurd many (UInt32.not_lt.mpr allows.bounded)
  next allowed =>
    rw [not_or, UInt32.not_lt] at allowed
    have allows : (w.cameras camera).AllowsInit requested := ⟨opened, allowed.1, allowed.2⟩
    refine wp_ends (wp_requestBuffers owned keeps) ?_ ?_
    · intro _ w' changed
      exact .inr ⟨allows, changed⟩
    · intro _ w' changed
      exact .inr ⟨allows, changed⟩

/-- Streaming is turned on where there are buffers, whatever they record. -/
theorem wp_startStreaming {streamon : Option String} (owned : Owned sole keeper w) :
    wp (startStreaming camera streamon) (Owned sole keeper)
      (fun _ w' => w' = w ∧ ¬ (w.cameras camera).TurnsOn streamon ∨
        (w.cameras camera).TurnsOn streamon ∧
          Changed sole keeper camera ({ · with streaming := true }) w w')
      (fun _ w' => w' = w ∧ ¬ (w.cameras camera).TurnsOn streamon) w := by
  apply (wp_bind _).mpr
  apply wp_requireOpened
  · intro closed _
    exact ⟨rfl, fun turnsOn => turnsOn.opened closed⟩
  intro opened
  simp only [wp_bind, wp_read]
  split
  next none => exact (wp_fail _).mpr ⟨rfl, fun turnsOn => turnsOn.initialised none⟩
  next buffers =>
    split
    next on =>
      refine (wp_pure _).mpr (.inl ⟨rfl, fun turnsOn => ?_⟩)
      rw [turnsOn.off] at on
      cases on
    next off =>
      apply (wp_bind _).mpr
      apply wp_check
      · intro accepted
        have starts : Owned sole keeper (w.modify camera ({ · with streaming := true })) :=
          owned.modify_of_eq rfl rfl
        apply wp_post (wp_modify starts)
        intro _ w' changed
        exact .inr ⟨⟨opened, buffers, by simpa using off, accepted⟩, changed⟩
      · intro refused _
        exact ⟨rfl, fun turnsOn => refused turnsOn.accepted⟩

/-! ### Capturing -/

theorem wp_captureFrameCopy {calls : CaptureCalls} :
    wp (captureFrameCopy camera calls) always (fun _ w' => w' = w) (fun _ w' => w' = w) w := by
  simp only [captureFrameCopy, wp_bind, wp_read]
  cases Camera.captureFrameCopy (w.cameras camera).view calls with
  | frame frame => exact (wp_pure _).mpr rfl
  | captureError error => exact (wp_fail _).mpr rfl
  | runtimeError message => exact (wp_fail _).mpr rfl

theorem wp_captureOther {notStreaming : String} {ended : Option String} :
    wp (captureOther camera notStreaming ended) always (fun _ w' => w' = w)
      (fun _ w' => w' = w) w := by
  apply (wp_bind _).mpr
  apply wp_requireOpened
  · intro _ _
    rfl
  intro _
  simp only [wp_bind, wp_read]
  split
  · exact (wp_fail _).mpr rfl
  · exact wp_check (fun _ => rfl) fun _ _ => rfl

end Specs

end V4l2Capture.Camera.Device
