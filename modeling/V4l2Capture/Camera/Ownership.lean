import V4l2Capture.Camera.Device
import Mathlib.Data.List.GetD
import Mathlib.Logic.Equiv.Basic

/-!
# Who owns descriptors and mappings

`Owned` says that every descriptor and mapping that a camera records is live, recorded once
and released at most once. When `sole` holds it adds that one camera, the keeper, records
all that is live. Every step of every operation keeps it; each operation has one
specification that also says which members it changed.
-/
namespace V4l2Capture.Camera.Device

open Traced Program

namespace World

def fdOf (w : World) (camera : CameraId) : Option Nat := (w.cameras camera).fd

def bufferAt (w : World) (slot : CameraId × Nat) : MappedBuffer :=
  (w.cameras slot.1).buffers.getD slot.2 .empty

def startOf (w : World) (slot : CameraId × Nat) : Option Nat := (w.bufferAt slot).start

/-- The camera records no descriptor and no mapping. -/
def Free (w : World) (camera : CameraId) : Prop :=
  w.fdOf camera = none ∧ ∀ index, w.startOf (camera, index) = none

end World

structure Owned (sole : Prop) (keeper : CameraId) (w : World) : Prop where
  descriptors : w.descriptors.Tracked w.fdOf
  mappings : w.mappings.Tracked w.startOf
  lengths : ∀ slot, w.startOf slot ≠ none → 0 < (w.bufferAt slot).length
  soleDescriptors : sole → w.descriptors.Covered w.fdOf (· = keeper)
  soleMappings : sole → w.mappings.Covered w.startOf (·.1 = keeper)

theorem owned_start {sole : Prop} {keeper : CameraId} : Owned sole keeper World.start where
  descriptors := Ledger.tracked_empty
  mappings := Ledger.tracked_empty
  lengths := by
    intro slot mapped
    exact absurd rfl mapped
  soleDescriptors := fun _ => Ledger.covered_empty
  soleMappings := fun _ => Ledger.covered_empty

section Steps

variable {sole : Prop} {keeper camera other : CameraId} {w : World} {f : Members → Members}
  {index : Nat} {buffer : MappedBuffer}

@[simp] theorem modify_cameras_self :
    (w.modify camera f).cameras camera = f (w.cameras camera) := by
  simp [World.modify]

theorem modify_cameras_of_ne (distinct : other ≠ camera) :
    (w.modify camera f).cameras other = w.cameras other := by
  simp [World.modify, distinct]

@[simp] theorem modify_descriptors : (w.modify camera f).descriptors = w.descriptors := rfl

@[simp] theorem modify_mappings : (w.modify camera f).mappings = w.mappings := rfl

theorem fdOf_modify :
    (w.modify camera f).fdOf = Function.update w.fdOf camera (f (w.cameras camera)).fd := by
  funext c
  by_cases same : c = camera
  · simp [World.fdOf, same]
  · simp [World.fdOf, same, modify_cameras_of_ne same]

/-- Steps that leave the recorded descriptor alone. -/
theorem fdOf_modify_of_eq (fd : (f (w.cameras camera)).fd = (w.cameras camera).fd) :
    (w.modify camera f).fdOf = w.fdOf := by
  rw [fdOf_modify, fd]
  exact Function.update_eq_self camera w.fdOf

theorem bufferAt_modify_of_eq (buffers : (f (w.cameras camera)).buffers =
    (w.cameras camera).buffers) : (w.modify camera f).bufferAt = w.bufferAt := by
  funext slot
  by_cases same : slot.1 = camera
  · simp [World.bufferAt, same, buffers]
  · simp [World.bufferAt, modify_cameras_of_ne same]

theorem startOf_of_bufferAt {w w' : World} (buffers : w'.bufferAt = w.bufferAt) :
    w'.startOf = w.startOf := by
  funext slot
  rw [World.startOf, World.startOf, buffers]

theorem bufferAt_setBuffer (inRange : index < (w.cameras camera).buffers.length) :
    (w.modify camera (setBuffer index buffer)).bufferAt =
      Function.update w.bufferAt (camera, index) buffer := by
  funext slot
  obtain ⟨c, i⟩ := slot
  by_cases same : c = camera
  · subst c
    by_cases here : i = index
    · subst i
      simp [World.bufferAt, setBuffer, List.getD, inRange]
    · have elsewhere : (camera, i) ≠ (camera, index) := by simp [here]
      simp [World.bufferAt, setBuffer, List.getD, Function.update_of_ne elsewhere,
        List.getElem?_set_ne (Ne.symm here)]
  · have elsewhere : (c, i) ≠ (camera, index) := by simp [same]
    simp [World.bufferAt, modify_cameras_of_ne same, Function.update_of_ne elsewhere]

theorem startOf_setBuffer (inRange : index < (w.cameras camera).buffers.length) :
    (w.modify camera (setBuffer index buffer)).startOf =
      Function.update w.startOf (camera, index) buffer.start := by
  funext slot
  rw [World.startOf, bufferAt_setBuffer inRange]
  by_cases here : slot = (camera, index)
  · simp [here]
  · simp [here, World.startOf]

namespace Owned

variable (owned : Owned sole keeper w)

include owned

/-- Steps that at most drop what the camera records; the keeper drops nothing. -/
theorem forget (fd : (f (w.cameras camera)).fd = w.fdOf camera ∨ (f (w.cameras camera)).fd = none)
    (slots : ∀ i, (f (w.cameras camera)).buffers.getD i .empty = w.bufferAt (camera, i) ∨
      ((f (w.cameras camera)).buffers.getD i .empty).start = none)
    (kept : sole → (f (w.cameras camera)).fd = w.fdOf camera ∧
      ∀ i, ((f (w.cameras camera)).buffers.getD i .empty).start = w.startOf (camera, i)) :
    Owned sole keeper (w.modify camera f) := by
  have fds : ∀ c, (w.modify camera f).fdOf c = w.fdOf c ∨ (w.modify camera f).fdOf c = none := by
    intro c
    by_cases here : c = camera
    · subst c
      simpa [World.fdOf] using fd
    · left
      simp only [World.fdOf, modify_cameras_of_ne here]
  have buffers : ∀ slot, (w.modify camera f).bufferAt slot = w.bufferAt slot ∨
      (w.modify camera f).startOf slot = none := by
    rintro ⟨c, i⟩
    by_cases here : c = camera
    · subst c
      simpa [World.bufferAt, World.startOf] using slots i
    · left
      simp only [World.bufferAt, modify_cameras_of_ne here]
  constructor
  · apply owned.descriptors.rearrange id Function.injective_id
    intro c r holds
    rcases fds c with same | dropped
    · exact same ▸ holds
    · rw [dropped] at holds
      cases holds
  · apply owned.mappings.rearrange id Function.injective_id
    intro slot r holds
    rcases buffers slot with same | dropped
    · rw [World.startOf, same] at holds
      exact holds
    · rw [dropped] at holds
      cases holds
  · intro slot mapped
    rcases buffers slot with same | dropped
    · rw [World.startOf, same] at mapped
      rw [same]
      exact owned.lengths slot mapped
    · exact absurd dropped mapped
  · intro only
    rw [fdOf_modify, (kept only).1, Function.update_eq_self]
    exact owned.soleDescriptors only
  · intro only
    have starts : (w.modify camera f).startOf = w.startOf := by
      funext ⟨c, i⟩
      by_cases here : c = camera
      · subst c
        simpa [World.startOf, World.bufferAt] using (kept only).2 i
      · simp only [World.startOf, World.bufferAt, modify_cameras_of_ne here]
    rw [starts]
    exact owned.soleMappings only

/-- Steps that change no descriptor, and of the buffers only entries without a mapping. -/
theorem modify (fd : (f (w.cameras camera)).fd = (w.cameras camera).fd)
    (slots : ∀ i, (f (w.cameras camera)).buffers.getD i .empty = w.bufferAt (camera, i) ∨
      ((f (w.cameras camera)).buffers.getD i .empty).start = none ∧
        w.startOf (camera, i) = none) :
    Owned sole keeper (w.modify camera f) := by
  apply owned.forget (.inl fd)
  · intro i
    exact (slots i).imp_right And.left
  · intro _
    refine ⟨fd, fun i => ?_⟩
    rcases slots i with same | ⟨now, before⟩
    · rw [same]
      rfl
    · rw [now, before]

theorem modify_of_eq (fd : (f (w.cameras camera)).fd = (w.cameras camera).fd)
    (buffers : (f (w.cameras camera)).buffers = (w.cameras camera).buffers) :
    Owned sole keeper (w.modify camera f) := by
  apply owned.modify fd
  intro i
  left
  rw [buffers]
  rfl

/-- A descriptor may only be overwritten when nobody relies on it. -/
theorem openFd (free : sole → camera = keeper ∧ w.fdOf camera = none) :
    Owned sole keeper (w.openFd camera) := by
  have fds : (w.openFd camera).fdOf =
      Function.update w.fdOf camera (some w.descriptors.next) :=
    fdOf_modify (f := ({ · with fd := some w.descriptors.next }))
  have buffers : (w.openFd camera).bufferAt = w.bufferAt :=
    bufferAt_modify_of_eq (f := ({ · with fd := some w.descriptors.next })) rfl
  constructor
  · rw [fds]
    exact owned.descriptors.acquire camera
  · rw [startOf_of_bufferAt buffers]
    exact owned.mappings
  · rw [startOf_of_bufferAt buffers, buffers]
    exact owned.lengths
  · intro only
    rw [fds]
    exact (owned.soleDescriptors only).acquire (free only).1 (free only).2
  · rw [startOf_of_bufferAt buffers]
    exact owned.soleMappings

/-- A failed `open` overwrites the descriptor as well. -/
theorem forgetFd (free : sole → w.fdOf camera = none) :
    Owned sole keeper (w.modify camera ({ · with fd := none })) := by
  apply owned.forget (.inr rfl)
  · intro i
    exact .inl rfl
  · intro only
    exact ⟨(free only).symm, fun i => rfl⟩

theorem construct {devicePath : String} (free : sole → w.Free camera) :
    Owned sole keeper (w.modify camera fun _ => .constructed devicePath) := by
  apply owned.forget (.inr rfl)
  · intro i
    exact .inr (by simp [Members.constructed, MappedBuffer.empty])
  · intro only
    refine ⟨(free only).1.symm, fun i => ?_⟩
    rw [(free only).2 i]
    simp [Members.constructed, MappedBuffer.empty]

theorem closeFd {fd : Nat} (holds : w.fdOf camera = some fd) :
    Owned sole keeper (w.closeFd camera fd) := by
  have fds : (w.closeFd camera fd).fdOf = Function.update w.fdOf camera none :=
    fdOf_modify (f := ({ · with fd := none }))
  have buffers : (w.closeFd camera fd).bufferAt = w.bufferAt :=
    bufferAt_modify_of_eq (f := ({ · with fd := none })) rfl
  constructor
  · rw [fds]
    exact owned.descriptors.release holds
  · rw [startOf_of_bufferAt buffers]
    exact owned.mappings
  · rw [startOf_of_bufferAt buffers, buffers]
    exact owned.lengths
  · intro only
    rw [fds]
    exact (owned.soleDescriptors only).release owned.descriptors holds
  · rw [startOf_of_bufferAt buffers]
    exact owned.soleMappings

/-- A mapping has a positive length and takes an entry that records none yet. -/
theorem mmap {length : Nat} (inRange : index < (w.cameras camera).buffers.length)
    (positive : 0 < length) (free : sole → camera = keeper ∧ w.startOf (camera, index) = none) :
    Owned sole keeper (w.mmap camera index length) := by
  have fds : (w.mmap camera index length).fdOf = w.fdOf := fdOf_modify_of_eq rfl
  have buffers : (w.mmap camera index length).bufferAt =
      Function.update w.bufferAt (camera, index) ⟨some w.mappings.next, length⟩ :=
    bufferAt_setBuffer inRange
  have starts : (w.mmap camera index length).startOf =
      Function.update w.startOf (camera, index) (some w.mappings.next) :=
    startOf_setBuffer inRange
  constructor
  · rw [fds]
    exact owned.descriptors
  · rw [starts]
    exact owned.mappings.acquire (camera, index)
  · rw [starts, buffers]
    intro slot mapped
    -- Only the new mapping has to be looked at, the others keep their lengths.
    by_cases here : slot = (camera, index)
    · simpa [here] using positive
    · rw [Function.update_of_ne here] at mapped ⊢
      exact owned.lengths slot mapped
  · rw [fds]
    exact owned.soleDescriptors
  · intro only
    rw [starts]
    exact (owned.soleMappings only).acquire (free only).1 (free only).2

theorem munmap {start : Nat} (inRange : index < (w.cameras camera).buffers.length)
    (holds : w.startOf (camera, index) = some start) :
    Owned sole keeper (w.munmap camera index start) := by
  have fds : (w.munmap camera index start).fdOf = w.fdOf := fdOf_modify_of_eq rfl
  have buffers : (w.munmap camera index start).bufferAt =
      Function.update w.bufferAt (camera, index) .empty := bufferAt_setBuffer inRange
  have starts : (w.munmap camera index start).startOf =
      Function.update w.startOf (camera, index) none := startOf_setBuffer inRange
  constructor
  · rw [fds]
    exact owned.descriptors
  · rw [starts]
    exact owned.mappings.release holds
  · rw [starts, buffers]
    intro slot mapped
    by_cases here : slot = (camera, index)
    · simp [here] at mapped
    · rw [Function.update_of_ne here] at mapped ⊢
      exact owned.lengths slot mapped
  · rw [fds]
    exact owned.soleDescriptors
  · intro only
    rw [starts]
    exact (owned.soleMappings only).release owned.mappings holds

/-- A camera that records nothing is constructed or taken over into, and nothing gets lost. -/
theorem takeOver (free : sole → w.Free camera ∧ keeper ≠ other) :
    Owned sole keeper (w.takeOver camera other) := by
  have kept : ∀ c, c ≠ camera → c ≠ other →
      (w.takeOver camera other).cameras c = w.cameras c := by
    intro c first second
    rw [World.takeOver, modify_cameras_of_ne second, modify_cameras_of_ne first]
  have emptied : (w.takeOver camera other).cameras other = .constructed "" :=
    modify_cameras_self
  have taken : camera ≠ other → (w.takeOver camera other).cameras camera = w.cameras other := by
    intro distinct
    rw [World.takeOver, modify_cameras_of_ne distinct, modify_cameras_self]
  -- A camera records what its partner in the exchange recorded before, or nothing.
  have origin : ∀ c, (w.takeOver camera other).cameras c = .constructed "" ∨
      (w.takeOver camera other).cameras c = w.cameras (Equiv.swap camera other c) := by
    intro c
    by_cases second : c = other
    · exact .inl (second ▸ emptied)
    · right
      by_cases first : c = camera
      · subst c
        rw [Equiv.swap_apply_left, taken second]
      · rw [Equiv.swap_apply_of_ne_of_ne first second, kept c first second]
  have injective : Function.Injective
      fun slot : CameraId × Nat => (Equiv.swap camera other slot.1, slot.2) := by
    rintro ⟨c, i⟩ ⟨d, j⟩ same
    simpa using same
  constructor
  · apply owned.descriptors.rearrange _ (Equiv.swap camera other).injective
    intro c fd holds
    rcases origin c with empty | moved
    · rw [World.fdOf, empty] at holds
      cases holds
    · rwa [World.fdOf, moved] at holds
  · apply owned.mappings.rearrange _ injective
    rintro ⟨c, i⟩ start holds
    rcases origin c with empty | moved
    · simp [World.startOf, World.bufferAt, empty, Members.constructed, MappedBuffer.empty] at holds
    · rwa [World.startOf, World.bufferAt, moved] at holds
  · rintro ⟨c, i⟩ mapped
    rcases origin c with empty | moved
    · simp [World.startOf, World.bufferAt, empty, Members.constructed, MappedBuffer.empty] at mapped
    · rw [World.startOf, World.bufferAt, moved] at mapped
      rw [World.bufferAt, moved]
      exact owned.lengths (Equiv.swap camera other c, i) mapped
  · intro only
    obtain ⟨nothing, elsewhere⟩ := free only
    intro fd live
    obtain ⟨c, rfl, holds⟩ := owned.soleDescriptors only fd live
    have apart : c ≠ camera := by
      rintro rfl
      rw [nothing.1] at holds
      cases holds
    exact ⟨c, rfl, by rw [World.fdOf, kept c apart elsewhere]; exact holds⟩
  · intro only
    obtain ⟨nothing, elsewhere⟩ := free only
    intro start live
    obtain ⟨⟨c, i⟩, rfl, holds⟩ := owned.soleMappings only start live
    have apart : c ≠ camera := by
      rintro rfl
      rw [nothing.2] at holds
      cases holds
    exact ⟨(c, i), rfl, by
      rw [World.startOf, World.bufferAt, kept c apart elsewhere]
      exact holds⟩

end Owned

end Steps

end V4l2Capture.Camera.Device
