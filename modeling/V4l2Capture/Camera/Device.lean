import V4l2Capture.Camera.Capture
import V4l2Capture.Library.Ledger
import V4l2Capture.Library.Traced

/-!
# The members of a camera

`CameraDevice` owns a descriptor and the mappings of its buffers. Its operations change the
members step by step, and each system call has its outcome as an argument. A system call and
the assignment that stores its result are one step, since nothing throws between the two.
-/
namespace V4l2Capture.Camera.Device

open Traced Program

/-- One entry of `buffers_`; `start` is the mapping, if there is one. -/
structure MappedBuffer where
  start : Option Nat
  length : Nat
  deriving DecidableEq, Repr

def MappedBuffer.empty : MappedBuffer := ⟨none, 0⟩

structure Members where
  devicePath : String
  /-- `none` for the value -1. A descriptor is one successful `open`, not its number, which the
  system may hand out again. -/
  fd : Option Nat
  buffers : List MappedBuffer
  streaming : Bool
  currentWidth : UInt32
  currentHeight : UInt32
  currentPixelformat : UInt32
  currentSizeimage : UInt32
  deriving DecidableEq, Repr

/-- The members behind the constructor. A camera that was moved from is left the same way,
without a path. -/
def Members.constructed (devicePath : String) : Members where
  devicePath := devicePath
  fd := none
  buffers := []
  streaming := false
  currentWidth := 0
  currentHeight := 0
  currentPixelformat := 0
  currentSizeimage := 0

/-- What capturing reads of them. -/
def Members.view (members : Members) : CameraDevice where
  opened := members.fd.isSome
  streaming := members.streaming
  buffers := members.buffers.map (·.length)
  currentWidth := members.currentWidth
  currentHeight := members.currentHeight
  currentPixelformat := members.currentPixelformat

abbrev CameraId := Nat

/-- The cameras of the program and the resources that they acquired from the system. -/
structure World where
  cameras : CameraId → Members
  descriptors : Ledger
  mappings : Ledger

def World.start : World := ⟨fun _ => .constructed "", .empty, .empty⟩

/-- Changes the members of one camera. -/
def World.modify (w : World) (camera : CameraId) (f : Members → Members) : World :=
  { w with cameras := Function.update w.cameras camera (f (w.cameras camera)) }

def setBuffer (index : Nat) (buffer : MappedBuffer) (self : Members) : Members :=
  { self with buffers := self.buffers.set index buffer }

/-! ### System calls together with the assignment of their results -/

def World.openFd (w : World) (camera : CameraId) : World :=
  { w.modify camera ({ · with fd := some w.descriptors.next }) with
    descriptors := w.descriptors.acquire }

def World.closeFd (w : World) (camera : CameraId) (fd : Nat) : World :=
  { w.modify camera ({ · with fd := none }) with descriptors := w.descriptors.release fd }

def World.mmap (w : World) (camera : CameraId) (index length : Nat) : World :=
  { w.modify camera (setBuffer index ⟨some w.mappings.next, length⟩) with
    mappings := w.mappings.acquire }

def World.munmap (w : World) (camera : CameraId) (index start : Nat) : World :=
  { w.modify camera (setBuffer index .empty) with mappings := w.mappings.release start }

abbrev Operation := Program World

/-! ### Releasing -/

def closeDevice (camera : CameraId) : Operation Unit := do
  let self := (← read).cameras camera
  match self.fd with
  | none => pure ()
  | some fd => step (·.closeFd camera fd)

/-- The body of the loop in `release_mmap_buffers`. -/
def releaseBuffer (camera : CameraId) (index : Nat) : Operation Unit := do
  let self := (← read).cameras camera
  let buffer := self.buffers.getD index .empty
  match buffer.start with
  -- `MAP_FAILED` is never stored, so only null stands for no mapping.
  | some start =>
    if buffer.length > 0 then step (·.munmap camera index start)
    else step (·.modify camera (setBuffer index .empty))
  | none => step (·.modify camera (setBuffer index .empty))

def releaseMmapBuffers (camera : CameraId) : Operation Unit := do
  let self := (← read).cameras camera
  forEach (releaseBuffer camera) (List.range self.buffers.length)
  step (·.modify camera ({ · with buffers := [] }))

/-- A failure of `VIDIOC_STREAMOFF` is only logged. -/
def stopStreaming (camera : CameraId) : Operation Unit := do
  let self := (← read).cameras camera
  if self.fd = none ∨ self.streaming = false then pure ()
  else step (·.modify camera ({ · with streaming := false }))

/-! ### Setting up

An error of a system call is given by its text. -/

def openDevice (camera : CameraId) (opened : Option String) : Operation Unit := do
  match opened with
  | none => step (·.openFd camera)
  -- The member is overwritten before the check, also when it held a descriptor.
  | some message =>
    step (·.modify camera ({ · with fd := none }))
    let self := (← read).cameras camera
    fail ("Failed to open device " ++ self.devicePath ++ ": " ++ message)

/-- The guard of the operations that need a descriptor. -/
def requireOpened (camera : CameraId) : Operation Unit := do
  let self := (← read).cameras camera
  if self.fd = none then fail "Device is not opened"

def check (failed : Option String) (text : String) : Operation Unit :=
  match failed with
  | none => pure ()
  | some message => fail (text ++ message)

def queryCapability (camera : CameraId) (querycap : Option String) : Operation Unit := do
  requireOpened camera
  check querycap "VIDIOC_QUERYCAP failed: "

/-- Of the enumerations only `VIDIOC_ENUM_FMT` throws, by an error other than the one that
ends the list. -/
def listFormats (camera : CameraId) (enumFmt : Option String) : Operation Unit := do
  requireOpened camera
  check enumFmt "VIDIOC_ENUM_FMT failed: "

/-- `toupper` in the C locale. -/
def toUpper (c : UInt8) : UInt8 :=
  if 'a'.toNat ≤ c.toNat ∧ c.toNat ≤ 'z'.toNat then c - 32 else c

/-- The conversion of a `char`, which has a sign, to `__u32`. -/
def charToU32 (c : UInt8) : UInt32 :=
  if c.toNat < 128 then c.toUInt32 else c.toUInt32 ||| 0xFFFFFF00

def stringToFourcc (fourcc : List UInt8) : Except String UInt32 :=
  match fourcc.map (charToU32 ∘ toUpper) with
  | [c0, c1, c2, c3] => .ok (c0 ||| c1 <<< 8 ||| c2 <<< 16 ||| c3 <<< 24)
  | _ => .error "Pixel format must be a 4-character FourCC, for example YUYV or MJPG"

structure PixFormat where
  width : UInt32
  height : UInt32
  pixelformat : UInt32
  sizeimage : UInt32
  deriving DecidableEq, Repr

structure SetFormatCalls where
  /-- The error of `VIDIOC_S_FMT` for the requested width, height and pixel format. -/
  sFmt : UInt32 → UInt32 → UInt32 → Option String
  gFmt : Except String PixFormat

def setFormat (camera : CameraId) (width height : UInt32) (pixelFormat : List UInt8)
    (calls : SetFormatCalls) : Operation Unit := do
  requireOpened camera
  match stringToFourcc pixelFormat with
  | .error message => fail message
  | .ok requestedFourcc =>
    check (calls.sFmt width height requestedFourcc) "VIDIOC_S_FMT failed: "
    match calls.gFmt with
    | .error message => fail ("VIDIOC_G_FMT failed: " ++ message)
    | .ok current => step (·.modify camera ({ · with
        currentWidth := current.width, currentHeight := current.height,
        currentPixelformat := current.pixelformat, currentSizeimage := current.sizeimage }))

/-- The calls for one buffer. -/
structure BufferCalls where
  /-- The length that `VIDIOC_QUERYBUF` reports. -/
  querybuf : Except String UInt32
  mmap : Option String
  qbuf : Option String

structure InitCalls where
  /-- How many buffers `VIDIOC_REQBUFS` grants for a requested count. -/
  reqbufs : UInt32 → Except String UInt32
  buffer : Nat → BufferCalls

/-- `mmap` refuses an empty mapping by itself. -/
def BufferCalls.mmapError (calls : BufferCalls) (length : UInt32) : Option String :=
  if length = 0 then some "Invalid argument" else calls.mmap

def mapBuffer (camera : CameraId) (calls : InitCalls) (index : Nat) : Operation Unit :=
  match (calls.buffer index).querybuf with
  | .error message => fail ("VIDIOC_QUERYBUF failed at index " ++ toString index ++ ": " ++ message)
  | .ok length =>
    match (calls.buffer index).mmapError length with
    | some message => fail ("mmap failed at index " ++ toString index ++ ": " ++ message)
    | none => step (·.mmap camera index length.toNat)

def requeueBuffer (camera : CameraId) (calls : InitCalls) (index : Nat) : Operation Unit := do
  let self := (← read).cameras camera
  if index ≥ self.buffers.length then
    fail ("Cannot queue invalid buffer index: " ++ toString index)
  else check (calls.buffer index).qbuf ("VIDIOC_QBUF failed at index " ++ toString index ++ ": ")

/-- The part of `init_mmap_buffers` behind its checks. -/
def requestBuffers (camera : CameraId) (requested : UInt32) (calls : InitCalls) :
    Operation Unit := do
  releaseMmapBuffers camera
  match calls.reqbufs requested with
  | .error message => fail ("VIDIOC_REQBUFS failed: " ++ message)
  | .ok count =>
    if count < 2 then
      fail "Insufficient buffer memory: driver returned fewer than 2 buffers"
    else
      -- The entries stay behind when one of the calls below throws.
      step (·.modify camera ({ · with buffers := List.replicate count.toNat .empty }))
      forEach (mapBuffer camera calls) (List.range count.toNat)
      forEach (requeueBuffer camera calls) (List.range count.toNat)

def initMmapBuffers (camera : CameraId) (requested : UInt32) (calls : InitCalls) :
    Operation Unit := do
  requireOpened camera
  if requested = 0 ∨ requested > 32 then fail "Requested buffer count must be in range [1, 32]"
  else requestBuffers camera requested calls

def startStreaming (camera : CameraId) (streamon : Option String) : Operation Unit := do
  requireOpened camera
  let self := (← read).cameras camera
  -- Whether the entries have their mappings is not looked at.
  if self.buffers = [] then fail "Cannot start streaming before MMAP buffers are initialized"
  else if self.streaming then pure ()
  else
    check streamon "VIDIOC_STREAMON failed: "
    step (·.modify camera ({ · with streaming := true }))

/-! ### Capturing -/

def captureFrameCopy (camera : CameraId) (calls : CaptureCalls) : Operation Pipeline.Frame := do
  let self := (← read).cameras camera
  match Camera.captureFrameCopy self.view calls with
  | .frame frame => pure frame
  | .captureError error => fail error.message
  | .runtimeError message => fail message

/-- `capture_one_frame`, `capture_one_frame_to_files` and `capture_frames` write no member;
what follows the checks that they share is an argument. -/
def captureOther (camera : CameraId) (notStreaming : String) (ended : Option String) :
    Operation Unit := do
  requireOpened camera
  let self := (← read).cameras camera
  if self.streaming = false then fail notStreaming
  else check ended ""

def captureOneFrame (camera : CameraId) (ended : Option String) : Operation Unit :=
  captureOther camera "Cannot capture frame before streaming is started" ended

def captureOneFrameToFiles (camera : CameraId) (ended : Option String) : Operation Unit :=
  captureOther camera "Cannot capture frame before streaming is started" ended

def captureFrames (camera : CameraId) (ended : Option String) : Operation Unit :=
  captureOther camera "Cannot capture frames before streaming is started" ended

/-! ### Construction, moves and destruction -/

def construct (camera : CameraId) (devicePath : String) : Operation Unit :=
  step (·.modify camera fun _ => .constructed devicePath)

def destroy (camera : CameraId) : Operation Unit := do
  stopStreaming camera
  releaseMmapBuffers camera
  closeDevice camera

/-- Takes over the members of another camera, which throws nothing and calls nothing. -/
def World.takeOver (w : World) (camera other : CameraId) : World :=
  (w.modify camera fun _ => w.cameras other).modify other fun _ => .constructed ""

def moveConstruct (camera other : CameraId) : Operation Unit :=
  step (·.takeOver camera other)

def moveAssign (camera other : CameraId) : Operation Unit := do
  if camera ≠ other then
    stopStreaming camera
    releaseMmapBuffers camera
    closeDevice camera
    step (·.takeOver camera other)

end V4l2Capture.Camera.Device
