import V4l2Capture.Camera.Capture
import V4l2Capture.Image.Yuyv
import V4l2Capture.Library.Traced

/-!
# Saving a frame

`saveFrameToFiles` saves a frame of the pipeline, `saveCurrentFrameToFiles` the frame in a
dequeued buffer: the bytes as they are, and a YUYV frame as a PPM image as well. Only the first
of them compares the size of the frame with its dimensions before it converts.
-/
namespace V4l2Capture.Image

open Pipeline Camera Protocol Traced Program BlockLoop

/-- The outcomes of opening a file and of writing to it. -/
structure FileCalls where
  opens : Bool
  writes : Bool
  deriving DecidableEq, Repr

/-- The outcomes of the file operations of one save. -/
structure SaveCalls where
  /-- What `create_directories` throws, if it throws. -/
  createDirectories : Option String
  raw : FileCalls
  ppm : FileCalls
  deriving DecidableEq, Repr

/-- The files that were written. `conversions` is history. -/
structure Saved where
  files : List (String × List UInt8) := []
  conversions : List (Buffer UInt8) := []
  deriving DecidableEq, Repr

abbrev Saving := Program Saved

def createDirectories (calls : SaveCalls) : Saving Unit :=
  match calls.createDirectories with
  | some message => fail message
  | none => pure ()

def writeFile (calls : FileCalls) (kind path : String) (content : List UInt8) : Saving Unit := do
  failIf (calls.opens = false) ("Failed to open " ++ kind ++ " output file: " ++ path)
  failIf (calls.writes = false) ("Failed to write " ++ kind ++ " output file: " ++ path)
  step fun saved => { saved with files := saved.files ++ [(path, content)] }

def runConversion (converted : Except String (Buffer UInt8)) : Saving (List UInt8) :=
  match converted with
  | .error message => fail message
  | .ok buffer => do
    step fun saved => { saved with conversions := saved.conversions ++ [buffer] }
    pure buffer.items

/-- `std::setw(6) << std::setfill('0')`. -/
def padded (number : String) : String :=
  "".pushn '0' (6 - number.length) ++ number

def ppmFile (width height : UInt32) (rgb : List UInt8) : List UInt8 :=
  ("P6\n" ++ toString width ++ " " ++ toString height ++ "\n255\n").toUTF8.toList ++ rgb

def saveFrameToFiles (calls : SaveCalls) (frame : Frame) (outputDir : String) (saveIndex : Int) :
    Saving Unit := do
  failIf frame.data.isEmpty "Cannot save empty frame"
  failIf (frame.width = 0 ∨ frame.height = 0 ∨ frame.pixelFormat = 0)
    "Cannot save frame with unknown format"
  createDirectories calls
  let base := outputDir ++ "/pipeline_frame_" ++ padded (toString saveIndex) ++ "_seq_" ++
    toString frame.sequence
  writeFile calls.raw "raw" (base ++ "." ++ fourccText frame.pixelFormat) frame.data
  if frame.pixelFormat = V4L2_PIX_FMT_YUYV then do
    let expectedYuyvSize := frame.width.toUInt64 * frame.height.toUInt64 * 2
    failIf (frame.data.length < expectedYuyvSize.toNat) "YUYV frame data is smaller than expected"
    let rgb ← runConversion
      (frameYuyvToRgb (fun i => frame.data.getD i 0) frame.width frame.height)
    writeFile calls.ppm "ppm" (base ++ ".ppm") (ppmFile frame.width frame.height rgb)
  else pure ()

/-- `memory` is what the buffer of the frame holds. -/
def saveCurrentFrameToFiles (calls : SaveCalls) (self : CameraDevice) (memory : Nat → UInt8)
    (frame : DequeuedBuffer) (outputDir : String) : Saving Unit := do
  failIf (frame.index.toNat ≥ self.buffers.length) "Invalid frame buffer index when saving"
  failIf (self.currentWidth = 0 ∨ self.currentHeight = 0 ∨ self.currentPixelformat = 0)
    "Current format is unknown, set format before saving"
  createDirectories calls
  let base := outputDir ++ "/frame_" ++ padded (toString frame.sequence)
  writeFile calls.raw "raw" (base ++ "." ++ fourccText self.currentPixelformat)
    ((List.range frame.bytesused.toNat).map memory)
  if self.currentPixelformat = V4L2_PIX_FMT_YUYV then do
    -- How many bytes the frame has is not looked at again.
    let rgb ← runConversion (yuyvToRgb memory self.currentWidth self.currentHeight)
    writeFile calls.ppm "ppm" (base ++ ".ppm") (ppmFile self.currentWidth self.currentHeight rgb)
  else pure ()

/-! ### The two paths -/

/-- A frame as `capture_frame_copy` makes it: `data` has `bytesused` bytes. -/
structure CopiedFrame where
  frame : Frame
  size : frame.data.length = frame.bytesused.toNat

theorem captureFrameCopy_size {camera : CameraDevice} {calls : CaptureCalls} {frame : Frame}
    (captured : captureFrameCopy camera calls = .frame frame) :
    frame.data.length = frame.bytesused.toNat := by
  rw [captureFrameCopy] at captured
  split at captured
  · cases captured
  split at captured
  · cases captured
  split at captured
  · cases captured
  split at captured
  · cases captured
  split at captured
  · cases captured
  · cases captured
    simp [copyFrame]

/-- A YUYV frame with less data than its dimensions ask for. -/
def Short (pixelFormat width height : UInt32) (frameSize : Nat) : Prop :=
  pixelFormat = V4L2_PIX_FMT_YUYV ∧ frameSize < width.toNat * height.toNat * 2

/-- What the conversions used lies inside the frame and inside their vector. -/
def Inside (frameSize : Nat) (conversions : List (Buffer UInt8)) : Prop :=
  ∀ conversion ∈ conversions, (∀ i ∈ conversion.reads, i < frameSize) ∧
    ∀ i ∈ conversion.writes, i < conversion.items.length

/-- A call of one of the two functions. -/
inductive SaveCall where
  | pipeline (copied : CopiedFrame) (outputDir : String) (saveIndex : Int)
  | device (camera : CameraDevice) (memory : Nat → UInt8) (frame : DequeuedBuffer)
      (outputDir : String)

namespace SaveCall

def program (calls : SaveCalls) : SaveCall → Saving Unit
  | pipeline copied outputDir saveIndex => saveFrameToFiles calls copied.frame outputDir saveIndex
  | device camera memory frame outputDir =>
    saveCurrentFrameToFiles calls camera memory frame outputDir

/-- The number of bytes that the frame contains. -/
def frameSize : SaveCall → Nat
  | pipeline copied _ _ => copied.frame.data.length
  | device _ _ frame _ => frame.bytesused.toNat

def width : SaveCall → UInt32
  | pipeline copied _ _ => copied.frame.width
  | device camera _ _ _ => camera.currentWidth

def height : SaveCall → UInt32
  | pipeline copied _ _ => copied.frame.height
  | device camera _ _ _ => camera.currentHeight

def pixelFormat : SaveCall → UInt32
  | pipeline copied _ _ => copied.frame.pixelFormat
  | device camera _ _ _ => camera.currentPixelformat

/-- A call that converts nothing but what it has, and reports a frame that is too short. -/
structure Sound (call : SaveCall) (outcome : Outcome Saved Unit) : Prop where
  inside : Inside call.frameSize outcome.final.conversions
  short : Short call.pixelFormat call.width call.height call.frameSize →
    outcome.final.conversions = [] ∧ ∃ message, outcome.result = .error message

/-- The single-frame saver gets to the conversion of a frame that is too short for it. -/
def ConvertsShort (calls : SaveCalls) : SaveCall → Prop
  | pipeline _ _ _ => False
  | device camera _ frame _ =>
    Short camera.currentPixelformat camera.currentWidth camera.currentHeight
        frame.bytesused.toNat ∧
      frame.index.toNat < camera.buffers.length ∧
      calls.createDirectories = none ∧ calls.raw = ⟨true, true⟩ ∧
      camera.currentWidth.toNat * camera.currentHeight.toNat * 3 % 2 ^ 64 ≤ vectorMaxSize

end SaveCall

/-! ### Running them -/

/-- A condition on the conversions for each way to end. -/
def Ends (returns throws : List (Buffer UInt8) → Prop) (p : Saving Unit) (s : Saved) : Prop :=
  wp p (fun _ => True) (fun _ m => returns m.conversions) (fun _ m => throws m.conversions) s

section Specs

variable {returns throws : List (Buffer UInt8) → Prop} {s : Saved} {calls : SaveCalls}
  {rest : Unit → Saving Unit}

theorem ends_failIf {c : Prop} [Decidable c] {message : String}
    (fails : c → throws s.conversions) (passes : ¬ c → Ends returns throws (rest ()) s) :
    Ends returns throws (failIf c message >>= rest) s :=
  (wp_bind _).mpr ((wp_failIf c message).mpr ⟨fails, passes⟩)

theorem ends_createDirectories
    (fails : calls.createDirectories ≠ none → throws s.conversions)
    (passes : calls.createDirectories = none → Ends returns throws (rest ()) s) :
    Ends returns throws (createDirectories calls >>= rest) s := by
  apply (wp_bind _).mpr
  rw [createDirectories]
  cases created : calls.createDirectories with
  | some message => exact (wp_fail _).mpr (fails (by rw [created]; simp))
  | none => exact (wp_pure _).mpr (passes created)

/-- Writing a file leaves the conversions alone. -/
theorem ends_writeFile {file : FileCalls} {kind path : String} {content : List UInt8}
    (fails : file ≠ ⟨true, true⟩ → throws s.conversions)
    (passes : file = ⟨true, true⟩ → ∀ m : Saved, m.conversions = s.conversions →
      Ends returns throws (rest ()) m) :
    Ends returns throws (writeFile file kind path content >>= rest) s := by
  obtain ⟨opens, writes⟩ := file
  apply (wp_bind _).mpr
  simp only [writeFile, wp_bind, wp_failIf, wp_step]
  refine ⟨?_, fun opened => ⟨?_, fun written => ⟨trivial, ?_⟩⟩⟩
  · rintro rfl
    exact fails (by simp)
  · rintro rfl
    exact fails (by simp)
  · have both : (⟨opens, writes⟩ : FileCalls) = ⟨true, true⟩ := by
      simp [Bool.eq_true_of_not_eq_false opened, Bool.eq_true_of_not_eq_false written]
    exact passes both _ rfl

/-- Behind a conversion it no longer matters whether the file is written. -/
theorem ends_convert {converted : Except String (Buffer UInt8)} {path : String}
    {content : List UInt8 → List UInt8}
    (fails : ∀ message, converted = .error message → throws s.conversions)
    (converts : ∀ buffer, converted = .ok buffer →
      returns (s.conversions ++ [buffer]) ∧ throws (s.conversions ++ [buffer])) :
    Ends returns throws
      (runConversion converted >>= fun rgb => writeFile calls.ppm "ppm" path (content rgb)) s := by
  apply (wp_bind _).mpr
  cases done : converted with
  | error message => exact (wp_fail _).mpr (fails message done)
  | ok buffer =>
    obtain ⟨returned, thrown⟩ := converts buffer done
    simp only [runConversion, wp_bind, wp_step, wp_pure, writeFile, wp_failIf]
    exact ⟨trivial, fun _ => thrown, fun _ => ⟨fun _ => thrown, fun _ => ⟨trivial, returned⟩⟩⟩

end Specs

@[simp] theorem inside_nil (frameSize : Nat) : Inside frameSize [] :=
  fun _ member => absurd member List.not_mem_nil

/-- The conversion of a frame that is long enough stays inside. -/
theorem inside_of_long {yuyv : Nat → UInt8} {width height : UInt32} {frameSize : Nat}
    {buffer : Buffer UInt8} (long : width.toNat * height.toNat * 2 ≤ frameSize)
    (small : frameSize < 2 ^ 32) (converted : yuyvToRgb yuyv width height = .ok buffer) :
    Inside frameSize [buffer] := by
  obtain ⟨same, converted', progress⟩ := yuyvToRgb_progress yuyv width height
    (by rw [vectorMaxSize]; omega)
  rw [converted] at converted'
  cases converted'
  intro conversion member
  rw [List.mem_singleton.mp member]
  refine ⟨fun i read => ?_, fun i written => ?_⟩
  · have below := progress.reads_lt groupReads_lt i read
    omega
  · exact progress.writes_lt (pairBlock_length convert_length yuyv) i written

/-- A frame that is too short for its dimensions and passes the size check, whose product has
wrapped, asks for a vector that is too large. -/
theorem wrapped_size_too_large {pixels size : Nat} (bound : pixels < 2 ^ 64) (small : size < 2 ^ 32)
    (short : size < pixels * 2) (passes : ¬ size < pixels * 2 % 2 ^ 64) :
    vectorMaxSize < pixels * 3 % 2 ^ 64 := by
  have wrapped : pixels * 2 % 2 ^ 64 = pixels * 2 - 2 ^ 64 := by omega
  have near : 2 ^ 63 ≤ pixels ∧ pixels < 2 ^ 63 + 2 ^ 31 := by omega
  have tripled : pixels * 3 % 2 ^ 64 = pixels * 3 - 2 ^ 64 := by omega
  rw [vectorMaxSize, tripled]
  omega

theorem saveFrameToFiles_ends (calls : SaveCalls) (copied : CopiedFrame) (outputDir : String)
    (saveIndex : Int) :
    Ends
      (fun conversions => Inside copied.frame.data.length conversions ∧
        ¬ Short copied.frame.pixelFormat copied.frame.width copied.frame.height
          copied.frame.data.length)
      (fun conversions => Inside copied.frame.data.length conversions ∧
        (Short copied.frame.pixelFormat copied.frame.width copied.frame.height
          copied.frame.data.length → conversions = []))
      (saveFrameToFiles calls copied.frame outputDir saveIndex) {} := by
  have small : copied.frame.data.length < 2 ^ 32 := by
    rw [copied.size]
    exact UInt32.toNat_lt _
  have area : copied.frame.width.toNat * copied.frame.height.toNat < 2 ^ 64 := by
    rw [← pixelCount_toNat]
    exact UInt64.toNat_lt _
  have check : (copied.frame.width.toUInt64 * copied.frame.height.toUInt64 * 2).toNat =
      copied.frame.width.toNat * copied.frame.height.toNat * 2 % 2 ^ 64 := by
    rw [UInt64.toNat_mul, pixelCount_toNat]
    rfl
  rw [saveFrameToFiles]
  apply ends_failIf (fun _ => by simp)
  intro _
  apply ends_failIf (fun _ => by simp)
  intro _
  apply ends_createDirectories (fun _ => by simp)
  intro _
  apply ends_writeFile (fun _ => by simp)
  intro _ m idle
  have start : m.conversions = [] := idle
  split
  next isYuyv =>
    apply ends_failIf (fun _ => by simp [start])
    intro passes
    rw [check] at passes
    apply ends_convert
    · intro message _
      simp [start]
    -- The conversion went through, so the vector was not too large and the check was exact.
    · intro buffer converted
      have long : copied.frame.width.toNat * copied.frame.height.toNat * 2 ≤
          copied.frame.data.length := by
        by_contra short
        obtain ⟨message, failed⟩ := yuyvToRgb_error (fun i => copied.frame.data.getD i 0)
          copied.frame.width copied.frame.height
          (wrapped_size_too_large area small (Nat.lt_of_not_le short) passes)
        rw [frameYuyvToRgb, failed] at converted
        cases converted
      have inside := inside_of_long long small converted
      have notShort : ¬ Short copied.frame.pixelFormat copied.frame.width copied.frame.height
          copied.frame.data.length := fun short => absurd short.2 (Nat.not_lt.mpr long)
      rw [start, List.nil_append]
      exact ⟨⟨inside, notShort⟩, inside, fun short => absurd short notShort⟩
  next other =>
    refine (wp_pure ()).mpr ?_
    rw [start]
    exact ⟨inside_nil _, fun short => other short.1⟩

theorem saveCurrentFrameToFiles_ends (calls : SaveCalls) (camera : CameraDevice)
    (memory : Nat → UInt8) (frame : DequeuedBuffer) (outputDir : String)
    (long : ¬ (SaveCall.device camera memory frame outputDir).ConvertsShort calls) :
    Ends
      (fun conversions => Inside frame.bytesused.toNat conversions ∧
        ¬ Short camera.currentPixelformat camera.currentWidth camera.currentHeight
          frame.bytesused.toNat)
      (fun conversions => Inside frame.bytesused.toNat conversions ∧
        (Short camera.currentPixelformat camera.currentWidth camera.currentHeight
          frame.bytesused.toNat → conversions = []))
      (saveCurrentFrameToFiles calls camera memory frame outputDir) {} := by
  rw [saveCurrentFrameToFiles]
  apply ends_failIf (fun _ => by simp)
  intro index
  apply ends_failIf (fun _ => by simp)
  intro _
  apply ends_createDirectories (fun _ => by simp)
  intro created
  apply ends_writeFile (fun _ => by simp)
  intro raw m idle
  have start : m.conversions = [] := idle
  split
  next isYuyv =>
    apply ends_convert
    · intro message _
      simp [start]
    · intro buffer converted
      have notShort : ¬ Short camera.currentPixelformat camera.currentWidth camera.currentHeight
          frame.bytesused.toNat := by
        intro short
        apply long
        refine ⟨short, Nat.lt_of_not_le index, created, raw, ?_⟩
        by_contra large
        obtain ⟨message, failed⟩ := yuyvToRgb_error memory camera.currentWidth
          camera.currentHeight (Nat.lt_of_not_le large)
        rw [failed] at converted
        cases converted
      have enough : camera.currentWidth.toNat * camera.currentHeight.toNat * 2 ≤
          frame.bytesused.toNat := by
        by_contra less
        exact notShort ⟨isYuyv, Nat.lt_of_not_le less⟩
      have inside := inside_of_long enough (UInt32.toNat_lt _) converted
      rw [start, List.nil_append]
      exact ⟨⟨inside, notShort⟩, inside, fun short => absurd short notShort⟩
  next other =>
    refine (wp_pure ()).mpr ?_
    rw [start]
    exact ⟨inside_nil _, fun short => other short.1⟩

/-- Nothing on its way stops the conversion. -/
theorem saveCurrentFrameToFiles_converts (calls : SaveCalls) (camera : CameraDevice)
    (memory : Nat → UInt8) (frame : DequeuedBuffer) (outputDir : String)
    (short : (SaveCall.device camera memory frame outputDir).ConvertsShort calls) :
    (saveCurrentFrameToFiles calls camera memory frame outputDir {}).final.conversions ≠ [] := by
  suffices ends : Ends (· ≠ []) (· ≠ [])
      (saveCurrentFrameToFiles calls camera memory frame outputDir) {} from
    have final : (fun m : Saved => m.conversions ≠ []) _ := wp_final ends
    final
  obtain ⟨⟨isYuyv, less⟩, index, created, raw, fits⟩ := short
  have known : ¬ (camera.currentWidth = 0 ∨ camera.currentHeight = 0 ∨
      camera.currentPixelformat = 0) := by
    rintro (width | height | format)
    · simp [width] at less
    · simp [height] at less
    · rw [isYuyv] at format
      exact absurd format (by decide)
  rw [saveCurrentFrameToFiles]
  apply ends_failIf (fun outside => absurd index (Nat.not_lt.mpr outside))
  intro _
  apply ends_failIf (fun unknown => absurd unknown known)
  intro _
  apply ends_createDirectories (fun fails => absurd created fails)
  intro _
  apply ends_writeFile (fun fails => absurd raw fails)
  intro _ m _
  rw [if_pos isYuyv]
  apply ends_convert
  · intro message failed
    obtain ⟨buffer, converted⟩ := yuyvToRgb_ok memory camera.currentWidth camera.currentHeight fits
    rw [converted] at failed
    cases failed
  · intro buffer _
    exact ⟨by simp, by simp⟩

/-- What a program ensures of the conversions however it ends makes its call sound. -/
theorem SaveCall.sound_of_ends {call : SaveCall} {calls : SaveCalls}
    (ends : Ends
      (fun conversions => Inside call.frameSize conversions ∧
        ¬ Short call.pixelFormat call.width call.height call.frameSize)
      (fun conversions => Inside call.frameSize conversions ∧
        (Short call.pixelFormat call.width call.height call.frameSize → conversions = []))
      (call.program calls) {}) : call.Sound (call.program calls {}) := by
  cases ended : (call.program calls {}).result with
  | ok value =>
    obtain ⟨inside, long⟩ := ends.returned value ended
    exact ⟨inside, fun short => absurd short long⟩
  | error message =>
    obtain ⟨inside, short⟩ := ends.thrown message ended
    exact ⟨inside, fun isShort => ⟨short isShort, message, ended⟩⟩

/-- A save is sound unless the single-frame saver gets to the conversion of a frame that is too
short for it. The memory for the RGB vector is taken to suffice. -/
theorem save_sound_iff (calls : SaveCalls) (call : SaveCall) :
    call.Sound (call.program calls {}) ↔ ¬ call.ConvertsShort calls := by
  constructor
  · intro sound short
    cases call with
    | pipeline copied outputDir saveIndex => exact short
    | device camera memory frame outputDir =>
      exact saveCurrentFrameToFiles_converts calls camera memory frame outputDir short
        (sound.short short.1).1
  · intro long
    apply SaveCall.sound_of_ends
    cases call with
    | pipeline copied outputDir saveIndex =>
      exact saveFrameToFiles_ends calls copied outputDir saveIndex
    | device camera memory frame outputDir =>
      exact saveCurrentFrameToFiles_ends calls camera memory frame outputDir long

/-- The first frame of a camera with two pixels, of which only one half has arrived. -/
theorem shortFrame_converted :
    ¬ ∀ (calls : SaveCalls) (camera : CameraDevice) (memory : Nat → UInt8) (frame : DequeuedBuffer)
        (outputDir : String) (length : Nat), camera.buffers[frame.index.toNat]? = some length →
      frame.bytesused.toNat ≤ length →
      (SaveCall.device camera memory frame outputDir).Sound
        ((SaveCall.device camera memory frame outputDir).program calls {}) := by
  intro always
  have sound := always ⟨none, ⟨true, true⟩, ⟨true, true⟩⟩
    ⟨true, true, [4], 2, 1, V4L2_PIX_FMT_YUYV⟩ (fun _ => 128) ⟨0, 2, 0, 0⟩ "output" 4 rfl (by decide)
  have condition : (SaveCall.device ⟨true, true, [4], 2, 1, V4L2_PIX_FMT_YUYV⟩ (fun _ => 128)
      ⟨0, 2, 0, 0⟩ "output").ConvertsShort ⟨none, ⟨true, true⟩, ⟨true, true⟩⟩ := by
    refine ⟨⟨rfl, by decide⟩, by decide, rfl, rfl, by decide⟩
  exact saveCurrentFrameToFiles_converts _ _ _ _ _ condition (sound.short condition.1).1

end V4l2Capture.Image
