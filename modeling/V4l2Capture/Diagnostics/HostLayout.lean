import V4l2Capture.Protocol.FrameHeader

/-!
# The header record in host memory

The diagnostics node reads a header straight into its `FrameHeader` object. Under the
ABI of x86-64 and AArch64 every integer is aligned to its size and stored in
little-endian order, so the fields lie at their wire offsets, but the object is padded
to a multiple of its strictest alignment.
-/
namespace V4l2Capture.Diagnostics

open Protocol

/-- Size and alignment of a member. -/
structure FieldType where
  size : Nat
  alignment : Nat
  deriving DecidableEq, Repr

def uint16 : FieldType := ⟨2, 2⟩
def uint32 : FieldType := ⟨4, 4⟩
def uint64 : FieldType := ⟨8, 8⟩

def alignUp (offset alignment : Nat) : Nat :=
  (offset + alignment - 1) / alignment * alignment

/-- Offsets of members that are laid out from `offset` on. -/
def fieldOffsets (offset : Nat) : List FieldType → List Nat
  | [] => []
  | field :: fields =>
    -- Padding goes in front of a member that would be misaligned.
    let start := alignUp offset field.alignment
    start :: fieldOffsets (start + field.size) fields

/-- The first offset behind the members. -/
def fieldsEnd (offset : Nat) : List FieldType → Nat
  | [] => offset
  | field :: fields => fieldsEnd (alignUp offset field.alignment + field.size) fields

/-- `sizeof` of a structure with these members. -/
def structSize (fields : List FieldType) : Nat :=
  alignUp (fieldsEnd 0 fields) ((fields.map FieldType.alignment).foldl max 1)

/-- The members of `FrameHeader` in the order of their declaration. -/
def frameHeaderFields : List FieldType :=
  [uint32, uint16, uint16, uint64, uint64, uint32, uint32, uint32, uint32, uint32]

def sizeofFrameHeader : Nat := structSize frameHeaderFields

/-- The header object whose memory holds these bytes. -/
def hostHeader (memory : List UInt8) : FrameHeader :=
  let offset index := (fieldOffsets 0 frameHeaderFields).getD index 0
  { magic := readU32Le memory (offset 0)
    headerSize := readU16Le memory (offset 1)
    version := readU16Le memory (offset 2)
    frameId := readU64Le memory (offset 3)
    captureTimestampNs := readU64Le memory (offset 4)
    width := readU32Le memory (offset 5)
    height := readU32Le memory (offset 6)
    pixelFormat := readU32Le memory (offset 7)
    payloadSize := readU32Le memory (offset 8)
    payloadCrc32 := readU32Le memory (offset 9) }

/-- The object ends with four bytes of padding that the wire header does not have. -/
theorem sizeofFrameHeader_eq : sizeofFrameHeader = kWireHeaderSize + 4 := by decide

theorem hostHeader_eq (memory : List UInt8) : hostHeader memory = decodeFields memory := by
  have offsets : fieldOffsets 0 frameHeaderFields = [0, 4, 6, 8, 16, 24, 28, 32, 36, 40] := by
    decide
  simp [hostHeader, offsets, decodeFields]

end V4l2Capture.Diagnostics
