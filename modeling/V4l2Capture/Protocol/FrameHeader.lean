import V4l2Capture.Library.LittleEndian

/-!
# The protocol v3 frame header

`FrameHeader` is the host-side record, `WireHeader` its 44 bytes on the wire.
`serializeHeader` writes every field at its own offset, `deserializeHeader` reads
them back. `serializeHeader_toList` gives the wire form as one concatenation, and
the two functions are inverse to each other.
-/
namespace V4l2Capture.Protocol

def kMagic : UInt32 := 0x56345450
def kVersion : UInt16 := 3
def kWireHeaderSize : Nat := 44
def kDefaultMaxPayloadBytes : UInt32 := 16 * 1024 * 1024
def kMaxDimension : UInt32 := 16384

/-- `V4L2_PIX_FMT_YUYV`, the four characters of the code in little-endian order. -/
def V4L2_PIX_FMT_YUYV : UInt32 := 0x56595559

/-- The common body of the functions that print a pixel format. The characters below 256 stand
for the bytes. -/
def fourccText (fourcc : UInt32) : String :=
  String.ofList (([0, 8, 16, 24] : List UInt32).map fun shift =>
    Char.ofNat ((fourcc >>> shift) &&& 0xff).toNat)

structure FrameHeader where
  magic : UInt32 := 0
  headerSize : UInt16 := 0
  version : UInt16 := 0
  frameId : UInt64 := 0
  captureTimestampNs : UInt64 := 0
  width : UInt32 := 0
  height : UInt32 := 0
  pixelFormat : UInt32 := 0
  payloadSize : UInt32 := 0
  payloadCrc32 : UInt32 := 0
  deriving DecidableEq, Repr

abbrev WireHeader := Vector UInt8 kWireHeaderSize

/-! ### Writing and reading integers -/

/-- The common body of `write_u16_le`, `write_u32_le` and `write_u64_le`. -/
def writeLe (width : Nat) (out : WireHeader) (offset value : Nat) : WireHeader :=
  (List.range width).foldl
    (fun out i => out.setIfInBounds (offset + i) (UInt8.ofNat ((value >>> (i * 8)) &&& 0xff))) out

def writeU16Le (out : WireHeader) (offset : Nat) (value : UInt16) : WireHeader :=
  writeLe 2 out offset value.toNat

def writeU32Le (out : WireHeader) (offset : Nat) (value : UInt32) : WireHeader :=
  writeLe 4 out offset value.toNat

def writeU64Le (out : WireHeader) (offset : Nat) (value : UInt64) : WireHeader :=
  writeLe 8 out offset value.toNat

/-- The common body of `read_u16_le`, `read_u32_le` and `read_u64_le`. -/
def readLe (width : Nat) (data : List UInt8) (offset : Nat) : Nat :=
  (List.range width).foldl
    (fun value i => value ||| ((data.getD (offset + i) 0).toNat <<< (i * 8))) 0

def readU16Le (data : List UInt8) (offset : Nat) : UInt16 := UInt16.ofNat (readLe 2 data offset)
def readU32Le (data : List UInt8) (offset : Nat) : UInt32 := UInt32.ofNat (readLe 4 data offset)
def readU64Le (data : List UInt8) (offset : Nat) : UInt64 := UInt64.ofNat (readLe 8 data offset)

/-! ### The codec -/

def serializeHeader (header : FrameHeader) : WireHeader :=
  let wire : WireHeader := Vector.replicate kWireHeaderSize 0
  let wire := writeU32Le wire 0 header.magic
  let wire := writeU16Le wire 4 header.headerSize
  let wire := writeU16Le wire 6 header.version
  let wire := writeU64Le wire 8 header.frameId
  let wire := writeU64Le wire 16 header.captureTimestampNs
  let wire := writeU32Le wire 24 header.width
  let wire := writeU32Le wire 28 header.height
  let wire := writeU32Le wire 32 header.pixelFormat
  let wire := writeU32Le wire 36 header.payloadSize
  writeU32Le wire 40 header.payloadCrc32

/-- The header that the ten reads of `deserialize_header` assemble. -/
def decodeFields (data : List UInt8) : FrameHeader where
  magic := readU32Le data 0
  headerSize := readU16Le data 4
  version := readU16Le data 6
  frameId := readU64Le data 8
  captureTimestampNs := readU64Le data 16
  width := readU32Le data 24
  height := readU32Le data 28
  pixelFormat := readU32Le data 32
  payloadSize := readU32Le data 36
  payloadCrc32 := readU32Le data 40

/-- What a call of `deserialize_header` returns and leaves in its out-parameters. -/
structure DecodeResult where
  ok : Bool
  header : FrameHeader
  reason : String
  deriving DecidableEq, Repr

/-- `deserialize_header(data, size, header, reason)`; no list is a null pointer. -/
def deserializeHeaderBytes (data : Option (List UInt8)) (header : FrameHeader) : DecodeResult :=
  match data with
  | none => ⟨false, header, "null wire header"⟩
  | some data =>
    -- `header` is an out-parameter: on failure the caller keeps its old contents.
    if data.length ≠ kWireHeaderSize then
      ⟨false, header, "wire header size mismatch: got=" ++ toString data.length ++
        ", expected=" ++ toString kWireHeaderSize⟩
    else
      ⟨true, decodeFields data, ""⟩

theorem deserializeHeaderBytes_of_length (data : List UInt8) (old : FrameHeader)
    (size : data.length = kWireHeaderSize) :
    deserializeHeaderBytes (some data) old = ⟨true, decodeFields data, ""⟩ := by
  simp [deserializeHeaderBytes, size]

def deserializeHeader (wire : WireHeader) (header : FrameHeader) : DecodeResult :=
  deserializeHeaderBytes (some wire.toList) header

def makeHeader (frameId captureTimestampNs : UInt64)
    (width height pixelFormat payloadSize payloadCrc32 : UInt32) : FrameHeader where
  magic := kMagic
  headerSize := UInt16.ofNat kWireHeaderSize
  version := kVersion
  frameId := frameId
  captureTimestampNs := captureTimestampNs
  width := width
  height := height
  pixelFormat := pixelFormat
  payloadSize := payloadSize
  payloadCrc32 := payloadCrc32

/-! ### The wire form as one concatenation -/

theorem set_append_middle (done rest : List UInt8) (old new : UInt8) :
    (done ++ old :: rest).set done.length new = done ++ new :: rest := by
  simp

/-- A write just behind the bytes already written replaces the next `width` bytes. -/
theorem writeLe_toList (width : Nat) (out : WireHeader) (value : Nat) (done rest : List UInt8)
    (layout : out.toList = done ++ rest) (room : width ≤ rest.length) :
    (writeLe width out done.length value).toList =
      done ++ LittleEndian.bytes width value ++ rest.drop width := by
  have loop : ∀ n ≤ width, ((List.range n).foldl (fun out i => out.setIfInBounds
      (done.length + i) (UInt8.ofNat ((value >>> (i * 8)) &&& 0xff))) out).toList =
      done ++ (LittleEndian.bytes width value).take n ++ rest.drop n := by
    -- Invariant: after `n` rounds the first `n` bytes of the value are in place.
    intro n bound
    induction n with
    | zero => simpa using layout
    | succ n ih =>
      have here : n < rest.length := by omega
      have byte := LittleEndian.bytes_getElem? width value n (by omega)
      have grown : (LittleEndian.bytes width value).take (n + 1) =
          (LittleEndian.bytes width value).take n ++ [UInt8.ofNat (value / 256 ^ n)] := by
        rw [List.take_add_one, byte, Option.toList_some]
      have index : done.length + n =
          (done ++ (LittleEndian.bytes width value).take n).length := by
        rw [List.length_append, List.length_take, LittleEndian.bytes_length,
          Nat.min_eq_left (by omega)]
      rw [List.range_succ, List.foldl_append]
      simp only [List.foldl_cons, List.foldl_nil, Vector.toList_setIfInBounds]
      rw [ih (by omega), List.drop_eq_getElem_cons here, index, set_append_middle, grown,
        LittleEndian.shift_mask_byte]
      simp
  have whole : (LittleEndian.bytes width value).take width = LittleEndian.bytes width value :=
    List.take_of_length_le (by simp)
  simpa [writeLe, whole] using loop width (Nat.le_refl _)

/-- The wire form: every field little-endian, one after the other. -/
def wireBytes (header : FrameHeader) : List UInt8 :=
  LittleEndian.bytes 4 header.magic.toNat ++ LittleEndian.bytes 2 header.headerSize.toNat ++
  LittleEndian.bytes 2 header.version.toNat ++ LittleEndian.bytes 8 header.frameId.toNat ++
  LittleEndian.bytes 8 header.captureTimestampNs.toNat ++
  LittleEndian.bytes 4 header.width.toNat ++ LittleEndian.bytes 4 header.height.toNat ++
  LittleEndian.bytes 4 header.pixelFormat.toNat ++ LittleEndian.bytes 4 header.payloadSize.toNat ++
  LittleEndian.bytes 4 header.payloadCrc32.toNat

@[simp] theorem wireBytes_length (header : FrameHeader) :
    (wireBytes header).length = kWireHeaderSize := by
  simp [wireBytes, kWireHeaderSize]

theorem serializeHeader_toList (header : FrameHeader) :
    (serializeHeader header).toList = wireBytes header := by
  have zeros : (Vector.replicate kWireHeaderSize (0 : UInt8)).toList =
      [] ++ List.replicate kWireHeaderSize 0 := by simp
  -- Each write starts where the previous one ended, which is the offset in the source.
  have h0 := writeLe_toList 4 _ header.magic.toNat _ _ zeros (by simp [kWireHeaderSize])
  have h1 := writeLe_toList 2 _ header.headerSize.toNat _ _ h0 (by simp [kWireHeaderSize])
  have h2 := writeLe_toList 2 _ header.version.toNat _ _ h1 (by simp [kWireHeaderSize])
  have h3 := writeLe_toList 8 _ header.frameId.toNat _ _ h2 (by simp [kWireHeaderSize])
  have h4 := writeLe_toList 8 _ header.captureTimestampNs.toNat _ _ h3 (by simp [kWireHeaderSize])
  have h5 := writeLe_toList 4 _ header.width.toNat _ _ h4 (by simp [kWireHeaderSize])
  have h6 := writeLe_toList 4 _ header.height.toNat _ _ h5 (by simp [kWireHeaderSize])
  have h7 := writeLe_toList 4 _ header.pixelFormat.toNat _ _ h6 (by simp [kWireHeaderSize])
  have h8 := writeLe_toList 4 _ header.payloadSize.toNat _ _ h7 (by simp [kWireHeaderSize])
  have h9 := writeLe_toList 4 _ header.payloadCrc32.toNat _ _ h8 (by simp [kWireHeaderSize])
  simpa [kWireHeaderSize, wireBytes, serializeHeader, writeU16Le, writeU32Le, writeU64Le] using h9

/-! ### Decoding inverts encoding -/

theorem readLe_eq_value (width : Nat) (data : List UInt8) (offset : Nat)
    (room : offset + width ≤ data.length) :
    readLe width data offset = LittleEndian.value ((data.drop offset).take width) := by
  have size : ((data.drop offset).take width).length = width := by
    rw [List.length_take, List.length_drop]
    omega
  rw [← LittleEndian.loopValue_eq, LittleEndian.loopValue, size, readLe]
  apply List.foldl_ext
  intro acc i member
  have small : i < width := List.mem_range.mp member
  simp [List.getD_eq_getElem?_getD, List.getElem?_drop, small]

/-- A read behind the first part of the data is a read of the second part. -/
theorem readLe_append_right (width : Nat) (first second : List UInt8) (offset : Nat)
    (behind : first.length ≤ offset) :
    readLe width (first ++ second) offset = readLe width second (offset - first.length) := by
  apply List.foldl_ext
  intro acc i _
  have shifted : offset + i - first.length = offset - first.length + i := by omega
  rw [List.getD_eq_getElem?_getD, List.getElem?_append_right (by omega), shifted,
    ← List.getD_eq_getElem?_getD]

theorem readLe_bytes (width value : Nat) (rest : List UInt8) (small : value < 256 ^ width) :
    readLe width (LittleEndian.bytes width value ++ rest) 0 = value := by
  rw [readLe_eq_value _ _ _ (by simp), List.drop_zero, List.take_left' (by simp),
    LittleEndian.value_bytes_of_lt small]

/-- Decoding looks at the first 44 bytes only; what follows them does not matter. -/
theorem decodeFields_wireBytes (header : FrameHeader) (rest : List UInt8) :
    decodeFields (wireBytes header ++ rest) = header := by
  have u16 (value : UInt16) (rest : List UInt8) :
      readLe 2 (LittleEndian.bytes 2 value.toNat ++ rest) 0 = value.toNat :=
    readLe_bytes 2 _ rest value.toNat_lt
  have u32 (value : UInt32) (rest : List UInt8) :
      readLe 4 (LittleEndian.bytes 4 value.toNat ++ rest) 0 = value.toNat :=
    readLe_bytes 4 _ rest value.toNat_lt
  have u64 (value : UInt64) (rest : List UInt8) :
      readLe 8 (LittleEndian.bytes 8 value.toNat ++ rest) 0 = value.toNat :=
    readLe_bytes 8 _ rest value.toNat_lt
  simp [decodeFields, wireBytes, readU16Le, readU32Le, readU64Le, readLe_append_right, u16, u32,
    u64]

@[simp] theorem deserializeHeader_serializeHeader (header old : FrameHeader) :
    deserializeHeader (serializeHeader header) old = ⟨true, header, ""⟩ := by
  have decoded := decodeFields_wireBytes header []
  rw [List.append_nil] at decoded
  simp [deserializeHeader, deserializeHeaderBytes, serializeHeader_toList, decoded]

/-- Writing what a read returned gives back the bytes it looked at. -/
theorem bytes_readLe (width : Nat) (data : List UInt8) (offset : Nat)
    (room : offset + width ≤ data.length) :
    LittleEndian.bytes width (readLe width data offset) = (data.drop offset).take width := by
  have size : ((data.drop offset).take width).length = width := by
    rw [List.length_take, List.length_drop]
    omega
  have back := LittleEndian.bytes_value ((data.drop offset).take width)
  rw [size] at back
  rw [readLe_eq_value _ _ _ room, back]

theorem readLe_lt (width : Nat) (data : List UInt8) (offset : Nat)
    (room : offset + width ≤ data.length) : readLe width data offset < 256 ^ width := by
  have bound := LittleEndian.value_lt ((data.drop offset).take width)
  rw [List.length_take, List.length_drop, Nat.min_eq_left (by omega)] at bound
  rwa [readLe_eq_value _ _ _ room]

/-- Encoding the decoded header gives back the 44 bytes. -/
theorem wireBytes_decodeFields (data : List UInt8) (size : data.length = kWireHeaderSize) :
    wireBytes (decodeFields data) = data := by
  rw [kWireHeaderSize] at size
  have u16 (offset : Nat) (room : offset + 2 ≤ 44) :
      LittleEndian.bytes 2 (readU16Le data offset).toNat = (data.drop offset).take 2 := by
    rw [readU16Le, UInt16.toNat_ofNat_of_lt' (readLe_lt 2 data offset (by omega)),
      bytes_readLe 2 data offset (by omega)]
  have u32 (offset : Nat) (room : offset + 4 ≤ 44) :
      LittleEndian.bytes 4 (readU32Le data offset).toNat = (data.drop offset).take 4 := by
    rw [readU32Le, UInt32.toNat_ofNat_of_lt' (readLe_lt 4 data offset (by omega)),
      bytes_readLe 4 data offset (by omega)]
  have u64 (offset : Nat) (room : offset + 8 ≤ 44) :
      LittleEndian.bytes 8 (readU64Le data offset).toNat = (data.drop offset).take 8 := by
    rw [readU64Le, UInt64.toNat_ofNat_of_lt' (readLe_lt 8 data offset (by omega)),
      bytes_readLe 8 data offset (by omega)]
  have join (offset width : Nat) :
      data.drop offset = (data.drop offset).take width ++ data.drop (offset + width) := by
    rw [← List.drop_drop, List.take_append_drop]
  -- The ten fields cut the 44 bytes without gap or overlap.
  have whole : data = data.take 4 ++ ((data.drop 4).take 2 ++ ((data.drop 6).take 2 ++
      ((data.drop 8).take 8 ++ ((data.drop 16).take 8 ++ ((data.drop 24).take 4 ++
      ((data.drop 28).take 4 ++ ((data.drop 32).take 4 ++ ((data.drop 36).take 4 ++
      ((data.drop 40).take 4 ++ data.drop 44))))))))) := by
    rw [← join 40 4, ← join 36 4, ← join 32 4, ← join 28 4, ← join 24 4, ← join 16 8, ← join 8 8,
      ← join 6 2, ← join 4 2, List.take_append_drop]
  have nothing : data.drop 44 = [] := List.drop_eq_nil_of_le (by omega)
  rw [nothing, List.append_nil] at whole
  conv => rhs; rw [whole]
  simp only [wireBytes, decodeFields, List.append_assoc, u16, u32, u64, Nat.reduceAdd,
    Nat.reduceLeDiff, Nat.le_refl, List.drop_zero]

/-- Every 44-byte string is the wire form of the header it decodes to. -/
theorem deserializeHeader_inverse (wire : WireHeader) (old : FrameHeader) :
    (deserializeHeader wire old).ok = true ∧
      serializeHeader (deserializeHeader wire old).header = wire := by
  have decoded : deserializeHeader wire old = ⟨true, decodeFields wire.toList, ""⟩ :=
    deserializeHeaderBytes_of_length wire.toList old (by simp)
  refine ⟨by rw [decoded], ?_⟩
  rw [← Vector.toList_inj, serializeHeader_toList, decoded]
  exact wireBytes_decodeFields wire.toList (by simp)

end V4l2Capture.Protocol
