import V4l2Capture.Protocol.FrameHeader

/-!
# The layout of the wire header

`HeaderField` is the documented table of offsets and sizes. `serializeHeader` is the
sequence of the table's writes; every byte belongs to one field and holds that field's
digit to base 256.
-/
namespace V4l2Capture.Protocol

inductive HeaderField
  | magic | headerSize | version | frameId | captureTimestampNs
  | width | height | pixelFormat | payloadSize | payloadCrc32
  deriving DecidableEq, Repr

namespace HeaderField

def offset : HeaderField → Nat
  | magic => 0
  | headerSize => 4
  | version => 6
  | frameId => 8
  | captureTimestampNs => 16
  | width => 24
  | height => 28
  | pixelFormat => 32
  | payloadSize => 36
  | payloadCrc32 => 40

def size : HeaderField → Nat
  | magic => 4
  | headerSize => 2
  | version => 2
  | frameId => 8
  | captureTimestampNs => 8
  | width => 4
  | height => 4
  | pixelFormat => 4
  | payloadSize => 4
  | payloadCrc32 => 4

def value (header : FrameHeader) : HeaderField → Nat
  | magic => header.magic.toNat
  | headerSize => header.headerSize.toNat
  | version => header.version.toNat
  | frameId => header.frameId.toNat
  | captureTimestampNs => header.captureTimestampNs.toNat
  | width => header.width.toNat
  | height => header.height.toNat
  | pixelFormat => header.pixelFormat.toNat
  | payloadSize => header.payloadSize.toNat
  | payloadCrc32 => header.payloadCrc32.toNat

/-- The fields in the order of the table, which is the order of the writes. -/
def table : List HeaderField :=
  [magic, headerSize, version, frameId, captureTimestampNs, width, height, pixelFormat,
    payloadSize, payloadCrc32]

theorem mem_table (field : HeaderField) : field ∈ table := by
  cases field <;> decide

/-- The byte positions that the write of a field touches. -/
def Covers (field : HeaderField) (position : Nat) : Prop :=
  field.offset ≤ position ∧ position < field.offset + field.size

instance (field : HeaderField) (position : Nat) : Decidable (field.Covers position) :=
  inferInstanceAs (Decidable (_ ∧ _))

def write (header : FrameHeader) (wire : WireHeader) (field : HeaderField) : WireHeader :=
  writeLe field.size wire field.offset (field.value header)

theorem offset_size_le (field : HeaderField) : field.offset + field.size ≤ kWireHeaderSize := by
  cases field <;> decide

/-- Two different fields never cover the same byte. -/
theorem covers_unique {first second : HeaderField} {position : Nat}
    (covers : first.Covers position) (covers' : second.Covers position) : first = second := by
  cases first <;> cases second <;> first
    | rfl
    | simp only [Covers, offset, size] at covers covers'; omega

theorem exists_covers {position : Nat} (inside : position < kWireHeaderSize) :
    ∃ field : HeaderField, field.Covers position := by
  rw [kWireHeaderSize] at inside
  have found : ∀ j : Fin 44, ∃ field ∈ table, field.Covers j.val := by decide
  obtain ⟨field, _, covers⟩ := found ⟨position, inside⟩
  exact ⟨field, covers⟩

end HeaderField

theorem serializeHeader_eq_writes (header : FrameHeader) :
    serializeHeader header = HeaderField.table.foldl (HeaderField.write header)
      (Vector.replicate kWireHeaderSize 0) := rfl

/-! ### The bytes of one write -/

/-- A write stores the digits of the value at its offset and nothing anywhere else. -/
theorem writeLe_getElem (width : Nat) (out : WireHeader) (offset value : Nat) (position : Nat)
    (inside : position < kWireHeaderSize) :
    (writeLe width out offset value)[position] =
      if offset ≤ position ∧ position < offset + width
      then UInt8.ofNat (value / 256 ^ (position - offset)) else out[position] := by
  induction width with
  | zero =>
    have nowhere : ¬ (offset ≤ position ∧ position < offset + 0) := by omega
    rw [if_neg nowhere]
    rfl
  | succ width ih =>
    -- The last round of the loop writes the byte at `offset + width`.
    have last : writeLe (width + 1) out offset value =
        (writeLe width out offset value).setIfInBounds (offset + width)
          (UInt8.ofNat (value / 256 ^ width)) := by
      rw [writeLe, List.range_succ, List.foldl_append, ← writeLe]
      simp only [List.foldl_cons, List.foldl_nil, LittleEndian.shift_mask_byte]
    rw [last, Vector.getElem_setIfInBounds inside, ih]
    by_cases here : offset + width = position
    · have digit : position - offset = width := by omega
      rw [if_pos here, if_pos ⟨by omega, by omega⟩, digit]
    · rw [if_neg here]
      by_cases before : offset ≤ position ∧ position < offset + width
      · rw [if_pos before, if_pos ⟨before.1, by omega⟩]
      · have beyond : ¬ (offset ≤ position ∧ position < offset + (width + 1)) := by omega
        rw [if_neg before, if_neg beyond]

theorem HeaderField.write_of_covers {field : HeaderField} {position : Nat} (header : FrameHeader)
    (wire : WireHeader) (inside : position < kWireHeaderSize) (covers : field.Covers position) :
    (field.write header wire)[position] =
      UInt8.ofNat (field.value header / 256 ^ (position - field.offset)) := by
  rw [HeaderField.write, writeLe_getElem _ _ _ _ _ inside]
  exact if_pos covers

theorem HeaderField.write_of_not_covers {field : HeaderField} {position : Nat}
    (header : FrameHeader) (wire : WireHeader) (inside : position < kWireHeaderSize)
    (outside : ¬ field.Covers position) :
    (field.write header wire)[position] = wire[position] := by
  rw [HeaderField.write, writeLe_getElem _ _ _ _ _ inside]
  exact if_neg outside

/-- The write of a field can change the byte at a position. -/
def HeaderField.Writes (field : HeaderField) (position : Nat) : Prop :=
  ∃ (header : FrameHeader) (wire : WireHeader),
    (field.write header wire).toList[position]? ≠ wire.toList[position]?

/-- The header whose fields have all bits set. -/
def onesHeader : FrameHeader :=
  ⟨0xFFFFFFFF, 0xFFFF, 0xFFFF, 0xFFFFFFFFFFFFFFFF, 0xFFFFFFFFFFFFFFFF, 0xFFFFFFFF, 0xFFFFFFFF,
    0xFFFFFFFF, 0xFFFFFFFF, 0xFFFFFFFF⟩

theorem toList_getElem? (wire : WireHeader) {position : Nat} (inside : position < kWireHeaderSize) :
    wire.toList[position]? = some wire[position] := by
  rw [List.getElem?_eq_getElem (by simpa using inside), Vector.getElem_toList]

theorem HeaderField.writes_iff_covers (field : HeaderField) {position : Nat}
    (inside : position < kWireHeaderSize) : field.Writes position ↔ field.Covers position := by
  constructor
  · rintro ⟨header, wire, changed⟩
    by_contra outside
    apply changed
    rw [toList_getElem? _ inside, toList_getElem? _ inside,
      field.write_of_not_covers header wire inside outside]
  · intro covers
    -- Every digit of the all-ones header is 255, which overwrites a zero byte.
    have digits : ∀ field ∈ table, ∀ i < field.size,
        UInt8.ofNat (field.value onesHeader / 256 ^ i) = 255 := by decide
    have digit := digits field field.mem_table (position - field.offset) (by
      have := covers.1
      have := covers.2
      omega)
    refine ⟨onesHeader, Vector.replicate kWireHeaderSize 0, ?_⟩
    rw [toList_getElem? _ inside, toList_getElem? _ inside,
      field.write_of_covers onesHeader _ inside covers, digit, Vector.getElem_replicate]
    decide

theorem existsUnique_writes {position : Nat} (inside : position < kWireHeaderSize) :
    ∃! field : HeaderField, field.Writes position := by
  obtain ⟨field, covers⟩ := HeaderField.exists_covers inside
  refine ⟨field, (field.writes_iff_covers inside).mpr covers, ?_⟩
  intro other writes
  exact HeaderField.covers_unique ((other.writes_iff_covers inside).mp writes) covers

/-! ### The bytes of the whole header -/

/-- Writes of fields that do not cover a byte leave it alone. -/
theorem writes_of_not_covers (header : FrameHeader) (fields : List HeaderField)
    (wire : WireHeader) {position : Nat} (inside : position < kWireHeaderSize)
    (outside : ∀ field ∈ fields, ¬ field.Covers position) :
    (fields.foldl (HeaderField.write header) wire)[position] = wire[position] := by
  induction fields generalizing wire with
  | nil => rfl
  | cons field fields ih =>
    rw [List.foldl_cons, ih]
    · exact field.write_of_not_covers header wire inside (outside field List.mem_cons_self)
    · intro other member
      exact outside other (List.mem_cons_of_mem _ member)

theorem serializeHeader_getElem (header : FrameHeader) (field : HeaderField) (position : Nat)
    (inside : position < kWireHeaderSize) (covers : field.Covers position) :
    (serializeHeader header)[position] =
      UInt8.ofNat (field.value header / 256 ^ (position - field.offset)) := by
  obtain ⟨before, after, split⟩ := List.append_of_mem field.mem_table
  -- No field after this one in the table covers the byte again.
  have fresh : ∀ other ∈ after, ¬ other.Covers position := by
    intro other member covers'
    have same := HeaderField.covers_unique covers covers'
    subst same
    have once : HeaderField.table.Nodup := by decide
    rw [split, List.nodup_append] at once
    exact (List.nodup_cons.mp once.2.1).1 member
  rw [serializeHeader_eq_writes]
  simp only [split, List.foldl_append, List.foldl_cons]
  rw [writes_of_not_covers header after _ inside fresh]
  exact field.write_of_covers header _ inside covers

/-- The `i`-th byte of a field is its `i`-th digit to base 256. -/
theorem serializeHeader_digit (header : FrameHeader) (field : HeaderField) (i : Nat)
    (bound : i < field.size) :
    (serializeHeader header).toList[field.offset + i]?.map UInt8.toNat =
      some (field.value header / 256 ^ i % 256) := by
  have inside : field.offset + i < kWireHeaderSize := by
    have room := field.offset_size_le
    omega
  have covers : field.Covers (field.offset + i) := ⟨by omega, by omega⟩
  have byte := serializeHeader_getElem header field _ inside covers
  rw [Nat.add_sub_cancel_left] at byte
  rw [toList_getElem? _ inside, byte]
  simp

theorem deserializeHeaderBytes_failure (data : Option (List UInt8)) (old : FrameHeader)
    (wrongSize : ∀ bytes, data = some bytes → bytes.length ≠ kWireHeaderSize) :
    (deserializeHeaderBytes data old).ok = false ∧
      (deserializeHeaderBytes data old).header = old := by
  cases data with
  | none => exact ⟨rfl, rfl⟩
  | some bytes =>
    rw [deserializeHeaderBytes, if_pos (wrongSize bytes rfl)]
    exact ⟨rfl, rfl⟩

/-- The codec of the wire header: decoding and encoding are inverse to each other, each byte
is one digit of one field of the table, and a wrong length changes nothing. -/
theorem wire_header_codec :
    (∀ header old : FrameHeader,
      deserializeHeader (serializeHeader header) old = ⟨true, header, ""⟩) ∧
    (∀ (wire : WireHeader) (old : FrameHeader), (deserializeHeader wire old).ok = true ∧
      serializeHeader (deserializeHeader wire old).header = wire) ∧
    (∀ header : FrameHeader, serializeHeader header =
      HeaderField.table.foldl (HeaderField.write header) (Vector.replicate kWireHeaderSize 0)) ∧
    (∀ position < kWireHeaderSize, ∃! field : HeaderField, field.Writes position) ∧
    (∀ (header : FrameHeader) (field : HeaderField) (i : Nat), i < field.size →
      (serializeHeader header).toList[field.offset + i]?.map UInt8.toNat =
        some (field.value header / 256 ^ i % 256)) ∧
    ∀ (data : Option (List UInt8)) (old : FrameHeader),
      (∀ bytes, data = some bytes → bytes.length ≠ kWireHeaderSize) →
        (deserializeHeaderBytes data old).ok = false ∧
          (deserializeHeaderBytes data old).header = old := by
  refine ⟨deserializeHeader_serializeHeader, deserializeHeader_inverse, serializeHeader_eq_writes,
    ?_, serializeHeader_digit, deserializeHeaderBytes_failure⟩
  intro position inside
  exact existsUnique_writes inside

end V4l2Capture.Protocol
