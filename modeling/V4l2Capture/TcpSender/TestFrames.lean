import V4l2Capture.Library.BlockLoop
import V4l2Capture.Protocol.Crc

/-!
# The frames of tcp_sender

`makeTestYuyvPayload` fills a buffer with two nested loops; `makeTestYuyvPayload_spec` says that
they store to each index of it once and to no other. `corruptPayload` and `applyHeaderFault` are
the two ways to damage a frame on purpose: the first changes the checksum of the payload
(`corruptPayload_crc`), the second makes a header that every receiver rejects
(`applyHeaderFault_rejected`).
-/
namespace V4l2Capture.TcpSender

open BlockLoop Protocol

/-! ### Payloads -/

/-- Luma, chroma, luma, chroma of the pixels `x` and `x + 1`. -/
def pixelPair (x y frameId : Nat) : List UInt8 :=
  [UInt8.ofNat ((x + frameId * 3) % 256), 128, UInt8.ofNat ((x + y + frameId * 3) % 256), 128]

/-- The loop over the columns; returns the offset behind the row. -/
def fillRow (width y frameId x offset : Nat) : Access UInt8 Nat :=
  if x < width then do
    storeAll offset (pixelPair x y frameId)
    fillRow width y frameId (x + 2) (offset + 4)
  else pure offset
termination_by width - x

def fillRows (width height frameId y offset : Nat) : Access UInt8 Nat :=
  if y < height then do
    let offset ← fillRow width y frameId 0 offset
    fillRows width height frameId (y + 1) offset
  else pure offset
termination_by height - y

def makeTestYuyvPayload (width height frameId : Nat) : Except String (Buffer UInt8) :=
  if width = 0 ∨ height = 0 then .error "width and height must be positive"
  else if width % 2 ≠ 0 then .error "YUYV width must be even"
  else
    .ok ((fillRows width height frameId 0 0).run
      { items := List.replicate (width * height * 2) 0 }).2

/-- The `g`-th pair of pixels of an image with `pairs` pairs in a row. -/
def testBlock (pairs frameId g : Nat) : List UInt8 :=
  pixelPair (2 * (g % pairs)) (g / pairs) frameId

def testPayload (width height frameId : Nat) : List UInt8 :=
  (List.range (width / 2 * height)).flatMap (testBlock (width / 2) frameId)

theorem testBlock_length (pairs frameId g : Nat) : (testBlock pairs frameId g).length = 4 := rfl

/-- Progress of the filling: nothing is read, and each round stores four bytes. -/
abbrev Filled (pairs frameId rounds room : Nat) (b : Buffer UInt8) : Prop :=
  Progress 0 (testBlock pairs frameId) (fun _ => []) 4 rounds room b

theorem Filled.round {pairs frameId rounds room : Nat} {b : Buffer UInt8}
    (filled : Filled pairs frameId rounds (4 + room) b) :
    Filled pairs frameId (rounds + 1) room
      ((storeAll (4 * rounds) (testBlock pairs frameId rounds)).run b).2 := by
  have step := Progress.step (testBlock_length pairs frameId) filled
  rwa [List.append_nil] at step

theorem fillRow_more {width y frameId x offset : Nat} (b : Buffer UInt8) (more : x < width) :
    (fillRow width y frameId x offset).run b =
      (fillRow width y frameId (x + 2) (offset + 4)).run
        ((storeAll offset (pixelPair x y frameId)).run b).2 := by
  rw [fillRow, if_pos more]
  rfl

/-- The rest of a row, from the pair `k` on. -/
theorem fillRow_filled {pairs y frameId : Nat} (k n room : Nat) (b : Buffer UInt8)
    (row : k + n = pairs) (filled : Filled pairs frameId (pairs * y + k) (4 * n + room) b) :
    ∃ b', (fillRow (2 * pairs) y frameId (2 * k) (4 * (pairs * y + k))).run b =
        (4 * (pairs * (y + 1)), b') ∧ Filled pairs frameId (pairs * (y + 1)) room b' := by
  have behind : pairs * (y + 1) = pairs * y + k + n := by rw [Nat.mul_succ]; omega
  induction n generalizing k b with
  | zero =>
    refine ⟨b, ?_, ?_⟩
    · rw [fillRow, if_neg (by omega), behind, Nat.add_zero]
      rfl
    · rw [behind, Nat.add_zero]
      rwa [Nat.mul_zero, Nat.zero_add] at filled
  | succ n ih =>
    -- The pair `k` of row `y` is the pair `pairs * y + k` of the image.
    have place : testBlock pairs frameId (pairs * y + k) = pixelPair (2 * k) y frameId := by
      rw [testBlock, Nat.mul_add_mod, Nat.mod_eq_of_lt (by omega), Nat.mul_add_div (by omega),
        Nat.div_eq_of_lt (by omega), Nat.add_zero]
    have room' : 4 * (n + 1) + room = 4 + (4 * n + room) := by omega
    rw [room'] at filled
    have next := filled.round
    rw [place] at next
    obtain ⟨b', run, done⟩ := ih (k + 1) _ (by omega) next (by omega)
    refine ⟨b', ?_, done⟩
    rw [fillRow_more b (by omega)]
    exact run

theorem fillRows_filled {pairs height frameId : Nat} (y n : Nat) (b : Buffer UInt8)
    (rows : y + n = height) (filled : Filled pairs frameId (pairs * y) (4 * (pairs * n)) b) :
    Filled pairs frameId (pairs * height) 0
      ((fillRows (2 * pairs) height frameId y (4 * (pairs * y))).run b).2 := by
  induction n generalizing y b with
  | zero =>
    obtain rfl : y = height := by omega
    rw [fillRows, if_neg (by omega)]
    exact filled
  | succ n ih =>
    have room : 4 * (pairs * (n + 1)) = 4 * pairs + 4 * (pairs * n) := by
      rw [Nat.mul_succ]
      omega
    rw [room] at filled
    obtain ⟨b', run, done⟩ := fillRow_filled 0 pairs _ b (by omega) filled
    have shape : (fillRows (2 * pairs) height frameId y (4 * (pairs * y))).run b =
        (fillRows (2 * pairs) height frameId (y + 1) (4 * (pairs * (y + 1)))).run b' := by
      rw [fillRows, if_pos (by omega)]
      show ((fillRow (2 * pairs) y frameId 0 (4 * (pairs * y))).run b |> fun r =>
        (fillRows (2 * pairs) height frameId (y + 1) r.1).run r.2) = _
      rw [Nat.mul_zero, Nat.add_zero] at run
      rw [run]
    rw [shape]
    exact ih (y + 1) b' (by omega) done

/-- The loops store to each index of the payload once, in order, and to no other. -/
theorem makeTestYuyvPayload_spec {width height : Nat} (frameId : Nat) (positive : 0 < width)
    (rows : 0 < height) (even : width % 2 = 0) :
    makeTestYuyvPayload width height frameId =
      .ok ⟨testPayload width height frameId, [], List.range (width * height * 2)⟩ := by
  obtain ⟨pairs, rfl⟩ : ∃ pairs, width = 2 * pairs := ⟨width / 2, by omega⟩
  have half : 2 * pairs / 2 = pairs := by omega
  have size : 2 * pairs * height * 2 = 4 * (pairs * height) := by
    rw [Nat.mul_assoc 2 pairs height]
    omega
  have start : Filled pairs frameId (pairs * 0) (4 * (pairs * height))
      { items := List.replicate (2 * pairs * height * 2) 0 } := by
    rw [size]
    exact Progress.start 0 _ _ 4 _
  have filled := fillRows_filled 0 height _ (Nat.zero_add _) start
  rw [makeTestYuyvPayload, if_neg (by omega), if_neg (by omega)]
  rw [Nat.mul_zero, Nat.mul_zero] at filled
  refine congrArg Except.ok ?_
  generalize ((fillRows (2 * pairs) height frameId 0 0).run _).2 = b at filled
  obtain ⟨items, reads, writes⟩ := b
  have content := filled.items
  have nothing : reads = [] := filled.reads.trans (by simp)
  have indices : writes = _ := filled.writes
  rw [List.replicate_zero, List.append_nil] at content
  rw [testPayload, half, size, nothing, indices]
  exact congrArg (Buffer.mk · [] _) content

theorem testPayload_length {width : Nat} (height frameId : Nat) (even : width % 2 = 0) :
    (testPayload width height frameId).length = width * height * 2 := by
  obtain ⟨pairs, rfl⟩ : ∃ pairs, width = 2 * pairs := ⟨width / 2, by omega⟩
  rw [testPayload, length_blocks (testBlock_length _ _), Nat.mul_div_cancel_left _ Nat.two_pos,
    Nat.mul_assoc 2 pairs height]
  omega

/-! ### Damage -/

/-- `payload[payload.size() / 2] ^= 0x01u`. -/
def corruptPayload (payload : List UInt8) : List UInt8 :=
  payload.modify (payload.length / 2) (· ^^^ 0x01)

theorem corruptPayload_length (payload : List UInt8) :
    (corruptPayload payload).length = payload.length := by
  rw [corruptPayload, List.length_modify]

/-- One flipped bit is a burst, so the checksum changes. -/
theorem corruptPayload_burst {payload : List UInt8} (nonempty : payload ≠ []) :
    BurstError payload (corruptPayload payload) (8 * (payload.length / 2)) := by
  have inside : payload.length / 2 < payload.length :=
    Nat.div_lt_self (List.length_pos_of_ne_nil nonempty) (by decide)
  have changed : payload[payload.length / 2] ^^^ 0x01 ≠ payload[payload.length / 2] := by
    generalize payload[payload.length / 2] = byte
    intro same
    have bits := congrArg (fun b => byte ^^^ b) same
    simp only [← UInt8.xor_assoc, UInt8.xor_self, UInt8.zero_xor] at bits
    cases bits
  refine ⟨(corruptPayload_length payload).symm, ?_, ?_⟩
  · intro same
    have there := congrArg (fun bytes => bytes[payload.length / 2]?) same
    simp only [corruptPayload, List.getElem?_modify_eq, List.getElem?_eq_getElem inside] at there
    exact changed (Option.some.inj there).symm
  -- All other bytes are those of the payload.
  · intro position differ
    by_cases here : position / 8 = payload.length / 2
    · omega
    · refine absurd ?_ differ
      have same : (corruptPayload payload)[position / 8]? = payload[position / 8]? := by
        exact List.getElem?_modify_ne _ _ (Ne.symm here)
      rw [payloadBit, payloadBit, List.getD_eq_getElem?_getD, List.getD_eq_getElem?_getD, same]

theorem corruptPayload_crc {payload : List UInt8} (nonempty : payload ≠ []) :
    computeCrc32 payload ≠ computeCrc32 (corruptPayload payload) :=
  (corruptPayload_burst nonempty).computeCrc32_ne

def applyHeaderFault (header : FrameHeader) (fault : String) : Except String FrameHeader :=
  if fault = "bad-magic" then .ok { header with magic := header.magic ^^^ 0x1 }
  else if fault = "bad-version" then .ok { header with version := header.version + 1 }
  else if fault = "bad-header-size" then .ok { header with headerSize := 1 }
  else if fault = "zero-width" then .ok { header with width := 0 }
  else if fault = "oversized-payload" then
    .ok { header with payloadSize := kDefaultMaxPayloadBytes + 1 }
  else if fault = "yuyv-size-mismatch" then
    if header.payloadSize ≤ 2 then .error "payload too small for yuyv-size-mismatch fault"
    else .ok { header with payloadSize := header.payloadSize - 2 }
  else .error ("Unsupported --header-fault: " ++ fault ++
    ". Expected bad-magic, bad-version, bad-header-size, zero-width, " ++
    "oversized-payload, or yuyv-size-mismatch")

/-- The six faults, each with the header that it makes. -/
inductive FaultSpec (header : FrameHeader) : String → FrameHeader → Prop
  | badMagic : FaultSpec header "bad-magic" { header with magic := header.magic ^^^ 0x1 }
  | badVersion : FaultSpec header "bad-version" { header with version := header.version + 1 }
  | badHeaderSize : FaultSpec header "bad-header-size" { header with headerSize := 1 }
  | zeroWidth : FaultSpec header "zero-width" { header with width := 0 }
  | oversizedPayload : FaultSpec header "oversized-payload"
      { header with payloadSize := kDefaultMaxPayloadBytes + 1 }
  | yuyvSizeMismatch (large : 2 < header.payloadSize) : FaultSpec header "yuyv-size-mismatch"
      { header with payloadSize := header.payloadSize - 2 }

theorem applyHeaderFault_spec {header faulty : FrameHeader} {fault : String}
    (applied : applyHeaderFault header fault = .ok faulty) : FaultSpec header fault faulty := by
  unfold applyHeaderFault at applied
  split at applied
  next named => cases applied; rw [named]; exact .badMagic
  split at applied
  next named => cases applied; rw [named]; exact .badVersion
  split at applied
  next named => cases applied; rw [named]; exact .badHeaderSize
  split at applied
  next named => cases applied; rw [named]; exact .zeroWidth
  split at applied
  next named => cases applied; rw [named]; exact .oversizedPayload
  split at applied
  next named =>
    split at applied
    · cases applied
    next large => cases applied; rw [named]; exact .yuyvSizeMismatch (UInt32.not_le.mp large)
  next => cases applied

/-- The header that is made in front of a payload, before any damage. -/
def testHeader (width height frameId : Nat) (nowNs : UInt64) (payload : List UInt8) :
    FrameHeader :=
  makeHeader (UInt64.ofNat frameId) nowNs (UInt32.ofNat width) (UInt32.ofNat height)
    V4L2_PIX_FMT_YUYV (UInt32.ofNat payload.length) (computeCrc32 payload)

section Header

variable {width height frameId : Nat} {nowNs : UInt64} {payload : List UInt8}
  {maxPayloadBytes : UInt32}

theorem ofNat_le_kMaxDimension {n : Nat} (small : n ≤ 1000000) :
    UInt32.ofNat n ≤ kMaxDimension ↔ n ≤ 16384 := by
  rw [UInt32.le_iff_toNat_le, UInt32.toNat_ofNat_of_lt' (by simp [UInt32.size]; omega)]
  rfl

theorem ofNat_ne_zero {n : Nat} (positive : 0 < n) (small : n < 2 ^ 32) : UInt32.ofNat n ≠ 0 := by
  intro zero
  have value := congrArg UInt32.toNat zero
  rw [UInt32.toNat_ofNat_of_lt' small] at value
  exact absurd value (Nat.ne_of_gt positive)

/-- The receivers that accept the header of a test frame. -/
theorem testHeader_accepted_iff (widthRange : 0 < width ∧ width ≤ 1000000)
    (heightRange : 0 < height ∧ height ≤ 1000000) (even : width % 2 = 0)
    (size : payload.length = width * height * 2) :
    validateHeader (testHeader width height frameId nowNs payload) maxPayloadBytes = .ok () ↔
      nowNs ≠ 0 ∧ width ≤ 16384 ∧ height ≤ 16384 ∧
        width * height * 2 ≤ maxPayloadBytes.toNat := by
  have area : 0 < width * height := Nat.mul_pos widthRange.1 heightRange.1
  have w : (UInt32.ofNat width).toNat = width :=
    UInt32.toNat_ofNat_of_lt' (by simp [UInt32.size]; omega)
  have h : (UInt32.ofNat height).toNat = height :=
    UInt32.toNat_ofNat_of_lt' (by simp [UInt32.size]; omega)
  -- Within the dimension limit the cast of the payload size is exact.
  have cast : width ≤ 16384 → height ≤ 16384 →
      payload.length < 2 ^ 32 ∧ (UInt32.ofNat payload.length).toNat = width * height * 2 := by
    intro narrow low
    have bound : width * height ≤ 16384 * 16384 := Nat.mul_le_mul narrow low
    have fits : payload.length < 2 ^ 32 := by omega
    exact ⟨fits, by rw [UInt32.toNat_ofNat_of_lt' fits, size]⟩
  rw [validateHeader_ok_iff]
  constructor
  · intro accepted
    have narrow := (ofNat_le_kMaxDimension widthRange.2).mp accepted.bounded.1
    have low := (ofNat_le_kMaxDimension heightRange.2).mp accepted.bounded.2
    refine ⟨accepted.timestamp, narrow, low, ?_⟩
    have limit : (UInt32.ofNat payload.length).toNat ≤ _ := accepted.payload.2
    rwa [(cast narrow low).2] at limit
  · rintro ⟨stamped, narrow, low, limit⟩
    obtain ⟨fits, exact⟩ := cast narrow low
    refine ⟨rfl, rfl, rfl, stamped, ⟨?_, ?_⟩, ⟨?_, ?_⟩, ?_, ⟨?_, ?_⟩, fun _ => ⟨?_, ?_⟩⟩
    · exact ofNat_ne_zero widthRange.1 (by omega)
    · exact ofNat_ne_zero heightRange.1 (by omega)
    · exact (ofNat_le_kMaxDimension widthRange.2).mpr narrow
    · exact (ofNat_le_kMaxDimension heightRange.2).mpr low
    · exact (by decide : V4L2_PIX_FMT_YUYV ≠ 0)
    · exact ofNat_ne_zero (by omega) fits
    · show (UInt32.ofNat payload.length).toNat ≤ _
      rwa [exact]
    · show (UInt32.ofNat width).toNat % 2 = 0
      rwa [w]
    · show (UInt32.ofNat payload.length).toNat =
        (UInt32.ofNat width).toNat * (UInt32.ofNat height).toNat * 2
      rw [exact, w, h]

/-- No receiver accepts the header of a test frame behind a fault, whatever its limit. -/
theorem applyHeaderFault_rejected {fault : String} {header : FrameHeader}
    (widthRange : 0 < width ∧ width ≤ 1000000) (heightRange : 0 < height ∧ height ≤ 1000000)
    (size : payload.length = width * height * 2)
    (applied : applyHeaderFault (testHeader width height frameId nowNs payload) fault =
      .ok header) : validateHeader header maxPayloadBytes ≠ .ok () := by
  intro valid
  have accepted := (validateHeader_ok_iff _ _).mp valid
  have w : (UInt32.ofNat width).toNat = width :=
    UInt32.toNat_ofNat_of_lt' (by simp [UInt32.size]; omega)
  have h : (UInt32.ofNat height).toNat = height :=
    UInt32.toNat_ofNat_of_lt' (by simp [UInt32.size]; omega)
  cases applyHeaderFault_spec applied with
  | badMagic => exact absurd (show kMagic ^^^ 0x1 = kMagic from accepted.magic) (by decide)
  | badVersion => exact absurd (show kVersion + 1 = kVersion from accepted.version) (by decide)
  | badHeaderSize =>
    exact absurd (show (1 : UInt16).toNat = kWireHeaderSize from accepted.headerSize) (by decide)
  | zeroWidth => exact accepted.nonzero.1 rfl
  -- An odd size is that of no YUYV image.
  | oversizedPayload =>
    have exact : (kDefaultMaxPayloadBytes + 1).toNat = _ := (accepted.yuyv rfl).2
    have odd : (kDefaultMaxPayloadBytes + 1).toNat = 16777217 := by decide
    omega
  | yuyvSizeMismatch large =>
    have narrow := (ofNat_le_kMaxDimension widthRange.2).mp accepted.bounded.1
    have low := (ofNat_le_kMaxDimension heightRange.2).mp accepted.bounded.2
    have bound : width * height ≤ 16384 * 16384 := Nat.mul_le_mul narrow low
    have fits : payload.length < 2 ^ 32 := by omega
    have exact : (UInt32.ofNat payload.length - 2).toNat =
        (UInt32.ofNat width).toNat * (UInt32.ofNat height).toNat * 2 := (accepted.yuyv rfl).2
    have two : (2 : UInt32) ≤ UInt32.ofNat payload.length := UInt32.le_of_lt large
    rw [UInt32.toNat_sub_of_le _ _ two, UInt32.toNat_ofNat_of_lt' fits, w, h, size] at exact
    have area : 0 < width * height := Nat.mul_pos widthRange.1 heightRange.1
    have value : (2 : UInt32).toNat = 2 := rfl
    omega

end Header

/-- The check that each fault is aimed at. -/
def faultReason (header : FrameHeader) (maxPayloadBytes : UInt32) (fault : String) : String :=
  if fault = "bad-magic" then "invalid magic"
  else if fault = "bad-version" then "unsupported protocol version: 4"
  else if fault = "bad-header-size" then "unsupported header size: 1"
  else if fault = "zero-width" then "zero width or height"
  else if fault = "oversized-payload" then
    "payload size 16777217 exceeds receiver limit " ++ toString maxPayloadBytes
  else "YUYV payload size mismatch: got=" ++ toString (header.payloadSize.toNat - 2) ++
    ", expected=" ++ toString header.payloadSize.toNat

/-- Where the header was good before, the fault is what the receiver complains about. -/
theorem applyHeaderFault_reason {header faulty : FrameHeader} {maxPayloadBytes : UInt32}
    {fault : String} (valid : validateHeader header maxPayloadBytes = .ok ())
    (yuyv : header.pixelFormat = V4L2_PIX_FMT_YUYV)
    (limit : maxPayloadBytes ≤ kDefaultMaxPayloadBytes)
    (applied : applyHeaderFault header fault = .ok faulty) :
    validateHeader faulty maxPayloadBytes =
      .error (faultReason header maxPayloadBytes fault) := by
  have accepted := (validateHeader_ok_iff _ _).mp valid
  have room : maxPayloadBytes ≠ 0 := by
    rintro rfl
    exact accepted.payload.1 (UInt32.le_zero_iff.mp accepted.payload.2)
  have timestamp := accepted.timestamp
  have nonzero : ¬ (header.width = 0 ∨ header.height = 0) := by simp [accepted.nonzero]
  have bounded : ¬ (header.width > kMaxDimension ∨ header.height > kMaxDimension) := by
    simp [UInt32.not_lt.mpr accepted.bounded.1, UInt32.not_lt.mpr accepted.bounded.2]
  have format : V4L2_PIX_FMT_YUYV ≠ 0 := by decide
  unfold validateHeader
  rw [if_neg room]
  cases applyHeaderFault_spec applied with
  | badMagic =>
    have wrong : kMagic ^^^ 0x1 ≠ kMagic := by decide
    simp only [accepted.magic, wrong, ne_eq, not_false_eq_true, if_true]
    rfl
  | badVersion =>
    have wrong : kVersion + 1 ≠ kVersion := by decide
    simp only [accepted.magic, accepted.headerSize, accepted.version, wrong, ne_eq,
      not_true_eq_false, if_false, not_false_eq_true, if_true]
    rfl
  | badHeaderSize =>
    have wrong : (1 : UInt16).toNat ≠ kWireHeaderSize := by decide
    simp only [accepted.magic, wrong, ne_eq, not_true_eq_false, if_false, not_false_eq_true,
      if_true]
    rfl
  | zeroWidth =>
    simp only [accepted.magic, accepted.headerSize, accepted.version, timestamp, ne_eq,
      not_true_eq_false, if_false, true_or, if_true]
    rfl
  -- The remaining faults are in the payload size, which is checked behind everything else.
  | oversizedPayload =>
    have large : kDefaultMaxPayloadBytes + 1 > maxPayloadBytes :=
      UInt32.lt_of_le_of_lt limit (by decide)
    have some : kDefaultMaxPayloadBytes + 1 ≠ 0 := by decide
    simp only [accepted.magic, accepted.headerSize, accepted.version, timestamp, nonzero, bounded,
      yuyv, format, some, large, ne_eq, not_true_eq_false, if_false, if_true]
    rfl
  | yuyvSizeMismatch large =>
    obtain ⟨even, exact⟩ := accepted.yuyv yuyv
    obtain ⟨product, small⟩ :=
      yuyv_expected_toNat header.width header.height accepted.bounded.1 accepted.bounded.2
    have left : (header.payloadSize - 2).toNat = header.payloadSize.toNat - 2 :=
      UInt32.toNat_sub_of_le _ _ (UInt32.le_of_lt large)
    have more : 2 < header.payloadSize.toNat := large
    have some : header.payloadSize - 2 ≠ 0 := by
      rw [ne_eq, ← UInt32.toNat_inj, left]
      exact Nat.sub_ne_zero_of_lt more
    have within : ¬ header.payloadSize - 2 > maxPayloadBytes := by
      have limit : header.payloadSize.toNat ≤ maxPayloadBytes.toNat := accepted.payload.2
      rw [gt_iff_lt, UInt32.lt_iff_toNat_lt, left]
      omega
    simp only [accepted.magic, accepted.headerSize, accepted.version, timestamp, nonzero, bounded,
      yuyv, format, some, within, ne_eq, not_true_eq_false, if_false, if_true]
    -- What is left is the size check of YUYV frames.
    have evenWidth : ¬ header.width % 2 ≠ 0 := by
      rw [not_not, ← UInt32.toNat_inj, UInt32.toNat_mod]
      exact even
    have fits : ¬ header.width.toUInt64 * header.height.toUInt64 * 2 > 0xFFFFFFFF := by
      rw [gt_iff_lt, UInt64.lt_iff_toNat_lt, product]
      simp only [UInt64.reduceToNat]
      omega
    have differ : header.payloadSize - 2 ≠
        (header.width.toUInt64 * header.height.toUInt64 * 2).toUInt32 := by
      rw [ne_eq, ← UInt32.toNat_inj, UInt64.toNat_toUInt32, product, left,
        Nat.mod_eq_of_lt (by omega)]
      omega
    rw [validateYuyv, if_neg evenWidth]
    dsimp only
    rw [if_neg fits, if_pos differ]
    show Except.error ("YUYV payload size mismatch: got=" ++
      toString (header.payloadSize - 2).toNat ++ ", expected=" ++
      toString (header.width.toUInt64 * header.height.toUInt64 * 2).toNat) = _
    rw [product, left, ← exact]
    rfl

end V4l2Capture.TcpSender
