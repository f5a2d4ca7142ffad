import V4l2Capture.Image.Yuyv

/-!
# The conversions of the adapter

`convertYuyvToRgb8` and `convertYuyvToMono8` take a whole payload and check its size first. Each
pixel of their results has a closed form. The formulas of `convertYuyvToRgb8` are those of the
savers, except that luma below black counts as black: `rgb8Pixel_eq_convert_iff` says for which
samples that shows.
-/
namespace V4l2Capture.Diagnostics

open BlockLoop Image

/-- The constructor of a vector of zeros. -/
def makeVector (size : Nat) : Except String (List UInt8) :=
  if size > vectorMaxSize then .error "cannot create std::vector larger than max_size()"
  else .ok (List.replicate size 0)

/-- The checks with which both conversions start. -/
def checkPayload (payload : List UInt8) (width height : UInt32) : Except String Unit :=
  let expected := width.toUInt64 * height.toUInt64 * 2
  if payload.length ≠ expected.toNat then
    .error "YUYV payload size does not match width and height"
  else if width % 2 ≠ 0 then .error "YUYV width must be even"
  else .ok ()

/-! ### RGB -/

/-- The samples that the lambda `write_pixel` stores. -/
def rgb8Pixel (y u v : UInt8) : List UInt8 :=
  let c : Int := if y.toNat > 16 then y.toNat - 16 else 0
  bt601 c (u.toNat - 128) (v.toNat - 128)

def writePixel (destination : Nat) (y u v : UInt8) : Access UInt8 Unit :=
  storeAll destination (rgb8Pixel y u v)

/-- The loop body. -/
def rgb8Pair (payload : Nat → UInt8) (source destination : Nat) : Access UInt8 Unit := do
  let y0 ← load payload (source + 0)
  let u ← load payload (source + 1)
  let y1 ← load payload (source + 2)
  let v ← load payload (source + 3)
  writePixel destination y0 u v
  writePixel (destination + 3) y1 u v

/-- The loop of a conversion, whose body reads four bytes and writes `width` of them. -/
def conversionLoop (size width : Nat) (body : Nat → Nat → Access UInt8 Unit)
    (source destination : Nat) : Access UInt8 Unit :=
  if source < size then do
    body source destination
    conversionLoop size width body (source + 4) (destination + width)
  else pure ()
termination_by size - source

def convertYuyvToRgb8 (payload : List UInt8) (width height : UInt32) :
    Except String (Buffer UInt8) := do
  checkPayload payload width height
  let rgb ← makeVector (width.toUInt64 * height.toUInt64 * 3).toNat
  let body := rgb8Pair fun i => payload.getD i 0
  pure ((conversionLoop payload.length 6 body 0 0).run { items := rgb }).2

/-! ### Luma -/

/-- The loop body; chroma is not looked at. -/
def mono8Pair (payload : Nat → UInt8) (source destination : Nat) : Access UInt8 Unit := do
  let y0 ← load payload (source + 0)
  store destination y0
  let y1 ← load payload (source + 2)
  store (destination + 1) y1

def convertYuyvToMono8 (payload : List UInt8) (width height : UInt32) :
    Except String (Buffer UInt8) := do
  checkPayload payload width height
  let mono ← makeVector (width.toUInt64 * height.toUInt64).toNat
  let body := mono8Pair fun i => payload.getD i 0
  pure ((conversionLoop payload.length 2 body 0 0).run { items := mono }).2

/-! ### What the loops leave -/

section Loop

variable {size width : Nat} {body : Nat → Nat → Access UInt8 Unit} {block : Nat → List UInt8}
  {touched : Nat → List Nat}

theorem conversionLoop_step (source destination : Nat) (b : Buffer UInt8) (more : source < size) :
    (conversionLoop size width body source destination).run b =
      (conversionLoop size width body (source + 4) (destination + width)).run
        ((body source destination).run b).2 := by
  rw [conversionLoop, if_pos more]
  rfl

/-- The body of the loop reads the `g`-th group and stores its block. -/
def Converts (width : Nat) (body : Nat → Nat → Access UInt8 Unit) (block : Nat → List UInt8)
    (touched : Nat → List Nat) : Prop :=
  ∀ g b, (body (4 * g) (width * g)).run b =
    (storeAll (width * g) (block g)).run { b with reads := b.reads ++ touched g }

theorem conversionLoop_progress (converts : Converts width body block touched)
    (sizes : ∀ g, (block g).length = width) (n g : Nat) (b : Buffer UInt8)
    (progress : Progress 0 block touched width g (width * n) b) :
    Progress 0 block touched width (g + n) 0
      ((conversionLoop (4 * (g + n)) width body (4 * g) (width * g)).run b).2 := by
  induction n generalizing g b with
  | zero =>
    rw [conversionLoop, if_neg (by omega)]
    exact progress
  | succ n ih =>
    have shift : g + (n + 1) = g + 1 + n := by omega
    rw [Nat.mul_succ, Nat.add_comm] at progress
    have step := progress.step sizes
    rw [← converts g b] at step
    rw [conversionLoop_step _ _ _ (by omega), shift]
    exact ih (g + 1) ((body (4 * g) (width * g)).run b).2 step

end Loop

@[simp] theorem rgb8Pixel_length (y u v : UInt8) : (rgb8Pixel y u v).length = 3 := rfl

theorem rgb8Pair_converts (payload : Nat → UInt8) :
    Converts 6 (rgb8Pair payload) (pairBlock rgb8Pixel payload) groupReads := by
  intro g b
  have reads : b.reads ++ groupReads g =
      b.reads ++ [4 * g + 0] ++ [4 * g + 1] ++ [4 * g + 2] ++ [4 * g + 3] := by
    simp [groupReads]
  rw [reads]
  rfl

def lumaBlock (payload : Nat → UInt8) (g : Nat) : List UInt8 :=
  [payload (4 * g), payload (4 * g + 2)]

def lumaReads (g : Nat) : List Nat :=
  [4 * g, 4 * g + 2]

theorem lumaBlock_length (payload : Nat → UInt8) (g : Nat) :
    (lumaBlock payload g).length = 2 :=
  rfl

theorem mono8Pair_converts (payload : Nat → UInt8) :
    Converts 2 (mono8Pair payload) (lumaBlock payload) lumaReads := by
  intro g b
  have reads : b.reads ++ lumaReads g = b.reads ++ [4 * g + 0] ++ [4 * g + 2] := by
    simp [lumaReads]
  rw [reads]
  rfl

/-! ### Accepted payloads -/

section Results

variable {payload : List UInt8} {width height : UInt32}

theorem checkPayload_ok (size : payload.length = width.toNat * height.toNat * 2)
    (bounded : payload.length ≤ vectorMaxSize) (even : width.toNat % 2 = 0) :
    checkPayload payload width height = .ok () := by
  have product : (width.toUInt64 * height.toUInt64 * 2).toNat =
      width.toNat * height.toNat * 2 % 2 ^ 64 := by
    rw [UInt64.toNat_mul, pixelCount_toNat]
    rfl
  have exact : width.toNat * height.toNat * 2 % 2 ^ 64 = payload.length := by
    rw [vectorMaxSize] at bounded
    rw [← size]
    exact Nat.mod_eq_of_lt (by omega)
  have parity : width % 2 = 0 := by
    rw [← UInt32.toNat_inj, UInt32.toNat_mod]
    exact even
  rw [checkPayload, product, exact]
  simp [parity]

/-- The loop ends with the payload, which consists of whole groups. -/
theorem payload_groups (size : payload.length = width.toNat * height.toNat * 2)
    (even : width.toNat % 2 = 0) :
    payload.length = 4 * (0 + width.toNat * height.toNat / 2) ∧
      width.toNat * height.toNat % 2 = 0 := by
  have pairs : width.toNat * height.toNat % 2 = 0 := by rw [Nat.mul_mod, even, Nat.zero_mul]
  exact ⟨by omega, pairs⟩

theorem convertYuyvToRgb8_progress (size : payload.length = width.toNat * height.toNat * 2)
    (even : width.toNat % 2 = 0) (fits : width.toNat * height.toNat * 3 ≤ vectorMaxSize) :
    ∃ buffer, convertYuyvToRgb8 payload width height = .ok buffer ∧
      Progress 0 (pairBlock rgb8Pixel fun i => payload.getD i 0) groupReads 6
        (width.toNat * height.toNat / 2) 0 buffer := by
  have exact : width.toNat * height.toNat * 3 % 2 ^ 64 = width.toNat * height.toNat * 3 :=
    Nat.mod_eq_of_lt (by rw [vectorMaxSize] at fits; omega)
  obtain ⟨groups, pairs⟩ := payload_groups size even
  have room : width.toNat * height.toNat * 3 = 6 * (width.toNat * height.toNat / 2) := by omega
  rw [convertYuyvToRgb8, checkPayload_ok size (by omega) even, rgbSize_toNat, exact, makeVector,
    if_neg (Nat.not_lt.mpr fits), room, groups]
  refine ⟨_, rfl, ?_⟩
  have run := conversionLoop_progress (rgb8Pair_converts fun i => payload.getD i 0)
    (pairBlock_length rgb8Pixel_length _) (width.toNat * height.toNat / 2) 0 _
    (.start 0 _ groupReads 6 _)
  rw [Nat.zero_add] at run ⊢
  exact run

theorem convertYuyvToMono8_progress (size : payload.length = width.toNat * height.toNat * 2)
    (even : width.toNat % 2 = 0) (bounded : payload.length ≤ vectorMaxSize) :
    ∃ buffer, convertYuyvToMono8 payload width height = .ok buffer ∧
      Progress 0 (lumaBlock fun i => payload.getD i 0) lumaReads 2
        (width.toNat * height.toNat / 2) 0 buffer := by
  obtain ⟨groups, pairs⟩ := payload_groups size even
  have room : width.toNat * height.toNat = 2 * (width.toNat * height.toNat / 2) := by omega
  rw [convertYuyvToMono8, checkPayload_ok size bounded even, pixelCount_toNat, makeVector,
    if_neg (by omega), groups]
  refine ⟨_, rfl, ?_⟩
  have run := conversionLoop_progress (mono8Pair_converts fun i => payload.getD i 0)
    (lumaBlock_length _) (width.toNat * height.toNat / 2) 0 _ (.start 0 _ lumaReads 2 _)
  rw [Nat.zero_add, ← room] at run
  rw [Nat.zero_add]
  exact run

end Results

/-! ### Luma below black -/

theorem clampToU8_toNat (value : Int) :
    (clampToU8 value).toNat = (min 255 (max 0 value)).toNat := by
  rw [clampToU8]
  split
  next below =>
    have zero : min 255 (max 0 value) = 0 := by omega
    rw [zero]
    rfl
  split
  next above =>
    have full : min 255 (max 0 value) = 255 := by omega
    rw [full]
    rfl
  next within =>
    have same : min 255 (max 0 value) = value := by omega
    rw [same, UInt8.toNat_ofNat']
    exact Nat.mod_eq_of_lt (by omega)

theorem clampToU8_eq_iff (a b : Int) :
    clampToU8 a = clampToU8 b ↔ min 255 (max 0 a) = min 255 (max 0 b) := by
  rw [← UInt8.toNat_inj, clampToU8_toNat, clampToU8_toNat]
  omega

/-- The samples for which it does not matter whether luma below 16 counts as 16: every channel
that luma could move is at its bound. -/
def SamePixel (y u v : UInt8) : Prop :=
  16 ≤ y.toNat ∨ v.toNat = 128 ∧ (u.toNat = 127 ∨ u.toNat = 128) ∨
    y.toNat = 15 ∧ u.toNat = 255 ∧ 67 ≤ v.toNat ∧ v.toNat ≤ 128

/-- Less luma shows in a channel, unless it is at one of its bounds with and without it. -/
theorem darker_eq_iff (bright dark c : Int) (below : c < 0) (lower : dark = 298 * c + bright) :
    clampToU8 (bright >>> (8 : Nat)) = clampToU8 (dark >>> (8 : Nat)) ↔
      bright < 256 ∨ 65280 ≤ dark := by
  rw [clampToU8_eq_iff, Int.shiftRight_eq_div_pow, Int.shiftRight_eq_div_pow]
  omega

theorem rgb8Pixel_eq_convert_iff (y u v : UInt8) :
    rgb8Pixel y u v = convert y u v ↔ SamePixel y u v := by
  have hy := y.toNat_lt
  have hu := u.toNat_lt
  have hv := v.toNat_lt
  by_cases bright : 16 ≤ y.toNat
  · have luma : (if y.toNat > 16 then (y.toNat : Int) - 16 else 0) = y.toNat - 16 := by omega
    rw [rgb8Pixel, luma]
    exact ⟨fun _ => .inl bright, fun _ => rfl⟩
  · have luma : (if y.toNat > 16 then (y.toNat : Int) - 16 else 0) = 0 := if_neg (by omega)
    have below : (y.toNat : Int) - 16 < 0 := by omega
    rw [rgb8Pixel, luma, convert, bt601, bt601, SamePixel]
    simp only [List.cons.injEq, and_true]
    rw [darker_eq_iff _ _ _ below, darker_eq_iff _ _ _ below, darker_eq_iff _ _ _ below]
    all_goals omega

theorem pairBlock_eq_iff {pixel pixel' : UInt8 → UInt8 → UInt8 → List UInt8}
    (three : ∀ y u v, (pixel y u v).length = 3) (three' : ∀ y u v, (pixel' y u v).length = 3)
    (yuyv : Nat → UInt8) (pairs : Nat) :
    (∀ g < pairs, pairBlock pixel yuyv g = pairBlock pixel' yuyv g) ↔
      ∀ k < 2 * pairs,
        pixel (yuyv (2 * k)) (yuyv (4 * (k / 2) + 1)) (yuyv (4 * (k / 2) + 3)) =
          pixel' (yuyv (2 * k)) (yuyv (4 * (k / 2) + 1)) (yuyv (4 * (k / 2) + 3)) := by
  constructor
  · intro blocks k inside
    obtain ⟨left, right⟩ := List.append_inj (blocks (k / 2) (by omega)) (by rw [three, three'])
    rcases Nat.mod_two_eq_zero_or_one k with first | second
    · have place : 4 * (k / 2) = 2 * k := by omega
      rwa [place] at left ⊢
    · have place : 4 * (k / 2) + 2 = 2 * k := by omega
      rwa [place] at right
  · intro pixels g inside
    have first := pixels (2 * g) (by omega)
    have second := pixels (2 * g + 1) (by omega)
    have half : (2 * g + 1) / 2 = g := by omega
    have start : 2 * (2 * g) = 4 * g := by omega
    have middle : 2 * (2 * g + 1) = 4 * g + 2 := by omega
    rw [Nat.mul_div_cancel_left g (by omega), start] at first
    rw [half, middle] at second
    rw [pairBlock, pairBlock, first, second]

/-! ### One frame, three conversions -/

/-- The bytes of a `std::vector`. -/
structure ByteVector where
  bytes : List UInt8
  bounded : bytes.length ≤ vectorMaxSize

/-- What `data()` points to. -/
def ByteVector.memory (payload : ByteVector) (i : Nat) : UInt8 :=
  payload.bytes.getD i 0

/-- The vector that a conversion produces, if it returns. -/
def produced (converted : Except String (Buffer UInt8)) : Option (List UInt8) :=
  converted.toOption.map (·.items)

theorem produced_rgb8_eq_iff (payload : ByteVector) (width height : UInt32)
    (even : width.toNat % 2 = 0) (size : payload.bytes.length = width.toNat * height.toNat * 2) :
    produced (convertYuyvToRgb8 payload.bytes width height) =
        produced (yuyvToRgb payload.memory width height) ↔
      vectorMaxSize < width.toNat * height.toNat * 3 ∨
        ∀ k < width.toNat * height.toNat, SamePixel (payload.memory (2 * k))
          (payload.memory (4 * (k / 2) + 1)) (payload.memory (4 * (k / 2) + 3)) := by
  have bounded := payload.bounded
  by_cases fits : width.toNat * height.toNat * 3 ≤ vectorMaxSize
  · obtain ⟨adapter, adapted, adapter_progress⟩ := convertYuyvToRgb8_progress size even fits
    obtain ⟨saver, saved, saver_progress⟩ := yuyvToRgb_progress payload.memory width height fits
    obtain ⟨_, pairs⟩ := payload_groups size even
    have whole : 2 * (width.toNat * height.toNat / 2) = width.toNat * height.toNat := by omega
    have blocks := blocks_eq_iff (pairBlock_length rgb8Pixel_length payload.memory)
      (pairBlock_length convert_length payload.memory) (width.toNat * height.toNat / 2)
    rw [adapted, saved]
    simp only [produced, Except.toOption, Option.map_some, Option.some.injEq, adapter_progress.items,
      saver_progress.items, pairs, Nat.mul_zero, List.replicate_zero, List.append_nil,
      Nat.not_lt.mpr fits, false_or, ← rgb8Pixel_eq_convert_iff]
    rw [pairBlock_eq_iff rgb8Pixel_length convert_length, whole] at blocks
    exact blocks
  -- Neither of them returns.
  · have exact : width.toNat * height.toNat * 3 % 2 ^ 64 = width.toNat * height.toNat * 3 :=
      Nat.mod_eq_of_lt (by rw [vectorMaxSize] at bounded; omega)
    obtain ⟨message, failed⟩ := yuyvToRgb_error payload.memory width height
      (by rw [exact]; exact Nat.lt_of_not_le fits)
    rw [failed, convertYuyvToRgb8, checkPayload_ok size bounded even, rgbSize_toNat, exact, makeVector,
      if_pos (Nat.lt_of_not_le fits)]
    exact ⟨fun _ => .inl (Nat.lt_of_not_le fits), fun _ => rfl⟩

/-- The savers always agree with each other, and the adapter agrees with them on the frames
whose luma below black does not show. -/
theorem conversions_agree_iff (payload : ByteVector) (width height : UInt32)
    (even : width.toNat % 2 = 0) (size : payload.bytes.length = width.toNat * height.toNat * 2) :
    produced (frameYuyvToRgb payload.memory width height) =
        produced (yuyvToRgb payload.memory width height) ∧
      (produced (convertYuyvToRgb8 payload.bytes width height) =
          produced (frameYuyvToRgb payload.memory width height) ↔
        vectorMaxSize < width.toNat * height.toNat * 3 ∨
          ∀ k < width.toNat * height.toNat, SamePixel (payload.memory (2 * k))
            (payload.memory (4 * (k / 2) + 1)) (payload.memory (4 * (k / 2) + 3))) :=
  ⟨rfl, produced_rgb8_eq_iff payload width height even size⟩

/-- `conversions_agree_iff` for two pixels, one black and one white. -/
theorem conversions_agree_blackWhite :
    produced (convertYuyvToRgb8 [16, 128, 235, 128] 2 1) =
      produced (frameYuyvToRgb ([16, 128, 235, 128].getD · 0) 2 1) := by
  refine ((conversions_agree_iff ⟨[16, 128, 235, 128], by decide⟩ 2 1 (by decide)
    (by decide)).2).mpr (.inr ?_)
  intro k inside
  have pixel : k = 0 ∨ k = 1 := by
    have two : (2 : UInt32).toNat * (1 : UInt32).toNat = 2 := rfl
    omega
  rcases pixel with rfl | rfl
  · exact .inl (by decide)
  · exact .inl (by decide)

/-- Two red pixels that are darker than black. -/
theorem conversions_differ_belowBlack :
    ¬ ∀ (payload : ByteVector) (width height : UInt32), width.toNat % 2 = 0 →
      payload.bytes.length = width.toNat * height.toNat * 2 →
      produced (convertYuyvToRgb8 payload.bytes width height) =
        produced (frameYuyvToRgb payload.memory width height) := by
  intro always
  have same := (produced_rgb8_eq_iff ⟨[0, 128, 0, 255], by decide⟩ 2 1 (by decide) (by decide)).mp
    (always _ 2 1 (by decide) (by decide))
  rcases same with large | pixels
  · exact absurd large (by decide)
  · have first : SamePixel 0 128 255 := pixels 0 (by decide)
    rcases first with bright | ⟨neutral, -⟩ | ⟨nearly, -⟩
    · exact absurd bright (by decide)
    · exact absurd neutral (by decide)
    · exact absurd nearly (by decide)

end V4l2Capture.Diagnostics
