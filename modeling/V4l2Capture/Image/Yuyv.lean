import Mathlib.Algebra.GroupWithZero.Nat
import V4l2Capture.Library.BlockLoop

/-!
# From YUYV to RGB

Both savers convert a YUYV frame to RGB, two pixels at a time: four bytes of the input make six of
the output. They read the frame through a pointer, which does not know where the frame ends.
Memory is taken to be sufficient; a vector beyond its largest size is refused.
-/
namespace V4l2Capture.Image

open BlockLoop

/-- The largest size of a `std::vector` of bytes. -/
def vectorMaxSize : Nat := 2 ^ 63 - 1

/-- `resize` of an empty vector. -/
def resize (size : Nat) : Except String (List UInt8) :=
  if size > vectorMaxSize then .error "vector::_M_default_append"
  else .ok (List.replicate size 0)

def clampToU8 (value : Int) : UInt8 :=
  if value < 0 then 0
  else if value > 255 then 255
  else UInt8.ofNat value.toNat

/-- The fixed-point formulas of BT.601; shifting an `int` to the right rounds down. -/
def bt601 (c d e : Int) : List UInt8 :=
  let r := (298 * c + 409 * e + 128) >>> (8 : Nat)
  let g := (298 * c - 100 * d - 208 * e + 128) >>> (8 : Nat)
  let b := (298 * c + 516 * d + 128) >>> (8 : Nat)
  [clampToU8 r, clampToU8 g, clampToU8 b]

/-- The lambda `convert` of the savers. -/
def convert (y u v : UInt8) : List UInt8 :=
  bt601 (y.toNat - 16) (u.toNat - 128) (v.toNat - 128)

/-- The loop body; `out` moves on with each of the six samples. -/
def convertPair (yuyv : Nat → UInt8) (source out : Nat) : Access UInt8 Unit := do
  let y0 ← load yuyv (source + 0)
  let u ← load yuyv (source + 1)
  let y1 ← load yuyv (source + 2)
  let v ← load yuyv (source + 3)
  storeAll out (convert y0 u v ++ convert y1 u v)

/-- The cursors have 64 bits; they leave both buffers before they can wrap. -/
def convertPairs (yuyv : Nat → UInt8) (pixelCount i source out : Nat) : Access UInt8 Unit :=
  if i + 1 < pixelCount then do
    convertPair yuyv source out
    convertPairs yuyv pixelCount (i + 2) (source + 4) (out + 6)
  else pure ()
termination_by pixelCount - i

/-- The conversion, with the indices that it used. -/
def yuyvToRgb (yuyv : Nat → UInt8) (width height : UInt32) : Except String (Buffer UInt8) := do
  let rgb ← resize (width.toUInt64 * height.toUInt64 * 3).toNat
  let pixelCount := (width.toUInt64 * height.toUInt64).toNat
  pure ((convertPairs yuyv pixelCount 0 0 0).run { items := rgb }).2

/-- `frame_yuyv_to_rgb`, the copy of the pipeline. -/
def frameYuyvToRgb (yuyv : Nat → UInt8) (width height : UInt32) :
    Except String (Buffer UInt8) :=
  yuyvToRgb yuyv width height

/-! ### What is converted -/

@[simp] theorem convert_length (y u v : UInt8) : (convert y u v).length = 3 := rfl

/-- The two pixels behind the `g`-th group of four bytes. -/
def pairBlock (pixel : UInt8 → UInt8 → UInt8 → List UInt8) (yuyv : Nat → UInt8) (g : Nat) :
    List UInt8 :=
  pixel (yuyv (4 * g)) (yuyv (4 * g + 1)) (yuyv (4 * g + 3)) ++
    pixel (yuyv (4 * g + 2)) (yuyv (4 * g + 1)) (yuyv (4 * g + 3))

def groupReads (g : Nat) : List Nat :=
  [4 * g, 4 * g + 1, 4 * g + 2, 4 * g + 3]

theorem groupReads_lt (g : Nat) : ∀ i ∈ groupReads g, i < 4 * (g + 1) := by
  intro i member
  simp only [groupReads, List.mem_cons, List.not_mem_nil, or_false] at member
  omega

theorem pairBlock_length {pixel : UInt8 → UInt8 → UInt8 → List UInt8}
    (three : ∀ y u v, (pixel y u v).length = 3) (yuyv : Nat → UInt8) (g : Nat) :
    (pairBlock pixel yuyv g).length = 6 := by
  rw [pairBlock, List.length_append, three, three]

theorem convertPair_run (yuyv : Nat → UInt8) (g : Nat) (b : Buffer UInt8) :
    (convertPair yuyv (4 * g) (6 * g)).run b =
      (storeAll (6 * g) (pairBlock convert yuyv g)).run
        { b with reads := b.reads ++ groupReads g } := by
  have reads : b.reads ++ groupReads g =
      b.reads ++ [4 * g + 0] ++ [4 * g + 1] ++ [4 * g + 2] ++ [4 * g + 3] := by
    simp [groupReads]
  rw [reads]
  rfl

theorem convertPairs_step (yuyv : Nat → UInt8) (pixelCount i source out : Nat) (b : Buffer UInt8)
    (more : i + 1 < pixelCount) :
    (convertPairs yuyv pixelCount i source out).run b =
      (convertPairs yuyv pixelCount (i + 2) (source + 4) (out + 6)).run
        ((convertPair yuyv source out).run b).2 := by
  rw [convertPairs, if_pos more]
  rfl

theorem convertPairs_progress (yuyv : Nat → UInt8) (odd n g room : Nat) (last : odd < 2)
    (b : Buffer UInt8)
    (progress : Progress 0 (pairBlock convert yuyv) groupReads 6 g (6 * n + room) b) :
    Progress 0 (pairBlock convert yuyv) groupReads 6 (g + n) room
      ((convertPairs yuyv (2 * (g + n) + odd) (2 * g) (4 * g) (6 * g)).run b).2 := by
  induction n generalizing g b with
  | zero =>
    rw [convertPairs, if_neg (by omega)]
    rw [Nat.mul_zero, Nat.zero_add] at progress
    exact progress
  | succ n ih =>
    have count : 6 * (n + 1) + room = 6 + (6 * n + room) := by omega
    have shift : g + (n + 1) = g + 1 + n := by omega
    rw [count] at progress
    have step := progress.step (pairBlock_length convert_length yuyv)
    rw [← convertPair_run] at step
    rw [convertPairs_step _ _ _ _ _ _ (by omega), shift]
    exact ih (g + 1) ((convertPair yuyv (4 * g) (6 * g)).run b).2 step

/-- The product of two dimensions fits into 64 bits. -/
theorem pixelCount_toNat (width height : UInt32) :
    (width.toUInt64 * height.toUInt64).toNat = width.toNat * height.toNat := by
  have small : width.toNat * height.toNat ≤ (2 ^ 32 - 1) * (2 ^ 32 - 1) :=
    Nat.mul_le_mul (Nat.le_sub_one_of_lt width.toNat_lt) (Nat.le_sub_one_of_lt height.toNat_lt)
  rw [UInt64.toNat_mul, UInt32.toNat_toUInt64, UInt32.toNat_toUInt64, Nat.mod_eq_of_lt (by omega)]

/-- Three times the product need not. -/
theorem rgbSize_toNat (width height : UInt32) :
    (width.toUInt64 * height.toUInt64 * 3).toNat = width.toNat * height.toNat * 3 % 2 ^ 64 := by
  rw [UInt64.toNat_mul, pixelCount_toNat]
  rfl

theorem resize_ok {size : Nat} (fits : size ≤ vectorMaxSize) :
    resize size = .ok (List.replicate size 0) :=
  if_neg (Nat.not_lt.mpr fits)

theorem yuyvToRgb_error (yuyv : Nat → UInt8) (width height : UInt32)
    (large : vectorMaxSize < width.toNat * height.toNat * 3 % 2 ^ 64) :
    ∃ message, yuyvToRgb yuyv width height = .error message := by
  rw [yuyvToRgb, rgbSize_toNat, resize, if_pos large]
  exact ⟨_, rfl⟩

theorem yuyvToRgb_ok (yuyv : Nat → UInt8) (width height : UInt32)
    (fits : width.toNat * height.toNat * 3 % 2 ^ 64 ≤ vectorMaxSize) :
    ∃ buffer, yuyvToRgb yuyv width height = .ok buffer := by
  rw [yuyvToRgb, rgbSize_toNat, resize_ok fits]
  exact ⟨_, rfl⟩

/-- As long as the vector has its true size, the pixels are converted one pair behind the other;
a last single pixel stays black. -/
theorem yuyvToRgb_progress (yuyv : Nat → UInt8) (width height : UInt32)
    (fits : width.toNat * height.toNat * 3 ≤ vectorMaxSize) :
    ∃ buffer, yuyvToRgb yuyv width height = .ok buffer ∧
      Progress 0 (pairBlock convert yuyv) groupReads 6 (width.toNat * height.toNat / 2)
        (3 * (width.toNat * height.toNat % 2)) buffer := by
  have exact : width.toNat * height.toNat * 3 % 2 ^ 64 = width.toNat * height.toNat * 3 :=
    Nat.mod_eq_of_lt (by rw [vectorMaxSize] at fits; omega)
  rw [yuyvToRgb, rgbSize_toNat, exact, resize_ok fits, pixelCount_toNat]
  generalize width.toNat * height.toNat = pixelCount
  refine ⟨_, rfl, ?_⟩
  have size : pixelCount * 3 = 6 * (pixelCount / 2) + 3 * (pixelCount % 2) := by omega
  have count : pixelCount = 2 * (0 + pixelCount / 2) + pixelCount % 2 := by omega
  have run := convertPairs_progress yuyv (pixelCount % 2) (pixelCount / 2) 0
    (3 * (pixelCount % 2)) (by omega) _ (.start 0 _ groupReads 6 _)
  rw [← count, ← size, Nat.zero_add] at run
  exact run

end V4l2Capture.Image
