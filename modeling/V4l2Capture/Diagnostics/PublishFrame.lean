import V4l2Capture.Diagnostics.HandleClient
import V4l2Capture.Diagnostics.YuyvConversion
import Mathlib.Tactic.Ring

/-!
# The published messages

`tryPublish` is the part of `publish_frame` that can throw: it builds the Image and CameraInfo
messages of a frame and publishes them. The images of accepted YUYV frames are well formed in
every encoding. Their stamps tell the capture time as long as its seconds fit a signed 32-bit field.
-/
namespace V4l2Capture.Diagnostics

open Protocol BlockLoop Image

/-- `builtin_interfaces::msg::Time`. -/
structure RosTime where
  sec : Int32
  nanosec : UInt32
  deriving DecidableEq

/-- `std_msgs::msg::Header`. -/
structure RosHeader where
  stamp : RosTime
  frameId : String
  deriving DecidableEq

/-- `sensor_msgs::msg::Image`. -/
structure ImageMessage where
  header : RosHeader
  height : UInt32
  width : UInt32
  encoding : String
  isBigendian : UInt8
  step : UInt32
  data : List UInt8
  deriving DecidableEq

/-- `sensor_msgs::msg::CameraInfo`; the numbers of `R` have type `double` in the source. -/
structure CameraInfo (R : Type) where
  header : RosHeader
  width : UInt32
  height : UInt32
  distortionModel : String
  d : List R
  k : List R
  r : List R
  p : List R

/-- The parameters of the node that the messages depend on. -/
structure PublishConfig (R : Type) where
  cameraFrameId : String
  outputEncoding : String
  cameraCalibrated : Bool
  cameraFx : R
  cameraFy : R
  cameraCx : R
  cameraCy : R
  cameraK1 : R
  cameraK2 : R
  cameraP1 : R
  cameraP2 : R
  cameraK3 : R

/-- What `publish` throws, if it throws. -/
structure Publishers where
  image : Option String
  cameraInfo : Option String

/-- The seconds are narrowed to 32 bits and read as a signed number. -/
def toRosTime (timestampNs : UInt64) : RosTime where
  sec := (timestampNs / 1000000000).toUInt32.toInt32
  nanosec := (timestampNs % 1000000000).toUInt32

variable {R : Type}

def makeCameraInfo [Zero R] [One R] (cfg : PublishConfig R) (width height : UInt32)
    (stamp : RosTime) : CameraInfo R :=
  let info : CameraInfo R := {
    header := ⟨stamp, cfg.cameraFrameId⟩
    width := width
    height := height
    distortionModel := "plumb_bob"
    d := []
    k := List.replicate 9 0
    r := (((List.replicate 9 0).set 0 1).set 4 1).set 8 1
    p := List.replicate 12 0 }
  if cfg.cameraCalibrated then
    { info with
      d := [cfg.cameraK1, cfg.cameraK2, cfg.cameraP1, cfg.cameraP2, cfg.cameraK3]
      k := ((((info.k.set 0 cfg.cameraFx).set 2 cfg.cameraCx).set 4 cfg.cameraFy).set 5
        cfg.cameraCy).set 8 1
      p := ((((info.p.set 0 cfg.cameraFx).set 2 cfg.cameraCx).set 5 cfg.cameraFy).set 6
        cfg.cameraCy).set 10 1 }
  else info

/-- An image of a frame, up to what depends on the encoding. -/
def imageMessage (cfg : PublishConfig R) (header : FrameHeader) (encoding : String) (step : UInt32)
    (data : List UInt8) : ImageMessage where
  header := ⟨toRosTime header.captureTimestampNs, cfg.cameraFrameId⟩
  height := header.height
  width := header.width
  encoding := encoding
  isBigendian := 0
  step := step
  data := data

def makeImage (cfg : PublishConfig R) (header : FrameHeader) (payload : List UInt8) :
    Except String ImageMessage :=
  if cfg.outputEncoding = "rgb8" then do
    let rgb ← convertYuyvToRgb8 payload header.width header.height
    pure (imageMessage cfg header "rgb8" (header.width * 3) rgb.items)
  else if cfg.outputEncoding = "mono8" then do
    let mono ← convertYuyvToMono8 payload header.width header.height
    pure (imageMessage cfg header "mono8" header.width mono.items)
  else pure (imageMessage cfg header "yuv422_yuy2" (header.width * 2) payload)

/-- The `try` block of `publish_frame`, with the two messages that it publishes. -/
def tryPublish [Zero R] [One R] (cfg : PublishConfig R) (publishers : Publishers)
    (header : FrameHeader) (payload : List UInt8) : Except String (ImageMessage × CameraInfo R) := do
  let image ← makeImage cfg header payload
  let cameraInfo := makeCameraInfo cfg header.width header.height image.header.stamp
  match publishers.image with
  | some message => .error message
  | none =>
    match publishers.cameraInfo with
    | some message => .error message
    | none => pure (image, cameraInfo)

/-- The outcome that `publishFrame` takes from its environment. -/
def publishFailure : Except String (ImageMessage × CameraInfo R) → Option String
  | .ok _ => none
  | .error message => some message

/-! ### Accepted frames -/

/-- A conversion used indices of its payload and of its vector only. -/
structure InRange (payload : List UInt8) (converted : Buffer UInt8) : Prop where
  reads : ∀ i ∈ converted.reads, i < payload.length
  writes : ∀ i ∈ converted.writes, i < converted.items.length

/-- What pixel `k` becomes in the two conversions: its luma, and the formulas of BT.601 in
fixed point, rounded down and limited to a byte. Luma up to 16 counts as black. -/
def PixelConverted (payload rgb mono : List UInt8) (k : Nat) : Prop :=
  ∃ y u v red green blue : UInt8, payload[2 * k]? = some y ∧
    payload[4 * (k / 2) + 1]? = some u ∧ payload[4 * (k / 2) + 3]? = some v ∧
    mono[k]? = some y ∧
    rgb[3 * k]? = some red ∧ rgb[3 * k + 1]? = some green ∧ rgb[3 * k + 2]? = some blue ∧
    ∀ c d e : Int, c = (if y.toNat > 16 then (y.toNat : Int) - 16 else 0) →
      d = u.toNat - 128 → e = v.toNat - 128 →
      (red.toNat : Int) = max 0 (min 255 ((298 * c + 409 * e + 128) >>> (8 : Nat))) ∧
      (green.toNat : Int) =
        max 0 (min 255 ((298 * c - 100 * d - 208 * e + 128) >>> (8 : Nat))) ∧
      (blue.toNat : Int) = max 0 (min 255 ((298 * c + 516 * d + 128) >>> (8 : Nat)))

/-- The clamped samples as numbers. -/
theorem clampToU8_cast (value : Int) :
    ((clampToU8 value).toNat : Int) = max 0 (min 255 value) := by
  rw [clampToU8_toNat]
  omega

theorem lumaReads_lt (g : Nat) : ∀ i ∈ lumaReads g, i < 4 * (g + 1) := by
  intro i member
  simp only [lumaReads, List.mem_cons, List.not_mem_nil, or_false] at member
  omega

/-- The blocks of a loop, one pixel at a time. -/
theorem pairBlock_pixel {pixel : UInt8 → UInt8 → UInt8 → List UInt8}
    (three : ∀ y u v, (pixel y u v).length = 3) (yuyv : Nat → UInt8) {k c : Nat} (place : c < 3) :
    (pairBlock pixel yuyv (k / 2))[3 * (k % 2) + c]? =
      (pixel (yuyv (2 * k)) (yuyv (4 * (k / 2) + 1)) (yuyv (4 * (k / 2) + 3)))[c]? := by
  rcases Nat.mod_two_eq_zero_or_one k with first | second
  · have start : 4 * (k / 2) = 2 * k := by omega
    rw [pairBlock, first, List.getElem?_append_left (by rw [three]; omega), start,
      Nat.mul_zero, Nat.zero_add]
  · have start : 4 * (k / 2) + 2 = 2 * k := by omega
    have behind : 3 * 1 + c - 3 = c := by omega
    rw [pairBlock, second, List.getElem?_append_right (by rw [three]; omega), three, start, behind]

section Accepted

variable {header : FrameHeader} {limit : UInt32} {payload : List UInt8}

/-- What validation says about a YUYV frame, for the conversions. -/
structure YuyvFrame (header : FrameHeader) (payload : List UInt8) : Prop where
  size : payload.length = header.width.toNat * header.height.toNat * 2
  even : header.width.toNat % 2 = 0
  width : header.width.toNat ≤ 16384
  small : header.width.toNat * header.height.toNat ≤ 2 ^ 28

theorem yuyvFrame_of_accepted (accepted : validateHeader header limit = .ok ())
    (isYuyv : header.pixelFormat = V4L2_PIX_FMT_YUYV)
    (size : payload.length = header.payloadSize.toNat) : YuyvFrame header payload := by
  have valid := (validateHeader_ok_iff header limit).mp accepted
  obtain ⟨even, exact⟩ := valid.yuyv isYuyv
  have width : header.width.toNat ≤ 16384 := valid.bounded.1
  have height : header.height.toNat ≤ 16384 := valid.bounded.2
  exact ⟨size.trans exact, even, width, (Nat.mul_le_mul width height).trans (by decide)⟩

theorem YuyvFrame.rgb8 (frame : YuyvFrame header payload) :
    ∃ rgb, convertYuyvToRgb8 payload header.width header.height = .ok rgb ∧
      Progress 0 (pairBlock rgb8Pixel fun i => payload.getD i 0) groupReads 6
        (header.width.toNat * header.height.toNat / 2) 0 rgb := by
  have small := frame.small
  exact convertYuyvToRgb8_progress frame.size frame.even (by rw [vectorMaxSize]; omega)

theorem YuyvFrame.mono8 (frame : YuyvFrame header payload) :
    ∃ mono, convertYuyvToMono8 payload header.width header.height = .ok mono ∧
      Progress 0 (lumaBlock fun i => payload.getD i 0) lumaReads 2
        (header.width.toNat * header.height.toNat / 2) 0 mono := by
  have small := frame.small
  exact convertYuyvToMono8_progress frame.size frame.even
    (by rw [frame.size, vectorMaxSize]; omega)

/-- The blocks of both conversions, read off for a single pixel. -/
theorem pixelConverted {rgb mono : Buffer UInt8} {pairs k : Nat}
    (size : payload.length = 4 * pairs) (inside : k < 2 * pairs)
    (rgb_progress : Progress 0 (pairBlock rgb8Pixel fun i => payload.getD i 0) groupReads 6 pairs 0
      rgb)
    (mono_progress : Progress 0 (lumaBlock fun i => payload.getD i 0) lumaReads 2 pairs 0 mono) :
    PixelConverted payload rgb.items mono.items k := by
  have read (i : Nat) (within : i < payload.length) : payload[i]? = some (payload.getD i 0) := by
    rw [List.getD_eq_getElem?_getD, List.getElem?_eq_getElem within, Option.getD_some]
  have half : k / 2 < pairs := by omega
  have sample (c : Nat) (place : c < 3) : rgb.items[3 * k + c]? =
      (rgb8Pixel (payload.getD (2 * k) 0) (payload.getD (4 * (k / 2) + 1) 0)
        (payload.getD (4 * (k / 2) + 3) 0))[c]? := by
    have index : 3 * k + c = 6 * (k / 2) + (3 * (k % 2) + c) := by omega
    rw [rgb_progress.items, index,
      getElem?_blocks (pairBlock_length rgb8Pixel_length _) half (by omega),
      pairBlock_pixel rgb8Pixel_length _ place]
  refine ⟨_, _, _, _, _, _, read _ (by omega), read _ (by omega), read _ (by omega), ?_,
    sample 0 (by omega), sample 1 (by omega), sample 2 (by omega), ?_⟩
  · have place : k = 2 * (k / 2) + k % 2 := by omega
    rw [mono_progress.items, place,
      getElem?_blocks (lumaBlock_length _) half (Nat.mod_lt k (by decide)), ← place, lumaBlock]
    rcases Nat.mod_two_eq_zero_or_one k with first | second
    · have start : 4 * (k / 2) = 2 * k := by omega
      rw [first, start]
      rfl
    · have start : 4 * (k / 2) + 2 = 2 * k := by omega
      rw [second, start]
      rfl
  · rintro c d e rfl rfl rfl
    exact ⟨clampToU8_cast _, clampToU8_cast _, clampToU8_cast _⟩

theorem YuyvFrame.image (frame : YuyvFrame header payload) (cfg : PublishConfig R) :
    ∃ image, makeImage cfg header payload = .ok image ∧
      image.data.length = image.step.toNat * image.height.toNat := by
  obtain ⟨rgb, rgb_converted, rgb_progress⟩ := frame.rgb8
  obtain ⟨mono, mono_converted, mono_progress⟩ := frame.mono8
  have width := frame.width
  have pairs := (payload_groups frame.size frame.even).2
  have step (n : UInt32) (narrow : n.toNat ≤ 3) :
      (header.width * n).toNat = header.width.toNat * n.toNat := by
    have product : header.width.toNat * n.toNat ≤ 16384 * 3 := Nat.mul_le_mul width narrow
    rw [UInt32.toNat_mul, Nat.mod_eq_of_lt (by omega)]
  rw [makeImage, rgb_converted, mono_converted]
  split
  · refine ⟨_, rfl, ?_⟩
    have area : header.width.toNat * 3 * header.height.toNat =
        3 * (header.width.toNat * header.height.toNat) := by ring
    change rgb.items.length = (header.width * 3).toNat * header.height.toNat
    rw [rgb_progress.length (pairBlock_length rgb8Pixel_length _), step 3 (by decide)]
    change _ = header.width.toNat * 3 * header.height.toNat
    omega
  split
  · refine ⟨_, rfl, ?_⟩
    change mono.items.length = header.width.toNat * header.height.toNat
    rw [mono_progress.length (lumaBlock_length _)]
    omega
  · refine ⟨_, rfl, ?_⟩
    change payload.length = (header.width * 2).toNat * header.height.toNat
    rw [frame.size, step 2 (by decide)]
    change _ = header.width.toNat * 2 * header.height.toNat
    ring

/-- With the image built, the `try` block throws what a publisher throws, and nothing else. -/
theorem YuyvFrame.publishFailure [Zero R] [One R] (frame : YuyvFrame header payload)
    (cfg : PublishConfig R) (publishers : Publishers) :
    publishFailure (tryPublish cfg publishers header payload) =
      publishers.image.or publishers.cameraInfo := by
  obtain ⟨image, built, _⟩ := frame.image cfg
  rw [tryPublish, built]
  obtain ⟨imageThrows, cameraInfoThrows⟩ := publishers
  cases imageThrows with
  | some message => rfl
  | none => cases cameraInfoThrows <;> rfl

end Accepted

/-- Every accepted YUYV frame is converted pixel by pixel, its images are well formed, and only
the publishers can keep it from being published and counted. -/
theorem accepted_frame_converted (header : FrameHeader) (limit : UInt32) (payload : List UInt8)
    (accepted : validateHeader header limit = .ok ())
    (isYuyv : header.pixelFormat = V4L2_PIX_FMT_YUYV)
    (size : payload.length = header.payloadSize.toNat) :
    (∃ rgb mono, convertYuyvToRgb8 payload header.width header.height = .ok rgb ∧
      convertYuyvToMono8 payload header.width header.height = .ok mono ∧
      InRange payload rgb ∧ InRange payload mono ∧
      ∀ k < header.width.toNat * header.height.toNat,
        PixelConverted payload rgb.items mono.items k) ∧
    (∀ cfg : PublishConfig R, ∃ image, makeImage cfg header payload = .ok image ∧
      image.data.length = image.step.toNat * image.height.toNat) ∧
    ∀ [Zero R] [One R] (cfg : PublishConfig R) (publishers : Publishers),
      publishFailure (tryPublish cfg publishers header payload) =
        publishers.image.or publishers.cameraInfo ∧
      ∀ (node : NodeConfig) (env : NodeEnv) (st : NodeState), node.publishImages = true →
        env.publishFails st.receivedFrames =
          publishFailure (tryPublish cfg publishers header payload) →
        ((publishFrame node env st header).publishedImages = st.publishedImages + 1 ↔
          publishers.image = none ∧ publishers.cameraInfo = none) := by
  have frame := yuyvFrame_of_accepted accepted isYuyv size
  obtain ⟨rgb, rgb_converted, rgb_progress⟩ := frame.rgb8
  obtain ⟨mono, mono_converted, mono_progress⟩ := frame.mono8
  have groups := payload_groups frame.size frame.even
  have read_lt (i : Nat) (below : i < 4 * (header.width.toNat * header.height.toNat / 2)) :
      i < payload.length := by omega
  refine ⟨⟨rgb, mono, rgb_converted, mono_converted, ?_, ?_, ?_⟩, frame.image, ?_⟩
  · exact ⟨fun i read => read_lt i (rgb_progress.reads_lt groupReads_lt i read),
      fun i written => rgb_progress.writes_lt (pairBlock_length rgb8Pixel_length _) i written⟩
  · exact ⟨fun i read => read_lt i (mono_progress.reads_lt lumaReads_lt i read),
      fun i written => mono_progress.writes_lt (lumaBlock_length _) i written⟩
  · intro k inside
    exact pixelConverted (by omega) (by omega) rgb_progress mono_progress
  · intro _ _ cfg publishers
    refine ⟨frame.publishFailure cfg publishers, ?_⟩
    intro node env st enabled agrees
    rw [frame.publishFailure] at agrees
    rw [publishFrame, if_neg (by simp [enabled]), if_neg (not_not.mpr isYuyv), agrees,
      ← Option.or_eq_none_iff]
    cases publishers.image.or publishers.cameraInfo <;> simp

/-- `accepted_frame_converted` for two pixels, one of them pure red and the other one brighter. -/
theorem accepted_frame_converted_pair :
    ∃ rgb mono, convertYuyvToRgb8 [81, 90, 145, 240] 2 1 = .ok rgb ∧
      convertYuyvToMono8 [81, 90, 145, 240] 2 1 = .ok mono ∧
      (mono.items[0]? = some 81 ∧ rgb.items[0]? = some 255 ∧ rgb.items[1]? = some 0 ∧
        rgb.items[2]? = some 0) ∧
      mono.items[1]? = some 145 ∧ rgb.items[3]? = some 255 ∧ rgb.items[4]? = some 74 ∧
        rgb.items[5]? = some 74 := by
  obtain ⟨⟨rgb, mono, rgb_converted, mono_converted, -, -, pixels⟩, -, -⟩ :=
    accepted_frame_converted (R := Int)
      (makeHeader 0 1000000000 2 1 V4L2_PIX_FMT_YUYV 4 (computeCrc32 [81, 90, 145, 240]))
      kDefaultMaxPayloadBytes [81, 90, 145, 240] rfl rfl rfl
  refine ⟨rgb, mono, rgb_converted, mono_converted, ?_, ?_⟩
  · obtain ⟨y, u, v, red, green, blue, ⟨⟩, ⟨⟩, ⟨⟩, luma, r, g, b, formulas⟩ :=
      pixels 0 (by decide)
    obtain ⟨red_eq, green_eq, blue_eq⟩ := formulas 65 (-38) 112 (by decide) (by decide) (by decide)
    exact ⟨luma, r.trans (congrArg some (UInt8.toNat_inj.mp (Int.ofNat_inj.mp red_eq))),
      g.trans (congrArg some (UInt8.toNat_inj.mp (Int.ofNat_inj.mp green_eq))),
      b.trans (congrArg some (UInt8.toNat_inj.mp (Int.ofNat_inj.mp blue_eq)))⟩
  · obtain ⟨y, u, v, red, green, blue, ⟨⟩, ⟨⟩, ⟨⟩, luma, r, g, b, formulas⟩ :=
      pixels 1 (by decide)
    obtain ⟨red_eq, green_eq, blue_eq⟩ := formulas 129 (-38) 112 (by decide) (by decide) (by decide)
    exact ⟨luma, r.trans (congrArg some (UInt8.toNat_inj.mp (Int.ofNat_inj.mp red_eq))),
      g.trans (congrArg some (UInt8.toNat_inj.mp (Int.ofNat_inj.mp green_eq))),
      b.trans (congrArg some (UInt8.toNat_inj.mp (Int.ofNat_inj.mp blue_eq)))⟩

/-- A node that publishes the packed bytes, without a calibration. -/
def packedConfig : PublishConfig Int where
  cameraFrameId := "camera"
  outputEncoding := "yuv422_yuy2"
  cameraCalibrated := false
  cameraFx := 0
  cameraFy := 0
  cameraCx := 0
  cameraCy := 0
  cameraK1 := 0
  cameraK2 := 0
  cameraP1 := 0
  cameraP2 := 0
  cameraK3 := 0

/-- The header of two pixels. -/
def pairHeader (captureTimestampNs : UInt64) : FrameHeader :=
  makeHeader 0 captureTimestampNs 2 1 V4L2_PIX_FMT_YUYV 4 (computeCrc32 [16, 128, 235, 128])

/-! ### Stamps -/

/-- The stamp denotes the time and is a normal form of it. -/
def ExactStamp (stamp : RosTime) (timestampNs : UInt64) : Prop :=
  0 ≤ stamp.sec.toInt ∧ stamp.nanosec.toNat < 10 ^ 9 ∧
    stamp.sec.toInt * 10 ^ 9 + stamp.nanosec.toNat = timestampNs.toNat

theorem toInt32_toInt (x : UInt32) :
    x.toInt32.toInt = if x.toNat < 2 ^ 31 then (x.toNat : Int) else x.toNat - 2 ^ 32 := by
  rw [Int32.toInt, UInt32.toBitVec_toInt32, BitVec.toInt_eq_toNat_cond, UInt32.toNat_toBitVec]
  split <;> split <;> omega

theorem toRosTime_exact_iff (timestampNs : UInt64) :
    ExactStamp (toRosTime timestampNs) timestampNs ↔ timestampNs.toNat < 2 ^ 31 * 10 ^ 9 := by
  have range := timestampNs.toNat_lt
  have seconds : (timestampNs / 1000000000).toUInt32.toNat =
      timestampNs.toNat / 1000000000 % 2 ^ 32 := by
    rw [UInt64.toNat_toUInt32, UInt64.toNat_div]
    rfl
  have rest : (timestampNs % 1000000000).toUInt32.toNat = timestampNs.toNat % 1000000000 := by
    rw [UInt64.toNat_toUInt32, UInt64.toNat_mod]
    exact Nat.mod_eq_of_lt (by simp; omega)
  rw [ExactStamp, toRosTime, toInt32_toInt, seconds, rest]
  constructor
  · rintro ⟨positive, -, sum⟩
    split at sum
    · omega
    · omega
  · intro small
    have exact : timestampNs.toNat / 1000000000 % 2 ^ 32 = timestampNs.toNat / 1000000000 :=
      Nat.mod_eq_of_lt (by omega)
    rw [exact, if_pos (by omega)]
    exact ⟨by omega, by omega, by omega⟩

theorem makeImage_stamp {cfg : PublishConfig R} {header : FrameHeader} {payload : List UInt8}
    {image : ImageMessage} (built : makeImage cfg header payload = .ok image) :
    image.header.stamp = toRosTime header.captureTimestampNs := by
  rw [makeImage] at built
  split at built
  · cases converted : convertYuyvToRgb8 payload header.width header.height with
    | error message =>
      rw [converted] at built
      cases built
    | ok rgb =>
      rw [converted] at built
      cases built
      rfl
  split at built
  · cases converted : convertYuyvToMono8 payload header.width header.height with
    | error message =>
      rw [converted] at built
      cases built
    | ok mono =>
      rw [converted] at built
      cases built
      rfl
  · cases built
    rfl

theorem makeCameraInfo_stamp [Zero R] [One R] (cfg : PublishConfig R) (width height : UInt32)
    (stamp : RosTime) :
    (makeCameraInfo cfg width height stamp).header.stamp = stamp := by
  rw [makeCameraInfo]
  split <;> rfl

/-- The stamps of both messages denote the capture time exactly up to the year 2038. -/
theorem stamps_exact_iff [Zero R] [One R] (cfg : PublishConfig R) (header : FrameHeader)
    (payload : List UInt8) (image : ImageMessage) (built : makeImage cfg header payload = .ok image) :
    ExactStamp image.header.stamp header.captureTimestampNs ∧
        ExactStamp (makeCameraInfo cfg header.width header.height image.header.stamp).header.stamp
          header.captureTimestampNs ↔
      header.captureTimestampNs.toNat < 2 ^ 31 * 10 ^ 9 := by
  rw [makeCameraInfo_stamp, makeImage_stamp built, and_self, toRosTime_exact_iff]

/-- `stamps_exact_iff` one second after the epoch. -/
theorem stamps_exact_oneSecond :
    ExactStamp (toRosTime 1000000000) 1000000000 := by
  exact ((stamps_exact_iff packedConfig (pairHeader 1000000000) [16, 128, 235, 128] _ rfl).mpr
    (by decide)).1

/-- The first second that does not fit is stamped as one long before the epoch. -/
theorem stamps_not_exact :
    ¬ ∀ (cfg : PublishConfig Int) (limit : UInt32) (header : FrameHeader) (payload : List UInt8)
        (image : ImageMessage), validateHeader header limit = .ok () →
      header.pixelFormat = V4L2_PIX_FMT_YUYV → payload.length = header.payloadSize.toNat →
      makeImage cfg header payload = .ok image →
      ExactStamp image.header.stamp header.captureTimestampNs := by
  intro always
  have exact := always packedConfig kDefaultMaxPayloadBytes (pairHeader 2147483648000000000)
    [16, 128, 235, 128] _ rfl rfl rfl rfl
  exact absurd exact.1 (by decide)

end V4l2Capture.Diagnostics
