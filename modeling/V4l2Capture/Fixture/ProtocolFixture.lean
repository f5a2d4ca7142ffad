import V4l2Capture.Protocol.Validation

/-!
# Writing and verifying the protocol fixture

`writeFixture` and `verifyFixture` are the two modes of the program: the first writes a
stream of deterministic frames, the second reads such a file back frame by frame. A file
is the list of its bytes. The outcomes of the file operations are inputs.
-/
namespace V4l2Capture.Fixture

open Protocol

def kFixtureWidth : UInt32 := 8
def kFixtureHeight : UInt32 := 4
def kFixtureTimestampBase : UInt64 := 1700000000000000000
def kFixtureTimestampStep : UInt64 := 33333333

/-- The options; `parse_positive_u64` accepts frame counts from 1 to 1000000. -/
structure Options where
  writePath : String
  verifyPath : String
  statsOutput : String
  frames : Nat
  frames_pos : 1 ≤ frames
  frames_le : frames ≤ 1000000

/-! ### The deterministic frames -/

/-- The four bytes of two neighbouring pixels, at column `x` of row `y`. -/
def fixturePixels (seed y x : UInt32) : List UInt8 :=
  let y0 := ((x + y * 17 + seed * 3) &&& 0xff).toUInt8
  let y1 := ((x + y * 29 + seed * 5 + 1) &&& 0xff).toUInt8
  let u := ((96 + y * 7 + seed) &&& 0xff).toUInt8
  let v := ((160 + x * 5 + seed * 2) &&& 0xff).toUInt8
  [y0, u, y1, v]

def makeFixturePayload (frameId : UInt64) : List UInt8 :=
  let seed := (frameId &&& 0xffffffff).toUInt32
  (List.range kFixtureHeight.toNat).flatMap fun y =>
    (List.range (kFixtureWidth.toNat / 2)).flatMap fun pair =>
      fixturePixels seed (UInt32.ofNat y) (UInt32.ofNat (2 * pair))

def fixtureTimestamp (frameId : UInt64) : UInt64 :=
  kFixtureTimestampBase + frameId * kFixtureTimestampStep

/-- The header that the writer puts before the payload. -/
def fixtureHeader (frameId : UInt64) : FrameHeader :=
  let payload := makeFixturePayload frameId
  makeHeader frameId (fixtureTimestamp frameId) kFixtureWidth kFixtureHeight V4L2_PIX_FMT_YUYV
    (UInt32.ofNat payload.length) (computeCrc32 payload)

/-! ### The stats file -/

/-- What opening a file for writing meets: an error of `create_directories`, which is called
for a path with a parent only, and whether the stream opens. -/
structure OpenOutcome where
  directories : Option String := none
  opened : Bool := true
  deriving DecidableEq, Repr

def openForWriting (path failure : String) (outcome : OpenOutcome) : Except String Unit :=
  match path.contains '/', outcome.directories with
  | true, some error => .error error
  | _, _ => if outcome.opened then .ok () else .error (failure ++ path)

def jsonEscape (text : String) : String :=
  text.foldl (fun escaped ch => escaped ++ match ch with
    | '\\' => "\\\\"
    | '"' => "\\\""
    | '\n' => "\\n"
    | '\r' => "\\r"
    | '\t' => "\\t"
    | ch => ch.toString) ""

/-- `write_stats`; `none` when no stats file is asked for, else the text written. -/
def writeStats (path mode fixturePath : String) (frames bytes : Nat) (verified : Bool)
    (outcome : OpenOutcome) : Except String (Option String) :=
  if path = "" then .ok none
  else do
    openForWriting path "Failed to open stats output: " outcome
    return some ("\x7b\n" ++
      "  \"mode\": \"" ++ jsonEscape mode ++ "\",\n" ++
      "  \"fixture_path\": \"" ++ jsonEscape fixturePath ++ "\",\n" ++
      "  \"protocol_version\": " ++ toString kVersion ++ ",\n" ++
      "  \"wire_header_size\": " ++ toString kWireHeaderSize ++ ",\n" ++
      "  \"frames\": " ++ toString frames ++ ",\n" ++
      "  \"bytes\": " ++ toString bytes ++ ",\n" ++
      "  \"verified\": " ++ (if verified then "true" else "false") ++ "\n" ++
      "\x7d\n")

/-! ### `write_fixture` -/

/-- The stream so far, and the counter of its bytes. -/
structure Written where
  content : List UInt8 := []
  bytes : Nat := 0
  deriving DecidableEq, Repr

/-- One round of the writing loop; `good` tells whether the stream is good after it. -/
def writeFrame (path : String) (good : Nat → Bool) (written : Written) (frame : Nat) :
    Except String Written :=
  let frameId := UInt64.ofNat frame
  let payload := makeFixturePayload frameId
  let wire := (serializeHeader (fixtureHeader frameId)).toList
  if good frame then
    .ok ⟨written.content ++ wire ++ payload, written.bytes + (wire.length + payload.length)⟩
  else .error ("Failed while writing fixture: " ++ path)

/-- The outcomes of the calls. The flush at `out.close()` has none: the source does not look at
it, and it is taken to succeed. -/
structure WriteEnv where
  file : OpenOutcome := {}
  good : Nat → Bool := fun _ => true
  stats : OpenOutcome := {}

/-- What a finished run leaves: the bytes in the fixture, the stats text, the line printed. -/
structure Report where
  content : List UInt8
  stats : Option String
  line : String
  deriving DecidableEq, Repr

def writeFixture (options : Options) (env : WriteEnv) : Except String Report := do
  openForWriting options.writePath "Failed to open fixture for writing: " env.file
  let written ← (List.range options.frames).foldlM (writeFrame options.writePath env.good) {}
  let stats ← writeStats options.statsOutput "write" options.writePath options.frames
    written.bytes true env.stats
  return ⟨written.content, stats, "[PASS] fixture_write" ++
    " frames=" ++ toString options.frames ++ " bytes=" ++ toString written.bytes ++
    " header_bytes=" ++ toString kWireHeaderSize ++ " path=" ++ options.writePath⟩

/-! ### `verify_fixture` -/

/-- `in.read(size)`: the bytes delivered, the rest of the file, and `eof()`. -/
structure ReadResult where
  bytes : List UInt8
  rest : List UInt8
  eof : Bool

def readFile (input : List UInt8) (size : Nat) : ReadResult :=
  ⟨input.take size, input.drop size, input.length < size⟩

/-- The part of a round behind the decoding: the checks of the header, the payload and its
checks. It returns the bytes of the payload and the rest of the file. -/
def verifyPayload (verifiedFrames : Nat) (header : FrameHeader) (input : List UInt8) :
    Except String (Nat × List UInt8) :=
  let frame := toString verifiedFrames
  match validateHeader header kDefaultMaxPayloadBytes with
  | .error reason => .error ("Header validation failed at frame " ++ frame ++ ": " ++ reason)
  | .ok () =>
    if header.frameId.toNat ≠ verifiedFrames ∨
        header.captureTimestampNs ≠ fixtureTimestamp (UInt64.ofNat verifiedFrames) ∨
        header.width ≠ kFixtureWidth ∨ header.height ≠ kFixtureHeight ∨
        header.pixelFormat ≠ V4L2_PIX_FMT_YUYV then
      .error ("Deterministic header fields mismatch at frame " ++ frame)
    else
      let body := readFile input header.payloadSize.toNat
      if body.bytes.length ≠ header.payloadSize.toNat then
        .error ("Truncated payload at frame " ++ frame)
      else if computeCrc32 body.bytes ≠ header.payloadCrc32 then
        .error ("CRC mismatch at frame " ++ frame)
      else if body.bytes ≠ makeFixturePayload (UInt64.ofNat verifiedFrames) then
        .error ("Deterministic payload mismatch at frame " ++ frame)
      else .ok (body.bytes.length, body.rest)

/-- One round of the verifying loop: `none` leaves the loop, else the bytes verified and the
rest of the file. A file holds fewer than 2^63 bytes, so the counter of its frames never
wraps. -/
def verifyFrame (verifiedFrames : Nat) (input : List UInt8) :
    Except String (Option (Nat × List UInt8)) :=
  let frame := toString verifiedFrames
  let head := readFile input kWireHeaderSize
  if head.bytes.length = 0 ∧ head.eof = true then .ok none
  else if head.bytes.length ≠ kWireHeaderSize then
    .error ("Truncated wire header at frame " ++ frame)
  else
    let decoded := deserializeHeaderBytes (some head.bytes) {}
    if decoded.ok = false then
      .error ("Header decode failed at frame " ++ frame ++ ": " ++ decoded.reason)
    else
      match verifyPayload verifiedFrames decoded.header head.rest with
      | .error failure => .error failure
      | .ok (payloadBytes, rest) => .ok (some (head.bytes.length + payloadBytes, rest))

/-! ### One accepted frame -/

theorem guard_eq_ok {β : Type} {c : Prop} [Decidable c] {reason : String}
    {next : Except String β} {x : β} :
    (if c then .error reason else next) = .ok x ↔ ¬ c ∧ next = .ok x := by
  by_cases h : c <;> simp [h]

@[simp] theorem makeFixturePayload_length (frameId : UInt64) :
    (makeFixturePayload frameId).length = 64 := by
  simp [makeFixturePayload, fixturePixels, kFixtureHeight, kFixtureWidth]

theorem fixtureHeader_payloadSize (frameId : UInt64) :
    (fixtureHeader frameId).payloadSize = 64 := by
  rw [fixtureHeader, makeHeader, makeFixturePayload_length]
  rfl

/-- A header with the fields that the verifier compares is the one the writer makes, once it
is known to carry the checksum of the payload. -/
theorem header_eq_fixtureHeader {header : FrameHeader} {frame : Nat}
    (accepted : HeaderAccepted header kDefaultMaxPayloadBytes)
    (frameId : header.frameId.toNat = frame)
    (timestamp : header.captureTimestampNs = fixtureTimestamp (UInt64.ofNat frame))
    (width : header.width = kFixtureWidth) (height : header.height = kFixtureHeight)
    (format : header.pixelFormat = V4L2_PIX_FMT_YUYV)
    (crc : header.payloadCrc32 = computeCrc32 (makeFixturePayload (UInt64.ofNat frame))) :
    header = fixtureHeader (UInt64.ofNat frame) := by
  obtain ⟨magic, headerSize, version, id, ts, w, h, pf, size, sum⟩ := header
  simp only at frameId timestamp width height format crc
  subst frameId timestamp width height format crc
  have fixedSize : headerSize = UInt16.ofNat kWireHeaderSize := by
    rw [← accepted.headerSize, UInt16.ofNat_toNat]
  have payloadSize : size = UInt32.ofNat 64 := by
    apply UInt32.toNat_inj.mp
    exact (accepted.yuyv rfl).2
  have fixedMagic : magic = kMagic := accepted.magic
  have fixedVersion : version = kVersion := accepted.version
  rw [fixtureHeader, makeHeader, makeFixturePayload_length, UInt64.ofNat_toNat, fixedSize,
    fixedMagic, fixedVersion, payloadSize]

theorem readFile_bytes (content rest : List UInt8) :
    readFile (content ++ rest) content.length = ⟨content, rest, false⟩ := by
  simp [readFile]

/-- A complete read cuts the input in two. -/
theorem readFile_split {input : List UInt8} {size : Nat} :
    input = (readFile input size).bytes ++ (readFile input size).rest :=
  (List.take_append_drop size input).symm

theorem verifyPayload_ok {frame bytes : Nat} {header : FrameHeader} {input rest : List UInt8}
    (accepted : verifyPayload frame header input = .ok (bytes, rest)) :
    frame < 2 ^ 64 ∧ header = fixtureHeader (UInt64.ofNat frame) ∧
      input = makeFixturePayload (UInt64.ofNat frame) ++ rest ∧ bytes = 64 := by
  rw [verifyPayload] at accepted
  split at accepted
  · cases accepted
  next validated =>
    have checks := (validateHeader_ok_iff _ _).mp validated
    obtain ⟨fields, accepted⟩ := guard_eq_ok.mp accepted
    obtain ⟨_, accepted⟩ := guard_eq_ok.mp accepted
    obtain ⟨checksum, accepted⟩ := guard_eq_ok.mp accepted
    obtain ⟨payload, accepted⟩ := guard_eq_ok.mp accepted
    simp only [not_or, not_not] at fields checksum payload
    obtain ⟨frameId, timestamp, width, height, format⟩ := fields
    rw [payload] at checksum accepted
    cases accepted
    refine ⟨?_, ?_, ?_, makeFixturePayload_length _⟩
    · rw [← frameId]
      exact UInt64.toNat_lt _
    · exact header_eq_fixtureHeader checks frameId timestamp width height format checksum.symm
    · rw [← payload]
      exact readFile_split

/-- The bytes of one frame of the fixture. -/
def fixtureFrame (frame : Nat) : List UInt8 :=
  (serializeHeader (fixtureHeader (UInt64.ofNat frame))).toList ++
    makeFixturePayload (UInt64.ofNat frame)

theorem fixtureFrame_length (frame : Nat) :
    (fixtureFrame frame).length = kWireHeaderSize + 64 := by
  simp [fixtureFrame]

/-- An accepted frame is the writer's frame. -/
theorem verifyFrame_frame {frame bytes : Nat} {input rest : List UInt8}
    (accepted : verifyFrame frame input = .ok (some (bytes, rest))) :
    frame < 2 ^ 64 ∧ input = fixtureFrame frame ++ rest ∧ bytes = kWireHeaderSize + 64 := by
  rw [verifyFrame] at accepted
  split at accepted
  · cases accepted
  obtain ⟨whole, accepted⟩ := guard_eq_ok.mp accepted
  rw [not_not] at whole
  simp only [deserializeHeaderBytes, whole, ne_eq, not_true_eq_false, if_false,
    Bool.true_eq_false] at accepted
  split at accepted
  · cases accepted
  next body =>
    obtain ⟨small, header, payload, size⟩ := verifyPayload_ok body
    cases accepted
    -- The header is the writer's, so its bytes are the writer's too.
    have wire : (serializeHeader (fixtureHeader (UInt64.ofNat frame))).toList =
        (readFile input kWireHeaderSize).bytes := by
      rw [serializeHeader_toList, ← header, wireBytes_decodeFields _ whole]
    refine ⟨small, ?_, by rw [size]⟩
    rw [fixtureFrame, wire, List.append_assoc, ← payload]
    exact readFile_split

theorem verifyFrame_done {frame : Nat} {input : List UInt8}
    (done : verifyFrame frame input = .ok none) : input = [] := by
  rw [verifyFrame] at done
  split at done
  next finished =>
    have nothing : (input.take kWireHeaderSize).length = 0 := finished.1
    rw [List.length_take, kWireHeaderSize] at nothing
    apply List.eq_nil_of_length_eq_zero
    omega
  · obtain ⟨_, done⟩ := guard_eq_ok.mp done
    obtain ⟨_, done⟩ := guard_eq_ok.mp done
    split at done <;> cases done

/-! ### The writer's frames are accepted -/

theorem fixtureTimestamp_toNat {frame : Nat} (small : frame < 1000000) :
    (fixtureTimestamp (UInt64.ofNat frame)).toNat = 1700000000000000000 + frame * 33333333 := by
  have base : kFixtureTimestampBase.toNat = 1700000000000000000 := rfl
  have step : kFixtureTimestampStep.toNat = 33333333 := rfl
  have frameId : (UInt64.ofNat frame).toNat = frame :=
    UInt64.toNat_ofNat_of_lt' (by rw [UInt64.size]; omega)
  -- Neither the product nor the sum wraps in 64 bits.
  have product : frame * 33333333 < 2 ^ 64 := by omega
  rw [fixtureTimestamp, UInt64.toNat_add, UInt64.toNat_mul, frameId, base, step,
    Nat.mod_eq_of_lt product, Nat.mod_eq_of_lt (by omega)]

theorem fixtureTimestamp_ne_zero {frame : Nat} (small : frame < 1000000) :
    fixtureTimestamp (UInt64.ofNat frame) ≠ 0 := by
  intro zero
  have value := fixtureTimestamp_toNat small
  rw [zero, UInt64.toNat_zero] at value
  omega

theorem fixtureHeader_accepted {frame : Nat} (small : frame < 1000000) :
    HeaderAccepted (fixtureHeader (UInt64.ofNat frame)) kDefaultMaxPayloadBytes where
  magic := rfl
  headerSize := rfl
  version := rfl
  timestamp := fixtureTimestamp_ne_zero small
  nonzero := by
    change kFixtureWidth ≠ 0 ∧ kFixtureHeight ≠ 0
    decide
  bounded := by
    change kFixtureWidth ≤ kMaxDimension ∧ kFixtureHeight ≤ kMaxDimension
    decide
  format := by
    change V4L2_PIX_FMT_YUYV ≠ 0
    decide
  payload := by
    rw [fixtureHeader_payloadSize]
    decide
  yuyv _ := by
    rw [fixtureHeader_payloadSize]
    change kFixtureWidth.toNat % 2 = 0 ∧
      (64 : UInt32).toNat = kFixtureWidth.toNat * kFixtureHeight.toNat * 2
    decide

theorem verifyPayload_fixture {frame : Nat} (small : frame < 1000000) (rest : List UInt8) :
    verifyPayload frame (fixtureHeader (UInt64.ofNat frame))
      (makeFixturePayload (UInt64.ofNat frame) ++ rest) = .ok (64, rest) := by
  have validated := (validateHeader_ok_iff _ _).mpr (fixtureHeader_accepted small)
  have frameId : (UInt64.ofNat frame).toNat = frame :=
    UInt64.toNat_ofNat_of_lt' (by rw [UInt64.size]; omega)
  have body := readFile_bytes (makeFixturePayload (UInt64.ofNat frame)) rest
  rw [makeFixturePayload_length] at body
  have size : (fixtureHeader (UInt64.ofNat frame)).payloadSize.toNat = 64 := by
    rw [fixtureHeader_payloadSize]
    rfl
  rw [verifyPayload, validated]
  simp only [size, body, makeFixturePayload_length]
  simp [fixtureHeader, makeHeader, frameId]

theorem verifyFrame_wireBytes {frame bytes : Nat} {header : FrameHeader} {body rest : List UInt8}
    (verified : verifyPayload frame header body = .ok (bytes, rest)) :
    verifyFrame frame (wireBytes header ++ body) = .ok (some (kWireHeaderSize + bytes, rest)) := by
  have size := wireBytes_length header
  have head := readFile_bytes (wireBytes header) body
  have decoded := decodeFields_wireBytes header []
  rw [size] at head
  rw [List.append_nil] at decoded
  have present : ¬ (kWireHeaderSize = 0 ∧ false = true) := fun finished =>
    Bool.false_ne_true finished.2
  rw [verifyFrame, head]
  simp only [size, present, if_false, ne_eq, not_true_eq_false,
    deserializeHeaderBytes_of_length _ _ size, Bool.true_eq_false, decoded, verified]

theorem verifyFrame_fixtureFrame {frame : Nat} (small : frame < 1000000) (rest : List UInt8) :
    verifyFrame frame (fixtureFrame frame ++ rest) =
      .ok (some (kWireHeaderSize + 64, rest)) := by
  rw [fixtureFrame, serializeHeader_toList, List.append_assoc]
  exact verifyFrame_wireBytes (verifyPayload_fixture small rest)

theorem verifyFrame_nil (frame : Nat) : verifyFrame frame [] = .ok none := rfl

/-! ### The verifying loop -/

def verifyLoop (verifiedFrames verifiedBytes : Nat) (input : List UInt8) :
    Except String (Nat × Nat) :=
  match _round : verifyFrame verifiedFrames input with
  | .error failure => .error failure
  | .ok none => .ok (verifiedFrames, verifiedBytes)
  | .ok (some (bytes, rest)) => verifyLoop (verifiedFrames + 1) (verifiedBytes + bytes) rest
termination_by input.length
decreasing_by
  have shape := (verifyFrame_frame _round).2.1
  rw [shape, List.length_append, fixtureFrame_length, kWireHeaderSize]
  omega

/-- `verify_fixture`; no content stands for a file that cannot be opened. -/
def verifyFixture (options : Options) (content : Option (List UInt8)) (stats : OpenOutcome) :
    Except String Report :=
  match content with
  | none => .error ("Failed to open fixture for verification: " ++ options.verifyPath)
  | some content => do
    let (frames, bytes) ← verifyLoop 0 0 content
    if frames ≠ options.frames then
      .error ("Fixture frame count mismatch: got=" ++ toString frames ++
        ", expected=" ++ toString options.frames)
    else
      let stats ← writeStats options.statsOutput "verify" options.verifyPath frames bytes true
        stats
      return ⟨content, stats, "[PASS] fixture_verify" ++
        " frames=" ++ toString frames ++ " bytes=" ++ toString bytes ++
        " crc_errors=0 header_errors=0 payload_mismatches=0" ++
        " path=" ++ options.verifyPath⟩

/-- The frames from `start` on, one after the other. -/
def fixtureFrames (start count : Nat) : List UInt8 :=
  (List.range' start count).flatMap fixtureFrame

theorem fixtureFrames_succ (start count : Nat) :
    fixtureFrames start (count + 1) = fixtureFrame start ++ fixtureFrames (start + 1) count := by
  rw [fixtureFrames, List.range'_succ, List.flatMap_cons, fixtureFrames]

theorem fixtureFrames_last (count : Nat) :
    fixtureFrames 0 (count + 1) = fixtureFrames 0 count ++ fixtureFrame count := by
  rw [fixtureFrames, List.range'_1_concat, List.flatMap_append, fixtureFrames, Nat.zero_add]
  simp

/-- A loop that ends at a count has read the frames up to there and nothing else. -/
theorem verifyLoop_ok {start bytes : Nat} {input : List UInt8} {last : Nat × Nat}
    (passed : verifyLoop start bytes input = .ok last) :
    start ≤ last.1 ∧ input = fixtureFrames start (last.1 - start) := by
  fun_induction verifyLoop start bytes input with
  | case1 start bytes input failure round => cases passed
  | case2 start bytes input round =>
    cases passed
    refine ⟨Nat.le_refl _, ?_⟩
    rw [verifyFrame_done round, Nat.sub_self]
    rfl
  | case3 start bytes input more rest round ih =>
    obtain ⟨further, frames⟩ := ih passed
    have count : last.1 - start = (last.1 - (start + 1)) + 1 := by omega
    refine ⟨by omega, ?_⟩
    rw [count, fixtureFrames_succ, ← frames]
    exact (verifyFrame_frame round).2.1

theorem verifyLoop_nil (frames bytes : Nat) : verifyLoop frames bytes [] = .ok (frames, bytes) := by
  rw [verifyLoop]
  split
  next failed => cases (verifyFrame_nil frames).symm.trans failed
  next => rfl
  next more => cases (verifyFrame_nil frames).symm.trans more

theorem verifyLoop_next {frames bytes more : Nat} {input rest : List UInt8}
    (round : verifyFrame frames input = .ok (some (more, rest))) :
    verifyLoop frames bytes input = verifyLoop (frames + 1) (bytes + more) rest := by
  rw [verifyLoop]
  split
  next failed => cases round.symm.trans failed
  next done => cases round.symm.trans done
  next again =>
    cases round.symm.trans again
    rfl

theorem verifyLoop_fixtureFrames (count : Nat) {start : Nat} (bytes : Nat)
    (small : start + count ≤ 1000000) :
    verifyLoop start bytes (fixtureFrames start count) =
      .ok (start + count, bytes + count * (kWireHeaderSize + 64)) := by
  induction count generalizing start bytes with
  | zero =>
    rw [Nat.zero_mul]
    exact verifyLoop_nil start bytes
  | succ count ih =>
    have below : start < 1000000 := by omega
    have round := verifyFrame_fixtureFrame below (fixtureFrames (start + 1) count)
    rw [fixtureFrames_succ, verifyLoop_next round, ih _ (by omega), Nat.succ_mul,
      Nat.add_assoc start 1 count, Nat.add_comm 1 count, Nat.add_assoc bytes,
      Nat.add_comm (kWireHeaderSize + 64)]

/-! ### The writer's file -/

theorem writeFrame_ok {path : String} {good : Nat → Bool} {before after : Written} {frame : Nat}
    (written : writeFrame path good before frame = .ok after) :
    after.content = before.content ++ fixtureFrame frame := by
  rw [writeFrame] at written
  split at written
  · cases written
    rw [fixtureFrame, ← List.append_assoc]
  · cases written

theorem writeFrames_ok {path : String} {good : Nat → Bool} {count : Nat} {after : Written}
    (written : (List.range count).foldlM (writeFrame path good) {} = .ok after) :
    after.content = fixtureFrames 0 count := by
  induction count generalizing after with
  | zero =>
    cases written
    rfl
  | succ count ih =>
    rw [List.range_succ, List.foldlM_append] at written
    cases front : (List.range count).foldlM (writeFrame path good) {} with
    | error failure =>
      rw [front] at written
      cases written
    | ok before =>
      rw [front] at written
      simp only [bind, Except.bind, List.foldlM_cons, List.foldlM_nil] at written
      cases last : writeFrame path good before count with
      | error failure =>
        rw [last] at written
        cases written
      | ok whole =>
        rw [last] at written
        cases written
        rw [writeFrame_ok last, ih front, fixtureFrames_last]

theorem writeFrames_good (path : String) (count : Nat) :
    ∃ after, (List.range count).foldlM (writeFrame path fun _ => true) {} = .ok after := by
  induction count with
  | zero => exact ⟨{}, rfl⟩
  | succ count ih =>
    obtain ⟨before, front⟩ := ih
    rw [List.range_succ, List.foldlM_append, front]
    exact ⟨_, rfl⟩

/-- The stats file is not asked for, or can be written. -/
def StatsWritable (path : String) (outcome : OpenOutcome) : Prop :=
  path = "" ∨ openForWriting path "Failed to open stats output: " outcome = .ok ()

theorem openForWriting_opened (path failure : String) :
    openForWriting path failure {} = .ok () := by
  cases parent : path.contains '/' <;> simp [openForWriting, parent]

theorem writeStats_writable {path : String} {outcome : OpenOutcome}
    (writable : StatsWritable path outcome) (mode fixturePath : String) (frames bytes : Nat)
    (verified : Bool) :
    ∃ text, writeStats path mode fixturePath frames bytes verified outcome = .ok text := by
  rw [writeStats]
  by_cases skipped : path = ""
  · rw [if_pos skipped]
    exact ⟨none, rfl⟩
  · have opened := writable.resolve_left skipped
    rw [if_neg skipped, opened]
    exact ⟨_, rfl⟩

theorem writeFixture_content {options : Options} {env : WriteEnv} {report : Report}
    (written : writeFixture options env = .ok report) :
    report.content = fixtureFrames 0 options.frames := by
  rw [writeFixture] at written
  cases opened : openForWriting options.writePath "Failed to open fixture for writing: "
      env.file with
  | error failure =>
    rw [opened] at written
    cases written
  | ok _ =>
    rw [opened] at written
    cases frames : (List.range options.frames).foldlM (writeFrame options.writePath env.good) {}
        with
    | error failure =>
      rw [frames] at written
      cases written
    | ok after =>
      rw [frames] at written
      simp only [bind, Except.bind] at written
      split at written
      · cases written
      · cases written
        exact writeFrames_ok frames

/-- With every file operation going through, the writer finishes. -/
theorem writeFixture_finishes (options : Options) :
    ∃ report, writeFixture options {} = .ok report := by
  obtain ⟨after, frames⟩ := writeFrames_good options.writePath options.frames
  have writable : StatsWritable options.statsOutput {} := .inr (openForWriting_opened _ _)
  obtain ⟨text, stats⟩ := writeStats_writable writable "write" options.writePath options.frames
    after.bytes true
  rw [writeFixture, openForWriting_opened]
  simp only [bind, Except.bind, frames, stats]
  exact ⟨_, rfl⟩

theorem verifyFixture_isOk_iff (options : Options) {stats : OpenOutcome}
    (writable : StatsWritable options.statsOutput stats) (content : List UInt8) :
    (verifyFixture options (some content) stats).isOk = true ↔
      content = fixtureFrames 0 options.frames := by
  rw [verifyFixture]
  constructor
  · intro passed
    cases loop : verifyLoop 0 0 content with
    | error failure =>
      rw [loop] at passed
      cases passed
    | ok last =>
      obtain ⟨frames, bytes⟩ := last
      rw [loop] at passed
      simp only [bind, Except.bind] at passed
      split at passed
      · cases passed
      next complete =>
        have read := (verifyLoop_ok loop).2
        rw [ne_eq, not_not] at complete
        rw [read, ← complete, Nat.sub_zero]
  · intro same
    have small : 0 + options.frames ≤ 1000000 := by
      have := options.frames_le
      omega
    have loop := verifyLoop_fixtureFrames options.frames 0 small
    rw [Nat.zero_add] at loop
    obtain ⟨text, written⟩ := writeStats_writable writable "verify" options.verifyPath
      options.frames (0 + options.frames * (kWireHeaderSize + 64)) true
    subst same
    simp only [bind, Except.bind, loop, ne_eq, not_true_eq_false, if_false, written]
    rfl

/-- A finished write run exists, and whatever content a write run leaves is the only one that
a verify run for as many frames passes. -/
theorem fixture_verified_iff_written :
    (∀ options : Options, ∃ report, writeFixture options {} = .ok report) ∧
    ∀ (writer verifier : Options) (env : WriteEnv) (report : Report) (stats : OpenOutcome)
      (content : List UInt8), writer.frames = verifier.frames →
      writeFixture writer env = .ok report → StatsWritable verifier.statsOutput stats →
        ((verifyFixture verifier (some content) stats).isOk = true ↔ content = report.content) := by
  refine ⟨writeFixture_finishes, ?_⟩
  intro writer verifier env report stats content frames written writable
  rw [writeFixture_content written, frames]
  exact verifyFixture_isOk_iff verifier writable content

end V4l2Capture.Fixture
