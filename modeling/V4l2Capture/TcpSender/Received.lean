import Mathlib.Data.List.TakeWhile
import V4l2Capture.Receiver.Streams
import V4l2Capture.TcpSender.Run

/-!
# From tcp_sender to tcp_receiver

The bytes of a run of the sender, however far it came, arrive on a connection that is cut in any
way: `tcpSender_received` says which frames the receiver counts and with which status it exits,
`headerFault_rejected` what becomes of a malformed header.
-/
namespace V4l2Capture.TcpSender

open Protocol Receiver

variable {opts : SenderOptions} {s : SenderState} {strerror : Camera.Errno → String}
  {maxPayloadBytes : UInt32}

/-- The limits of a receiver that the sender does not check. -/
structure FitsReceiver (opts : SenderOptions) (maxPayloadBytes : UInt32) : Prop where
  width : opts.width ≤ 16384
  height : opts.height ≤ 16384
  payload : opts.width * opts.height * 2 ≤ maxPayloadBytes.toNat

/-- The records that were begun. -/
def SenderState.begun (s : SenderState) : List Record :=
  s.sent ++ (s.current.map Prod.fst).toList

/-- The system clock was past its origin whenever a header was made. -/
def SenderState.Stamped (s : SenderState) : Prop :=
  ∀ record ∈ s.begun, record.1.captureTimestampNs ≠ 0

instance (s : SenderState) : Decidable s.Stamped :=
  inferInstanceAs (Decidable (∀ record ∈ s.begun, record.1.captureTimestampNs ≠ 0))

/-! ### Records as frames -/

/-- The record of the `i`-th round without a header fault. -/
theorem made_plain {i : Nat} {record : Record} (plain : opts.headerFault = "")
    (made : Made opts i record) : ∃ nowNs,
      record.1 = testHeader opts.width opts.height i nowNs
        (testPayload opts.width opts.height i) ∧
      record.2 = if (i : Int) = opts.corruptFrameId
        then corruptPayload (testPayload opts.width opts.height i)
        else testPayload opts.width opts.height i := by
  obtain ⟨_, nowNs, made⟩ := made
  rw [makeRecord, if_neg (by simp [plain]), damagePayload] at made
  refine ⟨nowNs, ?_⟩
  split at made
  next corrupt =>
    rw [if_pos corrupt]
    split at made
    · cases made
    · cases made
      exact ⟨rfl, rfl⟩
  next spared =>
    rw [if_neg spared]
    cases made
    exact ⟨rfl, rfl⟩

/-- A record that fits is a frame of the receiver, and just the corrupted one is damaged. -/
theorem made_frame {i : Nat} {record : Record} (plain : opts.headerFault = "")
    (fits : FitsReceiver opts maxPayloadBytes)
    (made : Made opts i record) (stamped : record.1.captureTimestampNs ≠ 0) :
    ∃ frame : WireFrame maxPayloadBytes, frame.delivered = record ∧
      (frame.intact = true ↔ (i : Int) ≠ opts.corruptFrameId) := by
  have even := made.1
  obtain ⟨nowNs, header, payload⟩ := made_plain plain made
  obtain ⟨recordHeader, recordPayload⟩ := record
  simp only at header payload stamped
  subst header
  have size := testPayload_length opts.height i even
  have valid : validateHeader (testHeader opts.width opts.height i nowNs
      (testPayload opts.width opts.height i)) maxPayloadBytes = .ok () :=
    (testHeader_accepted_iff opts.width_range opts.height_range even size).mpr
      ⟨stamped, fits.width, fits.height, fits.payload⟩
  have length : recordPayload.length = (testPayload opts.width opts.height i).length := by
    rw [payload]
    split
    · exact corruptPayload_length _
    · rfl
  have announced : (testPayload opts.width opts.height i).length =
      (UInt32.ofNat (testPayload opts.width opts.height i).length).toNat := by
    have bound : opts.width * opts.height ≤ 16384 * 16384 := Nat.mul_le_mul fits.width fits.height
    rw [UInt32.toNat_ofNat_of_lt']
    have fit : (testPayload opts.width opts.height i).length < 2 ^ 32 := by omega
    exact fit
  refine ⟨⟨_, recordPayload, valid, length.trans announced⟩, rfl, ?_⟩
  rw [WireFrame.intact, beq_iff_eq]
  show computeCrc32 recordPayload = computeCrc32 (testPayload opts.width opts.height i) ↔ _
  have nonempty : testPayload opts.width opts.height i ≠ [] := by
    intro empty
    rw [empty, List.length_nil] at size
    have area : 0 < opts.width * opts.height :=
      Nat.mul_pos opts.width_range.1 opts.height_range.1
    omega
  rw [payload]
  split
  next corrupt =>
    exact ⟨fun same => absurd same.symm (corruptPayload_crc nonempty),
      fun spared => absurd corrupt spared⟩
  next spared => exact ⟨fun _ => spared, fun _ => rfl⟩

theorem recordBytes_delivered (frame : WireFrame maxPayloadBytes) :
    recordBytes frame.delivered = frame.encode := rfl

/-- Records that fit, as a list of frames. -/
theorem made_frames {n : Nat} {records : List Record} (plain : opts.headerFault = "")
    (fits : FitsReceiver opts maxPayloadBytes)
    (made : ∀ j record, records[j]? = some record → Made opts (n + j) record)
    (stamped : ∀ record ∈ records, record.1.captureTimestampNs ≠ 0) :
    ∃ frames : List (WireFrame maxPayloadBytes), frames.map WireFrame.delivered = records ∧
      encodeFrames frames = records.flatMap recordBytes ∧
      ∀ j frame, frames[j]? = some frame →
        (frame.intact = true ↔ ((n + j : Nat) : Int) ≠ opts.corruptFrameId) := by
  induction records generalizing n with
  | nil => exact ⟨[], rfl, rfl, by simp⟩
  | cons record records ih =>
    obtain ⟨frame, delivered, intact⟩ :=
      made_frame plain fits (made 0 record rfl) (stamped record (by simp))
    obtain ⟨frames, rest, bytes, others⟩ := ih (n := n + 1)
      (fun j other there => by
        have later := made (j + 1) other there
        rwa [Nat.add_comm j, ← Nat.add_assoc] at later)
      (fun other member => stamped other (List.mem_cons_of_mem _ member))
    refine ⟨frame :: frames, by rw [List.map_cons, delivered, rest], ?_, ?_⟩
    · rw [encodeFrames, List.flatMap_cons, ← encodeFrames, bytes, List.flatMap_cons, ← delivered,
        recordBytes_delivered]
    · intro j other there
      cases j with
      | zero =>
        cases there
        exact intact
      | succ j =>
        have later := others j other there
        rwa [Nat.add_assoc, Nat.add_comm 1] at later

/-! ### The end of the stream -/

theorem SenderState.Stamped.sent (stamped : s.Stamped) :
    ∀ record ∈ s.sent, record.1.captureTimestampNs ≠ 0 :=
  fun record member => stamped record (List.mem_append_left _ member)

/-- The bytes behind the records that were sent whole. -/
theorem cut_exit {cfg : ReceiverConfig} (unlimited : cfg.maxFrames = 0)
    (plain : opts.headerFault = "") (fits : FitsReceiver opts cfg.maxPayloadBytes)
    (inv : SenderInv opts s) (stamped : s.Stamped) (n : Nat) :
    ∃ exit, ExitSpec cfg n exit s.cut ∧ exit.status = 0 ∧
      (s.current = none → exit = .headerClosed) := by
  cases current : s.current with
  | none =>
    refine ⟨.headerClosed, .headerClosed (roomForFrames_unlimited unlimited n) ?_, rfl, fun _ => rfl⟩
    rw [SenderState.cut, current]
    decide
  | some held =>
    obtain ⟨record, k⟩ := held
    obtain ⟨made, partly, _⟩ := inv.current record k current
    have begun : record ∈ s.begun := by simp [SenderState.begun, current]
    obtain ⟨frame, rfl, _⟩ := made_frame plain fits made (stamped record begun)
    obtain ⟨exit, spec, status⟩ := exitSpec_partial unlimited n frame partly
    refine ⟨exit, ?_, status, by simp⟩
    rw [SenderState.cut, current]
    exact spec

/-! ### Frames -/

/-- The frames that a receiver gets: those in front of the corrupted one. -/
def SenderState.arrived (opts : SenderOptions) (s : SenderState) : List Record :=
  s.sent.takeWhile fun record => (record.1.frameId.toNat : Int) ≠ opts.corruptFrameId

theorem made_frameId {i : Nat} {record : Record} (plain : opts.headerFault = "")
    (made : Made opts i record) (small : i < 2 ^ 64) : record.1.frameId.toNat = i := by
  obtain ⟨nowNs, header, _⟩ := made_plain plain made
  rw [header]
  show (UInt64.ofNat i).toNat = i
  exact UInt64.toNat_ofNat_of_lt' small

theorem takeWhile_congr {α : Type} {p q : α → Bool} {l : List α} (same : ∀ a ∈ l, p a = q a) :
    l.takeWhile p = l.takeWhile q := by
  induction l with
  | nil => rfl
  | cons a l ih =>
    rw [List.takeWhile_cons, List.takeWhile_cons, same a List.mem_cons_self,
      ih fun b member => same b (List.mem_cons_of_mem a member)]

/-- The stream of a run of the sender, read by the receiver. -/
theorem stream_of_run {cfg : ReceiverConfig} (unlimited : cfg.maxFrames = 0)
    (plain : opts.headerFault = "") (fits : FitsReceiver opts cfg.maxPayloadBytes)
    (inv : SenderInv opts s) (stamped : s.Stamped) :
    ∃ (frames : List (WireFrame cfg.maxPayloadBytes)) (tail : List UInt8) (exit : SessionExit),
      s.wire = encodeFrames frames ++ tail ∧ (∀ frame ∈ frames, frame.intact = true) ∧
      frames.map WireFrame.delivered = s.arrived opts ∧ ExitSpec cfg 0 exit tail ∧
      exit.status = (if s.arrived opts = s.sent then 0 else 2) ∧
      (s.current = none → s.arrived opts = s.sent → exit = .headerClosed) := by
  obtain ⟨frames, delivered, bytes, intact⟩ := made_frames (n := 0) plain fits
    (fun j record there => by rw [Nat.zero_add]; exact inv.made j record there) stamped.sent
  have wire := inv.wire
  rw [← bytes] at wire
  obtain ⟨count, within, _⟩ := inv.counted.frames plain
  have limit := opts.frames_range.2
  -- Being intact is to be read off the identifier that the frame carries.
  have marked : ∀ frame ∈ frames, frame.intact =
      decide ((frame.delivered.1.frameId.toNat : Int) ≠ opts.corruptFrameId) := by
    intro frame member
    obtain ⟨j, inside, there⟩ := List.getElem_of_mem member
    have place : frames[j]? = some frame := by rw [List.getElem?_eq_getElem inside, there]
    have record : s.sent[j]? = some frame.delivered := by
      rw [← delivered, List.getElem?_map, place]
      rfl
    have bound : j < s.sent.length := (List.getElem?_eq_some_iff.mp record).1
    have same := intact j frame place
    rw [Nat.zero_add] at same
    rw [made_frameId plain (inv.made j _ record) (by omega), Bool.eq_iff_iff, same,
      decide_eq_true_eq]
  have arrived : (frames.takeWhile WireFrame.intact).map WireFrame.delivered = s.arrived opts := by
    rw [SenderState.arrived, ← delivered, List.takeWhile_map]
    exact congrArg (List.map _) (takeWhile_congr marked)
  have split := List.takeWhile_append_dropWhile (p := WireFrame.intact) (l := frames)
  have kept : ∀ frame ∈ frames.takeWhile WireFrame.intact, frame.intact = true :=
    fun frame member => List.mem_takeWhile_imp member
  cases rest : frames.dropWhile WireFrame.intact with
  | nil =>
    rw [rest, List.append_nil] at split
    have all : s.arrived opts = s.sent := by rw [← arrived, split, delivered]
    obtain ⟨exit, spec, status, closed⟩ := cut_exit unlimited plain fits inv stamped 0
    refine ⟨frames, s.cut, exit, wire, by rwa [split] at kept, by rw [← arrived, split], spec, ?_,
      fun idle _ => closed idle⟩
    rw [if_pos all]
    exact status
  -- The first frame that is not intact is met behind all that are kept.
  | cons bad behind =>
    have damaged : bad.intact = false := by
      have head := List.head_dropWhile_not WireFrame.intact (l := frames) (by rw [rest]; simp)
      simpa [rest] using head
    have fewer : s.arrived opts ≠ s.sent := by
      intro all
      have lengths := congrArg List.length all
      rw [← arrived, ← delivered, List.length_map, List.length_map] at lengths
      have total := congrArg List.length split
      rw [List.length_append, rest, List.length_cons] at total
      omega
    refine ⟨frames.takeWhile WireFrame.intact, bad.encode ++ (encodeFrames behind ++ s.cut),
      .crcMismatch bad.header, ?_, kept, arrived, .crcMismatch bad _ damaged, ?_,
      fun _ all => absurd all fewer⟩
    · rw [rest] at split
      have whole : encodeFrames frames = encodeFrames (frames.takeWhile WireFrame.intact) ++
          (bad.encode ++ encodeFrames behind) := by
        conv => lhs; rw [← split]
        simp [encodeFrames]
      rw [wire, whole, List.append_assoc, List.append_assoc]
    · rw [if_neg fewer]
      rfl

/-- A sender without a header fault, stopped anywhere, and a receiver of its bytes: the receiver
counts the test frames in front of the corrupted one, all of those that were sent whole if none
of them is, and its exit status tells the two cases apart. -/
theorem tcpSender_received (cfg : ReceiverConfig) (env : ReceiverEnv) (conn : Connection)
    (unlimited : cfg.maxFrames = 0) (single : cfg.maxSessions = 1)
    (plain : opts.headerFault = "") (fits : FitsReceiver opts cfg.maxPayloadBytes)
    (reached : Reachable opts strerror s) (stamped : s.Stamped)
    (reliable : Socket.Reliable conn) (carried : Socket.contents conn = s.wire) :
    (∀ (j : Nat) (record : Record), s.sent[j]? = some record → ∃ nowNs,
      record.1 = testHeader opts.width opts.height j nowNs
        (testPayload opts.width opts.height j) ∧
      record.2 = if (j : Int) = opts.corruptFrameId
        then corruptPayload (testPayload opts.width opts.height j)
        else testPayload opts.width opts.height j) ∧
    ((∃ st, acceptLoop cfg env {} [.connected conn] = .finished st ∧
        st.accepted = s.arrived opts ∧ st.receivedFrames = (s.arrived opts).length ∧
        st.headerErrors = 0 ∧ st.crcErrors = (if s.arrived opts = s.sent then 0 else 1) ∧
        exitStatus none (.finished st) = some (if s.arrived opts = s.sent then 0 else 2) ∧
        (s.ctl = .finished none → s.sent.length = opts.frames ∧
          st.completedSessions = if s.arrived opts = s.sent then 1 else 0)) ∨
      ∃ message, acceptLoop cfg env {} [.connected conn] = .threw message ∧
        cfg.savePayloads = true ∧ ∃ index, env.saveFails index = some message) := by
  have inv := reachable_inv reached
  obtain ⟨count, _, all⟩ := inv.counted.frames plain
  refine ⟨fun j record there => made_plain plain (inv.made j record there), ?_⟩
  obtain ⟨frames, tail, exit, stream, intact, delivered, spec, status, closed⟩ :=
    stream_of_run unlimited plain fits inv stamped
  rcases acceptLoop_stream env unlimited single reliable (carried.trans stream) intact spec with
    ⟨st, finished, served⟩ | threw
  · rw [delivered] at served
    have code := exitStatus_served served
    rw [status] at code
    refine .inl ⟨st, finished, served.accepted, served.receivedFrames, ?_, ?_, code, ?_⟩
    · rw [served.headerErrors, status]
      split <;> rfl
    · rw [served.crcErrors, status]
      split <;> rfl
    · intro done
      have idle : s.current = none := by
        have place := inv.place
        rw [done] at place
        exact place
      refine ⟨count.trans (all done), ?_⟩
      by_cases same : s.arrived opts = s.sent
      · rw [served.completed, if_pos same, closed idle same]
        rfl
      · rw [if_neg same] at status
        rw [served.completed, if_neg same]
        cases exit <;> first | rfl | cases status
  · exact .inr threw

/-- Two frames of two pixels, the second one corrupted. -/
def pairOptions : SenderOptions where
  frames := 2
  width := 2
  height := 1
  sendTimeoutMs := 2000
  corruptFrameId := 1
  frames_range := by decide
  width_range := by decide
  height_range := by decide
  fault_alone := nofun

/-- A round whose two calls of `send` take everything at once. -/
def sendRound : List SenderAction :=
  [.stamp 1000, .clock 0, .send (.stopLoaded false), .send (.clock 1),
    .send (.sendReturned (.accepted 44)), .send (.stopLoaded false), .send (.clock 2),
    .send (.sendReturned (.accepted 4))]

/-- `tcpSender_received` for the two frames. -/
theorem tcpSender_received_pair : ∃ s st,
    Reachable pairOptions calmEnv.strerror s ∧ s.ctl = .finished none ∧
      acceptLoop oneSession calmEnv {} [.connected (byteByByte s.wire)] = .finished st ∧
      st.receivedFrames = 1 ∧ exitStatus none (.finished st) = some 2 := by
  obtain ⟨s, reached, done, stamped, arrived, fewer⟩ : ∃ s,
      Reachable pairOptions calmEnv.strerror s ∧ s.ctl = .finished none ∧ s.Stamped ∧
        (s.arrived pairOptions).length = 1 ∧ s.arrived pairOptions ≠ s.sent :=
    Transition.exists_reached (sendRound ++ sendRound) (by decide +kernel)
  obtain ⟨_, ⟨st, finished, _, received, _, _, code, _⟩ | ⟨_, _, _, _, fails⟩⟩ :=
    tcpSender_received oneSession calmEnv _ rfl rfl rfl ⟨by decide, by decide, by decide⟩ reached
      stamped (byteByByte_reliable _) (byteByByte_contents _)
  · rw [if_neg fewer] at code
    exact ⟨s, st, reached, done, finished, received.trans arrived, code⟩
  · cases fails

/-! ### Header faults -/

/-- The record of a run with a header fault. -/
theorem made_faulty {i : Nat} {record : Record} (faulty : opts.headerFault ≠ "")
    (made : Made opts i record) : ∃ nowNs header,
      applyHeaderFault (testHeader opts.width opts.height i nowNs
        (testPayload opts.width opts.height i)) opts.headerFault = .ok header ∧
      record = (header, []) := by
  obtain ⟨_, nowNs, made⟩ := made
  rw [makeRecord, if_pos faulty] at made
  refine ⟨nowNs, ?_⟩
  cases fault : applyHeaderFault _ opts.headerFault with
  | error message =>
    rw [fault] at made
    cases made
  | ok header =>
    rw [fault] at made
    cases made
    exact ⟨header, rfl, rfl⟩

/-- A sender with a header fault that has ended normally has sent one header, which the receiver
rejects whatever its limit; where the header was good before, for the reason of the fault. -/
theorem headerFault_rejected (cfg : ReceiverConfig) (env : ReceiverEnv) (conn : Connection)
    (unlimited : cfg.maxFrames = 0) (single : cfg.maxSessions = 1)
    (faulty : opts.headerFault ≠ "") (reached : Reachable opts strerror s)
    (done : s.ctl = .finished none) (reliable : Socket.Reliable conn)
    (carried : Socket.contents conn = s.wire) :
    ∃ nowNs header reason st,
      applyHeaderFault (testHeader opts.width opts.height 0 nowNs
        (testPayload opts.width opts.height 0)) opts.headerFault = .ok header ∧
      s.wire = wireBytes header ∧
      acceptLoop cfg env {} [.connected conn] = .finished st ∧
      st.accepted = [] ∧ st.headerErrors = 1 ∧ st.crcErrors = 0 ∧ st.completedSessions = 0 ∧
      st.lastError = "invalid frame header: " ++ reason ∧
      exitStatus none (.finished st) = some 3 ∧
      (FitsReceiver opts cfg.maxPayloadBytes → nowNs ≠ 0 →
        cfg.maxPayloadBytes ≤ kDefaultMaxPayloadBytes →
        reason = faultReason (testHeader opts.width opts.height 0 nowNs
          (testPayload opts.width opts.height 0)) cfg.maxPayloadBytes opts.headerFault) := by
  have inv := reachable_inv reached
  obtain ⟨_, count⟩ := inv.counted.header faulty
  rw [if_pos done] at count
  obtain ⟨record, one⟩ := List.length_eq_one_iff.mp count
  have made : Made opts 0 record := inv.made 0 record (by rw [one]; rfl)
  have even := made.1
  obtain ⟨nowNs, header, applied, rfl⟩ := made_faulty faulty made
  have place := inv.place
  rw [done] at place
  have idle : s.current = none := place
  have wire : s.wire = wireBytes header := by
    rw [inv.wire, SenderState.cut, idle, one]
    simp [recordBytes, serializeHeader_toList]
  have size := testPayload_length opts.height 0 even
  cases invalid : validateHeader header cfg.maxPayloadBytes with
  | ok _ =>
    exact absurd invalid (applyHeaderFault_rejected opts.width_range opts.height_range size applied)
  | error reason =>
    have stream : Socket.contents conn = wireBytes header ++ [] := by
      rw [carried, wire, List.append_nil]
    obtain ⟨st, finished, served⟩ :=
      acceptLoop_invalid env unlimited single reliable stream invalid
    refine ⟨nowNs, header, reason, st, applied, wire, finished, served.accepted,
      served.headerErrors, served.crcErrors, served.completed, served.lastError,
      exitStatus_served served, fun fits stamped limit => ?_⟩
    have valid : validateHeader (testHeader opts.width opts.height 0 nowNs
        (testPayload opts.width opts.height 0)) cfg.maxPayloadBytes = .ok () :=
      (testHeader_accepted_iff opts.width_range opts.height_range even size).mpr
        ⟨stamped, fits.width, fits.height, fits.payload⟩
    have expected := applyHeaderFault_reason valid rfl limit applied
    rw [invalid] at expected
    exact Except.error.inj expected

/-- One frame of two pixels whose size is given two bytes too small. -/
def mismatchOptions : SenderOptions where
  frames := 1
  width := 2
  height := 1
  sendTimeoutMs := 2000
  headerFault := "yuyv-size-mismatch"
  frames_range := by decide
  width_range := by decide
  height_range := by decide
  fault_alone _ := rfl

/-- `headerFault_rejected` for that frame. -/
theorem headerFault_rejected_mismatch : ∃ s st,
    Reachable mismatchOptions calmEnv.strerror s ∧ s.wire.length = 44 ∧
      acceptLoop oneSession calmEnv {} [.connected (byteByByte s.wire)] = .finished st ∧
      exitStatus none (.finished st) = some 3 := by
  obtain ⟨s, reached, done⟩ : ∃ s,
      Reachable mismatchOptions calmEnv.strerror s ∧ s.ctl = .finished none :=
    Transition.exists_reached (sendRound.take 5) (by decide +kernel)
  obtain ⟨_, header, _, st, _, wire, finished, _, _, _, _, _, code, _⟩ :=
    headerFault_rejected oneSession calmEnv _ rfl rfl (by decide) reached done
      (byteByByte_reliable _) (byteByByte_contents _)
  exact ⟨s, st, reached, by rw [wire, wireBytes_length]; rfl, finished, code⟩

end V4l2Capture.TcpSender
