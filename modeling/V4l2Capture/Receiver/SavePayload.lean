import Mathlib.Data.List.Basic
import V4l2Capture.Receiver.AcceptLoop

/-!
# The files of tcp_receiver

`payloadPath` is the name under which `save_payload` writes a frame. It ends with the four bytes
of the pixel format as they came over the network. `acceptSaves` lists the frames of a run with
their file indices, also of a run that a failing save ends.
-/
namespace V4l2Capture.Receiver

open Protocol

/-- `fourcc_to_string` takes the bytes as they are. -/
def fourccToString (fourcc : UInt32) : String :=
  fourccText fourcc

def payloadPath (outputDir : String) (header : FrameHeader) (index : Nat) : String :=
  outputDir ++ "/recv_frame_" ++ toString index ++ "_id_" ++ toString header.frameId ++ "." ++
    fourccToString header.pixelFormat

/-- The outcomes of the file operations of one save. -/
structure SaveCalls where
  /-- What `create_directories` throws, if it throws. -/
  createDirectories : Option String
  opens : Bool
  writes : Bool

/-- The file that `save_payload` writes, and its content. -/
def savePayload (calls : SaveCalls) (frame : Delivered) (outputDir : String) (index : Nat) :
    Except String (String × List UInt8) :=
  match calls.createDirectories with
  | some message => .error message
  | none =>
    let path := payloadPath outputDir frame.1 index
    if calls.opens = false then .error ("Failed to open output file: " ++ path)
    else if calls.writes = false then .error ("Failed to write output file: " ++ path)
    else .ok (path, frame.2)

theorem savePayload_ok_iff {calls : SaveCalls} {frame : Delivered} {outputDir : String}
    {index : Nat} {file : String × List UInt8} :
    savePayload calls frame outputDir index = .ok file ↔
      (calls.createDirectories = none ∧ calls.opens = true ∧ calls.writes = true) ∧
        file = (payloadPath outputDir frame.1 index, frame.2) := by
  obtain ⟨createDirectories, opens, writes⟩ := calls
  cases createDirectories <;> cases opens <;> cases writes <;> simp [savePayload, eq_comm]

/-! ### One component -/

/-- The path names a file in the directory itself. -/
def SingleComponent (outputDir path : String) : Prop :=
  ∃ component : String, path = outputDir ++ "/" ++ component ∧
    '/' ∉ component.toList ∧ Char.ofNat 0 ∉ component.toList

/-- No byte of the pixel format is a slash or zero. -/
def PlainFormat (pixelFormat : UInt32) : Prop :=
  ∀ shift ∈ ([0, 8, 16, 24] : List UInt32),
    (pixelFormat >>> shift) &&& 0xff ≠ 0x2f ∧ (pixelFormat >>> shift) &&& 0xff ≠ 0

instance (pixelFormat : UInt32) : Decidable (PlainFormat pixelFormat) :=
  List.decidableBAll (fun shift => (pixelFormat >>> shift) &&& 0xff ≠ 0x2f ∧
    (pixelFormat >>> shift) &&& 0xff ≠ 0) [0, 8, 16, 24]

/-- The file name, up to the pixel format. -/
def fileStem (header : FrameHeader) (index : Nat) : String :=
  "recv_frame_" ++ toString index ++ "_id_" ++ toString header.frameId ++ "."

theorem payloadPath_eq (outputDir : String) (header : FrameHeader) (index : Nat) :
    payloadPath outputDir header index =
      outputDir ++ "/" ++ (fileStem header index ++ fourccText header.pixelFormat) := by
  have slash : "/recv_frame_" = "/" ++ "recv_frame_" := rfl
  rw [payloadPath, fileStem, slash, fourccToString]
  simp only [String.append_assoc]

theorem toString_digit {n : Nat} {c : Char} (member : c ∈ (toString n).toList) :
    c.isDigit = true := by
  rw [Nat.toString_eq_repr, Nat.toList_repr] at member
  exact Nat.isDigit_of_mem_toDigits (by decide) (by decide) member

theorem toString_injective {m n : Nat} (same : toString m = toString n) : m = n := by
  have parse (n : Nat) : Nat.ofDigitChars 10 (Nat.toDigits 10 n) 0 = n :=
    Nat.ofDigitChars_toDigits (by decide) (by decide)
  rw [Nat.toString_eq_repr, Nat.toString_eq_repr, ← String.toList_inj, Nat.toList_repr,
    Nat.toList_repr] at same
  rw [← parse m, ← parse n, same]

theorem toString_not_mem {n : Nat} {c : Char} (other : c.isDigit = false) :
    c ∉ (toString n).toList := by
  intro member
  rw [toString_digit member] at other
  cases other

theorem fileStem_not_mem (header : FrameHeader) (index : Nat) {c : Char}
    (other : c.isDigit = false) (text : c ∉ "recv_frame_".toList ∧ c ∉ "_id_".toList ∧ c ≠ '.') :
    c ∉ (fileStem header index).toList := by
  have id : toString header.frameId = toString header.frameId.toNat := rfl
  obtain ⟨first, middle, last⟩ := text
  rw [fileStem, id]
  simp only [String.toList_append, List.mem_append, not_or]
  exact ⟨⟨⟨⟨first, toString_not_mem other⟩, middle⟩, toString_not_mem other⟩, by simpa using last⟩

theorem charOfByte_eq_iff (a b : Nat) (byte : a < 256) (byte' : b < 256) :
    Char.ofNat a = Char.ofNat b ↔ a = b := by
  have toNat : ∀ n < 256, (Char.ofNat n).toNat = n := by decide +kernel
  constructor
  · intro same
    rw [← toNat a byte, ← toNat b byte', same]
  · rintro rfl
    rfl

/-- A byte occurs in the text of a pixel format as the character that stands for it. -/
theorem mem_fourccText_iff (pixelFormat byte : UInt32) (small : byte.toNat < 256) :
    Char.ofNat byte.toNat ∈ (fourccText pixelFormat).toList ↔
      ∃ shift ∈ ([0, 8, 16, 24] : List UInt32), (pixelFormat >>> shift) &&& 0xff = byte := by
  rw [fourccText, String.toList_ofList, List.mem_map]
  refine exists_congr fun shift => and_congr_right fun _ => ?_
  have masked : ((pixelFormat >>> shift) &&& 0xff).toNat < 256 := by
    rw [UInt32.toNat_and]
    exact Nat.lt_of_le_of_lt Nat.and_le_right (by decide)
  rw [charOfByte_eq_iff _ _ masked small, UInt32.toNat_inj]

theorem singleComponent_iff (outputDir : String) (header : FrameHeader) (index : Nat) :
    SingleComponent outputDir (payloadPath outputDir header index) ↔
      PlainFormat header.pixelFormat := by
  have slash := mem_fourccText_iff header.pixelFormat 0x2f (by decide)
  have nul := mem_fourccText_iff header.pixelFormat 0 (by decide)
  have stem_slash := fileStem_not_mem header index (c := '/') rfl (by decide)
  have stem_nul := fileStem_not_mem header index (c := Char.ofNat 0) rfl (by decide)
  have plain : PlainFormat header.pixelFormat ↔ '/' ∉ (fourccText header.pixelFormat).toList ∧
      Char.ofNat 0 ∉ (fourccText header.pixelFormat).toList := by
    rw [PlainFormat]
    refine Iff.trans ?_ (and_congr (not_congr slash.symm) (not_congr nul.symm))
    simp only [not_exists, not_and, ← forall_and]
  rw [plain, payloadPath_eq]
  constructor
  -- What follows the directory is the component.
  · rintro ⟨component, same, noSlash, noNul⟩
    have component_eq : fileStem header index ++ fourccText header.pixelFormat = component :=
      String.append_right_inj _ |>.mp same
    rw [← component_eq, String.toList_append, List.mem_append, not_or] at noSlash noNul
    exact ⟨noSlash.2, noNul.2⟩
  · rintro ⟨noSlash, noNul⟩
    refine ⟨_, rfl, ?_, ?_⟩
    · rw [String.toList_append, List.mem_append, not_or]
      exact ⟨stem_slash, noSlash⟩
    · rw [String.toList_append, List.mem_append, not_or]
      exact ⟨stem_nul, noNul⟩

/-- The file index can be read off the path: no digit follows it. -/
theorem payloadPath_index {outputDir : String} {header header' : FrameHeader} {index index' : Nat}
    (same : payloadPath outputDir header index = payloadPath outputDir header' index') :
    index = index' := by
  have cut (header : FrameHeader) (index : Nat) : (payloadPath outputDir header index).toList =
      (outputDir ++ "/recv_frame_").toList ++ ((toString index).toList ++ '_' ::
        ("id_" ++ toString header.frameId ++ "." ++ fourccToString header.pixelFormat).toList) := by
    have mark : "_id_" = "_" ++ "id_" := rfl
    have first : "_".toList = ['_'] := rfl
    rw [payloadPath, mark]
    simp only [String.toList_append, List.append_assoc, first, List.cons_append,
      List.nil_append]
  have lists := congrArg String.toList same
  rw [cut, cut, List.append_cancel_left_eq] at lists
  have digits (n : Nat) (rest : List Char) :
      ((toString n).toList ++ '_' :: rest).takeWhile Char.isDigit = (toString n).toList := by
    rw [List.takeWhile_append_of_pos fun c member => toString_digit member,
      List.takeWhile_cons_of_neg (by decide), List.append_nil]
  have numbers := congrArg (List.takeWhile Char.isDigit) lists
  rw [digits, digits] at numbers
  exact toString_injective (String.toList_inj.mp numbers)

/-! ### The frames of a run -/

/-- The frame that the next iteration counts: it is read to its end and passes both checks. -/
def countedFrame (cfg : ReceiverConfig) (conn : Connection) : Option Delivered :=
  match readExact kWireHeaderSize conn with
  | (.complete wireHeader, conn) =>
    let decoded := deserializeHeaderBytes (some wireHeader) {}
    if decoded.ok = false then none
    else
      match validateHeader decoded.header cfg.maxPayloadBytes with
      | .error _ => none
      | .ok () =>
        match readExact decoded.header.payloadSize.toNat conn with
        | (.complete payload, _) =>
          if computeCrc32 payload ≠ decoded.header.payloadCrc32 then none
          else some (decoded.header, payload)
        | _ => none
  | _ => none

/-- What an iteration does with a frame that it counts, and that it does not go on without. -/
def Counts (cfg : ReceiverConfig) (env : ReceiverEnv) (st : ReceiverState)
    (iteration : Iteration) : Option Delivered → Prop
  | none => ∀ st' conn', iteration ≠ .next st' conn'
  | some frame =>
    (∃ message, iteration = .throws message) ∨
      ∃ st' conn', iteration = .next st' conn' ∧ st.receiveFrame cfg env frame = .ok st'

theorem sessionStep_counts (cfg : ReceiverConfig) (env : ReceiverEnv) (st : ReceiverState)
    (conn : Connection) :
    Counts cfg env st (sessionStep cfg env st conn) (countedFrame cfg conn) := by
  rw [sessionStep, countedFrame]
  cases readExact kWireHeaderSize conn with
  | mk outcome afterHeader =>
    cases outcome with
    | failed errno => simp [Counts]
    | closed => simp [Counts]
    | complete wireHeader =>
      dsimp only
      split
      · simp [Counts]
      cases validateHeader (deserializeHeaderBytes (some wireHeader) {}).header
          cfg.maxPayloadBytes with
      | error reason => simp [Counts]
      | ok _ =>
        dsimp only
        cases readExact (deserializeHeaderBytes (some wireHeader) {}).header.payloadSize.toNat
            afterHeader with
        | mk outcome afterPayload =>
          cases outcome with
          | failed errno => simp [Counts]
          | closed => simp [Counts]
          | complete payload =>
            dsimp only
            split
            · simp [Counts]
            cases received : st.receiveFrame cfg env
                ((deserializeHeaderBytes (some wireHeader) {}).header, payload) with
            | error message => exact .inl ⟨message, rfl⟩
            | ok st' => exact .inr ⟨st', afterPayload, rfl, received⟩

theorem countedFrame_valid {cfg : ReceiverConfig} {conn : Connection} {frame : Delivered}
    (counted : countedFrame cfg conn = some frame) :
    validateHeader frame.1 cfg.maxPayloadBytes = .ok () := by
  rw [countedFrame] at counted
  split at counted
  next wireHeader afterHeader headerRead =>
    dsimp only at counted
    split at counted
    · cases counted
    split at counted
    · cases counted
    next valid =>
      split at counted
      · split at counted
        · cases counted
        · cases counted
          exact valid
      · cases counted
  · cases counted

/-- The frames of a session with their file indices, the last one also if saving it throws. -/
def sessionSaves (cfg : ReceiverConfig) (env : ReceiverEnv) (st : ReceiverState)
    (conn : Connection) : List (Nat × Delivered) :=
  if roomForFrames cfg st.receivedFrames then
    match countedFrame cfg conn with
    | none => []
    | some frame =>
      (st.receivedFrames + 1, frame) ::
        match _step : sessionStep cfg env st conn with
        | .next st conn => sessionSaves cfg env st conn
        | _ => []
  else []
termination_by (Socket.contents conn).length
decreasing_by exact sessionStep_shorter _step

/-- The frames of a run, session by session. -/
def acceptSaves (cfg : ReceiverConfig) (env : ReceiverEnv) (st : ReceiverState)
    (clients : List ClientEvent) : List (Nat × Delivered) :=
  if st.acceptedSessions < cfg.maxSessions ∧ roomForFrames cfg st.receivedFrames then
    match clients with
    | [] => []
    | .interrupted :: clients => acceptSaves cfg env st clients
    | .failed _ :: _ => []
    | .connected conn :: clients =>
      sessionSaves cfg env st.openSession conn ++
        match sessionLoop cfg env st.openSession 0 conn with
        | .threw _ => []
        | .left exit left sessionFrames =>
          let closed := left.closeSession exit
            ⟨Socket.contents conn, st.receivedFrames, sessionFrames, exit.sessionOk⟩
          if exit.fatal then [] else acceptSaves cfg env closed clients
  else []

theorem sessionSaves_none {cfg : ReceiverConfig} {env : ReceiverEnv} {st : ReceiverState}
    {conn : Connection} (none : countedFrame cfg conn = none) :
    sessionSaves cfg env st conn = [] := by
  rw [sessionSaves, none]
  split <;> rfl

theorem sessionSaves_some {cfg : ReceiverConfig} {env : ReceiverEnv} {st : ReceiverState}
    {conn : Connection} {frame : Delivered} (room : roomForFrames cfg st.receivedFrames)
    (counted : countedFrame cfg conn = some frame) :
    sessionSaves cfg env st conn = (st.receivedFrames + 1, frame) ::
      match sessionStep cfg env st conn with
      | .next st conn => sessionSaves cfg env st conn
      | _ => [] := by
  rw [sessionSaves, if_pos room, counted]
  dsimp only
  split
  next step => rw [step]
  next other =>
    split
    next step => exact absurd step (other _ _)
    next => rfl

/-- Saves under consecutive indices behind `before`, of frames with valid headers. -/
structure Numbered (cfg : ReceiverConfig) (before : Nat) (saves : List (Nat × Delivered)) :
    Prop where
  indices : saves.map (·.1) = List.range' (before + 1) saves.length
  valid : ∀ save ∈ saves, validateHeader save.2.1 cfg.maxPayloadBytes = .ok ()

theorem Numbered.nil (cfg : ReceiverConfig) (before : Nat) : Numbered cfg before [] :=
  ⟨rfl, fun _ member => absurd member List.not_mem_nil⟩

theorem Numbered.append {cfg : ReceiverConfig} {before : Nat}
    {saves later : List (Nat × Delivered)} (first : Numbered cfg before saves)
    (second : Numbered cfg (before + saves.length) later) :
    Numbered cfg before (saves ++ later) := by
  constructor
  · have next : before + saves.length + 1 = before + 1 + saves.length := by omega
    rw [List.map_append, first.indices, second.indices, List.length_append, next,
      List.range'_append_1]
  · intro save member
    rcases List.mem_append.mp member with earlier | behind
    · exact first.valid save earlier
    · exact second.valid save behind

theorem Numbered.singleton {cfg : ReceiverConfig} {before : Nat} {frame : Delivered}
    (valid : validateHeader frame.1 cfg.maxPayloadBytes = .ok ()) :
    Numbered cfg before [(before + 1, frame)] :=
  ⟨rfl, fun _ member => by rw [List.mem_singleton.mp member]; exact valid⟩

/-- Run lemma of a session: its frames are numbered from where it starts, and if it is left in
an orderly way, they are the frames that it has counted. -/
theorem sessionSaves_spec (cfg : ReceiverConfig) (env : ReceiverEnv) (st : ReceiverState)
    (sessionFrames : Nat) (conn : Connection) :
    Numbered cfg st.receivedFrames (sessionSaves cfg env st conn) ∧
      ∀ exit st' frames', sessionLoop cfg env st sessionFrames conn = .left exit st' frames' →
        st'.receivedFrames = st.receivedFrames + (sessionSaves cfg env st conn).length ∧
        st'.accepted = st.accepted ++ (sessionSaves cfg env st conn).map (·.2) := by
  induction st, sessionFrames, conn using sessionLoop.induct cfg env with
  | case1 st sessionFrames conn room message step =>
    refine ⟨?_, fun exit st' frames' left => ?_⟩
    · cases counted : countedFrame cfg conn with
      | none =>
        rw [sessionSaves_none counted]
        exact .nil cfg _
      | some frame =>
        rw [sessionSaves_some room counted, step]
        exact .singleton (countedFrame_valid counted)
    · rw [sessionLoop_room room, step] at left
      cases left
  | case2 st sessionFrames conn room exit step =>
    have counts := sessionStep_counts cfg env st conn
    rw [step] at counts
    cases counted : countedFrame cfg conn with
    | none =>
      rw [sessionSaves_none counted, sessionLoop_room room, step]
      refine ⟨.nil cfg _, fun exit st' frames' left => ?_⟩
      obtain ⟨rfl, rfl, rfl⟩ := SessionEnd.left.inj left
      have leaves := leave_spec st exit
      exact ⟨leaves.frames.1, by rw [leaves.accepted]; simp⟩
    -- Behind a counted frame there is no way to leave.
    | some frame =>
      rw [counted] at counts
      rcases counts with ⟨message, throws⟩ | ⟨st', conn', next, _⟩
      · cases throws
      · cases next
  | case3 st sessionFrames conn room next conn' step ih =>
    have counts := sessionStep_counts cfg env st conn
    rw [step] at counts
    cases counted : countedFrame cfg conn with
    | none =>
      rw [counted] at counts
      exact absurd rfl (counts next conn')
    | some frame =>
      rw [counted] at counts
      rcases counts with ⟨message, throws⟩ | ⟨st', conn'', same, received⟩
      · cases throws
      cases same
      obtain ⟨numbered, left⟩ := ih
      have count := (receiveFrame_ok received).receivedFrames
      have accepted : next.accepted = st.accepted ++ [frame] := by
        rw [ReceiverState.accepted, (receiveFrame_ok received).log, List.filterMap_append,
          frameEvents_accepted]
        rfl
      rw [sessionSaves_some room counted, step, sessionLoop_room room, step]
      rw [count] at numbered
      refine ⟨Numbered.append (.singleton (countedFrame_valid counted)) numbered,
        fun exit st' frames' leaves => ?_⟩
      obtain ⟨total, frames⟩ := left exit st' frames' leaves
      dsimp only
      refine ⟨?_, ?_⟩
      · rw [total, count, List.length_cons]
        omega
      · rw [frames, accepted]
        simp
  | case4 st sessionFrames conn full =>
    rw [sessionSaves, if_neg full, sessionLoop, if_neg full]
    refine ⟨.nil cfg _, fun exit st' frames' left => ?_⟩
    obtain ⟨rfl, rfl, rfl⟩ := SessionEnd.left.inj left
    have leaves := leave_spec st .frameLimit
    exact ⟨leaves.frames.1, by rw [leaves.accepted]; simp⟩

/-- Run lemma: the frames of a whole run are numbered through, and a run that ends has counted
just these. -/
theorem acceptSaves_spec (cfg : ReceiverConfig) (env : ReceiverEnv) (st : ReceiverState)
    (clients : List ClientEvent) :
    Numbered cfg st.receivedFrames (acceptSaves cfg env st clients) ∧
      ∀ st', acceptLoop cfg env st clients = .finished st' →
        st'.accepted = st.accepted ++ (acceptSaves cfg env st clients).map (·.2) := by
  induction clients generalizing st with
  | nil =>
    rw [acceptSaves, acceptLoop]
    split
    · exact ⟨.nil cfg _, fun st' run => by cases run⟩
    · exact ⟨.nil cfg _, fun st' run => by cases run; simp⟩
  | cons client clients ih =>
    rw [acceptSaves.eq_def, acceptLoop.eq_def]
    split
    next condition =>
      cases client with
      | interrupted => exact ih st
      | failed errno => exact ⟨.nil cfg _, fun st' run => by cases run⟩
      | connected conn =>
        obtain ⟨numbered, left⟩ := sessionSaves_spec cfg env st.openSession 0 conn
        have opened := openSession_accepted st
        dsimp only
        cases session : sessionLoop cfg env st.openSession 0 conn with
        | threw message =>
          rw [List.append_nil]
          exact ⟨numbered, fun st' run => by cases run⟩
        | left exit last sessionFrames =>
          obtain ⟨count, frames⟩ := left exit last sessionFrames session
          rw [opened] at frames
          dsimp only
          cases exit.fatal with
          | true =>
            rw [if_pos rfl, if_pos rfl, List.append_nil]
            refine ⟨numbered, fun st' run => ?_⟩
            cases run
            exact frames
          | false =>
            rw [if_neg (by simp), if_neg (by simp)]
            obtain ⟨later, ended⟩ := ih (last.closeSession exit
              ⟨Socket.contents conn, st.receivedFrames, sessionFrames, exit.sessionOk⟩)
            refine ⟨numbered.append (by rw [← count]; exact later), fun st' run => ?_⟩
            rw [ended st' run, List.map_append, ← List.append_assoc, ← frames]
            rfl
    next =>
      refine ⟨.nil cfg _, fun st' run => ?_⟩
      cases run
      simp

/-- No two frames of a run have the same path, and the paths of accepted headers are files of the
output directory as far as their pixel formats are plain. -/
theorem payloadPath_plain_iff (cfg : ReceiverConfig) (env : ReceiverEnv)
    (clients : List ClientEvent) (outputDir : String) :
    ((acceptSaves cfg env {} clients).map fun save =>
        payloadPath outputDir save.2.1 save.1).Nodup ∧
      ∀ (header : FrameHeader) (index : Nat),
        validateHeader header cfg.maxPayloadBytes = .ok () →
        (SingleComponent outputDir (payloadPath outputDir header index) ↔
          PlainFormat header.pixelFormat) := by
  refine ⟨?_, fun header index _ => singleComponent_iff outputDir header index⟩
  obtain ⟨⟨indices, _⟩, _⟩ := acceptSaves_spec cfg env {} clients
  have distinct : ((acceptSaves cfg env {} clients).map (·.1)).Nodup := by
    rw [indices]
    exact List.nodup_range'
  refine List.Nodup.map_on (fun save member save' member' same => ?_) (List.Nodup.of_map _ distinct)
  exact List.inj_on_of_nodup_map distinct member member' (payloadPath_index same)

/-- The pixel format "AB/D" is accepted, and its path leads into another directory. -/
theorem payloadPath_not_single :
    ¬ ∀ (header : FrameHeader) (index : Nat) (maxPayloadBytes : UInt32),
      validateHeader header maxPayloadBytes = .ok () →
        SingleComponent "output" (payloadPath "output" header index) := by
  intro single
  have component := single (makeHeader 0 1000 2 1 0x442F4241 4 0) 1 4 (by decide)
  rw [singleComponent_iff] at component
  exact absurd component (by decide)

end V4l2Capture.Receiver
