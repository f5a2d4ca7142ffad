import V4l2Capture.Receiver.ReadExact

/-!
# Interruptible reads of the diagnostics node

`readInterruptible` polls before every receive call and gives up when a stop is
requested. Whatever the polls and the stop flag do, a read that succeeds has taken the
next bytes of the stream.
-/
namespace V4l2Capture.Diagnostics

open Receiver

/-- The `revents` bits that the node looks at. -/
structure Revents where
  pollIn : Bool := false
  pollHup : Bool := false
  pollErr : Bool := false
  pollNval : Bool := false
  deriving DecidableEq, Repr

inductive PollResult where
  | timeout
  | interrupted
  | failed (errno : Errno)
  | ready (revents : Revents)
  deriving DecidableEq, Repr

/-- What the node meets while it serves a client. Polls behind the listed ones find the
socket readable; `stopAfter` counts the loads of the stop flag that still see `false`. -/
structure NodeInput where
  conn : Connection
  polls : List PollResult := []
  stopAfter : Option Nat := none
  deriving DecidableEq, Repr

inductive ReadResult where
  | ok (bytes : List UInt8)
  | peerClosed
  | stopped
  | error (text : String)
  deriving DecidableEq, Repr

def NodeInput.loadStop (input : NodeInput) : Bool × NodeInput :=
  match input.stopAfter with
  | none => (false, input)
  | some 0 => (true, input)
  | some (n + 1) => (false, { input with stopAfter := some n })

def NodeInput.poll (input : NodeInput) : PollResult × NodeInput :=
  match input.polls with
  | [] => (.ready { pollIn := true }, input)
  | result :: polls => (result, { input with polls := polls })

/-- What one round of the read loop comes to. -/
inductive ReadRound where
  | again (out : List UInt8) (input : NodeInput)
  | done (result : ReadResult) (input : NodeInput)

/-- The receive call of a round and what follows it. -/
def recvRound (strerror : Errno → String) (size : Nat) (out : List UInt8) (input : NodeInput) :
    ReadRound :=
  match Socket.recv (size - out.length) input.conn with
  | (.closed, conn) =>
    let input := { input with conn := conn }
    -- Unlike `read_exact`, a close inside the data is an error of its own.
    if out.length = 0 then .done .peerClosed input
    else .done (.error ("peer closed after " ++ toString out.length ++ " of " ++ toString size ++
      " requested bytes")) input
  | (.interrupted, conn) => .again out { input with conn := conn }
  | (.failed errno, conn) =>
    .done (.error ("recv failed: " ++ strerror errno)) { input with conn := conn }
  | (.bytes data, conn) => .again (out ++ data) { input with conn := conn }

/-- The poll of a round and the checks of its result. -/
def pollRound (strerror : Errno → String) (size : Nat) (out : List UInt8) (input : NodeInput) :
    ReadRound :=
  match input.poll with
  | (.timeout, input) => .again out input
  | (.interrupted, input) => .again out input
  | (.failed errno, input) => .done (.error ("client poll failed: " ++ strerror errno)) input
  | (.ready revents, input) =>
    if revents.pollNval then .done (.error "client socket became invalid") input
    else if revents.pollErr then .done (.error "client socket reported a poll error") input
    -- Buffered data is still read behind a hang-up.
    else if ¬ (revents.pollIn ∨ revents.pollHup) then .again out input
    else recvRound strerror size out input

/-- The body of the loop of `read_exact_interruptible`. -/
def readRound (strerror : Errno → String) (size : Nat) (out : List UInt8) (input : NodeInput) :
    ReadRound :=
  match input.loadStop with
  | (true, input) => .done .stopped input
  | (false, input) => pollRound strerror size out input

/-- Bounds the rounds that an input can still serve. -/
def NodeInput.weight (input : NodeInput) : Nat :=
  Socket.weight input.conn + input.polls.length

/-- What a round does to the stream. -/
def RoundSpec (size : Nat) (out : List UInt8) (input : NodeInput) : ReadRound → Prop
  | .again out' input' => input'.weight < input.weight ∧ out'.length ≤ size ∧
      ∃ data, out' = out ++ data ∧
        Socket.contents input.conn = data ++ Socket.contents input'.conn
  | .done result _ => ∀ bytes, result ≠ .ok bytes

theorem loadStop_spec (input : NodeInput) :
    input.loadStop.2.conn = input.conn ∧ input.loadStop.2.polls = input.polls := by
  cases shape : input.stopAfter with
  | none => simp [NodeInput.loadStop, shape]
  | some n => cases n <;> simp [NodeInput.loadStop, shape]

theorem recvRound_spec (strerror : Errno → String) (size : Nat) (out : List UInt8)
    (input : NodeInput) (room : out.length < size) :
    RoundSpec size out input (recvRound strerror size out input) := by
  have spec := Socket.recv_spec (size - out.length) (by omega) input.conn
  unfold recvRound
  cases result : Socket.recv (size - out.length) input.conn with
  | mk received conn =>
    rw [result] at spec
    cases received with
    | closed =>
      simp only
      split <;> simp [RoundSpec]
    | interrupted =>
      refine ⟨?_, by omega, [], by simp, spec.1⟩
      have := spec.2
      simp only [NodeInput.weight]
      omega
    | failed errno => simp [RoundSpec]
    | bytes data =>
      obtain ⟨_, fits, split, lighter⟩ := spec
      refine ⟨?_, by rw [List.length_append]; omega, data, rfl, split⟩
      simp only [NodeInput.weight]
      omega

/-- A round may poll first, as long as it takes nothing from the stream. -/
theorem RoundSpec.of_polled {size : Nat} {out : List UInt8} {input polled : NodeInput}
    {round : ReadRound} (spec : RoundSpec size out polled round)
    (same : polled.conn = input.conn) (lighter : polled.weight ≤ input.weight) :
    RoundSpec size out input round := by
  cases round with
  | again out' input' =>
    obtain ⟨less, fits, data, grown, split⟩ := spec
    exact ⟨by omega, fits, data, grown, by rw [← same, split]⟩
  | done result input' => exact spec

theorem pollRound_spec (strerror : Errno → String) (size : Nat) (out : List UInt8)
    (input : NodeInput) (room : out.length < size) :
    RoundSpec size out input (pollRound strerror size out input) := by
  unfold pollRound
  cases shape : input.polls with
  | nil =>
    simp only [NodeInput.poll, shape]
    exact recvRound_spec strerror size out input room
  | cons result polls =>
    simp only [NodeInput.poll, shape]
    have lighter : NodeInput.weight { input with polls := polls } < input.weight := by
      simp only [NodeInput.weight, shape, List.length_cons]
      omega
    -- A round that ends at the poll takes nothing from the stream.
    have again : RoundSpec size out input (.again out { input with polls := polls }) :=
      ⟨lighter, by omega, [], by simp, rfl⟩
    cases result with
    | timeout => exact again
    | interrupted => exact again
    | failed errno => simp [RoundSpec]
    | ready revents =>
      simp only
      split
      · simp [RoundSpec]
      split
      · simp [RoundSpec]
      split
      · exact again
      · exact (recvRound_spec strerror size out _ room).of_polled rfl (Nat.le_of_lt lighter)

theorem readRound_spec (strerror : Errno → String) (size : Nat) (out : List UInt8)
    (input : NodeInput) (room : out.length < size) :
    RoundSpec size out input (readRound strerror size out input) := by
  obtain ⟨conn, polls⟩ := loadStop_spec input
  unfold readRound
  cases load : input.loadStop with
  | mk stop loaded =>
    rw [load] at conn polls
    simp only at conn polls
    cases stop with
    | true => simp [RoundSpec]
    | false =>
      refine (pollRound_spec strerror size out loaded room).of_polled conn ?_
      simp only [NodeInput.weight, conn, polls, Nat.le_refl]

/-! ### The whole read -/

def readInterruptibleLoop (strerror : Errno → String) (size : Nat) (out : List UInt8)
    (input : NodeInput) : ReadResult × NodeInput :=
  if _more : out.length < size then
    match _round : readRound strerror size out input with
    | .again out next => readInterruptibleLoop strerror size out next
    | .done result next => (result, next)
  else (.ok out, input)
termination_by input.weight
-- Every round that goes on has used up a poll result or something of the connection.
decreasing_by
  have spec := readRound_spec strerror size _ input _more
  rw [_round] at spec
  exact spec.1

def readInterruptible (strerror : Errno → String) (size : Nat) (input : NodeInput) :
    ReadResult × NodeInput :=
  readInterruptibleLoop strerror size [] input

theorem readInterruptibleLoop_ok {strerror : Errno → String} {size : Nat} {out bytes : List UInt8}
    {input next : NodeInput} (within : out.length ≤ size)
    (read : readInterruptibleLoop strerror size out input = (.ok bytes, next)) :
    ∃ data, bytes = out ++ data ∧ bytes.length = size ∧
      Socket.contents input.conn = data ++ Socket.contents next.conn := by
  induction out, input using readInterruptibleLoop.induct strerror size with
  | case1 out input more out' input' round ih =>
    have spec := readRound_spec strerror size out input more
    rw [round] at spec
    rw [readInterruptibleLoop, dif_pos more, round] at read
    obtain ⟨_, fits, data, rfl, split⟩ := spec
    obtain ⟨later, rfl, full, split'⟩ := ih fits read
    exact ⟨data ++ later, by simp, full, by rw [split, split', List.append_assoc]⟩
  | case2 out input more result input' round =>
    have spec := readRound_spec strerror size out input more
    rw [round] at spec
    rw [readInterruptibleLoop, dif_pos more, round] at read
    cases read
    exact absurd rfl (spec bytes)
  | case3 out input full =>
    rw [readInterruptibleLoop, dif_neg full] at read
    cases read
    exact ⟨[], by simp, by omega, rfl⟩

/-- A read that succeeds has taken the next `size` bytes of the stream. -/
theorem readInterruptible_ok {strerror : Errno → String} {size : Nat} {bytes : List UInt8}
    {input next : NodeInput}
    (read : readInterruptible strerror size input = (.ok bytes, next)) :
    bytes.length = size ∧
      Socket.contents input.conn = bytes ++ Socket.contents next.conn := by
  obtain ⟨data, rfl, full, split⟩ := readInterruptibleLoop_ok (Nat.zero_le _) read
  exact ⟨full, split⟩

end V4l2Capture.Diagnostics
