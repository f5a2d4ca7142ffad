import V4l2Capture.Library.Socket

/-!
# Reading from a connection

`readExact` is the receive loop of `tcp_receiver`: it retries interrupted calls and
reports `closed` when the peer closes before the buffer is full, whether or not some
bytes had arrived. `readExact_spec` states what each outcome says about the stream.
-/
namespace V4l2Capture.Receiver

abbrev Errno := Nat

/-- A connection: the arrivals on its socket; `interrupted` stands for `EINTR`. -/
abbrev Connection := List (Socket.Arrival UInt8 Errno)

/-- `true`, `false` and the exception of `read_exact`. -/
inductive ReadOutcome where
  | complete (bytes : List UInt8)
  | closed
  | failed (errno : Errno)
  deriving DecidableEq, Repr

/-- The loop of `read_exact`; `out` holds the `total` bytes read so far. -/
def readLoop (size : Nat) (out : List UInt8) (conn : Connection) : ReadOutcome × Connection :=
  if _more : out.length < size then
    match _result : Socket.recv (size - out.length) conn with
    -- `recv` returned zero: whatever is in `out` is abandoned.
    | (.closed, next) => (.closed, next)
    | (.interrupted, next) => readLoop size out next
    | (.failed errno, next) => (.failed errno, next)
    | (.bytes data, next) => readLoop size (out ++ data) next
  else (.complete out, conn)
termination_by Socket.weight conn
-- Both retries follow a receive call that consumed an arrival or some of its data.
decreasing_by
  all_goals
    have spec := Socket.recv_spec (size - out.length) (by omega) conn
    rw [_result] at spec
    simp only at spec
    omega

def readExact (size : Nat) (conn : Connection) : ReadOutcome × Connection :=
  readLoop size [] conn

/-- What the outcome of a read says about the stream that the connection carries. -/
def ReadSpec (size : Nat) (out : List UInt8) (conn : Connection) :
    ReadOutcome × Connection → Prop
  | (.complete bytes, next) => ∃ data, bytes = out ++ data ∧ bytes.length = size ∧
      Socket.contents conn = data ++ Socket.contents next ∧
      (Socket.Reliable conn → Socket.Reliable next)
  | (.closed, _) => out.length + (Socket.contents conn).length < size
  | (.failed _, _) => ¬ Socket.Reliable conn

/-- One receive call in front of a read. -/
theorem ReadSpec.of_received {size : Nat} {out out' : List UInt8} {conn next : Connection}
    {result : ReadOutcome × Connection} (spec : ReadSpec size out' next result) (data : List UInt8)
    (split : Socket.contents conn = data ++ Socket.contents next)
    (kept : Socket.Reliable conn → Socket.Reliable next) (grown : out' = out ++ data) :
    ReadSpec size out conn result := by
  subst grown
  obtain ⟨outcome, last⟩ := result
  cases outcome with
  | complete bytes =>
    obtain ⟨more, rfl, full, rest, kept'⟩ := spec
    refine ⟨data ++ more, by simp, full, ?_, kept' ∘ kept⟩
    rw [split, rest, List.append_assoc]
  | closed =>
    simp only [ReadSpec, split, List.length_append] at spec ⊢
    omega
  | failed errno => exact fun reliable => spec (kept reliable)

theorem readLoop_spec (size : Nat) (out : List UInt8) (conn : Connection)
    (room : out.length ≤ size) : ReadSpec size out conn (readLoop size out conn) := by
  -- The cases are the exits and retries of the loop, in the order of its `match`.
  induction out, conn using readLoop.induct size with
  | case1 out conn more next result =>
    have spec := Socket.recv_spec (size - out.length) (by omega) conn
    rw [result] at spec
    rw [readLoop, dif_pos more, result]
    simp only at spec
    simp only [ReadSpec, spec.1, Socket.contents, List.length_nil]
    omega
  | case2 out conn more next result ih =>
    have spec := Socket.recv_spec (size - out.length) (by omega) conn
    have kept := Socket.recv_reliable (size - out.length) conn
    rw [result] at spec kept
    rw [readLoop, dif_pos more, result]
    exact (ih room).of_received [] (by simpa using spec.1) kept (by simp)
  | case3 out conn more errno next result =>
    have spec := Socket.recv_spec (size - out.length) (by omega) conn
    rw [result] at spec
    rw [readLoop, dif_pos more, result]
    exact fun reliable => reliable errno spec.1
  | case4 out conn more data next result ih =>
    have spec := Socket.recv_spec (size - out.length) (by omega) conn
    have kept := Socket.recv_reliable (size - out.length) conn
    rw [result] at spec kept
    obtain ⟨_, fits, split, _⟩ := spec
    rw [readLoop, dif_pos more, result]
    have within : (out ++ data).length ≤ size := by rw [List.length_append]; omega
    exact (ih within).of_received data split kept rfl
  | case5 out conn full =>
    rw [readLoop, dif_neg full]
    exact ⟨[], by simp, by omega, rfl, id⟩

/-- Reading a buffer of `size` bytes: either the next `size` bytes of the stream, or
fewer were left when the peer closed, or a receive call failed. -/
theorem readExact_spec (size : Nat) (conn : Connection) :
    match readExact size conn with
    | (.complete bytes, next) => bytes.length = size ∧
        Socket.contents conn = bytes ++ Socket.contents next ∧
        (Socket.Reliable conn → Socket.Reliable next)
    | (.closed, _) => (Socket.contents conn).length < size
    | (.failed _, _) => ¬ Socket.Reliable conn := by
  have spec := readLoop_spec size [] conn (Nat.zero_le _)
  rw [readExact]
  revert spec
  cases readLoop size [] conn with
  | mk outcome next =>
    cases outcome with
    | complete bytes =>
      rintro ⟨data, rfl, full, split, kept⟩
      exact ⟨full, split, kept⟩
    | closed => intro short; simpa [ReadSpec] using short
    | failed errno => exact id

/-- On a connection without failures the outcome depends on the stream only, not on how
it is cut into receive results. -/
theorem readExact_reliable (size : Nat) (conn : Connection) (reliable : Socket.Reliable conn) :
    (size ≤ (Socket.contents conn).length ∧ ∃ next,
      readExact size conn = (.complete ((Socket.contents conn).take size), next) ∧
      Socket.contents next = (Socket.contents conn).drop size ∧ Socket.Reliable next) ∨
    ((Socket.contents conn).length < size ∧ ∃ next, readExact size conn = (.closed, next)) := by
  have spec := readExact_spec size conn
  cases result : readExact size conn with
  | mk outcome next =>
    rw [result] at spec
    cases outcome with
    | complete bytes =>
      obtain ⟨full, split, kept⟩ := spec
      refine Or.inl ⟨?_, next, ?_, ?_, kept reliable⟩
      · rw [split, List.length_append]
        omega
      · rw [split, List.take_left' full]
      · rw [split, List.drop_left' full]
    | closed => exact Or.inr ⟨spec, next, rfl⟩
    | failed errno => exact absurd reliable spec

end V4l2Capture.Receiver
