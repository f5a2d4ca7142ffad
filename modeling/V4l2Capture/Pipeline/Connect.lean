import V4l2Capture.Camera.Capture
import V4l2Capture.Library.Descriptors

/-!
# Connecting with retries

`connect_to_tcp_receiver_with_retry` of the pipeline and `connect_to_server_with_retry` of
tcp_sender are the same loop over the same attempt. A log lists the calls that open, use and
close sockets, so that a lost descriptor would be seen in it.
-/
namespace V4l2Capture.Pipeline

open Camera Descriptors

variable {N : Type}

/-! ### One attempt -/

/-- The outcomes of the system calls of an attempt; an error is given by `errno`. -/
structure ConnectCalls (N : Type) where
  socket : Except Errno N
  connect : Option Errno
  close : Option Errno

/-- What connecting depends on besides the calls. -/
structure ConnectEnv where
  /-- `inet_pton` takes the host for an IPv4 address. -/
  inetPton : String → Bool
  strerror : Errno → String

/-- The body that the two programs share; they name the option of the host differently. -/
def connectTo (option : String) (env : ConnectEnv) (host : String) (calls : ConnectCalls N) :
    List (Call N) × Except String N :=
  match calls.socket with
  | .error errno => ([], .error ("socket failed: " ++ env.strerror errno))
  | .ok fd =>
    if env.inetPton host = false then
      ([.obtain fd, .close fd], .error ("Invalid IPv4 address for " ++ option ++ ": " ++ host))
    else
      match calls.connect with
      -- The message is made behind the `close`, which can have set `errno` again.
      | some errno =>
        ([.obtain fd, .use fd, .close fd],
          .error ("connect failed: " ++ env.strerror (calls.close.getD errno)))
      | none => ([.obtain fd, .use fd], .ok fd)

def connectToTcpReceiver (env : ConnectEnv) (host : String) (calls : ConnectCalls N) :
    List (Call N) × Except String N :=
  connectTo "--tcp-host" env host calls

def connectToServer (env : ConnectEnv) (host : String) (calls : ConnectCalls N) :
    List (Call N) × Except String N :=
  connectTo "--host" env host calls

/-! ### The loop -/

/-- The counters of the loop. `calls` and `sleeps` are history: the calls of all attempts and
the delays between them, in milliseconds. -/
structure ConnectState (N : Type) where
  attempts : Nat := 0
  retries : Nat := 0
  lastError : String := ""
  calls : List (Call N) := []
  sleeps : List Nat := []
  deriving DecidableEq, Repr

structure ConnectLimits where
  maxAttempts : Nat
  retryDelayMs : Nat
  deriving DecidableEq, Repr

/-- What an attempt does to the state before its outcome is looked at. -/
def ConnectState.attempt (st : ConnectState N) (attempt : Nat) (calls : List (Call N)) :
    ConnectState N :=
  { st with attempts := attempt, calls := st.calls ++ calls }

/-- The handler of a failed attempt that is not the last one. -/
def ConnectState.retry (st : ConnectState N) (retryDelayMs : Nat) : ConnectState N :=
  { st with
    retries := st.retries + 1
    sleeps := if retryDelayMs > 0 then st.sleeps ++ [retryDelayMs] else st.sleeps }

/-- The rounds from `attempt` on, of which `left` are left; `none` when the loop is left
without a connection. -/
def retryLoop (connect : Nat → List (Call N) × Except String N) (limits : ConnectLimits) :
    (left attempt : Nat) → ConnectState N → ConnectState N × Option N
  | 0, _, st => (st, none)
  | left + 1, attempt, st =>
    let st := st.attempt attempt (connect attempt).1
    match (connect attempt).2 with
    | .ok fd => (st, some fd)
    | .error message =>
      let st := { st with lastError := message }
      if attempt ≥ limits.maxAttempts then (st, none)
      else retryLoop connect limits left (attempt + 1) (st.retry limits.retryDelayMs)

/-- Both functions, with what their `connect_to` makes of the calls of each attempt. -/
def connectWithRetry (connect : Nat → List (Call N) × Except String N) (host : String)
    (port : Nat) (limits : ConnectLimits) : ConnectState N × Except String N :=
  match retryLoop connect limits limits.maxAttempts 1 {} with
  | (st, some fd) => (st, .ok fd)
  | (st, none) =>
    (st, .error ("connect to " ++ host ++ ":" ++ toString port ++ " failed after " ++
      toString limits.maxAttempts ++ " attempt(s): " ++ st.lastError))

def connectToTcpReceiverWithRetry (env : ConnectEnv) (host : String) (port : Nat)
    (limits : ConnectLimits) (calls : Nat → ConnectCalls N) : ConnectState N × Except String N :=
  connectWithRetry (fun attempt => connectToTcpReceiver env host (calls attempt)) host port limits

def connectToServerWithRetry (env : ConnectEnv) (host : String) (port : Nat)
    (limits : ConnectLimits) (calls : Nat → ConnectCalls N) : ConnectState N × Except String N :=
  connectWithRetry (fun attempt => connectToServer env host (calls attempt)) host port limits

/-! ### Descriptors of an attempt -/

/-- An attempt that starts without a descriptor leaves the one that it returns, and uses only
what it holds. -/
structure Tidy (outcome : List (Call N) × Except String N) : Prop where
  held : ∀ log : List (Call N), (∀ n, ¬ Held log n) →
    ∀ n, Held (log ++ outcome.1) n ↔ outcome.2 = .ok n
  uses : ∀ log : List (Call N), UsesHeld log → UsesHeld (log ++ outcome.1)

theorem connectTo_tidy (option : String) (env : ConnectEnv) (host : String)
    (calls : ConnectCalls N) : Tidy (connectTo option env host calls) := by
  rw [connectTo]
  split
  · exact ⟨fun log empty n => by simp [empty n], fun log uses => by simpa using uses⟩
  next fd opened =>
    -- One call behind the other: each list is a log and one more call.
    have two : ∀ (log : List (Call N)) (a b : Call N), log ++ [a, b] = log ++ [a] ++ [b] := by simp
    have three : ∀ (log : List (Call N)) (a b c : Call N),
        log ++ [a, b, c] = log ++ [a] ++ [b] ++ [c] := by simp
    split
    · refine ⟨fun log empty n => ?_, fun log uses => ?_⟩
      · rw [two, held_close, held_obtain]
        simp [empty n]
      · rw [two]
        exact (uses.obtains fd).closes fd
    split
    · refine ⟨fun log empty n => ?_, fun log uses => ?_⟩
      · rw [three, held_close, held_use, held_obtain]
        simp [empty n]
      · rw [three]
        exact ((uses.obtains fd).usesOne ((held_obtain _ _ _).mpr (.inl rfl))).closes fd
    · refine ⟨fun log empty n => ?_, fun log uses => ?_⟩
      · rw [two, held_use, held_obtain]
        simp [empty n, eq_comm]
      · rw [two]
        exact (uses.obtains fd).usesOne ((held_obtain _ _ _).mpr (.inl rfl))

/-! ### Runs of the loop -/

/-- The first `k` attempts have failed. -/
def Fails (connect : Nat → List (Call N) × Except String N) (k : Nat) : Prop :=
  ∀ i < k, ∃ message, (connect (i + 1)).2 = .error message

/-- What the loop has counted behind failed attempts: it sleeps once for each retry and holds no
descriptor. -/
structure Tried (limits : ConnectLimits) (k : Nat) (st : ConnectState N) : Prop where
  retries : st.retries = k
  sleeps : st.sleeps =
    if limits.retryDelayMs > 0 then List.replicate k limits.retryDelayMs else []
  uses : UsesHeld st.calls

/-- How the loop ends: with the first attempt that succeeds and the only descriptor that is
open, or behind as many failed attempts as are allowed and with none. -/
inductive ConnectSpec (connect : Nat → List (Call N) × Except String N) (limits : ConnectLimits) :
    ConnectState N → Option N → Prop
  | connected (k : Nat) (fd : N) (st : ConnectState N) (within : k < limits.maxAttempts)
      (earlier : Fails connect k) (succeeds : (connect (k + 1)).2 = .ok fd)
      (attempts : st.attempts = k + 1) (tried : Tried limits k st)
      (held : ∀ n, Held st.calls n ↔ n = fd) : ConnectSpec connect limits st (some fd)
  | failed (k : Nat) (st : ConnectState N) (all : limits.maxAttempts = k + 1)
      (earlier : Fails connect (k + 1)) (last : (connect (k + 1)).2 = .error st.lastError)
      (attempts : st.attempts = k + 1) (tried : Tried limits k st)
      (held : ∀ n, ¬ Held st.calls n) : ConnectSpec connect limits st none

theorem Tried.retry {limits : ConnectLimits} {k : Nat} {st : ConnectState N}
    (tried : Tried limits k st) : Tried limits (k + 1) (st.retry limits.retryDelayMs) := by
  refine ⟨congrArg (· + 1) tried.retries, ?_, tried.uses⟩
  rw [ConnectState.retry, tried.sleeps]
  split
  · exact List.replicate_succ'.symm
  · rfl

theorem Fails.succ {connect : Nat → List (Call N) × Except String N} {k : Nat}
    (fails : Fails connect k) {message : String} (failed : (connect (k + 1)).2 = .error message) :
    Fails connect (k + 1) := by
  intro i below
  rcases Nat.lt_succ_iff_lt_or_eq.mp below with earlier | rfl
  · exact fails i earlier
  · exact ⟨message, failed⟩

theorem retryLoop_spec {connect : Nat → List (Call N) × Except String N} {limits : ConnectLimits}
    (tidy : ∀ attempt, Tidy (connect attempt)) {left k : Nat} (positive : 0 < left)
    (total : k + left = limits.maxAttempts) {st : ConnectState N} (fails : Fails connect k)
    (tried : Tried limits k st) (held : ∀ n, ¬ Held st.calls n) :
    ConnectSpec connect limits (retryLoop connect limits left (k + 1) st).1
      (retryLoop connect limits left (k + 1) st).2 := by
  induction left generalizing k st with
  | zero => exact absurd positive (Nat.lt_irrefl 0)
  | succ left ih =>
    have descriptors := (tidy (k + 1)).held st.calls held
    have uses := (tidy (k + 1)).uses st.calls tried.uses
    rw [retryLoop]
    cases outcome : (connect (k + 1)).2 with
    | ok fd =>
      refine .connected k fd _ (by omega) fails outcome rfl ⟨tried.retries, tried.sleeps, uses⟩ ?_
      intro n
      rw [ConnectState.attempt, descriptors, outcome, Except.ok.injEq, eq_comm]
    | error message =>
      have none : ∀ n, ¬ Held (st.calls ++ (connect (k + 1)).1) n := by
        intro n
        rw [descriptors, outcome]
        simp
      dsimp only
      split
      next final =>
        exact .failed k _ (by omega) (fails.succ outcome) outcome rfl
          ⟨tried.retries, tried.sleeps, uses⟩ none
      next again =>
        have counted : Tried limits k
            { st.attempt (k + 1) (connect (k + 1)).1 with lastError := message } :=
          ⟨tried.retries, tried.sleeps, uses⟩
        exact ih (by omega) (by omega) (fails.succ outcome) counted.retry none

theorem retryLoop_start {connect : Nat → List (Call N) × Except String N} {limits : ConnectLimits}
    (tidy : ∀ attempt, Tidy (connect attempt)) (positive : 0 < limits.maxAttempts) :
    ConnectSpec connect limits (retryLoop connect limits limits.maxAttempts 1 {}).1
      (retryLoop connect limits limits.maxAttempts 1 {}).2 :=
  retryLoop_spec tidy positive (Nat.zero_add _) (fun i below => absurd below (Nat.not_lt_zero i))
    ⟨rfl, by simp, usesHeld_nil⟩ not_held_nil

/-- Every run of either function: it returns the socket of the first attempt that succeeds, or
throws the text of the last one behind all of them. It has slept between attempts only, once for
each retry, and behind it no socket is open but the one that it returns. -/
theorem connectWithRetry_spec (option host : String) (env : ConnectEnv) (port : Nat)
    (limits : ConnectLimits) (positive : 0 < limits.maxAttempts) (calls : Nat → ConnectCalls N)
    (st : ConnectState N) (result : Except String N)
    (run : connectWithRetry (fun attempt => connectTo option env host (calls attempt)) host port
      limits = (st, result)) :
    st.attempts ≤ limits.maxAttempts ∧ st.attempts = st.retries + 1 ∧
      st.sleeps = (if limits.retryDelayMs > 0
        then List.replicate st.retries limits.retryDelayMs else []) ∧
      (∀ i < st.retries, ∃ message,
        (connectTo option env host (calls (i + 1))).2 = .error message) ∧
      UsesHeld st.calls ∧ (∀ n, Held st.calls n ↔ result = .ok n) ∧
      match result with
      | .ok fd => (connectTo option env host (calls st.attempts)).2 = .ok fd
      | .error text => st.attempts = limits.maxAttempts ∧
        ∃ message, (connectTo option env host (calls st.attempts)).2 = .error message ∧
          text = "connect to " ++ host ++ ":" ++ toString port ++ " failed after " ++
            toString limits.maxAttempts ++ " attempt(s): " ++ message := by
  have spec := retryLoop_start
    (fun attempt => connectTo_tidy option env host (calls attempt)) positive
  rw [connectWithRetry] at run
  cases loop : retryLoop (fun attempt => connectTo option env host (calls attempt)) limits
      limits.maxAttempts 1 {} with
  | mk last found =>
    rw [loop] at run spec
    cases spec with
    | connected k fd _ within earlier succeeds attempts tried held =>
      obtain ⟨rfl, rfl⟩ := Prod.mk.inj run
      rw [attempts, tried.retries]
      refine ⟨within, rfl, tried.sleeps, earlier, tried.uses, fun n => ?_, succeeds⟩
      rw [held, Except.ok.injEq, eq_comm]
    | failed k _ all earlier failure attempts tried held =>
      obtain ⟨rfl, rfl⟩ := Prod.mk.inj run
      rw [attempts, tried.retries]
      refine ⟨all.ge, rfl, tried.sleeps, fun i below => earlier i (Nat.lt_succ_of_lt below),
        tried.uses, fun n => ?_, all.symm, last.lastError, failure, rfl⟩
      simp [held n]

/-- A host with an address, and an error text. -/
def localEnv : ConnectEnv := ⟨fun _ => true, fun _ => "Connection refused"⟩

/-- The receiver starts between the first two attempts. -/
def lateReceiver (attempt : Nat) : ConnectCalls Nat :=
  ⟨.ok 3, if attempt = 1 then some 111 else none, none⟩

/-- `connectWithRetry_spec` for that receiver. -/
theorem connectWithRetry_spec_late : ∃ st,
    connectToServerWithRetry localEnv "127.0.0.1" 9000 ⟨3, 500⟩ lateReceiver = (st, .ok 3) ∧
      st.attempts = 2 ∧ st.sleeps = [500] ∧ ∀ n, Held st.calls n ↔ n = 3 := by
  obtain ⟨st, run, two⟩ : ∃ st, connectToServerWithRetry localEnv "127.0.0.1" 9000 ⟨3, 500⟩
      lateReceiver = (st, .ok 3) ∧ st.retries = 1 := ⟨_, rfl, rfl⟩
  obtain ⟨_, attempts, sleeps, _, _, held, _⟩ :=
    connectWithRetry_spec "--host" "127.0.0.1" localEnv 9000 ⟨3, 500⟩ (by decide) lateReceiver st
      (.ok 3) run
  rw [two] at attempts sleeps
  exact ⟨st, run, attempts, sleeps, fun n => (held n).trans (by simp [eq_comm])⟩

end V4l2Capture.Pipeline
