import Mathlib.Data.Fintype.EquivFin
import V4l2Capture.Diagnostics.ReceiverLoop
import V4l2Capture.Library.Descriptors
import V4l2Capture.Library.Transition

/-!
# The sockets of the diagnostics node

`receiver_loop` registers its sockets in `listen_fd_` and `client_fd_`, and the destructor of
the node shuts down what is registered. The steps of both interleave with each other and with
what the rest of the process does with descriptors, which may be handed a closed number at
once. What the calls of the loop return matters here only as far as the loop goes on, ends or
throws; `loop_covered` relates the runs to those of `loopStep`.
-/
namespace V4l2Capture.Diagnostics

open Descriptors

abbrev Fd := Nat

/-- Where `receiver_loop` stands between two of its steps. -/
inductive ReceiverPlace where
  | starting
  | opened
  | preparing
  | listening
  | accepted (client : Fd)
  | serving (client : Fd)
  | cleared (client : Fd)
  -- In the `catch` block.
  | handling
  -- Behind the loop or the `catch` block.
  | leaving
  | closing
  | ended
  -- The process is terminated by an exception that nothing catches.
  | terminated
  deriving DecidableEq, Repr

/-- How far `~TcpDiagnosticsNode` is. -/
inductive DestructorPlace where
  | waiting
  | stopping
  | joining
  | joined
  deriving DecidableEq, Repr

structure SocketState where
  stopRequested : Bool := false
  /-- The members `listen_fd_` and `client_fd_`, `none` for the value -1. -/
  listenFd : Option Fd := none
  clientFd : Option Fd := none
  localListenFd : Option Fd := none
  place : ReceiverPlace := .starting
  destructor : DestructorPlace := .waiting
  /-- The calls of the node on descriptors so far. A use is a `shutdown`. -/
  calls : List (Call Fd) := []
  /-- The descriptors that the rest of the process has open. -/
  others : List Fd := []
  deriving DecidableEq, Repr

/-- A number that is open is not handed out. -/
def SocketState.IsOpen (s : SocketState) (fd : Fd) : Prop :=
  fd ∈ held s.calls ∨ fd ∈ s.others

instance (s : SocketState) : DecidablePred s.IsOpen := fun fd =>
  inferInstanceAs (Decidable (fd ∈ held s.calls ∨ fd ∈ s.others))

def SocketState.call (s : SocketState) (call : Call Fd) : SocketState :=
  { s with calls := s.calls ++ [call] }

/-! ### The members -/

def closeFd (s : SocketState) : Option Fd → SocketState
  | some fd => s.call (.close fd)
  | none => s

/-- `shutdown` of a member, if it is registered. -/
def shutdownFd (s : SocketState) : Option Fd → SocketState
  | some fd => s.call (.use fd)
  | none => s

def interruptSockets (s : SocketState) : SocketState :=
  shutdownFd (shutdownFd s s.clientFd) s.listenFd

def registerListenFd (s : SocketState) (fd : Option Fd) : SocketState :=
  { s with listenFd := fd }

def registerClientFd (s : SocketState) (fd : Option Fd) : SocketState :=
  { s with clientFd := fd }

def clearListenFd (s : SocketState) (fd : Option Fd) : SocketState :=
  if s.listenFd = fd then { s with listenFd := none } else s

def clearClientFd (s : SocketState) (fd : Option Fd) : SocketState :=
  if s.clientFd = fd then { s with clientFd := none } else s

/-! ### The steps -/

inductive ReceiverAction where
  | socket (result : Option Fd)
  | registerListen
  -- `setsockopt`, `inet_pton`, `bind` and `listen` succeed.
  | prepared
  -- A load of the stop flag or a limit ends the loop.
  | leaveStopped
  | leaveAtLimit
  | accept (client : Fd)
  | registerClient
  -- `handle_client` has returned.
  | clearClient
  | closeClient
  -- A failed call or an exception inside the `try` block.
  | throws
  | handled
  | clearListen
  | closeListen
  -- An exception that is no `std::exception`, or one outside the `try` block.
  | terminate
  deriving DecidableEq, Repr

/-- The places inside the `try` block where something can throw. -/
def ReceiverPlace.throws : ReceiverPlace → Bool
  | .opened | .preparing | .listening | .accepted _ | .serving _ => true
  | _ => false

def SocketState.goto (s : SocketState) (place : ReceiverPlace) : SocketState :=
  { s with place := place }

/-- The socket is obtained unless its number is open. -/
def SocketState.obtain (s : SocketState) (fd : Fd) : Option SocketState :=
  if s.IsOpen fd then none else some (s.call (.obtain fd))

def receiverStep (s : SocketState) (action : ReceiverAction) : Option SocketState :=
  match s.place, action with
  | .starting, .socket none => some (s.goto .handling)
  | .starting, .socket (some fd) =>
    (s.obtain fd).map fun s => { s with localListenFd := some fd, place := .opened }
  | .opened, .registerListen => some ((registerListenFd s s.localListenFd).goto .preparing)
  | .preparing, .prepared => some (s.goto .listening)
  | .listening, .leaveStopped => if s.stopRequested then some (s.goto .leaving) else none
  | .listening, .leaveAtLimit => some (s.goto .leaving)
  | .listening, .accept client => (s.obtain client).map (·.goto (.accepted client))
  | .accepted client, .registerClient =>
    some ((registerClientFd s (some client)).goto (.serving client))
  -- An exception out of the session skips this and leaves the client registered and open.
  | .serving client, .clearClient => some ((clearClientFd s (some client)).goto (.cleared client))
  | .cleared client, .closeClient => some ((closeFd s (some client)).goto .listening)
  | place, .throws => if place.throws then some (s.goto .handling) else none
  | .handling, .handled => some (s.goto .leaving)
  | .leaving, .clearListen => some ((clearListenFd s s.localListenFd).goto .closing)
  | .closing, .closeListen => some ((closeFd s s.localListenFd).goto .ended)
  | place, .terminate =>
    if place.throws ∨ place = .handling ∨ place = .leaving then some (s.goto .terminated)
    else none
  | _, _ => none

inductive DestructorAction where
  | requestStop
  | interruptSockets
  | join
  deriving DecidableEq, Repr

def destructorStep (s : SocketState) (action : DestructorAction) : Option SocketState :=
  match s.destructor, action with
  | .waiting, .requestStop => some { s with stopRequested := true, destructor := .stopping }
  | .stopping, .interruptSockets => some { interruptSockets s with destructor := .joining }
  | .joining, .join => if s.place = .ended then some { s with destructor := .joined } else none
  | _, _ => none

inductive SocketAction where
  | receiver (action : ReceiverAction)
  | destructor (action : DestructorAction)
  -- Elsewhere in the process a descriptor is opened or closed.
  | othersOpen (fd : Fd)
  | othersClose (fd : Fd)
  deriving DecidableEq, Repr

def socketStep (s : SocketState) (action : SocketAction) : Option SocketState :=
  if s.place = .terminated then none
  else
    match action with
    | .receiver action => receiverStep s action
    | .destructor action => destructorStep s action
    | .othersOpen fd => if s.IsOpen fd then none else some { s with others := fd :: s.others }
    | .othersClose fd => some { s with others := s.others.filter (· ≠ fd) }

/-! ### The rounds of the loop -/

/-- The places of `loopStep` are between its steps. -/
def Corresponds : Place → ReceiverPlace → Prop
  | .starting, place => place = .starting
  | .listening, place => place = .listening
  | .serving _, place => ∃ client, place = .serving client
  | .finished, place => place = .ended

theorem exists_obtain (s : SocketState) : ∃ fd, s.obtain fd = some (s.call (.obtain fd)) := by
  obtain ⟨fd, unused⟩ := Infinite.exists_notMem_finset (held s.calls ++ s.others).toFinset
  rw [List.mem_toFinset, List.mem_append] at unused
  exact ⟨fd, if_neg unused⟩

/-- Some steps of the node lead to a place of the loop. -/
def ReachesPlace (s : SocketState) (place : ReceiverPlace) : Prop :=
  ∃ s', Transition.Reaches socketStep s s' ∧ s'.place = place

theorem reachesPlace_of_run {s : SocketState} {place : ReceiverPlace} (actions : List SocketAction)
    (ran : (Transition.run socketStep s actions).map (·.place) = some place) :
    ReachesPlace s place := by
  obtain ⟨s', last, there⟩ := Option.map_eq_some_iff.mp ran
  exact ⟨s', Transition.reaches_of_run last, there⟩

section Covered

variable (s : SocketState)

/-- `socket` fails. -/
theorem starting_ends : ReachesPlace (s.goto .starting) .ended :=
  reachesPlace_of_run
    [.receiver (.socket none), .receiver .handled, .receiver .clearListen, .receiver .closeListen]
    rfl

theorem listening_ends : ReachesPlace (s.goto .listening) .ended :=
  reachesPlace_of_run
    [.receiver .leaveAtLimit, .receiver .clearListen, .receiver .closeListen] rfl

theorem starting_listens : ReachesPlace (s.goto .starting) .listening := by
  obtain ⟨fd, obtained⟩ := exists_obtain (s.goto .starting)
  have opens : socketStep (s.goto .starting) (.receiver (.socket (some fd))) = some
      { (s.goto .starting).call (.obtain fd) with localListenFd := some fd, place := .opened } :=
    congrArg (Option.map _) obtained
  obtain ⟨s', later, there⟩ : ReachesPlace
      { (s.goto .starting).call (.obtain fd) with localListenFd := some fd, place := .opened }
      .listening :=
    reachesPlace_of_run [.receiver .registerListen, .receiver .prepared] rfl
  exact ⟨s', later.head ⟨_, opens⟩, there⟩

theorem listening_serves : ∃ client, ReachesPlace (s.goto .listening) (.serving client) := by
  obtain ⟨client, obtained⟩ := exists_obtain (s.goto .listening)
  have accepts : socketStep (s.goto .listening) (.receiver (.accept client)) =
      some (((s.goto .listening).call (.obtain client)).goto (.accepted client)) :=
    congrArg (Option.map _) obtained
  obtain ⟨s', later, there⟩ : ReachesPlace
      (((s.goto .listening).call (.obtain client)).goto (.accepted client)) (.serving client) :=
    reachesPlace_of_run [.receiver .registerClient] rfl
  exact ⟨client, s', later.head ⟨_, accepts⟩, there⟩

theorem serving_listens (client : Fd) : ReachesPlace (s.goto (.serving client)) .listening :=
  reachesPlace_of_run [.receiver .clearClient, .receiver .closeClient] rfl

end Covered

theorem fail_place (s : LoopState) (text : String) (stop : Bool) :
    (s.fail text stop).place = .finished := by
  rw [LoopState.fail]
  split <;> rfl

theorem failUnlessStopped_place (s : LoopState) (text : String) (met : LoopRound) :
    (s.failUnlessStopped text met).place = .finished := by
  rw [LoopState.failUnlessStopped]
  split
  · rfl
  · exact fail_place s text met.stopAtCatch

theorem acceptRound_place (env : NodeEnv) (s : LoopState) (met : LoopRound) :
    (acceptRound env s met).place = s.place ∨ (acceptRound env s met).place = .finished ∨
      ∃ input, (acceptRound env s met).place = .serving input := by
  rw [acceptRound]
  split
  · exact .inl rfl
  · exact .inr (.inl (failUnlessStopped_place _ _ _))
  next input _ => exact .inr (.inr ⟨input, rfl⟩)

/-- A round of the accept loop goes on, ends the thread or serves a client. -/
theorem listenRound_place (cfg : LoopConfig) (env : NodeEnv) (s : LoopState) (met : LoopRound) :
    (listenRound cfg env s met).place = s.place ∨
      (listenRound cfg env s met).place = .finished ∨
      ∃ input, (listenRound cfg env s met).place = .serving input := by
  rw [listenRound]
  split
  · exact .inr (.inl rfl)
  split
  · exact .inr (.inl rfl)
  split
  · exact .inr (.inl rfl)
  split
  · exact .inl rfl
  · exact .inl rfl
  · exact .inr (.inl (failUnlessStopped_place _ _ _))
  · split
    · exact .inr (.inl (failUnlessStopped_place _ _ _))
    · split
      · exact .inl rfl
      · exact acceptRound_place env s met

theorem closeSession_place (s : LoopState) (stop : Bool) :
    (s.closeSession stop).place = .listening := by
  rw [LoopState.closeSession]
  split <;> rfl

theorem goto_place {s : SocketState} {place : ReceiverPlace} (there : s.place = place) :
    s = s.goto place := by
  rw [← there]
  rfl

/-- Wherever a step of `loopStep` leads, steps on the sockets lead too. -/
theorem loopStep_covered {cfg : LoopConfig} {env : NodeEnv} {s s' : LoopState}
    {action : LoopAction} {t : SocketState} (taken : loopStep cfg env s action = some s')
    (together : Corresponds s.place t.place) :
    ∃ place, Corresponds s'.place place ∧ ReachesPlace t place := by
  have stays : ReachesPlace t t.place := ⟨t, .refl, rfl⟩
  cases action with
  | setup outcome stopAtCatch =>
    simp only [loopStep] at taken
    split at taken
    next starting =>
      cases taken
      rw [starting] at together
      rw [goto_place together]
      split
      · rw [fail_place]
        exact ⟨.ended, rfl, starting_ends t⟩
      · exact ⟨.listening, rfl, starting_listens t⟩
    · cases taken
  | round met =>
    simp only [loopStep] at taken
    split at taken
    next listening =>
      cases taken
      rcases listenRound_place cfg env s met with on | finished | ⟨input, served⟩
      · rw [on]
        exact ⟨t.place, together, stays⟩
      · rw [listening] at together
        rw [goto_place together, finished]
        exact ⟨.ended, rfl, listening_ends t⟩
      · rw [listening] at together
        rw [goto_place together, served]
        obtain ⟨client, serves⟩ := listening_serves t
        exact ⟨.serving client, ⟨client, rfl⟩, serves⟩
    · cases taken
  | iterate stopAfterSession =>
    simp only [loopStep] at taken
    split at taken
    next input serving =>
      cases taken
      rw [serving] at together
      obtain ⟨client, there⟩ := together
      split
      · rw [closeSession_place, goto_place there]
        exact ⟨.listening, rfl, serving_listens t client⟩
      · exact ⟨t.place, ⟨client, there⟩, stays⟩
    · cases taken

/-- Every run of the receiver loop is that of some run on the sockets, whatever descriptors the
rest of the process has open at its start. -/
theorem loop_covered {cfg : LoopConfig} {env : NodeEnv} {s : LoopState} (others : List Fd)
    (reached : Transition.Reaches (loopStep cfg env) {} s) :
    ∃ t, Transition.Reaches socketStep { others := others } t ∧ Corresponds s.place t.place := by
  induction reached with
  | refl => exact ⟨_, .refl, rfl⟩
  | tail _ last ih =>
    obtain ⟨t, before, together⟩ := ih
    obtain ⟨action, taken⟩ := last
    obtain ⟨place, there, t', later, same⟩ := loopStep_covered taken together
    rw [← same] at there
    exact ⟨t', before.trans later, there⟩

/-! ### The invariant -/

/-- The client of the round that the loop is in. -/
def ReceiverPlace.client : ReceiverPlace → Option Fd
  | .accepted client | .serving client | .cleared client => some client
  | _ => none

/-- What is registered is held, and the loop closes nothing that is registered. -/
structure SocketsSound (s : SocketState) : Prop where
  uses : UsesHeld s.calls
  /-- No number is open twice. -/
  apart : ∀ fd, Held s.calls fd → fd ∉ s.others
  localUnset : s.place = .starting → s.localListenFd = none
  localHeld : s.place ≠ .ended → ∀ fd, s.localListenFd = some fd → Held s.calls fd
  listenLocal : ∀ fd, s.listenFd = some fd → s.localListenFd = some fd
  listenCleared : s.place = .closing ∨ s.place = .ended → s.listenFd = none
  clientHeld : ∀ fd, s.clientFd = some fd → Held s.calls fd ∧ s.localListenFd ≠ some fd
  accepted : ∀ client, s.place.client = some client →
    Held s.calls client ∧ s.localListenFd ≠ some client
  serving : ∀ client, s.place = .serving client → s.clientFd = some client
  cleared : ∀ client, s.place = .cleared client → s.clientFd = none

theorem socketsSound_initial (others : List Fd) : SocketsSound { others := others } where
  uses := usesHeld_nil
  apart fd held := absurd held (not_held_nil fd)
  localUnset _ := rfl
  localHeld _ fd absent := by cases absent
  listenLocal fd absent := by cases absent
  listenCleared _ := rfl
  clientHeld fd absent := by cases absent
  accepted client absent := by cases absent
  serving client elsewhere := by cases elsewhere
  cleared client elsewhere := by cases elsewhere

namespace SocketsSound

variable {s s' : SocketState}

/-- The places about which the invariant says nothing in particular. -/
def Plain (place : ReceiverPlace) : Prop :=
  place = .listening ∨ place = .handling ∨ place = .leaving ∨ place = .terminated

/-- Step lemma: the loop goes on without touching a descriptor or a member. -/
theorem goto (sound : SocketsSound s) (running : s.place ≠ .ended) {place : ReceiverPlace}
    (plain : Plain place) : SocketsSound (s.goto place) := by
  have localHeld := sound.localHeld running
  rcases plain with rfl | rfl | rfl | rfl
  all_goals
    constructor
    case uses => exact sound.uses
    case apart => exact sound.apart
    case localHeld => exact fun _ => localHeld
    case listenLocal => exact sound.listenLocal
    case clientHeld => exact sound.clientHeld
    all_goals simp [SocketState.goto, ReceiverPlace.client]

/-- A number that is handed out is new to the loop and to the rest of the process. -/
theorem obtain_spec {fd : Fd} (obtained : s.obtain fd = some s') :
    s' = s.call (.obtain fd) ∧ ¬ Held s.calls fd ∧ fd ∉ s.others := by
  rw [SocketState.obtain] at obtained
  split at obtained
  · cases obtained
  next unused =>
    rw [SocketState.IsOpen, not_or, mem_held] at unused
    exact ⟨(Option.some.inj obtained).symm, unused⟩

theorem apart_obtain (sound : SocketsSound s) {fd : Fd} (unused : fd ∉ s.others) :
    ∀ n, Held (s.calls ++ [.obtain fd]) n → n ∉ s.others := by
  intro n now
  rcases (held_obtain _ _ _).mp now with rfl | before
  · exact unused
  · exact sound.apart n before

theorem opens (sound : SocketsSound s) (starting : s.place = .starting) {fd : Fd}
    (obtained : s.obtain fd = some s') :
    SocketsSound { s' with localListenFd := some fd, place := .opened } := by
  obtain ⟨rfl, new, unused⟩ := obtain_spec obtained
  constructor
  case uses => exact sound.uses.obtains fd
  case apart => exact sound.apart_obtain unused
  case localHeld =>
    rintro _ n ⟨⟩
    exact (held_obtain _ _ _).mpr (.inl rfl)
  -- Nothing was registered before there was a socket.
  case listenLocal =>
    intro n registered
    have unset := sound.listenLocal n registered
    rw [sound.localUnset starting] at unset
    cases unset
  case clientHeld =>
    intro n registered
    have before := (sound.clientHeld n registered).1
    refine ⟨(held_obtain _ _ _).mpr (.inr before), ?_⟩
    rintro ⟨⟩
    exact new before
  all_goals simp [ReceiverPlace.client]

theorem accepts (sound : SocketsSound s) (listening : s.place = .listening) {fd : Fd}
    (obtained : s.obtain fd = some s') : SocketsSound (s'.goto (.accepted fd)) := by
  obtain ⟨rfl, new, unused⟩ := obtain_spec obtained
  have running : s.place ≠ .ended := by simp [listening]
  constructor
  case uses => exact sound.uses.obtains fd
  case apart => exact sound.apart_obtain unused
  case localHeld =>
    intro _ n localFd
    exact (held_obtain _ _ _).mpr (.inr (sound.localHeld running n localFd))
  case listenLocal => exact sound.listenLocal
  case clientHeld =>
    intro n registered
    have before := sound.clientHeld n registered
    exact ⟨(held_obtain _ _ _).mpr (.inr before.1), before.2⟩
  case accepted =>
    rintro client ⟨⟩
    exact ⟨(held_obtain _ _ _).mpr (.inl rfl), fun same => new (sound.localHeld running fd same)⟩
  all_goals simp [SocketState.goto]

theorem apart_close (sound : SocketsSound s) (fd : Fd) :
    ∀ n, Held (s.calls ++ [.close fd]) n → n ∉ s.others := by
  intro n now
  exact sound.apart n ((held_close _ _ _).mp now).2

/-- The closed client is neither registered nor the listening socket. -/
theorem closesClient (sound : SocketsSound s) {client : Fd} (cleared : s.place = .cleared client) :
    SocketsSound ((closeFd s (some client)).goto .listening) := by
  have running : s.place ≠ .ended := by simp [cleared]
  have other := (sound.accepted client (by rw [cleared]; rfl)).2
  have unregistered := sound.cleared client cleared
  constructor
  case uses => exact sound.uses.closes client
  case apart => exact sound.apart_close client
  case localHeld =>
    intro _ n localFd
    refine (held_close _ _ _).mpr ⟨?_, sound.localHeld running n localFd⟩
    rintro rfl
    exact other localFd
  case listenLocal => exact sound.listenLocal
  -- The member was cleared before the close.
  case clientHeld =>
    intro n registered
    cases unregistered.symm.trans registered
  all_goals simp [SocketState.goto, ReceiverPlace.client]

/-- A client that is still registered at the end is another descriptor than the closed one. -/
theorem closesListen (sound : SocketsSound s) (closing : s.place = .closing) :
    SocketsSound ((closeFd s s.localListenFd).goto .ended) := by
  have cleared := sound.listenCleared (.inl closing)
  cases localFd : s.localListenFd with
  | none =>
    constructor
    case uses => exact sound.uses
    case apart => exact sound.apart
    case listenLocal => exact sound.listenLocal
    case listenCleared => exact fun _ => cleared
    case clientHeld => exact sound.clientHeld
    all_goals simp [closeFd, SocketState.goto, ReceiverPlace.client]
  | some fd =>
    constructor
    case uses => exact sound.uses.closes fd
    case apart => exact sound.apart_close fd
    case listenLocal => exact sound.listenLocal
    case listenCleared => exact fun _ => cleared
    case clientHeld =>
      intro n registered
      obtain ⟨before, other⟩ := sound.clientHeld n registered
      refine ⟨(held_close _ _ _).mpr ⟨?_, before⟩, other⟩
      rintro rfl
      exact other localFd
    all_goals simp [closeFd, SocketState.goto, SocketState.call, ReceiverPlace.client]

theorem registersListen (sound : SocketsSound s) (opened : s.place = .opened) :
    SocketsSound ((registerListenFd s s.localListenFd).goto .preparing) := by
  have running : s.place ≠ .ended := by simp [opened]
  constructor
  case uses => exact sound.uses
  case apart => exact sound.apart
  case localHeld => exact fun _ => sound.localHeld running
  case listenLocal => exact fun _ registered => registered
  case clientHeld => exact sound.clientHeld
  all_goals simp [SocketState.goto, ReceiverPlace.client]

theorem registersClient (sound : SocketsSound s) {client : Fd}
    (accepted : s.place = .accepted client) :
    SocketsSound ((registerClientFd s (some client)).goto (.serving client)) := by
  have running : s.place ≠ .ended := by simp [accepted]
  have held := sound.accepted client (by rw [accepted]; rfl)
  constructor
  case uses => exact sound.uses
  case apart => exact sound.apart
  case localHeld => exact fun _ => sound.localHeld running
  case listenLocal => exact sound.listenLocal
  case clientHeld =>
    rintro n ⟨⟩
    exact held
  case accepted =>
    rintro n ⟨⟩
    exact held
  case serving =>
    rintro n ⟨⟩
    rfl
  all_goals simp [SocketState.goto]

theorem clearsClient (sound : SocketsSound s) {client : Fd} (serving : s.place = .serving client) :
    SocketsSound ((clearClientFd s (some client)).goto (.cleared client)) := by
  have running : s.place ≠ .ended := by simp [serving]
  have held := sound.accepted client (by rw [serving]; rfl)
  rw [clearClientFd, if_pos (sound.serving client serving)]
  constructor
  case uses => exact sound.uses
  case apart => exact sound.apart
  case localHeld => exact fun _ => sound.localHeld running
  case listenLocal => exact sound.listenLocal
  case accepted =>
    rintro n ⟨⟩
    exact held
  all_goals simp [SocketState.goto]

/-- What is registered is the local socket, so the comparison never fails. -/
theorem clearsListen (sound : SocketsSound s) (leaving : s.place = .leaving) :
    SocketsSound ((clearListenFd s s.localListenFd).goto .closing) := by
  have running : s.place ≠ .ended := by simp [leaving]
  have cleared : clearListenFd s s.localListenFd = { s with listenFd := none } := by
    rw [clearListenFd]
    split
    · rfl
    next other =>
      cases registered : s.listenFd with
      | none => rw [← registered]
      | some fd => exact absurd (registered.trans (sound.listenLocal fd registered).symm) other
  rw [cleared]
  constructor
  case uses => exact sound.uses
  case apart => exact sound.apart
  case localHeld => exact fun _ => sound.localHeld running
  case clientHeld => exact sound.clientHeld
  all_goals simp [SocketState.goto, ReceiverPlace.client]

/-! ### The run -/

theorem receiver (sound : SocketsSound s) {action : ReceiverAction}
    (taken : receiverStep s action = some s') : SocketsSound s' := by
  have toHandling : Plain .handling := .inr (.inl rfl)
  have toLeaving : Plain .leaving := .inr (.inr (.inl rfl))
  have toTerminated : Plain .terminated := .inr (.inr (.inr rfl))
  unfold receiverStep at taken
  split at taken
  next starting =>
    cases taken
    exact sound.goto (by simp [starting]) toHandling
  next starting =>
    obtain ⟨between, obtained, rfl⟩ := Option.map_eq_some_iff.mp taken
    exact sound.opens starting obtained
  next opened =>
    cases taken
    exact sound.registersListen opened
  next preparing =>
    cases taken
    exact sound.goto (by simp [preparing]) (.inl rfl)
  next listening =>
    split at taken
    · cases taken
      exact sound.goto (by simp [listening]) toLeaving
    · cases taken
  next listening =>
    cases taken
    exact sound.goto (by simp [listening]) toLeaving
  next listening =>
    obtain ⟨between, obtained, rfl⟩ := Option.map_eq_some_iff.mp taken
    exact sound.accepts listening obtained
  next accepted =>
    cases taken
    exact sound.registersClient accepted
  next serving =>
    cases taken
    exact sound.clearsClient serving
  next cleared =>
    cases taken
    exact sound.closesClient cleared
  -- The registered client of a session that throws stays held.
  · split at taken
    next throws =>
      cases taken
      exact sound.goto (fun ended => by simp [ended, ReceiverPlace.throws] at throws) toHandling
    · cases taken
  next handling =>
    cases taken
    exact sound.goto (by simp [handling]) toLeaving
  next leaving =>
    cases taken
    exact sound.clearsListen leaving
  next closing =>
    cases taken
    exact sound.closesListen closing
  · split at taken
    next uncaught =>
      cases taken
      exact sound.goto (fun ended => by simp [ended, ReceiverPlace.throws] at uncaught) toTerminated
    · cases taken
  · cases taken

theorem listenHeld (sound : SocketsSound s) (fd : Fd) (registered : s.listenFd = some fd) :
    Held s.calls fd := by
  by_cases ended : s.place = .ended
  · rw [sound.listenCleared (.inr ended)] at registered
    cases registered
  · exact sound.localHeld ended fd (sound.listenLocal fd registered)

/-- Step lemma: a shutdown of what is held. -/
theorem shutdown (sound : SocketsSound s) {fd : Option Fd}
    (held : ∀ n, fd = some n → Held s.calls n) : SocketsSound (shutdownFd s fd) := by
  cases fd with
  | none => exact sound
  | some fd =>
    have uses : UsesHeld (s.calls ++ [.use fd]) := sound.uses.usesOne (held fd rfl)
    refine { sound with
      uses := uses, apart := ?_, localHeld := ?_, clientHeld := ?_, accepted := ?_ }
    all_goals simp only [shutdownFd, SocketState.call, held_use]
    · exact sound.apart
    · exact sound.localHeld
    · exact sound.clientHeld
    · exact sound.accepted

/-- Both shutdowns see the members as they are, under one lock. -/
theorem interrupts (sound : SocketsSound s) : SocketsSound (interruptSockets s) := by
  have first := sound.shutdown fun fd registered => (sound.clientHeld fd registered).1
  have members : (shutdownFd s s.clientFd).listenFd = s.listenFd := by
    cases s.clientFd <;> rfl
  apply first.shutdown
  rw [← members]
  exact first.listenHeld

theorem destructorRuns (sound : SocketsSound s) {action : DestructorAction}
    (taken : destructorStep s action = some s') : SocketsSound s' := by
  unfold destructorStep at taken
  split at taken
  · cases taken
    exact { sound with }
  · cases taken
    exact { sound.interrupts with }
  · split at taken
    · cases taken
      exact { sound with }
    · cases taken
  · cases taken

theorem step (sound : SocketsSound s) {action : SocketAction}
    (taken : socketStep s action = some s') : SocketsSound s' := by
  unfold socketStep at taken
  split at taken
  · cases taken
  cases action with
  | receiver action => exact sound.receiver taken
  | destructor action => exact sound.destructorRuns taken
  | othersOpen fd =>
    simp only at taken
    split at taken
    · cases taken
    next unused =>
      cases taken
      refine { sound with apart := ?_ }
      intro n before opened
      rcases List.mem_cons.mp opened with rfl | earlier
      · exact unused (.inl ((mem_held _ _).mpr before))
      · exact sound.apart n before earlier
  | othersClose fd =>
    cases taken
    refine { sound with apart := ?_ }
    intro n before kept
    exact sound.apart n before (List.mem_filter.mp kept).1

end SocketsSound

theorem socketsSound_reached {others : List Fd} {s : SocketState}
    (reached : Transition.Reaches socketStep { others := others } s) : SocketsSound s := by
  apply Transition.invariant SocketsSound (socketsSound_initial others) ?_ reached
  intro before action after _ sound taken
  exact sound.step taken

/-- Every shutdown is one of a descriptor that the loop has obtained and not closed by then, and
what is still registered behind the loop is open. -/
theorem interruptSockets_sound (others : List Fd) (s : SocketState)
    (reached : Transition.Reaches socketStep { others := others } s) :
    UsesHeld s.calls ∧ (s.place = .ended → ∀ fd, s.listenFd = some fd ∨ s.clientFd = some fd →
      Held s.calls fd ∧ fd ∉ s.others) := by
  have sound := socketsSound_reached reached
  refine ⟨sound.uses, ?_⟩
  rintro _ fd (listens | client)
  · have held := sound.listenHeld fd listens
    exact ⟨held, sound.apart fd held⟩
  · have held := (sound.clientHeld fd client).1
    exact ⟨held, sound.apart fd held⟩

/-- A session throws behind the interruption, so its descriptor stays open and registered. The
number 4 of the first client was handed out elsewhere before it was a client's again. -/
def thrownSession : List SocketAction :=
  [.receiver (.socket (some 3)), .receiver .registerListen, .receiver .prepared,
    .receiver (.accept 4), .receiver .registerClient, .receiver .clearClient,
    .receiver .closeClient, .othersOpen 4, .othersClose 4, .receiver (.accept 4),
    .destructor .requestStop, .receiver .registerClient, .destructor .interruptSockets,
    .receiver .throws, .receiver .handled, .receiver .clearListen, .receiver .closeListen,
    .destructor .join]

theorem interruptSockets_sound_thrown :
    ∃ s, Transition.Reaches socketStep { others := [0, 1, 2] } s ∧ s.place = .ended ∧
      s.clientFd = some 4 ∧ UsesHeld s.calls ∧ Held s.calls 4 := by
  obtain ⟨s, reached, ended, client⟩ : ∃ s, Transition.Reaches socketStep
      { others := [0, 1, 2] } s ∧ s.place = .ended ∧ s.clientFd = some 4 :=
    Transition.exists_reached thrownSession (by decide +kernel)
  have sound := interruptSockets_sound [0, 1, 2] s reached
  exact ⟨s, reached, ended, client, sound.1, (sound.2 ended 4 (.inr client)).1⟩

end V4l2Capture.Diagnostics
