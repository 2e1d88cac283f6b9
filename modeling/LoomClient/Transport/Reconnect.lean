import LoomClient.Lib.TaskSlot
import LoomClient.Lib.Transition
import LoomClient.Transport.RestAnswer

namespace LoomClient.Transport
open Lib

structure HandshakeError where
  status : Nat
  contentType : Option String
  history : List Nat

-- How a connection attempt fails before the socket opens.
inductive UpgradeFailure where
  | boxGate (refusal : RestError)
  | handshake (status : Nat)
  | other

def gateRefusalOr (e : HandshakeError) : UpgradeFailure :=
  match gateRefusal e.status (e.contentType.getD "") with
  | some refusal => .boxGate refusal
  | none => match e.history.head?.bind fun status => gateRefusal status "" with
    | some refusal => .boxGate refusal
    | none => .handshake e.status

def upgradeRefused (boxIngress : Bool) (e : HandshakeError) : UpgradeFailure :=
  if boxIngress then gateRefusalOr e else .handshake e.status

-- The failures that do not clear on their own.
def UpgradeFailure.rejects : UpgradeFailure → Bool
  | .boxGate _ => true
  | .handshake status => decide (status = 401) || decide (status = 403)
  | .other => false

def reconnectBackoff : List ℚ := [1 / 2,2,5,15,30]
def reconnectJitterShare : ℚ := 1 / 5
def healthyConnectionSeconds : ℚ := 10

def ladderStep (attempt : Nat) : ℚ := reconnectBackoff.getD (min attempt (reconnectBackoff.length - 1)) 0

-- `random.uniform` with the number it draws from the unit interval.
def uniform (low high draw : ℚ) : ℚ := low + (high - low) * draw

def backoffDelay (attempt : Nat) (draw : ℚ) : ℚ :=
  let step := ladderStep attempt
  let spread := step * reconnectJitterShare
  step + uniform (-spread) spread draw

structure LoopConfig where
  boxIngress : Bool
  ownSession : Bool
  onConnectionState : Bool
  onAuthFailed : Bool

-- `absent` is no task, or one that is done; an `Ending` is how `_read_loop` came back; `disowned` is the
-- auth handler awaited for a `reauth_failed` frame, `refused` for a rejected upgrade.
inductive LoopPhase where
  | absent
  | created
  | connecting
  | subscribing
  | announcing
  | reading
  | disowned
  | withdrawing (ending : Ending)
  | leaving (ending : Ending)
  | refusing
  | refused
  | sleeping (wake : ℚ)
  deriving DecidableEq

inductive ShutdownPhase where
  | none
  | closingSocket
  | awaitingTask
  | closingSession
  | withdrawing
  deriving DecidableEq

-- How long the connection took, whether it ended without an exception, and the delay that follows.
structure Cycle where
  started : ℚ
  ended : ℚ
  clean : Bool
  delay : ℚ

-- The last six fields are the loop as an observer records it.
structure ReaderLoop where
  phase : LoopPhase
  shutdown : ShutdownPhase
  cancelling : Bool
  closing : Bool
  stopped : Bool
  session : Bool
  attempt : Nat
  reportedConnected : Bool
  now : ℚ
  started : ℚ
  told : List Bool
  authFailures : Nat
  connects : Nat
  createdAt : Option ℚ
  cycles : List Cycle
  rejected : Bool

def ReaderLoop.fresh (now : ℚ) : ReaderLoop :=
  ⟨.absent,.none,false,false,false,false,0,false,now,now,[],0,0,none,[],false⟩

section Loop
variable (c : LoopConfig)

-- A transition is recorded before the handler is called. Its errors are suppressed.
def reportConnectionState (connected : Bool) (waiting next : ReaderLoop → ReaderLoop) (x : ReaderLoop) : ReaderLoop :=
  if connected = x.reportedConnected then next x
  else if c.onConnectionState then waiting {x with reportedConnected := connected,told := x.told ++ [connected]}
  else next {x with reportedConnected := connected}

def ReaderLoop.goto (x : ReaderLoop) (phase : LoopPhase) : ReaderLoop := {x with phase}

-- The head of `_run_forever`'s loop.
def nextPass (x : ReaderLoop) : ReaderLoop :=
  if x.closing then x.goto .absent else {x with phase := .connecting,started := x.now,connects := x.connects + 1}

-- The ladder starts anew after a connection that was up long enough.
def endPass (clean : Bool) (draw : ℚ) (x : ReaderLoop) : ReaderLoop :=
  let attempt := if clean && decide (healthyConnectionSeconds ≤ x.now - x.started) then 0 else x.attempt
  if x.closing then {x with attempt,phase := .absent}
  else
    let delay := backoffDelay attempt draw
    {x with attempt := attempt + 1,phase := .sleeping (x.now + delay),cycles := ⟨x.started,x.now,clean,delay⟩ :: x.cycles}

def tellAuthFailed (x : ReaderLoop) : ReaderLoop :=
  if c.onAuthFailed then {x with phase := .refused,authFailures := x.authFailures + 1}
  else {x with phase := .absent,stopped := true}

def reject (x : ReaderLoop) : ReaderLoop :=
  reportConnectionState c false (·.goto .refusing) (tellAuthFailed c) {x with rejected := true}

def failUpgrade (failure : UpgradeFailure) (draw : ℚ) (x : ReaderLoop) : ReaderLoop :=
  if failure.rejects then reject c x else endPass false draw x

def endReading (ending : Ending) (x : ReaderLoop) : ReaderLoop :=
  reportConnectionState c false (·.goto (.withdrawing ending)) (·.goto (.leaving ending)) x

def startReading (x : ReaderLoop) : ReaderLoop := if x.closing then endReading c .returned x else x.goto .reading

-- A `reauth_failed` frame. The reading goes on until the daemon closes the connection.
def reauthFailed (x : ReaderLoop) : ReaderLoop :=
  if c.onAuthFailed then {x with phase := .disowned,authFailures := x.authFailures + 1} else x

def announce (x : ReaderLoop) : ReaderLoop := reportConnectionState c true (·.goto .announcing) (startReading c) x

-- What is left of `stop()` once the read task is gone.
def finishStop (x : ReaderLoop) : ReaderLoop :=
  reportConnectionState c false (fun y => {y with shutdown := .withdrawing})
    (fun y => {y with shutdown := .none,stopped := true}) {x with session := false}

def closeSession (x : ReaderLoop) : ReaderLoop :=
  if x.session then {x with shutdown := .closingSession} else finishStop c x

def cancelTask (x : ReaderLoop) : ReaderLoop :=
  if x.phase = .absent then closeSession c x else {x with shutdown := .awaitingTask,cancelling := true}

end Loop

-- `_ws` is set and was not closed from here.
def LoopPhase.attached : LoopPhase → Bool
  | .subscribing | .announcing | .reading | .disowned => true
  | _ => false

@[simp] def LoopPhase.up : LoopPhase → Bool
  | .announcing | .reading | .disowned => true
  | _ => false

-- The places where a handler of the consumer is awaited; one may be, while reading.
def LoopPhase.handling : LoopPhase → Bool
  | .announcing | .reading | .disowned | .withdrawing _ | .refusing | .refused => true
  | _ => false

-- One owner starts and stops the transport from a task of its own, and awaits each `stop()` to its end
-- before the next call. A handler may keep a cancellation to itself (`caught`).
inductive LoopAction where
  | elapse (seconds : ℚ)
  | start
  | begun
  | upgradeFailed (draw : ℚ)
  | upgradeRefused (e : HandshakeError) (draw : ℚ)
  | opened
  | subscribed (sent : Bool)
  | handled
  | reauthFailed
  | readEnded (clean : Bool)
  | left (closed : Bool) (draw : ℚ)
  | woke
  | cancelled
  | caught
  | stop (socketClosed : Bool)
  | socketClosed
  | taskEnded
  | sessionClosed
  | withdrawn

def inUnit (draw : ℚ) : Bool := decide (0 ≤ draw) && decide (draw ≤ 1)

-- A cancellation leaves the await it was thrown into.
def cancelledAt (c : LoopConfig) (x : ReaderLoop) : ReaderLoop := match x.phase with
  | .subscribing | .announcing => x.goto (.leaving .cancelled)
  | .reading | .disowned => endReading c .cancelled x
  | .withdrawing _ => x.goto (.leaving .cancelled)
  | _ => x.goto .absent

-- A handler of the consumer has come back.
def handledAt (c : LoopConfig) (x : ReaderLoop) : Option ReaderLoop := match x.phase with
  | .announcing | .disowned => some (startReading c x)
  | .withdrawing ending => some (x.goto (.leaving ending))
  | .refusing => some (tellAuthFailed c x)
  | .refused => some {x with phase := .absent,stopped := true}
  | _ => none

-- The end of `async with`, whose own error takes the place of what it was left by.
def leftAt (closed : Bool) (draw : ℚ) (x : ReaderLoop) : Option ReaderLoop := match x.phase with
  | .leaving ending => some (match (if closed then ending else .raised : Ending) with
    | .cancelled => x.goto .absent
    | .returned => endPass true draw x
    | .raised => endPass false draw x)
  | _ => none

def when (enabled : Bool) (x : ReaderLoop) : Option ReaderLoop := if enabled then some x else none

-- A cancellation that was asked for is what the read task meets next.
def loopStep (c : LoopConfig) (x : ReaderLoop) : LoopAction → Option ReaderLoop
  | .elapse seconds => when (decide (0 ≤ seconds)) {x with now := x.now + seconds}
  | .start =>
    if x.shutdown ≠ .none then none
    else if x.phase ≠ .absent then some x
    else some {x with phase := .created,closing := false,stopped := false,session := c.ownSession,attempt := 0,connects := 0,
                      createdAt := some x.now,cycles := [],rejected := false}
  | .begun => when (!x.cancelling && decide (x.phase = .created)) (nextPass x)
  | .upgradeFailed draw => when (!x.cancelling && decide (x.phase = .connecting) && inUnit draw) (failUpgrade c .other draw x)
  | .upgradeRefused e draw =>
    when (!x.cancelling && decide (x.phase = .connecting) && inUnit draw) (failUpgrade c (Transport.upgradeRefused c.boxIngress e) draw x)
  | .opened => when (!x.cancelling && decide (x.phase = .connecting)) (x.goto .subscribing)
  | .subscribed sent =>
    when (!x.cancelling && decide (x.phase = .subscribing)) (if sent then announce c x else x.goto (.leaving .raised))
  | .handled => if x.cancelling then none else handledAt c x
  | .reauthFailed => when (!x.cancelling && decide (x.phase = .reading)) (Transport.reauthFailed c x)
  | .readEnded clean =>
    when (!x.cancelling && decide (x.phase = .reading)) (endReading c (if clean then .returned else .raised) x)
  | .left closed draw => if x.cancelling || !inUnit draw then none else leftAt closed draw x
  | .woke => match x.phase with
    | .sleeping wake => when (!x.cancelling && decide (wake ≤ x.now)) (nextPass x)
    | _ => none
  | .cancelled => when x.cancelling (cancelledAt c {x with cancelling := false})
  | .caught => when (x.cancelling && x.phase.handling) {x with cancelling := false}
  | .stop socketClosed =>
    if x.shutdown ≠ .none then none
    else
      let y := {x with closing := true}
      some (if x.phase.attached && !socketClosed then {y with shutdown := .closingSocket} else cancelTask c y)
  | .socketClosed => when (decide (x.shutdown = .closingSocket)) (cancelTask c x)
  | .taskEnded => when (decide (x.shutdown = .awaitingTask) && decide (x.phase = .absent)) (closeSession c x)
  | .sessionClosed => when (decide (x.shutdown = .closingSession)) (finishStop c x)
  | .withdrawn => when (decide (x.shutdown = .withdrawing)) {x with shutdown := .none,stopped := true}

structure Coherent (x : ReaderLoop) : Prop where
  up : x.reportedConnected = true → x.phase.up = true ∨
    (x.shutdown = .awaitingTask ∧ x.cancelling = false ∧ (x.phase = .leaving .cancelled ∨ x.phase = .absent)) ∨
    x.shutdown = .closingSession
  down : x.phase.up = true → x.reportedConnected = true
  asked : x.cancelling = true → x.shutdown = .awaitingTask ∧ x.phase ≠ .absent
  shutting : x.shutdown ≠ .none → x.closing = true
  settled : x.shutdown = .closingSession ∨ x.shutdown = .withdrawing → x.phase = .absent
  drained : x.closing = true → x.shutdown = .none → x.phase = .absent
  ended : x.stopped = true → x.phase = .absent ∧ x.reportedConnected = false
  final : x.createdAt.isSome → x.phase = .absent → x.shutdown = .none → x.stopped = true ∧ (x.closing = true ∨ x.rejected = true)
  refusal : x.rejected = true → x.phase = .refused ∨ x.phase = .absent
  refused : x.phase = .refused → x.rejected = true
  untold : x.phase ≠ .refusing
  broken : x.phase = .withdrawing .cancelled ∨ x.phase = .leaving .cancelled → x.shutdown = .awaitingTask
  living : x.phase ≠ .absent → x.createdAt.isSome

section Invariant
variable {c : LoopConfig} {x : ReaderLoop}

theorem fresh_coherent (now : ℚ) : Coherent (.fresh now) := by
  constructor <;> simp [ReaderLoop.fresh]

theorem next_pass_coherent (coherent : Coherent x) (waiting : x.phase = .created ∨ ∃ wake, x.phase = .sleeping wake)
    (free : x.cancelling = false) : Coherent (nextPass x) := by
  obtain ⟨up,down,asked,shutting,settled,drained,ended,final,refusal,refused,untold,broken,living⟩ := coherent
  unfold nextPass
  split
  all_goals constructor
  all_goals grind [ReaderLoop.goto,LoopPhase.up]

theorem end_pass_coherent (coherent : Coherent x) (connected : x.phase = .connecting ∨ ∃ ending, x.phase = .leaving ending)
    (free : x.cancelling = false) (clean : Bool) (draw : ℚ) :
    Coherent (endPass clean draw x) := by
  obtain ⟨up,down,asked,shutting,settled,drained,ended,final,refusal,refused,untold,broken,living⟩ := coherent
  simp only [endPass]
  cases closing : x.closing
  all_goals constructor
  all_goals grind [LoopPhase.up]

theorem tell_auth_failed_coherent (coherent : Coherent x) (connecting : x.phase = .connecting)
    (free : x.cancelling = false) : Coherent (tellAuthFailed c {x with rejected := true}) := by
  obtain ⟨up,down,asked,shutting,settled,drained,ended,final,refusal,refused,untold,broken,living⟩ := coherent
  unfold tellAuthFailed
  split
  all_goals constructor
  all_goals simp_all

theorem reject_untold (down : x.reportedConnected = false) : reject c x = tellAuthFailed c {x with rejected := true} := by
  simp [reject,reportConnectionState,down]

theorem connecting_down (coherent : Coherent x) (connecting : x.phase = .connecting) : x.reportedConnected = false := by
  by_contra reported
  have up := coherent.up (by simpa using reported)
  have settled := coherent.settled
  simp_all

theorem fail_upgrade_coherent (coherent : Coherent x) (connecting : x.phase = .connecting) (free : x.cancelling = false)
    (failure : UpgradeFailure) (draw : ℚ) : Coherent (failUpgrade c failure draw x) := by
  unfold failUpgrade
  split
  · rw [reject_untold (connecting_down coherent connecting)]
    exact tell_auth_failed_coherent coherent connecting free
  · exact end_pass_coherent coherent (.inl connecting) free false draw

theorem end_reading_coherent (coherent : Coherent x) (free : x.cancelling = false)
    (here : x.phase.up = true) (broke : ending = .cancelled → x.shutdown = .awaitingTask) :
    Coherent (endReading c ending x) := by
  obtain ⟨up,down,asked,shutting,settled,drained,ended,final,refusal,refused,untold,broken,living⟩ := coherent
  unfold endReading reportConnectionState
  repeat' split
  all_goals constructor
  all_goals grind [LoopPhase.up,ReaderLoop.goto]

theorem start_reading_coherent (coherent : Coherent x) (free : x.cancelling = false) (announced : x.phase.up = true) :
    Coherent (startReading c x) := by
  unfold startReading
  split
  · exact end_reading_coherent coherent free announced (fun broke => by cases broke)
  · obtain ⟨up,down,asked,shutting,settled,drained,ended,final,refusal,refused,untold,broken,living⟩ := coherent
    constructor
    all_goals grind [ReaderLoop.goto,LoopPhase.up]

theorem start_reading_goto (phase : LoopPhase) : startReading c (x.goto phase) = startReading c x := by
  unfold startReading endReading reportConnectionState ReaderLoop.goto
  rfl

theorem announcing_coherent (coherent : Coherent x) (subscribing : x.phase = .subscribing) (told : List Bool) :
    Coherent {x with phase := .announcing,reportedConnected := true,told} := by
  obtain ⟨up,down,asked,shutting,settled,drained,ended,final,refusal,refused,untold,broken,living⟩ := coherent
  constructor
  all_goals grind [LoopPhase.up]

theorem announce_coherent (coherent : Coherent x) (free : x.cancelling = false) (subscribing : x.phase = .subscribing) :
    Coherent (announce c x) := by
  unfold announce reportConnectionState
  split
  · rename_i up
    have reported := coherent.up up.symm
    have settled := coherent.settled
    simp_all
  · split
    · exact announcing_coherent coherent subscribing _
    · rw [← start_reading_goto .announcing]
      exact start_reading_coherent (announcing_coherent coherent subscribing _) free rfl

theorem finish_stop_coherent (coherent : Coherent x) (gone : x.phase = .absent) (stopping : x.closing = true)
    (free : x.cancelling = false) : Coherent (finishStop c x) := by
  obtain ⟨up,down,asked,shutting,settled,drained,ended,final,refusal,refused,untold,broken,living⟩ := coherent
  unfold finishStop reportConnectionState
  repeat' split
  all_goals constructor
  all_goals grind [LoopPhase.up]

theorem close_session_coherent (coherent : Coherent x) (gone : x.phase = .absent) (stopping : x.closing = true)
    (free : x.cancelling = false) : Coherent (closeSession c x) := by
  unfold closeSession
  split
  · obtain ⟨up,down,asked,shutting,settled,drained,ended,final,refusal,refused,untold,broken,living⟩ := coherent
    constructor
    all_goals grind [LoopPhase.up]
  · exact finish_stop_coherent coherent gone stopping free

theorem cancel_task_coherent (coherent : Coherent x) (before : x.shutdown = .none ∨ x.shutdown = .closingSocket) :
    Coherent (cancelTask c {x with closing := true}) := by
  have free : x.cancelling = false := by
    by_contra asked
    have waiting := (coherent.asked (by simpa using asked)).1
    rcases before with before | before <;> simp [before] at waiting
  obtain ⟨up,down,asked,shutting,settled,drained,ended,final,refusal,refused,untold,broken,living⟩ := coherent
  unfold cancelTask
  split
  · rename_i gone
    refine close_session_coherent ?_ gone rfl free
    constructor
    all_goals grind [LoopPhase.up]
  · constructor
    all_goals grind

theorem uncancelled_coherent (coherent : Coherent x) (asked : x.cancelling = true) :
    Coherent {x with cancelling := false} := by
  obtain ⟨up,down,asked',shutting,settled,drained,ended,final,refusal,refused,untold,broken,living⟩ := coherent
  constructor
  all_goals grind

theorem cancelled_coherent (coherent : Coherent x) (asked : x.cancelling = true) :
    Coherent (cancelledAt c {x with cancelling := false}) := by
  have free := uncancelled_coherent coherent asked
  have waiting := (coherent.asked asked).1
  unfold cancelledAt
  split
  case h_3 reading => exact end_reading_coherent free rfl (by rw [reading]; rfl) fun _ => waiting
  case h_4 disowned => exact end_reading_coherent free rfl (by rw [disowned]; rfl) fun _ => waiting
  all_goals
    rename_i here
    obtain ⟨up,down,asked',shutting,settled,drained,ended,final,refusal,refused,untold,broken,living⟩ := free
    constructor
    all_goals grind [ReaderLoop.goto,LoopPhase.up]

theorem handled_coherent (coherent : Coherent x) (free : x.cancelling = false) (back : handledAt c x = some y) :
    Coherent y := by
  unfold handledAt at back
  split at back
  · rename_i announced
    cases back
    exact start_reading_coherent coherent free (by rw [announced]; rfl)
  · rename_i disowned
    cases back
    exact start_reading_coherent coherent free (by rw [disowned]; rfl)
  · rename_i here
    obtain ⟨up,down,asked,shutting,settled,drained,ended,final,refusal,refused,untold,broken,living⟩ := coherent
    cases back
    constructor
    all_goals grind [ReaderLoop.goto,LoopPhase.up]
  · rename_i here
    exact (coherent.untold here).elim
  · rename_i here
    obtain ⟨up,down,asked,shutting,settled,drained,ended,final,refusal,refused,untold,broken,living⟩ := coherent
    cases back
    constructor
    all_goals grind [LoopPhase.up]
  · cases back

theorem left_coherent (coherent : Coherent x) (free : x.cancelling = false) (gone : leftAt closed draw x = some y) :
    Coherent y := by
  unfold leftAt at gone
  split at gone
  · rename_i ending here
    cases gone
    split
    · rename_i broken
      have here' : x.phase = .leaving .cancelled := by
        cases closed <;> simp_all
      obtain ⟨up,down,asked,shutting,settled,drained,ended,final,refusal,refused,untold,broken,living⟩ := coherent
      constructor
      all_goals simp_all [ReaderLoop.goto]
    · exact end_pass_coherent coherent (.inr ⟨ending,here⟩) free true draw
    · exact end_pass_coherent coherent (.inr ⟨ending,here⟩) free false draw
  · cases gone

theorem when_some {enabled : Bool} (taken : when enabled x = some y) : enabled = true ∧ y = x := by
  unfold when at taken
  split at taken
  · rename_i on
    exact ⟨on,(Option.some.inj taken).symm⟩
  · cases taken

theorem start_coherent (coherent : Coherent x) (stepped : loopStep c x .start = some y) : Coherent y := by
  simp only [loopStep] at stepped
  repeat' split at stepped
  · cases stepped
  · cases stepped
    exact coherent
  · rename_i quiet gone
    obtain ⟨up,down,asked,shutting,settled,drained,ended,final,refusal,refused,untold,broken,living⟩ := coherent
    cases stepped
    constructor
    all_goals grind [LoopPhase.up]

theorem opened_coherent (coherent : Coherent x) (stepped : loopStep c x .opened = some y) : Coherent y := by
  obtain ⟨enabled,rfl⟩ := when_some stepped
  obtain ⟨up,down,asked,shutting,settled,drained,ended,final,refusal,refused,untold,broken,living⟩ := coherent
  constructor
  all_goals grind [ReaderLoop.goto,LoopPhase.up]

theorem subscribed_coherent (coherent : Coherent x) (stepped : loopStep c x (.subscribed sent) = some y) : Coherent y := by
  obtain ⟨enabled,rfl⟩ := when_some stepped
  simp at enabled
  split
  · exact announce_coherent coherent enabled.1 enabled.2
  · obtain ⟨up,down,asked,shutting,settled,drained,ended,final,refusal,refused,untold,broken,living⟩ := coherent
    constructor
    all_goals grind [ReaderLoop.goto,LoopPhase.up]

theorem reauth_failed_coherent (coherent : Coherent x) (reading : x.phase = .reading) : Coherent (reauthFailed c x) := by
  unfold reauthFailed
  split
  · obtain ⟨up,down,asked,shutting,settled,drained,ended,final,refusal,refused,untold,broken,living⟩ := coherent
    constructor
    all_goals grind [LoopPhase.up]
  · exact coherent

theorem stop_coherent (coherent : Coherent x) (stepped : loopStep c x (.stop socketClosed) = some y) : Coherent y := by
  simp only [loopStep] at stepped
  repeat' split at stepped
  · cases stepped
  · rename_i quiet attached
    cases stepped
    obtain ⟨up,down,asked,shutting,settled,drained,ended,final,refusal,refused,untold,broken,living⟩ := coherent
    constructor
    all_goals grind [LoopPhase.attached]
  · rename_i quiet _
    cases stepped
    exact cancel_task_coherent coherent (.inl (by simpa using quiet))

theorem socket_closed_coherent (coherent : Coherent x) (closing : x.shutdown = .closingSocket) : Coherent (cancelTask c x) := by
  have told := coherent.shutting (by simp [closing])
  have same : {x with closing := true} = x := by rw [← told]
  rw [← same]
  exact cancel_task_coherent coherent (.inr closing)

theorem gone_free (coherent : Coherent x) (gone : x.phase = .absent) : x.cancelling = false := by
  by_contra asked
  exact (coherent.asked (by simpa using asked)).2 gone

theorem withdrawn_coherent (coherent : Coherent x) (withdrawing : x.shutdown = .withdrawing) :
    Coherent {x with shutdown := .none,stopped := true} := by
  obtain ⟨up,down,asked,shutting,settled,drained,ended,final,refusal,refused,untold,broken,living⟩ := coherent
  constructor
  all_goals grind [LoopPhase.up]

theorem step_coherent (coherent : Coherent x) (stepped : loopStep c x a = some y) : Coherent y := by
  cases a with
  | elapse seconds =>
    obtain ⟨_,rfl⟩ := when_some stepped
    exact ⟨coherent.up,coherent.down,coherent.asked,coherent.shutting,coherent.settled,coherent.drained,coherent.ended,
      coherent.final,coherent.refusal,coherent.refused,coherent.untold,coherent.broken,coherent.living⟩
  | start => exact start_coherent coherent stepped
  | begun =>
    obtain ⟨enabled,rfl⟩ := when_some stepped
    simp at enabled
    exact next_pass_coherent coherent (.inl enabled.2) enabled.1
  | upgradeFailed draw | upgradeRefused e draw =>
    obtain ⟨enabled,rfl⟩ := when_some stepped
    simp at enabled
    exact fail_upgrade_coherent coherent enabled.1.2 enabled.1.1 _ _
  | opened => exact opened_coherent coherent stepped
  | subscribed sent => exact subscribed_coherent coherent stepped
  | handled =>
    simp only [loopStep] at stepped
    split at stepped
    · cases stepped
    · rename_i free
      exact handled_coherent coherent (by simpa using free) stepped
  | reauthFailed =>
    obtain ⟨enabled,rfl⟩ := when_some stepped
    simp at enabled
    exact reauth_failed_coherent coherent enabled.2
  | readEnded clean =>
    obtain ⟨enabled,rfl⟩ := when_some stepped
    simp at enabled
    refine end_reading_coherent coherent enabled.1 (by rw [enabled.2]; rfl) fun broke => ?_
    cases clean <;> cases broke
  | left closed draw =>
    simp only [loopStep] at stepped
    split at stepped
    · cases stepped
    · rename_i free
      exact left_coherent coherent (by simp at free; exact free.1) stepped
  | woke =>
    simp only [loopStep] at stepped
    split at stepped
    · rename_i wake sleeping
      obtain ⟨enabled,rfl⟩ := when_some stepped
      simp at enabled
      exact next_pass_coherent coherent (.inr ⟨wake,sleeping⟩) enabled.1
    · cases stepped
  | cancelled =>
    obtain ⟨asked,rfl⟩ := when_some stepped
    exact cancelled_coherent coherent asked
  | caught =>
    obtain ⟨enabled,rfl⟩ := when_some stepped
    simp at enabled
    exact uncancelled_coherent coherent enabled.1
  | stop socketClosed => exact stop_coherent coherent stepped
  | socketClosed =>
    obtain ⟨enabled,rfl⟩ := when_some stepped
    exact socket_closed_coherent coherent (by simpa using enabled)
  | taskEnded =>
    obtain ⟨enabled,rfl⟩ := when_some stepped
    simp at enabled
    exact close_session_coherent coherent enabled.2 (coherent.shutting (by simp [enabled.1])) (gone_free coherent enabled.2)
  | sessionClosed =>
    obtain ⟨enabled,rfl⟩ := when_some stepped
    simp at enabled
    have gone := coherent.settled (.inl enabled)
    exact finish_stop_coherent coherent gone (coherent.shutting (by simp [enabled])) (gone_free coherent gone)
  | withdrawn =>
    obtain ⟨enabled,rfl⟩ := when_some stepped
    exact withdrawn_coherent coherent (by simpa using enabled)

-- up, down, up, down, ...
def alternating (n : Nat) : List Bool := (List.range n).map fun k => decide (k % 2 = 0)

theorem alternating_succ (n : Nat) : alternating (n + 1) = alternating n ++ [decide (n % 2 = 0)] := by
  simp [alternating,List.range_succ]

theorem alternating_last (n : Nat) : (alternating n).getLast? = some true ↔ n % 2 = 1 := by
  cases n with
  | zero => simp [alternating]
  | succ n =>
    rw [alternating_succ,List.getLast?_concat]
    simp
    omega

def Told (c : LoopConfig) (x : ReaderLoop) : Prop :=
  if c.onConnectionState then x.told = alternating x.told.length ∧ x.reportedConnected = decide (x.told.length % 2 = 1)
  else x.told = []

theorem told_congr {x y : ReaderLoop} (told : Told c x) (same : y.told = x.told ∧ y.reportedConnected = x.reportedConnected) :
    Told c y := by
  unfold Told at told ⊢
  rw [same.1,same.2]
  exact told

theorem report_told {connected : Bool} {waiting next : ReaderLoop → ReaderLoop} (told : Told c x)
    (later : ∀ y, Told c y → Told c (waiting y)) (after : ∀ y, Told c y → Told c (next y)) :
    Told c (reportConnectionState c connected waiting next x) := by
  unfold reportConnectionState
  split
  · exact after x told
  · rename_i changed
    unfold Told at told
    split
    · rename_i handler
      rw [if_pos handler] at told
      apply later
      unfold Told
      rw [if_pos handler]
      have length : connected = decide (x.told.length % 2 = 0) := by
        rw [told.2] at changed
        cases connected <;> simp at changed ⊢ <;> omega
      refine ⟨?_,?_⟩
      · rw [List.length_append,List.length_singleton,alternating_succ,← told.1,length]
      · simp only [List.length_append,List.length_singleton,length]
        exact decide_eq_decide.mpr (by omega)
    · rename_i none
      rw [if_neg none] at told
      apply after
      unfold Told
      rw [if_neg none]
      exact told

theorem end_reading_told (told : Told c x) : Told c (endReading c ending x) :=
  report_told told (fun _ held => told_congr held ⟨rfl,rfl⟩) fun _ held => told_congr held ⟨rfl,rfl⟩

theorem start_reading_told (told : Told c x) : Told c (startReading c x) := by
  unfold startReading
  split
  · exact end_reading_told told
  · exact told_congr told ⟨rfl,rfl⟩

theorem announce_told (told : Told c x) : Told c (announce c x) :=
  report_told told (fun _ held => told_congr held ⟨rfl,rfl⟩) fun _ held => start_reading_told held

theorem finish_stop_told (told : Told c x) : Told c (finishStop c x) :=
  report_told (told_congr told ⟨rfl,rfl⟩) (fun _ held => told_congr held ⟨rfl,rfl⟩) fun _ held => told_congr held ⟨rfl,rfl⟩

theorem next_pass_same (x : ReaderLoop) :
    (nextPass x).told = x.told ∧ (nextPass x).reportedConnected = x.reportedConnected := by
  unfold nextPass
  split <;> exact ⟨rfl,rfl⟩

theorem end_pass_same (clean : Bool) (draw : ℚ) (x : ReaderLoop) :
    (endPass clean draw x).told = x.told ∧ (endPass clean draw x).reportedConnected = x.reportedConnected := by
  simp only [endPass]
  cases x.closing <;> exact ⟨rfl,rfl⟩

theorem reauth_failed_same (x : ReaderLoop) :
    (reauthFailed c x).told = x.told ∧ (reauthFailed c x).reportedConnected = x.reportedConnected := by
  unfold reauthFailed
  split <;> exact ⟨rfl,rfl⟩

theorem tell_auth_failed_told (told : Told c x) : Told c (tellAuthFailed c x) := by
  unfold tellAuthFailed
  split <;> exact told_congr told ⟨rfl,rfl⟩

theorem fail_upgrade_told (told : Told c x) (failure : UpgradeFailure) (draw : ℚ) : Told c (failUpgrade c failure draw x) := by
  unfold failUpgrade
  split
  · exact report_told (told_congr told ⟨rfl,rfl⟩) (fun _ held => told_congr held ⟨rfl,rfl⟩) fun _ held => tell_auth_failed_told held
  · exact told_congr told (end_pass_same _ _ _)

theorem close_session_told (told : Told c x) : Told c (closeSession c x) := by
  unfold closeSession
  split
  · exact told_congr told ⟨rfl,rfl⟩
  · exact finish_stop_told told

theorem cancel_task_told (told : Told c x) : Told c (cancelTask c x) := by
  unfold cancelTask
  split
  · exact close_session_told told
  · exact told_congr told ⟨rfl,rfl⟩

theorem cancelled_told (told : Told c x) : Told c (cancelledAt c x) := by
  unfold cancelledAt
  split
  case h_3 | h_4 => exact end_reading_told told
  all_goals exact told_congr told ⟨rfl,rfl⟩

theorem handled_told (told : Told c x) (back : handledAt c x = some y) : Told c y := by
  unfold handledAt at back
  split at back
  · cases back; exact start_reading_told told
  · cases back; exact start_reading_told told
  · cases back; exact told_congr told ⟨rfl,rfl⟩
  · cases back; exact tell_auth_failed_told told
  · cases back; exact told_congr told ⟨rfl,rfl⟩
  · cases back

theorem left_told (told : Told c x) (gone : leftAt closed draw x = some y) : Told c y := by
  unfold leftAt at gone
  split at gone
  · cases gone
    split
    · exact told_congr told ⟨rfl,rfl⟩
    · exact told_congr told (end_pass_same _ _ _)
    · exact told_congr told (end_pass_same _ _ _)
  · cases gone

theorem step_told (told : Told c x) (stepped : loopStep c x a = some y) : Told c y := by
  cases a with
  | elapse seconds => obtain ⟨_,rfl⟩ := when_some stepped; exact told_congr told ⟨rfl,rfl⟩
  | start =>
    simp only [loopStep] at stepped
    repeat' split at stepped
    all_goals cases stepped
    all_goals exact told_congr told ⟨rfl,rfl⟩
  | begun => obtain ⟨_,rfl⟩ := when_some stepped; exact told_congr told (next_pass_same x)
  | upgradeFailed draw => obtain ⟨_,rfl⟩ := when_some stepped; exact fail_upgrade_told told _ _
  | upgradeRefused e draw => obtain ⟨_,rfl⟩ := when_some stepped; exact fail_upgrade_told told _ _
  | opened => obtain ⟨_,rfl⟩ := when_some stepped; exact told_congr told ⟨rfl,rfl⟩
  | subscribed sent =>
    obtain ⟨_,rfl⟩ := when_some stepped
    split
    · exact announce_told told
    · exact told_congr told ⟨rfl,rfl⟩
  | handled =>
    simp only [loopStep] at stepped
    split at stepped
    · cases stepped
    · exact handled_told told stepped
  | reauthFailed => obtain ⟨_,rfl⟩ := when_some stepped; exact told_congr told (reauth_failed_same x)
  | readEnded clean => obtain ⟨_,rfl⟩ := when_some stepped; exact end_reading_told told
  | left closed draw =>
    simp only [loopStep] at stepped
    split at stepped
    · cases stepped
    · exact left_told told stepped
  | woke =>
    simp only [loopStep] at stepped
    split at stepped
    · obtain ⟨_,rfl⟩ := when_some stepped; exact told_congr told (next_pass_same x)
    · cases stepped
  | cancelled => obtain ⟨_,rfl⟩ := when_some stepped; exact cancelled_told (told_congr told ⟨rfl,rfl⟩)
  | caught => obtain ⟨_,rfl⟩ := when_some stepped; exact told_congr told ⟨rfl,rfl⟩
  | stop socketClosed =>
    simp only [loopStep] at stepped
    repeat' split at stepped
    · cases stepped
    · cases stepped; exact told_congr told ⟨rfl,rfl⟩
    · cases stepped; exact cancel_task_told (told_congr told ⟨rfl,rfl⟩)
  | socketClosed => obtain ⟨_,rfl⟩ := when_some stepped; exact cancel_task_told told
  | taskEnded => obtain ⟨_,rfl⟩ := when_some stepped; exact close_session_told told
  | sessionClosed => obtain ⟨_,rfl⟩ := when_some stepped; exact finish_stop_told told
  | withdrawn => obtain ⟨_,rfl⟩ := when_some stepped; exact told_congr told ⟨rfl,rfl⟩

theorem told_last (told : Told c x) (up : x.told.getLast? = some true) : x.reportedConnected = true := by
  unfold Told at told
  split at told
  · rw [told.1,alternating_last] at up
    rw [told.2]
    exact decide_eq_true up
  · simp [told] at up

theorem last_told (told : Told c x) (handler : c.onConnectionState = true) (up : x.reportedConnected = true) :
    x.told.getLast? = some true := by
  unfold Told at told
  rw [if_pos handler] at told
  rw [told.1,alternating_last]
  rw [told.2] at up
  exact of_decide_eq_true up

end Invariant

structure Reports (c : LoopConfig) (x : ReaderLoop) : Prop where
  alternate : x.told = if c.onConnectionState then alternating x.told.length else []
  onlyUp : x.told.getLast? = some true → x.phase.up = true ∨ x.closing = true
  known : c.onConnectionState = true → x.phase.up = true → x.told.getLast? = some true
  closed : x.stopped = true → x.told.getLast? ≠ some true

theorem reports_of_coherent (coherent : Coherent x) (told : Told c x) : Reports c x where
  alternate := by
    unfold Told at told
    split at told
    · rename_i handler
      rw [if_pos handler]
      exact told.1
    · rename_i none
      rw [if_neg none,told]
  onlyUp := by
    intro up
    rcases coherent.up (told_last told up) with announced | broken | closing
    · exact .inl announced
    · exact .inr (coherent.shutting (by simp [broken.1]))
    · exact .inr (coherent.shutting (by simp [closing]))
  known handler here := last_told told handler (coherent.down here)
  closed := by
    intro stopped up
    have down := (coherent.ended stopped).2
    rw [told_last told up] at down
    cases down

theorem connection_reports (c : LoopConfig) (now : ℚ) (actions : List LoopAction) :
    Always (loopStep c) (Reports c) (.fresh now) actions := by
  have start : Coherent (.fresh now) ∧ Told c (.fresh now) := by
    refine ⟨fresh_coherent now,?_⟩
    unfold Told
    split <;> simp [ReaderLoop.fresh,alternating]
  have kept := fun s a t (held : Coherent s ∧ Told c s) (stepped : loopStep c s a = some t) =>
    And.intro (step_coherent held.1 stepped) (step_told held.2 stepped)
  exact always_mono (fun s held => reports_of_coherent held.1 held.2) (always_of_invariant start kept)

end LoomClient.Transport
