import LoomClient.Compat.CentralState
import LoomClient.Lib.Teardown
import Mathlib.Data.List.Infix
import Mathlib.Logic.Function.Basic

namespace LoomClient.Compat.Teardown
open Lib
variable {ε : Type}

inductive Place where
  | hubReconcile
  | triggeredMotion
  | featuresRefresh
  | degraded
  | resync
  | dispatch
  | rebootstrap
  | reader
  deriving DecidableEq, Repr

-- `waiter` and `getter` are the waits of `events()` for the end of the stream and for an envelope. `io`
-- is a handshake that a close awaits inline.
inductive Kind where
  | place (k : Place)
  | looper
  | background
  | waiter
  | getter
  | io
  deriving DecidableEq, Repr

def Kind.ofClient : Kind → Bool
  | .place .dispatch | .place .rebootstrap | .place .reader | .background | .waiter | .getter => true
  | _ => false

-- Whose end `stop()` answers for, or the client's `close()` alone.
def Kind.isOwned (full : Bool) (kind : Kind) : Bool := kind.ofClient || full && decide (kind ≠ .io)

inductive Status (ε : Type) where
  | running (cancelling : Bool)
  | ended (how : Ended ε)
  deriving DecidableEq, Repr

structure OwnedTask (ε : Type) where
  kind : Kind
  status : Status ε
  deriving DecidableEq, Repr

-- Before its first turn (or done), in the wait for its two tasks, with an envelope in `publish`, in the
-- wait for the getter or for the waiter it has cancelled. A loop that leaves ends cancelled if that is
-- what took it out.
inductive Pump where
  | idle
  | waiting (waiter getter : Nat)
  | yielded (waiter : Nat)
  | letting (waiter getter : Nat)
  | leaving (waiter : Nat) (thrown : Bool)
  deriving DecidableEq, Repr

def Pump.tasks : Pump → List Nat
  | .idle => []
  | .waiting waiter getter | .letting waiter getter => [waiter,getter]
  | .yielded waiter | .leaving waiter _ => [waiter]

-- `drain` is cancel, await and clear; `drainResync` takes the task out of its place first.
inductive Item where
  | drain (k : Place)
  | leaveBus
  | cancelLooper
  | releaseDegraded
  | unhook
  | drainResync
  | setClosing
  | drainBackground
  | closeSocket
  | closeStream
  | signalStopped
  | leaveWire
  | closeHttp
  | setStopped
  deriving DecidableEq, Repr

def closeItems : List Item :=
  [.setClosing,.drain .dispatch,.drainBackground,.closeSocket,.drain .reader,.closeStream,.signalStopped,.leaveWire,
    .closeHttp]

def stopItems : List Item :=
  [.drain .hubReconcile,.drain .triggeredMotion,.drain .featuresRefresh,.leaveBus,.cancelLooper,.releaseDegraded,
    .unhook,.drainResync] ++ closeItems ++ [.setStopped]

def items (full : Bool) : List Item := if full then stopItems else closeItems

-- Every task ever started keeps its number. `pump` is the iterator of each dispatch loop, `stray` what
-- loops have left of theirs, `queued` the envelopes in the queue. Tasks below `epoch` belong to a
-- transport that a close has dropped. `owned`, which no item reads, are the tasks held at the last
-- teardown call and those started during it.
structure Owner (ε : Type) where
  tasks : List (OwnedTask ε)
  place : Place → Option Nat
  looper : List Nat
  background : List Nat
  pump : Nat → Pump
  stray : List Nat
  queued : Nat
  epoch : Nat
  refreshGroup : Bool
  wireGroup : Bool
  hook : Bool
  closing : Bool
  connected : Bool
  ownsStream : Bool
  streamSession : Bool
  streamStopped : Bool
  httpSession : Bool
  state : CentralState
  full : Bool
  owned : List Nat
  call : Call Item ε

-- Before `start()`. Only an injected transport has a session of the caller's.
def Owner.initial (ownsStream : Bool) : Owner ε :=
  ⟨[],fun _ => none,[],[],fun _ => .idle,[],0,0,false,false,false,false,false,ownsStream,false,true,false,.initializing,false,[],.idle⟩

-- `task.cancel()`: a task that is done stays as it is.
def OwnedTask.cancel (task : OwnedTask ε) : OwnedTask ε :=
  match task.status with
  | .running _ => {task with status := .running true}
  | .ended _ => task

def cancelTask (tasks : List (OwnedTask ε)) (id : Nat) : List (OwnedTask ε) := tasks.modify id OwnedTask.cancel

namespace Owner

def kind? (x : Owner ε) (id : Nat) : Option Kind := x.tasks[id]?.map OwnedTask.kind

def ended? (x : Owner ε) (id : Nat) : Option (Ended ε) :=
  match x.tasks[id]? with
  | some ⟨_,.ended how⟩ => some how
  | _ => none

def isWaiting (x : Owner ε) : Bool :=
  match x.call with
  | .waiting .. => true
  | _ => false

def liveAt (x : Owner ε) (k : Place) : Bool := (x.place k).any fun id => (x.ended? id).isNone

def socketOpen (x : Owner ε) : Bool := x.connected && x.liveAt .reader

def cancelAll (x : Owner ε) (ids : List Nat) : Owner ε := {x with tasks := ids.foldl cancelTask x.tasks}

def spawn (x : Owner ε) (kind : Kind) : Owner ε :=
  { x with
    tasks := x.tasks ++ [⟨kind,.running false⟩]
    owned := if x.isWaiting && kind.isOwned x.full then x.owned ++ [x.tasks.length] else x.owned }

def setPlace (x : Owner ε) (k : Place) (id : Option Nat) : Owner ε := {x with place := Function.update x.place k id}

def startAt (x : Owner ε) (k : Place) : Owner ε := (x.spawn (.place k)).setPlace k (some x.tasks.length)

end Owner

def drains (x : Owner ε) : Item → List Nat
  | .drain k => (x.place k).toList
  | .drainResync => (x.place .resync).toList
  | .drainBackground => x.background ++ (x.place .rebootstrap).toList
  | _ => []

def handshakes (x : Owner ε) : Item → Bool
  | .closeSocket => x.socketOpen
  | .closeStream => x.streamSession && x.ownsStream
  | .closeHttp => x.httpSession
  | _ => false

def awaits (i : Item) (x : Owner ε) : List Nat := if handshakes x i then [x.tasks.length] else drains x i

def beforeAwait (i : Item) (x : Owner ε) : Owner ε :=
  let y := if handshakes x i then x.spawn .io else x.cancelAll (drains x i)
  match i with
  | .leaveBus => {y with refreshGroup := false}
  | .cancelLooper => y.cancelAll y.looper
  | .releaseDegraded => (y.cancelAll (y.place .degraded).toList).setPlace .degraded none
  | .unhook => {y with hook := false}
  | .drainResync => y.setPlace .resync none
  | .setClosing => {y with closing := true}
  | .signalStopped => {y with streamStopped := true}
  | .leaveWire => {y with wireGroup := false}
  | .setStopped => {y with state := .stopped}
  | _ => y

def afterAwait (i : Item) (x : Owner ε) : Owner ε :=
  match i with
  | .drain k => x.setPlace k none
  | .drainBackground => {x.setPlace .rebootstrap none with background := []}
  | .closeStream => {x with streamSession := x.streamSession && !x.ownsStream}
  | .closeHttp => {x with httpSession := false}
  | _ => x

def teardown : Procedure (Owner ε) Item ε := ⟨beforeAwait,fun i x => awaits i x,afterAwait,Owner.ended?⟩

def settleCall (result : Owner ε × Call Item ε) : Owner ε := {result.1 with call := result.2}

def places (full : Bool) : List Place :=
  if full then [.hubReconcile,.triggeredMotion,.featuresRefresh,.degraded,.resync,.dispatch,.rebootstrap,.reader]
  else [.dispatch,.rebootstrap,.reader]

def held (x : Owner ε) (full : Bool) : List Nat :=
  (places full).filterMap x.place ++ x.background ++ (x.place .dispatch).toList.flatMap (fun id => (x.pump id).tasks) ++
    x.stray ++ if full then x.looper else []

def callTeardown (x : Owner ε) (full : Bool) : Owner ε :=
  settleCall (teardown.perform (items full) {x with full,owned := held x full})

-- An exception of the client's own hierarchy, or any other.
inductive Completion (ε : Type) where
  | returned
  | raised (loom : Bool) (e : ε)
  deriving DecidableEq, Repr

-- None if it goes on. `refresh_triggered_motion` and the incident clearing catch the client's own
-- exceptions alone, the report of a lost connection none.
def body (kind : Kind) (c : Completion ε) : Option (Ended ε) :=
  match kind,c with
  | .place .hubReconcile,_ => none
  | .place .reader,.raised _ _ => none
  | .place .triggeredMotion,.raised loom e | .looper,.raised loom e => some (if loom then .finished else .failed e)
  | .place .degraded,.raised _ e => some (.failed e)
  | _,_ => some .finished

-- The done callbacks take the task out of the two sets, and the report has moved the state.
def endTask (x : Owner ε) (id : Nat) (how : Ended ε) : Owner ε :=
  { x with
    tasks := x.tasks.modify id fun task => {task with status := .ended how}
    looper := x.looper.filter (· ≠ id)
    background := x.background.filter (· ≠ id)
    pump := Function.update x.pump id .idle
    stray := x.stray.filter (· ≠ id)
    state := match x.kind? id,how with
      | some (.place .degraded),.finished => if x.state.terminal then x.state else .degraded
      | _,_ => x.state }

namespace Owner

def uncancelled (x : Owner ε) (id : Nat) : Bool :=
  match x.tasks[id]? with
  | some ⟨_,.running false⟩ => true
  | _ => false

def leaveBehind (x : Owner ε) (id : Nat) : Owner ε :=
  if (x.ended? id).isSome then x else {x with stray := x.stray ++ [id]}

def setPump (x : Owner ε) (id : Nat) (stage : Pump) : Owner ε := {x with pump := Function.update x.pump id stage}

def left (x : Owner ε) (id : Nat) (thrown : Bool) : Owner ε := endTask x id (if thrown then .cancelled else .finished)

-- The waiter is cancelled and awaited.
def leave (x : Owner ε) (id waiter : Nat) (thrown : Bool) : Owner ε :=
  if (x.ended? waiter).isSome then x.left id thrown else (x.cancelAll [waiter]).setPump id (.leaving waiter thrown)

-- The getter is cancelled and awaited, then the waiter, which is done.
def letGo (x : Owner ε) (id waiter getter : Nat) : Owner ε :=
  if (x.ended? getter).isSome then x.left id false
  else (x.cancelAll [getter]).setPump id (.letting waiter getter)

def awaitEnvelope (x : Owner ε) (id waiter : Nat) : Owner ε :=
  (x.spawn .getter).setPump id (.waiting waiter x.tasks.length)

end Owner

-- Behind the waits of the iterator's `finally` and of its getter a cancellation is suppressed.
def pumpTurn (x : Owner ε) (id : Nat) : Option (Owner ε) :=
  match x.pump id with
  | .idle =>
    if x.uncancelled id then
      let y := x.spawn .waiter
      some (if x.streamStopped then y.leave id x.tasks.length false else y.awaitEnvelope id x.tasks.length)
    else none
  | .waiting waiter getter =>
    if x.uncancelled id then
      if (x.ended? waiter).isSome then some (x.letGo id waiter getter)
      else if (x.ended? getter).isSome then some (x.setPump id (.yielded waiter))
      else none
    else none
  | .yielded waiter =>
    if x.uncancelled id then
      some (if x.streamStopped then x.leave id waiter false else x.awaitEnvelope id waiter)
    else none
  | .letting _ getter => if (x.ended? getter).isSome then some (x.left id false) else none
  | .leaving waiter thrown => if (x.ended? waiter).isSome then some (x.left id thrown) else none

-- A getter that the loop waits for is nobody's from then on.
def cancelPump (x : Owner ε) (id : Nat) : Option (Owner ε) :=
  match x.pump id with
  | .idle => some (x.left id true)
  | .waiting waiter getter => some ((x.leaveBehind getter).leave id waiter true)
  | .yielded waiter => some ((x.leaveBehind waiter).left id true)
  | _ => none

-- A waiter wants the end of its stream, a getter an envelope.
def completeTask (x : Owner ε) (id : Nat) (c : Completion ε) : Option (Owner ε) :=
  match x.tasks[id]? with
  | some ⟨.waiter,.running cancelling⟩ =>
    if ¬cancelling ∧ (x.streamStopped ∨ id < x.epoch) then some (endTask x id .finished) else none
  | some ⟨.getter,.running cancelling⟩ =>
    if ¬cancelling ∧ 0 < x.queued ∧ x.epoch ≤ id then some (endTask {x with queued := x.queued - 1} id .finished) else none
  | some ⟨.place .dispatch,.running _⟩ => none
  | some ⟨kind,.running _⟩ => (body kind c).map (endTask x id)
  | _ => none

def deliverTask (x : Owner ε) (id : Nat) : Option (Owner ε) :=
  match x.tasks[id]? with
  | some ⟨.place .dispatch,.running true⟩ => cancelPump x id
  | some ⟨_,.running true⟩ => some (endTask x id .cancelled)
  | _ => none

-- `connect`, `startEvents`, `install` and `startReconcile` are the parts of `start()`; `decline` and
-- `schedule` are calls of the consumer; `refused` is the end of the reader at a rejected credential,
-- `pump` a turn of a dispatch loop and `finalize` the event loop's close of an iterator that nobody
-- holds. `wake` resumes a teardown call.
inductive OwnerAction (ε : Type) where
  | connect
  | startEvents
  | install
  | startReconcile
  | latch
  | featuresChanged
  | connection (connected : Bool)
  | deviceCreated
  | contractRecheck
  | replayLost
  | decline
  | resyncDue
  | resyncDropped
  | schedule
  | socket (isOpen : Bool)
  | frame
  | refused
  | pump (id : Nat)
  | finalize (id : Nat)
  | complete (id : Nat) (c : Completion ε)
  | deliver (id : Nat)
  | stop
  | close
  | wake
  deriving DecidableEq, Repr

def startReader (x : Owner ε) : Owner ε :=
  let y := x.startAt .reader
  {y with
    connected := false
    streamSession := true
    streamStopped := false
    queued := if x.streamSession then x.queued else 0
    epoch := if x.streamSession then x.epoch else x.tasks.length}

def startEvents (x : Owner ε) : Owner ε :=
  if x.liveAt .dispatch then x
  else
    let y := if x.liveAt .reader then x else startReader x
    {y.startAt .dispatch with wireGroup := true}

def startUnlessLive (x : Owner ε) (k : Place) : Owner ε := if x.liveAt k then x else x.startAt k

def onConnectionState (x : Owner ε) (connected : Bool) : Owner ε :=
  if x.state.terminal then x
  else
    let y := if x.liveAt .degraded then (x.cancelAll (x.place .degraded).toList).setPlace .degraded none else x
    if connected then {y with state := .running} else y.startAt .degraded

def spawnBackground (x : Owner ε) : Owner ε := {x.spawn .background with background := x.background ++ [x.tasks.length]}

def ownerStep (x : Owner ε) : OwnerAction ε → Option (Owner ε)
  | .connect => if x.isWaiting then none else some {x with httpSession := true}
  | .startEvents => if x.isWaiting then none else some (startEvents x)
  | .install => if x.isWaiting then none else some {x with refreshGroup := true,hook := true}
  | .startReconcile =>
    if x.isWaiting ∨ (x.place .hubReconcile).isSome then none
    else some {x.startAt .hubReconcile with state := .running}
  | .latch => if x.refreshGroup then some (startUnlessLive x .triggeredMotion) else none
  | .featuresChanged => if x.refreshGroup then some (startUnlessLive x .featuresRefresh) else none
  | .connection connected => if x.refreshGroup then some (onConnectionState x connected) else none
  | .deviceCreated => if x.wireGroup then some (if x.closing then x else spawnBackground x) else none
  | .contractRecheck => some (if x.closing then x else spawnBackground x)
  | .replayLost => some (if x.closing then x else startUnlessLive x .rebootstrap)
  | .decline => some (startUnlessLive x .resync)
  | .resyncDue => if x.liveAt .resync then some (x.setPlace .resync none) else none
  | .resyncDropped => some ((x.cancelAll (x.place .resync).toList).setPlace .resync none)
  | .schedule => some {x.spawn .looper with looper := x.looper ++ [x.tasks.length]}
  | .socket isOpen => if x.liveAt .reader then some {x with connected := isOpen} else none
  | .frame => if x.socketOpen then some {x with queued := x.queued + 1} else none
  | .refused => match x.place .reader with
    | some id => if x.liveAt .reader then some {endTask x id .finished with streamStopped := true} else none
    | none => none
  | .pump id => match x.kind? id with
    | some (.place .dispatch) => if (x.ended? id).isSome then none else pumpTurn x id
    | _ => none
  | .finalize id => if id ∈ x.stray ∧ x.kind? id = some .waiter then some (x.cancelAll [id]) else none
  | .complete id c => completeTask x id c
  | .deliver id => deliverTask x id
  | .stop => if x.isWaiting then none else some (callTeardown x true)
  | .close => if x.isWaiting then none else some (callTeardown x false)
  | .wake => if x.isWaiting then some (settleCall (teardown.resume x x.call)) else none

def Status.Advances : Status ε → Status ε → Prop
  | .ended how,later => later = .ended how
  | .running true,later => later = .running true ∨ ∃ how, later = .ended how
  | .running false,_ => True

def Later (x y : Owner ε) : Prop :=
  ∀ (id : Nat) (task : OwnedTask ε), x.tasks[id]? = some task →
    ∃ later : OwnedTask ε, y.tasks[id]? = some later ∧ later.kind = task.kind ∧ task.status.Advances later.status

structure Onward (x y : Owner ε) : Prop where
  later : Later x y
  ended : ∀ id, y.ended? id = x.ended? id

section Tasks
variable {x y z : Owner ε} {id : Nat} {kind : Kind} {how : Ended ε} {cancelling : Bool}

theorem advances_refl (s : Status ε) : s.Advances s := by
  cases s with
  | running cancelling => cases cancelling <;> simp [Status.Advances]
  | ended how => rfl

theorem advances_trans {r s t : Status ε} (first : r.Advances s) (second : s.Advances t) : r.Advances t := by
  cases r with
  | running cancelling =>
    cases cancelling with
    | false => trivial
    | true =>
      rcases first with rfl | ⟨how,rfl⟩
      · exact second
      · exact .inr ⟨how,second⟩
  | ended how =>
    cases first
    exact second

theorem later_of_tasks (same : y.tasks = x.tasks) : Later x y := by
  intro id task found
  exact ⟨task,by rw [same,found],rfl,advances_refl _⟩

theorem Later.trans (first : Later x y) (second : Later y z) : Later x z := by
  intro id task found
  obtain ⟨middle,there,sameKind,moved⟩ := first id task found
  obtain ⟨last,reached,kept,onward⟩ := second id middle there
  exact ⟨last,reached,kept.trans sameKind,advances_trans moved onward⟩

theorem Later.sameKind (later : Later x y) (found : x.kind? id = some kind) : y.kind? id = some kind := by
  obtain ⟨task,there,rfl⟩ := Option.map_eq_some_iff.mp found
  obtain ⟨next,reached,same,-⟩ := later id task there
  simp [Owner.kind?,reached,same]

theorem ended_iff : x.ended? id = some how ↔ ∃ kind, x.tasks[id]? = some ⟨kind,.ended how⟩ := by
  unfold Owner.ended?
  split
  · rename_i kind found there
    simp [there]
  · rename_i none
    simp only [reduceCtorEq,false_iff,not_exists]
    exact fun kind there => none _ _ there

theorem Later.ended (later : Later x y) (found : x.ended? id = some how) : y.ended? id = some how := by
  obtain ⟨kind,there⟩ := ended_iff.mp found
  obtain ⟨next,reached,-,moved⟩ := later id _ there
  refine ended_iff.mpr ⟨next.kind,?_⟩
  rw [reached,← show next.status = .ended how from moved]

theorem Onward.trans (first : Onward x y) (second : Onward y z) : Onward x z :=
  ⟨first.later.trans second.later,fun id => (second.ended id).trans (first.ended id)⟩

theorem onward_of_tasks (same : y.tasks = x.tasks) : Onward x y :=
  ⟨later_of_tasks same,fun id => by simp only [Owner.ended?,same]⟩

theorem cancel_cancel (task : OwnedTask ε) : task.cancel.cancel = task.cancel := by
  obtain ⟨kind,status⟩ := task
  cases status <;> rfl

theorem cancel_all_get (ids : List Nat) (x : Owner ε) (id : Nat) :
    (x.cancelAll ids).tasks[id]? = x.tasks[id]?.map fun task => if id ∈ ids then task.cancel else task := by
  induction ids generalizing x with
  | nil => simp [Owner.cancelAll]
  | cons head rest ih =>
    have later := ih {x with tasks := cancelTask x.tasks head}
    rw [show x.cancelAll (head :: rest) = Owner.cancelAll {x with tasks := cancelTask x.tasks head} rest from rfl,later]
    simp only [cancelTask,List.getElem?_modify]
    cases x.tasks[id]? with
    | none => rfl
    | some task =>
      by_cases here : head = id
      · by_cases again : id ∈ rest <;> simp [here,again,cancel_cancel]
      · simp [here,Ne.symm here]

theorem cancel_all_onward (ids : List Nat) (x : Owner ε) : Onward x (x.cancelAll ids) := by
  constructor
  · intro id task found
    refine ⟨_,by rw [cancel_all_get,found]; rfl,?_⟩
    obtain ⟨kind,status⟩ := task
    split
    · cases status with
      | running cancelling => cases cancelling <;> simp [OwnedTask.cancel,Status.Advances]
      | ended how => exact ⟨rfl,rfl⟩
    · exact ⟨rfl,advances_refl _⟩
  · intro id
    simp only [Owner.ended?,cancel_all_get]
    cases x.tasks[id]? with
    | none => rfl
    | some task =>
      obtain ⟨kind,status⟩ := task
      cases status <;> by_cases member : id ∈ ids <;> simp [member,OwnedTask.cancel]

theorem cancel_all_cancelled (member : id ∈ ids) (task : OwnedTask ε) (found : (x.cancelAll ids).tasks[id]? = some task) :
    task.status ≠ .running false := by
  rw [cancel_all_get] at found
  obtain ⟨⟨kind,status⟩,-,rfl⟩ := Option.map_eq_some_iff.mp found
  cases status <;> simp [member,OwnedTask.cancel]

theorem spawn_onward (x : Owner ε) (kind : Kind) : Onward x (x.spawn kind) := by
  constructor
  · intro id task found
    have inside : id < x.tasks.length := (List.getElem?_eq_some_iff.mp found).1
    exact ⟨task,by simp [Owner.spawn,List.getElem?_append_left inside,found],rfl,advances_refl _⟩
  · intro id
    simp only [Owner.ended?,Owner.spawn]
    by_cases inside : id < x.tasks.length
    · rw [List.getElem?_append_left inside]
    · rw [List.getElem?_append_right (Nat.le_of_not_lt inside),List.getElem?_eq_none (Nat.le_of_not_lt inside)]
      cases id - x.tasks.length <;> simp

theorem spawn_kind (x : Owner ε) (kind : Kind) : (x.spawn kind).kind? x.tasks.length = some kind := by
  simp [Owner.kind?,Owner.spawn]

theorem end_task_later (found : x.tasks[id]? = some ⟨kind,.running cancelling⟩) (how : Ended ε) :
    Later x (endTask x id how) := by
  intro other task there
  simp only [endTask,List.getElem?_modify,there]
  by_cases here : id = other
  · refine ⟨⟨task.kind,.ended how⟩,by simp [here],rfl,?_⟩
    rw [here,there] at found
    cases found
    cases cancelling <;> simp [Status.Advances]
  · exact ⟨task,by simp [here],rfl,advances_refl _⟩

theorem end_task_ended (found : x.tasks[id]? = some ⟨kind,.running cancelling⟩) (how : Ended ε) (other : Nat) :
    (endTask x id how).ended? other = if other = id then some how else x.ended? other := by
  simp only [Owner.ended?,endTask,List.getElem?_modify]
  by_cases here : other = id
  · simp [here,found]
  · simp [here,Ne.symm here]

end Tasks

section Actions
variable {x y : Owner ε} {id : Nat} {c : Completion ε}

theorem pump_cases (moved : ownerStep x (.pump id) = some y) :
    ∃ cancelling, x.tasks[id]? = some ⟨.place .dispatch,.running cancelling⟩ ∧ pumpTurn x id = some y := by
  simp only [ownerStep] at moved
  split at moved
  · rename_i known
    split at moved
    · cases moved
    · rename_i going
      obtain ⟨⟨kind,status⟩,found,rfl⟩ := Option.map_eq_some_iff.mp known
      cases status with
      | running cancelling => exact ⟨cancelling,found,moved⟩
      | ended how => exact absurd (by rw [ended_iff.mpr ⟨_,found⟩]; rfl) going
  · cases moved

theorem complete_cases (moved : completeTask x id c = some y) :
    (x.tasks[id]? = some ⟨.waiter,.running false⟩ ∧ y = endTask x id .finished) ∨
    (x.tasks[id]? = some ⟨.getter,.running false⟩ ∧ y = endTask {x with queued := x.queued - 1} id .finished) ∨
    ∃ kind cancelling how, x.tasks[id]? = some ⟨kind,.running cancelling⟩ ∧ body kind c = some how ∧ y = endTask x id how := by
  unfold completeTask at moved
  split at moved
  · rename_i found
    simp only [Option.ite_none_right_eq_some,Option.some.injEq,Bool.not_eq_true] at moved
    obtain ⟨⟨rfl,-⟩,rfl⟩ := moved
    exact .inl ⟨found,rfl⟩
  · rename_i found
    simp only [Option.ite_none_right_eq_some,Option.some.injEq,Bool.not_eq_true] at moved
    obtain ⟨⟨rfl,-⟩,rfl⟩ := moved
    exact .inr (.inl ⟨found,rfl⟩)
  · cases moved
  · rename_i kind cancelling _ _ _ found
    obtain ⟨how,ended,rfl⟩ := Option.map_eq_some_iff.mp moved
    exact .inr (.inr ⟨kind,cancelling,how,found,ended,rfl⟩)
  · cases moved

theorem deliver_cases (moved : deliverTask x id = some y) :
    ∃ kind, x.tasks[id]? = some ⟨kind,.running true⟩ ∧
      (kind = .place .dispatch ∧ cancelPump x id = some y ∨ y = endTask x id .cancelled) := by
  unfold deliverTask at moved
  split at moved
  · rename_i found
    exact ⟨_,found,.inl ⟨rfl,moved⟩⟩
  · rename_i kind _ found
    cases moved
    exact ⟨kind,found,.inr rfl⟩
  · cases moved

end Actions

-- What starting, cancelling and ending tasks keep, a turn of a dispatch loop keeps.
structure PumpKeeps (holds : Owner ε → Prop) : Prop where
  spawn : ∀ x kind, kind = .waiter ∨ kind = .getter → holds x → holds (x.spawn kind)
  cancel : ∀ x ids, holds x → holds (x.cancelAll ids)
  flags : ∀ x pump stray queued, holds x → holds {x with pump,stray,queued}
  ends : ∀ x id kind cancelling how, x.tasks[id]? = some ⟨kind,.running cancelling⟩ → (∀ e, how ≠ .failed e) →
    holds x → holds (endTask x id how)

namespace PumpKeeps
variable {holds : Owner ε → Prop} {x y : Owner ε} {id waiter getter : Nat} {kind : Kind} {cancelling thrown : Bool}
  (keeps : PumpKeeps holds)

include keeps

theorem left (found : x.tasks[id]? = some ⟨kind,.running cancelling⟩) (before : holds x) : holds (x.left id thrown) := by
  refine keeps.ends x id kind cancelling _ found (fun e => ?_) before
  split <;> exact nofun

theorem leave (found : x.tasks[id]? = some ⟨kind,.running cancelling⟩) (before : holds x) :
    holds (x.leave id waiter thrown) := by
  unfold Owner.leave
  split
  · exact keeps.left found before
  · exact keeps.flags _ _ _ _ (keeps.cancel x _ before)

theorem leaveBehind (before : holds x) : holds (x.leaveBehind id) := by
  unfold Owner.leaveBehind
  split
  · exact before
  · exact keeps.flags x _ _ _ before

theorem letGo (found : x.tasks[id]? = some ⟨kind,.running cancelling⟩) (before : holds x) :
    holds (x.letGo id waiter getter) := by
  unfold Owner.letGo
  split
  · exact keeps.left found before
  · exact keeps.flags _ _ _ _ (keeps.cancel x _ before)

theorem awaitEnvelope (before : holds x) : holds (x.awaitEnvelope id waiter) :=
  keeps.flags _ _ _ _ (keeps.spawn x .getter (.inr rfl) before)

theorem turn (found : x.tasks[id]? = some ⟨kind,.running cancelling⟩) (before : holds x) (moved : pumpTurn x id = some y) :
    holds y := by
  have begun : holds (x.spawn .waiter) := keeps.spawn x .waiter (.inl rfl) before
  have inside : id < x.tasks.length := (List.getElem?_eq_some_iff.mp found).1
  have still : (x.spawn .waiter).tasks[id]? = some ⟨kind,.running cancelling⟩ := by
    rw [Owner.spawn,List.getElem?_append_left inside,found]
  unfold pumpTurn at moved
  split at moved
  · split at moved <;> cases moved
    split
    · exact keeps.leave still begun
    · exact keeps.awaitEnvelope begun
  · split at moved
    · split at moved
      · cases moved
        exact keeps.letGo found before
      · split at moved <;> cases moved
        exact keeps.flags x _ _ _ before
    · cases moved
  · split at moved <;> cases moved
    split
    · exact keeps.leave found before
    · exact keeps.awaitEnvelope before
  · split at moved <;> cases moved
    exact keeps.left found before
  · split at moved <;> cases moved
    exact keeps.left found before

theorem cancelled (found : x.tasks[id]? = some ⟨kind,.running cancelling⟩) (before : holds x)
    (moved : cancelPump x id = some y) : holds y := by
  have same (other : Nat) : (x.leaveBehind other).tasks[id]? = some ⟨kind,.running cancelling⟩ := by
    unfold Owner.leaveBehind
    split <;> exact found
  unfold cancelPump at moved
  split at moved <;> cases moved
  · exact keeps.left found before
  · exact keeps.leave (same _) (keeps.leaveBehind before)
  · exact keeps.left (same _) (keeps.leaveBehind before)

end PumpKeeps
end LoomClient.Compat.Teardown
