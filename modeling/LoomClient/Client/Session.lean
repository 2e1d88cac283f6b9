import LoomClient.Client.Walks

namespace LoomClient.Client
open Lib Wire Store Compat
variable {V : Type}

-- The walks of the bootstrap are started by `start()` and by the recovery from lost events.
inductive Entry where
  | start
  | rebootstrap (hook : Bool)
  | refreshDevice (address : Address)
  | refreshDataPoint (key : DataPointKey)
  | refreshCalculatedDataPoint (key : DataPointKey)
  | refreshCustomDataPoint (key : CustomKey)
  | refreshProgram (id : String)
  deriving DecidableEq, Repr

def Entry.body : Entry → Coroutine V
  | .start => Client.start
  | .rebootstrap hook => runRebootstrap hook
  | .refreshDevice address => Client.refreshDevice address
  | .refreshDataPoint key => Client.refreshDataPoint key
  | .refreshCalculatedDataPoint key => Client.refreshCalculatedDataPoint key
  | .refreshCustomDataPoint key => Client.refreshCustomDataPoint key
  | .refreshProgram id => Client.refreshProgram id

-- A suspended task. A reconcile holds one of the reconcile slots while it runs.
structure Task (V : Type) where
  reconciles : Bool
  rest : Coroutine V

-- `dispatching` is the read that the metadata handler awaits inside the dispatch loop: no push is
-- delivered until it has ended.
structure Session (V : Type) where
  adapter : Adapter V
  tasks : List (Task V)
  waiting : List Address
  dispatching : Option (Coroutine V)

def Session.initial (maxDevices : Nat) (centralName serialSuffix : String) : Session V :=
  ⟨.initial maxDevices centralName serialSuffix,[],[],none⟩

def maxConcurrentReconciles : Nat := 4
def upperCase (token : String) : String := String.ofList (token.toList.map Char.toUpper)
def isCacheRestore (source : Option String) : Bool := source.any fun s => upperCase s = "CACHE"

def storeHoldsCompleteDevice (s : LoomStore V) (address : Address) : Bool :=
  decide (address ∈ s.devices) &&
    (channelsOf s address).any fun c => !(dataPointsOf s address c.number).isEmpty

inductive Action (V : Type) where
  | push (push : Push V)
  | call (operation : Operation V)
  | begin (entry : Entry)
  | beginReconcile
  | resume (task : Nat) (answers : Answers V)
  | resumeDispatch (answers : Answers V)
  | register (oid : Model.Oid)
  | unregister (oid : Model.Oid)

section Machine
variable (upstream : Upstream)

def proceed (x : Session V) (walk : Coroutine V) : List (Effect V) × Coroutine V :=
  walk.settle (applyEffect upstream) x.adapter

def enact (x : Session V) (effects : List (Effect V)) : Session V :=
  {x with adapter := effects.foldl (applyEffect upstream) x.adapter}

def keep (reconciles : Bool) (rest : Coroutine V) : List (Task V) :=
  if rest.isDone then [] else [⟨reconciles,rest⟩]

-- The handlers that follow the store's own one on a push.
def reconcileUnlessHeld (x : Session V) (address : Address) : Session V :=
  if storeHoldsCompleteDevice x.adapter.store address then x else {x with waiting := x.waiting ++ [address]}

def dispatch (x : Session V) : Push V → Session V
  | .deviceCreated payload =>
    if isCacheRestore payload.source then x else reconcileUnlessHeld x payload.deviceAddress
  | .deviceReleased payload => reconcileUnlessHeld x payload.deviceAddress
  | .metadataChanged payload => {x with dispatching := some (refreshDevice payload.deviceAddress)}
  | _ => x

def spawn (x : Session V) (reconciles : Bool) (walk : Coroutine V) : List (Effect V) × Session V :=
  let (effects,rest) := proceed upstream x walk
  let y := enact upstream x effects
  (effects,{y with tasks := y.tasks ++ keep reconciles rest})

def advance (x : Session V) : Action V → Option (List (Effect V) × Session V)
  | .push push =>
    if x.dispatching.isSome then none
    else
      let effects := [.store (.push push)]
      some (effects,dispatch (enact upstream x effects) push)
  | .call operation => some ([.store operation],enact upstream x [.store operation])
  | .begin entry => some (spawn upstream x false entry.body)
  | .beginReconcile =>
    match x.waiting with
    | [] => none
    | address :: waiting =>
      if (x.tasks.filter (·.reconciles)).length < maxConcurrentReconciles then
        some (spawn upstream {x with waiting} true (reconcileNewDevice address))
      else none
  | .resume task answers =>
    match x.tasks[task]? with
    | none => none
    | some suspended =>
      let (effects,rest) := proceed upstream x (suspended.rest.reply answers)
      let y := enact upstream x effects
      some (effects,{y with tasks := y.tasks.take task ++ keep suspended.reconciles rest ++ y.tasks.drop (task + 1)})
  | .resumeDispatch answers =>
    match x.dispatching with
    | none => none
    | some suspended =>
      let (effects,rest) := proceed upstream x (suspended.reply answers)
      let y := enact upstream x effects
      some (effects,{y with dispatching := if rest.isDone then none else some rest})
  | .register oid => some ([.register oid],enact upstream x [.register oid])
  | .unregister oid => some ([.unregister oid],enact upstream x [.unregister oid])

abbrev sessionStep : Session V → Action V → Option (Session V) := silent (advance upstream)

-- The states between two effects are those in which a synchronous handler can look at the store.
abbrev effects (x : Session V) (actions : List (Action V)) : List (Effect V) := trace (advance upstream) x actions

-- The adapter as a machine of its own, which refuses no effect.
abbrev adapterStep : Adapter V → Effect V → Option (Adapter V) := total (applyEffect upstream)

theorem dispatch_adapter (x : Session V) (push : Push V) : (dispatch x push).adapter = x.adapter := by
  cases push with
  | deviceCreated payload =>
    simp only [dispatch,reconcileUnlessHeld]
    split
    · rfl
    · split <;> rfl
  | deviceReleased payload =>
    simp only [dispatch,reconcileUnlessHeld]
    split <;> rfl
  | _ => rfl

theorem advance_adapter (x : Session V) (action : Action V) (report : List (Effect V)) (y : Session V)
    (moved : advance upstream x action = some (report,y)) :
    y.adapter = report.foldl (applyEffect upstream) x.adapter := by
  cases action with
  | push push =>
    simp only [advance] at moved
    split at moved
    · cases moved
    · cases moved
      exact dispatch_adapter _ push
  | call => cases moved; rfl
  | «begin» => cases moved; rfl
  | beginReconcile =>
    simp only [advance] at moved
    split at moved
    · cases moved
    · split at moved
      · cases moved; rfl
      · cases moved
  | resume =>
    simp only [advance] at moved
    split at moved
    · cases moved
    · cases moved; rfl
  | resumeDispatch =>
    simp only [advance] at moved
    split at moved
    · cases moved
    · cases moved; rfl
  | register => cases moved; rfl
  | unregister => cases moved; rfl

theorem run_adapter (path : run (sessionStep upstream) x actions = some y) :
    y.adapter = (effects upstream x actions).foldl (applyEffect upstream) x.adapter :=
  run_trace (applyEffect upstream) (·.adapter) (advance_adapter upstream) path

end Machine

def Quiescent (x : Session V) : Prop := x.tasks = [] ∧ x.waiting = [] ∧ x.dispatching = none

end LoomClient.Client
