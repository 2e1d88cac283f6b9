import LoomClient.Lib.Transition
import Mathlib.Tactic.Common

namespace LoomClient.Compat
open Lib

inductive CentralState where
  | degraded
  | failed
  | initializing
  | recovering
  | running
  | starting
  | stopped
  deriving DecidableEq, Repr

abbrev StateChange := CentralState × CentralState

-- Asleep for the grace period, or suspended between setting the state and publishing the event.
inductive DegradedTask where
  | sleeping
  | reporting (change : StateChange)
  deriving DecidableEq, Repr

-- `reader` is a report made by the transport's reader, which delivers nothing else meanwhile. No
-- step reads the two histories.
structure Lifecycle where
  state : CentralState
  sensor : Option (Option Bool)
  degradedTask : Option DegradedTask
  reader : Option StateChange
  detached : Bool
  ended : Bool
  changes : List StateChange
  published : List StateChange
  deriving DecidableEq, Repr

-- The handlers are subscribed before `start()` returns.
def Lifecycle.started (sensor : Option (Option Bool)) (degradedTask : Option DegradedTask) (reader : Option StateChange) :
    Lifecycle :=
  ⟨.running,sensor,degradedTask,reader,false,false,[],[]⟩

def CentralState.terminal (s : CentralState) : Bool := s = .stopped || s = .failed

def setState (x : Lifecycle) (state : CentralState) : Lifecycle :=
  {x with state,changes := if state = x.state then x.changes else x.changes ++ [(x.state,state)]}

-- The sensor's ping is awaited before the event is published; without one the
-- event goes out at once.
def applyConnectionState (x : Lifecycle) (connected : Bool) : Lifecycle × Option StateChange :=
  let state := if connected then .running else .degraded
  if state = x.state then (x,none)
  else
    let y := setState x state
    if x.sensor.any (· ≠ some connected) then ({y with sensor := some (some connected)},some (x.state,state))
    else ({y with published := y.published ++ [(x.state,state)]},none)

-- `expire` is the end of the grace period, `announce` the ping of a report returning. A `stop()`
-- cancels the pending task, closes the client and then sets the state.
inductive LifecycleAction where
  | connection (connected : Bool)
  | authFailed
  | expire
  | announceReader
  | announceTask
  | daemonStatus (connected : Bool)
  | detach
  | cancelReader
  | finish
  deriving DecidableEq, Repr

def onConnectionStateChanged (x : Lifecycle) (connected : Bool) : Lifecycle :=
  if x.state.terminal then x
  else
    let y := {x with degradedTask := none}
    if connected then
      let (z,report) := applyConnectionState y true
      {z with reader := report}
    else {y with degradedTask := some .sleeping}

def degradeAfterGrace (x : Lifecycle) : Lifecycle :=
  if x.state.terminal then {x with degradedTask := none}
  else
    let (y,report) := applyConnectionState x false
    {y with degradedTask := report.map .reporting}

def onAuthFailed (x : Lifecycle) : Lifecycle := if x.state.terminal then x else setState x .degraded

def lifecycleStep (x : Lifecycle) : LifecycleAction → Option Lifecycle
  | .connection connected =>
    if x.detached ∨ x.reader.isSome then none else some (onConnectionStateChanged x connected)
  | .authFailed => if x.detached ∨ x.reader.isSome then none else some (onAuthFailed x)
  | .expire => match x.degradedTask with
    | some .sleeping => some (degradeAfterGrace x)
    | _ => none
  | .announceReader => match x.reader with
    | some change => some {x with reader := none,published := x.published ++ [change]}
    | none => none
  | .announceTask => match x.degradedTask with
    | some (.reporting change) => some {x with degradedTask := none,published := x.published ++ [change]}
    | _ => none
  | .daemonStatus connected => some {x with sensor := x.sensor.map fun _ => some connected}
  | .detach => some {x with detached := true,degradedTask := none}
  | .cancelReader => if x.detached then some {x with reader := none} else none
  | .finish => if x.detached ∧ x.reader = none then some {setState x .stopped with ended := true} else none

def DegradedTask.report : Option DegradedTask → List StateChange
  | some (.reporting change) => [change]
  | _ => []

@[simp] theorem report_none : DegradedTask.report none = [] := rfl
@[simp] theorem report_sleeping : DegradedTask.report (some .sleeping) = [] := rfl
@[simp] theorem report_reporting (change : StateChange) : DegradedTask.report (some (.reporting change)) = [change] := rfl

def Lifecycle.reporting (x : Lifecycle) : List StateChange := x.reader.toList ++ DegradedTask.report x.degradedTask

def Chained : CentralState → List StateChange → Prop
  | _, [] => True
  | state, (old,new) :: rest => old = state ∧ Chained new rest

instance Chained.decidable : ∀ (state : CentralState) (events : List StateChange), Decidable (Chained state events)
  | _, [] => isTrue trivial
  | state, (old,new) :: rest => by
    have later : Decidable (Chained new rest) := Chained.decidable new rest
    exact inferInstanceAs (Decidable (old = state ∧ Chained new rest))

-- Every change has its one event, published or still to go out, and the events form a chain.
def Accounted (x : Lifecycle) : Prop := x.changes = x.published ++ x.reporting ∧ Chained .running x.published

instance (x : Lifecycle) : Decidable (Accounted x) := by unfold Accounted; infer_instance

def Quiet (x t : Lifecycle) : Prop := x.ended = true → t.published = x.published ∧ (t.state = x.state ∨ t.state = .stopped)

-- A rejected credential finds the state degraded or terminal already, a transition
-- or a `stop()` cuts no report short, and the last state was Stopped already.
def Told (x : Lifecycle) : LifecycleAction → Prop
  | .connection _ => x.state.terminal = true ∨ DegradedTask.report x.degradedTask = []
  | .authFailed => x.state.terminal = true ∨ x.state = .degraded
  | .detach => DegradedTask.report x.degradedTask = []
  | .cancelReader => x.reader = none
  | .finish => x.state = .stopped
  | _ => True

def ending (state : CentralState) (events : List StateChange) : CentralState := events.foldl (fun _ change => change.2) state

theorem chained_append : Chained state (first ++ second) ↔ Chained state first ∧ Chained (ending state first) second := by
  induction first generalizing state with
  | nil => simp [Chained,ending]
  | cons change rest ih =>
    simp only [List.cons_append,Chained,ih,ending,List.foldl_cons,and_assoc]

-- The changes form a chain that ends in the state, and a reader's report never runs beside a grace
-- period.
structure Linked (x : Lifecycle) : Prop where
  chained : Chained .running x.changes
  ending : ending .running x.changes = x.state
  alone : x.reader.isSome = true → x.degradedTask = none

theorem setState_chained (x : Lifecycle) (state : CentralState) (chained : Chained .running x.changes)
    (ends : ending .running x.changes = x.state) :
    Chained .running (setState x state).changes ∧ ending .running (setState x state).changes = state := by
  unfold setState
  dsimp only
  split
  · rename_i same
    exact ⟨chained,ends.trans same.symm⟩
  · exact ⟨chained_append.mpr ⟨chained,ends.symm,trivial⟩,by simp [Compat.ending]⟩

structure Applied (x y : Lifecycle) (report : Option StateChange) (added : List StateChange) : Prop where
  changes : y.changes = x.changes ++ added
  published : y.published ++ report.toList = x.published ++ added
  reader : y.reader = x.reader
  degradedTask : y.degradedTask = x.degradedTask
  detached : y.detached = x.detached
  ended : y.ended = x.ended

theorem apply_applied (x : Lifecycle) (connected : Bool) :
    ∃ added, Applied x (applyConnectionState x connected).1 (applyConnectionState x connected).2 added := by
  unfold applyConnectionState
  dsimp only
  generalize (if connected = true then CentralState.running else CentralState.degraded) = state
  split
  · exact ⟨[],by simp,by simp,rfl,rfl,rfl,rfl⟩
  · rename_i moved
    have added : (setState x state).changes = x.changes ++ [(x.state,state)] := by simp [setState,moved]
    split
    · exact ⟨_,added,rfl,rfl,rfl,rfl,rfl⟩
    · exact ⟨_,added,by simp [setState],rfl,rfl,rfl,rfl⟩

theorem apply_chained (x : Lifecycle) (connected : Bool) (chained : Chained .running x.changes)
    (ends : ending .running x.changes = x.state) :
    Chained .running (applyConnectionState x connected).1.changes ∧
      ending .running (applyConnectionState x connected).1.changes = (applyConnectionState x connected).1.state := by
  unfold applyConnectionState
  dsimp only
  generalize (if connected = true then CentralState.running else CentralState.degraded) = state
  have moved := setState_chained x state chained ends
  split
  · exact ⟨chained,ends⟩
  · split <;> exact moved

theorem step_linked (x : Lifecycle) (a : LifecycleAction) (t : Lifecycle) (linked : Linked x)
    (step : lifecycleStep x a = some t) : Linked t := by
  obtain ⟨chained,ends,alone⟩ := linked
  cases a with
  | connection connected =>
    simp only [lifecycleStep] at step
    split at step <;> cases step
    rename_i free
    have idle : x.reader = none := by
      cases reader : x.reader <;> simp [reader] at free ⊢
    unfold onConnectionStateChanged
    split
    · exact ⟨chained,ends,alone⟩
    · cases connected with
      | false => exact ⟨chained,ends,by simp [idle]⟩
      | true =>
        have after := apply_chained {x with degradedTask := none} true chained ends
        obtain ⟨added,applied⟩ := apply_applied {x with degradedTask := none} true
        exact ⟨after.1,after.2,fun _ => applied.degradedTask⟩
  | authFailed =>
    simp only [lifecycleStep] at step
    split at step <;> cases step
    unfold onAuthFailed
    split
    · exact ⟨chained,ends,alone⟩
    · have moved := setState_chained x .degraded chained ends
      exact ⟨moved.1,moved.2,alone⟩
  | expire =>
    simp only [lifecycleStep] at step
    split at step <;> cases step
    rename_i sleeping
    have idle : x.reader = none := by
      cases reader : x.reader with
      | none => rfl
      | some => simp [reader,sleeping] at alone
    unfold degradeAfterGrace
    split
    · exact ⟨chained,ends,fun _ => rfl⟩
    · have after := apply_chained x false chained ends
      obtain ⟨added,applied⟩ := apply_applied x false
      exact ⟨after.1,after.2,by simp [applied.reader,idle]⟩
  | announceReader =>
    simp only [lifecycleStep] at step
    split at step <;> cases step
    exact ⟨chained,ends,nofun⟩
  | announceTask =>
    simp only [lifecycleStep] at step
    split at step <;> cases step
    exact ⟨chained,ends,fun _ => rfl⟩
  | daemonStatus connected => cases step; exact ⟨chained,ends,alone⟩
  | detach => cases step; exact ⟨chained,ends,fun _ => rfl⟩
  | cancelReader =>
    simp only [lifecycleStep] at step
    split at step <;> cases step
    exact ⟨chained,ends,nofun⟩
  | finish =>
    simp only [lifecycleStep] at step
    split at step <;> cases step
    have moved := setState_chained x .stopped chained ends
    exact ⟨moved.1,moved.2,alone⟩

theorem accounted_iff (linked : Linked x) : Accounted x ↔ x.changes = x.published ++ x.reporting := by
  refine ⟨And.left,fun balanced => ⟨balanced,?_⟩⟩
  have chained := linked.chained
  rw [balanced] at chained
  exact (chained_append.mp chained).1

theorem applied_balance (applied : Applied x y report added) :
    y.changes = y.published ++ report.toList ↔ x.changes = x.published := by
  rw [applied.changes,applied.published]
  exact List.append_left_inj added

theorem setState_balance (x : Lifecycle) (state : CentralState) (balanced : x.changes = x.published ++ reporting) :
    (setState x state).changes = x.published ++ reporting ↔ x.state = state := by
  unfold setState
  dsimp only
  split
  · rename_i same
    simp [balanced,same]
  · rename_i moved
    rw [balanced]
    simp [Ne.symm moved]

theorem connection_exact (x : Lifecycle) (connected : Bool) (idle : x.reader = none)
    (balanced : x.changes = x.published ++ x.reporting) :
    (onConnectionStateChanged x connected).changes =
        (onConnectionStateChanged x connected).published ++ (onConnectionStateChanged x connected).reporting ↔
      x.state.terminal = true ∨ DegradedTask.report x.degradedTask = [] := by
  have owed : x.changes = x.published ++ DegradedTask.report x.degradedTask := by
    simpa [Lifecycle.reporting,idle] using balanced
  unfold onConnectionStateChanged
  split
  · rename_i terminal
    simp [terminal,balanced]
  · rename_i live
    cases connected with
    | false =>
      simp [live,Lifecycle.reporting,idle,owed]
    | true =>
      obtain ⟨added,applied⟩ := apply_applied {x with degradedTask := none} true
      have balance := applied_balance applied
      simp only [live,Lifecycle.reporting,applied.degradedTask,report_none,if_true,List.append_nil]
      rw [balance]
      simp [owed]

theorem expire_balanced (x : Lifecycle) (sleeping : x.degradedTask = some .sleeping) (idle : x.reader = none)
    (balanced : x.changes = x.published ++ x.reporting) :
    (degradeAfterGrace x).changes = (degradeAfterGrace x).published ++ (degradeAfterGrace x).reporting := by
  have owed : x.changes = x.published := by
    simpa [Lifecycle.reporting,idle,sleeping] using balanced
  unfold degradeAfterGrace
  split
  · simp [owed,Lifecycle.reporting,idle]
  · obtain ⟨added,applied⟩ := apply_applied x false
    have balance := (applied_balance applied).mpr owed
    simp only [Lifecycle.reporting,applied.reader,idle]
    rw [balance]
    cases (applyConnectionState x false).2 <;> rfl

theorem authFailed_exact (x : Lifecycle) (balanced : x.changes = x.published ++ x.reporting) :
    (onAuthFailed x).changes = (onAuthFailed x).published ++ (onAuthFailed x).reporting ↔
      x.state.terminal = true ∨ x.state = .degraded := by
  unfold onAuthFailed
  split
  · rename_i terminal
    simp [terminal,balanced]
  · rename_i live
    have moved := setState_balance x .degraded balanced
    exact moved.trans (by simp [live])

theorem lifecycleStep_exact (x : Lifecycle) (a : LifecycleAction) (t : Lifecycle) (linked : Linked x)
    (accounted : Accounted x) (step : lifecycleStep x a = some t) : Accounted t ↔ Told x a := by
  rw [accounted_iff (step_linked x a t linked step)]
  have balanced := accounted.1
  cases a with
  | connection connected =>
    simp only [lifecycleStep] at step
    split at step <;> cases step
    rename_i free
    exact connection_exact x connected (by cases reader : x.reader <;> simp [reader] at free ⊢) balanced
  | authFailed =>
    simp only [lifecycleStep] at step
    split at step <;> cases step
    exact authFailed_exact x balanced
  | expire =>
    simp only [lifecycleStep] at step
    split at step <;> cases step
    rename_i sleeping
    have idle : x.reader = none := by
      cases reader : x.reader with
      | none => rfl
      | some => simpa [reader,sleeping] using linked.alone
    simp [Told,expire_balanced x sleeping idle balanced]
  | announceReader =>
    simp only [lifecycleStep] at step
    split at step <;> cases step
    rename_i change reader
    simp [Told,balanced,Lifecycle.reporting,reader]
  | announceTask =>
    simp only [lifecycleStep] at step
    split at step <;> cases step
    rename_i change reporting
    have idle : x.reader = none := by
      cases reader : x.reader with
      | none => rfl
      | some => simpa [reader,reporting] using linked.alone
    simp [Told,balanced,Lifecycle.reporting,idle,reporting]
  | daemonStatus connected => cases step; exact ⟨fun _ => trivial,fun _ => balanced⟩
  | detach =>
    cases step
    simp [Told,balanced,Lifecycle.reporting]
  | cancelReader =>
    simp only [lifecycleStep] at step
    split at step <;> cases step
    cases reader : x.reader <;> simp [Told,balanced,Lifecycle.reporting,reader]
  | finish =>
    simp only [lifecycleStep] at step
    split at step <;> cases step
    exact setState_balance x .stopped balanced

structure Down (x : Lifecycle) : Prop where
  detached : x.detached = true → x.degradedTask = none
  ended : x.ended = true → x.detached = true ∧ x.reader = none

theorem started_down (sensor : Option (Option Bool)) (degradedTask : Option DegradedTask) (reader : Option StateChange) :
    Down (.started sensor degradedTask reader) := ⟨nofun,nofun⟩

theorem Down.attached (down : Down x) (attached : x.detached = false) : x.ended = false := by
  cases ended : x.ended with
  | false => rfl
  | true => cases attached.symm.trans (down.ended ended).1

theorem Down.of_attached (attached : x.detached = false) (running : x.ended = false) : Down x :=
  ⟨fun detached => (nomatch attached.symm.trans detached),fun ended => (nomatch running.symm.trans ended)⟩

theorem connection_frame (x : Lifecycle) (connected : Bool) :
    (onConnectionStateChanged x connected).detached = x.detached ∧ (onConnectionStateChanged x connected).ended = x.ended := by
  unfold onConnectionStateChanged
  split
  · exact ⟨rfl,rfl⟩
  · cases connected with
    | false => exact ⟨rfl,rfl⟩
    | true =>
      obtain ⟨added,applied⟩ := apply_applied {x with degradedTask := none} true
      exact ⟨applied.detached,applied.ended⟩

theorem expire_frame (x : Lifecycle) :
    (degradeAfterGrace x).detached = x.detached ∧ (degradeAfterGrace x).ended = x.ended := by
  unfold degradeAfterGrace
  split
  · exact ⟨rfl,rfl⟩
  · obtain ⟨added,applied⟩ := apply_applied x false
    exact ⟨applied.detached,applied.ended⟩

theorem step_down (x : Lifecycle) (a : LifecycleAction) (t : Lifecycle) (down : Down x)
    (step : lifecycleStep x a = some t) : Down t ∧ Quiet x t := by
  cases a with
  | connection connected =>
    simp only [lifecycleStep] at step
    split at step <;> cases step
    rename_i free
    have attached : x.detached = false := by simpa using (not_or.mp free).1
    have running := down.attached attached
    obtain ⟨detached,ended⟩ := connection_frame x connected
    exact ⟨.of_attached (detached.trans attached) (ended.trans running),fun ended => (nomatch running.symm.trans ended)⟩
  | authFailed =>
    simp only [lifecycleStep] at step
    split at step <;> cases step
    rename_i free
    have attached : x.detached = false := by simpa using (not_or.mp free).1
    have running := down.attached attached
    refine ⟨?_,fun ended => (nomatch running.symm.trans ended)⟩
    unfold onAuthFailed
    split
    · exact down
    · exact .of_attached attached running
  | expire =>
    simp only [lifecycleStep] at step
    split at step <;> cases step
    rename_i sleeping
    have attached : x.detached = false := by
      cases detached : x.detached with
      | false => rfl
      | true => cases sleeping.symm.trans (down.detached detached)
    have running := down.attached attached
    obtain ⟨detached,ended⟩ := expire_frame x
    exact ⟨.of_attached (detached.trans attached) (ended.trans running),fun ended => (nomatch running.symm.trans ended)⟩
  | announceReader =>
    simp only [lifecycleStep] at step
    split at step <;> cases step
    rename_i change reader
    refine ⟨⟨down.detached,fun ended => ⟨(down.ended ended).1,rfl⟩⟩,?_⟩
    intro ended
    cases reader.symm.trans (down.ended ended).2
  | announceTask =>
    simp only [lifecycleStep] at step
    split at step <;> cases step
    rename_i change reporting
    refine ⟨⟨fun _ => rfl,down.ended⟩,?_⟩
    intro ended
    cases reporting.symm.trans (down.detached (down.ended ended).1)
  | daemonStatus connected => cases step; exact ⟨⟨down.detached,down.ended⟩,fun _ => ⟨rfl,.inl rfl⟩⟩
  | detach => cases step; exact ⟨⟨fun _ => rfl,fun ended => ⟨rfl,(down.ended ended).2⟩⟩,fun _ => ⟨rfl,.inl rfl⟩⟩
  | cancelReader =>
    simp only [lifecycleStep] at step
    split at step <;> cases step
    exact ⟨⟨down.detached,fun ended => ⟨(down.ended ended).1,rfl⟩⟩,fun _ => ⟨rfl,.inl rfl⟩⟩
  | finish =>
    simp only [lifecycleStep] at step
    split at step <;> cases step
    rename_i torn
    exact ⟨⟨down.detached,fun _ => torn⟩,fun _ => ⟨rfl,.inr rfl⟩⟩

theorem central_state_chain_iff (sensor : Option (Option Bool)) (degradedTask : Option DegradedTask)
    (reader : Option StateChange) (actions : List LifecycleAction) :
    Every lifecycleStep (fun x _ t => Quiet x t) (.started sensor degradedTask reader) actions ∧
    (Always lifecycleStep Accounted (.started sensor degradedTask reader) actions ↔
      (reader = none ∧ DegradedTask.report degradedTask = []) ∧
        Every lifecycleStep (fun x a _ => Told x a) (.started sensor degradedTask reader) actions) := by
  constructor
  · refine every_of_invariant Down (started_down sensor degradedTask reader) ?_ ?_
    · exact fun x a t down step => (step_down x a t down step).1
    · exact fun x a t down step => (step_down x a t down step).2
  · by_cases quiet : reader = none ∧ DegradedTask.report degradedTask = []
    · have linked : Linked (.started sensor degradedTask reader) := ⟨trivial,rfl,by simp [Lifecycle.started,quiet.1]⟩
      have accounted : Accounted (.started sensor degradedTask reader) := by
        refine ⟨?_,trivial⟩
        simp [Lifecycle.started,Lifecycle.reporting,quiet.1,quiet.2]
      rw [always_iff_every_within Linked step_linked lifecycleStep_exact linked accounted]
      simp [quiet]
    · simp only [quiet,false_and,iff_false]
      intro always
      have first := (always_start always).1
      refine quiet ?_
      simpa [Lifecycle.started,Lifecycle.reporting] using first

-- The grace period finds the state Degraded already, and nobody is ever told.
theorem rejected_credential_untold : ¬ Always lifecycleStep Accounted (.started (some (some true)) none none)
    [.connection false,.authFailed,.expire] := by
  decide

end LoomClient.Compat
