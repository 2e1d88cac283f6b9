import LoomClient.Client.Daemon
import Mathlib.Data.Rat.Defs

namespace LoomClient.Client
open Lib Wire Store Compat
variable {V : Type}

def envelopeQueueMaxsize : Nat := 4096
def envelopeQueueMaxBytes : Int := 64 * 1024 * 1024
def envelopeQueueLowWater : Nat := envelopeQueueMaxsize / 2
def rebootstrapCooldownSeconds : ℚ := 30

-- A broadcast frame: its replay cursor and the push it carries.
structure Envelope (V : Type) where
  seq : Option Int
  push : Push V

-- A `queue.get()` that has completed holds an envelope which the byte tally still counts until the
-- iterator runs again.
inductive Consumer (V : Type) where
  | idle
  | waiting
  | holding (envelope : Envelope V)

-- The task of `_run_rebootstrap`: created but not yet run, or suspended.
inductive Rebootstrap (V : Type) where
  | scheduled
  | running (rest : Coroutine V)

structure Recovery (V : Type) where
  adapter : Adapter V
  lastSeq : Option Int
  queue : List (Envelope V)
  sizes : List Nat
  queuedBytes : Int
  droppedCount : Nat
  overflowing : Bool
  consumer : Consumer V
  task : Option (Rebootstrap V)
  lastFinished : Option ℚ
  closing : Bool

def Recovery.initial (adapter : Adapter V) : Recovery V := ⟨adapter,none,[],[],0,0,false,.idle,none,none,false⟩

def coolingDown (x : Recovery V) (now : ℚ) : Bool :=
  x.lastFinished.any fun finished => now - finished < rebootstrapCooldownSeconds

-- `_on_replay_lost`, the single funnel of both kinds of loss.
def onReplayLost (x : Recovery V) (now : ℚ) : Recovery V :=
  if x.closing then x
  else if x.task.isSome then x
  else if coolingDown x now then x
  else {x with task := some .scheduled}

def registerOverflow (x : Recovery V) (now : ℚ) : Recovery V :=
  let y := {x with droppedCount := x.droppedCount + 1}
  if x.overflowing then y else onReplayLost {y with overflowing := true} now

-- The highest `seq` seen; an envelope without one leaves the cursor alone.
def highestSeq : Option Int → Option Int → Option Int
  | some last,some seq => some (max last seq)
  | none,seq => seq
  | last,none => last

def overflows (x : Recovery V) (size : Nat) : Bool :=
  decide (envelopeQueueMaxBytes < x.queuedBytes + size) || decide (envelopeQueueMaxsize ≤ x.queue.length)

-- The cursor moves before the queue has taken the envelope.
def handleText (x : Recovery V) (envelope : Envelope V) (size : Nat) (now : ℚ) : Recovery V :=
  let y := {x with lastSeq := highestSeq x.lastSeq envelope.seq}
  if overflows y size then registerOverflow y now
  else {y with queue := y.queue ++ [envelope],sizes := y.sizes ++ [size],queuedBytes := y.queuedBytes + size}

def handleReplayLost (x : Recovery V) (oldest : Option Int) (now : ℚ) : Recovery V :=
  onReplayLost {x with lastSeq := oldest.filter (0 ≤ ·)} now

def popSize (x : Recovery V) : Recovery V :=
  match x.sizes with
  | [] => x
  | size :: sizes => {x with sizes,queuedBytes := x.queuedBytes - size}

def releaseLatch (x : Recovery V) : Recovery V :=
  if x.overflowing ∧ x.queue.length ≤ envelopeQueueLowWater then {x with overflowing := false} else x

-- `begin` is the first run of the scheduled task, `resume` an answer to the
-- request it waits on. `interleave` is any effect of another task or caller.
inductive RecoveryAction (V : Type) where
  | frame (envelope : Envelope V) (size : Nat) (now : ℚ)
  | replayLost (oldest : Option Int) (now : ℚ)
  | await
  | take
  | deliver
  | leave
  | «begin» (hook : Bool) (now : ℚ)
  | resume (answers : Answers V) (now : ℚ)
  | interleave (effect : Effect V)
  | close
  | cancel (now : ℚ)

section Machine
variable (upstream : Upstream)

-- Runs the task to its next request. Its end is stamped however it came about.
def proceedTask (x : Recovery V) (walk : Coroutine V) (now : ℚ) : Recovery V :=
  let (effects,rest) := walk.settle (applyEffect upstream) x.adapter
  let y := {x with adapter := effects.foldl (applyEffect upstream) x.adapter}
  if rest.isDone then {y with task := none,lastFinished := some now} else {y with task := some (.running rest)}

def recoveryStep (x : Recovery V) : RecoveryAction V → Option (Recovery V)
  | .frame envelope size now => some (handleText x envelope size now)
  | .replayLost oldest now => some (handleReplayLost x oldest now)
  | .await => match x.consumer with
    | .idle => some {x with consumer := .waiting}
    | _ => none
  | .take => match x.consumer,x.queue with
    | .waiting,envelope :: queue => some {x with consumer := .holding envelope,queue}
    | _,_ => none
  | .deliver => match x.consumer with
    | .holding envelope =>
      let y := releaseLatch (popSize x)
      some {y with consumer := .idle,adapter := applyEffect upstream y.adapter (.store (.push envelope.push))}
    | _ => none
  | .leave => some {x with consumer := .idle}
  | .begin hook now => match x.task with
    | some .scheduled => some (proceedTask upstream x (runRebootstrap hook) now)
    | _ => none
  | .resume answers now => match x.task with
    | some (.running rest) => some (proceedTask upstream x (rest.reply answers) now)
    | _ => none
  | .interleave effect => some {x with adapter := applyEffect upstream x.adapter effect}
  | .close => some {x with closing := true}
  -- A task cancelled before it first ran never reaches its `finally`.
  | .cancel now => if x.closing then match x.task with
      | some .scheduled => some {x with task := none}
      | some (.running _) => some {x with task := none,lastFinished := some now}
      | none => none
    else none

end Machine

def asksSystemCcus : Coroutine V → Bool
  | .ask .systemCcus _ => true
  | _ => false

def asksSnapshot : Coroutine V → Bool
  | .ask (.snapshot _ _) _ => true
  | _ => false

def Pending (x : Recovery V) : Prop := match x.task with
  | some .scheduled => True
  | some (.running rest) => asksSystemCcus rest
  | none => False

def Requested (x : Recovery V) : Prop := match x.task with
  | some (.running rest) => asksSnapshot rest
  | _ => False

instance (x : Recovery V) : Decidable (Pending x) := by unfold Pending; split <;> infer_instance
instance (x : Recovery V) : Decidable (Requested x) := by unfold Requested; split <;> infer_instance

def Issues (x t : Recovery V) : Prop := Requested t ∧ ¬ Requested x

def Loses (x : Recovery V) : RecoveryAction V → Prop
  | .frame _ size _ => overflows x size
  | .replayLost _ _ => True
  | _ => False

-- The latch says that an earlier drop of the episode called the hook, not that the hook scheduled a
-- walk.
def Coalesced (x : Recovery V) (a : RecoveryAction V) : Prop :=
  ¬ Pending x ∧ (x.closing ∨ x.task.isSome ∨ match a with
    | .frame _ _ now => x.overflowing ∨ coolingDown x now
    | .replayLost _ now => coolingDown x now
    | _ => False)

def Cancels : RecoveryAction V → Prop
  | .cancel _ => True
  | _ => False

instance (x t : Recovery V) : Decidable (Issues x t) := by unfold Issues; infer_instance
instance (x : Recovery V) (a : RecoveryAction V) : Decidable (Loses x a) := by cases a <;> unfold Loses <;> infer_instance
instance (x : Recovery V) (a : RecoveryAction V) : Decidable (Coalesced x a) := by
  cases a <;> unfold Coalesced <;> infer_instance
instance (a : RecoveryAction V) : Decidable (Cancels a) := by cases a <;> unfold Cancels <;> infer_instance

-- The walk past its pin never asks again which centrals there are.
def AfterPin (walk : Coroutine V) : Prop := walk.Only (· ≠ .systemCcus) fun _ => True

theorem centralless_after {walk : Coroutine V} (centralless : Centralless walk) : AfterPin walk := by
  refine Walk.only_mono ?_ (fun _ _ => trivial) walk centralless
  intro read asked
  cases read with
  | systemCcus => exact asked.elim
  | _ => exact nofun

section Recovering
variable {upstream : Upstream}

-- The walk at its snapshot request.
def AtSnapshot (walk : Coroutine V) : Prop := asksSnapshot walk ∧ AfterPin walk

-- The walk at its pin: whatever is answered, the snapshot request goes out next.
def AtPin (upstream : Upstream) (walk : Coroutine V) : Prop :=
  asksSystemCcus walk ∧ ∀ answers (a : Adapter V), AtSnapshot (Walk.settle (applyEffect upstream) (walk.reply answers) a).2

theorem pin_settles {next : Coroutine V} (goes : ∀ a, AtSnapshot (Walk.settle (applyEffect upstream) next a).2)
    (a : Adapter V) : let rest := (Walk.settle (applyEffect upstream) (pinCentralId next) a).2
    AtSnapshot rest ∨ AtPin upstream rest := by
  dsimp only [pinCentralId,Walk.settle]
  split
  · exact .inl (goes a)
  · refine .inr ⟨rfl,fun answers a => ?_⟩
    dsimp only [Walk.settle,Walk.reply]
    cases answers .systemCcus with
    | none => exact goes a
    | some entries =>
      dsimp only [onStore,Walk.settle]
      split
      · exact goes _
      · split
        · exact goes _
        · exact goes _

theorem bootstrap_settles (upstream : Upstream) (hook : Bool) (a : Adapter V) :
    let rest := (Walk.settle (applyEffect upstream) (runRebootstrap hook) a).2
    AtSnapshot rest ∨ AtPin upstream rest := by
  refine pin_settles (fun a => ⟨rfl,?_⟩) a
  dsimp only [Walk.settle]
  refine ⟨nofun,fun reply => ?_⟩
  cases reply with
  | none => trivial
  | some snapshot =>
    exact ⟨trivial,centralless_after (bootstrap_devices_centralless (alarm_panels_centralless fun _ =>
      ⟨trivial,hook_centralless hook⟩))⟩

def Staged (upstream : Upstream) (x : Recovery V) : Prop :=
  ∀ rest, x.task = some (.running rest) → AfterPin rest ∨ AtPin upstream rest

theorem trigger_task (x : Recovery V) (now : ℚ) :
    (onReplayLost x now).task = x.task ∨ (x.task = none ∧ (onReplayLost x now).task = some .scheduled) := by
  unfold onReplayLost
  split
  · exact .inl rfl
  · split
    · exact .inl rfl
    · rename_i idle
      split
      · exact .inl rfl
      · exact .inr ⟨Option.not_isSome_iff_eq_none.mp idle,rfl⟩

theorem text_task (x : Recovery V) (envelope : Envelope V) (size : Nat) (now : ℚ) :
    (handleText x envelope size now).task = x.task ∨
      (x.task = none ∧ (handleText x envelope size now).task = some .scheduled) := by
  unfold handleText
  dsimp only
  split
  · unfold registerOverflow
    dsimp only
    split
    · exact .inl rfl
    · exact trigger_task _ now
  · exact .inl rfl

theorem pop_size_task (x : Recovery V) : (popSize x).task = x.task := by unfold popSize; split <;> rfl
theorem release_latch_task (x : Recovery V) : (releaseLatch x).task = x.task := by unfold releaseLatch; split <;> rfl

theorem recovery_cases (moved : recoveryStep upstream x a = some t) :
    t.task = x.task ∨ (x.task = none ∧ t.task = some .scheduled) ∨ (Cancels a ∧ t.task = none) ∨
      (∃ hook now, x.task = some .scheduled ∧ t = proceedTask upstream x (runRebootstrap hook) now) ∨
      ∃ rest answers now, x.task = some (.running rest) ∧ t = proceedTask upstream x (rest.reply answers) now := by
  cases a with
  | frame envelope size now =>
    cases moved
    rcases text_task x envelope size now with same | fresh
    · exact .inl same
    · exact .inr (.inl fresh)
  | replayLost oldest now =>
    cases moved
    rcases trigger_task {x with lastSeq := oldest.filter (0 ≤ ·)} now with same | fresh
    · exact .inl same
    · exact .inr (.inl fresh)
  | await =>
    simp only [recoveryStep] at moved
    split at moved
    · cases moved; exact .inl rfl
    · cases moved
  | take =>
    simp only [recoveryStep] at moved
    split at moved
    · cases moved; exact .inl rfl
    · cases moved
  | deliver =>
    simp only [recoveryStep] at moved
    split at moved
    · cases moved; exact .inl ((release_latch_task _).trans (pop_size_task x))
    · cases moved
  | leave => cases moved; exact .inl rfl
  | «begin» hook now =>
    simp only [recoveryStep] at moved
    split at moved
    · rename_i scheduled
      cases moved
      exact .inr (.inr (.inr (.inl ⟨hook,now,scheduled,rfl⟩)))
    · cases moved
  | resume answers now =>
    simp only [recoveryStep] at moved
    split at moved
    · rename_i rest running
      cases moved
      exact .inr (.inr (.inr (.inr ⟨rest,answers,now,running,rfl⟩)))
    · cases moved
  | interleave => cases moved; exact .inl rfl
  | close => cases moved; exact .inl rfl
  | cancel now =>
    simp only [recoveryStep] at moved
    split at moved
    · split at moved
      · cases moved; exact .inr (.inr (.inl ⟨trivial,rfl⟩))
      · cases moved; exact .inr (.inr (.inl ⟨trivial,rfl⟩))
      · cases moved
    · cases moved

theorem proceed_task (upstream : Upstream) (x : Recovery V) (walk : Coroutine V) (now : ℚ) :
    let rest := (walk.settle (applyEffect upstream) x.adapter).2
    (proceedTask upstream x walk now).task = none ∧ rest.isDone ∨
      (proceedTask upstream x walk now).task = some (.running rest) := by
  unfold proceedTask
  dsimp only
  split
  · rename_i finished
    exact .inl ⟨rfl,finished⟩
  · exact .inr rfl

theorem proceed_staged (walk : Coroutine V)
    (stage : let rest := (walk.settle (applyEffect upstream) x.adapter).2
      AfterPin rest ∨ AtPin upstream rest) : Staged upstream (proceedTask upstream x walk now) := by
  intro rest running
  rcases proceed_task upstream x walk now with ⟨idle,_⟩ | suspended
  · rw [idle] at running; cases running
  · rw [suspended] at running
    cases running
    exact stage

theorem staged_kept (staged : Staged upstream x) (moved : recoveryStep upstream x a = some t) :
    Staged upstream t := by
  rcases recovery_cases moved with same | ⟨_,fresh⟩ | ⟨_,gone⟩ | ⟨hook,now,_,rfl⟩ | ⟨rest,answers,now,running,rfl⟩
  · intro rest running
    exact staged rest (same ▸ running)
  · intro rest running
    rw [fresh] at running; cases running
  · intro rest running
    rw [gone] at running; cases running
  · refine proceed_staged _ ?_
    rcases bootstrap_settles upstream hook x.adapter with asks | leads
    · exact .inl asks.2
    · exact .inr leads
  · refine proceed_staged _ (.inl ?_)
    rcases staged rest running with after | leads
    · exact (Walk.only_settle _ _ (Walk.only_reply answers rest after)).2
    · exact (leads.2 answers x.adapter).2

theorem snapshot_not_done {walk : Coroutine V} (asks : asksSnapshot walk) : walk.isDone = false := by
  cases walk with
  | done => cases asks
  | _ => rfl

theorem issues_of_snapshot (walk : Coroutine V) (quiet : ¬ Requested x)
    (asks : AtSnapshot (walk.settle (applyEffect upstream) x.adapter).2) :
    Issues x (proceedTask upstream x walk now) := by
  refine ⟨?_,quiet⟩
  rcases proceed_task upstream x walk now with ⟨_,finished⟩ | suspended
  · rw [snapshot_not_done asks.1] at finished; cases finished
  · unfold Requested
    rw [suspended]
    exact asks.1

theorem pin_not_snapshot {walk : Coroutine V} (asks : asksSystemCcus walk) : ¬ asksSnapshot walk := by
  unfold asksSystemCcus at asks
  split at asks
  · exact Bool.false_ne_true
  · cases asks

theorem after_pin_asks {walk : Coroutine V} (after : AfterPin walk) : ¬ asksSystemCcus walk := by
  intro asks
  unfold asksSystemCcus at asks
  split at asks
  · exact after.1 rfl
  · cases asks

theorem pin_not_done {walk : Coroutine V} (asks : asksSystemCcus walk) : walk.isDone = false := by
  cases walk with
  | done => cases asks
  | _ => rfl

theorem pending_of_pin (walk : Coroutine V)
    (pin : AtPin upstream (walk.settle (applyEffect upstream) x.adapter).2) :
    Pending (proceedTask upstream x walk now) := by
  rcases proceed_task upstream x walk now with ⟨_,finished⟩ | suspended
  · rw [pin_not_done pin.1] at finished; cases finished
  · unfold Pending
    rw [suspended]
    exact pin.1

theorem pending_carried (staged : Staged upstream x) (pending : Pending x)
    (moved : recoveryStep upstream x a = some t) : (Issues x t ∨ Cancels a) ∨ Pending t := by
  obtain same | ⟨idle,_⟩ | ⟨cancels,_⟩ | ⟨hook,now,scheduled,rfl⟩ | ⟨rest,answers,now,running,rfl⟩ :=
    recovery_cases moved
  · refine .inr ?_
    unfold Pending at pending ⊢
    rwa [same]
  · unfold Pending at pending
    rw [idle] at pending
    exact pending.elim
  · exact .inl (.inr cancels)
  · have quiet : ¬ Requested x := by unfold Requested; rw [scheduled]; exact id
    rcases bootstrap_settles upstream hook x.adapter with asks | leads
    · exact .inl (.inl (issues_of_snapshot _ quiet asks))
    · exact .inr (pending_of_pin _ leads)
  · unfold Pending at pending
    rw [running] at pending
    have quiet : ¬ Requested x := by
      unfold Requested
      rw [running]
      exact pin_not_snapshot pending
    rcases staged rest running with after | leads
    · exact (after_pin_asks after pending).elim
    · exact .inl (.inl (issues_of_snapshot _ quiet (leads.2 answers x.adapter)))

theorem pending_kept (pending : Pending x)
    (task : t.task = x.task ∨ (x.task = none ∧ t.task = some .scheduled)) : Pending t := by
  unfold Pending at pending ⊢
  rcases task with same | ⟨_,fresh⟩
  · rwa [same]
  · rw [fresh]; trivial

theorem trigger_schedules {x : Recovery V} (opened : ¬ x.closing) (idle : ¬ x.task.isSome)
    (cooled : ¬ coolingDown x now) : Pending (onReplayLost x now) := by
  unfold onReplayLost
  rw [if_neg opened,if_neg idle,if_neg cooled]
  exact trivial

theorem loss_schedules {x : Recovery V} (loses : Loses x a) (answered : ¬ Coalesced x a)
    (moved : recoveryStep upstream x a = some t) : Pending t := by
  cases a with
  | frame envelope size now =>
    cases moved
    by_cases pending : Pending x
    · exact pending_kept pending (text_task x envelope size now)
    · obtain ⟨opened,idle,fresh,cooled⟩ : ¬ x.closing ∧ ¬ x.task.isSome ∧ ¬ x.overflowing ∧ ¬ coolingDown x now := by
        simpa only [Coalesced,pending,not_false_eq_true,true_and,not_or] using answered
      have full : overflows {x with lastSeq := highestSeq x.lastSeq envelope.seq} size := loses
      unfold handleText registerOverflow
      rw [if_pos full,if_neg fresh]
      exact trigger_schedules opened idle cooled
  | replayLost oldest now =>
    cases moved
    by_cases pending : Pending x
    · exact pending_kept pending (trigger_task {x with lastSeq := oldest.filter (0 ≤ ·)} now)
    · obtain ⟨opened,idle,cooled⟩ : ¬ x.closing ∧ ¬ x.task.isSome ∧ ¬ coolingDown x now := by
        simpa only [Coalesced,pending,not_false_eq_true,true_and,not_or] using answered
      exact trigger_schedules opened idle cooled
  | _ => exact loses.elim

end Recovering

section Losses
variable (upstream : Upstream)

def EveryLossRepaired (x : Recovery V) (actions : List (RecoveryAction V)) : Prop :=
  Throughout (recoveryStep upstream)
    (fun s a t rest => Loses s a → Answered (recoveryStep upstream) (fun s _ t => Issues s t) Pending t rest) x actions

-- The same of the losses that are not coalesced, unless the client closes and
-- cancels the walk they wait for.
def AnsweredLossesRepaired (x : Recovery V) (actions : List (RecoveryAction V)) : Prop :=
  Throughout (recoveryStep upstream)
    (fun s a t rest => Loses s a → ¬ Coalesced s a →
      Answered (recoveryStep upstream) (fun s a t => Issues s t ∨ Cancels a) Pending t rest) x actions

instance (x : Recovery V) (actions : List (RecoveryAction V)) : Decidable (EveryLossRepaired upstream x actions) := by
  unfold EveryLossRepaired; infer_instance

end Losses

end LoomClient.Client
