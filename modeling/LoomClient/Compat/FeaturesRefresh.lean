import LoomClient.Lib.TaskSlot
import LoomClient.Lib.Transition

namespace LoomClient.Compat
open Lib

-- A task that was created waits for its first turn; from then on it is in its read.
inductive FeaturesStage where
  | created
  | reading
  deriving DecidableEq, Repr

-- `stopping` is the task that `stop` has cancelled and waits for. `owed` is read by no step and
-- written by no handler: a push has come for which no read has been started yet.
structure FeaturesRefresh where
  name : String
  slot : TaskSlot FeaturesStage
  again : Bool
  subscribed : Bool
  stopping : Option Nat
  owed : Bool

inductive FeaturesAction where
  | push (central : String)
  | begin (task : Nat)
  | settle (task : Nat) (ending : Ending)
  | stop
  | stopped
  deriving DecidableEq, Repr

namespace FeaturesRefresh

def started (name : String) : FeaturesRefresh := ⟨name,.empty,false,true,none,false⟩

def onCentralFeaturesChanged (s : FeaturesRefresh) (central : String) : FeaturesRefresh :=
  if central = s.name then
    if s.slot.busy then {s with again := true} else {s with slot := s.slot.spawn .created}
  else s

-- The flag is cleared in the turn that starts the read.
def read (s : FeaturesRefresh) (task : Nat) : FeaturesRefresh :=
  {s with slot := s.slot.move task (some .reading), again := false}

def finish (s : FeaturesRefresh) (task : Nat) : FeaturesRefresh := {s with slot := s.slot.move task none}

-- A failed read is logged and otherwise like one that returned.
def settled (s : FeaturesRefresh) (task : Nat) : Ending → FeaturesRefresh
  | .cancelled => s.finish task
  | _ => if s.again then s.read task else s.finish task

def closed (s : FeaturesRefresh) : FeaturesRefresh := {s with slot := s.slot.clear, stopping := none, subscribed := false}

def act (s : FeaturesRefresh) : FeaturesAction → Option FeaturesRefresh
  | .push central => if s.subscribed then some (s.onCentralFeaturesChanged central) else none
  | .begin task => if s.slot.stage task = some .created ∧ s.stopping ≠ some task then some (s.read task) else none
  | .settle task ending =>
    if (s.slot.stage task = some .reading ∧ (ending = .cancelled → s.stopping = some task)) ∨
        (s.slot.stage task = some .created ∧ ending = .cancelled ∧ s.stopping = some task) then
      some (s.settled task ending)
    else none
  | .stop =>
    if s.subscribed ∧ s.stopping = none then
      some (if s.slot.busy then {s with stopping := s.slot.current} else s.closed)
    else none
  | .stopped => match s.stopping with
    | none => none
    | some task => if s.slot.stage task = none then some s.closed else none

-- A push of the adapter's own central owes a read, whatever its handler does.
def due (s t : FeaturesRefresh) : FeaturesAction → Bool
  | .push central => s.owed || decide (central = s.name)
  | .begin task | .settle task _ => s.owed && decide (t.slot.stage task ≠ some .reading)
  | _ => s.owed

def step (s : FeaturesRefresh) (a : FeaturesAction) : Option FeaturesRefresh :=
  (s.act a).map fun t => {t with owed := s.due t a}

def Live (s : FeaturesRefresh) : Prop := s.subscribed = true ∧ s.stopping = none

-- A push still owed its read has a task that will get to it: one whose first turn is yet to come,
-- or one that finds the flag set.
structure Standing (s : FeaturesRefresh) : Prop where
  one : s.slot.AtMostOne
  single : s.subscribed = true → s.slot.Single
  owed : s.Live → s.owed = true → ∃ i, s.slot.stage i = some .created ∨ (s.slot.Going i ∧ s.again = true)

theorem started_standing (name : String) : (started name).Standing where
  one := by
    rintro i j ⟨r,found⟩
    simp [started,TaskSlot.empty,TaskSlot.stage] at found
  single := by
    rintro _ i ⟨r,found⟩
    simp [started,TaskSlot.empty,TaskSlot.stage] at found
  owed := fun _ owed => by cases owed

variable {s t : FeaturesRefresh}

theorem push_standing (standing : s.Standing) (subscribed : s.subscribed = true) (central : String) :
    Standing {s.onCentralFeaturesChanged central with owed := s.owed || decide (central = s.name)} := by
  unfold onCentralFeaturesChanged
  by_cases own : central = s.name
  · rw [if_pos own]
    have single := standing.single subscribed
    cases busy : s.slot.busy with
    | true =>
      rw [if_pos rfl]
      refine ⟨standing.one,standing.single,fun _ _ => ?_⟩
      obtain ⟨r,found⟩ := Option.isSome_iff_exists.mp busy
      obtain ⟨i,_,stage⟩ := Option.bind_eq_some_iff.mp found
      exact ⟨i,.inr ⟨⟨r,stage⟩,rfl⟩⟩
    | false =>
      rw [if_neg Bool.false_ne_true]
      have spawned := TaskSlot.spawn_single single busy .created
      refine ⟨TaskSlot.single_at_most_one spawned,fun _ => spawned,fun _ _ => ?_⟩
      exact ⟨s.slot.tasks.length,.inl (by rw [TaskSlot.stage_spawn,if_pos rfl])⟩
  · rw [if_neg own,decide_eq_false own,Bool.or_false]
    exact standing

theorem read_standing (standing : s.Standing) (going : s.slot.Going task) :
    Standing {s.read task with owed := s.owed && decide ((s.read task).slot.stage task ≠ some .reading)} where
  one := TaskSlot.move_at_most_one standing.one going _
  single := fun subscribed => TaskSlot.move_single (standing.single subscribed) going _
  owed := by
    intro _ owed
    have reads : (s.read task).slot.stage task = some .reading := by
      rw [read,TaskSlot.stage_move _ _ _ _ (TaskSlot.going_below going),if_pos rfl]
    simp [reads] at owed

theorem finish_standing (standing : s.Standing) (going : s.slot.Going task) (settled : s.Live → s.owed = false) :
    Standing {s.finish task with owed := s.owed && decide ((s.finish task).slot.stage task ≠ some .reading)} where
  one := TaskSlot.move_at_most_one standing.one going _
  single := fun subscribed => TaskSlot.move_single (standing.single subscribed) going _
  owed := by
    intro live owed
    have quiet : s.owed = false := settled live
    simp [quiet] at owed

theorem closed_standing (standing : s.Standing) : s.closed.Standing where
  one := standing.one
  single := fun subscribed => by cases subscribed
  owed := fun live => by cases live.1

-- Between the last test of the flag and the end of the task no push comes in.
theorem settled_standing (standing : s.Standing) (stage : s.slot.stage task = some .reading) (ending : Ending)
    (asked : ending = .cancelled → s.stopping = some task) :
    Standing {s.settled task ending with owed := s.owed && decide ((s.settled task ending).slot.stage task ≠ some .reading)} := by
  have going : s.slot.Going task := ⟨_,stage⟩
  have ends : s.again = false → s.Live → s.owed = false := by
    intro flag live
    cases owed : s.owed with
    | false => rfl
    | true =>
      obtain ⟨i,waits⟩ := standing.owed live owed
      rcases waits with fresh | ⟨_,again⟩
      · have same := standing.one i task ⟨_,fresh⟩ going
        rw [same,stage] at fresh
        cases fresh
      · rw [flag] at again
        cases again
  by_cases torn : ending = .cancelled
  · subst torn
    refine finish_standing standing going fun live => ?_
    rw [live.2] at asked
    cases asked rfl
  · have loops : s.settled task ending = if s.again then s.read task else s.finish task := by
      cases ending with
      | cancelled => exact absurd rfl torn
      | _ => rfl
    rw [loops]
    cases again : s.again with
    | true => exact read_standing standing going
    | false => exact finish_standing standing going (ends again)

theorem step_standing (standing : s.Standing) (next : s.step a = some t) : t.Standing := by
  obtain ⟨u,acts,rfl⟩ := Option.map_eq_some_iff.mp next
  cases a with
  | push central =>
    simp only [act] at acts
    split at acts
    · rename_i subscribed
      cases acts
      exact push_standing standing subscribed central
    · cases acts
  | begin task =>
    simp only [act] at acts
    split at acts
    · rename_i fresh
      cases acts
      exact read_standing standing ⟨_,fresh.1⟩
    · cases acts
  | settle task ending =>
    simp only [act] at acts
    split at acts
    · rename_i how
      cases acts
      rcases how with ⟨stage,asked⟩ | ⟨stage,cancelled,asked⟩
      · exact settled_standing standing stage ending asked
      · subst cancelled
        refine finish_standing standing ⟨_,stage⟩ fun live => ?_
        rw [live.2] at asked
        cases asked
    · cases acts
  | stop =>
    simp only [act] at acts
    split at acts
    · rename_i live
      cases acts
      split
      · rename_i busy
        refine ⟨standing.one,standing.single,fun stopped => ?_⟩
        have none_left : s.slot.current = none := stopped.2
        simp [TaskSlot.busy,none_left] at busy
      · exact (closed_standing standing :)
    · cases acts
  | stopped =>
    simp only [act] at acts
    split at acts
    · cases acts
    · split at acts
      · cases acts
        exact (closed_standing standing :)
      · cases acts

theorem features_refresh_loses_no_push (name : String) (actions : List FeaturesAction) :
    Always step (fun s => s.slot.AtMostOne ∧ (s.Live → s.slot.Quiet → s.owed = false)) (started name) actions := by
  refine always_mono (fun s standing => ?_)
    (always_of_invariant (started_standing name) fun s a t standing next => step_standing standing next)
  refine ⟨standing.one,fun live quiet => ?_⟩
  cases owed : s.owed with
  | false => rfl
  | true =>
    obtain ⟨i,waits⟩ := standing.owed live owed
    rcases waits with fresh | ⟨going,_⟩
    · exact absurd ⟨_,fresh⟩ (quiet i)
    · exact absurd going (quiet i)

end FeaturesRefresh
end LoomClient.Compat
