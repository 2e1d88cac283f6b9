import LoomClient.Lib.TaskSlot
import LoomClient.Lib.Transition
import LoomClient.Store.AlarmSection

namespace LoomClient.Compat
open Lib Wire Store

-- The keys that a loop over the live dictionary found at its start and those it has not come to.
structure PingWalk where
  keys : List String
  rest : List String
  deriving DecidableEq, Repr

-- A read remembers how many events had asked for one when it was started.
inductive LatchStage where
  | created
  | reading (since : Nat)
  | pinging (walk : PingWalk)
  deriving DecidableEq, Repr

def LatchStage.left : LatchStage → List String
  | .pinging walk => walk.rest
  | _ => []

-- Read by no step: how many events have asked for a read, how many of them the read that came back
-- last was started after, and which panels have not been pinged since.
structure LatchRefresh where
  alarm : AlarmSection
  slot : TaskSlot LatchStage
  pings : List (String × Option String)
  asked : Nat
  latest : Nat
  owed : List String

-- The latch handler runs behind the push in a turn of its own. `landing` is where the loop goes on in
-- a dictionary that has as many panels as before, but other ones.
inductive LatchAction where
  | push (push : AlarmPush)
  | attach (panels : List AlarmPanelEntity)
  | latch
  | begin (task : Nat)
  | answer (task : Nat) (sensors : List AlarmTriggeredMotionSensor)
  | fail (task : Nat)
  | raise (task : Nat)
  | pinged (task : Nat) (landing : Option String)
  deriving DecidableEq

namespace LatchRefresh

def started (alarm : AlarmSection) : LatchRefresh := ⟨alarm,.empty,[],0,0,[]⟩

-- Events are dropped while the task is going.
def onPossibleLatchChange (s : LatchRefresh) : LatchRefresh :=
  if s.slot.busy then s else {s with slot := s.slot.spawn .created}

def ping (s : LatchRefresh) (uid : String) : LatchRefresh :=
  {s with
    pings := s.pings ++ [(uid,(s.alarm.panelAt uid).map (·.summary.state))]
    owed := s.owed.filter (· ≠ uid)}

def finish (s : LatchRefresh) (task : Nat) : LatchRefresh := {s with slot := s.slot.move task none}

def visit (s : LatchRefresh) (task : Nat) (keys : List String) : List String → LatchRefresh
  | [] => s.finish task
  | uid :: rest => {s.ping uid with slot := s.slot.move task (some (.pinging ⟨keys,rest⟩))}

def pingAll (s : LatchRefresh) (task : Nat) : LatchRefresh := s.visit task s.alarm.panels.keys s.alarm.panels.keys

-- The iterator raises where the dictionary has changed its size; in one of the same size with other
-- keys it goes on anywhere or stops.
def goOn (s : LatchRefresh) (task : Nat) (walk : PingWalk) (landing : Option String) : LatchRefresh :=
  if s.alarm.panels.size ≠ walk.keys.length then s.finish task
  else if s.alarm.panels.keys = walk.keys then s.visit task walk.keys walk.rest
  else match landing with
    | none => s.finish task
    | some uid => if uid ∈ s.alarm.panels then s.visit task walk.keys (uid :: walk.rest) else s.finish task

def step (s : LatchRefresh) : LatchAction → Option LatchRefresh
  | .push push => some {s with alarm := s.alarm.applyPush push}
  | .attach panels => some {s with alarm := s.alarm.attachAlarmPanels panels}
  | .latch => some {s.onPossibleLatchChange with asked := s.asked + 1}
  | .begin task =>
    if s.slot.stage task = some .created then some {s with slot := s.slot.move task (some (.reading s.asked))} else none
  | .answer task sensors => match s.slot.stage task with
    | some (.reading since) =>
      some (({s with
        alarm := s.alarm.applyTriggeredMotion sensors, latest := since, owed := s.owed ++ s.alarm.panels.keys} :
          LatchRefresh).pingAll task)
    | _ => none
  | .fail task => match s.slot.stage task with
    | some (.reading since) => some (({s with latest := since} : LatchRefresh).pingAll task)
    | _ => none
  | .raise task => match s.slot.stage task with
    | some (.reading since) => some (({s with latest := since} : LatchRefresh).finish task)
    | _ => none
  | .pinged task landing => match s.slot.stage task with
    | some (.pinging walk) => some (s.goOn task walk landing)
    | _ => none

def Covered (s : LatchRefresh) : Prop := s.slot.Quiet → s.latest = s.asked ∧ s.owed = []

def changesPanels (a : AlarmSection) : AlarmPush → Bool
  | .panelChanged payload => payload.removed == decide (payload.uniqueId ∈ a.panels)
  | _ => false

def replacesPanels (a : AlarmSection) (panels : List AlarmPanelEntity) : Bool :=
  decide (a.stalePanels panels ≠ []) || panels.any fun entity => decide (entity.uniqueId ∉ a.panels)

-- No task is past its first turn when an event asks for a read, and no panel comes or goes while the
-- loop has panels to come to.
def Undisturbed (s : LatchRefresh) : LatchAction → Prop
  | .latch => ∀ i r, s.slot.stage i = some r → r = .created
  | .push push => changesPanels s.alarm push = true → ∀ i walk, s.slot.stage i = some (.pinging walk) → walk.rest = []
  | .attach panels =>
    replacesPanels s.alarm panels = true → ∀ i walk, s.slot.stage i = some (.pinging walk) → walk.rest = []
  | _ => True

section Panels
variable {a : AlarmSection}

theorem on_zone_panels (a : AlarmSection) (zoneId : String) (f : PanelDetail → PanelDetail) :
    (a.onZone zoneId f).panels = a.panels := by
  unfold AlarmSection.onZone
  split <;> rfl

theorem push_panels (push : AlarmPush) (quiet : changesPanels a push = false) : (a.applyPush push).panels = a.panels := by
  cases push with
  | panelChanged payload =>
    simp only [changesPanels] at quiet
    simp only [AlarmSection.applyPush,AlarmSection.applyPanelChanged]
    cases removed : payload.removed with
    | true =>
      rw [if_pos rfl]
      have unknown : payload.uniqueId ∉ a.panels := by simpa [removed] using quiet
      rw [AlarmSection.drop,Dict.get?_eq_none.mpr unknown]
    | false =>
      rw [if_neg Bool.false_ne_true]
      have known : payload.uniqueId ∈ a.panels := by simpa [removed] using quiet
      obtain ⟨oid,found⟩ := Dict.mem_iff_get?.mp known
      rw [found]
      rfl
  | stateChanged payload => exact on_zone_panels a _ _
  | countdown payload => exact on_zone_panels a _ _
  | readinessChanged payload => exact on_zone_panels a _ _
  | triggered payload => exact on_zone_panels a _ _
  | healthChanged payload => rfl

theorem attach_known_panels (panels : List AlarmPanelEntity) (known : ∀ entity ∈ panels, entity.uniqueId ∈ a.panels) :
    (panels.foldl .attachPanel a).panels = a.panels := by
  induction panels generalizing a with
  | nil => rfl
  | cons entity rest ih =>
    obtain ⟨oid,found⟩ := Dict.mem_iff_get?.mp (known entity (.head rest))
    have same : (a.attachPanel entity).panels = a.panels := by
      rw [AlarmSection.attachPanel,found]
      rfl
    rw [List.foldl_cons,ih,same]
    intro other member
    rw [same]
    exact known other (.tail entity member)

theorem attach_panels_same (panels : List AlarmPanelEntity) (quiet : replacesPanels a panels = false) :
    (a.attachAlarmPanels panels).panels = a.panels := by
  simp only [replacesPanels,Bool.or_eq_false_iff,decide_eq_false_iff_not,not_not] at quiet
  rw [AlarmSection.attachAlarmPanels,quiet.1]
  refine attach_known_panels panels fun entity member => ?_
  simpa using List.any_eq_false.mp quiet.2 entity member

end Panels

def Reached (s : LatchRefresh) : LatchStage → Prop
  | .created => s.owed = []
  | .reading since => since = s.asked ∧ s.owed = []
  | .pinging walk => s.latest = s.asked ∧ (∀ uid ∈ s.owed, uid ∈ walk.rest) ∧
    (walk.rest ≠ [] → s.alarm.panels.keys = walk.keys)

structure Standing (s : LatchRefresh) : Prop where
  single : s.slot.Single
  reached : ∀ i r, s.slot.stage i = some r → s.Reached r
  covered : s.Covered

section Standing
variable {s t : LatchRefresh}

theorem started_standing (alarm : AlarmSection) : (started alarm).Standing where
  single := by
    rintro i ⟨r,found⟩
    simp [started,TaskSlot.empty,TaskSlot.stage] at found
  reached := by
    intro i r found
    simp [started,TaskSlot.empty,TaskSlot.stage] at found
  covered := fun _ => ⟨rfl,rfl⟩

theorem moved_standing (single : s.slot.Single) (going : s.slot.Going task) (slot : t.slot = s.slot.move task (some r))
    (reached : t.Reached r) : t.Standing := by
  have known := TaskSlot.going_below going
  refine ⟨slot ▸ TaskSlot.move_single single going _,fun j r' found => ?_,fun quiet => ?_⟩
  · rw [slot,TaskSlot.stage_move _ _ _ _ known] at found
    by_cases here : j = task
    · rw [if_pos here] at found
      cases found
      exact reached
    · rw [if_neg here] at found
      exact absurd (TaskSlot.single_at_most_one single j task ⟨r',found⟩ going) here
  · refine absurd ?_ (quiet task)
    exact ⟨r,by rw [slot,TaskSlot.stage_move _ _ _ _ known,if_pos rfl]⟩

theorem finished_standing (single : s.slot.Single) (going : s.slot.Going task) (settled : s.latest = s.asked ∧ s.owed = []) :
    (s.finish task).Standing := by
  have known := TaskSlot.going_below going
  refine ⟨TaskSlot.move_single single going _,fun j r found => ?_,fun _ => settled⟩
  rw [finish,TaskSlot.stage_move _ _ _ _ known] at found
  by_cases here : j = task
  · rw [if_pos here] at found
    cases found
  · rw [if_neg here] at found
    exact absurd (TaskSlot.single_at_most_one single j task ⟨r,found⟩ going) here

theorem visit_standing (single : s.slot.Single) (going : s.slot.Going task) (latest : s.latest = s.asked) (rest : List String)
    (owed : ∀ uid ∈ s.owed, uid ∈ rest) (same : rest ≠ [] → s.alarm.panels.keys = keys) :
    (s.visit task keys rest).Standing := by
  cases rest with
  | nil =>
    refine finished_standing single going ⟨latest,?_⟩
    exact List.eq_nil_iff_forall_not_mem.mpr fun uid member => absurd (owed uid member) List.not_mem_nil
  | cons uid rest =>
    refine moved_standing single going rfl ⟨latest,fun other member => ?_,fun _ => same (List.cons_ne_nil uid rest)⟩
    obtain ⟨held,apart⟩ := List.mem_filter.mp member
    have different : other ≠ uid := by simpa using apart
    exact (List.mem_cons.mp (owed other held)).resolve_left different

theorem ping_all_standing (single : s.slot.Single) (going : s.slot.Going task) (latest : s.latest = s.asked)
    (owed : ∀ uid ∈ s.owed, uid ∈ s.alarm.panels.keys) : (s.pingAll task).Standing :=
  visit_standing single going latest s.alarm.panels.keys owed fun _ => rfl

theorem written_standing (standing : s.Standing) (alarm : AlarmSection)
    (kept : alarm.panels = s.alarm.panels ∨ ∀ i walk, s.slot.stage i = some (.pinging walk) → walk.rest = []) :
    ({s with alarm} : LatchRefresh).Standing := by
  refine ⟨standing.single,fun i r found => ?_,standing.covered⟩
  have reached := standing.reached i r found
  cases r with
  | created => exact reached
  | reading since => exact reached
  | pinging walk =>
    refine ⟨reached.1,reached.2.1,fun more => ?_⟩
    rcases kept with same | last
    · exact (congrArg Dict.keys same).trans (reached.2.2 more)
    · exact absurd (last i walk found) more

theorem latch_standing (standing : s.Standing) (early : ∀ i r, s.slot.stage i = some r → r = .created) :
    Standing {s.onPossibleLatchChange with asked := s.asked + 1} := by
  unfold onPossibleLatchChange
  cases busy : s.slot.busy with
  | true =>
    rw [if_pos rfl]
    obtain ⟨r,found⟩ := Option.isSome_iff_exists.mp busy
    obtain ⟨i,_,stage⟩ := Option.bind_eq_some_iff.mp found
    refine ⟨standing.single,fun j r' found' => ?_,fun quiet => absurd ⟨r,stage⟩ (quiet i)⟩
    have fresh := early j r' found'
    subst fresh
    exact standing.reached j .created found'
  | false =>
    rw [if_neg Bool.false_ne_true]
    have quiet := TaskSlot.quiet_of_idle standing.single busy
    have settled := standing.covered quiet
    refine ⟨TaskSlot.spawn_single standing.single busy .created,fun j r found => ?_,fun silent => ?_⟩
    · rw [TaskSlot.stage_spawn] at found
      split at found
      · cases found
        exact settled.2
      · exact absurd ⟨r,found⟩ (quiet j)
    · exact absurd ⟨_,by rw [TaskSlot.stage_spawn,if_pos rfl]⟩ (silent s.slot.tasks.length)

theorem go_on_standing (standing : s.Standing) (stage : s.slot.stage task = some (.pinging walk)) (landing : Option String) :
    (s.goOn task walk landing).Standing := by
  have going : s.slot.Going task := ⟨_,stage⟩
  obtain ⟨latest,owed,same⟩ := standing.reached task _ stage
  cases rest : walk.rest with
  | nil =>
    have nothing : s.owed = [] := List.eq_nil_iff_forall_not_mem.mpr fun uid member => by
      have among := owed uid member
      rw [rest] at among
      cases among
    have finished := finished_standing standing.single going ⟨latest,nothing⟩
    have none_owed : ∀ (more : List String), ∀ uid ∈ s.owed, uid ∈ more := by simp [nothing]
    unfold goOn
    split
    · exact finished
    · split
      · rw [rest]
        exact finished
      · rename_i _ other
        cases landing with
        | none => exact finished
        | some uid =>
          dsimp only
          split
          · rw [rest]
            -- One more ping than the panels that were there.
            refine moved_standing standing.single going rfl ⟨latest,fun other member => ?_,fun more => absurd rfl more⟩
            exact none_owed [] other (List.mem_filter.mp member).1
          · exact finished
  | cons uid later =>
    have keys := same (by rw [rest]; exact List.cons_ne_nil uid later)
    have size : s.alarm.panels.size = walk.keys.length := by rw [← keys,Dict.keys_length]
    unfold goOn
    rw [if_neg (not_not.mpr size),if_pos keys]
    exact visit_standing standing.single going latest walk.rest owed fun _ => keys

theorem step_standing (standing : s.Standing) (next : s.step a = some t) (undisturbed : s.Undisturbed a) : t.Standing := by
  cases a with
  | push push =>
    cases next
    refine written_standing standing _ ?_
    cases changes : changesPanels s.alarm push with
    | true => exact .inr (undisturbed changes)
    | false => exact .inl (push_panels push changes)
  | attach panels =>
    cases next
    refine written_standing standing _ ?_
    cases changes : replacesPanels s.alarm panels with
    | true => exact .inr (undisturbed changes)
    | false => exact .inl (attach_panels_same panels changes)
  | latch =>
    cases next
    exact latch_standing standing undisturbed
  | begin task =>
    simp only [step] at next
    split at next
    · rename_i stage
      cases next
      exact moved_standing standing.single ⟨_,stage⟩ rfl ⟨rfl,standing.reached task _ stage⟩
    · cases next
  | answer task sensors =>
    simp only [step] at next
    split at next
    · rename_i since stage
      cases next
      obtain ⟨fresh,nothing⟩ := standing.reached task _ stage
      refine ping_all_standing standing.single ⟨_,stage⟩ fresh fun uid member => ?_
      rw [nothing] at member
      exact member
    · cases next
  | fail task =>
    simp only [step] at next
    split at next
    · rename_i since stage
      cases next
      obtain ⟨fresh,nothing⟩ := standing.reached task _ stage
      refine ping_all_standing standing.single ⟨_,stage⟩ fresh fun uid member => ?_
      rw [nothing] at member
      cases member
    · cases next
  | raise task =>
    simp only [step] at next
    split at next
    · rename_i since stage
      cases next
      obtain ⟨fresh,nothing⟩ := standing.reached task _ stage
      exact finished_standing standing.single ⟨_,stage⟩ ⟨fresh,nothing⟩
    · cases next
  | pinged task landing =>
    simp only [step] at next
    split at next
    · rename_i walk stage
      cases next
      exact go_on_standing standing stage landing
    · cases next

end Standing

instance (s : LatchRefresh) : Decidable s.Covered := inferInstanceAs (Decidable (_ → _))

instance (s : LatchRefresh) (a : LatchAction) : Decidable (s.Undisturbed a) :=
  let none_left : Decidable (∀ i walk, s.slot.stage i = some (.pinging walk) → walk.rest = []) :=
    decidable_of_iff (∀ held ∈ s.slot.tasks, ∀ r ∈ held, r.left = []) (by
      rw [← TaskSlot.forall_stage]
      constructor
      · intro each i walk found
        exact each i _ found
      · intro each i r found
        cases r with
        | pinging walk => exact each i walk found
        | _ => rfl)
  match a with
  | .latch => decidable_of_iff (∀ held ∈ s.slot.tasks, ∀ r ∈ held, r = .created) TaskSlot.forall_stage.symm
  | .push _ => inferInstanceAs (Decidable (_ → _))
  | .attach _ => inferInstanceAs (Decidable (_ → _))
  | .begin _ => isTrue trivial
  | .answer _ _ => isTrue trivial
  | .fail _ => isTrue trivial
  | .raise _ => isTrue trivial
  | .pinged _ _ => isTrue trivial

theorem latch_refresh_loses_no_event (alarm : AlarmSection) (actions : List LatchAction)
    (met : Every step (fun s a _ => s.Undisturbed a) (started alarm) actions) :
    Always step Covered (started alarm) actions := by
  have standing := always_of_every (started_standing alarm)
    (fun s a t standing next undisturbed => step_standing standing next undisturbed) met
  exact always_mono (fun s standing => standing.covered) standing

def motionPanel (uniqueId : String) : AlarmPanelEntity :=
  ⟨uniqueId,uniqueId,uniqueId,"alarm_control_panel","disarmed",none,true,none,false,false⟩

theorem burst_read_once :
    Always step Covered (started .empty) [.attach [motionPanel "a",motionPanel "b"],.latch,.latch,.begin 0,
      .answer 0 [⟨"s","a"⟩],.pinged 0 none,.pinged 0 none,.latch,.begin 1,.fail 1] :=
  latch_refresh_loses_no_event .empty _ (by decide +kernel)

-- An event that comes while the read is out is dropped. A panel that goes while the first one is
-- pinged ends the loop before the second.
theorem event_dropped_and_panel_passed_over :
    ¬ Always step Covered (started .empty) [.attach [motionPanel "a"],.latch,.begin 0,.latch,.answer 0 [],.pinged 0 none] ∧
    ¬ Always step Covered (started .empty) [.attach [motionPanel "a",motionPanel "b"],.latch,.begin 0,.answer 0 [],
      .attach [motionPanel "b"],.pinged 0 none] := by
  decide +kernel

end LatchRefresh
end LoomClient.Compat
