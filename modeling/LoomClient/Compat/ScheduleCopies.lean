import LoomClient.Compat.ScheduleDocument

namespace LoomClient.Compat
open Lib

inductive ScheduleProfile where
  | p1 | p2 | p3 | p4 | p5 | p6
  deriving DecidableEq, Repr

-- The 1-based index the copy endpoint expects.
def profileIndex : ScheduleProfile → Nat
  | .p1 => 1 | .p2 => 2 | .p3 => 3 | .p4 => 4 | .p5 => 5 | .p6 => 6

-- The target's schedule, from the source's and its own. No other schedule is written.
structure DaemonCopies where
  schedule : ScheduleDoc ClimateProfile → ScheduleDoc ClimateProfile → ScheduleDoc ClimateProfile
  profile : Nat → Nat → ScheduleDoc ClimateProfile → ScheduleDoc ClimateProfile → ScheduleDoc ClimateProfile

-- A climate data point with the schedule of its channel: `held` is the daemon's.
structure ClimateDp where
  channelNo : Int
  held : ScheduleDoc ClimateProfile
  schedule : Option (ScheduleDoc ClimateProfile)
  deriving DecidableEq

abbrev ClimateDps := Dict String ClimateDp

inductive ScheduleCall where
  | reloadSchedule (address : String) (forceLoad : Bool)
  | setSchedule (address : String) (profiles : Dict String ClimateProfile)
  | setScheduleProfile (address profile : String) (weekdays : Dict String ClimateWeekday)
  | setScheduleWeekday (address profile weekday : String) (data : ClimateWeekday)
  | copySchedule (address target : String)
  | copyScheduleProfile (address : String) (sourceProfile targetProfile : ScheduleProfile) (target : Option String)
  deriving DecidableEq

namespace ClimateDp

def loaded (p : ClimateDp) : ScheduleDoc ClimateProfile := p.schedule.getD p.held

def reloadSchedule (p : ClimateDp) (forceLoad : Bool) : ClimateDp :=
  if forceLoad then {p with schedule := some p.held} else {p with schedule := some p.loaded}

-- The daemon stores what is put, and the data point keeps it.
def putProfiles (p : ClimateDp) (edited : ScheduleDoc ClimateProfile) : ClimateDp :=
  {p with held := edited,schedule := some edited}

def setSchedule (p : ClimateDp) (profiles : Dict String ClimateProfile) : ClimateDp :=
  p.putProfiles (p.loaded.setSchedule profiles)

def setScheduleProfile (p : ClimateDp) (profile : String) (weekdays : Dict String ClimateWeekday) : ClimateDp :=
  p.putProfiles (p.loaded.setProfile profile weekdays)

def setScheduleWeekday (p : ClimateDp) (profile weekday : String) (data : ClimateWeekday) : ClimateDp :=
  p.putProfiles (p.loaded.setWeekday profile weekday data)

end ClimateDp

section Calls
variable (copies : DaemonCopies)

-- A copy is a request to the daemon: no data point is told of it.
def copied (s : ClimateDps) (source target : String)
    (made : ScheduleDoc ClimateProfile → ScheduleDoc ClimateProfile → ScheduleDoc ClimateProfile) : Option ClimateDps :=
  match s.get? source,s.get? target with
  | some p,some q => some (s.set target {q with held := made p.held q.held})
  | _,_ => none

def changed (s : ClimateDps) (address : String) (f : ClimateDp → ClimateDp) : Option ClimateDps :=
  (s.get? address).map fun p => s.set address (f p)

def scheduleStep (s : ClimateDps) : ScheduleCall → Option ClimateDps
  | .reloadSchedule address forceLoad => changed s address (·.reloadSchedule forceLoad)
  | .setSchedule address profiles => changed s address (·.setSchedule profiles)
  | .setScheduleProfile address profile weekdays => changed s address (·.setScheduleProfile profile weekdays)
  | .setScheduleWeekday address profile weekday data => changed s address (·.setScheduleWeekday profile weekday data)
  | .copySchedule address target => copied s address target copies.schedule
  | .copyScheduleProfile address sourceProfile targetProfile target =>
    copied s address (target.getD address) (copies.profile (profileIndex sourceProfile) (profileIndex targetProfile))

def ClimateDp.Coherent (p : ClimateDp) : Prop := ∀ cached ∈ p.schedule, cached = p.held

-- Every loaded schedule is the daemon's, and a weekday edit changes that weekday and nothing else.
structure SchedulesCoherent (s : ClimateDps) : Prop where
  cached : ∀ address p, s.get? address = some p → p.Coherent
  edits : ∀ address p, s.get? address = some p → ∀ profile weekday data,
    p.held.WeekdayOnly (p.setScheduleWeekday profile weekday data).held profile weekday

def CopyUnseen (s : ClimateDps) (source target : String)
    (made : ScheduleDoc ClimateProfile → ScheduleDoc ClimateProfile → ScheduleDoc ClimateProfile) : Prop :=
  ∀ p ∈ s.get? source, ∀ q ∈ s.get? target, q.schedule = none ∨ made p.held q.held = q.held

def CopiesUnseen (s : ClimateDps) : ScheduleCall → Prop
  | .copySchedule address target => CopyUnseen s address target copies.schedule
  | .copyScheduleProfile address sourceProfile targetProfile target =>
    CopyUnseen s address (target.getD address) (copies.profile (profileIndex sourceProfile) (profileIndex targetProfile))
  | _ => True

instance (s : ClimateDps) (source target : String)
    (made : ScheduleDoc ClimateProfile → ScheduleDoc ClimateProfile → ScheduleDoc ClimateProfile) :
    Decidable (CopyUnseen s source target made) := by unfold CopyUnseen; infer_instance
instance (s : ClimateDps) (call : ScheduleCall) : Decidable (CopiesUnseen copies s call) := by
  cases call <;> unfold CopiesUnseen <;> infer_instance
instance (p : ClimateDp) : Decidable p.Coherent := by unfold ClimateDp.Coherent; infer_instance

end Calls

section Coherence
variable {s : ClimateDps}

theorem coherent_iff : SchedulesCoherent s ↔ ∀ address p, s.get? address = some p → p.Coherent := by
  refine ⟨fun coherent => coherent.cached,fun cached => ⟨cached,fun address p found profile weekday data => ?_⟩⟩
  have same : p.loaded = p.held := by
    unfold ClimateDp.loaded
    cases loaded : p.schedule with
    | none => rfl
    | some c => exact cached address p found c loaded
  change p.held.WeekdayOnly (p.loaded.setWeekday profile weekday data) profile weekday
  rw [same]
  exact p.held.set_weekday_only profile weekday data

instance (s : ClimateDps) : Decidable (SchedulesCoherent s) :=
  decidable_of_iff (∀ e ∈ s.entries, e.2.Coherent) (by
    rw [coherent_iff]
    exact ⟨fun all address p found => all (address,p) (Dict.mem_entries.mpr found),
      fun all e member => all e.1 e.2 (Dict.mem_entries.mp member)⟩)

theorem put_coherent (p : ClimateDp) (edited : ScheduleDoc ClimateProfile) : (p.putProfiles edited).Coherent := by
  intro cached found
  exact (Option.some.inj found).symm

theorem reload_coherent (forceLoad : Bool) {p : ClimateDp} (coherent : p.Coherent) : (p.reloadSchedule forceLoad).Coherent := by
  intro cached found
  cases forceLoad with
  | true => exact (Option.some.inj found).symm
  | false =>
    obtain rfl : p.loaded = cached := Option.some.inj found
    change p.loaded = p.held
    unfold ClimateDp.loaded
    cases loaded : p.schedule with
    | none => rfl
    | some c => exact coherent c loaded

theorem set_coherent_iff (coherent : SchedulesCoherent s) (address : String) (p : ClimateDp) :
    SchedulesCoherent (s.set address p) ↔ p.Coherent := by
  rw [coherent_iff]
  constructor
  · exact fun all => all address p (Dict.get?_set_self s address p)
  · intro own other q found
    rw [Dict.get?_set] at found
    split at found
    · exact Option.some.inj found ▸ own
    · exact coherent.cached other q found

theorem changed_coherent {f : ClimateDp → ClimateDp} (coherent : SchedulesCoherent s)
    (kept : ∀ p, p.Coherent → (f p).Coherent) (moved : changed s address f = some t) : SchedulesCoherent t := by
  obtain ⟨p,found,rfl⟩ := Option.map_eq_some_iff.mp moved
  exact (set_coherent_iff coherent address (f p)).mpr (kept p (coherent.cached address p found))

theorem copied_coherent_iff {made : ScheduleDoc ClimateProfile → ScheduleDoc ClimateProfile → ScheduleDoc ClimateProfile}
    (coherent : SchedulesCoherent s) (moved : copied s source target made = some t) :
    SchedulesCoherent t ↔ CopyUnseen s source target made := by
  unfold copied at moved
  split at moved
  · rename_i p q from_there there
    obtain rfl := Option.some.inj moved
    have before := coherent.cached target q there
    rw [set_coherent_iff coherent target]
    unfold CopyUnseen ClimateDp.Coherent
    simp only [from_there,there,Option.mem_def,Option.some.injEq,forall_eq']
    cases loaded : q.schedule with
    | none => simp
    | some cached =>
      have held : cached = q.held := before cached loaded
      simp only [Option.some.injEq,forall_eq',held]
      exact ⟨fun same => .inr same.symm,fun unseen => (unseen.resolve_left (Option.some_ne_none _)).symm⟩
  · cases moved

theorem schedule_step_coherent_iff (copies : DaemonCopies) (coherent : SchedulesCoherent s) (call : ScheduleCall)
    (moved : scheduleStep copies s call = some t) : SchedulesCoherent t ↔ CopiesUnseen copies s call := by
  cases call with
  | reloadSchedule address forceLoad =>
    exact iff_of_true (changed_coherent coherent (fun _ => reload_coherent forceLoad) moved) trivial
  | setSchedule address profiles => exact iff_of_true (changed_coherent coherent (fun p _ => put_coherent p _) moved) trivial
  | setScheduleProfile address profile weekdays =>
    exact iff_of_true (changed_coherent coherent (fun p _ => put_coherent p _) moved) trivial
  | setScheduleWeekday address profile weekday data =>
    exact iff_of_true (changed_coherent coherent (fun p _ => put_coherent p _) moved) trivial
  | copySchedule address target => exact copied_coherent_iff coherent moved
  | copyScheduleProfile address sourceProfile targetProfile target => exact copied_coherent_iff coherent moved

end Coherence

theorem schedules_coherent_iff_copies_unseen (copies : DaemonCopies) (s : ClimateDps) (coherent : SchedulesCoherent s)
    (calls : List ScheduleCall) : Always (scheduleStep copies) SchedulesCoherent s calls ↔
      Every (scheduleStep copies) (fun s call _ => CopiesUnseen copies s call) s calls :=
  always_iff_every coherent fun _ call _ held moved => schedule_step_coherent_iff copies held call moved

def heated (base : ℚ) : ClimateProfile := ⟨.ofList [("MONDAY",⟨base,[]⟩),("TUESDAY",⟨base,[]⟩)]⟩
def heatedDoc (base : ℚ) : ScheduleDoc ClimateProfile :=
  ⟨⟨"A:1",1,"A"⟩,"climate",none,some "P1",some 0,some (.ofList [("P1",heated base)]),none,none⟩

def profileCopies : DaemonCopies where
  schedule source target := {target with profiles := source.profiles}
  profile i j source target := match source.profileOf ("P" ++ toString i) with
    | some copied => target.setProfile ("P" ++ toString j) copied.weekdays
    | none => target

theorem unloaded_target_coherent :
    Always (scheduleStep profileCopies) SchedulesCoherent
      (.ofList [("A",⟨1,heatedDoc 18,some (heatedDoc 18)⟩),("B",⟨1,heatedDoc 17,none⟩)])
      [.copySchedule "A" "B",.setScheduleWeekday "B" "P1" "MONDAY" ⟨20,[]⟩] :=
  (schedules_coherent_iff_copies_unseen profileCopies _ (by decide +kernel) _).mpr (by decide +kernel)

-- A loaded target keeps its cache: the next edit of one day takes the copy back.
theorem edit_reverts_copy :
    let s : ClimateDps := .ofList [("A",⟨1,heatedDoc 18,some (heatedDoc 18)⟩),("B",⟨1,heatedDoc 17,some (heatedDoc 17)⟩)]
    let tuesday (calls : List ScheduleCall) : Option (Option ClimateWeekday) :=
      ((run (scheduleStep profileCopies) s calls).bind fun t => t.get? "B").map (·.held.weekdayOf "P1" "TUESDAY")
    SchedulesCoherent s ∧ ¬ Always (scheduleStep profileCopies) SchedulesCoherent s [.copySchedule "A" "B"] ∧
      tuesday [.copySchedule "A" "B"] = some (some ⟨18,[]⟩) ∧
      tuesday [.copySchedule "A" "B",.setScheduleWeekday "B" "P1" "MONDAY" ⟨20,[]⟩] = some (some ⟨17,[]⟩) := by
  decide +kernel

end LoomClient.Compat
