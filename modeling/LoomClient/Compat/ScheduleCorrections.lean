import LoomClient.Compat.ScheduleDocument
import LoomClient.Lib.Fold
import Mathlib.Data.List.Induction
import Mathlib.Logic.Function.Basic

namespace LoomClient.Compat
open Lib
variable {α β γ ρ ε : Type}

-- The model does not check an assignment, so the temperature can come to hold a text.
structure PeriodObject where
  startTime : String
  endTime : String
  temperature : ℚ ⊕ String
  deriving DecidableEq

-- Nothing assigns to the containers. `α` is a period object, or what one holds.
structure WeekdayOf (α : Type) where
  baseTemperature : ℚ
  periods : List α
  deriving DecidableEq

structure ProfileOf (α : Type) where
  weekdays : Dict String (WeekdayOf α)
  deriving DecidableEq

def mapPeriods (f : String → String → Nat → α → β) (profiles : Dict String (ProfileOf α)) : Dict String (ProfileOf β) :=
  profiles.mapWithKey fun profile p => ⟨p.weekdays.mapWithKey fun weekday w =>
    ⟨w.baseTemperature,w.periods.mapIdx (f profile weekday)⟩⟩

def ScheduleDoc.mapPeriods (f : String → String → Nat → α → β) (d : ScheduleDoc (ProfileOf α)) : ScheduleDoc (ProfileOf β) :=
  d.withProfiles (d.profiles.map (Compat.mapPeriods f))

def ScheduleDoc.read (memory : ρ → α) (d : ScheduleDoc (ProfileOf ρ)) : ScheduleDoc (ProfileOf α) :=
  d.mapPeriods fun _ _ _ r => memory r

def ClimatePeriod.object (p : ClimatePeriod) : PeriodObject := ⟨p.startTime,p.endTime,.inl p.temperature⟩

-- A correction as the wire admits it: `field` is any string.
structure Correction where
  profile : String
  weekday : String
  period : Int
  field : String
  applied : String
  deriving DecidableEq, Repr

-- What assigning an attribute of a model object raises.
inductive AssignmentError where
  | noField (name : String)
  | refused (name : String)
  deriving DecidableEq, Repr

def isPrivateName (name : String) : Bool := name.toList.head? = some '_'

-- A private name goes to the object itself: `takes` tells under which of them an object takes a text.
def PeriodObject.assign (takes : String → Bool) (p : PeriodObject) (name value : String) :
    Except AssignmentError PeriodObject :=
  if name = "start_time" then .ok {p with startTime := value}
  else if name = "end_time" then .ok {p with endTime := value}
  else if name = "temperature" then .ok {p with temperature := .inr value}
  else if isPrivateName name then if takes name then .ok p else .error (.refused name)
  else .error (.noField name)

def periodAt (profiles : Dict String (ProfileOf α)) (profile weekday : String) (period : Int) : Option α :=
  (profiles.get? profile).bind fun p => (p.weekdays.get? weekday).bind fun w =>
    if 0 ≤ period then w.periods[period.toNat]? else none

def Correction.resolve (c : Correction) (profiles : Dict String (ProfileOf α)) : Option α :=
  periodAt profiles c.profile c.weekday c.period

-- A deep copy of a profile copies an object of it once, however many places hold it, and profiles are
-- copied apart.
inductive Held (ρ : Type) where
  | submitted (r : ρ)
  | copy (profile : String) (r : ρ)
  deriving DecidableEq

def Held.origin : Held ρ → ρ
  | .submitted r | .copy _ r => r

def heldMemory (memory : ρ → ClimatePeriod) (r : Held ρ) : PeriodObject := (memory r.origin).object

def copyProfiles (profiles : Dict String (ProfileOf ρ)) : Dict String (ProfileOf (Held ρ)) :=
  mapPeriods (fun profile _ _ r => .copy profile r) profiles

def ScheduleDoc.asSubmitted (d : ScheduleDoc (ProfileOf ρ)) : ScheduleDoc (ProfileOf (Held ρ)) := d.read .submitted

section Source
variable [DecidableEq ρ] (takes : String → Bool)

-- The assignments go to the memory, up to the one that raises.
def correctObjects (profiles : Dict String (ProfileOf ρ)) :
    (ρ → PeriodObject) → Bool → List Correction → (ρ → PeriodObject) × Except AssignmentError Bool
  | memory,changed,[] => (memory,.ok changed)
  | memory,changed,c :: rest => match c.resolve profiles with
    | none => correctObjects profiles memory changed rest
    | some r => match (memory r).assign takes c.field c.applied with
      | .error e => (memory,.error e)
      | .ok assigned => correctObjects profiles (Function.update memory r assigned) true rest

def ScheduleDoc.applyCorrections (memory : ρ → ClimatePeriod) (schedule : ScheduleDoc (ProfileOf ρ))
    (corrections : Option (List Correction)) :
    (Held ρ → PeriodObject) × Except AssignmentError (ScheduleDoc (ProfileOf (Held ρ))) :=
  match schedule.profiles with
  | none => (heldMemory memory,.ok schedule.asSubmitted)
  | some profiles =>
    if corrections.getD [] = [] then (heldMemory memory,.ok schedule.asSubmitted)
    else match correctObjects takes (copyProfiles profiles) (heldMemory memory) false (corrections.getD []) with
      | (after,.error e) => (after,.error e)
      | (after,.ok changed) =>
        (after,.ok (if changed then schedule.withProfiles (some (copyProfiles profiles)) else schedule.asSubmitted))

structure Written (ρ ε : Type) where
  memory : Held ρ → PeriodObject
  cached : Option (ScheduleDoc (ProfileOf (Held ρ)))
  raised : Option (ε ⊕ AssignmentError)

-- `_put_profiles`. `answer` is what the PUT comes to: its failure, or the report.
def ScheduleDoc.putProfiles (memory : ρ → ClimatePeriod) (schedule : ScheduleDoc (ProfileOf ρ))
    (profiles : Dict String (ProfileOf ρ)) (answer : Except ε (Option (List Correction)))
    (cached : Option (ScheduleDoc (ProfileOf ρ))) : Written ρ ε :=
  let newSchedule := schedule.withProfiles (some profiles)
  match answer with
  | .error e => ⟨heldMemory memory,cached.map (·.asSubmitted),some (.inl e)⟩
  | .ok corrections => match newSchedule.applyCorrections takes memory corrections with
    | (after,.error e) => ⟨after,cached.map (·.asSubmitted),some (.inr e)⟩
    | (after,.ok stored) => ⟨after,some stored,none⟩

end Source

-- The times the corrections that name its place give it, in their order.
def Correction.Names (c : Correction) (profile weekday : String) (index : Nat) : Prop :=
  c.profile = profile ∧ c.weekday = weekday ∧ c.period = index

instance (profile weekday : String) (index : Nat) : DecidablePred fun c : Correction => c.Names profile weekday index :=
  fun _ => inferInstanceAs (Decidable (_ ∧ _ ∧ _))

def Correction.time (c : Correction) (p : PeriodObject) : PeriodObject :=
  if c.field = "start_time" then {p with startTime := c.applied}
  else if c.field = "end_time" then {p with endTime := c.applied}
  else p

def amend (S : Correction → Prop) [DecidablePred S] (p : PeriodObject) (c : Correction) : PeriodObject :=
  if S c then c.time p else p

def correctTimes (corrections : List Correction) (profile weekday : String) (index : Nat) (p : PeriodObject) :
    PeriodObject :=
  corrections.foldl (amend fun c => c.Names profile weekday index) p

def ScheduleDoc.corrected (memory : ρ → ClimatePeriod) (schedule : ScheduleDoc (ProfileOf ρ))
    (corrections : List Correction) : ScheduleDoc (ProfileOf PeriodObject) :=
  schedule.mapPeriods fun profile weekday index r => correctTimes corrections profile weekday index (memory r).object

def PeriodField.name : PeriodField → String
  | .startTime => "start_time"
  | .endTime => "end_time"

def ClimatePeriod.time (p : ClimatePeriod) : PeriodField → String
  | .startTime => p.startTime
  | .endTime => p.endTime

def lastOf (S : Correction → Prop) [DecidablePred S] (corrections : List Correction) (field : PeriodField) : Option String :=
  (corrections.reverse.find? fun c => S c ∧ c.field = field.name).map (·.applied)

def timeAt (corrections : List Correction) (profile weekday : String) (index : Nat) (p : ClimatePeriod)
    (field : PeriodField) : String :=
  (lastOf (fun c => c.Names profile weekday index) corrections field).getD (p.time field)

-- The times of the last corrections, and what was submitted everywhere else.
def ReportsStored (corrections : List Correction) (submitted stored : ScheduleDoc (ProfileOf ClimatePeriod)) : Prop :=
  stored = submitted.mapPeriods fun profile weekday index p =>
    ⟨timeAt corrections profile weekday index p .startTime,timeAt corrections profile weekday index p .endTime,p.temperature⟩

def isTimeField (name : String) : Bool := name = "start_time" || name = "end_time"
def SafeField (takes : String → Bool) (name : String) : Prop := isTimeField name ∨ (isPrivateName name ∧ takes name)

-- A correction that resolves names a time, or no field at all; and two places of one profile that hold
-- one object are given the same times.
structure Applicable (takes : String → Bool) (memory : ρ → ClimatePeriod) (schedule : ScheduleDoc (ProfileOf ρ))
    (corrections : List Correction) : Prop where
  fields : ∀ profiles ∈ schedule.profiles, ∀ c ∈ corrections, (c.resolve profiles).isSome → SafeField takes c.field
  shared : ∀ profiles ∈ schedule.profiles, ∀ (profile weekday weekday' : String) (index index' : Nat),
    ∀ r ∈ periodAt profiles profile weekday index, periodAt profiles profile weekday' index' = some r →
      ∀ field, timeAt corrections profile weekday index (memory r) field =
        timeAt corrections profile weekday' index' (memory r) field

section Places
variable {profiles : Dict String (ProfileOf α)}

theorem map_periods_congr {f g : String → String → Nat → α → β}
    (same : ∀ profile weekday (index : Nat), ∀ a ∈ periodAt profiles profile weekday index,
      f profile weekday index a = g profile weekday index a) :
    mapPeriods f profiles = mapPeriods g profiles := by
  refine Dict.mapWithKey_congr fun profile p found => ?_
  refine congrArg ProfileOf.mk (Dict.mapWithKey_congr fun weekday w stored => ?_)
  refine congrArg (WeekdayOf.mk w.baseTemperature) (List.ext_getElem? fun index => ?_)
  rw [List.getElem?_mapIdx,List.getElem?_mapIdx]
  refine Option.map_congr fun a there => same profile weekday index a ?_
  simpa [periodAt,found,stored] using there

theorem map_periods_map (f : String → String → Nat → α → β) (g : String → String → Nat → β → γ) :
    mapPeriods g (mapPeriods f profiles) =
      mapPeriods (fun profile weekday index a => g profile weekday index (f profile weekday index a)) profiles := by
  unfold mapPeriods
  rw [Dict.mapWithKey_mapWithKey]
  refine Dict.mapWithKey_congr fun profile p _ => congrArg ProfileOf.mk ?_
  rw [Dict.mapWithKey_mapWithKey]
  refine Dict.mapWithKey_congr fun weekday w _ => ?_
  refine congrArg (WeekdayOf.mk w.baseTemperature) (List.ext_getElem? fun index => ?_)
  simp only [List.getElem?_mapIdx,Option.map_map]
  rfl

theorem period_at_map_periods (f : String → String → Nat → α → β) (profile weekday : String) (period : Int) :
    periodAt (mapPeriods f profiles) profile weekday period =
      (periodAt profiles profile weekday period).map (f profile weekday period.toNat) := by
  unfold periodAt mapPeriods
  rw [Dict.get?_mapWithKey]
  cases profiles.get? profile with
  | none => rfl
  | some p =>
    simp only [Option.map_some,Option.bind_some,Dict.get?_mapWithKey]
    cases p.weekdays.get? weekday with
    | none => rfl
    | some w =>
      simp only [Option.map_some,Option.bind_some,List.getElem?_mapIdx]
      split <;> rfl

theorem map_periods_iff {f g : String → String → Nat → α → β} : mapPeriods f profiles = mapPeriods g profiles ↔
    ∀ profile weekday (index : Nat), ∀ a ∈ periodAt profiles profile weekday index,
      f profile weekday index a = g profile weekday index a := by
  refine ⟨fun same profile weekday index a found => ?_,map_periods_congr⟩
  have place := congrArg (fun d => periodAt d profile weekday index) same
  simpa [period_at_map_periods,Option.mem_def.mp found] using place

theorem period_at_placed {period : Int} (found : periodAt profiles profile weekday period = some a) : 0 ≤ period := by
  by_contra negative
  simp [periodAt,negative] at found

theorem resolve_of_names {c : Correction} (names : c.Names profile weekday index) :
    c.resolve profiles = periodAt profiles profile weekday index := by
  obtain ⟨rfl,rfl,placed⟩ := names
  rw [Correction.resolve,placed]

theorem resolve_names {c : Correction} (found : c.resolve profiles = some a) :
    c.Names c.profile c.weekday c.period.toNat ∧ periodAt profiles c.profile c.weekday (c.period.toNat : Int) = some a := by
  have placed := period_at_placed found
  rw [Int.toNat_of_nonneg placed]
  exact ⟨⟨rfl,rfl,(Int.toNat_of_nonneg placed).symm⟩,found⟩

theorem copied_place {profiles : Dict String (ProfileOf ρ)} {profile' weekday : String} {period : Int} :
    periodAt (copyProfiles profiles) profile' weekday period = some x ↔
      ∃ r, x = .copy profile' r ∧ periodAt profiles profile' weekday period = some r := by
  simp only [copyProfiles,period_at_map_periods,Option.map_eq_some_iff]
  exact ⟨fun ⟨r,found,same⟩ => ⟨r,same.symm,found⟩,fun ⟨r,same,found⟩ => ⟨r,found,same.symm⟩⟩

end Places

section Times
variable {S N : Correction → Prop} [DecidablePred S] [DecidablePred N] {c : Correction}

def PeriodObject.time (p : PeriodObject) : PeriodField → String
  | .startTime => p.startTime
  | .endTime => p.endTime

theorem object_ext {p q : PeriodObject} (times : ∀ field, p.time field = q.time field)
    (temperature : p.temperature = q.temperature) : p = q := by
  obtain ⟨start,stop,degrees⟩ := p
  exact (PeriodObject.mk.injEq ..).mpr ⟨times .startTime,times .endTime,temperature⟩

theorem correction_time (c : Correction) (p : PeriodObject) (field : PeriodField) :
    (c.time p).time field = if c.field = field.name then c.applied else p.time field := by
  unfold Correction.time
  cases field with
  | startTime =>
    by_cases start : c.field = "start_time"
    · rw [if_pos start]
      exact (if_pos start).symm
    · rw [if_neg start]
      refine Eq.trans ?_ (if_neg start).symm
      split <;> rfl
  | endTime =>
    by_cases start : c.field = "start_time"
    · have apart : c.field ≠ "end_time" := by simp [start]
      rw [if_pos start]
      exact (if_neg apart).symm
    · rw [if_neg start]
      by_cases stop : c.field = "end_time"
      · rw [if_pos stop]
        exact (if_pos stop).symm
      · rw [if_neg stop]
        exact (if_neg stop).symm

theorem amended_time (corrections : List Correction) (p : PeriodObject) (field : PeriodField) :
    (corrections.foldl (amend S) p).time field = (lastOf S corrections field).getD (p.time field) := by
  induction corrections using List.reverseRecOn with
  | nil => rfl
  | append_singleton rest c ih =>
    rw [List.foldl_append,List.foldl_cons,List.foldl_nil]
    unfold lastOf amend at *
    rw [List.reverse_append,List.reverse_singleton,List.singleton_append,List.find?_cons]
    by_cases named : S c
    · rw [if_pos named,correction_time]
      by_cases same : c.field = field.name
      · simp [named,same]
      · simpa [named,same] using ih
    · rw [if_neg named]
      simpa [named] using ih

theorem amended_temperature (corrections : List Correction) (p : PeriodObject) :
    (corrections.foldl (amend S) p).temperature = p.temperature :=
  foldl_frame (amend S) PeriodObject.temperature (fun q c => by
    unfold amend Correction.time
    split
    · split
      · rfl
      · split <;> rfl
    · rfl) p corrections

theorem amended_none (corrections : List Correction) (p : PeriodObject) (none_named : ∀ c ∈ corrections, ¬ S c) :
    corrections.foldl (amend S) p = p := by
  induction corrections with
  | nil => rfl
  | cons c rest ih =>
    rw [List.foldl_cons,amend,if_neg (none_named c (.head rest))]
    exact ih fun d member => none_named d (.tail c member)

-- The union has the time that its places agree on.
theorem last_of_union (corrections : List Correction) (field : PeriodField) (submitted : String) (within : ∀ c, N c → S c)
    (agree : ∀ c, S c → ∃ (T : Correction → Prop) (_ : DecidablePred T), T c ∧ (∀ d, T d → S d) ∧
      (lastOf T corrections field).getD submitted = (lastOf N corrections field).getD submitted) :
    (lastOf S corrections field).getD submitted = (lastOf N corrections field).getD submitted := by
  cases found : corrections.reverse.find? fun c => decide (S c ∧ c.field = field.name) with
  | none =>
    have missing : corrections.reverse.find? (fun c => decide (N c ∧ c.field = field.name)) = none := by
      rw [List.find?_eq_none] at found ⊢
      intro c member
      have absent := found c member
      rw [decide_eq_true_eq] at absent ⊢
      exact fun named => absent ⟨within c named.1,named.2⟩
    simp only [lastOf,found,missing]
  | some c =>
    obtain ⟨named,before,after,order,earlier⟩ := List.find?_eq_some_iff_append.mp found
    rw [decide_eq_true_eq] at named
    obtain ⟨T,_,own,inside,same⟩ := agree c named.1
    have again : corrections.reverse.find? (fun c => decide (T c ∧ c.field = field.name)) = some c := by
      refine List.find?_eq_some_iff_append.mpr ⟨decide_eq_true ⟨own,named.2⟩,before,after,order,fun d member => ?_⟩
      have absent := earlier d member
      rw [Bool.not_eq_true',decide_eq_false_iff_not] at absent ⊢
      exact fun there => absent ⟨inside d there.1,there.2⟩
    rw [←same]
    simp only [lastOf,found,again]

end Times

-- What one assignment does, by its name.
section Assignment
variable {takes : String → Bool} {c : Correction}

theorem assign_harmless (p : PeriodObject) (harmless : SafeField takes c.field) :
    p.assign takes c.field c.applied = .ok (c.time p) := by
  unfold PeriodObject.assign Correction.time
  by_cases start : c.field = "start_time"
  · rw [if_pos start,if_pos start]
  · by_cases stop : c.field = "end_time"
    · rw [if_neg start,if_neg start,if_pos stop,if_pos stop]
    · rcases harmless with time | ⟨hidden,taken⟩
      · simp [isTimeField,start,stop] at time
      · have other : c.field ≠ "temperature" := fun same => absurd (same ▸ hidden) (by decide)
        rw [if_neg start,if_neg start,if_neg stop,if_neg stop,if_neg other,if_pos hidden,if_pos taken]

theorem assign_harmful (p : PeriodObject) (harmful : ¬ SafeField takes c.field)
    (assigned : p.assign takes c.field c.applied = .ok q) :
    q.temperature = .inr c.applied := by
  unfold PeriodObject.assign at assigned
  have start : c.field ≠ "start_time" := fun same => harmful (.inl (by rw [same]; rfl))
  have stop : c.field ≠ "end_time" := fun same => harmful (.inl (by rw [same]; rfl))
  rw [if_neg start,if_neg stop] at assigned
  split at assigned
  · cases assigned
    rfl
  · split at assigned
    · rename_i hidden
      split at assigned
      · rename_i taken
        exact absurd (.inr ⟨hidden,taken⟩) harmful
      · cases assigned
    · cases assigned

theorem assign_text {p q : PeriodObject} (text : ∃ s, p.temperature = .inr s)
    (assigned : p.assign takes name value = .ok q) :
    ∃ s, q.temperature = .inr s := by
  unfold PeriodObject.assign at assigned
  split at assigned
  · cases assigned
    exact text
  · split at assigned
    · cases assigned
      exact text
    · split at assigned
      · cases assigned
        exact ⟨value,rfl⟩
      · split at assigned
        · split at assigned
          · cases assigned
            exact text
          · cases assigned
        · cases assigned

end Assignment

section Loop
variable [DecidableEq ρ] {takes : String → Bool} {profiles : Dict String (ProfileOf ρ)}

theorem correct_harmless (corrections : List Correction) (memory : ρ → PeriodObject) (changed : Bool)
    (harmless : ∀ c ∈ corrections, (c.resolve profiles).isSome → SafeField takes c.field) :
    correctObjects takes profiles memory changed corrections =
      (fun r => corrections.foldl (amend fun c => c.resolve profiles = some r) (memory r),
        .ok (changed || corrections.any fun c => (c.resolve profiles).isSome)) := by
  induction corrections generalizing memory changed with
  | nil => simp [correctObjects]
  | cons c rest ih =>
    have later := fun memory changed => ih memory changed fun d member => harmless d (.tail c member)
    unfold correctObjects
    cases found : c.resolve profiles with
    | none => simp [later,amend,found]
    | some q =>
      have safe : SafeField takes c.field := harmless c (.head rest) (by rw [found]; rfl)
      simp only [assign_harmless _ safe,later,List.foldl_cons,List.any_cons,found,Option.isSome_some,Bool.true_or,
        Bool.or_true]
      refine congrArg (·,_) (funext fun r => congrArg (rest.foldl _) ?_)
      unfold amend
      by_cases same : r = q
      · rw [same,Function.update_self,if_pos found]
      · rw [Function.update_of_ne same,if_neg fun there => same (Option.some.inj (there.symm.trans found))]

theorem correct_elsewhere (corrections : List Correction) (memory : ρ → PeriodObject) (changed : Bool) (r : ρ)
    (nowhere : ∀ c ∈ corrections, c.resolve profiles ≠ some r) :
    (correctObjects takes profiles memory changed corrections).1 r = memory r := by
  induction corrections generalizing memory changed with
  | nil => rfl
  | cons c rest ih =>
    have later := fun memory changed => ih memory changed fun d member => nowhere d (.tail c member)
    unfold correctObjects
    split
    · exact later memory changed
    · rename_i q found
      have apart : r ≠ q := fun same => nowhere c (.head rest) (same ▸ found)
      split
      · rfl
      · rw [later,Function.update_of_ne apart]

theorem correct_text (corrections : List Correction) (memory : ρ → PeriodObject) (changed : Bool)
    (text : ∃ s, (memory r).temperature = .inr s) :
    ∃ s, ((correctObjects takes profiles memory changed corrections).1 r).temperature = .inr s := by
  induction corrections generalizing memory changed with
  | nil => exact text
  | cons c rest ih =>
    unfold correctObjects
    split
    · exact ih memory changed text
    · rename_i q found
      split
      · exact text
      · rename_i assigned stored
        refine ih _ true ?_
        by_cases same : r = q
        · subst same
          rw [Function.update_self]
          exact assign_text text stored
        · rwa [Function.update_of_ne same]

theorem correct_changed (corrections : List Correction) (memory : ρ → PeriodObject)
    (corrected : correctObjects takes profiles memory true corrections = (after,.ok ended)) : ended = true := by
  induction corrections generalizing memory with
  | nil =>
    cases corrected
    rfl
  | cons c rest ih =>
    unfold correctObjects at corrected
    split at corrected
    · exact ih memory corrected
    · split at corrected
      · cases corrected
      · exact ih _ corrected

theorem correct_harmful (corrections : List Correction) (memory : ρ → PeriodObject) (changed : Bool)
    (harmful : ∃ c ∈ corrections, (c.resolve profiles).isSome ∧ ¬ SafeField takes c.field)
    (corrected : correctObjects takes profiles memory changed corrections = (after,.ok ended)) :
    ended = true ∧ ∃ c : Correction, ∃ r ∈ c.resolve profiles, ∃ s, (after r).temperature = .inr s := by
  induction corrections generalizing memory changed with
  | nil =>
    obtain ⟨_,member,_⟩ := harmful
    cases member
  | cons c rest ih =>
    obtain ⟨d,member,resolves,spoils⟩ := harmful
    unfold correctObjects at corrected
    split at corrected
    · rename_i missing
      rcases List.mem_cons.mp member with rfl | inside
      · rw [missing] at resolves
        cases resolves
      · exact ih memory changed ⟨d,inside,resolves,spoils⟩ corrected
    · rename_i q found
      split at corrected
      · cases corrected
      · rename_i assigned stored
        by_cases safe : SafeField takes c.field
        · rcases List.mem_cons.mp member with rfl | inside
          · exact absurd safe spoils
          · exact ih _ true ⟨d,inside,resolves,spoils⟩ corrected
        · refine ⟨correct_changed rest _ corrected,c,q,found,?_⟩
          have spoiled : ((Function.update memory q assigned) q).temperature = .inr c.applied := by
            rw [Function.update_self]
            exact assign_harmful _ safe stored
          have text : ∃ s, ((correctObjects takes profiles (Function.update memory q assigned) true rest).1 q).temperature =
              .inr s := correct_text rest _ true ⟨c.applied,spoiled⟩
          rwa [corrected] at text

end Loop

theorem doc_iff {d : ScheduleDoc (ProfileOf α)} {f g : String → String → Nat → α → β} : d.mapPeriods f = d.mapPeriods g ↔
    ∀ profiles ∈ d.profiles, ∀ profile weekday (index : Nat), ∀ a ∈ periodAt profiles profile weekday index,
      f profile weekday index a = g profile weekday index a := by
  unfold ScheduleDoc.mapPeriods ScheduleDoc.withProfiles
  cases d.profiles with
  | none => simp
  | some profiles =>
    simp only [Option.map_some,ScheduleDoc.mk.injEq,Option.some.injEq,true_and,and_true,Option.mem_def,forall_eq']
    exact map_periods_iff

def shownDoc (outcome : (Held ρ → PeriodObject) × Except AssignmentError (ScheduleDoc (ProfileOf (Held ρ)))) :
    Except AssignmentError (ScheduleDoc (ProfileOf PeriodObject)) :=
  outcome.2.map fun schedule => schedule.read outcome.1

theorem read_submitted (memory : ρ → ClimatePeriod) (schedule : ScheduleDoc (ProfileOf ρ)) (after : Held ρ → PeriodObject)
    (untouched : ∀ r, after (.submitted r) = (memory r).object) :
    schedule.asSubmitted.read after = schedule.mapPeriods fun _ _ _ r => (memory r).object := by
  unfold ScheduleDoc.asSubmitted ScheduleDoc.read ScheduleDoc.mapPeriods ScheduleDoc.withProfiles
  simp only [Option.map_map]
  refine congrArg (ScheduleDoc.mk _ _ _ _ _ · _ _) (Option.map_congr fun profiles _ => ?_)
  simp only [Function.comp_apply,map_periods_map,untouched]

theorem read_copies (schedule : ScheduleDoc (ProfileOf ρ)) (submitted : schedule.profiles = some profiles)
    (after : Held ρ → PeriodObject) : (schedule.withProfiles (some (copyProfiles profiles))).read after =
      schedule.mapPeriods fun profile _ _ r => after (.copy profile r) := by
  unfold ScheduleDoc.read ScheduleDoc.mapPeriods copyProfiles
  simp only [submitted,ScheduleDoc.withProfiles,Option.map_some,map_periods_map]

theorem copy_resolves (profiles : Dict String (ProfileOf ρ)) (c : Correction) :
    (c.resolve (copyProfiles profiles)).isSome = (c.resolve profiles).isSome := by
  unfold Correction.resolve copyProfiles
  rw [period_at_map_periods,Option.isSome_map]

section Applied
variable [DecidableEq ρ] {takes : String → Bool} {memory : ρ → ClimatePeriod} {schedule : ScheduleDoc (ProfileOf ρ)}
  {profiles : Dict String (ProfileOf ρ)} {r : ρ}

def correctCopy (profiles : Dict String (ProfileOf ρ)) (corrections : List Correction) (profile : String) (r : ρ)
    (p : PeriodObject) : PeriodObject :=
  corrections.foldl (amend fun c => c.resolve (copyProfiles profiles) = some (Held.copy profile r)) p

theorem applied_untouched (corrections : Option (List Correction)) (r : ρ) :
    (schedule.applyCorrections takes memory corrections).1 (.submitted r) = (memory r).object := by
  unfold ScheduleDoc.applyCorrections
  split
  · rfl
  · rename_i profiles submitted
    split
    · rfl
    · have kept : (correctObjects takes (copyProfiles profiles) (heldMemory memory) false (corrections.getD [])).1
          (.submitted r) = (memory r).object := by
        refine correct_elsewhere _ _ _ _ fun c _ found => ?_
        obtain ⟨_,same,_⟩ := copied_place.mp found
        cases same
      split <;> (rename_i corrected; rw [corrected] at kept; exact kept)

theorem applied_harmless (corrections : Option (List Correction)) (submitted : schedule.profiles = some profiles)
    (harmless : ∀ c ∈ corrections.getD [], (c.resolve profiles).isSome → SafeField takes c.field) :
    shownDoc (schedule.applyCorrections takes memory corrections) = .ok (schedule.mapPeriods fun profile _ _ r =>
      correctCopy profiles (corrections.getD []) profile r (memory r).object) := by
  have untouched : ∀ r, (schedule.applyCorrections takes memory corrections).1 (.submitted r) = (memory r).object :=
    applied_untouched corrections
  have safe : ∀ c ∈ corrections.getD [], (c.resolve (copyProfiles profiles)).isSome → SafeField takes c.field :=
    fun c member resolves => harmless c member (by rwa [copy_resolves] at resolves)
  unfold ScheduleDoc.applyCorrections at untouched ⊢
  rw [submitted] at untouched ⊢
  dsimp only at untouched ⊢
  by_cases empty : corrections.getD [] = []
  · rw [if_pos empty,empty]
    exact congrArg Except.ok (read_submitted memory schedule _ fun _ => rfl)
  · rw [if_neg empty,correct_harmless _ _ _ safe] at untouched ⊢
    simp only [Bool.false_or] at untouched ⊢
    refine congrArg Except.ok ?_
    dsimp only
    split
    · exact read_copies schedule submitted _
    · rename_i unresolved
      rw [Bool.not_eq_true,List.any_eq_false] at unresolved
      refine (read_submitted memory schedule _ untouched).trans (doc_iff.mpr ?_)
      intro copied found profile _ _ r _
      refine (amended_none _ _ fun c member there => ?_).symm
      exact unresolved c member (by rw [there]; rfl)

theorem harmless_of_applied (corrections : Option (List Correction)) (submitted : schedule.profiles = some profiles)
    (applied : shownDoc (schedule.applyCorrections takes memory corrections) =
      .ok (schedule.corrected memory (corrections.getD [])))
    (c : Correction) (member : c ∈ corrections.getD []) (resolves : (c.resolve profiles).isSome) :
    SafeField takes c.field := by
  by_contra harmful
  have spoils : ∃ c ∈ corrections.getD [], (c.resolve (copyProfiles profiles)).isSome ∧ ¬ SafeField takes c.field :=
    ⟨c,member,by rwa [copy_resolves],harmful⟩
  unfold ScheduleDoc.applyCorrections at applied
  rw [submitted] at applied
  dsimp only at applied
  split at applied
  · rename_i empty
    rw [empty] at member
    cases member
  · split at applied
    · cases applied
    · rename_i after ended corrected
      obtain ⟨rfl,d,x,there,s,text⟩ := correct_harmful _ _ _ spoils corrected
      obtain ⟨r,rfl,found⟩ := copied_place.mp there
      obtain ⟨_,place⟩ := resolve_names (c := d) found
      have read := Except.ok.inj applied
      dsimp only at read
      rw [if_pos rfl,read_copies schedule submitted] at read
      have same := doc_iff.mp read profiles submitted d.profile d.weekday d.period.toNat r place
      have number : (after (.copy d.profile r)).temperature = .inl (memory r).temperature := by
        rw [same]
        exact amended_temperature _ _
      rw [number] at text
      cases text

theorem object_time (p : ClimatePeriod) (field : PeriodField) : p.object.time field = p.time field := by cases field <;> rfl

theorem corrected_time (corrections : List Correction) (profile weekday : String) (index : Nat) (p : ClimatePeriod)
    (field : PeriodField) :
    (correctTimes corrections profile weekday index p.object).time field =
      timeAt corrections profile weekday index p field := by
  unfold correctTimes timeAt
  rw [amended_time,object_time]

theorem copy_time (corrections : List Correction) (found : periodAt profiles profile weekday (index : Nat) = some r)
    (p : ClimatePeriod) (field : PeriodField)
    (agree : ∀ weekday' (index' : Nat), periodAt profiles profile weekday' index' = some r →
      timeAt corrections profile weekday' index' p field = timeAt corrections profile weekday index p field) :
    (correctCopy profiles corrections profile r p.object).time field = timeAt corrections profile weekday index p field := by
  have reaches : ∀ weekday' (index' : Nat), periodAt profiles profile weekday' index' = some r → ∀ c : Correction,
      c.Names profile weekday' index' → c.resolve (copyProfiles profiles) = some (.copy profile r) := by
    intro weekday' index' there c names
    rw [resolve_of_names names]
    exact copied_place.mpr ⟨r,rfl,there⟩
  unfold correctCopy
  rw [amended_time,object_time]
  refine last_of_union corrections field _ (reaches weekday index found) fun c reached => ?_
  obtain ⟨names,place⟩ := resolve_names reached
  obtain ⟨r',same,there⟩ := copied_place.mp place
  obtain ⟨rfl,rfl⟩ := Held.copy.inj same
  exact ⟨_,_,names,reaches _ _ there,agree _ _ there⟩

theorem applied_iff (corrections : Option (List Correction)) :
    shownDoc (schedule.applyCorrections takes memory corrections) = .ok (schedule.corrected memory (corrections.getD [])) ↔
      Applicable takes memory schedule (corrections.getD []) := by
  cases submitted : schedule.profiles with
  | none =>
    refine iff_of_true ?_ ⟨fun _ found => by simp [submitted] at found,fun _ found => by simp [submitted] at found⟩
    simp [ScheduleDoc.applyCorrections,submitted,shownDoc,ScheduleDoc.asSubmitted,ScheduleDoc.read,ScheduleDoc.mapPeriods,
      ScheduleDoc.withProfiles,ScheduleDoc.corrected,Except.map]
  | some profiles =>
    constructor
    · intro applied
      have harmless := harmless_of_applied corrections submitted applied
      rw [applied_harmless corrections submitted harmless] at applied
      have places := doc_iff.mp (Except.ok.inj applied) profiles submitted
      constructor
      · intro held found
        obtain rfl := Option.some.inj (submitted.symm.trans found)
        exact harmless
      · intro held found profile weekday weekday' index index' r there again field
        obtain rfl := Option.some.inj (submitted.symm.trans found)
        rw [←corrected_time,←corrected_time,←places profile weekday index r there,←places profile weekday' index' r again]
    · intro applicable
      rw [applied_harmless corrections submitted (applicable.fields profiles submitted)]
      refine congrArg Except.ok (doc_iff.mpr ?_)
      intro held found profile weekday index r there
      obtain rfl := Option.some.inj (submitted.symm.trans found)
      refine object_ext (fun field => ?_) ((amended_temperature _ _).trans (amended_temperature _ _).symm)
      rw [corrected_time]
      exact copy_time _ there (memory r) field fun weekday' index' again =>
        applicable.shared profiles submitted profile weekday' weekday index' index r again there field

end Applied

theorem doc_map_map (d : ScheduleDoc (ProfileOf α)) (f : String → String → Nat → α → β) (g : String → String → Nat → β → γ) :
    (d.mapPeriods f).mapPeriods g =
      d.mapPeriods fun profile weekday index a => g profile weekday index (f profile weekday index a) := by
  unfold ScheduleDoc.mapPeriods ScheduleDoc.withProfiles
  simp only [Option.map_map]
  refine congrArg (ScheduleDoc.mk _ _ _ _ _ · _ _) (Option.map_congr fun profiles _ => ?_)
  exact map_periods_map f g

-- On a document as it was parsed every place has an object of its own.
section Declared

def ScheduleTimeCorrection.reported (c : ScheduleTimeCorrection) : Correction :=
  ⟨c.profile,c.weekday,c.period,c.field.name,c.applied⟩

def ClimateProfile.values (p : ClimateProfile) : ProfileOf ClimatePeriod :=
  ⟨p.weekdays.mapWithKey fun _ w => ⟨w.baseTemperature,w.periods⟩⟩

def profileValues (profiles : Dict String ClimateProfile) : Dict String (ProfileOf ClimatePeriod) :=
  profiles.mapWithKey fun _ p => p.values

def ScheduleDoc.values (d : ScheduleDoc ClimateProfile) : ScheduleDoc (ProfileOf ClimatePeriod) :=
  d.withProfiles (d.profiles.map profileValues)

def ScheduleDoc.parsed (d : ScheduleDoc ClimateProfile) : ScheduleDoc (ProfileOf (String × String × Nat × ClimatePeriod)) :=
  d.values.mapPeriods fun profile weekday index p => (profile,weekday,index,p)

def parsedMemory (r : String × String × Nat × ClimatePeriod) : ClimatePeriod := r.2.2.2

theorem reported_time (c : ScheduleTimeCorrection) (p : ClimatePeriod) :
    c.reported.time p.object = (p.correct c.field c.applied).object := by
  cases field : c.field <;>
    simp [Correction.time,ScheduleTimeCorrection.reported,PeriodField.name,field,ClimatePeriod.correct,ClimatePeriod.object]

theorem parsed_applicable (takes : String → Bool) (schedule : ScheduleDoc ClimateProfile) (corrections : List Correction)
    (times : ∀ c ∈ corrections, SafeField takes c.field) : Applicable takes parsedMemory schedule.parsed corrections := by
  refine ⟨fun _ _ c member _ => times c member,?_⟩
  intro profiles found profile weekday weekday' index index' r there again field
  obtain ⟨values,-,rfl⟩ := Option.map_eq_some_iff.mp found
  simp only [Option.mem_def,period_at_map_periods,Option.map_eq_some_iff,Int.toNat_natCast] at there again
  obtain ⟨_,-,rfl⟩ := there
  obtain ⟨_,-,same⟩ := again
  obtain ⟨-,rfl,rfl,-⟩ := by simpa only [Prod.mk.injEq] using same
  rfl

def correctPlace (c : ScheduleTimeCorrection) (profile weekday : String) (index : Nat) (p : ClimatePeriod) : ClimatePeriod :=
  if c.reported.Names profile weekday index then p.correct c.field c.applied else p

theorem weekday_corrected (c : ScheduleTimeCorrection) (w : ClimateWeekday) :
    (if 0 ≤ c.period then {w with periods := w.periods.modify c.period.toNat fun p => p.correct c.field c.applied}
      else w).periods = w.periods.mapIdx (correctPlace c c.profile c.weekday) := by
  have names : ∀ index : Nat, c.reported.Names c.profile c.weekday index ↔ c.period = index := fun index =>
    ⟨fun named => named.2.2,fun same => ⟨rfl,rfl,same⟩⟩
  refine List.ext_getElem? fun index => ?_
  rw [List.getElem?_mapIdx]
  unfold correctPlace
  simp only [names]
  by_cases placed : 0 ≤ c.period
  · have here : c.period = index ↔ c.period.toNat = index := by omega
    rw [if_pos placed,List.getElem?_modify]
    simp only [here]
    split <;> simp
  · have apart : ¬ c.period = index := by omega
    rw [if_neg placed]
    simp only [if_neg apart,Option.map_id']

theorem corrected_values (profiles : Dict String ClimateProfile) (c : ScheduleTimeCorrection) :
    profileValues (correctProfiles profiles c) = mapPeriods (correctPlace c) (profileValues profiles) := by
  have unnamed : ∀ profile weekday, ¬ (c.profile = profile ∧ c.weekday = weekday) → ∀ w : ClimateWeekday,
      w.periods.mapIdx (correctPlace c profile weekday) = w.periods := by
    intro profile weekday apart w
    refine List.ext_getElem? fun index => ?_
    rw [List.getElem?_mapIdx]
    have left : correctPlace c profile weekday index = id := funext fun p => if_neg fun named => apart ⟨named.1,named.2.1⟩
    rw [left,Option.map_id_fun,id_eq]
  unfold profileValues correctProfiles mapPeriods Dict.modify
  simp only [Dict.mapWithKey_mapWithKey]
  refine Dict.mapWithKey_congr fun profile p _ => ?_
  by_cases same : profile = c.profile
  · rw [if_pos same,same]
    unfold ClimateProfile.values
    simp only [Dict.mapWithKey_mapWithKey]
    refine congrArg ProfileOf.mk (Dict.mapWithKey_congr fun weekday w _ => ?_)
    by_cases day : weekday = c.weekday
    · rw [if_pos day,day,←weekday_corrected]
      split <;> rfl
    · rw [if_neg day,unnamed c.profile weekday fun both => day both.2.symm]
  · rw [if_neg same]
    unfold ClimateProfile.values
    simp only [Dict.mapWithKey_mapWithKey]
    refine congrArg ProfileOf.mk (Dict.mapWithKey_congr fun weekday w _ => ?_)
    rw [unnamed profile weekday fun both => same both.1.symm]

theorem folded_values (corrections : List ScheduleTimeCorrection) (profiles : Dict String ClimateProfile) :
    mapPeriods (fun _ _ _ p => p.object) (profileValues (corrections.foldl correctProfiles profiles)) =
      mapPeriods (fun profile weekday index p => correctTimes (corrections.map (·.reported)) profile weekday index p.object)
        (profileValues profiles) := by
  induction corrections generalizing profiles with
  | nil => rfl
  | cons c rest ih =>
    rw [List.foldl_cons,ih,corrected_values,map_periods_map]
    refine map_periods_congr fun profile weekday index p _ => ?_
    rw [List.map_cons]
    unfold correctTimes correctPlace
    rw [List.foldl_cons]
    refine congrArg (List.foldl _ · _) ?_
    unfold amend
    split
    · exact (reported_time c p).symm
    · rfl

theorem declared_applied (takes : String → Bool) (schedule : ScheduleDoc ClimateProfile)
    (corrections : List ScheduleTimeCorrection) :
    shownDoc (schedule.parsed.applyCorrections takes parsedMemory (some (corrections.map (·.reported)))) =
      .ok ((schedule.withProfiles
        (Compat.applyCorrections schedule.counted corrections).profiles).values.read (·.object)) := by
  refine (applied_iff _).mpr (parsed_applicable takes schedule _ fun c member => ?_) |>.trans ?_
  · obtain ⟨d,_,rfl⟩ := List.mem_map.mp member
    left
    cases field : d.field <;> simp [ScheduleTimeCorrection.reported,PeriodField.name,field,isTimeField]
  · refine congrArg Except.ok ((doc_map_map _ _ _).trans ?_)
    unfold ScheduleDoc.read ScheduleDoc.mapPeriods ScheduleDoc.values Compat.applyCorrections ScheduleDoc.counted
    simp only [ScheduleDoc.withProfiles,Option.map_map]
    refine congrArg (ScheduleDoc.mk _ _ _ _ _ · _ _) (Option.map_congr fun profiles _ => ?_)
    exact (folded_values corrections profiles).symm

end Declared

-- A write leaves in the cache what the device holds.
def Keeps (w : Written ρ ε) (stored : ScheduleDoc (ProfileOf ClimatePeriod)) : Prop :=
  w.raised.isNone ∧ w.cached.map (·.read w.memory) = some (stored.read (·.object))

theorem reports_corrected {memory : ρ → ClimatePeriod} {schedule : ScheduleDoc (ProfileOf ρ)}
    (reports : ReportsStored corrections (schedule.read memory) stored) :
    schedule.corrected memory corrections = stored.read (·.object) := by
  unfold ReportsStored ScheduleDoc.read at *
  rw [reports,doc_map_map,doc_map_map]
  refine doc_iff.mpr fun _ _ profile weekday index r _ => object_ext (fun field => ?_) (amended_temperature _ _)
  rw [corrected_time]
  cases field <;> rfl

theorem put_keeps [DecidableEq ρ] {takes : String → Bool} {memory : ρ → ClimatePeriod}
    {schedule : ScheduleDoc (ProfileOf ρ)} {profiles : Dict String (ProfileOf ρ)} {corrections : Option (List Correction)}
    {cached : Option (ScheduleDoc (ProfileOf ρ))} :
    Keeps (schedule.putProfiles takes memory profiles (.ok corrections : Except ε _) cached) stored ↔
      shownDoc ((schedule.withProfiles (some profiles)).applyCorrections takes memory corrections) =
        .ok (stored.read (·.object)) := by
  unfold Keeps ScheduleDoc.putProfiles shownDoc
  dsimp only
  split <;> rename_i applied <;> simp [applied,Except.map]

theorem corrections_applied_iff [DecidableEq ρ] (takes : String → Bool) (memory : ρ → ClimatePeriod)
    (schedule : ScheduleDoc (ProfileOf ρ)) (corrections : Option (List Correction)) :
    (∀ r, (schedule.applyCorrections takes memory corrections).1 (.submitted r) = (memory r).object) ∧
    (shownDoc (schedule.applyCorrections takes memory corrections) = .ok (schedule.corrected memory (corrections.getD [])) ↔
      Applicable takes memory schedule (corrections.getD [])) ∧
    ∀ profiles cached stored,
      ReportsStored (corrections.getD []) ((schedule.withProfiles (some profiles)).read memory) stored →
      (Keeps (schedule.putProfiles takes memory profiles (.ok corrections : Except ε _) cached) stored ↔
        Applicable takes memory (schedule.withProfiles (some profiles)) (corrections.getD [])) := by
  refine ⟨applied_untouched corrections,applied_iff corrections,fun profiles cached stored reports => ?_⟩
  rw [put_keeps,←reports_corrected reports]
  exact applied_iff corrections

-- The daemon stores the end at midnight five minutes earlier, and reports both places.
def twoDays (stop : String) : Dict String (ProfileOf ClimatePeriod) :=
  .ofList [("P1",⟨.ofList [("MONDAY",⟨17,[⟨"06:00",stop,21⟩]⟩),("TUESDAY",⟨17,[⟨"06:00",stop,21⟩]⟩)]⟩)]

def sharedDays : Dict String (ProfileOf Unit) := .ofList [("P1",⟨.ofList [("MONDAY",⟨17,[()]⟩),("TUESDAY",⟨17,[()]⟩)]⟩)]

def climateDoc (profiles : Option (Dict String (ProfileOf α))) : ScheduleDoc (ProfileOf α) :=
  ⟨⟨"A:1",1,"A"⟩,"climate",none,some "P1",some 0,profiles,none,none⟩

def lateHours (_ : Unit) : ClimatePeriod := ⟨"06:00","24:00",21⟩

def rewrites : List Correction := [⟨"P1","MONDAY",0,"end_time","23:55"⟩,⟨"P1","TUESDAY",0,"end_time","23:55"⟩,
  ⟨"P1","SUNDAY",0,"end_time","23:55"⟩]

def sharedDoc : ScheduleDoc (ProfileOf Unit) := climateDoc (some sharedDays)

theorem rewrites_kept :
    Keeps (sharedDoc.putProfiles (fun _ => true) lateHours sharedDays (.ok (some rewrites) : Except Unit _) none)
      (climateDoc (some (twoDays "23:55"))) ∧
    Applicable (fun _ => true) lateHours (sharedDoc.withProfiles (some sharedDays)) rewrites := by
  have kept : Keeps (sharedDoc.putProfiles (fun _ => true) lateHours sharedDays (.ok (some rewrites) : Except Unit _) none)
      (climateDoc (some (twoDays "23:55"))) := by
    unfold Keeps
    decide +kernel
  have reports : ReportsStored rewrites ((sharedDoc.withProfiles (some sharedDays)).read lateHours)
      (climateDoc (some (twoDays "23:55"))) := by
    unfold ReportsStored
    decide +kernel
  exact ⟨kept,((corrections_applied_iff _ _ sharedDoc (some rewrites)).2.2 sharedDays none _ reports).mp kept⟩

-- The report names a field this client does not know; or one of two places that hold one object.
theorem corrections_not_applied :
    shownDoc (sharedDoc.applyCorrections (fun _ => true) lateHours (some [⟨"P1","MONDAY",0,"duration","1h"⟩])) =
      .error (.noField "duration") ∧
    shownDoc (sharedDoc.applyCorrections (fun _ => true) lateHours (some [⟨"P1","MONDAY",0,"end_time","23:55"⟩])) =
      .ok ((climateDoc (some (twoDays "23:55"))).read (·.object)) ∧
    sharedDoc.corrected lateHours [⟨"P1","MONDAY",0,"end_time","23:55"⟩] ≠
      (climateDoc (some (twoDays "23:55"))).read (·.object) := by
  refine ⟨?_,?_,?_⟩ <;> decide +kernel

end LoomClient.Compat
