import LoomClient.Lib.Dict
import LoomClient.Lib.Transition
import Mathlib.Algebra.GroupWithZero.Nat
import Mathlib.Data.List.Perm.Basic
import Mathlib.Data.Rat.Defs

namespace LoomClient.Compat
open Lib

structure ClimatePeriod where
  startTime : String
  endTime : String
  temperature : ℚ
  deriving DecidableEq

structure ClimateWeekday where
  baseTemperature : ℚ
  periods : List ClimatePeriod
  deriving DecidableEq

structure ClimateProfile where
  weekdays : Dict String ClimateWeekday
  deriving DecidableEq

-- Of the entries of a simple schedule only their number counts here. `rest` is what the edits copy
-- unread.
structure Schedule (ρ : Type) where
  kind : String
  activeProfile : Option String
  profiles : Option (Dict String ClimateProfile)
  simpleEntries : Option Nat
  rest : ρ
  deriving DecidableEq

-- A rewrite the daemon reports: it stored another time than the one submitted.
inductive PeriodField where
  | startTime
  | endTime
  deriving DecidableEq

structure ScheduleTimeCorrection where
  profile : String
  weekday : String
  period : Int
  field : PeriodField
  applied : String
  deriving DecidableEq

variable {ρ : Type}

def periodCount (profiles : List ClimateProfile) : Nat :=
  (profiles.map fun profile => (profile.weekdays.values.map fun weekday => weekday.periods.length).sum).sum

def countEntries (schedule : Schedule ρ) : Nat :=
  if schedule.kind = "climate" then
    let profiles := schedule.profiles.getD .empty
    match schedule.activeProfile.bind profiles.get? with
    | some active => periodCount [active]
    | none => periodCount profiles.values
  else schedule.simpleEntries.getD 0

def ClimatePeriod.correct (period : ClimatePeriod) (field : PeriodField) (applied : String) : ClimatePeriod :=
  match field with
  | .startTime => {period with startTime := applied}
  | .endTime => {period with endTime := applied}

-- A correction whose coordinates do not resolve is skipped.
def correctProfiles (profiles : Dict String ClimateProfile) (c : ScheduleTimeCorrection) : Dict String ClimateProfile :=
  profiles.modify c.profile fun profile => ⟨profile.weekdays.modify c.weekday fun weekday =>
    if 0 ≤ c.period then {weekday with periods := weekday.periods.modify c.period.toNat fun p => p.correct c.field c.applied}
    else weekday⟩

def applyCorrections (schedule : Schedule ρ) (corrections : List ScheduleTimeCorrection) : Schedule ρ :=
  {schedule with profiles := schedule.profiles.map fun profiles => corrections.foldl correctProfiles profiles}

inductive Edit where
  | weekday (profile weekday : String) (data : ClimateWeekday)
  | profile (profile : String) (weekdays : Dict String ClimateWeekday)
  deriving DecidableEq

def setScheduleWeekday (schedule : Schedule ρ) (profile weekday : String) (data : ClimateWeekday) : Schedule ρ :=
  let profiles := schedule.profiles.getD .empty
  let weekdays := match profiles.get? profile with
    | some stored => stored.weekdays
    | none => .empty
  {schedule with profiles := some (profiles.set profile ⟨weekdays.set weekday data⟩)}

def setScheduleProfile (schedule : Schedule ρ) (profile : String) (weekdays : Dict String ClimateWeekday) : Schedule ρ :=
  {schedule with profiles := some ((schedule.profiles.getD .empty).set profile ⟨weekdays⟩)}

def Edit.apply (e : Edit) (schedule : Schedule ρ) : Schedule ρ :=
  match e with
  | .weekday p w data => setScheduleWeekday schedule p w data
  | .profile p weekdays => setScheduleProfile schedule p weekdays

-- From a reload or for an edit that found nothing cached.
structure Load (ρ : Type) where
  edit : Option Edit
  answer : Option (Schedule ρ)
  deriving DecidableEq

-- A PUT under way. `number` counts the edits in the order they built theirs.
structure Put (ρ : Type) where
  number : Nat
  schedule : Schedule ρ
  stored : Bool
  deriving DecidableEq

-- `edits`, which no step reads, are those that have built their schedule.
structure WeekProfile (ρ : Type) where
  daemon : Schedule ρ
  schedule : Option (Schedule ρ)
  value : Option Nat
  loads : List (Load ρ)
  puts : List (Put ρ)
  edits : List Edit
  deriving DecidableEq

def WeekProfile.initial (daemon : Schedule ρ) (schedule : Option (Schedule ρ)) : WeekProfile ρ :=
  ⟨daemon,schedule,schedule.map countEntries,[],[],[]⟩

def updateFrom (x : WeekProfile ρ) (schedule : Schedule ρ) : WeekProfile ρ :=
  {x with schedule := some schedule,value := some (countEntries schedule)}

def putProfiles (x : WeekProfile ρ) (e : Edit) (base : Schedule ρ) : WeekProfile ρ :=
  {x with puts := x.puts ++ [⟨x.edits.length,e.apply base,false⟩],edits := x.edits ++ [e]}

-- `serve` is the daemon answering a GET and `store` its storing the body of a PUT; both are repeated
-- when the transport retries.
inductive WeekProfileAction where
  | edit (e : Edit)
  | reload
  | serve (load : Nat)
  | loaded (load : Nat)
  | loadFailed (load : Nat)
  | store (put : Nat)
  | put (put : Nat) (corrections : List ScheduleTimeCorrection)
  deriving DecidableEq

def loaded (x : WeekProfile ρ) (edit : Option Edit) (schedule : Schedule ρ) : WeekProfile ρ :=
  let y := updateFrom x schedule
  match edit with
  | some e => putProfiles y e schedule
  | none => y

def weekProfileStep (x : WeekProfile ρ) : WeekProfileAction → Option (WeekProfile ρ)
  | .edit e => match x.schedule with
    | some cached => some (putProfiles x e cached)
    | none => some {x with loads := x.loads ++ [⟨some e,none⟩]}
  | .reload => some {x with loads := x.loads ++ [⟨none,none⟩]}
  | .serve i => if i < x.loads.length then
      some {x with loads := x.loads.modify i fun load => {load with answer := some x.daemon}}
    else none
  | .loaded i => match x.loads[i]? with
    | some ⟨edit,some schedule⟩ => some (loaded {x with loads := x.loads.eraseIdx i} edit schedule)
    | _ => none
  | .loadFailed i => if i < x.loads.length then some {x with loads := x.loads.eraseIdx i} else none
  | .store i => match x.puts[i]? with
    | some put => some {x with
        daemon := put.schedule
        puts := x.puts.modify i fun put => {put with stored := true}}
    | none => none
  | .put i corrections => match x.puts[i]? with
    | some ⟨_,schedule,true⟩ => some (updateFrom {x with puts := x.puts.eraseIdx i} (applyCorrections schedule corrections))
    | _ => none

def Contains (schedule : Schedule ρ) : Edit → Prop
  | .weekday p w data => ((schedule.profiles.getD .empty).get? p).bind (·.weekdays.get? w) = some data
  | .profile p weekdays => (schedule.profiles.getD .empty).get? p = some ⟨weekdays⟩

-- Edits of different profiles, or of different weekdays.
def Apart : Edit → Edit → Prop
  | .weekday p w _,.weekday q v _ => p ≠ q ∨ w ≠ v
  | .weekday p _ _,.profile q _ => p ≠ q
  | .profile p _,.weekday q _ _ => p ≠ q
  | .profile p _,.profile q _ => p ≠ q

instance (schedule : Schedule ρ) (e : Edit) : Decidable (Contains schedule e) := by
  cases e <;> unfold Contains <;> infer_instance
instance (e f : Edit) : Decidable (Apart e f) := by cases e <;> cases f <;> unfold Apart <;> infer_instance

-- With nothing under way, the daemon's schedule and the cached one hold every edit.
def Complete (x : WeekProfile ρ) : Prop :=
  x.loads = [] → x.puts = [] →
    (∀ e ∈ x.edits, Contains x.daemon e) ∧ ∀ e ∈ x.edits, ∃ cached ∈ x.schedule, Contains cached e

def allStored (x : WeekProfile ρ) : Bool := x.puts.all (·.stored)

def lastRequest (x : WeekProfile ρ) : Bool := x.loads.length + x.puts.length = 1

-- An edit builds on the schedule the daemon holds; no PUT is stored again once a later one is built;
-- and the answer that arrives last leaves the daemon's schedule cached.
def InTurn (x : WeekProfile ρ) : WeekProfileAction → Prop
  | .edit _ => ∀ cached ∈ x.schedule, cached = x.daemon ∧ allStored x = true
  | .loaded i => ∀ load ∈ x.loads[i]?, ∀ schedule ∈ load.answer,
      (load.edit.isSome = true → schedule = x.daemon ∧ allStored x = true) ∧
      (lastRequest x = true → schedule = x.daemon)
  | .loadFailed _ => lastRequest x = true → x.edits ≠ [] → x.schedule = some x.daemon
  | .store i => ∀ put ∈ x.puts[i]?, put.number + 1 = x.edits.length
  | .put i _ => ∀ put ∈ x.puts[i]?, lastRequest x = true → put.schedule = x.daemon
  | _ => True

theorem apply_contains (e : Edit) (schedule : Schedule ρ) : Contains (e.apply schedule) e := by
  cases e with
  | weekday p w data => simp [Contains,Edit.apply,setScheduleWeekday,Dict.get?_set_self]
  | profile p weekdays => simp [Contains,Edit.apply,setScheduleProfile,Dict.get?_set_self]

theorem apply_keeps (schedule : Schedule ρ) (apart : Apart f e) (contains : Contains schedule f) :
    Contains (e.apply schedule) f := by
  cases e with
  | weekday p w data =>
    cases f with
    | weekday q v other =>
      simp only [Contains,Edit.apply,setScheduleWeekday,Option.getD_some,Dict.get?_set] at contains ⊢
      by_cases same : q = p
      · subst same
        have different : v ≠ w := apart.resolve_left fun h => h rfl
        cases stored : (schedule.profiles.getD .empty).get? q with
        | none => simp [stored] at contains
        | some before => simpa [stored,Dict.get?_set,different] using contains
      · simpa [same] using contains
    | profile q weekdays =>
      have different : q ≠ p := apart
      simpa [Contains,Edit.apply,setScheduleWeekday,Dict.get?_set,different] using contains
  | profile p weekdays =>
    cases f with
    | weekday q v other =>
      have different : q ≠ p := apart
      simpa [Contains,Edit.apply,setScheduleProfile,Dict.get?_set,different] using contains
    | profile q others =>
      have different : q ≠ p := apart
      simpa [Contains,Edit.apply,setScheduleProfile,Dict.get?_set,different] using contains

theorem applyCorrections_nil (schedule : Schedule ρ) : applyCorrections schedule [] = schedule := by
  cases schedule with
  | mk kind active profiles entries rest => cases profiles <;> rfl

def Holds (schedule : Schedule ρ) (edits : List Edit) : Prop := ∀ e ∈ edits, Contains schedule e

theorem holds_apply (schedule : Schedule ρ) (edits : List Edit) (apart : ∀ f ∈ edits, Apart f e)
    (holds : Holds schedule edits) : Holds (e.apply schedule) (edits ++ [e]) := by
  intro f member
  rcases List.mem_append.mp member with old | new
  · exact apply_keeps schedule (apart f old) (holds f old)
  · rw [List.mem_singleton.mp new]
    exact apply_contains e schedule

theorem Apart.symm (apart : Apart e f) : Apart f e := by
  cases e with
  | weekday p w data =>
    cases f with
    | weekday q v other => exact apart.elim (fun h => .inl (Ne.symm h)) fun h => .inr (Ne.symm h)
    | profile q others => exact Ne.symm apart
  | profile p weekdays => cases f <;> exact Ne.symm apart

theorem filterMap_modify {f : α → α} {g : α → Option β} (keeps : ∀ a, g (f a) = g a) (l : List α) (i : Nat) :
    (l.modify i f).filterMap g = l.filterMap g := by
  induction l generalizing i with
  | nil => cases i <;> rfl
  | cons a rest ih =>
    cases i with
    | zero => simp [List.filterMap_cons,keeps]
    | succ i => simp [List.filterMap_cons,ih]

theorem mem_modify {f : α → α} {l : List α} (member : a ∈ l.modify i f) : ∃ b ∈ l, a = b ∨ a = f b := by
  obtain ⟨j,at_j⟩ := List.mem_iff_getElem?.mp member
  rw [List.getElem?_modify] at at_j
  obtain ⟨b,found,eq⟩ := Option.map_eq_some_iff.mp at_j
  refine ⟨b,List.mem_of_getElem? found,?_⟩
  split at eq
  · exact .inr eq.symm
  · exact .inl eq.symm

-- Those built, and those that wait for what they build on.
def pendingEdits (x : WeekProfile ρ) : List Edit := x.loads.filterMap (·.edit)
def called (x : WeekProfile ρ) : List Edit := x.edits ++ pendingEdits x

-- The edits touch different weekdays or profiles, and no PUT is answered with corrections.
def Separate (x : WeekProfile ρ) : WeekProfileAction → Prop
  | .edit e => ∀ f ∈ called x, Apart f e
  | .put _ corrections => corrections = []
  | _ => True

instance [DecidableEq ρ] (x : WeekProfile ρ) : Decidable (Complete x) := by unfold Complete; infer_instance
instance [DecidableEq ρ] (x : WeekProfile ρ) (a : WeekProfileAction) : Decidable (InTurn x a) := by
  cases a <;> unfold InTurn <;> infer_instance
instance (x : WeekProfile ρ) (a : WeekProfileAction) : Decidable (Separate x a) := by
  cases a <;> unfold Separate <;> infer_instance

-- Once every PUT is stored the daemon holds every edit, and the newest PUT carries every edit.
structure Ordered (x : WeekProfile ρ) : Prop where
  daemon : allStored x = true → Holds x.daemon x.edits
  newest : ∀ put ∈ x.puts, put.number + 1 = x.edits.length → Holds put.schedule x.edits
  numbers : ∀ put ∈ x.puts, put.number < x.edits.length
  settled : x.loads = [] → x.puts = [] → x.edits ≠ [] → x.schedule = some x.daemon
  apart : (called x).Pairwise Apart

theorem Ordered.complete (ordered : Ordered x) : Complete x := by
  intro loads puts
  have holds : Holds x.daemon x.edits := ordered.daemon (by simp [allStored,puts])
  refine ⟨holds,fun e member => ?_⟩
  exact ⟨x.daemon,ordered.settled loads puts (List.ne_nil_of_mem member),holds e member⟩

theorem initial_ordered (daemon : Schedule ρ) (schedule : Option (Schedule ρ)) : Ordered (.initial daemon schedule) :=
  ⟨fun _ _ member => absurd member List.not_mem_nil,fun _ member => absurd member List.not_mem_nil,
    fun _ member => absurd member List.not_mem_nil,fun _ _ edits => absurd rfl edits,List.Pairwise.nil⟩

theorem build_ordered (base : Schedule ρ) (on_daemon : base = x.daemon)
    (holds : Holds x.daemon x.edits) (numbers : ∀ put ∈ x.puts, put.number < x.edits.length)
    (apart : (x.edits ++ [e] ++ pendingEdits x).Pairwise Apart) : Ordered (putProfiles x e base) := by
  have earlier : ∀ f ∈ x.edits, Apart f e := by
    intro f member
    exact (List.pairwise_append.mp (List.pairwise_append.mp apart).1).2.2 f member e (List.mem_singleton.mpr rfl)
  refine ⟨?_,?_,?_,?_,apart⟩
  · simp [putProfiles,allStored]
  · intro put member number
    rcases List.mem_append.mp member with old | new
    · have below := numbers put old
      simp only [putProfiles,List.length_append,List.length_singleton] at number
      omega
    · rw [List.mem_singleton.mp new,on_daemon]
      exact holds_apply x.daemon x.edits earlier holds
  · intro put member
    simp only [putProfiles,List.length_append,List.length_singleton]
    rcases List.mem_append.mp member with old | new
    · exact Nat.lt_succ_of_lt (numbers put old)
    · rw [List.mem_singleton.mp new]
      exact Nat.lt_succ_self _
  · simp [putProfiles]

theorem erased_apart {x : WeekProfile ρ} {load : Load ρ} (i : Nat) (found : x.loads[i]? = some load) (edit : load.edit = some e)
    (apart : (called x).Pairwise Apart) : (x.edits ++ [e] ++ (x.loads.eraseIdx i).filterMap (·.edit)).Pairwise Apart := by
  obtain ⟨bound,at_i⟩ := List.getElem?_eq_some_iff.mp found
  have moved : (e :: (x.loads.eraseIdx i).filterMap (·.edit)).Perm (pendingEdits x) := by
    have permuted := (List.getElem_cons_eraseIdx_perm bound).filterMap (·.edit)
    simpa [at_i,edit,pendingEdits] using permuted
  have all : (x.edits ++ [e] ++ (x.loads.eraseIdx i).filterMap (·.edit)).Perm (called x) := by
    rw [List.append_assoc]
    exact moved.append_left x.edits
  exact (all.pairwise_iff fun apart => apart.symm).mpr apart

theorem last_of_erased (i : Nat) (found : x.loads[i]? = some load) (loads : x.loads.eraseIdx i = []) (puts : x.puts = []) :
    lastRequest x = true := by
  obtain ⟨bound,_⟩ := List.getElem?_eq_some_iff.mp found
  have size := congrArg List.length loads
  rw [List.length_eraseIdx_of_lt bound,List.length_nil] at size
  simp only [lastRequest,puts,List.length_nil,decide_eq_true_eq]
  omega

theorem last_of_answered (i : Nat) (found : x.puts[i]? = some put) (loads : x.loads = []) (puts : x.puts.eraseIdx i = []) :
    lastRequest x = true := by
  obtain ⟨bound,_⟩ := List.getElem?_eq_some_iff.mp found
  have size := congrArg List.length puts
  rw [List.length_eraseIdx_of_lt bound,List.length_nil] at size
  simp only [lastRequest,loads,List.length_nil,decide_eq_true_eq]
  omega

theorem edit_ordered {x t : WeekProfile ρ} (e : Edit) (ordered : Ordered x) (step : weekProfileStep x (.edit e) = some t)
    (met : Separate x (.edit e) ∧ InTurn x (.edit e)) : Ordered t := by
  obtain ⟨daemon,newest,numbers,settled,apart⟩ := ordered
  have others : ∀ f ∈ called x, Apart f e := met.1
  simp only [weekProfileStep] at step
  split at step <;> cases step
  · rename_i cached held
    obtain ⟨same,stored⟩ := met.2 cached held
    refine build_ordered cached same (daemon stored) numbers ?_
    have moved : (called x ++ [e]).Perm (x.edits ++ [e] ++ pendingEdits x) := by
      rw [called,List.append_assoc,List.append_assoc]
      exact List.perm_append_comm.append_left x.edits
    refine (moved.pairwise_iff fun apart => apart.symm).mp ?_
    exact List.pairwise_append.mpr ⟨apart,List.pairwise_singleton _ _,fun f member g new => by
      rw [List.mem_singleton.mp new]
      exact others f member⟩
  · refine ⟨daemon,newest,numbers,by simp,?_⟩
    have grown : called {x with loads := x.loads ++ [⟨some e,none⟩]} = called x ++ [e] := by
      simp [called,pendingEdits]
    rw [grown]
    exact List.pairwise_append.mpr ⟨apart,List.pairwise_singleton _ _,fun f member g new => by
      rw [List.mem_singleton.mp new]
      exact others f member⟩

theorem reload_ordered (ordered : Ordered x) (step : weekProfileStep x .reload = some t) : Ordered t := by
  obtain ⟨daemon,newest,numbers,settled,apart⟩ := ordered
  cases step
  refine ⟨daemon,newest,numbers,by simp,?_⟩
  have same : called {x with loads := x.loads ++ [⟨none,none⟩]} = called x := by simp [called,pendingEdits]
  rw [same]
  exact apart

theorem serve_ordered {x t : WeekProfile ρ} (i : Nat) (ordered : Ordered x) (step : weekProfileStep x (.serve i) = some t) : Ordered t := by
  obtain ⟨daemon,newest,numbers,settled,apart⟩ := ordered
  simp only [weekProfileStep] at step
  split at step <;> cases step
  rename_i bound
  refine ⟨daemon,newest,numbers,?_,?_⟩
  · intro loads
    have size := congrArg List.length loads
    simp only [List.length_modify,List.length_nil] at size
    omega
  · have same := filterMap_modify (f := fun load : Load ρ => {load with answer := some x.daemon}) (g := (·.edit))
      (fun _ => rfl) x.loads i
    rw [called,pendingEdits,same]
    exact apart

theorem loaded_ordered (i : Nat) (ordered : Ordered x) (step : weekProfileStep x (.loaded i) = some t)
    (met : Separate x (.loaded i) ∧ InTurn x (.loaded i)) : Ordered t := by
  obtain ⟨daemon,newest,numbers,settled,apart⟩ := ordered
  simp only [weekProfileStep] at step
  split at step <;> cases step
  rename_i edit schedule found
  obtain ⟨builds,last⟩ := met.2 _ found schedule rfl
  cases edit with
  | none =>
    refine ⟨daemon,newest,numbers,?_,?_⟩
    · intro loads puts _
      exact congrArg some (last (last_of_erased i found loads puts))
    · refine apart.sublist (List.Sublist.append_left ?_ _)
      exact (List.eraseIdx_sublist x.loads i).filterMap _
  | some e =>
    obtain ⟨same,stored⟩ := builds rfl
    have erased := erased_apart i found rfl apart
    exact build_ordered (x := updateFrom {x with loads := x.loads.eraseIdx i} schedule) schedule same (daemon stored)
      numbers erased

theorem load_failed_ordered (i : Nat) (ordered : Ordered x) (step : weekProfileStep x (.loadFailed i) = some t)
    (met : Separate x (.loadFailed i) ∧ InTurn x (.loadFailed i)) : Ordered t := by
  obtain ⟨daemon,newest,numbers,settled,apart⟩ := ordered
  simp only [weekProfileStep] at step
  split at step <;> cases step
  rename_i bound
  refine ⟨daemon,newest,numbers,?_,?_⟩
  · intro loads puts edits
    exact met.2 (last_of_erased i (List.getElem?_eq_getElem bound) loads puts) edits
  · refine apart.sublist (List.Sublist.append_left ?_ _)
    exact (List.eraseIdx_sublist x.loads i).filterMap _

theorem store_ordered (i : Nat) (ordered : Ordered x) (step : weekProfileStep x (.store i) = some t)
    (met : Separate x (.store i) ∧ InTurn x (.store i)) : Ordered t := by
  obtain ⟨daemon,newest,numbers,settled,apart⟩ := ordered
  simp only [weekProfileStep] at step
  split at step <;> cases step
  rename_i put found
  have number : put.number + 1 = x.edits.length := met.2 put found
  have holds := newest put (List.mem_of_getElem? found) number
  refine ⟨fun _ => holds,?_,?_,?_,apart⟩
  · intro other member at_newest
    obtain ⟨before,inside,eq⟩ := mem_modify member
    rcases eq with eq | eq
    · exact newest other (eq ▸ inside) at_newest
    · rw [eq] at at_newest ⊢
      exact newest before inside at_newest
  · intro other member
    obtain ⟨before,inside,eq⟩ := mem_modify member
    rcases eq with eq | eq
    · exact numbers other (eq ▸ inside)
    · rw [eq]
      exact numbers before inside
  · intro _ puts
    have size := congrArg List.length puts
    obtain ⟨bound,_⟩ := List.getElem?_eq_some_iff.mp found
    simp only [List.length_modify,List.length_nil] at size
    omega

theorem put_ordered (i : Nat) (corrections : List ScheduleTimeCorrection) (ordered : Ordered x)
    (step : weekProfileStep x (.put i corrections) = some t)
    (met : Separate x (.put i corrections) ∧ InTurn x (.put i corrections)) : Ordered t := by
  obtain ⟨daemon,newest,numbers,settled,apart⟩ := ordered
  have exactly : corrections = [] := met.1
  subst exactly
  simp only [weekProfileStep] at step
  split at step <;> cases step
  rename_i number schedule found
  have inside : ∀ put ∈ x.puts.eraseIdx i, put ∈ x.puts := fun put member => List.mem_of_mem_eraseIdx member
  refine ⟨?_,?_,?_,?_,apart⟩
  · intro stored
    refine daemon (List.all_eq_true.mpr fun put member => ?_)
    obtain ⟨bound,at_i⟩ := List.getElem?_eq_some_iff.mp found
    have permuted := List.getElem_cons_eraseIdx_perm bound
    rcases List.mem_cons.mp (permuted.mem_iff.mpr member) with answered | other
    · rw [answered,at_i]
    · exact List.all_eq_true.mp stored put other
  · exact fun put member => newest put (inside put member)
  · exact fun put member => numbers put (inside put member)
  · intro loads puts _
    have current : schedule = x.daemon := met.2 _ found (last_of_answered i found loads puts)
    rw [applyCorrections_nil]
    exact congrArg some current

theorem step_ordered (x : WeekProfile ρ) (a : WeekProfileAction) (t : WeekProfile ρ) (ordered : Ordered x)
    (step : weekProfileStep x a = some t) (met : Separate x a ∧ InTurn x a) : Ordered t := by
  cases a with
  | edit e => exact edit_ordered e ordered step met
  | reload => exact reload_ordered ordered step
  | serve i => exact serve_ordered i ordered step
  | loaded i => exact loaded_ordered i ordered step met
  | loadFailed i => exact load_failed_ordered i ordered step met
  | store i => exact store_ordered i ordered step met
  | put i corrections => exact put_ordered i corrections ordered step met

theorem edits_in_turn_complete (daemon : Schedule ρ) (cached : Option (Schedule ρ)) (actions : List WeekProfileAction)
    (separate : Every weekProfileStep (fun x a _ => Separate x a) (.initial daemon cached) actions)
    (in_turn : Every weekProfileStep (fun x a _ => InTurn x a) (.initial daemon cached) actions) :
    Always weekProfileStep Complete (.initial daemon cached) actions := by
  have both := every_and separate in_turn
  have ordered := always_of_every (initial_ordered daemon cached) step_ordered both
  exact always_mono (fun _ => Ordered.complete) ordered

def emptySchedule : Schedule Unit := ⟨"climate",none,none,none,()⟩
def mondayEdit : Edit := .weekday "P1" "MONDAY" ⟨21,[⟨"06:00","08:00",22⟩]⟩
def tuesdayEdit : Edit := .weekday "P1" "TUESDAY" ⟨19,[]⟩

-- One edit, a reload of what it wrote, then the other.
def editsInTurn : List WeekProfileAction :=
  [.edit mondayEdit,.serve 0,.loaded 0,.store 0,.put 0 [],.reload,.serve 0,.loaded 0,.edit tuesdayEdit,.store 0,.put 0 []]

theorem reloaded_edits_complete : Always weekProfileStep Complete (.initial emptySchedule none) editsInTurn :=
  edits_in_turn_complete emptySchedule none editsInTurn (by decide +kernel) (by decide +kernel)

-- The second edit builds its schedule while the PUT of the first is under way.
theorem overlapping_edit_lost :
    Every weekProfileStep (fun x a _ => Separate x a) (.initial emptySchedule (some emptySchedule))
      [.edit mondayEdit,.edit tuesdayEdit,.store 0,.store 1,.put 0 [],.put 0 []] ∧
    ¬ Always weekProfileStep Complete (.initial emptySchedule (some emptySchedule))
      [.edit mondayEdit,.edit tuesdayEdit,.store 0,.store 1,.put 0 [],.put 0 []] := by
  decide +kernel

end LoomClient.Compat
