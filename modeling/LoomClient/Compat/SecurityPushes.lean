import LoomClient.Compat.HubSingletons
import LoomClient.Lib.Transition

namespace LoomClient.Compat
open Lib Wire Store
variable {F : Type}

inductive SecurityUpdate where
  | stateChanged (severity : String)
  | classChanged (payload : SecurityClassChangedPayload)
  | snapshot (snapshot : SecuritySnapshot)
  deriving DecidableEq

def SecurityUpdate.isPush : SecurityUpdate → Bool
  | .snapshot _ => false
  | _ => true

def SecuritySingletons.updated (s : SecuritySingletons) : SecurityUpdate → SecuritySingletons
  | .stateChanged severity => {s with severityDp := s.severityDp.updateSeverity severity [] none}
  | .classChanged payload => s.updateClassDp payload.securityClass payload.active none (payload.sources.getD [])
  | .snapshot snapshot => s.refresh snapshot

def SecuritySingletons.step (s : SecuritySingletons) (u : SecurityUpdate) : Option SecuritySingletons := some (s.updated u)

-- A source list is read key by key.
def sourceKeys : List String := ["sources","source_names","count","total","truncated"]

def recordedSources (attributes : Attributes) : List (Option Attribute) := sourceKeys.map attributes.get?

def reportedSources (sources : List AlarmSource) : List (Option Attribute) := (sourcesAttribute sources).map fun e => some e.2

structure ClassFacts where
  active : Option Bool
  severity : Option Attribute
  sources : List (Option Attribute)
  deriving DecidableEq

structure SecurityFacts where
  severity : Option String
  sources : List (Option Attribute)
  indexHealthy : Option Bool
  classes : String → Option ClassFacts

def classFacts (dp : HubSingletonDp Bool) : ClassFacts :=
  ⟨dp.value,dp.attributes.get? "severity",recordedSources dp.attributes⟩

def SecuritySingletons.facts (s : SecuritySingletons) : SecurityFacts where
  severity := s.severityDp.dp.value
  sources := recordedSources s.severityDp.attributes
  indexHealthy := s.severityDp.indexHealthy
  classes securityClass := (s.classDps.get? securityClass).map classFacts

-- A fact that the update does not carry stays. A snapshot says everything about the domain and about
-- each class it lists.
def ClassFacts.pushed (known : ClassFacts) (payload : SecurityClassChangedPayload) : ClassFacts :=
  {known with
    active := some payload.active
    sources := (payload.sources.map reportedSources).getD known.sources}

def SecurityFacts.told (f : SecurityFacts) : SecurityUpdate → SecurityFacts
  | .stateChanged severity => {f with severity := some severity}
  | .classChanged payload => {f with classes := fun c =>
      if c = payload.securityClass then some (((f.classes c).getD (classFacts .unobserved)).pushed payload) else f.classes c}
  | .snapshot snapshot => {
      severity := some snapshot.severity
      sources := reportedSources (activeHazardSources snapshot)
      indexHealthy := snapshot.indexHealthy
      classes := fun c => ((lastWritten (·.securityClass) c snapshot.classes).map fun state =>
        ⟨some state.active,some (.text state.severity),reportedSources (state.sources.getD [])⟩).or (f.classes c)}

structure TellsOnly (x : SecuritySingletons) (u : SecurityUpdate) (y : SecuritySingletons) : Prop where
  facts : y.facts = x.facts.told u
  beside : u.isPush = true → y.faultsDp = x.faultsDp ∧ y.alarmReportDp = x.alarmReportDp ∧ y.faultReportDp = x.faultReportDp

-- Every update replaces the whole source list, and a snapshot without a verdict leaves the verdict.
def Carries (x : SecuritySingletons) : SecurityUpdate → Prop
  | .stateChanged _ => x.facts.sources = reportedSources []
  | .classChanged payload => payload.sources = none →
      ((x.facts.classes payload.securityClass).getD (classFacts .unobserved)).sources = reportedSources []
  | .snapshot snapshot => snapshot.indexHealthy = none → x.facts.indexHealthy = none

instance (x : SecuritySingletons) (u : SecurityUpdate) : Decidable (Carries x u) := by
  cases u <;> unfold Carries <;> infer_instance

section Recorded

theorem recorded_of_list (sources : List AlarmSource) : recordedSources (.ofList (sourcesAttribute sources)) = reportedSources sources := by
  simp [recordedSources,sourceKeys,reportedSources,sourcesAttribute,Dict.ofList,Dict.get?_set]

theorem recorded_shown (s : SecuritySeveritySensor) : recordedSources s.attributes = recordedSources s.dp.attributes := by
  unfold SecuritySeveritySensor.attributes
  split
  · simp [recordedSources,sourceKeys,Dict.get?_set]
  · rfl

theorem class_facts_updated (dp : HubSingletonDp Bool) (securityClass : String) (active : Bool) (severity : Option String)
    (sources : List AlarmSource) : classFacts (updateClass dp securityClass active severity sources) =
      ⟨some active,(severity.map Attribute.text).or (dp.attributes.get? "severity"),reportedSources sources⟩ := by
  cases graded : (severity.map Attribute.text).or (dp.attributes.get? "severity") <;>
    simp [classFacts,updateClass,updateValue,graded,recordedSources,sourceKeys,reportedSources,sourcesAttribute,
      Dict.ofList,Dict.get?_set]

end Recorded

section Step
variable (x : SecuritySingletons)

theorem state_facts (severity : String) : (x.updated (.stateChanged severity)).facts =
    {x.facts with severity := some severity, sources := reportedSources []} := by
  simp only [SecuritySingletons.facts,SecuritySingletons.updated,recorded_shown,SecuritySeveritySensor.updateSeverity,
    updateValue,recorded_of_list,Option.none_or]

theorem class_facts (payload : SecurityClassChangedPayload) : (x.updated (.classChanged payload)).facts =
    x.facts.told (.classChanged {payload with sources := some (payload.sources.getD [])}) := by
  simp only [SecuritySingletons.facts,SecuritySingletons.updated,SecuritySingletons.updateClassDp,SecurityFacts.told,
    SecurityFacts.mk.injEq,true_and]
  funext c
  rw [Dict.get?_set]
  by_cases same : c = payload.securityClass
  · subst same
    rw [if_pos rfl,if_pos rfl,Option.map_some,class_facts_updated]
    cases x.classDps.get? payload.securityClass <;> rfl
  · rw [if_neg same,if_neg same]

theorem snapshot_facts (snapshot : SecuritySnapshot) : (x.updated (.snapshot snapshot)).facts =
    {x.facts.told (.snapshot snapshot) with indexHealthy := snapshot.indexHealthy.or x.facts.indexHealthy} := by
  simp only [SecuritySingletons.facts,SecuritySingletons.updated,refreshed_severity,recorded_shown,
    SecuritySeveritySensor.updateSeverity,updateValue,recorded_of_list,SecurityFacts.told,SecurityFacts.mk.injEq,true_and]
  funext c
  rw [refreshed_class,toldClass]
  cases lastWritten (·.securityClass) c snapshot.classes with
  | none => rfl
  | some state => simp [class_facts_updated]

theorem update_beside (u : SecurityUpdate) (push : u.isPush = true) : (x.updated u).faultsDp = x.faultsDp ∧
    (x.updated u).alarmReportDp = x.alarmReportDp ∧ (x.updated u).faultReportDp = x.faultReportDp := by
  cases u with
  | stateChanged => exact ⟨rfl,rfl,rfl⟩
  | classChanged => exact ⟨rfl,rfl,rfl⟩
  | snapshot => cases push

theorem pushed_as_empty_iff (known : ClassFacts) (payload : SecurityClassChangedPayload) :
    known.pushed {payload with sources := some (payload.sources.getD [])} = known.pushed payload ↔
      (payload.sources = none → known.sources = reportedSources []) := by
  cases sources : payload.sources with
  | some list => simp [ClassFacts.pushed,sources]
  | none => simp [ClassFacts.pushed,sources,eq_comm]

theorem tells_only_iff (u : SecurityUpdate) : TellsOnly x u (x.updated u) ↔ Carries x u := by
  have split : TellsOnly x u (x.updated u) ↔ (x.updated u).facts = x.facts.told u :=
    ⟨fun law => law.facts,fun facts => ⟨facts,update_beside x u⟩⟩
  rw [split]
  cases u with
  | stateChanged severity =>
    rw [state_facts]
    simp only [SecurityFacts.told,Carries,SecurityFacts.mk.injEq,true_and,and_true]
    exact eq_comm
  | classChanged payload =>
    rw [class_facts]
    simp only [Carries]
    rw [← pushed_as_empty_iff]
    constructor
    · intro same
      have here := congrFun (congrArg SecurityFacts.classes same) payload.securityClass
      simpa [SecurityFacts.told] using here
    · intro same
      simp only [SecurityFacts.told,SecurityFacts.mk.injEq,true_and]
      funext c
      by_cases here : c = payload.securityClass
      · subst here
        rw [if_pos rfl,if_pos rfl,same]
      · rw [if_neg here,if_neg here]
  | snapshot snapshot =>
    rw [snapshot_facts]
    cases verdict : snapshot.indexHealthy <;> simp [SecurityFacts.told,Carries,verdict]

end Step

theorem pushes_keep_the_rest_iff (x : SecuritySingletons) (updates : List SecurityUpdate) :
    Every SecuritySingletons.step TellsOnly x updates ↔ Every SecuritySingletons.step (fun x u _ => Carries x u) x updates := by
  refine every_congr (fun _ => True) trivial (fun _ _ _ _ _ => trivial) fun x u y _ next => ?_
  cases next
  exact tells_only_iff x u

theorem facts_of_run {x y : SecuritySingletons} {updates : List SecurityUpdate}
    (carried : Every SecuritySingletons.step (fun x u _ => Carries x u) x updates)
    (path : run SecuritySingletons.step x updates = some y) : y.facts = updates.foldl SecurityFacts.told x.facts := by
  induction updates generalizing x with
  | nil =>
    cases path
    rfl
  | cons u rest ih =>
    have told := ((tells_only_iff x u).mpr carried.1).facts
    rw [List.foldl_cons,← told]
    exact ih carried.2 path

theorem pushes_keep (f : SecurityFacts) (pushes : List SecurityUpdate) (push : ∀ u ∈ pushes, u.isPush = true) :
    (pushes.foldl SecurityFacts.told f).sources = f.sources ∧ (pushes.foldl SecurityFacts.told f).indexHealthy = f.indexHealthy ∧
      ∀ c, ((pushes.foldl SecurityFacts.told f).classes c).bind (·.severity) = (f.classes c).bind (·.severity) := by
  induction pushes generalizing f with
  | nil => exact ⟨rfl,rfl,fun _ => rfl⟩
  | cons u rest ih =>
    obtain ⟨sources,index,grades⟩ := ih (f.told u) fun v later => push v (.tail u later)
    cases u with
    | stateChanged severity => exact ⟨sources,index,grades⟩
    | classChanged payload =>
      refine ⟨sources,index,fun c => (grades c).trans ?_⟩
      by_cases same : c = payload.securityClass
      · cases known : f.classes c <;> simp [SecurityFacts.told,same ▸ known,same,ClassFacts.pushed,classFacts,HubSingletonDp.unobserved]
      · simp [SecurityFacts.told,same]
    | snapshot snapshot => exact absurd (push _ List.mem_cons_self) Bool.false_ne_true

theorem last_snapshot_stands {x y : SecuritySingletons} {snapshot : SecuritySnapshot} {pushes : List SecurityUpdate}
    (carried : Every SecuritySingletons.step (fun x u _ => Carries x u) x (.snapshot snapshot :: pushes))
    (push : ∀ u ∈ pushes, u.isPush = true) (path : run SecuritySingletons.step x (.snapshot snapshot :: pushes) = some y) :
    y.facts.sources = reportedSources (activeHazardSources snapshot) ∧ y.facts.indexHealthy = snapshot.indexHealthy ∧
      ∀ c state, lastWritten (·.securityClass) c snapshot.classes = some state →
        (y.facts.classes c).bind (·.severity) = some (.text state.severity) := by
  obtain ⟨sources,index,grades⟩ := pushes_keep (x.facts.told (.snapshot snapshot)) pushes push
  rw [facts_of_run carried path,List.foldl_cons]
  refine ⟨sources,index,fun c state listed => (grades c).trans ?_⟩
  simp [SecurityFacts.told,listed]

def hallSmoke : SecurityClassState :=
  ⟨"smoke",true,"critical",some [⟨"r1",none,none,none,none,none,some "Hall",none,none,"2026-08-05T08:00:00Z"⟩]⟩

-- The detector that raised the severity is gone with the next severity push.
theorem severity_push_wipes_sources : ¬ Every SecuritySingletons.step TellsOnly .built
    [.snapshot ⟨"critical",[hallSmoke],none,some true,none,none⟩,.stateChanged "alarm"] := by
  intro law
  have sources := congrArg SecurityFacts.sources law.2.1.facts
  revert sources
  decide +kernel

end LoomClient.Compat
