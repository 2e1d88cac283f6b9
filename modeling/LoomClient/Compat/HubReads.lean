import LoomClient.Compat.HubSingletons
import LoomClient.Lib.Race

namespace LoomClient.Compat
open Lib Wire Store
variable {F : Type}

-- A list refresh is asked for by a pass, once for each list, or by a count push.
inductive Refresh where
  | reconcileAlarm (count serviceCount : Int)
  | reconcileService (count : Int)
  | push (list : MessageList) (payload : HubCountChangedPayload)
  deriving DecidableEq, Repr

namespace Refresh

def list : Refresh → MessageList
  | .reconcileAlarm _ _ => .alarm
  | .reconcileService _ => .service
  | .push list _ => list

def count : Refresh → Int
  | .reconcileAlarm count _ => count
  | .reconcileService count => count
  | .push _ payload => payload.count

end Refresh

inductive HubRead where
  | aggregate
  | messages (refresh : Refresh)
  | systemUpdate
  | addonUpdate
  | security
  | faults (openCount : Int)
  deriving DecidableEq, Repr

inductive HubAnswer (F : Type) where
  | aggregate (entries : List (HubDataPoints F))
  | alarmMessages (messages : List AlarmMessage)
  | serviceMessages (messages : List ServiceMessage)
  | systemUpdate (entries : List SystemUpdateEntry)
  | addonUpdate (status : AddonUpdateStatus)
  | security (snapshot : SecuritySnapshot)
  | faults (faults : List SecurityFault)
  | failed
  deriving DecidableEq

-- A lock that was released is handed to the next in line in a turn of its own.
inductive HubCall where
  | fetchHubSingletonData
  | wake (list : MessageList)
  | connectionState (connected : Bool)
  | installModeSet (interface : String) (seconds : Int)
  | systemUpdateInstall
  | addonUpdateInstall
  deriving DecidableEq, Repr

-- `waiting` holds who waits for a lock, in the order of arrival. The reader of the transport, which
-- tells the latency of a heartbeat, does not wait for a handler.
structure HubMirror (F : Type) where
  hub : HubCoordinator F
  locked : List MessageList
  waiting : List Refresh
  dispatching : Bool
  deriving DecidableEq

def HubMirror.quiet (hub : HubCoordinator F) : HubMirror F := ⟨hub,[],[],false⟩

abbrev HubOutcome (F : Type) := Outcome (HubMirror F) (HubPush F) HubRead

section Flow
variable (m : HubMirror F)
namespace HubMirror

-- The refresh goes no further where the list already has the count it was asked for.
def refreshMessageList (refresh : Refresh) (done : HubOutcome F) : HubOutcome F :=
  if (m.hub.messagesDp refresh.list).value = some refresh.count then done
  else if refresh.list ∈ m.locked ∨ refresh.list ∈ m.waiting.map Refresh.list then
    ⟨{m with waiting := m.waiting ++ [refresh]},[],[]⟩
  else ⟨{m with locked := refresh.list :: m.locked},[.messages refresh],[]⟩

def finishRefresh : Refresh → HubOutcome F
  | .reconcileAlarm _ serviceCount => m.refreshMessageList (.reconcileService serviceCount) ⟨m,[.systemUpdate],[]⟩
  | .reconcileService _ => ⟨m,[.systemUpdate],[]⟩
  | .push list payload => ⟨{m with dispatching := false},[],[.messageCount list payload]⟩

def beginRefresh (refresh : Refresh) : HubOutcome F := m.refreshMessageList refresh (m.finishRefresh refresh)

-- The count is compared again under the lock.
def wake (list : MessageList) : Option (HubOutcome F) :=
  if list ∈ m.locked then none
  else (m.waiting.find? (·.list = list)).map fun refresh =>
    let woken := {m with waiting := m.waiting.erase refresh}
    if (m.hub.messagesDp list).value = some refresh.count then woken.finishRefresh refresh
    else ⟨{woken with locked := list :: m.locked},[.messages refresh],[]⟩

def call : HubCall → Option (HubOutcome F)
  | .fetchHubSingletonData => some ⟨m,[.aggregate],[]⟩
  | .wake list => m.wake list
  | .connectionState connected => some ⟨{m with hub := m.hub.applyDaemonConnection connected},[],[]⟩
  | .installModeSet interface seconds =>
    let dps := m.hub.installModeDps.modify interface fun _ => updateValue seconds .empty
    some ⟨{m with hub := {m.hub with installModeDps := dps}},[],[]⟩
  | .systemUpdateInstall =>
    some ⟨{m with hub := {m.hub with updateDp := {m.hub.updateDp with inProgress := true}}},[],[]⟩
  | .addonUpdateInstall =>
    some ⟨{m with hub := {m.hub with addonUpdateDp := m.hub.addonUpdateDp.map ({· with state := "installing"})}},[],[]⟩

end HubMirror

def HubCoordinator.securityReads (h : HubCoordinator F) : List HubRead := if h.security.isSome then [.security] else []
def HubCoordinator.updateReads (h : HubCoordinator F) : List HubRead :=
  if h.addonUpdateDp.isSome then [.addonUpdate] else h.securityReads

variable (names : CentralNames)

def ownEntry (entries : List (HubDataPoints F)) : Option (HubDataPoints F) :=
  entries.find? fun data => names.matchesCentral data.central

-- A failed read writes nothing, but for a fault push, which then has its count to show.
def HubCoordinator.absorb (h : HubCoordinator F) : HubRead → HubAnswer F → Option (HubCoordinator F)
  | .aggregate,.aggregate entries => some (((ownEntry names entries).map h.applyAggregate).getD h)
  | .messages refresh,.alarmMessages messages =>
    if refresh.list = .alarm then some (h.updateMessages .alarm (HubCoordinator.listedAlarmMessages names messages))
    else none
  | .messages refresh,.serviceMessages messages =>
    if refresh.list = .service then
      some (h.updateMessages .service (HubCoordinator.listedServiceMessages names messages))
    else none
  | .systemUpdate,.systemUpdate entries => some (h.fetchSystemUpdate names entries)
  | .addonUpdate,.addonUpdate status => some (h.fetchAddonUpdate status)
  | .security,.security snapshot => some (h.refreshSecurity snapshot)
  | .faults _,.faults faults => some (h.applyFaults faults)
  | .faults openCount,.failed => some (h.applyOpenCount openCount)
  | _,.failed => some h
  | _,_ => none

def HubMirror.proceed (m : HubMirror F) : HubRead → HubAnswer F → HubOutcome F
  | .aggregate,.aggregate entries => match ownEntry names entries with
    | none => ⟨m,[],[]⟩
    | some data => m.beginRefresh (.reconcileAlarm data.alarmMessages data.serviceMessages)
  | .aggregate,_ => ⟨m,[],[]⟩
  | .messages refresh,_ => ({m with locked := m.locked.filter (· ≠ refresh.list)}).finishRefresh refresh
  | .systemUpdate,_ => ⟨m,m.hub.updateReads,[]⟩
  | .addonUpdate,_ => ⟨m,m.hub.securityReads,[]⟩
  | .security,_ => ⟨m,[],[]⟩
  | .faults openCount,.failed => ⟨{m with dispatching := false},[],[.securityFault openCount false]⟩
  | .faults openCount,_ => ⟨{m with dispatching := false},[],[.securityFault openCount true]⟩

def HubMirror.push : HubPush F → HubOutcome F
  | .messageCount list payload =>
    if names.matchesCentral (some payload.central) then ({m with dispatching := true}).beginRefresh (.push list payload)
    else ⟨m,[],[.messageCount list payload]⟩
  | .securityFault openCount refetched =>
    if m.hub.security.isSome then ⟨{m with dispatching := true},[.faults openCount],[]⟩
    else ⟨m,[],[.securityFault openCount refetched]⟩
  | push => ⟨{m with hub := m.hub.applyPush names push},[],[push]⟩

def HubPush.dispatched : HubPush F → Bool
  | .daemonLatency _ => false
  | _ => true

def hubReads : Handlers (HubMirror F) HubCall (HubPush F) HubRead (HubAnswer F) where
  call := HubMirror.call
  push m push := if m.dispatching && push.dispatched then none else some (m.push names push)
  settle m _ r _ answer := (m.hub.absorb names r answer).map fun hub => ({m with hub}).proceed names r answer

end Flow

-- The count push of a list tells the count and not the lines, a state push no index health, a class
-- push no grade, and a fault push whose read failed the count alone.
inductive HubPart where
  | messageCount (list : MessageList)
  | inbox
  | systemUpdate
  | addonUpdate
  | daemonConnection
  | metric (metric : Metric)
  | connectivity (interfaceId : String)
  | installMode (interface : String)
  | severity
  | faultCount
  | faults
  | report (fault : Bool)
  | activity (securityClass : String)
  deriving DecidableEq, Repr

def HubSingletonDp.valueOnly {V : Type} (dp : HubSingletonDp V) : HubSingletonDp V := ⟨dp.value,.empty⟩
def HubSingletonDp.ungraded {V : Type} (dp : HubSingletonDp V) : HubSingletonDp V :=
  ⟨dp.value,dp.attributes.erase "severity"⟩

namespace HubCoordinator
variable (names : CentralNames) (h : HubCoordinator F)

def partAt : HubPart → Option (Shown F)
  | .messageCount list => some (.count (h.messagesDp list).valueOnly)
  | .inbox => some (.count h.inboxDp)
  | .systemUpdate => some (.systemUpdate h.updateDp)
  | .addonUpdate => h.addonUpdateDp.map .addonUpdate
  | .daemonConnection => some (.flag h.daemonConnectionDp)
  | .metric metric => some (.measure (h.metricsDps.sensor metric))
  | .connectivity interfaceId => (h.connectivityDps.get? interfaceId).map .flag
  | .installMode interface => (h.installModeDps.get? interface).map .count
  | .severity => h.security.map fun s => .text s.severityDp.dp
  | .faultCount => h.security.map fun s => .count s.faultsDp.valueOnly
  | .faults => h.security.map fun s => .count s.faultsDp
  | .report fault => h.security.map fun s => .text (s.reportDp fault)
  | .activity securityClass => (h.security.bind (·.classDps.get? securityClass)).map fun dp => .flag dp.ungraded

def pushedParts : HubPush F → List HubPart
  | .inbox payload => if names.matchesCentral (some payload.central) then [.inbox] else []
  | .metrics payload =>
    if names.matchesCentral (some payload.central) then (metricSensorFor payload.metric).toList.map .metric else []
  | .connectivity payload =>
    if names.matchesCentral (some payload.central) then [.connectivity payload.interfaceId] else []
  | .messageCount list payload => if names.matchesCentral (some payload.central) then [.messageCount list] else []
  | .systemUpdate payload => if names.matchesCentral payload.central then [.systemUpdate] else []
  | .addonUpdate _ => [.addonUpdate]
  | .installMode payload =>
    if names.matchesCentral (some payload.central) then h.installModeDps.keys.map .installMode else []
  | .daemonStatus _ => [.daemonConnection]
  | .daemonLatency _ => [.metric .daemonLatency]
  | .securityState _ => [.severity]
  | .securityClass payload => [.activity payload.securityClass]
  | .securityFault _ refetched => if refetched then [.faults] else [.faultCount]
  | .securityNotification fault _ => [.report fault]

def toldAggregate (data : HubDataPoints F) : HubPart → Option (Shown F)
  | .inbox => some (.count (updateValue data.inbox .empty))
  | .daemonConnection => some (.flag (updateValue data.daemonConnected .empty))
  | .metric metric => (toldMetric metric (data.metrics.getD [])).map .measure
  | .connectivity interfaceId => (toldReachable interfaceId (data.connectivity.getD [])).map .flag
  | .installMode interface => (toldRemaining interface h.installTokenById.get? (data.installMode.getD [])).map .count
  | _ => none

def toldSecurity (snapshot : SecuritySnapshot) : HubPart → Option (Shown F)
  | .severity => some (.text (updateValue snapshot.severity (.ofList (sourcesAttribute (activeHazardSources snapshot)))))
  | .faultCount => some (.count (updateFaults (snapshot.faults.getD [])).valueOnly)
  | .faults => some (.count (updateFaults (snapshot.faults.getD [])))
  | .report fault => some (.text (updateReport (if fault then snapshot.lastFault else snapshot.lastAlarm)))
  | .activity securityClass => (toldClass securityClass snapshot).map fun dp => .flag dp.ungraded
  | _ => none

def toldFaults (dp : HubSingletonDp Int) : HubPart → Option (Shown F)
  | .faultCount => some (.count dp.valueOnly)
  | .faults => some (.count dp)
  | _ => none

def toldMessages (list : MessageList) (dp : HubSingletonDp Int) (part : HubPart) : Option (Shown F) :=
  if part = .messageCount list then some (.count dp.valueOnly) else none

def told : HubRead → HubAnswer F → HubPart → Option (Shown F)
  | .aggregate,.aggregate entries,part => (ownEntry names entries).bind (h.toldAggregate · part)
  | .messages _,.alarmMessages messages,part => toldMessages .alarm (listedAlarmMessages names messages) part
  | .messages _,.serviceMessages messages,part => toldMessages .service (listedServiceMessages names messages) part
  | .systemUpdate,.systemUpdate entries,.systemUpdate =>
    (entries.find? fun entry => names.matchesCentral entry.central).map fun entry => .systemUpdate (.updateData entry)
  | .addonUpdate,.addonUpdate status,.addonUpdate => some (.addonUpdate (.updateStatus status))
  | .security,.security snapshot,part => toldSecurity snapshot part
  | .faults _,.faults faults,part => toldFaults (updateFaults faults) part
  | .faults openCount,.failed,part =>
    h.security.bind fun s => toldFaults (updateValue openCount s.faultsDp.attributes) part
  | _,_,_ => none

end HubCoordinator

def keepsHub (names : CentralNames) (_ : Nat) (_ : HubRead) (dating : Dating) (applied : List (HubPush F))
    (m t : HubMirror F) : Prop :=
  ∀ push ∈ dating.newer applied, ∀ part ∈ m.hub.pushedParts names push, ∀ shown ∈ m.hub.partAt part,
    t.hub.partAt part = some shown

def agreesHub (names : CentralNames) (_ : Nat) (r : HubRead) (dating : Dating) (applied : List (HubPush F))
    (m : HubMirror F) (answer : HubAnswer F) : Prop :=
  ∀ push ∈ dating.newer applied, ∀ part ∈ m.hub.pushedParts names push, ∀ shown ∈ m.hub.partAt part,
    ∀ tells ∈ m.hub.told names r answer part, tells = shown

instance [DecidableEq F] (names : CentralNames) (read : Nat) (r : HubRead) (dating : Dating)
    (applied : List (HubPush F)) (m t : HubMirror F) : Decidable (keepsHub names read r dating applied m t) := by
  unfold keepsHub; infer_instance

section Absorbed
variable (h : HubCoordinator F) (names : CentralNames)
open HubCoordinator

theorem aggregate_part (data : HubDataPoints F) (part : HubPart) :
    (h.applyAggregate data).partAt part = (h.partAt part).map (h.toldAggregate data part).getD := by
  cases part with
  | metric metric =>
    have sensor := metrics_sensor metric h.metricsDps (data.metrics.getD [])
    simp only [partAt,toldAggregate,applyAggregate,sensor,Option.map_some]
    cases toldMetric metric (data.metrics.getD []) <;> rfl
  | connectivity interfaceId =>
    simp only [partAt,toldAggregate,applyAggregate,connectivity_read,Option.map_map]
    congr 1
    funext old
    cases told : toldReachable interfaceId (data.connectivity.getD []) <;> simp
  | installMode interface =>
    simp only [partAt,toldAggregate,applyAggregate,install_mode_read,Option.map_map]
    congr 1
    funext old
    cases told : toldRemaining interface h.installTokenById.get? (data.installMode.getD []) <;> simp
  | _ => first
    | rfl
    | exact Option.map_id'.symm

theorem messages_part (list : MessageList) (dp : HubSingletonDp Int) (part : HubPart) :
    (h.updateMessages list dp).partAt part = (h.partAt part).map (toldMessages list dp part).getD := by
  have beside : part ≠ .messageCount list → (h.updateMessages list dp).partAt part = h.partAt part := by
    intro other
    cases list <;> cases part <;> first
      | rfl
      | (rename_i of; cases of <;> first | rfl | exact absurd rfl other)
  by_cases here : part = .messageCount list
  · subst here
    cases list <;> simp [partAt,toldMessages,updateMessages,messagesDp]
  · rw [beside here,toldMessages,if_neg here]
    exact Option.map_id'.symm

theorem faults_part (dp : HubSingletonDp Int) (part : HubPart) :
    (h.updateSecurity ({· with faultsDp := dp})).partAt part = (h.partAt part).map (toldFaults dp part).getD := by
  cases h with | mk _ _ _ _ _ _ _ _ _ _ security =>
  cases security <;> cases part <;> first
    | rfl
    | exact Option.map_id'.symm

theorem refreshed_part (snapshot : SecuritySnapshot) (part : HubPart) (shown : Shown F)
    (there : h.partAt part = some shown) :
    (h.refreshSecurity snapshot).partAt part = some ((toldSecurity snapshot part).getD shown) := by
  have built : ∀ s, h.security = some s → (h.refreshSecurity snapshot).security = some (s.refresh snapshot) := by
    intro s known
    simp only [refreshSecurity,known,Option.map_some]
  cases part with
  | severity =>
    obtain ⟨s,known,rfl⟩ := Option.map_eq_some_iff.mp there
    simp only [partAt,built s known,Option.map_some,refreshed_severity]
    rfl
  | faultCount =>
    obtain ⟨s,known,rfl⟩ := Option.map_eq_some_iff.mp there
    simp only [partAt,built s known,Option.map_some,refreshed_faults]
    rfl
  | faults =>
    obtain ⟨s,known,rfl⟩ := Option.map_eq_some_iff.mp there
    simp only [partAt,built s known,Option.map_some,refreshed_faults]
    rfl
  | report fault =>
    obtain ⟨s,known,rfl⟩ := Option.map_eq_some_iff.mp there
    simp only [partAt,built s known,Option.map_some,refreshed_report]
    rfl
  | activity securityClass =>
    obtain ⟨dp,found,rfl⟩ := Option.map_eq_some_iff.mp there
    obtain ⟨s,known,stored⟩ := Option.bind_eq_some_iff.mp found
    simp only [partAt,built s known,Option.bind_some,refreshed_class,stored,toldSecurity]
    cases toldClass securityClass snapshot <;> rfl
  | _ => exact there

theorem absorbed_part (r : HubRead) (answer : HubAnswer F) (g : HubCoordinator F)
    (absorbed : h.absorb names r answer = some g) (part : HubPart) (shown : Shown F) (there : h.partAt part = some shown) :
    g.partAt part = some ((h.told names r answer part).getD shown) := by
  cases answer with
  | aggregate entries =>
    cases r <;> cases absorbed
    simp only [told]
    cases ownEntry names entries with
    | none => exact there
    | some data =>
      refine (aggregate_part h data part).trans ?_
      rw [there]
      rfl
  | alarmMessages messages =>
    cases r <;> simp only [absorb,reduceCtorEq,Option.ite_none_right_eq_some,Option.some.injEq] at absorbed
    obtain ⟨_,rfl⟩ := absorbed
    rw [messages_part,there]
    rfl
  | serviceMessages messages =>
    cases r <;> simp only [absorb,reduceCtorEq,Option.ite_none_right_eq_some,Option.some.injEq] at absorbed
    obtain ⟨_,rfl⟩ := absorbed
    rw [messages_part,there]
    rfl
  | systemUpdate entries =>
    cases r <;> cases absorbed
    unfold fetchSystemUpdate
    cases own : entries.find? fun entry => names.matchesCentral entry.central with
    | none => cases part <;> simpa [told,own] using there
    | some entry => cases part <;> first
      | exact there
      | simp [partAt,told,own]
  | addonUpdate status =>
    cases r <;> cases absorbed
    cases part with
    | addonUpdate =>
      obtain ⟨dp,built,_⟩ := Option.map_eq_some_iff.mp there
      simp [partAt,fetchAddonUpdate,built,told]
    | _ => exact there
  | security snapshot =>
    cases r <;> cases absorbed
    exact refreshed_part h snapshot part shown there
  | faults faults =>
    cases r <;> cases absorbed
    rw [applyFaults,faults_part,there]
    rfl
  | failed =>
    cases r with
    | faults openCount =>
      cases absorbed
      cases known : h.security with
      | none =>
        have same : h.applyOpenCount openCount = h := by
          cases h
          cases known
          rfl
        simpa [same,told,known] using there
      | some s =>
        have counted : h.applyOpenCount openCount =
            h.updateSecurity ({· with faultsDp := updateValue openCount s.faultsDp.attributes}) := by
          simp only [applyOpenCount,updateSecurity,known,Option.map_some]
        rw [counted,faults_part,there]
        simp only [told,known,Option.bind_some,Option.map_some]
    | _ => cases absorbed; exact there

end Absorbed

section Frame
variable (m : HubMirror F)
open HubMirror

theorem refresh_list_hub (refresh : Refresh) (done : HubOutcome F) (same : done.mirror.hub = m.hub) :
    (m.refreshMessageList refresh done).mirror.hub = m.hub := by
  unfold refreshMessageList
  split
  · exact same
  · split <;> rfl

theorem finish_refresh_hub (refresh : Refresh) : (m.finishRefresh refresh).mirror.hub = m.hub := by
  cases refresh with
  | reconcileAlarm _ serviceCount => exact refresh_list_hub m _ _ rfl
  | reconcileService _ => rfl
  | push _ _ => rfl

theorem begin_refresh_hub (refresh : Refresh) : (m.beginRefresh refresh).mirror.hub = m.hub :=
  refresh_list_hub m refresh _ (finish_refresh_hub m refresh)

theorem proceed_hub (names : CentralNames) (r : HubRead) (answer : HubAnswer F) :
    (m.proceed names r answer).mirror.hub = m.hub := by
  cases r with
  | aggregate =>
    cases answer with
    | aggregate entries =>
      simp only [HubMirror.proceed]
      cases ownEntry names entries with
      | none => rfl
      | some data => exact begin_refresh_hub m _
    | _ => rfl
  | messages refresh => exact finish_refresh_hub _ refresh
  | faults _ => cases answer <;> rfl
  | _ => rfl

end Frame

theorem hub_answer_kept_iff (names : CentralNames) (m : HubMirror F) (read : Nat) (r : HubRead) (dating : Dating)
    (applied : List (HubPush F)) (answer : HubAnswer F) (o : HubOutcome F)
    (settled : (hubReads names).settle m read r dating answer = some o) :
    keepsHub names read r dating applied m o.mirror ↔ agreesHub names read r dating applied m answer := by
  obtain ⟨hub,absorbed,rfl⟩ := Option.map_eq_some_iff.mp settled
  refine forall₂_congr fun push _ => forall₂_congr fun part _ => forall₂_congr fun shown there => ?_
  rw [proceed_hub,absorbed_part m.hub names r answer hub absorbed part shown (Option.mem_def.mp there)]
  cases m.hub.told names r answer part with
  | none => simp
  | some tells => simp

-- No answer undoes what a newer push has written, exactly when every answer agrees with what the
-- singletons show there.
theorem hub_pushes_kept_iff (names : CentralNames) (first : HubCoordinator F)
    (incidents : List (Incident HubCall (HubPush F) (HubAnswer F))) :
    Every (Race.advance (hubReads names)) (Race.KeepsPushes (keepsHub names)) (.fresh (.quiet first)) incidents ↔
      Every (Race.advance (hubReads names)) (fun x e _ => Race.Unopposed (agreesHub names) x e)
        (.fresh (.quiet first)) incidents :=
  Race.keeps_iff_unopposed Race.preserves_trivial
    (fun m n r d ps a o _ settled => hub_answer_kept_iff names m n r d ps a o settled) trivial incidents

-- A third device is taught in while the answer is under way: the answer takes its push back.
theorem aggregate_undoes_inbox_push :
    let names : CentralNames := ⟨some "ccu",none⟩
    let data : HubDataPoints Int := ⟨some "ccu",0,0,2,true,none,none,none⟩
    ¬ Every (Race.advance (hubReads names)) (Race.KeepsPushes (keepsHub names))
      (.fresh (.quiet (HubCoordinator.ensureSingletons names none none []))) [
        .call .fetchHubSingletonData,
        .push (.inbox ⟨"ccu",3⟩),
        .answer 0 0 (.aggregate [data])] := by
  decide +kernel

end LoomClient.Compat
