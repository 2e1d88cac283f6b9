import LoomClient.Compat.HubReads

namespace LoomClient.Compat
open Lib Wire Store
variable {F : Type} {names : CentralNames}

-- A pass whose aggregate has no entry of this central ends there and is not full.
structure HubAnswers (F : Type) (names : CentralNames) where
  aggregate : List (HubDataPoints F)
  own : HubDataPoints F
  listed : ownEntry names aggregate = some own
  alarmMessages : List AlarmMessage
  serviceMessages : List ServiceMessage
  systemUpdate : List SystemUpdateEntry
  addonUpdate : AddonUpdateStatus
  security : SecuritySnapshot
  interfaces : List InterfaceState

def HubAnswers.messages (a : HubAnswers F names) : MessageList → HubSingletonDp Int
  | .alarm => HubCoordinator.listedAlarmMessages names a.alarmMessages
  | .service => HubCoordinator.listedServiceMessages names a.serviceMessages

def HubAnswers.count (a : HubAnswers F names) : MessageList → Int
  | .alarm => a.own.alarmMessages
  | .service => a.own.serviceMessages

section Pass
variable (a : HubAnswers F names) (h : HubCoordinator F)

-- A list is read again only where its count has moved.
def refreshList (list : MessageList) : HubCoordinator F :=
  if (h.messagesDp list).value = some (a.count list) then h else h.updateMessages list (a.messages list)

-- `fetch_hub_singleton_data` from end to end, nothing else running.
def fetchHub : HubCoordinator F :=
  let lists := refreshList a (refreshList a (h.applyAggregate a.own) .alarm) .service
  ((lists.fetchSystemUpdate names a.systemUpdate).fetchAddonUpdate a.addonUpdate).refreshSecurity a.security

def built : HubCoordinator F := .ensureSingletons names (some a.addonUpdate) (some a.security) a.interfaces

-- Every singleton shows what it would show on a coordinator that is built now.
def Healed : Prop := ∀ k, (fetchHub a h).shownAt k = (fetchHub a (built a)).shownAt k

-- A list whose count has not moved has the lines already. What the answers leave unmentioned was
-- never observed, and no class sensor stands for a class that is gone.
structure Heals : Prop where
  messages : ∀ list, (h.messagesDp list).value = some (a.count list) → h.messagesDp list = a.messages list
  metrics : ∀ metric, toldMetric metric (a.own.metrics.getD []) = none → h.metricsDps.sensor metric = .unobserved
  connectivity : ∀ interfaceId,
    (interfaceId ∈ h.connectivityDps ↔ ∃ state ∈ ownInterfaces names a.interfaces, state.id = interfaceId) ∧
    (toldReachable interfaceId (a.own.connectivity.getD []) = none →
      ∀ dp ∈ h.connectivityDps.get? interfaceId, dp = .unobserved)
  installMode : ∀ interface,
    (interface ∈ h.installModeDps ↔ interface ∈ HubCoordinator.installModeInterfaces ∧
      ∃ state ∈ ownInterfaces names a.interfaces, state.interface = interface) ∧
    ∀ dp ∈ h.installModeDps.get? interface,
      (toldRemaining interface h.installTokenById.get? (a.own.installMode.getD [])).getD dp =
        (toldRemaining interface (tokenOf names a.interfaces) (a.own.installMode.getD [])).getD .unobserved
  systemUpdate : (∀ entry ∈ a.systemUpdate, names.matchesCentral entry.central = false) → h.updateDp = .built
  addonUpdate : h.addonUpdateDp.isSome = a.addonUpdate.supported
  security : ∃ s, h.security = some s ∧
    (a.security.indexHealthy = none → s.severityDp.indexHealthy ≠ some false) ∧
    ∀ securityClass ∈ s.classDps, ∃ state ∈ a.security.classes, state.securityClass = securityClass

def listAfter (list : MessageList) : HubSingletonDp Int :=
  if (h.messagesDp list).value = some (a.count list) then h.messagesDp list else a.messages list

theorem refresh_list_after (list : MessageList) : refreshList a h list = h.updateMessages list (listAfter a h list) := by
  unfold refreshList listAfter
  split
  · cases list <;> rfl
  · rfl

def ownUpdate (names : CentralNames) (entries : List SystemUpdateEntry) : Option SystemUpdateDp :=
  (entries.find? fun entry => names.matchesCentral entry.central).map .updateData

theorem system_update_after (entries : List SystemUpdateEntry) :
    h.fetchSystemUpdate names entries = {h with updateDp := (ownUpdate names entries).getD h.updateDp} := by
  unfold HubCoordinator.fetchSystemUpdate ownUpdate
  cases entries.find? fun entry => names.matchesCentral entry.central <;> rfl

theorem fetch_hub_fields : fetchHub a h = {h with
    alarmMessagesDp := listAfter a h .alarm
    serviceMessagesDp := listAfter a h .service
    inboxDp := updateValue a.own.inbox .empty
    updateDp := (ownUpdate names a.systemUpdate).getD h.updateDp
    addonUpdateDp := h.addonUpdateDp.map fun _ => .updateStatus a.addonUpdate
    daemonConnectionDp := updateValue a.own.daemonConnected .empty
    metricsDps := applyMetrics h.metricsDps (a.own.metrics.getD [])
    connectivityDps := applyConnectivity h.connectivityDps (a.own.connectivity.getD [])
    installModeDps := applyInstallMode h.installTokenById h.installModeDps (a.own.installMode.getD [])
    security := h.security.map (·.refresh a.security)} := by
  simp only [fetchHub,refresh_list_after,system_update_after]
  rfl

theorem fetched_messages (list : MessageList) : (fetchHub a h).messagesDp list = listAfter a h list := by
  rw [fetch_hub_fields]
  cases list <;> rfl

theorem built_fields : {built a with connectivityDps := .empty, installModeDps := .empty, installTokenById := .empty} =
    {HubCoordinator.unread with
      addonUpdateDp := ((some a.addonUpdate).filter (·.supported)).map AddonUpdateDp.updateStatus
      daemonConnectionDp := updateValue true .empty
      security := some (SecuritySingletons.built.refresh a.security)} := built_beside _ _ _ _

theorem messages_healed_iff (list : MessageList) :
    (fetchHub a h).shownAt (.messages list) = (fetchHub a (built a)).shownAt (.messages list) ↔
      ((h.messagesDp list).value = some (a.count list) → h.messagesDp list = a.messages list) := by
  have unread : (built a).messagesDp list = .unobserved := by
    cases list
    · exact (congrArg HubCoordinator.alarmMessagesDp (built_fields a) :)
    · exact (congrArg HubCoordinator.serviceMessagesDp (built_fields a) :)
  have anew : listAfter a (built a) list = a.messages list := by
    rw [listAfter,unread]
    rfl
  simp only [HubCoordinator.shownAt,fetched_messages,anew,Option.some.injEq,Shown.count.injEq]
  exact ite_eq_right_iff

theorem metric_healed_iff (metric : Metric) :
    (fetchHub a h).shownAt (.metric metric) = (fetchHub a (built a)).shownAt (.metric metric) ↔
      (toldMetric metric (a.own.metrics.getD []) = none → h.metricsDps.sensor metric = .unobserved) := by
  have unread : (built a).metricsDps = .built :=
    (congrArg HubCoordinator.metricsDps (built_fields a) :)
  have unobserved : (MetricsDpType.built : MetricsDpType F).sensor metric = .unobserved := by cases metric <;> rfl
  simp only [HubCoordinator.shownAt,fetch_hub_fields,metrics_sensor,unread,unobserved,Option.some.injEq,
    Shown.measure.injEq]
  cases toldMetric metric (a.own.metrics.getD []) <;> simp

theorem connectivity_healed_iff (interfaceId : String) :
    (fetchHub a h).shownAt (.connectivity interfaceId) = (fetchHub a (built a)).shownAt (.connectivity interfaceId) ↔
      (interfaceId ∈ h.connectivityDps ↔ ∃ state ∈ ownInterfaces names a.interfaces, state.id = interfaceId) ∧
      (toldReachable interfaceId (a.own.connectivity.getD []) = none →
        ∀ dp ∈ h.connectivityDps.get? interfaceId, dp = .unobserved) := by
  rw [←last_written_listed,Dict.mem_iff_get?]
  simp only [HubCoordinator.shownAt,fetch_hub_fields,connectivity_read]
  rw [show (built a).connectivityDps.get? interfaceId = _ from built_connectivity _ _ _ _ interfaceId]
  cases lastWritten (·.id) interfaceId (ownInterfaces names a.interfaces) <;>
    cases h.connectivityDps.get? interfaceId <;>
    cases toldReachable interfaceId (a.own.connectivity.getD []) <;> simp

theorem install_mode_healed_iff (interface : String) :
    (fetchHub a h).shownAt (.installMode interface) = (fetchHub a (built a)).shownAt (.installMode interface) ↔
      (interface ∈ h.installModeDps ↔ interface ∈ HubCoordinator.installModeInterfaces ∧
        ∃ state ∈ ownInterfaces names a.interfaces, state.interface = interface) ∧
      ∀ dp ∈ h.installModeDps.get? interface,
        (toldRemaining interface h.installTokenById.get? (a.own.installMode.getD [])).getD dp =
          (toldRemaining interface (tokenOf names a.interfaces) (a.own.installMode.getD [])).getD .unobserved := by
  have paired_listed : (interface ∈ HubCoordinator.installModeInterfaces ∧
      ∃ state ∈ ownInterfaces names a.interfaces, state.interface = interface) ↔
      ∃ state ∈ ownInterfaces names a.interfaces, (paired state).map (·.interface) = some interface := by
    constructor
    · intro ⟨pair,state,member,same⟩
      exact ⟨state,member,by simp [paired,same,pair]⟩
    · intro ⟨state,member,same⟩
      obtain ⟨pair,rfl⟩ : state.interface ∈ HubCoordinator.installModeInterfaces ∧ state.interface = interface := by
        simpa [paired] using same
      exact ⟨pair,state,member,rfl⟩
  have token : (built a).installTokenById.get? = tokenOf names a.interfaces := funext (built_token _ _ _ _)
  rw [paired_listed,←last_written_listed,Dict.mem_iff_get?]
  simp only [HubCoordinator.shownAt,fetch_hub_fields,install_mode_read,token]
  rw [show (built a).installModeDps.get? interface = _ from built_install_mode _ _ _ _ interface]
  cases lastWritten (fun state => (paired state).map (·.interface)) (some interface)
      (ownInterfaces names a.interfaces) <;>
    cases h.installModeDps.get? interface <;> simp

theorem system_update_healed_iff :
    (fetchHub a h).shownAt .systemUpdate = (fetchHub a (built a)).shownAt .systemUpdate ↔
      ((∀ entry ∈ a.systemUpdate, names.matchesCentral entry.central = false) → h.updateDp = .built) := by
  have unread : (built a).updateDp = .built :=
    (congrArg HubCoordinator.updateDp (built_fields a) :)
  have none_listed : ownUpdate names a.systemUpdate = none ↔
      ∀ entry ∈ a.systemUpdate, names.matchesCentral entry.central = false := by
    simp [ownUpdate]
  rw [←none_listed]
  simp only [HubCoordinator.shownAt,fetch_hub_fields,unread,Option.some.injEq,Shown.systemUpdate.injEq]
  cases ownUpdate names a.systemUpdate <;> simp

theorem addon_update_healed_iff :
    (fetchHub a h).shownAt .addonUpdate = (fetchHub a (built a)).shownAt .addonUpdate ↔
      h.addonUpdateDp.isSome = a.addonUpdate.supported := by
  have fresh : (built a).addonUpdateDp = ((some a.addonUpdate).filter (·.supported)).map AddonUpdateDp.updateStatus :=
    (congrArg HubCoordinator.addonUpdateDp (built_fields a) :)
  simp only [HubCoordinator.shownAt,fetch_hub_fields,fresh]
  cases h.addonUpdateDp <;> cases supported : a.addonUpdate.supported <;> simp [Option.filter,supported]

theorem built_security : (built a).security = some (SecuritySingletons.built.refresh a.security) :=
  (congrArg HubCoordinator.security (built_fields a) :)

theorem unbuilt_security_unhealed (missing : h.security = none) :
    (fetchHub a h).shownAt .securityFaults ≠ (fetchHub a (built a)).shownAt .securityFaults := by
  simp [HubCoordinator.shownAt,fetch_hub_fields,missing,built_security]

variable {h} {s : SecuritySingletons}

theorem severity_healed_iff (known : h.security = some s) :
    (fetchHub a h).shownAt .securitySeverity = (fetchHub a (built a)).shownAt .securitySeverity ↔
      (a.security.indexHealthy = none → s.severityDp.indexHealthy ≠ some false) := by
  -- The index flag is no attribute of the sources, so showing it is a difference.
  have unlisted : (Dict.ofList (sourcesAttribute (activeHazardSources a.security))).get? "index_healthy" = none := by
    simp [sourcesAttribute,Dict.ofList,Dict.get?_set]
  have flagged : (Dict.ofList (sourcesAttribute (activeHazardSources a.security))).set "index_healthy" (.flag false) ≠
      Dict.ofList (sourcesAttribute (activeHazardSources a.security)) := by
    intro same
    rw [←same,Dict.get?_set_self] at unlisted
    cases unlisted
  simp only [HubCoordinator.shownAt,fetch_hub_fields,known,built_security,Option.map_some,refreshed_severity,
    Option.some.injEq,Shown.text.injEq,HubSingletonDp.mk.injEq,SecuritySeveritySensor.attributes,SecuritySeveritySensor.updateSeverity,
    SecuritySingletons.built,SecuritySeveritySensor.built,updateValue]
  cases a.security.indexHealthy with
  | some healthy => simp
  | none =>
    by_cases degraded : s.severityDp.indexHealthy = some false
    · simp [degraded,flagged]
    · simp [degraded]

theorem faults_healed (known : h.security = some s) :
    (fetchHub a h).shownAt .securityFaults = (fetchHub a (built a)).shownAt .securityFaults := by
  simp only [HubCoordinator.shownAt,fetch_hub_fields,known,built_security,Option.map_some,refreshed_faults]

theorem report_healed (known : h.security = some s) (fault : Bool) :
    (fetchHub a h).shownAt (.securityReport fault) = (fetchHub a (built a)).shownAt (.securityReport fault) := by
  simp only [HubCoordinator.shownAt,fetch_hub_fields,known,built_security,Option.map_some,refreshed_report]

theorem class_healed_iff (known : h.security = some s) (securityClass : String) :
    (fetchHub a h).shownAt (.securityClass securityClass) = (fetchHub a (built a)).shownAt (.securityClass securityClass) ↔
      (securityClass ∈ s.classDps → ∃ state ∈ a.security.classes, state.securityClass = securityClass) := by
  have first : SecuritySingletons.built.classDps.get? securityClass = none := rfl
  rw [←last_written_listed,Dict.mem_iff_get?]
  simp only [HubCoordinator.shownAt,fetch_hub_fields,known,built_security,Option.map_some,Option.bind_some,
    refreshed_class,first,toldClass]
  cases lastWritten (·.securityClass) securityClass a.security.classes <;>
    cases s.classDps.get? securityClass <;> simp

theorem healed_iff (h : HubCoordinator F) : Healed a h ↔ Heals a h := by
  constructor
  · intro all
    obtain ⟨s,known⟩ : ∃ s, h.security = some s :=
      Option.ne_none_iff_exists'.mp fun missing => unbuilt_security_unhealed a h missing (all .securityFaults)
    exact {
      messages := fun list => (messages_healed_iff a h list).mp (all _)
      metrics := fun metric => (metric_healed_iff a h metric).mp (all _)
      connectivity := fun interfaceId => (connectivity_healed_iff a h interfaceId).mp (all _)
      installMode := fun interface => (install_mode_healed_iff a h interface).mp (all _)
      systemUpdate := (system_update_healed_iff a h).mp (all _)
      addonUpdate := (addon_update_healed_iff a h).mp (all _)
      security := ⟨s,known,(severity_healed_iff a known).mp (all _),
        fun securityClass => (class_healed_iff a known securityClass).mp (all _)⟩}
  · intro heals k
    obtain ⟨s,known,index,classes⟩ := heals.security
    cases k with
    | messages list => exact (messages_healed_iff a h list).mpr (heals.messages list)
    | inbox => simp only [HubCoordinator.shownAt,fetch_hub_fields]
    | systemUpdate => exact (system_update_healed_iff a h).mpr heals.systemUpdate
    | addonUpdate => exact (addon_update_healed_iff a h).mpr heals.addonUpdate
    | daemonConnection => simp only [HubCoordinator.shownAt,fetch_hub_fields]
    | metric metric => exact (metric_healed_iff a h metric).mpr (heals.metrics metric)
    | connectivity interfaceId => exact (connectivity_healed_iff a h interfaceId).mpr (heals.connectivity interfaceId)
    | installMode interface => exact (install_mode_healed_iff a h interface).mpr (heals.installMode interface)
    | securitySeverity => exact (severity_healed_iff a known).mpr index
    | securityFaults => exact faults_healed a known
    | securityReport fault => exact report_healed a known fault
    | securityClass securityClass => exact (class_healed_iff a known securityClass).mpr (classes securityClass)

end Pass

section Alone
variable (a : HubAnswers F names)

def HubAnswers.answerOf : HubRead → HubAnswer F
  | .aggregate => .aggregate a.aggregate
  | .messages refresh => match refresh.list with
    | .alarm => .alarmMessages a.alarmMessages
    | .service => .serviceMessages a.serviceMessages
  | .systemUpdate => .systemUpdate a.systemUpdate
  | .addonUpdate => .addonUpdate a.addonUpdate
  | .security => .security a.security
  | .faults _ => .failed

def Answered (e : Incident HubCall (HubPush F) (HubAnswer F)) : Prop := ∃ read asOf r, e = .answer read asOf (a.answerOf r)

def LeadsTo (m : HubMirror F) (r : HubRead) (final : HubCoordinator F) : Prop :=
  ∀ (x : Race (HubMirror F) (HubPush F) HubRead) (read d : Nat), x.mirror = m → x.reads.get? read = some (r,d) →
    ∃ incidents y, (∀ e ∈ incidents, Answered a e) ∧ run (Race.advance (hubReads names)) x incidents = some y ∧
      y.mirror = .quiet final

variable {a} {m : HubMirror F} {r next : HubRead} {o : HubOutcome F} {final : HubCoordinator F}

theorem leads_home (settled : ∀ read d, (hubReads names).settle m read r d (a.answerOf r) = some o)
    (home : o.mirror = .quiet final) : LeadsTo a m r final := by
  rintro x read d rfl under_way
  obtain ⟨y,moved,mirror,_⟩ := Race.advance_read under_way (settled read ⟨d,0⟩)
  refine ⟨[.answer read 0 (a.answerOf r)],y,?_,by simp [run,moved],mirror.trans home⟩
  intro e member
  exact ⟨read,0,r,List.mem_singleton.mp member⟩

theorem leads_on (settled : ∀ read d, (hubReads names).settle m read r d (a.answerOf r) = some o)
    (one : o.reads = [next]) (later : LeadsTo a o.mirror next final) : LeadsTo a m r final := by
  rintro x read d rfl under_way
  obtain ⟨y,moved,mirror,asked⟩ := Race.advance_read under_way (settled read ⟨d,0⟩)
  obtain ⟨n,d',follows⟩ := asked next one
  obtain ⟨incidents,z,answered,path,quiet⟩ := later y n d' mirror follows
  refine ⟨.answer read 0 (a.answerOf r) :: incidents,z,?_,by simp [run,moved,path],quiet⟩
  intro e member
  rcases List.mem_cons.mp member with rfl | member
  · exact ⟨read,0,r,rfl⟩
  · exact answered e member

variable (a) (h : HubCoordinator F)

theorem security_leads : LeadsTo a (.quiet h) .security (h.refreshSecurity a.security) :=
  leads_home (fun _ _ => rfl) rfl

theorem refresh_unbuilt (missing : h.security = none) (snapshot : SecuritySnapshot) : h.refreshSecurity snapshot = h := by
  cases h
  cases missing
  rfl

theorem addon_unbuilt (missing : h.addonUpdateDp = none) (status : AddonUpdateStatus) : h.fetchAddonUpdate status = h := by
  cases h
  cases missing
  rfl

theorem addon_leads :
    LeadsTo a (.quiet h) .addonUpdate ((h.fetchAddonUpdate a.addonUpdate).refreshSecurity a.security) := by
  let after := h.fetchAddonUpdate a.addonUpdate
  have settled : ∀ read d, (hubReads names).settle (.quiet h) read .addonUpdate d (a.answerOf .addonUpdate) =
      some ⟨.quiet after,after.securityReads,[]⟩ := fun _ _ => rfl
  cases known : after.security with
  | none => exact leads_home settled (congrArg HubMirror.quiet (refresh_unbuilt after known _).symm)
  | some s => exact leads_on settled (by simp [HubCoordinator.securityReads,known]) (security_leads a after)

def updates : HubCoordinator F :=
  ((h.fetchSystemUpdate names a.systemUpdate).fetchAddonUpdate a.addonUpdate).refreshSecurity a.security

theorem system_update_leads : LeadsTo a (.quiet h) .systemUpdate (updates a h) := by
  let after := h.fetchSystemUpdate names a.systemUpdate
  have settled : ∀ read d, (hubReads names).settle (.quiet h) read .systemUpdate d (a.answerOf .systemUpdate) =
      some ⟨.quiet after,after.updateReads,[]⟩ := fun _ _ => rfl
  cases addon : after.addonUpdateDp with
  | some dp => exact leads_on settled (by simp [HubCoordinator.updateReads,addon]) (addon_leads a after)
  | none =>
    have same : updates a h = after.refreshSecurity a.security :=
      congrArg (HubCoordinator.refreshSecurity · a.security) (addon_unbuilt after addon _)
    cases known : after.security with
    | none => exact leads_home settled (congrArg HubMirror.quiet (same.trans (refresh_unbuilt after known _)).symm)
    | some s =>
      rw [same]
      exact leads_on settled (by simp [HubCoordinator.updateReads,HubCoordinator.securityReads,addon,known])
        (security_leads a after)

def reading (list : MessageList) : HubMirror F := ⟨h,[list],[],false⟩

theorem service_leads (count : Int) : LeadsTo a (reading h .service) (.messages (.reconcileService count))
    (updates a (h.updateMessages .service (a.messages .service))) :=
  leads_on (fun _ _ => rfl) rfl (system_update_leads a _)

theorem quiet_refresh (refresh : Refresh) (done : HubOutcome F) :
    (HubMirror.quiet h).refreshMessageList refresh done =
      if (h.messagesDp refresh.list).value = some refresh.count then done
      else ⟨reading h refresh.list,[.messages refresh],[]⟩ := by
  simp [HubMirror.refreshMessageList,HubMirror.quiet,reading]

theorem service_refresh_leads
    (settled : ∀ read d, (hubReads names).settle m read r d (a.answerOf r) =
      some ((HubMirror.quiet h).refreshMessageList (.reconcileService a.own.serviceMessages) ⟨.quiet h,[.systemUpdate],[]⟩)) :
    LeadsTo a m r (updates a (refreshList a h .service)) := by
  rw [quiet_refresh] at settled
  by_cases same : (h.messagesDp .service).value = some a.own.serviceMessages
  · rw [show refreshList a h .service = h from if_pos same]
    exact leads_on (fun read d => (settled read d).trans (congrArg some (if_pos same))) rfl (system_update_leads a h)
  · rw [show refreshList a h .service = h.updateMessages .service (a.messages .service) from if_neg same]
    exact leads_on (fun read d => (settled read d).trans (congrArg some (if_neg same))) rfl (service_leads a h _)

theorem alarm_leads (count : Int) :
    LeadsTo a (reading h .alarm) (.messages (.reconcileAlarm count a.own.serviceMessages))
      (updates a (refreshList a (h.updateMessages .alarm (a.messages .alarm)) .service)) :=
  service_refresh_leads a _ fun _ _ => rfl

theorem aggregate_leads : LeadsTo a (.quiet h) .aggregate (fetchHub a h) := by
  let after := h.applyAggregate a.own
  let count := a.own.alarmMessages
  have settled : ∀ read d, (hubReads names).settle (.quiet h) read .aggregate d (a.answerOf .aggregate) =
      some ((HubMirror.quiet after).beginRefresh (.reconcileAlarm count a.own.serviceMessages)) := by
    intro read d
    simp only [hubReads,HubAnswers.answerOf,HubCoordinator.absorb,HubMirror.proceed,a.listed,Option.map_some]
    rfl
  by_cases same : (after.messagesDp .alarm).value = some count
  · have began : (HubMirror.quiet after).beginRefresh (.reconcileAlarm count a.own.serviceMessages) =
        (HubMirror.quiet after).finishRefresh (.reconcileAlarm count a.own.serviceMessages) :=
      (quiet_refresh after _ _).trans (if_pos same)
    rw [began] at settled
    have kept : fetchHub a h = updates a (refreshList a after .service) :=
      congrArg (fun lists => updates a (refreshList a lists .service)) (if_pos same)
    rw [kept]
    exact service_refresh_leads a after settled
  · have began : (HubMirror.quiet after).beginRefresh (.reconcileAlarm count a.own.serviceMessages) =
        ⟨reading after .alarm,[.messages (.reconcileAlarm count a.own.serviceMessages)],[]⟩ :=
      (quiet_refresh after _ _).trans (if_neg same)
    rw [began] at settled
    have read : fetchHub a h = updates a (refreshList a (after.updateMessages .alarm (a.messages .alarm)) .service) :=
      congrArg (fun lists => updates a (refreshList a lists .service)) (if_neg same)
    rw [read]
    exact leads_on settled rfl (alarm_leads a after count)

theorem pass_alone : ∃ incidents y, (∀ e ∈ incidents, Answered a e) ∧
    run (Race.advance (hubReads names)) (.fresh (.quiet h)) (.call .fetchHubSingletonData :: incidents) = some y ∧
    y.mirror = .quiet (fetchHub a h) := by
  let called : Race (HubMirror F) (HubPush F) HubRead := (Race.fresh (.quiet h)).enter ⟨.quiet h,[.aggregate],[]⟩
  obtain ⟨incidents,y,answered,path,quiet⟩ := aggregate_leads a h called 0 0 rfl rfl
  exact ⟨incidents,y,answered,path,quiet⟩

end Alone

theorem reconcile_heals_iff (first : HubCoordinator F) (incidents : List (Incident HubCall (HubPush F) (HubAnswer F)))
    (later : HubAnswers F names) :
    Always (Race.advance (hubReads names)) (fun x => Healed later x.mirror.hub ↔ Heals later x.mirror.hub)
      (.fresh (.quiet first)) incidents :=
  always_of_invariant (healed_iff later first) fun _ _ y _ _ => healed_iff later y.mirror.hub

-- The daemon has no source of the class any more and lists none, and that push is missed. Every
-- later pass leaves the sensor on.
theorem reconcile_keeps_smoke :
    let names : CentralNames := ⟨some "ccu",none⟩
    let data : HubDataPoints Int := ⟨some "ccu",0,0,0,true,none,none,none⟩
    let earlier : SecuritySnapshot := ⟨"ok",[⟨"smoke",false,"ok",none⟩],none,some true,none,none⟩
    let later : HubAnswers Int names :=
      ⟨[data],data,rfl,[],[],[],⟨false,"",none,none,none,"idle",none⟩,⟨"ok",[],none,some true,none,none⟩,[]⟩
    ¬ Always (Race.advance (hubReads names)) (fun x => Healed later x.mirror.hub)
      (.fresh (.quiet (.ensureSingletons names none (some earlier) []))) [.push (.securityClass ⟨"smoke",true,none⟩)] := by
  intro names data earlier later always
  have shown := always_start always.2 (.securityClass "smoke")
  exact absurd shown (by decide +kernel)

end LoomClient.Compat
