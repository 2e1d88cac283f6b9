import LoomClient.Compat.HeldDevices
import LoomClient.Store.Records

namespace LoomClient.Compat
open Lib Wire Store
variable {F V : Type}

-- Metric values are of an arbitrary type.
inductive Attribute where
  | text (text : String)
  | flag (flag : Bool)
  | number (number : Nat)
  | texts (texts : List String)
  | record (record : Dict String String)
  | records (records : List (Dict String String))
  deriving DecidableEq

abbrev Attributes := Dict String Attribute

structure HubSingletonDp (V : Type) where
  value : Option V
  attributes : Attributes
  deriving DecidableEq

def HubSingletonDp.unobserved : HubSingletonDp V := ⟨none,.empty⟩

-- That an equal write is not announced is left out with the announcements.
def updateValue (value : V) (attributes : Attributes) : HubSingletonDp V := ⟨some value,attributes⟩

def numbered (label : String) (lines : List String) : List (String × Attribute) :=
  (lines.zipIdx 1).map fun line => (label ++ toString line.2,.text line.1)

def alarmAttribute (message : AlarmMessage) : String :=
  let label := (truthy message.displayName).getD message.name
  match message.timestamp with
  | none => label
  | some raised => label ++ " (" ++ raised ++ ")"

def serviceAttribute (message : ServiceMessage) : String :=
  match truthy message.deviceName with
  | none => message.name
  | some device => device ++ ": " ++ message.name

def updateAlarmMessages (messages : List AlarmMessage) : HubSingletonDp Int :=
  updateValue messages.length (.ofList (numbered "alarm_" (messages.map alarmAttribute)))

def updateServiceMessages (messages : List ServiceMessage) : HubSingletonDp Int :=
  updateValue messages.length (.ofList (numbered "message_" (messages.map serviceAttribute)))

-- Sources as attributes: at most twenty, and whether some were left out.
def maxAttributeSources : Nat := 20

def sourcePayload (source : AlarmSource) : Dict String String :=
  .ofList ([("ref",some source.ref),("central",source.central),("interface_id",source.interfaceId),
    ("channel_address",source.channelAddress),("device_address",source.deviceAddress),("parameter",source.parameter),
    ("name",source.name),("sensor_type",source.sensorType),("class",source.securityClass),("at",some source.at)].filterMap
      fun field => (truthy field.2).map (field.1,·))

def sourceName (source : AlarmSource) : String :=
  ((truthy source.name).or (truthy source.channelAddress)).getD source.ref

def sourcesAttribute (sources : List AlarmSource) : List (String × Attribute) :=
  let shown := sources.take maxAttributeSources
  [("sources",.records (shown.map sourcePayload)),("source_names",.texts ((shown.map sourceName).filter (· ≠ ""))),
    ("count",.number shown.length),("total",.number sources.length),("truncated",.flag (shown.length < sources.length))]

-- `_index_healthy` is shown while it is false only.
structure SecuritySeveritySensor where
  dp : HubSingletonDp String
  indexHealthy : Option Bool
  deriving DecidableEq

namespace SecuritySeveritySensor

def built : SecuritySeveritySensor := ⟨.unobserved,none⟩

def attributes (s : SecuritySeveritySensor) : Attributes :=
  if s.indexHealthy = some false then s.dp.attributes.set "index_healthy" (.flag false) else s.dp.attributes

def updateSeverity (s : SecuritySeveritySensor) (severity : String) (sources : List AlarmSource)
    (indexHealthy : Option Bool) : SecuritySeveritySensor :=
  ⟨updateValue severity (.ofList (sourcesAttribute sources)),indexHealthy.or s.indexHealthy⟩

end SecuritySeveritySensor

def faultAttribute (fault : SecurityFault) : String :=
  let reason := if fault.reason = "" then "fault" else fault.reason
  match (truthy fault.source.name).or (truthy fault.source.channelAddress) with
  | none => reason
  | some name => name ++ ": " ++ reason

def updateFaults (faults : List SecurityFault) : HubSingletonDp Int :=
  updateValue faults.length
    (.ofList (numbered "fault_" (faults.map faultAttribute) ++ sourcesAttribute (faults.map (·.source))))

-- The grade comes with a snapshot only; a push keeps the one that stands.
def updateClass (dp : HubSingletonDp Bool) (securityClass : String) (active : Bool) (severity : Option String)
    (sources : List AlarmSource) : HubSingletonDp Bool :=
  let graded := (severity.map Attribute.text).or (dp.attributes.get? "severity")
  updateValue active (.ofList (("security_class",.text securityClass) :: (graded.toList.map ("severity",·) ++
    sourcesAttribute sources)))

def updateReport : Option SecurityNotification → HubSingletonDp String
  | none => .unobserved
  | some report => updateValue report.subject (.ofList (
      ([("message",report.message),("security_class",report.securityClass),("severity",report.severity),
        ("verb",report.verb),("i18n_key",report.i18nKey)].filter (·.2 ≠ "")).map (fun field => (field.1,.text field.2)) ++
      (report.args.filter (·.entries ≠ [])).toList.map (("args",.record ·)) ++
      (truthy report.zoneName).toList.map (("zone_name",.text ·)) ++ [("at",.text report.at)] ++
      sourcesAttribute (report.sources.getD [])))

structure SystemUpdateDp where
  currentFirmware : String
  availableFirmware : String
  updateAvailable : Bool
  inProgress : Bool
  deriving DecidableEq, Repr

def SystemUpdateDp.built : SystemUpdateDp := ⟨"","",false,false⟩

def SystemUpdateDp.updateData (entry : SystemUpdateEntry) : SystemUpdateDp :=
  ⟨entry.currentFirmware.getD "",entry.availableFirmware.getD "",entry.updateAvailable,entry.inProgress⟩

structure AddonUpdateDp where
  currentFirmware : String
  availableFirmware : String
  updateAvailable : Bool
  state : String
  releaseUrl : Option String
  error : Option String
  deriving DecidableEq, Repr

def AddonUpdateDp.updateStatus (status : AddonUpdateStatus) : AddonUpdateDp :=
  ⟨status.currentVersion,status.latestVersion.getD "",status.updateAvailable.getD false,status.state,
    status.releaseUrl,status.error⟩

inductive Metric where
  | systemHealth | connectionLatency | lastEventAge | daemonLatency
  deriving DecidableEq, Repr

structure MetricsDpType (F : Type) where
  systemHealth : HubSingletonDp F
  connectionLatency : HubSingletonDp F
  lastEventAge : HubSingletonDp F
  daemonLatency : HubSingletonDp F
  deriving DecidableEq

namespace MetricsDpType

def built : MetricsDpType F := ⟨.unobserved,.unobserved,.unobserved,.unobserved⟩

def sensor (ms : MetricsDpType F) : Metric → HubSingletonDp F
  | .systemHealth => ms.systemHealth
  | .connectionLatency => ms.connectionLatency
  | .lastEventAge => ms.lastEventAge
  | .daemonLatency => ms.daemonLatency

def update (ms : MetricsDpType F) (metric : Metric) (value : F) : MetricsDpType F :=
  let dp := updateValue value .empty
  match metric with
  | .systemHealth => {ms with systemHealth := dp}
  | .connectionLatency => {ms with connectionLatency := dp}
  | .lastEventAge => {ms with lastEventAge := dp}
  | .daemonLatency => {ms with daemonLatency := dp}

theorem sensor_update (ms : MetricsDpType F) (metric other : Metric) (value : F) :
    (ms.update metric value).sensor other = if metric = other then updateValue value .empty else ms.sensor other := by
  cases metric <;> cases other <;> rfl

end MetricsDpType

-- Either spelling of a metric's name. The round trip to the daemon has none.
def metricSensorFor : String → Option Metric
  | "system_health" => some .systemHealth
  | "connection_latency" => some .connectionLatency
  | "connection_latency_ms" => some .connectionLatency
  | "last_event_age" => some .lastEventAge
  | "last_event_age_seconds" => some .lastEventAge
  | _ => none

def applyMetric (ms : MetricsDpType F) (name : String) (value : F) : MetricsDpType F :=
  match metricSensorFor name with
  | none => ms
  | some metric => ms.update metric value

def applyMetrics (ms : MetricsDpType F) (metrics : List (HubMetricDataPoint F)) : MetricsDpType F :=
  metrics.foldl (fun ms metric => applyMetric ms metric.legacyName metric.value) ms

def applyReachable (dps : Dict String (HubSingletonDp Bool)) (entry : HubConnectivityDataPoint) :
    Dict String (HubSingletonDp Bool) :=
  dps.modify entry.interfaceId fun _ => updateValue entry.reachable .empty

def applyConnectivity (dps : Dict String (HubSingletonDp Bool)) (entries : List HubConnectivityDataPoint) :
    Dict String (HubSingletonDp Bool) := entries.foldl applyReachable dps

def remaining (enabled : Bool) (remainingS : Int) : HubSingletonDp Int :=
  updateValue (if enabled then remainingS else 0) .empty

-- The aggregate names an interface by its wire id, the pair stands under the bare name.
def applyCountdown (tokens : Dict String String) (dps : Dict String (HubSingletonDp Int))
    (entry : HubInstallModeDataPoint) : Dict String (HubSingletonDp Int) :=
  match tokens.get? entry.interfaceId with
  | none => dps
  | some interface => dps.modify interface fun _ => remaining entry.enabled entry.remainingS

def applyInstallMode (tokens : Dict String String) (dps : Dict String (HubSingletonDp Int))
    (entries : List HubInstallModeDataPoint) : Dict String (HubSingletonDp Int) := entries.foldl (applyCountdown tokens) dps

structure SecuritySingletons where
  severityDp : SecuritySeveritySensor
  faultsDp : HubSingletonDp Int
  alarmReportDp : HubSingletonDp String
  faultReportDp : HubSingletonDp String
  classDps : Dict String (HubSingletonDp Bool)
  deriving DecidableEq

-- The buttons of the install mode hold nothing.
structure HubCoordinator (F : Type) where
  alarmMessagesDp : HubSingletonDp Int
  serviceMessagesDp : HubSingletonDp Int
  inboxDp : HubSingletonDp Int
  updateDp : SystemUpdateDp
  addonUpdateDp : Option AddonUpdateDp
  daemonConnectionDp : HubSingletonDp Bool
  metricsDps : MetricsDpType F
  connectivityDps : Dict String (HubSingletonDp Bool)
  installModeDps : Dict String (HubSingletonDp Int)
  installTokenById : Dict String String
  security : Option SecuritySingletons
  deriving DecidableEq

inductive MessageList where
  | «alarm» | service
  deriving DecidableEq, Repr

namespace HubCoordinator
variable (h : HubCoordinator F)

def messagesDp : MessageList → HubSingletonDp Int
  | .alarm => h.alarmMessagesDp
  | .service => h.serviceMessagesDp

def applyInboxCount (count : Int) : HubCoordinator F := {h with inboxDp := updateValue count .empty}

def applyDaemonConnection (connected : Bool) : HubCoordinator F :=
  {h with daemonConnectionDp := updateValue connected .empty}

def applyAggregate (data : HubDataPoints F) : HubCoordinator F :=
  {(h.applyInboxCount data.inbox).applyDaemonConnection data.daemonConnected with
    metricsDps := applyMetrics h.metricsDps (data.metrics.getD [])
    connectivityDps := applyConnectivity h.connectivityDps (data.connectivity.getD [])
    installModeDps := applyInstallMode h.installTokenById h.installModeDps (data.installMode.getD [])}

def updateMessages : MessageList → HubSingletonDp Int → HubCoordinator F
  | .alarm,dp => {h with alarmMessagesDp := dp}
  | .service,dp => {h with serviceMessagesDp := dp}

end HubCoordinator

def activeHazardSources (snapshot : SecuritySnapshot) : List AlarmSource :=
  (snapshot.classes.filter (·.active)).flatMap (·.sources.getD [])

namespace SecuritySingletons
variable (s : SecuritySingletons)

def built : SecuritySingletons := ⟨.built,.unobserved,.unobserved,.unobserved,.empty⟩

def updateClassDp (securityClass : String) (active : Bool) (severity : Option String) (sources : List AlarmSource) :
    SecuritySingletons :=
  let dp := (s.classDps.get? securityClass).getD .unobserved
  {s with classDps := s.classDps.set securityClass (updateClass dp securityClass active severity sources)}

def applyClass (state : SecurityClassState) : SecuritySingletons :=
  s.updateClassDp state.securityClass state.active (some state.severity) (state.sources.getD [])

def refresh (snapshot : SecuritySnapshot) : SecuritySingletons :=
  snapshot.classes.foldl applyClass {s with
    severityDp := s.severityDp.updateSeverity snapshot.severity (activeHazardSources snapshot) snapshot.indexHealthy
    faultsDp := updateFaults (snapshot.faults.getD [])
    alarmReportDp := updateReport snapshot.lastAlarm
    faultReportDp := updateReport snapshot.lastFault}

end SecuritySingletons

namespace HubCoordinator
variable (names : CentralNames)

-- `none` is a read that failed or that the daemon does not serve.
def installModeInterfaces : List String := ["HmIP-RF","BidCos-RF"]

def buildInterface (h : HubCoordinator F) (state : InterfaceState) : HubCoordinator F :=
  let connected := {h with connectivityDps := h.connectivityDps.set state.id .unobserved}
  if state.interface ∈ installModeInterfaces then
    {connected with
      installModeDps := h.installModeDps.set state.interface .unobserved
      installTokenById := h.installTokenById.set state.id state.interface}
  else connected

def unread : HubCoordinator F :=
  ⟨.unobserved,.unobserved,.unobserved,.built,none,.unobserved,.built,.empty,.empty,.empty,none⟩

def ensureSingletons (addonStatus : Option AddonUpdateStatus) (snapshot : Option SecuritySnapshot)
    (interfaces : List InterfaceState) : HubCoordinator F :=
  (interfaces.filter fun state => names.matchesCentral state.centralId).foldl buildInterface {unread with
    addonUpdateDp := (addonStatus.filter (·.supported)).map AddonUpdateDp.updateStatus
    daemonConnectionDp := updateValue true .empty
    security := snapshot.map SecuritySingletons.built.refresh}

variable (h : HubCoordinator F)

def fetchSystemUpdate (entries : List SystemUpdateEntry) : HubCoordinator F :=
  match entries.find? fun entry => names.matchesCentral entry.central with
  | none => h
  | some entry => {h with updateDp := .updateData entry}

def fetchAddonUpdate (status : AddonUpdateStatus) : HubCoordinator F :=
  {h with addonUpdateDp := h.addonUpdateDp.map fun _ => .updateStatus status}

def refreshSecurity (snapshot : SecuritySnapshot) : HubCoordinator F :=
  {h with security := h.security.map (·.refresh snapshot)}

def listedAlarmMessages (messages : List AlarmMessage) : HubSingletonDp Int :=
  updateAlarmMessages (messages.filter fun message => names.matchesCentral message.central)

def listedServiceMessages (messages : List ServiceMessage) : HubSingletonDp Int :=
  updateServiceMessages (messages.filter fun message => names.matchesCentral message.central)

end HubCoordinator

-- A count push of a message list and a fault push carry a count and await a read; `refetched` says
-- of a fault push in effect whether its read succeeded.
inductive HubPush (F : Type) where
  | inbox (payload : HubCountChangedPayload)
  | metrics (payload : HubMetricChangedPayload F)
  | connectivity (payload : HubConnectivityChangedPayload)
  | messageCount (list : MessageList) (payload : HubCountChangedPayload)
  | systemUpdate (payload : SystemUpdateEntry)
  | addonUpdate (status : AddonUpdateStatus)
  | installMode (payload : InstallModeChangedPayload)
  | daemonStatus (status : String)
  | daemonLatency (latencyMs : F)
  | securityState (severity : String)
  | securityClass (payload : SecurityClassChangedPayload)
  | securityFault (openCount : Int) (refetched : Bool)
  | securityNotification (fault : Bool) (report : SecurityNotification)
  deriving DecidableEq

namespace HubCoordinator
variable (names : CentralNames) (h : HubCoordinator F)

def updateSecurity (update : SecuritySingletons → SecuritySingletons) : HubCoordinator F :=
  {h with security := h.security.map update}

-- An install-mode push knows no interface: it is every interface's.
def applyPush : HubPush F → HubCoordinator F
  | .inbox payload => if names.matchesCentral (some payload.central) then h.applyInboxCount payload.count else h
  | .metrics payload =>
    if names.matchesCentral (some payload.central) then
      {h with metricsDps := applyMetric h.metricsDps payload.metric payload.value}
    else h
  | .connectivity payload =>
    if names.matchesCentral (some payload.central) then
      {h with connectivityDps := applyConnectivity h.connectivityDps [⟨payload.interfaceId,payload.reachable⟩]}
    else h
  | .systemUpdate payload =>
    if names.matchesCentral payload.central then {h with updateDp := .updateData payload} else h
  | .addonUpdate status => h.fetchAddonUpdate status
  | .installMode payload =>
    if names.matchesCentral (some payload.central) then
      {h with installModeDps := h.installModeDps.mapWithKey fun _ _ => remaining payload.enabled payload.remainingS}
    else h
  | .daemonStatus status => h.applyDaemonConnection (status = "online")
  | .daemonLatency latencyMs => {h with metricsDps := h.metricsDps.update .daemonLatency latencyMs}
  | .securityState severity =>
    h.updateSecurity fun s => {s with severityDp := s.severityDp.updateSeverity severity [] none}
  | .securityClass payload =>
    h.updateSecurity (·.updateClassDp payload.securityClass payload.active none (payload.sources.getD []))
  | .securityNotification true report => h.updateSecurity ({· with faultReportDp := updateReport (some report)})
  | .securityNotification false report => h.updateSecurity ({· with alarmReportDp := updateReport (some report)})
  | .messageCount _ _ => h
  | .securityFault _ _ => h

def applyFaults (faults : List SecurityFault) : HubCoordinator F :=
  h.updateSecurity ({· with faultsDp := updateFaults faults})

def applyOpenCount (openCount : Int) : HubCoordinator F :=
  h.updateSecurity fun s => {s with faultsDp := updateValue openCount s.faultsDp.attributes}

end HubCoordinator

inductive Singleton where
  | messages (list : MessageList)
  | inbox
  | systemUpdate
  | addonUpdate
  | daemonConnection
  | metric (metric : Metric)
  | connectivity (interfaceId : String)
  | installMode (interface : String)
  | securitySeverity
  | securityFaults
  | securityReport (fault : Bool)
  | securityClass (securityClass : String)
  deriving DecidableEq, Repr

inductive Shown (F : Type) where
  | count (dp : HubSingletonDp Int)
  | measure (dp : HubSingletonDp F)
  | flag (dp : HubSingletonDp Bool)
  | text (dp : HubSingletonDp String)
  | systemUpdate (dp : SystemUpdateDp)
  | addonUpdate (dp : AddonUpdateDp)
  deriving DecidableEq

def SecuritySingletons.reportDp (s : SecuritySingletons) : Bool → HubSingletonDp String
  | true => s.faultReportDp
  | false => s.alarmReportDp

def HubCoordinator.shownAt (h : HubCoordinator F) : Singleton → Option (Shown F)
  | .messages list => some (.count (h.messagesDp list))
  | .inbox => some (.count h.inboxDp)
  | .systemUpdate => some (.systemUpdate h.updateDp)
  | .addonUpdate => h.addonUpdateDp.map .addonUpdate
  | .daemonConnection => some (.flag h.daemonConnectionDp)
  | .metric metric => some (.measure (h.metricsDps.sensor metric))
  | .connectivity interfaceId => (h.connectivityDps.get? interfaceId).map .flag
  | .installMode interface => (h.installModeDps.get? interface).map .count
  | .securitySeverity => h.security.map fun s => .text ⟨s.severityDp.dp.value,s.severityDp.attributes⟩
  | .securityFaults => h.security.map fun s => .count s.faultsDp
  | .securityReport fault => h.security.map fun s => .text (s.reportDp fault)
  | .securityClass securityClass => (h.security.bind (·.classDps.get? securityClass)).map .flag

-- The last of several entries counts.
section Told
variable (metric : Metric) (interfaceId interface : String) (token : String → Option String)

def toldMetric (metrics : List (HubMetricDataPoint F)) : Option (HubSingletonDp F) :=
  (lastWritten (fun entry => metricSensorFor entry.legacyName) (some metric) metrics).map fun entry =>
    updateValue entry.value .empty

def toldReachable (entries : List HubConnectivityDataPoint) : Option (HubSingletonDp Bool) :=
  (lastWritten (·.interfaceId) interfaceId entries).map fun entry => updateValue entry.reachable .empty

def toldRemaining (entries : List HubInstallModeDataPoint) : Option (HubSingletonDp Int) :=
  (lastWritten (fun entry => token entry.interfaceId) (some interface) entries).map fun entry =>
    remaining entry.enabled entry.remainingS

theorem last_written_map {κ ρ τ : Type} [DecidableEq κ] (key : ρ → κ) (k : κ) (value : ρ → τ) (records : List ρ) :
    (lastWritten key k records).map value = records.reverse.findSome? fun r => (written key k r).map value :=
  List.map_findSome?

theorem metrics_sensor (ms : MetricsDpType F) (metrics : List (HubMetricDataPoint F)) :
    (applyMetrics ms metrics).sensor metric = (toldMetric metric metrics).getD (ms.sensor metric) := by
  have loop := foldl_overwrite (fun ms (entry : HubMetricDataPoint F) => applyMetric ms entry.legacyName entry.value)
    (fun ms => some (ms.sensor metric)) (fun entry => (written (fun entry => metricSensorFor entry.legacyName)
      (some metric) entry).map fun entry => updateValue entry.value .empty) ?_ ms metrics
  · rw [←last_written_map] at loop
    exact Option.some.inj loop
  · intro ms entry
    unfold applyMetric written
    cases found : metricSensorFor entry.legacyName with
    | none => simp [found]
    | some other =>
      by_cases same : other = metric <;> simp [MetricsDpType.sensor_update,found,same]

theorem connectivity_read (dps : Dict String (HubSingletonDp Bool)) (entries : List HubConnectivityDataPoint) :
    (applyConnectivity dps entries).get? interfaceId =
      (dps.get? interfaceId).map (toldReachable interfaceId entries).getD := by
  rw [toldReachable,last_written_map]
  refine foldl_overwrite applyReachable (·.get? interfaceId) _ (fun dps entry => ?_) dps entries
  rw [applyReachable,Dict.get?_modify]
  unfold written
  by_cases same : entry.interfaceId = interfaceId
  · cases dps.get? interfaceId <;> simp [same]
  · cases dps.get? interfaceId <;> simp [same,Ne.symm same]

theorem install_mode_read (tokens : Dict String String) (dps : Dict String (HubSingletonDp Int))
    (entries : List HubInstallModeDataPoint) :
    (applyInstallMode tokens dps entries).get? interface =
      (dps.get? interface).map (toldRemaining interface tokens.get? entries).getD := by
  rw [toldRemaining,last_written_map]
  refine foldl_overwrite (applyCountdown tokens) (·.get? interface) _ (fun dps entry => ?_) dps entries
  unfold applyCountdown written
  cases known : tokens.get? entry.interfaceId with
  | none => cases dps.get? interface <;> simp [known]
  | some other =>
    simp only [Dict.get?_modify,known,Option.some.injEq]
    by_cases same : other = interface
    · cases dps.get? interface <;> simp [same]
    · cases dps.get? interface <;> simp [same,Ne.symm same]

-- A snapshot grades every class it lists, so what stood before does not matter.
def toldClass (securityClass : String) (snapshot : SecuritySnapshot) : Option (HubSingletonDp Bool) :=
  (lastWritten (·.securityClass) securityClass snapshot.classes).map fun state =>
    updateClass .unobserved state.securityClass state.active (some state.severity) (state.sources.getD [])

theorem refreshed_class (s : SecuritySingletons) (securityClass : String) (snapshot : SecuritySnapshot) :
    (s.refresh snapshot).classDps.get? securityClass =
      (toldClass securityClass snapshot).or (s.classDps.get? securityClass) := by
  rw [toldClass,last_written_map]
  refine foldl_last SecuritySingletons.applyClass (·.classDps.get? securityClass) _ (fun s state => ?_) _ _
  rw [SecuritySingletons.applyClass,SecuritySingletons.updateClassDp]
  simp only [Dict.get?_set]
  unfold written
  by_cases same : state.securityClass = securityClass
  · simp [same,updateClass]
  · simp [same,Ne.symm same]

theorem refreshed_beside (s : SecuritySingletons) (snapshot : SecuritySnapshot) :
    {s.refresh snapshot with classDps := .empty} = (⟨
      s.severityDp.updateSeverity snapshot.severity (activeHazardSources snapshot) snapshot.indexHealthy,
      updateFaults (snapshot.faults.getD []),updateReport snapshot.lastAlarm,updateReport snapshot.lastFault,.empty⟩ :
        SecuritySingletons) :=
  foldl_frame SecuritySingletons.applyClass (fun s => {s with classDps := .empty}) (fun _ _ => rfl) _ snapshot.classes

theorem refreshed_severity (s : SecuritySingletons) (snapshot : SecuritySnapshot) : (s.refresh snapshot).severityDp =
    s.severityDp.updateSeverity snapshot.severity (activeHazardSources snapshot) snapshot.indexHealthy :=
  congrArg SecuritySingletons.severityDp (refreshed_beside s snapshot)

theorem refreshed_faults (s : SecuritySingletons) (snapshot : SecuritySnapshot) :
    (s.refresh snapshot).faultsDp = updateFaults (snapshot.faults.getD []) :=
  congrArg SecuritySingletons.faultsDp (refreshed_beside s snapshot)

theorem refreshed_report (s : SecuritySingletons) (snapshot : SecuritySnapshot) (fault : Bool) :
    (s.refresh snapshot).reportDp fault = updateReport (if fault then snapshot.lastFault else snapshot.lastAlarm) := by
  have field := congrArg (SecuritySingletons.reportDp · fault) (refreshed_beside s snapshot)
  cases fault <;> exact field

end Told

section Built
variable (names : CentralNames) (addonStatus : Option AddonUpdateStatus) (snapshot : Option SecuritySnapshot)
  (interfaces : List InterfaceState)
open HubCoordinator

def ownInterfaces : List InterfaceState := interfaces.filter fun state => names.matchesCentral state.centralId

def paired (state : InterfaceState) : Option InterfaceState :=
  if state.interface ∈ installModeInterfaces then some state else none

def tokenOf (interfaceId : String) : Option String :=
  (lastWritten (fun state => (paired state).map (·.id)) (some interfaceId) (ownInterfaces names interfaces)).map
    (·.interface)

theorem built_beside :
    {(ensureSingletons names addonStatus snapshot interfaces : HubCoordinator F) with
      connectivityDps := .empty, installModeDps := .empty, installTokenById := .empty} = {unread with
        addonUpdateDp := (addonStatus.filter (·.supported)).map AddonUpdateDp.updateStatus
        daemonConnectionDp := updateValue true .empty
        security := snapshot.map SecuritySingletons.built.refresh} := by
  refine foldl_frame buildInterface (fun h => {h with
    connectivityDps := .empty, installModeDps := .empty, installTokenById := .empty}) (fun h state => ?_) _ _
  unfold buildInterface
  split <;> rfl

theorem built_connectivity (interfaceId : String) :
    (ensureSingletons names addonStatus snapshot interfaces : HubCoordinator F).connectivityDps.get? interfaceId =
      (lastWritten (·.id) interfaceId (ownInterfaces names interfaces)).map fun _ => .unobserved := by
  rw [last_written_map]
  refine (foldl_last buildInterface (·.connectivityDps.get? interfaceId) _ (fun h state => ?_) _ _).trans (Option.or_none)
  have set : (buildInterface h state).connectivityDps = h.connectivityDps.set state.id .unobserved := by
    unfold buildInterface
    split <;> rfl
  rw [set,Dict.get?_set]
  unfold written
  by_cases same : state.id = interfaceId
  · simp [same]
  · simp [same,Ne.symm same]

theorem built_install_mode (interface : String) :
    (ensureSingletons names addonStatus snapshot interfaces : HubCoordinator F).installModeDps.get? interface =
      (lastWritten (fun state => (paired state).map (·.interface)) (some interface) (ownInterfaces names interfaces)).map
        fun _ => .unobserved := by
  rw [last_written_map]
  refine (foldl_last buildInterface (·.installModeDps.get? interface) _ (fun h state => ?_) _ _).trans (Option.or_none)
  unfold buildInterface written paired
  by_cases pair : state.interface ∈ installModeInterfaces
  · by_cases same : state.interface = interface
    · simp [same ▸ pair,same,Dict.get?_set]
    · simp [pair,same,Ne.symm same,Dict.get?_set]
  · simp [pair]

theorem built_token (interfaceId : String) :
    (ensureSingletons names addonStatus snapshot interfaces : HubCoordinator F).installTokenById.get? interfaceId =
      tokenOf names interfaces interfaceId := by
  rw [tokenOf,last_written_map]
  refine (foldl_last buildInterface (·.installTokenById.get? interfaceId) _ (fun h state => ?_) _ _).trans
    (Option.or_none)
  unfold buildInterface written paired
  by_cases pair : state.interface ∈ installModeInterfaces
  · by_cases same : state.id = interfaceId
    · simp [pair,same,Dict.get?_set]
    · simp [pair,same,Ne.symm same,Dict.get?_set]
  · simp [pair]

end Built
end LoomClient.Compat
