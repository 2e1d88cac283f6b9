import LoomClient.Events.Bus

namespace LoomClient.Events
open Lib

inductive PayloadModel where
  | dataPointValueChangedPayload
  | customDataPointStateChangedPayload
  | centralStateChangedPayload
  | centralFeaturesChangedPayload
  | centralReadinessChangedPayload
  | systemStatusChangedPayload
  | daemonStatusPayload
  | pairingRequestsChangedPayload
  | sysvarChangedPayload
  | programExecutedPayload
  | programChangedPayload
  | installModeChangedPayload
  | hubCountChangedPayload
  | hubMetricChangedPayload
  | hubConnectivityChangedPayload
  | hubSystemUpdateChangedPayload
  | addonUpdateStatus
  | deviceCreatedPayload
  | deviceReleasedPayload
  | deviceRemovedPayload
  | deviceAvailabilityChangedPayload
  | deviceMetadataChangedPayload
  | deviceRefreshedPayload
  | scheduleChangedPayload
  | deviceTriggerPayload
  | optimisticRollbackPayload
  | alarmStateChangedPayload
  | alarmCountdownPayload
  | alarmReadinessChangedPayload
  | alarmTriggeredPayload
  | alarmJournalAppendedPayload
  | alarmWalkTestProgressPayload
  | alarmHealthChangedPayload
  | alarmPanelChangedPayload
  | alarmReminderPayload
  | alarmNotificationPayload
  | securityStateChangedPayload
  | securityClassChangedPayload
  | securityZoneChangedPayload
  | securityFaultChangedPayload
  | securityNotificationPayload
  | fabricEvent
  | windowEvent
  | nodeEndpointsChangedPayload
  | exposureEvent
  | surfaceChangedEvent
  deriving DecidableEq

inductive EventClass where
  | dataPointValueChanged
  | customDataPointStateChanged
  | centralStateChanged
  | centralFeaturesChanged
  | centralReadinessChanged
  | systemStatusChanged
  | daemonStatusChanged
  | pairingRequestsChanged
  | sysvarChanged
  | programExecuted
  | programChanged
  | installModeChanged
  | hubAlarmMessageCountChanged
  | hubServiceMessageCountChanged
  | hubInboxChanged
  | hubMetricsChanged
  | hubConnectivityChanged
  | hubSystemUpdateChanged
  | addonUpdateStateChanged
  | deviceCreated
  | deviceReleased
  | deviceRemoved
  | deviceAvailabilityChanged
  | deviceMetadataChanged
  | deviceRefreshed
  | scheduleChanged
  | deviceTrigger
  | dataPointOptimisticRolledBack
  | alarmStateChanged
  | alarmCountdown
  | alarmReadinessChanged
  | alarmTriggered
  | alarmJournalAppended
  | alarmWalkTestProgress
  | alarmHealthChanged
  | alarmPanelChanged
  | alarmReminder
  | alarmNotification
  | securityStateChanged
  | securityClassChanged
  | securityZoneChanged
  | securityFaultChanged
  | securityNotification
  | nodeFabricAdded
  | nodeFabricRemoved
  | nodeWindowOpened
  | nodeWindowClosed
  | nodeEndpointsChanged
  | nodeExposureChanged
  | nodeSurfaceChanged
  | unknownLoom
  deriving DecidableEq

-- What a typed event takes its key from.
inductive KeyField where
  | uniqueId
  | central
  | zoneId
  | faultId
  | className
  deriving DecidableEq

namespace EventClass

def typeId : EventClass → String
  | .dataPointValueChanged => "datapoint.value_changed"
  | .customDataPointStateChanged => "custom_data_point.state_changed"
  | .centralStateChanged => "central.state_changed"
  | .centralFeaturesChanged => "central.features_changed"
  | .centralReadinessChanged => "central.readiness_changed"
  | .systemStatusChanged => "system.status_changed"
  | .daemonStatusChanged => "daemon_status.changed"
  | .pairingRequestsChanged => "pairing.requests_changed"
  | .sysvarChanged => "hub.sysvar_changed"
  | .programExecuted => "hub.program_executed"
  | .programChanged => "hub.program_changed"
  | .installModeChanged => "hub.install_mode_changed"
  | .hubAlarmMessageCountChanged => "hub.alarm_message"
  | .hubServiceMessageCountChanged => "hub.service_message"
  | .hubInboxChanged => "hub.inbox_changed"
  | .hubMetricsChanged => "hub.metrics_changed"
  | .hubConnectivityChanged => "connectivity.changed"
  | .hubSystemUpdateChanged => "hub.system_update_changed"
  | .addonUpdateStateChanged => "addon_update.state_changed"
  | .deviceCreated => "device.created"
  | .deviceReleased => "device.released"
  | .deviceRemoved => "device.removed"
  | .deviceAvailabilityChanged => "device.availability_changed"
  | .deviceMetadataChanged => "device.metadata_changed"
  | .deviceRefreshed => "device.refreshed"
  | .scheduleChanged => "schedules.changed"
  | .deviceTrigger => "device.trigger"
  | .dataPointOptimisticRolledBack => "datapoint.optimistic_rolled_back"
  | .alarmStateChanged => "alarm.state_changed"
  | .alarmCountdown => "alarm.countdown"
  | .alarmReadinessChanged => "alarm.readiness_changed"
  | .alarmTriggered => "alarm.triggered"
  | .alarmJournalAppended => "alarm.journal_appended"
  | .alarmWalkTestProgress => "alarm.walktest_progress"
  | .alarmHealthChanged => "alarm.health_changed"
  | .alarmPanelChanged => "alarm.panel_changed"
  | .alarmReminder => "alarm.reminder"
  | .alarmNotification => "alarm.notification"
  | .securityStateChanged => "security.state_changed"
  | .securityClassChanged => "security.class_changed"
  | .securityZoneChanged => "security.zone_changed"
  | .securityFaultChanged => "security.fault_changed"
  | .securityNotification => "security.notification"
  | .nodeFabricAdded => "node.fabric_added"
  | .nodeFabricRemoved => "node.fabric_removed"
  | .nodeWindowOpened => "node.window_opened"
  | .nodeWindowClosed => "node.window_closed"
  | .nodeEndpointsChanged => "node.endpoints_changed"
  | .nodeExposureChanged => "node.exposure_changed"
  | .nodeSurfaceChanged => "node.surface_changed"
  | .unknownLoom => ""

def payloadModel : EventClass → Option PayloadModel
  | .dataPointValueChanged => some .dataPointValueChangedPayload
  | .customDataPointStateChanged => some .customDataPointStateChangedPayload
  | .centralStateChanged => some .centralStateChangedPayload
  | .centralFeaturesChanged => some .centralFeaturesChangedPayload
  | .centralReadinessChanged => some .centralReadinessChangedPayload
  | .systemStatusChanged => some .systemStatusChangedPayload
  | .daemonStatusChanged => some .daemonStatusPayload
  | .pairingRequestsChanged => some .pairingRequestsChangedPayload
  | .sysvarChanged => some .sysvarChangedPayload
  | .programExecuted => some .programExecutedPayload
  | .programChanged => some .programChangedPayload
  | .installModeChanged => some .installModeChangedPayload
  | .hubAlarmMessageCountChanged => some .hubCountChangedPayload
  | .hubServiceMessageCountChanged => some .hubCountChangedPayload
  | .hubInboxChanged => some .hubCountChangedPayload
  | .hubMetricsChanged => some .hubMetricChangedPayload
  | .hubConnectivityChanged => some .hubConnectivityChangedPayload
  | .hubSystemUpdateChanged => some .hubSystemUpdateChangedPayload
  | .addonUpdateStateChanged => some .addonUpdateStatus
  | .deviceCreated => some .deviceCreatedPayload
  | .deviceReleased => some .deviceReleasedPayload
  | .deviceRemoved => some .deviceRemovedPayload
  | .deviceAvailabilityChanged => some .deviceAvailabilityChangedPayload
  | .deviceMetadataChanged => some .deviceMetadataChangedPayload
  | .deviceRefreshed => some .deviceRefreshedPayload
  | .scheduleChanged => some .scheduleChangedPayload
  | .deviceTrigger => some .deviceTriggerPayload
  | .dataPointOptimisticRolledBack => some .optimisticRollbackPayload
  | .alarmStateChanged => some .alarmStateChangedPayload
  | .alarmCountdown => some .alarmCountdownPayload
  | .alarmReadinessChanged => some .alarmReadinessChangedPayload
  | .alarmTriggered => some .alarmTriggeredPayload
  | .alarmJournalAppended => some .alarmJournalAppendedPayload
  | .alarmWalkTestProgress => some .alarmWalkTestProgressPayload
  | .alarmHealthChanged => some .alarmHealthChangedPayload
  | .alarmPanelChanged => some .alarmPanelChangedPayload
  | .alarmReminder => some .alarmReminderPayload
  | .alarmNotification => some .alarmNotificationPayload
  | .securityStateChanged => some .securityStateChangedPayload
  | .securityClassChanged => some .securityClassChangedPayload
  | .securityZoneChanged => some .securityZoneChangedPayload
  | .securityFaultChanged => some .securityFaultChangedPayload
  | .securityNotification => some .securityNotificationPayload
  | .nodeFabricAdded => some .fabricEvent
  | .nodeFabricRemoved => some .fabricEvent
  | .nodeWindowOpened => some .windowEvent
  | .nodeWindowClosed => some .windowEvent
  | .nodeEndpointsChanged => some .nodeEndpointsChangedPayload
  | .nodeExposureChanged => some .exposureEvent
  | .nodeSurfaceChanged => some .surfaceChangedEvent
  | .unknownLoom => none

-- `__post_init__`
def keyField : EventClass → Option KeyField
  | .dataPointValueChanged | .deviceTrigger | .dataPointOptimisticRolledBack | .alarmPanelChanged => some .uniqueId
  | .customDataPointStateChanged | .centralStateChanged | .centralFeaturesChanged | .centralReadinessChanged |
    .systemStatusChanged | .sysvarChanged | .programExecuted | .programChanged | .installModeChanged |
    .hubAlarmMessageCountChanged | .hubServiceMessageCountChanged | .hubInboxChanged | .hubMetricsChanged |
    .hubConnectivityChanged | .hubSystemUpdateChanged | .deviceCreated | .deviceReleased | .deviceRemoved |
    .deviceAvailabilityChanged | .deviceMetadataChanged | .deviceRefreshed | .scheduleChanged => some .central
  | .alarmStateChanged | .alarmCountdown | .alarmReadinessChanged | .alarmTriggered | .alarmJournalAppended |
    .alarmWalkTestProgress | .alarmReminder | .alarmNotification | .securityZoneChanged => some .zoneId
  | .securityFaultChanged => some .faultId
  | .securityClassChanged | .securityNotification => some .className
  | _ => none

end EventClass

-- `_EVENT_REGISTRY`
def eventRegistry : List EventClass := [
  .dataPointValueChanged,.customDataPointStateChanged,.centralStateChanged,.centralFeaturesChanged,
  .centralReadinessChanged,.systemStatusChanged,.daemonStatusChanged,.pairingRequestsChanged,.sysvarChanged,
  .programExecuted,.programChanged,.installModeChanged,.hubAlarmMessageCountChanged,.hubServiceMessageCountChanged,
  .hubInboxChanged,.hubMetricsChanged,.hubConnectivityChanged,.hubSystemUpdateChanged,.addonUpdateStateChanged,
  .deviceCreated,.deviceReleased,.deviceRemoved,.deviceAvailabilityChanged,.deviceMetadataChanged,.deviceRefreshed,
  .scheduleChanged,.deviceTrigger,.dataPointOptimisticRolledBack,.alarmStateChanged,.alarmCountdown,
  .alarmReadinessChanged,.alarmTriggered,.alarmJournalAppended,.alarmWalkTestProgress,.alarmHealthChanged,
  .alarmPanelChanged,.alarmReminder,.alarmNotification,.securityStateChanged,.securityClassChanged,
  .securityZoneChanged,.securityFaultChanged,.securityNotification,.nodeFabricAdded,.nodeFabricRemoved,
  .nodeWindowOpened,.nodeWindowClosed,.nodeEndpointsChanged,.nodeExposureChanged,.nodeSurfaceChanged]

-- A kind that the client does not know is kept as it was written.
inductive EnvelopeKind where
  | initial
  | change
  | refresh
  | other (token : String)
  deriving DecidableEq

structure WsEnvelope (J τ : Type) where
  seq : Int
  kind : EnvelopeKind
  topic : Option String
  type : String
  ts : τ
  payload : J

inductive Body (J P : Type) where
  | payload (payload : P)
  | raw (rawPayload : J)

structure LoomEvent (J P τ : Type) where
  eventClass : EventClass
  seq : Int
  kind : EnvelopeKind
  ts : τ
  topic : Option String
  type : String
  eventKey : Option String
  body : Body J P

-- A validation that fails is `none`.
structure Models (J P : Type) where
  validate : PayloadModel → J → Option P
  read : KeyField → P → Option String

section Decode
variable {J P τ : Type} (models : Models J P)

def registered (type : String) : Option EventClass := eventRegistry.find? (·.typeId == type)

def unknownEvent (envelope : WsEnvelope J τ) : LoomEvent J P τ :=
  ⟨.unknownLoom,envelope.seq,envelope.kind,envelope.ts,envelope.topic,envelope.type,none,.raw envelope.payload⟩

def typedEvent (eventClass : EventClass) (envelope : WsEnvelope J τ) (payload : P) : LoomEvent J P τ :=
  ⟨eventClass,envelope.seq,envelope.kind,envelope.ts,envelope.topic,envelope.type,
    eventClass.keyField.bind (models.read · payload),.payload payload⟩

def eventFromEnvelope (envelope : WsEnvelope J τ) : LoomEvent J P τ :=
  match registered envelope.type with
  | none => unknownEvent envelope
  | some eventClass => match eventClass.payloadModel.bind (models.validate · envelope.payload) with
    | none => unknownEvent envelope
    | some payload => typedEvent models eventClass envelope payload

def LoomEvent.onBus (event : LoomEvent J P τ) : Event EventClass String := ⟨event.eventClass,event.eventKey⟩

-- The payload is one that the class's model accepts.
def Accepts (eventClass : EventClass) (envelope : WsEnvelope J τ) (payload : P) : Prop :=
  ∃ model, eventClass.payloadModel = some model ∧ models.validate model envelope.payload = some payload

structure Decoded (envelope : WsEnvelope J τ) (event : LoomEvent J P τ) : Prop where
  frame : event.seq = envelope.seq ∧ event.kind = envelope.kind ∧ event.ts = envelope.ts ∧ event.topic = envelope.topic ∧
    event.type = envelope.type
  typed : ∀ c payload, (event.eventClass = c ∧ event.body = .payload payload) ↔
    envelope.type = c.typeId ∧ Accepts models c envelope payload
  raw : ∀ payload, event.body = .raw payload ↔ event.eventClass = .unknownLoom ∧ payload = envelope.payload
  key : event.eventKey = match event.body with
    | .payload payload => event.eventClass.keyField.bind (models.read · payload)
    | .raw _ => none

end Decode

section Registry

theorem registry_distinct : (eventRegistry.map EventClass.typeId).Nodup := by decide +kernel

theorem registry_complete (c : EventClass) : c ∈ eventRegistry ↔ c ≠ .unknownLoom := by
  cases c <;> decide

theorem registered_iff : registered type = some c ↔ c ≠ .unknownLoom ∧ type = c.typeId := by
  unfold registered
  constructor
  · intro found
    have member := (registry_complete c).mp (List.mem_of_find?_eq_some found)
    have same := List.find?_some found
    exact ⟨member,(beq_iff_eq.mp same).symm⟩
  · rintro ⟨known,rfl⟩
    have member := (registry_complete c).mpr known
    cases found : eventRegistry.find? (·.typeId == c.typeId) with
    | none =>
      have missing := List.find?_eq_none.mp found c member
      simp at missing
    | some d =>
      have other := List.mem_of_find?_eq_some found
      have same : d.typeId = c.typeId := by simpa using List.find?_some found
      exact congrArg some (List.inj_on_of_nodup_map registry_distinct other member same)

theorem payload_model_known {c : EventClass} : c.payloadModel = some model → c ≠ .unknownLoom := by
  rintro found rfl
  cases found

end Registry

section Decoding
variable {J P τ : Type} {models : Models J P} {envelope : WsEnvelope J τ}

theorem unknown_decoded (refused : ∀ c payload, envelope.type = c.typeId → ¬Accepts models c envelope payload) :
    Decoded models envelope (unknownEvent envelope) where
  frame := ⟨rfl,rfl,rfl,rfl,rfl⟩
  typed c payload := by
    constructor
    · rintro ⟨_,impossible⟩
      cases impossible
    · rintro ⟨same,accepted⟩
      exact absurd accepted (refused c payload same)
  raw payload := by simp [unknownEvent,eq_comm]
  key := rfl

theorem typed_decoded (found : registered envelope.type = some c) (accepted : Accepts models c envelope payload) :
    Decoded models envelope (typedEvent models c envelope payload) where
  frame := ⟨rfl,rfl,rfl,rfl,rfl⟩
  typed d other := by
    constructor
    · rintro ⟨rfl,same⟩
      cases same
      exact ⟨(registered_iff.mp found).2,accepted⟩
    · rintro ⟨same,again⟩
      obtain ⟨model,modelled,valid⟩ := accepted
      obtain ⟨model',modelled',valid'⟩ := again
      have known := registered_iff.mpr ⟨payload_model_known modelled',same⟩
      cases found.symm.trans known
      cases modelled.symm.trans modelled'
      cases valid.symm.trans valid'
      exact ⟨rfl,rfl⟩
  raw other := by
    constructor
    · intro same
      cases same
    · rintro ⟨unknown,_⟩
      exact absurd unknown (registered_iff.mp found).1
  key := rfl

theorem envelope_decoded (models : Models J P) (envelope : WsEnvelope J τ) :
    Decoded models envelope (eventFromEnvelope models envelope) := by
  unfold eventFromEnvelope
  split
  · rename_i missing
    refine unknown_decoded fun c payload same accepted => ?_
    obtain ⟨model,modelled,_⟩ := accepted
    cases missing.symm.trans (registered_iff.mpr ⟨payload_model_known modelled,same⟩)
  · rename_i c found
    split
    · rename_i refused
      refine unknown_decoded fun d payload same accepted => ?_
      obtain ⟨model,modelled,valid⟩ := accepted
      cases found.symm.trans (registered_iff.mpr ⟨payload_model_known modelled,same⟩)
      simp [modelled,valid] at refused
    · rename_i payload valid
      obtain ⟨model,modelled,accepted⟩ := Option.bind_eq_some_iff.mp valid
      exact typed_decoded found ⟨model,modelled,accepted⟩

end Decoding

end LoomClient.Events
