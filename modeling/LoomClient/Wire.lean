import LoomClient.Lib.Dict

namespace LoomClient.Wire
open Lib

-- Wire timestamps are only ever compared.
abbrev Address := String
abbrev Instant := Int
abbrev ChannelKey := Address × Int
abbrev DataPointKey := Address × Int × String
abbrev CustomKey := Address × String

def devicePart (address : String) : Address := String.ofList (address.toList.takeWhile (· ≠ ':'))

inductive DataPointCategory where
  | action | actionNumber | actionSelect | alarmControlPanel | binarySensor | button | climate | cover | event
  | eventGroup | hubBinarySensor | hubButton | hubNumber | hubSelect | hubSensor | hubSwitch | hubText | hubUpdate
  | light | lock | number | scheduleSwitch | select | sensor | siren | switch | text | textDisplay | undefined
  | update | valve | weekProfile
  deriving DecidableEq, Repr

-- The reading of `x or default` for an optional string: empty is absent.
def truthy (s : Option String) : Option String := s.filter (· ≠ "")

-- `V` stands for a wire value of any JSON type: the client never looks inside one.
structure DeviceFirmware where
  current : Option String
  available : Option String
  updatable : Option Bool
  updateState : Option String
  deriving DecidableEq, Repr

structure DeviceAvailability where
  isReachable : Option Bool
  lastRefreshed : Option Instant
  deriving DecidableEq, Repr

structure DeviceSummary where
  address : Address
  central : Option String
  interface : String
  interfaceId : String
  model : String
  name : String
  available : Bool
  channelsCount : Nat
  updatable : Bool
  updateAvailable : Bool
  masterPushesConfigPending : Bool
  hasSubDevices : Bool
  firmware : DeviceFirmware
  availability : DeviceAvailability
  deriving DecidableEq, Repr

structure EventGroupSummary where
  kind : String
  parameters : List String
  uniqueId : String
  deriving DecidableEq, Repr

structure ChannelSummary where
  address : String
  number : Int
  name : Option String
  type : Option String
  eventGroups : Option (List EventGroupSummary)
  deriving DecidableEq, Repr

structure DeviceDetail extends DeviceSummary where
  channels : List ChannelSummary
  deriving DecidableEq, Repr

structure Operations where
  read : Bool
  write : Bool
  event : Bool
  deriving DecidableEq, Repr

structure DataPointSummary (V : Type) where
  parameter : String
  uniqueId : String
  value : Option V
  displayValue : Option V
  observed : Bool
  modifiedAt : Option Instant
  lastChangedAt : Option Instant
  lastSeenAt : Option Instant
  category : Option String
  usage : Option String
  type : Option String
  valueList : Option (List String)
  operations : Operations
  translatedName : Option String
  deriving DecidableEq, Repr

structure Channel (V : Type) extends ChannelSummary where
  dataPoints : Option (List (DataPointSummary V))
  deriving DecidableEq, Repr

structure DeviceChannel (V : Type) where
  deviceAddress : Address
  channels : List (Channel V)
  deriving DecidableEq, Repr

structure CustomDPSummary (V : Type) where
  name : String
  category : String
  channelNo : Int
  kind : Option String
  state : Option (Dict String V)
  uniqueId : String
  translatedName : Option String
  deriving DecidableEq

structure CalculatedDPSummary (V : Type) where
  name : String
  category : Option String
  value : Option V
  observed : Bool
  available : Bool
  modifiedAt : Option Instant
  translatedName : Option String
  uniqueId : String
  deriving DecidableEq, Repr

structure ProgramSummary where
  central : Option String
  id : String
  name : String
  active : Option Bool
  executeAvailable : Option Bool
  enabledDefault : Option Bool
  channel : Option String
  deviceAddress : Option Address
  uniqueId : String
  deriving DecidableEq, Repr

structure SysvarSummary (V : Type) where
  central : Option String
  name : String
  valueType : String
  value : Option V
  observed : Bool
  vid : Option Int
  isExtended : Option Bool
  enabledDefault : Option Bool
  channel : Option String
  deviceAddress : Option Address
  uniqueId : String
  deriving DecidableEq, Repr

structure AlarmPanelEntity where
  uniqueId : String
  zoneId : String
  name : String
  category : String
  state : String
  supportedModes : Option (List String)
  available : Bool
  master : Option Bool
  codeArmRequired : Bool
  codeDisarmRequired : Bool
  deriving DecidableEq, Repr

structure InterfaceState where
  id : String
  name : String
  connected : Bool
  interface : String
  centralId : Option String
  deriving DecidableEq, Repr

structure Snapshot (V : Type) where
  devices : List DeviceSummary
  programs : Option (List ProgramSummary)
  sysvars : Option (List (SysvarSummary V))
  interfaces : Option (List InterfaceState)
  deviceChannels : Option (List (DeviceChannel V))
  deriving DecidableEq, Repr

structure WeekProfileResponse where
  uniqueId : String
  scheduleType : String
  scheduleEnabled : Option (Dict String Bool)
  availableTargetChannels : Option (Dict String String)
  deriving DecidableEq

structure DataPointValueChangedPayload (V : Type) where
  deviceAddress : Address
  channel : Int
  parameter : String
  uniqueId : String
  value : Option V
  displayValue : Option V
  modifiedAt : Instant
  deriving DecidableEq, Repr

structure CustomDataPointStateChangedPayload (V : Type) where
  deviceAddress : Address
  channel : Int
  name : String
  uniqueId : String
  state : Dict String V
  deriving DecidableEq

structure DeviceCreatedPayload where
  central : String
  interfaceId : String
  deviceAddress : Address
  model : String
  source : Option String
  deriving DecidableEq, Repr

structure DevicePayload where
  central : String
  interfaceId : String
  deviceAddress : Address
  deriving DecidableEq, Repr

structure DeviceAvailabilityChangedPayload where
  central : String
  deviceAddress : Address
  available : Bool
  deriving DecidableEq, Repr

structure DeviceRefreshedPayload where
  deviceAddress : Address
  refreshedAt : Instant
  deriving DecidableEq, Repr

structure SysvarChangedPayload (V : Type) where
  central : String
  name : String
  uniqueId : String
  value : Option V
  channel : Option String
  deviceAddress : Option Address
  deriving DecidableEq, Repr

structure ProgramExecutedPayload where
  central : String
  programId : String
  channel : Option String
  deviceAddress : Option Address
  deriving DecidableEq, Repr

structure ProgramChangedPayload where
  central : String
  programId : String
  active : Bool
  executeAvailable : Bool
  uniqueId : Option String
  channel : Option String
  deviceAddress : Option Address
  deriving DecidableEq, Repr

structure AlarmPanelChangedPayload where
  uniqueId : String
  zoneId : String
  name : String
  state : String
  available : Bool
  codeArmRequired : Bool
  codeDisarmRequired : Bool
  removed : Bool
  deriving DecidableEq, Repr

-- The live detail of one alarm zone. The name, arm state and incident of a zone
-- status are read by nobody.
structure Countdown where
  kind : Option String
  remainingS : Option Int
  totalS : Option Int
  deriving DecidableEq, Repr

structure AlarmModeReadiness where
  ready : Bool
  blockers : Option (List String)
  warnings : Option (List String)
  deriving DecidableEq, Repr

structure AlarmZoneStatus where
  id : String
  mode : Option String
  bypassed : Option (List String)
  countdown : Option Countdown
  readiness : Option (Dict String AlarmModeReadiness)
  walktestActive : Bool
  deriving DecidableEq

structure AlarmTriggeredMotionSensor where
  sensorId : String
  zoneId : String
  deriving DecidableEq, Repr

structure AlarmStateChangedPayload where
  zoneId : String
  newState : String
  mode : Option String
  deriving DecidableEq, Repr

structure AlarmCountdownPayload where
  zoneId : String
  kind : String
  remainingS : Int
  totalS : Int
  deriving DecidableEq, Repr

structure AlarmReadinessChangedPayload where
  zoneId : String
  readiness : Dict String AlarmModeReadiness
  deriving DecidableEq

structure AlarmTriggeredPayload where
  zoneId : String
  incidentId : Int
  sensorName : Option String
  cause : String
  deriving DecidableEq, Repr

structure AlarmHealthChangedPayload where
  healthy : Bool
  deriving DecidableEq, Repr

structure CentralStateChangedPayload where
  central : String
  oldState : String
  newState : String
  deriving DecidableEq, Repr

-- Metric values are of an arbitrary type.
structure AlarmMessage where
  central : Option String
  name : String
  displayName : Option String
  timestamp : Option String
  deriving DecidableEq, Repr

structure ServiceMessage where
  central : Option String
  name : String
  deviceName : Option String
  deriving DecidableEq, Repr

structure HubMetricDataPoint (F : Type) where
  legacyName : String
  value : F
  deriving DecidableEq, Repr

structure HubConnectivityDataPoint where
  interfaceId : String
  reachable : Bool
  deriving DecidableEq, Repr

structure HubInstallModeDataPoint where
  interfaceId : String
  enabled : Bool
  remainingS : Int
  deriving DecidableEq, Repr

-- The aggregate of one central. Its update flags are read by nobody.
structure HubDataPoints (F : Type) where
  central : Option String
  alarmMessages : Int
  serviceMessages : Int
  inbox : Int
  daemonConnected : Bool
  metrics : Option (List (HubMetricDataPoint F))
  connectivity : Option (List HubConnectivityDataPoint)
  installMode : Option (List HubInstallModeDataPoint)
  deriving DecidableEq, Repr

structure SystemUpdateEntry where
  central : Option String
  currentFirmware : Option String
  availableFirmware : Option String
  updateAvailable : Bool
  inProgress : Bool
  deriving DecidableEq, Repr

structure AddonUpdateStatus where
  supported : Bool
  currentVersion : String
  latestVersion : Option String
  updateAvailable : Option Bool
  releaseUrl : Option String
  state : String
  error : Option String
  deriving DecidableEq, Repr

structure HubCountChangedPayload where
  central : String
  count : Int
  deriving DecidableEq, Repr

structure HubMetricChangedPayload (F : Type) where
  central : String
  metric : String
  value : F
  deriving DecidableEq, Repr

structure HubConnectivityChangedPayload where
  central : String
  interfaceId : String
  reachable : Bool
  deriving DecidableEq, Repr

structure InstallModeChangedPayload where
  central : String
  enabled : Bool
  remainingS : Int
  deriving DecidableEq, Repr

structure AlarmSource where
  ref : String
  central : Option String
  interfaceId : Option String
  channelAddress : Option String
  deviceAddress : Option String
  parameter : Option String
  name : Option String
  sensorType : Option String
  securityClass : Option String
  «at» : String
  deriving DecidableEq, Repr

structure SecurityClassState where
  securityClass : String
  active : Bool
  severity : String
  sources : Option (List AlarmSource)
  deriving DecidableEq, Repr

structure SecurityFault where
  reason : String
  source : AlarmSource
  deriving DecidableEq, Repr

-- A report. Its broadcast says besides on which plane it stands.
structure SecurityNotification where
  securityClass : String
  severity : String
  verb : String
  subject : String
  message : String
  i18nKey : String
  args : Option (Dict String String)
  sources : Option (List AlarmSource)
  zoneName : Option String
  «at» : String
  deriving DecidableEq

structure SecuritySnapshot where
  severity : String
  classes : List SecurityClassState
  faults : Option (List SecurityFault)
  indexHealthy : Option Bool
  lastAlarm : Option SecurityNotification
  lastFault : Option SecurityNotification
  deriving DecidableEq

structure SecurityClassChangedPayload where
  securityClass : String
  active : Bool
  sources : Option (List AlarmSource)
  deriving DecidableEq, Repr

-- The summary already carries everything the detail record does except the channels.
def DeviceSummary.withChannels (summary : DeviceSummary) (channels : List ChannelSummary) : DeviceDetail :=
  {summary with channels}

end LoomClient.Wire
