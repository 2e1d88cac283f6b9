import LoomClient.Store.Live
import LoomClient.Lib.Transition
import LoomClient.Lib.Fold

namespace LoomClient.Store
open Lib Wire
variable {V : Type}

-- The broadcasts without a store handler appear because other layers react to them.
inductive Push (V : Type) where
  | valueChanged (payload : DataPointValueChangedPayload V)
  | customStateChanged (payload : CustomDataPointStateChangedPayload V)
  | deviceCreated (payload : DeviceCreatedPayload)
  | deviceReleased (payload : DevicePayload)
  | deviceRemoved (payload : DevicePayload)
  | metadataChanged (payload : DevicePayload)
  | availabilityChanged (payload : DeviceAvailabilityChangedPayload)
  | deviceRefreshed (payload : DeviceRefreshedPayload)
  | sysvarChanged (payload : SysvarChangedPayload V)
  | programExecuted (payload : ProgramExecutedPayload)
  | programChanged (payload : ProgramChangedPayload)
  | alarmPanelChanged (payload : AlarmPanelChangedPayload)
  | centralStateChanged (payload : CentralStateChangedPayload)
  deriving DecidableEq

def applyPush (s : LoomStore V) : Push V → LoomStore V
  | .valueChanged payload => applyValueChanged s payload
  | .customStateChanged payload => applyCustomDataPointStateChanged s payload
  | .deviceCreated payload => applyDeviceCreated s payload
  | .deviceRemoved payload => applyDeviceRemoved s payload
  | .availabilityChanged payload => applyDeviceAvailabilityChanged s payload
  | .deviceRefreshed payload => applyDeviceRefreshed s payload
  | .sysvarChanged payload => applySysvarChanged s payload
  | .programExecuted payload => applyProgramExecuted s payload
  | .programChanged payload => applyProgramChanged s payload
  | .alarmPanelChanged payload => applyAlarmPanelChanged s payload
  | .deviceReleased _ => s
  | .metadataChanged _ => s
  | .centralStateChanged _ => s

-- Every call that mutates the store between two awaits of its callers.
inductive Operation (V : Type) where
  | setDaemonCentralCount (count : Nat)
  | setCentralId (centralId : String)
  | loadSnapshot (snapshot : Snapshot V)
  | attachDeviceDetail (detail : DeviceDetail)
  | attachChannelDataPoints (address : Address) (channel : Int) (dataPoints : List (DataPointSummary V))
  | attachChannelCalculatedDataPoints (address : Address) (channel : Int) (calculated : List (CalculatedDPSummary V))
  | attachCustomDataPoints (address : Address) (cdps : List (CustomDPSummary V))
  | setWeekProfileDataPoint (address : Address) (dp : Model.WeekProfileDp) (climate : Bool)
  | attachHubCatalogue (sysvars : List (SysvarSummary V)) (programs : List ProgramSummary)
  | attachAlarmPanels (panels : List AlarmPanelEntity)
  | push (push : Push V)
  | settleDataPoint (key : DataPointKey) (summary : DataPointSummary V)
  | settleCalculatedDataPoint (key : DataPointKey) (calculated : CalculatedDPSummary V)
  | settleCustomDataPoint (key : CustomKey) (generation : Nat) (state : Option (Dict String V))
  | upsertProgram (summary : ProgramSummary)
  | upsertSysvar (summary : SysvarSummary V)
  deriving DecidableEq

def apply (s : LoomStore V) : Operation V → LoomStore V
  | .setDaemonCentralCount count => {s with daemonCentralCount := count}
  | .setCentralId centralId => {s with centralId}
  | .loadSnapshot snapshot => loadSnapshot s snapshot
  | .attachDeviceDetail detail => attachDeviceDetail s detail
  | .attachChannelDataPoints address channel dataPoints => attachChannelDataPoints s address channel dataPoints
  | .attachChannelCalculatedDataPoints address channel calculated =>
    attachChannelCalculatedDataPoints s address channel calculated
  | .attachCustomDataPoints address cdps => attachCustomDataPoints s address cdps
  | .setWeekProfileDataPoint address dp climate => setWeekProfileDataPoint s address dp climate
  | .attachHubCatalogue sysvars programs => attachHubCatalogue s sysvars programs
  | .attachAlarmPanels panels => attachAlarmPanels s panels
  | .push push => applyPush s push
  | .settleDataPoint key summary => settleDataPoint s key summary
  | .settleCalculatedDataPoint key calculated => settleCalculatedDataPoint s key calculated
  | .settleCustomDataPoint key generation state => settleCustomDataPoint s key generation state
  | .upsertProgram summary => upsertProgram s summary
  | .upsertSysvar summary => upsertSysvar s summary

abbrev perform : LoomStore V → Operation V → Option (LoomStore V) := total apply

end LoomClient.Store
