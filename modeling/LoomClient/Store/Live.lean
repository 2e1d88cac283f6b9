import LoomClient.Store.Attach

namespace LoomClient.Store
open Lib Wire
variable {V : Type}

-- A REST answer is stale when both sides carry a timestamp and it is older.
def refreshIsStale (current incoming : Option Instant) : Bool :=
  match current,incoming with
  | some c,some i => decide (i < c)
  | _,_ => false

def pushedSummary (payload : DataPointValueChangedPayload V) (summary : DataPointSummary V) : DataPointSummary V :=
  {summary with
    value := payload.value
    displayValue := payload.displayValue
    observed := true
    modifiedAt := some payload.modifiedAt
    lastChangedAt := some payload.modifiedAt
    lastSeenAt := some payload.modifiedAt}

def applyValueChanged (s : LoomStore V) (payload : DataPointValueChangedPayload V) : LoomStore V :=
  {s with dataPoints := s.dataPoints.modify (payload.deviceAddress,payload.channel,payload.parameter) fun dp =>
    (dp.replaceSummary (pushedSummary payload dp.summary)).clearValueOverride}

-- Only the fields the push carries are known; the next detail read replaces the rest.
def stubSummary (payload : DeviceCreatedPayload) : DeviceSummary where
  address := payload.deviceAddress
  central := some payload.central
  interface := payload.interfaceId
  interfaceId := payload.interfaceId
  model := payload.model
  name := payload.deviceAddress
  available := true
  channelsCount := 0
  updatable := false
  updateAvailable := false
  masterPushesConfigPending := false
  hasSubDevices := false
  firmware := ⟨none,none,none,none⟩
  availability := ⟨some true,none⟩

def applyDeviceCreated (s : LoomStore V) (payload : DeviceCreatedPayload) : LoomStore V :=
  if payload.deviceAddress ∈ s.devices then s
  else if canAdmitDevice s payload.deviceAddress then
    {s with
      devices := s.devices.set payload.deviceAddress (.build s.nextOid (stubSummary payload))
      nextOid := s.nextOid + 1}
  else s

def applyDeviceAvailabilityChanged (s : LoomStore V) (payload : DeviceAvailabilityChangedPayload) : LoomStore V :=
  {s with devices := s.devices.modify payload.deviceAddress fun d =>
    if d.summary.available = payload.available then d
    else d.updateSummary {d.summary with available := payload.available}}

-- `LastRefreshed` only moves forward.
def refreshedAvailability (refreshedAt : Instant) (d : Model.Device) : Model.Device :=
  match d.availability with
  | none => d
  | some availability =>
    match availability.lastRefreshed with
    | none => d.replaceAvailability {availability with lastRefreshed := some refreshedAt}
    | some current =>
      if refreshedAt ≤ current then d else d.replaceAvailability {availability with lastRefreshed := some refreshedAt}

def applyDeviceRefreshed (s : LoomStore V) (payload : DeviceRefreshedPayload) : LoomStore V :=
  {s with devices := s.devices.modify payload.deviceAddress (refreshedAvailability payload.refreshedAt)}

def dropDeviceChannels (s : LoomStore V) (address : Address) : LoomStore V :=
  (s.channels.keys.filter fun k => k.1 = address).foldl dropChannel s

def dropDeviceCdps (s : LoomStore V) (address : Address) : LoomStore V :=
  (s.cdps.keys.filter fun k => k.1 = address).foldl dropCdp s

def applyDeviceRemoved (s : LoomStore V) (payload : DevicePayload) : LoomStore V :=
  let address := payload.deviceAddress
  let t := dropDeviceChannels {s with devices := s.devices.erase address} address
  let u := dropDeviceCdps t address
  {u with weekProfileDps := u.weekProfileDps.erase address}

def pushedSysvar (payload : SysvarChangedPayload V) (summary : SysvarSummary V) : SysvarSummary V :=
  {summary with
    value := payload.value
    observed := true
    channel := payload.channel
    deviceAddress := payload.deviceAddress}

def applySysvarChanged (s : LoomStore V) (payload : SysvarChangedPayload V) : LoomStore V :=
  {s with sysvars := s.sysvars.modify payload.name fun v => v.replaceSummary (pushedSysvar payload v.summary)}

-- A link carried by the push is folded in; an absent one never clears.
def applyProgramExecuted (s : LoomStore V) (payload : ProgramExecutedPayload) : LoomStore V :=
  match s.programs.get? payload.programId,truthy payload.channel with
  | some program,some channel =>
    if some channel ≠ program.summary.channel ∨ payload.deviceAddress ≠ program.summary.deviceAddress then
      upsertProgram s {program.summary with channel := some channel, deviceAddress := payload.deviceAddress}
    else s
  | _,_ => s

def flippedSummary (payload : ProgramChangedPayload) (summary : ProgramSummary) : ProgramSummary :=
  let flipped := {summary with active := some payload.active, executeAvailable := some payload.executeAvailable}
  match truthy payload.channel with
  | none => flipped
  | some channel => {flipped with channel := some channel, deviceAddress := payload.deviceAddress}

def applyProgramChanged (s : LoomStore V) (payload : ProgramChangedPayload) : LoomStore V :=
  match s.programs.get? payload.programId with
  | none => s
  | some program => upsertProgram s (flippedSummary payload program.summary)

def applyCustomDataPointStateChanged (s : LoomStore V) (payload : CustomDataPointStateChangedPayload V) :
    LoomStore V :=
  mutateCdp s (payload.deviceAddress,payload.name) (·.replaceState payload.state)

-- An unknown panel is seeded with what the push carries.
def panelStub (payload : AlarmPanelChangedPayload) : AlarmPanelEntity where
  uniqueId := payload.uniqueId
  zoneId := payload.zoneId
  name := payload.name
  category := "alarm_control_panel"
  state := payload.state
  supportedModes := none
  available := payload.available
  master := some (decide (payload.zoneId = "master"))
  codeArmRequired := payload.codeArmRequired
  codeDisarmRequired := payload.codeDisarmRequired

def applyAlarmPanelChanged (s : LoomStore V) (payload : AlarmPanelChangedPayload) : LoomStore V :=
  if payload.removed then dropAlarmPanel s payload.uniqueId
  else if payload.uniqueId ∈ s.alarmPanels then
    mutateAlarmPanel s payload.uniqueId fun panel => panel.replaceSummary {panel.summary with
      name := payload.name
      state := payload.state
      available := payload.available
      codeArmRequired := payload.codeArmRequired
      codeDisarmRequired := payload.codeDisarmRequired}
  else registerAlarmPanel s (panelStub payload)

-- The halves of the `refresh_*` coroutines that run after their await.
def settleDataPoint (s : LoomStore V) (key : DataPointKey) (summary : DataPointSummary V) : LoomStore V :=
  match s.dataPoints.get? key with
  | none => s
  | some dp =>
    if refreshIsStale dp.summary.modifiedAt summary.modifiedAt then s
    else {s with dataPoints := s.dataPoints.modify key fun dp => (dp.replaceSummary summary).clearValueOverride}

def settleCalculatedDataPoint (s : LoomStore V) (key : DataPointKey) (calculated : CalculatedDPSummary V) :
    LoomStore V :=
  match s.dataPoints.get? key with
  | none => s
  | some dp =>
    if refreshIsStale dp.summary.modifiedAt calculated.modifiedAt then s
    else {s with dataPoints := s.dataPoints.modify key fun dp =>
      ((dp.replaceSummary {dp.summary with
        value := calculated.value
        observed := calculated.observed
        modifiedAt := calculated.modifiedAt}).applyCalculatedAvailability calculated.available).clearValueOverride}

def settleCustomDataPoint (s : LoomStore V) (key : CustomKey) (generation : Nat) (state : Option (Dict String V)) :
    LoomStore V :=
  match s.cdps.get? key,state with
  | some cdp,some state =>
    if cdp.applyGeneration = generation then mutateCdp s key (·.replaceState state) else s
  | _,_ => s

end LoomClient.Store
