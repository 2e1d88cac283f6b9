import LoomClient.Store.State

namespace LoomClient.Store
open Lib Wire
variable {V : Type}

def reseed (summary : CustomDPSummary V) (cdp : Model.CustomDataPoint V) : Model.CustomDataPoint V :=
  match summary.state with
  | none => cdp.replaceSummary summary
  | some state => (cdp.replaceSummary summary).replaceState state

def attachCustomDataPoint (deviceAddress : Address) (s : LoomStore V) (summary : CustomDPSummary V) : LoomStore V :=
  let key := (deviceAddress,summary.name)
  match s.cdps.get? key with
  | some existing =>
    let t := mutateCdp s key (reseed summary)
    {t with cdpByChannel := t.cdpByChannel.set (deviceAddress,summary.channelNo) (reseed summary existing)}
  | none =>
    registerCdp {s with nextOid := s.nextOid + 1} key (.build s.nextOid summary deviceAddress summary.state)

def staleCdps (s : LoomStore V) (deviceAddress : Address) (cdps : List (CustomDPSummary V)) : List CustomKey :=
  s.cdps.keys.filter fun k => k.1 = deviceAddress ∧ ¬ k.2 ∈ cdps.map (·.name)

def attachCustomDataPoints (s : LoomStore V) (deviceAddress : Address) (cdps : List (CustomDPSummary V)) :
    LoomStore V :=
  cdps.foldl (attachCustomDataPoint deviceAddress) ((staleCdps s deviceAddress cdps).foldl dropCdp s)

def attachDataPoint (deviceAddress : Address) (channelNumber : Int) (s : LoomStore V)
    (summary : DataPointSummary V) : LoomStore V :=
  let key := (deviceAddress,channelNumber,summary.parameter)
  if key ∈ s.dataPoints then
    {s with dataPoints := s.dataPoints.modify key (·.replaceSummary summary)}
  else
    {s with
      dataPoints := s.dataPoints.set key (.build s.nextOid summary deviceAddress channelNumber)
      nextOid := s.nextOid + 1}

-- Calculated data points are attached by another path and are left alone here.
def staleDataPoint (s : LoomStore V) (deviceAddress : Address) (channelNumber : Int)
    (dataPoints : List (DataPointSummary V)) (key : DataPointKey) : Bool :=
  decide (channelOf key = (deviceAddress,channelNumber)) &&
    decide (¬ key.2.2 ∈ dataPoints.map (·.parameter)) && decide (key ∉ s.calculatedDpKeys)

def attachChannelDataPoints (s : LoomStore V) (deviceAddress : Address) (channelNumber : Int)
    (dataPoints : List (DataPointSummary V)) : LoomStore V :=
  dataPoints.foldl (attachDataPoint deviceAddress channelNumber)
    {s with dataPoints := s.dataPoints.eraseWhere (staleDataPoint s deviceAddress channelNumber dataPoints)}

-- Always a fresh object, also for a key that already holds one.
def attachCalculatedDataPoint (deviceAddress : Address) (channelNumber : Int) (s : LoomStore V)
    (calculated : CalculatedDPSummary V) : LoomStore V :=
  let key := (deviceAddress,channelNumber,calculated.name)
  {s with
    dataPoints := s.dataPoints.set key
      (Model.makeCalculatedDataPoint s.nextOid calculated deviceAddress channelNumber)
    calculatedDpKeys := insert key s.calculatedDpKeys
    nextOid := s.nextOid + 1}

def attachChannelCalculatedDataPoints (s : LoomStore V) (deviceAddress : Address) (channelNumber : Int)
    (calculated : List (CalculatedDPSummary V)) : LoomStore V :=
  if s.calculatedFactory then calculated.foldl (attachCalculatedDataPoint deviceAddress channelNumber) s else s

def staleChannels (s : LoomStore V) (detail : DeviceDetail) : List ChannelKey :=
  s.channels.keys.filter fun k => k.1 = detail.address ∧ ¬ k.2 ∈ detail.channels.map (·.number)

def attachDeviceDetail (s : LoomStore V) (detail : DeviceDetail) : LoomStore V :=
  match upsertDeviceSummary s detail.toDeviceSummary with
  | none => s
  | some t =>
    let u := {t with devices := t.devices.modify detail.address (·.attachDetail detail.firmware detail.availability)}
    let w := detail.channels.foldl upsertChannel u
    (staleChannels w detail).foldl dropChannel w

-- The configured name when the daemon reports it, else the only candidate.
def inferCentralId (s : LoomStore V) (snapshot : Snapshot V) : Option String :=
  let candidates := (snapshot.interfaces.getD []).filterMap fun interface => truthy interface.centralId
  if s.centralName ≠ "" ∧ s.centralName ∈ candidates then some s.centralName
  else match candidates.eraseDups with
    | [only] => some only
    | _ => none

def admitDevice (s : LoomStore V) (summary : DeviceSummary) : LoomStore V := (upsertDeviceSummary s summary).getD s

def adoptCentralId (s : LoomStore V) (snapshot : Snapshot V) : LoomStore V :=
  if s.centralId = "" then {s with centralId := (inferCentralId s snapshot).getD ""} else s

def loadSnapshot (s : LoomStore V) (snapshot : Snapshot V) : LoomStore V :=
  let u := snapshot.devices.foldl admitDevice (adoptCentralId s snapshot)
  let w := (snapshot.programs.getD []).foldl upsertProgram u
  (snapshot.sysvars.getD []).foldl upsertSysvar w

def attachHubCatalogue (s : LoomStore V) (sysvars : List (SysvarSummary V)) (programs : List ProgramSummary) :
    LoomStore V :=
  programs.foldl upsertProgram (sysvars.foldl upsertSysvar s)

def attachAlarmPanel (s : LoomStore V) (entity : AlarmPanelEntity) : LoomStore V :=
  match s.alarmPanels.get? entity.uniqueId with
  | none => registerAlarmPanel s entity
  | some existing =>
    let t := mutateAlarmPanel s entity.uniqueId (·.replaceSummary entity)
    {t with alarmPanelByZone := t.alarmPanelByZone.set entity.zoneId (existing.replaceSummary entity)}

def attachAlarmPanels (s : LoomStore V) (panels : List AlarmPanelEntity) : LoomStore V :=
  let stale := s.alarmPanels.keys.filter fun uid => ¬ uid ∈ panels.map (·.uniqueId)
  panels.foldl attachAlarmPanel (stale.foldl dropAlarmPanel s)

end LoomClient.Store
