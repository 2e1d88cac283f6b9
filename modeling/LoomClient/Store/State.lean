import LoomClient.Model
import Mathlib.Data.Finset.Basic
import Mathlib.Data.List.Sort
import Mathlib.Data.String.Basic

namespace LoomClient.Store
open Lib Wire

-- Factories installed by the layer above are represented by whether they are installed: what they
-- build is the object itself.
structure LoomStore (V : Type) where
  maxDevices : Nat
  centralId : String
  centralName : String
  daemonCentralCount : Nat
  serialSuffix : String
  calculatedFactory : Bool
  programFactory : Bool
  devices : Dict Address Model.Device
  channels : Dict ChannelKey Model.Channel
  dataPoints : Dict DataPointKey (Model.DataPoint V)
  calculatedDpKeys : Finset DataPointKey
  cdps : Dict CustomKey (Model.CustomDataPoint V)
  cdpByChannel : Dict ChannelKey (Model.CustomDataPoint V)
  programs : Dict String Model.Program
  programDps : Dict String (List Model.Program)
  sysvars : Dict String (Model.Sysvar V)
  alarmPanels : Dict String Model.AlarmPanel
  alarmPanelByZone : Dict String Model.AlarmPanel
  weekProfileDps : Dict Address (Dict Bool Model.WeekProfileDp)
  nextOid : Model.Oid
  deriving DecidableEq

def LoomStore.empty (maxDevices : Nat) : LoomStore V where
  maxDevices
  centralId := ""
  centralName := ""
  daemonCentralCount := 0
  serialSuffix := ""
  calculatedFactory := false
  programFactory := false
  devices := .empty
  channels := .empty
  dataPoints := .empty
  calculatedDpKeys := ∅
  cdps := .empty
  cdpByChannel := .empty
  programs := .empty
  programDps := .empty
  sysvars := .empty
  alarmPanels := .empty
  alarmPanelByZone := .empty
  weekProfileDps := .empty
  nextOid := 0

-- The store a compat adapter works on: its factories are installed first.
def LoomStore.categorised (maxDevices : Nat) (centralName serialSuffix : String) : LoomStore V :=
  {LoomStore.empty maxDevices with centralName, serialSuffix, calculatedFactory := true, programFactory := true}

variable {V : Type}

def shownCentralName (s : LoomStore V) : String := if s.centralName = "" then s.centralId else s.centralName

def channelOf (key : DataPointKey) : ChannelKey := (key.1,key.2.1)

def channelsOf (s : LoomStore V) (address : Address) : List Model.Channel :=
  ((s.channels.entries.filter fun e => e.1.1 = address).map Prod.snd).insertionSort fun a b => a.number ≤ b.number

def dataPointsOf (s : LoomStore V) (address : Address) (channel : Int) : List (Model.DataPoint V) :=
  ((s.dataPoints.entries.filter fun e => channelOf e.1 = (address,channel)).map Prod.snd).insertionSort
    fun a b => a.summary.parameter ≤ b.summary.parameter

def customDataPointsOf (s : LoomStore V) (address : Address) : List (Model.CustomDataPoint V) :=
  ((s.cdps.entries.filter fun e => e.1.1 = address).map Prod.snd).insertionSort
    fun a b => a.summary.name ≤ b.summary.name

-- A custom data point is one object under name and channel index.
def mutateCdp (s : LoomStore V) (key : CustomKey) (f : Model.CustomDataPoint V → Model.CustomDataPoint V) :
    LoomStore V :=
  match s.cdps.get? key with
  | none => s
  | some cdp => {s with
      cdps := s.cdps.modify key f
      cdpByChannel := s.cdpByChannel.mapWithKey fun _ c => if c.oid = cdp.oid then f c else c}

def registerCdp (s : LoomStore V) (key : CustomKey) (cdp : Model.CustomDataPoint V) : LoomStore V :=
  {s with cdps := s.cdps.set key cdp, cdpByChannel := s.cdpByChannel.set (key.1,cdp.summary.channelNo) cdp}

def dropCdp (s : LoomStore V) (key : CustomKey) : LoomStore V :=
  match s.cdps.get? key with
  | none => s
  | some cdp => {s with
      cdps := s.cdps.erase key
      cdpByChannel := s.cdpByChannel.erase (key.1,cdp.summary.channelNo)}

def setWeekProfileDataPoint (s : LoomStore V) (address : Address) (dp : Model.WeekProfileDp) (climate : Bool) :
    LoomStore V :=
  {s with
    weekProfileDps := s.weekProfileDps.set address ((s.weekProfileDps.getD address .empty).set climate dp)
    nextOid := max s.nextOid (dp.oid + 1)}

def canAdmitDevice (s : LoomStore V) (address : Address) : Bool :=
  decide (address ∈ s.devices) || decide (s.devices.size < s.maxDevices)

-- `none` is the refusal of a net-new address at the cap.
def upsertDeviceSummary (s : LoomStore V) (summary : DeviceSummary) : Option (LoomStore V) :=
  if summary.address ∈ s.devices then
    some {s with devices := s.devices.modify summary.address (·.updateSummary summary)}
  else if canAdmitDevice s summary.address then
    some {s with
      devices := s.devices.set summary.address (.build s.nextOid summary)
      nextOid := s.nextOid + 1}
  else none

def upsertChannel (s : LoomStore V) (summary : ChannelSummary) : LoomStore V :=
  let key := (devicePart summary.address,summary.number)
  if key ∈ s.channels then
    {s with channels := s.channels.modify key (·.replaceSummary summary)}
  else
    {s with channels := s.channels.set key ⟨s.nextOid,summary⟩, nextOid := s.nextOid + 1}

def dropChannel (s : LoomStore V) (key : ChannelKey) : LoomStore V :=
  {s with
    channels := s.channels.erase key
    dataPoints := s.dataPoints.eraseWhere fun k => decide (channelOf k = key)
    calculatedDpKeys := s.calculatedDpKeys.filter fun k => ¬ (k ∈ s.dataPoints ∧ channelOf k = key)}

def upsertProgram (s : LoomStore V) (summary : ProgramSummary) : LoomStore V :=
  if summary.id ∈ s.programs then
    {s with
      programs := s.programs.modify summary.id (·.replaceSummary summary)
      programDps := s.programDps.modify summary.id fun twins => twins.map (·.replaceSummary summary)}
  else if s.programFactory then
    -- The button and the switch are two objects over one record.
    {s with
      programs := s.programs.set summary.id ⟨s.nextOid,none,summary⟩
      programDps := s.programDps.set summary.id
        [⟨s.nextOid + 1,some .hubButton,summary⟩,⟨s.nextOid + 2,some .hubSwitch,summary⟩]
      nextOid := s.nextOid + 3}
  else
    {s with programs := s.programs.set summary.id ⟨s.nextOid,none,summary⟩, nextOid := s.nextOid + 1}

def upsertSysvar (s : LoomStore V) (summary : SysvarSummary V) : LoomStore V :=
  if summary.name ∈ s.sysvars then
    {s with sysvars := s.sysvars.modify summary.name (·.replaceSummary summary)}
  else
    {s with sysvars := s.sysvars.set summary.name (.build s.nextOid summary), nextOid := s.nextOid + 1}

-- Alarm panels: the same tie, here between unique id and zone.
def mutateAlarmPanel (s : LoomStore V) (uniqueId : String) (f : Model.AlarmPanel → Model.AlarmPanel) : LoomStore V :=
  match s.alarmPanels.get? uniqueId with
  | none => s
  | some panel => {s with
      alarmPanels := s.alarmPanels.modify uniqueId f
      alarmPanelByZone := s.alarmPanelByZone.mapWithKey fun _ p => if p.oid = panel.oid then f p else p}

def registerAlarmPanel (s : LoomStore V) (summary : AlarmPanelEntity) : LoomStore V :=
  {s with
    alarmPanels := s.alarmPanels.set summary.uniqueId ⟨s.nextOid,summary⟩
    alarmPanelByZone := s.alarmPanelByZone.set summary.zoneId ⟨s.nextOid,summary⟩
    nextOid := s.nextOid + 1}

def dropAlarmPanel (s : LoomStore V) (uniqueId : String) : LoomStore V :=
  match s.alarmPanels.get? uniqueId with
  | none => s
  | some panel => {s with
      alarmPanels := s.alarmPanels.erase uniqueId
      alarmPanelByZone := s.alarmPanelByZone.erase panel.summary.zoneId}

end LoomClient.Store
