import LoomClient.Client.Session

namespace LoomClient.Client
open Lib Wire Store Compat
variable {V : Type}

-- What the nested snapshot carries for a channel is what the channel's own read answers with.
structure DaemonChannel (V : Type) where
  summary : ChannelSummary
  dataPoints : List (DataPointSummary V)
  calculated : List (CalculatedDPSummary V)

structure DaemonDevice (V : Type) where
  summary : DeviceSummary
  channels : List (DaemonChannel V)
  customDataPoints : List (CustomDPSummary V)
  weekProfiles : Dict Int (WeekProfileResponse × Nat)

structure Daemon (V : Type) where
  ccus : List (Option String)
  devices : List (DaemonDevice V)
  programs : List ProgramSummary
  sysvars : List (SysvarSummary V)
  interfaces : List InterfaceState
  alarmPanels : Option (List AlarmPanelEntity)

def DaemonDevice.address (d : DaemonDevice V) : Address := d.summary.address
def DaemonDevice.detail (d : DaemonDevice V) : DeviceDetail := d.summary.withChannels (d.channels.map (·.summary))

def DaemonChannel.nested (c : DaemonChannel V) (includeDataPoints : Bool) : Wire.Channel V :=
  {c.summary with dataPoints := if includeDataPoints then some c.dataPoints else none}

namespace Daemon

def device? (d : Daemon V) (address : Address) : Option (DaemonDevice V) :=
  d.devices.find? fun x => x.address = address

def channel? (d : Daemon V) (address : Address) (channel : Int) : Option (DaemonChannel V) :=
  (d.device? address).bind fun x => x.channels.find? fun c => c.summary.number = channel

def snapshot (d : Daemon V) (includeDataPoints : Bool) : Snapshot V where
  devices := d.devices.map (·.summary)
  programs := some d.programs
  sysvars := some d.sysvars
  interfaces := some d.interfaces
  deviceChannels := some (d.devices.map fun x => ⟨x.address,x.channels.map (·.nested includeDataPoints)⟩)

def answers (d : Daemon V) : Answers V
  | .systemCcus => some d.ccus
  | .snapshot includeDataPoints _ => some (d.snapshot includeDataPoints)
  | .deviceDetail address => (d.device? address).map (·.detail)
  | .channelDataPoints address channel => (d.channel? address channel).map (·.dataPoints)
  | .alarmPanels => some d.alarmPanels
  | .alarmZoneStatuses => some ()
  | .triggeredMotion => some ()
  | .sysvars => some d.sysvars
  | .programs => some d.programs
  | .customDataPoints address => (d.device? address).map (·.customDataPoints)
  | .calculatedDataPoints address channel => (d.channel? address channel).map (·.calculated)
  | .weekProfile address channel => (d.device? address).bind fun x => (x.weekProfiles.get? channel).map Prod.fst
  | .channelSchedule address channel => (d.device? address).bind fun x => (x.weekProfiles.get? channel).map Prod.snd
  | .dataPoint key => (d.channel? key.1 key.2.1).bind fun c => c.dataPoints.find? fun dp => dp.parameter = key.2.2
  | .calculatedDataPoint key => (d.channel? key.1 key.2.1).bind fun c => c.calculated.find? fun dp => dp.name = key.2.2
  | .customDataPoint key =>
    (d.device? key.1).bind fun x => (x.customDataPoints.find? fun cdp => cdp.name = key.2).map (·.state)
  | .program id => d.programs.find? fun p => p.id = id

end Daemon

def Daemon.bare (devices : List (DaemonDevice V)) : Daemon V := ⟨[],devices,[],[],[],none⟩

def bareSummary (address : Address) : DeviceSummary := stubSummary ⟨"","",address,"",none⟩

def bareChannel (address : String) (number : Int) : ChannelSummary := ⟨address,number,none,none,none⟩

def bareUpstream : Upstream := ⟨fun _ address parameter _ => address ++ parameter.getD "",fun _ => true⟩

def bareDataPoint (parameter uniqueId : String) (modifiedAt : Option Instant) : DataPointSummary V :=
  ⟨parameter,uniqueId,none,none,true,modifiedAt,none,none,none,none,none,none,⟨true,false,true⟩,none⟩

def bareDevice (address : Address) (modifiedAt : Option Instant) : DaemonDevice V where
  summary := bareSummary address
  channels := [⟨bareChannel (address ++ ":1") 1,[bareDataPoint "STATE" address modifiedAt],[]⟩]
  customDataPoints := []
  weekProfiles := .empty

end LoomClient.Client
