import LoomClient.Compat.Adapter
import LoomClient.Lib.Coroutine

namespace LoomClient.Client
open Lib Wire Store Compat
variable {V : Type}

-- A missing alarm subsystem is an answer of its own, not a failure.
inductive Read where
  | systemCcus
  | snapshot (includeDataPoints : Bool) (central : Option String)
  | deviceDetail (address : Address)
  | channelDataPoints (address : Address) (channel : Int)
  | alarmPanels
  | alarmZoneStatuses
  | triggeredMotion
  | sysvars
  | programs
  | customDataPoints (address : Address)
  | calculatedDataPoints (address : Address) (channel : Int)
  | weekProfile (address : Address) (channel : Int)
  | channelSchedule (address : Address) (channel : Int)
  | dataPoint (key : DataPointKey)
  | calculatedDataPoint (key : DataPointKey)
  | customDataPoint (key : CustomKey)
  | program (id : String)
  deriving DecidableEq, Repr

def Answer (V : Type) : Read → Type
  | .systemCcus => List (Option String)
  | .snapshot _ _ => Snapshot V
  | .deviceDetail _ => DeviceDetail
  | .channelDataPoints _ _ => List (DataPointSummary V)
  | .alarmPanels => Option (List AlarmPanelEntity)
  | .alarmZoneStatuses => Unit
  | .triggeredMotion => Unit
  | .sysvars => List (SysvarSummary V)
  | .programs => List ProgramSummary
  | .customDataPoints _ => List (CustomDPSummary V)
  | .calculatedDataPoints _ _ => List (CalculatedDPSummary V)
  | .weekProfile _ _ => WeekProfileResponse
  | .channelSchedule _ _ => Nat
  | .dataPoint _ => DataPointSummary V
  | .calculatedDataPoint _ => CalculatedDPSummary V
  | .customDataPoint _ => Option (Dict String V)
  | .program _ => ProgramSummary

abbrev Answers (V : Type) := (read : Read) → Option (Answer V read)
abbrev Coroutine (V : Type) := Walk (Adapter V) (Effect V) Read (Answer V)

def onStore (operation : Operation V) (next : Coroutine V) : Coroutine V := .perform (.store operation) next

-- `_channel_map` and `_channel_dp_map`: a later entry for an address wins.
def channelMap (snapshot : Snapshot V) : Dict Address (List (Channel V)) :=
  .ofList ((snapshot.deviceChannels.getD []).map fun entry => (entry.deviceAddress,entry.channels))

def channelDpMap (channels : List (Channel V)) : Dict Int (List (DataPointSummary V)) :=
  .ofList (channels.map fun channel => (channel.number,channel.dataPoints.getD []))

-- `_attach_device_from_snapshot`
def attachDeviceFromSnapshot (summary : DeviceSummary) (channels : List (Channel V))
    (channelDataPoints : Option (Dict Int (List (DataPointSummary V)))) (next : Coroutine V) : Coroutine V :=
  onStore (.attachDeviceDetail (summary.withChannels (channels.map (·.toChannelSummary)))) <|
    match channelDataPoints with
    | none => next
    | some nested => channels.foldr (fun channel rest =>
        onStore (.attachChannelDataPoints summary.address channel.number (nested.getD channel.number [])) rest) next

-- `_fetch_device_into_store`: a failed read is an exception and ends the walk.
def fetchChannels (address : Address) (channelDataPoints : Option (Dict Int (List (DataPointSummary V))))
    (next : Coroutine V) : List ChannelSummary → Coroutine V
  | [] => next
  | channel :: rest =>
    let later := fetchChannels address channelDataPoints next rest
    match channelDataPoints with
    | some nested => onStore (.attachChannelDataPoints address channel.number (nested.getD channel.number [])) later
    | none => .ask (.channelDataPoints address channel.number) fun
      | none => .done
      | some dataPoints => onStore (.attachChannelDataPoints address channel.number dataPoints) later

def fetchDeviceIntoStore (address : Address) (fetchDataPoints : Bool)
    (channelDataPoints : Option (Dict Int (List (DataPointSummary V)))) (next : Coroutine V) : Coroutine V :=
  .ask (.deviceDetail address) fun
    | none => .done
    | some detail => onStore (.attachDeviceDetail detail) <|
      if fetchDataPoints then fetchChannels address channelDataPoints next detail.channels else next

-- `_pin_central_id`: the rule of the snapshot's own inference, asked earlier.
def pinCentralId (next : Coroutine V) : Coroutine V :=
  .look fun a => if a.store.centralId ≠ "" then next else
    .ask .systemCcus fun
      | none => next
      | some entries =>
        let names := entries.filterMap truthy
        onStore (.setDaemonCentralCount names.length) <| .look fun a =>
          let configured := shownCentralName a.store
          if configured ≠ "" ∧ configured ∈ names then onStore (.setCentralId configured) next
          else match names with
            | [only] => onStore (.setCentralId only) next
            | _ => next

def bootstrapDevices (snapshot : Snapshot V) (fetchDataPoints : Bool) (next : Coroutine V) :
    List DeviceSummary → Coroutine V
  | [] => next
  | summary :: rest =>
    let later := bootstrapDevices snapshot fetchDataPoints next rest
    match (channelMap snapshot).get? summary.address with
    | some channels => attachDeviceFromSnapshot summary channels
        (if fetchDataPoints then some (channelDpMap channels) else none) later
    | none => fetchDeviceIntoStore summary.address fetchDataPoints none later

def bootstrapAlarmPanels (next : Coroutine V) : Coroutine V :=
  .ask .alarmPanels fun
    | none => .done
    | some none => next
    | some (some panels) => onStore (.attachAlarmPanels panels) <|
      if panels.isEmpty then next else
        .ask .alarmZoneStatuses fun
          | none => .done
          | some _ => .ask .triggeredMotion fun _ => next

def bootstrap (fetchDataPoints : Bool) (next : Coroutine V) : Coroutine V :=
  pinCentralId <| .look fun a =>
    .ask (.snapshot fetchDataPoints (truthy (some a.store.centralId))) fun
      | none => .done
      | some snapshot => onStore (.loadSnapshot snapshot) <|
        bootstrapDevices snapshot fetchDataPoints
          (bootstrapAlarmPanels <| .look fun a => .perform (.publishDataPointsCreated a.store.devices.keys) next)
          snapshot.devices

-- `_bootstrap_hub_catalogue`: either read failing skips the merge.
def bootstrapHubCatalogue (next : Coroutine V) : Coroutine V :=
  .ask .sysvars fun
    | none => next
    | some sysvars => .ask .programs fun
      | none => next
      | some programs => onStore (.attachHubCatalogue sysvars programs) next

-- The calculated DURATION sensor is replaced by the combined number and only lends it its label.
def suppressedCalculatedNames : List String := ["DURATION"]

def suppressLabels (address : Address) (channel : Int) (calculated : List (CalculatedDPSummary V))
    (next : Coroutine V) : Coroutine V :=
  calculated.foldr (fun c rest =>
    match truthy c.translatedName with
    | some label => if c.name ∈ suppressedCalculatedNames then .perform (.suppressLabel (address,channel) label) rest
        else rest
    | none => rest) next

def fetchCalculated (address : Address) (next : Coroutine V) : List Int → Coroutine V
  | [] => next
  | channel :: rest => .ask (.calculatedDataPoints address channel) fun
    | none => .done
    | some calculated =>
      let kept := calculated.filter fun c => c.name ∉ suppressedCalculatedNames
      suppressLabels address channel calculated <|
        if kept.isEmpty then fetchCalculated address next rest
        else onStore (.attachChannelCalculatedDataPoints address channel kept) (fetchCalculated address next rest)

def fetchCustomDataPoints (next : Coroutine V) : List Address → Coroutine V
  | [] => next
  | address :: rest => .ask (.customDataPoints address) fun
    | none => .done
    | some cdps =>
      let calculated := .look fun a =>
        fetchCalculated address (fetchCustomDataPoints next rest) ((channelsOf a.store address).map (·.number))
      if cdps.isEmpty then calculated else onStore (.attachCustomDataPoints address cdps) calculated

def bootstrapCustomDataPoints (next : Coroutine V) : Coroutine V :=
  .look fun a => fetchCustomDataPoints next (a.store.devices.values.map (·.address))

-- The week-profile channel is probed ahead of the climate channel and wins every conflict.
structure SpawnedSchedules where
  kinds : List Bool
  uniqueIds : List String

def endsWith (name suffix : String) : Bool := suffix.toList.isSuffixOf name.toList

def scheduleChannels (s : LoomStore V) (address : Address) : List (Int × Bool) :=
  let cdps := customDataPointsOf s address
  let climate := (cdps.find? fun cdp => cdp.summary.category = "climate").map (·.summary.channelNo)
  let weekProfile := ((channelsOf s address).find? fun c => endsWith (c.summary.type.getD "") "WEEK_PROFILE").map
    (·.number)
  if cdps.isEmpty then [] else
    (weekProfile.map fun n => (n,true)).toList ++
      ((climate.filter fun n => some n ≠ weekProfile).map fun n => (n,false)).toList

def spawnSchedules (address : Address) (next : Coroutine V) : List (Int × Bool) → SpawnedSchedules → Coroutine V
  | [],_ => next
  | (channelNo,withSwitches) :: rest,spawned => .ask (.weekProfile address channelNo) fun
    | none => spawnSchedules address next rest spawned
    | some profile =>
      if isClimate profile ∈ spawned.kinds ∨ profile.uniqueId ∈ spawned.uniqueIds then
        spawnSchedules address next rest spawned
      else .ask (.channelSchedule address channelNo) fun entries =>
        .perform (.spawnWeekProfile address channelNo profile entries withSwitches) <|
          spawnSchedules address next rest ⟨isClimate profile :: spawned.kinds,profile.uniqueId :: spawned.uniqueIds⟩

def bootstrapSchedules (next : Coroutine V) : Coroutine V :=
  .look fun a => (a.store.devices.values.map (·.address)).foldr (fun address rest =>
    .look fun a => spawnSchedules address rest (scheduleChannels a.store address) ⟨[],[]⟩) next

-- On a start the announcement comes once the event stream is open, on a re-bootstrap right away.
def bootstrapLayer (next : Coroutine V) : Coroutine V :=
  bootstrapHubCatalogue <| bootstrapCustomDataPoints <| bootstrapSchedules <| .perform .bootstrapCombinedDataPoints next

def onStoreRebootstrapped : Coroutine V := bootstrapLayer <| .perform .emitDataPointsCreated .done

def start : Coroutine V := bootstrap true <| bootstrapLayer <| .perform .emitDataPointsCreated .done

def runRebootstrap (hook : Bool) : Coroutine V := bootstrap true (if hook then onStoreRebootstrapped else .done)

-- `_reconcile_new_device_now`
def reconcileNewDevice (address : Address) : Coroutine V :=
  fetchDeviceIntoStore address true none <| .look fun a =>
    if address ∈ a.store.devices then .perform (.publishDataPointsCreated [address]) .done else .done

-- The `refresh_*` round trips.
def refreshDevice (address : Address) : Coroutine V :=
  .ask (.deviceDetail address) fun
    | none => .done
    | some detail => onStore (.attachDeviceDetail detail) .done

def refreshDataPoint (key : DataPointKey) : Coroutine V :=
  .ask (.dataPoint key) fun
    | none => .done
    | some summary => onStore (.settleDataPoint key summary) .done

def refreshCalculatedDataPoint (key : DataPointKey) : Coroutine V :=
  .ask (.calculatedDataPoint key) fun
    | none => .done
    | some calculated => onStore (.settleCalculatedDataPoint key calculated) .done

-- The generation is read before the request goes out.
def refreshCustomDataPoint (key : CustomKey) : Coroutine V :=
  .look fun a => match a.store.cdps.get? key with
    | none => .done
    | some cdp => .ask (.customDataPoint key) fun
      | none => .done
      | some state => onStore (.settleCustomDataPoint key cdp.applyGeneration state) .done

def refreshProgram (id : String) : Coroutine V :=
  .ask (.program id) fun
    | none => .done
    | some summary => onStore (.upsertProgram summary) .done

section Schedules
variable {asks : Read → Prop} {performs : Effect V → Prop} {next : Coroutine V}

theorem spawn_schedules_only (probes : ∀ address channel, asks (.weekProfile address channel))
    (reads : ∀ address channel, asks (.channelSchedule address channel))
    (spawns : ∀ address channel profile entries switches,
      performs (.spawnWeekProfile address channel profile entries switches))
    (later : next.Only asks performs) (spawned : SpawnedSchedules) :
    (spawnSchedules address next channels spawned).Only asks performs := by
  induction channels generalizing spawned with
  | nil => exact later
  | cons channel rest ih =>
    refine ⟨probes _ _,fun profile => ?_⟩
    cases profile with
    | none => exact ih spawned
    | some profile =>
      dsimp only
      split
      · exact ih spawned
      · exact ⟨reads _ _,fun _ => ⟨spawns _ _ _ _ _,ih _⟩⟩

theorem schedules_only (probes : ∀ address channel, asks (.weekProfile address channel))
    (reads : ∀ address channel, asks (.channelSchedule address channel))
    (spawns : ∀ address channel profile entries switches,
      performs (.spawnWeekProfile address channel profile entries switches))
    (later : next.Only asks performs) : (bootstrapSchedules next).Only asks performs := by
  intro a
  dsimp only
  induction a.store.devices.values.map (·.address) with
  | nil => exact later
  | cons address rest ih => exact fun _ => spawn_schedules_only probes reads spawns ih _

end Schedules

-- All that a coroutine asks for and performs, once its pin and its snapshot are behind it.
def asksNoCentral : Read → Prop
  | .systemCcus => False
  | .snapshot _ _ => False
  | _ => True

def namesNoCentral : Effect V → Prop
  | .store (.setCentralId _) => False
  | .store (.loadSnapshot _) => False
  | _ => True

def Centralless (walk : Coroutine V) : Prop := walk.Only asksNoCentral namesNoCentral

section Centralless
variable {next : Coroutine V}

theorem attach_snapshot_centralless (later : Centralless next) :
    Centralless (attachDeviceFromSnapshot summary channels channelDataPoints next) := by
  refine ⟨trivial,?_⟩
  cases channelDataPoints with
  | none => exact later
  | some nested =>
    dsimp only
    induction channels with
    | nil => exact later
    | cons channel rest ih => exact ⟨trivial,ih⟩

theorem fetch_channels_centralless (later : Centralless next) :
    Centralless (fetchChannels address channelDataPoints next channels) := by
  induction channels with
  | nil => exact later
  | cons channel rest ih =>
    unfold fetchChannels
    cases channelDataPoints with
    | some nested => exact ⟨trivial,ih⟩
    | none =>
      refine ⟨trivial,fun reply => ?_⟩
      cases reply with
      | none => trivial
      | some dataPoints => exact ⟨trivial,ih⟩

theorem fetch_device_centralless (later : Centralless next) :
    Centralless (fetchDeviceIntoStore address fetchDataPoints channelDataPoints next) := by
  refine ⟨trivial,fun reply => ?_⟩
  cases reply with
  | none => trivial
  | some detail =>
    refine ⟨trivial,?_⟩
    split
    · exact fetch_channels_centralless later
    · exact later

theorem bootstrap_devices_centralless (later : Centralless next) :
    Centralless (bootstrapDevices snapshot fetchDataPoints next devices) := by
  induction devices with
  | nil => exact later
  | cons summary rest ih =>
    unfold bootstrapDevices
    dsimp only
    split
    · exact attach_snapshot_centralless ih
    · exact fetch_device_centralless ih

theorem alarm_panels_centralless (later : Centralless next) : Centralless (bootstrapAlarmPanels next) := by
  refine ⟨trivial,fun reply => ?_⟩
  match reply with
  | none => trivial
  | some none => exact later
  | some (some panels) =>
    refine ⟨trivial,?_⟩
    split
    · exact later
    · refine ⟨trivial,fun statuses => ?_⟩
      cases statuses with
      | none => trivial
      | some _ => exact ⟨trivial,fun _ => later⟩

theorem hub_catalogue_centralless (later : Centralless next) : Centralless (bootstrapHubCatalogue next) := by
  refine ⟨trivial,fun sysvars => ?_⟩
  cases sysvars with
  | none => exact later
  | some sysvars =>
    refine ⟨trivial,fun programs => ?_⟩
    cases programs with
    | none => exact later
    | some programs => exact ⟨trivial,later⟩

theorem suppress_labels_centralless (later : Centralless next) : Centralless (suppressLabels address channel calculated next) := by
  induction calculated with
  | nil => exact later
  | cons c rest ih =>
    unfold suppressLabels at ih ⊢
    rw [List.foldr_cons]
    split
    · split
      · exact ⟨trivial,ih⟩
      · exact ih
    · exact ih

theorem fetch_calculated_centralless (later : Centralless next) : Centralless (fetchCalculated address next channels) := by
  induction channels with
  | nil => exact later
  | cons channel rest ih =>
    refine ⟨trivial,fun reply => ?_⟩
    cases reply with
    | none => trivial
    | some calculated =>
      refine suppress_labels_centralless ?_
      split
      · exact ih
      · exact ⟨trivial,ih⟩

theorem fetch_customs_centralless (later : Centralless next) : Centralless (fetchCustomDataPoints next devices) := by
  induction devices with
  | nil => exact later
  | cons address rest ih =>
    refine ⟨trivial,fun reply => ?_⟩
    cases reply with
    | none => trivial
    | some cdps =>
      have calculated : ∀ a : Adapter V, Centralless (fetchCalculated address (fetchCustomDataPoints next rest)
          ((channelsOf a.store address).map (·.number))) := fun _ => fetch_calculated_centralless ih
      dsimp only
      split
      · exact calculated
      · exact ⟨trivial,calculated⟩

theorem schedules_centralless (later : Centralless next) : Centralless (bootstrapSchedules next) :=
  schedules_only (fun _ _ => trivial) (fun _ _ => trivial) (fun _ _ _ _ _ => trivial) later

theorem layer_centralless (later : Centralless next) : Centralless (bootstrapLayer next) :=
  hub_catalogue_centralless fun _ => fetch_customs_centralless (schedules_centralless ⟨trivial,later⟩)

theorem hook_centralless (hook : Bool) : Centralless (if hook then onStoreRebootstrapped else .done : Coroutine V) := by
  split
  · exact layer_centralless ⟨trivial,trivial⟩
  · trivial

theorem start_layer_centralless : Centralless (bootstrapLayer (.perform .emitDataPointsCreated .done) : Coroutine V) :=
  layer_centralless ⟨trivial,trivial⟩

theorem reconcile_centralless (address : Address) : Centralless (reconcileNewDevice address : Coroutine V) := by
  refine fetch_device_centralless fun a => ?_
  dsimp only
  split
  · exact ⟨trivial,trivial⟩
  · trivial

theorem read_centralless (read : Read) {goesOn : Option (Answer V read) → Coroutine V} (asked : asksNoCentral read)
    (ends : goesOn none = .done) (later : ∀ reply, Centralless (goesOn (some reply))) : Centralless (.ask read goesOn) := by
  refine ⟨asked,fun reply => ?_⟩
  cases reply with
  | none =>
    rw [ends]
    trivial
  | some reply => exact later reply

theorem refresh_device_centralless (address : Address) : Centralless (refreshDevice address : Coroutine V) := by
  apply read_centralless (.deviceDetail address) trivial rfl
  exact fun _ => ⟨trivial,trivial⟩

theorem refresh_data_point_centralless (key : DataPointKey) : Centralless (refreshDataPoint key : Coroutine V) := by
  apply read_centralless (.dataPoint key) trivial rfl
  exact fun _ => ⟨trivial,trivial⟩

theorem refresh_calculated_centralless (key : DataPointKey) :
    Centralless (refreshCalculatedDataPoint key : Coroutine V) := by
  apply read_centralless (.calculatedDataPoint key) trivial rfl
  exact fun _ => ⟨trivial,trivial⟩

theorem refresh_custom_centralless (key : CustomKey) : Centralless (refreshCustomDataPoint key : Coroutine V) := by
  intro a
  dsimp only
  split
  · trivial
  · apply read_centralless (.customDataPoint key) trivial rfl
    exact fun _ => ⟨trivial,trivial⟩

theorem refresh_program_centralless (id : String) : Centralless (refreshProgram id : Coroutine V) := by
  apply read_centralless (.program id) trivial rfl
  exact fun _ => ⟨trivial,trivial⟩

end Centralless

end LoomClient.Client
