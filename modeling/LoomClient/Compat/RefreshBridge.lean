import LoomClient.Compat.EventGroups
import LoomClient.Store.AlarmFanOut
import LoomClient.Store.Sweep
import LoomClient.Store.Places
import LoomClient.Store.Ties

namespace LoomClient.Compat
open Lib Wire Store
variable {V : Type}

structure RoutingKeys where
  canonicalUniqueId : String → String → Option String → String
  hubSlug : String → String

inductive NewValue (V : Type) where
  | none
  | wire (value : Option V)
  | active (flag : Bool)
  | token (state : String)
  deriving DecidableEq

inductive LifecycleType where
  | created
  | removed
  deriving DecidableEq

-- A DeviceRemovedEvent is the flavour that names one data point.
inductive HaEvent (V : Type) where
  | dataPointStateChanged (uniqueId : String) (newValue : NewValue V)
  | deviceRemoved (uniqueId : String)
  | deviceLifecycle (type : LifecycleType) (address : Address) (interfaceId : String)
  deriving DecidableEq

def HaEvent.pings : HaEvent V → Option String
  | .dataPointStateChanged uniqueId _ => some uniqueId
  | _ => none

section Bridge
variable (r : RoutingKeys)

def channelAddress (address : Address) (channel : Int) : String := address ++ ":" ++ toString channel

def dataPointEventKey (serialSuffix : String) (address : Address) (channel : Int) (parameter : String) : String :=
  r.canonicalUniqueId serialSuffix (channelAddress address channel) (some parameter)

def customUniqueId (serialSuffix : String) (address : Address) (channel : Int) : String :=
  r.canonicalUniqueId serialSuffix (channelAddress address channel) none

def legacySysvarUniqueId (serialSuffix name : String) : String := r.canonicalUniqueId serialSuffix "sysvar" (some (r.hubSlug name))

-- `unique_id or ...`
def orKey (uniqueId fallback : String) : String := if uniqueId = "" then fallback else uniqueId

def valueKey (s : LoomStore V) (payload : DataPointValueChangedPayload V) : String :=
  orKey payload.uniqueId (dataPointEventKey r s.serialSuffix payload.deviceAddress payload.channel payload.parameter)

-- A custom data point renders the values of its channel, so that it is told as well.
def bridgeValue (s : LoomStore V) (payload : DataPointValueChangedPayload V) : List (HaEvent V) :=
  .dataPointStateChanged (valueKey r s payload) (.wire payload.value) ::
    if (getCustomDataPointByChannel s payload.deviceAddress payload.channel).isSome then
      [.dataPointStateChanged (customUniqueId r s.serialSuffix payload.deviceAddress payload.channel) .none]
    else []

def customKey (s : LoomStore V) (payload : CustomDataPointStateChangedPayload V) : String :=
  orKey payload.uniqueId (customUniqueId r s.serialSuffix payload.deviceAddress payload.channel)

-- The payload's own id, the one of the record, the name.
def sysvarEventKey (s : LoomStore V) (uniqueId name : String) : String :=
  orKey uniqueId (orKey (((s.sysvars.get? name).map (·.summary.uniqueId)).getD "") (legacySysvarUniqueId r s.serialSuffix name))

def bridgeProgram (payload : ProgramChangedPayload) : List (HaEvent V) :=
  match truthy payload.uniqueId with
  | none => []
  | some uniqueId => [.dataPointStateChanged uniqueId (.active payload.active)]

def bridgeAvailability (s : LoomStore V) (address : Address) : List (HaEvent V) :=
  ((channelsOf s address).flatMap fun channel => (dataPointsOf s address channel.number).map fun dp =>
    .dataPointStateChanged dp.summary.uniqueId .none) ++
  (customDataPointsOf s address).map fun cdp => .dataPointStateChanged cdp.summary.uniqueId .none

def bridgePanel (payload : AlarmPanelChangedPayload) : List (HaEvent V) :=
  if payload.removed then [.deviceRemoved payload.uniqueId]
  else [.dataPointStateChanged payload.uniqueId (.token payload.state)]

-- No handler is subscribed for the health of the engine, which no panel shows.
def pingZone (a : AlarmSection) (zoneId : String) : List (HaEvent V) :=
  match a.panelByZone zoneId with
  | none => []
  | some panel => [.dataPointStateChanged panel.summary.uniqueId .none]

def bridgedAlarm (a : AlarmSection) : AlarmPush → List (HaEvent V)
  | .panelChanged payload => bridgePanel payload
  | .stateChanged payload => pingZone a payload.zoneId
  | .countdown payload => pingZone a payload.zoneId
  | .readinessChanged payload => pingZone a payload.zoneId
  | .triggered payload => pingZone a payload.zoneId
  | .healthChanged _ => []

def bridged (s : LoomStore V) : Push V → List (HaEvent V)
  | .valueChanged payload => bridgeValue r s payload
  | .customStateChanged payload => [.dataPointStateChanged (customKey r s payload) .none]
  | .sysvarChanged payload => [.dataPointStateChanged (sysvarEventKey r s payload.uniqueId payload.name) (.wire payload.value)]
  | .programChanged payload => bridgeProgram payload
  | .availabilityChanged payload => bridgeAvailability s payload.deviceAddress
  | .alarmPanelChanged payload => bridgePanel payload
  | .deviceCreated payload => [.deviceLifecycle .created payload.deviceAddress payload.interfaceId]
  | .deviceRemoved payload => [.deviceLifecycle .removed payload.deviceAddress payload.interfaceId]
  | .deviceReleased _ | .metadataChanged _ | .deviceRefreshed _ | .programExecuted _ | .centralStateChanged _ => []

end Bridge

-- What each entity renders off the store, the alarm panels apart.
inductive Entity where
  | dataPoint (key : DataPointKey)
  | custom (key : CustomKey)
  | sysvar (name : String)
  | program (id : String)
  deriving DecidableEq

inductive Rendering (V : Type) where
  | dataPoint (value : Option V) (available : Bool)
  | custom (state : Dict String V) (fields : String → Option V) (available : Bool)
  | sysvar (value : Option V)
  | program (active executeAvailable : Option Bool)

-- A device that is not known counts as available.
def deviceAvailable (s : LoomStore V) (address : Address) : Bool := ((s.devices.get? address).map (·.available)).getD true

def fieldValue (s : LoomStore V) (address : Address) (channel : Int) (parameter : String) : Option V :=
  (s.dataPoints.get? (address,channel,parameter)).bind (·.value)

def rendering (s : LoomStore V) : Entity → Option (Rendering V)
  | .dataPoint key => (s.dataPoints.get? key).map fun dp => .dataPoint dp.value (deviceAvailable s dp.deviceAddress)
  | .custom key => (s.cdps.get? key).map fun cdp =>
    .custom cdp.state (fieldValue s cdp.deviceAddress cdp.summary.channelNo) (deviceAvailable s cdp.deviceAddress)
  | .sysvar name => (s.sysvars.get? name).map fun v => .sysvar v.value
  | .program id => (s.programs.get? id).map fun p => .program p.summary.active p.summary.executeAvailable

def entityId (s : LoomStore V) : Entity → Option String
  | .dataPoint key => (s.dataPoints.get? key).map (·.summary.uniqueId)
  | .custom key => (s.cdps.get? key).map (·.summary.uniqueId)
  | .sysvar name => (s.sysvars.get? name).map (·.summary.uniqueId)
  | .program id => (s.programs.get? id).map (·.summary.uniqueId)

def Pinged (s : LoomStore V) (events : List (HaEvent V)) (e : Entity) : Prop :=
  ∃ uniqueId ∈ entityId s e, uniqueId ∈ events.filterMap HaEvent.pings

instance (s : LoomStore V) (events : List (HaEvent V)) (e : Entity) : Decidable (Pinged s events e) :=
  decidable_of_iff ((entityId s e).any fun uniqueId => decide (uniqueId ∈ events.filterMap HaEvent.pings)) (by
    unfold Pinged
    cases entityId s e <;> simp)

-- The push of a panel is listed with both kinds.
inductive StorePush (V : Type) where
  | wire (push : Push V)
  | alarm (push : AlarmPush)

def StorePush.asWire : StorePush V → Option (Push V)
  | .wire push => some push
  | .alarm (.panelChanged payload) => some (.alarmPanelChanged payload)
  | .alarm _ => none

def StorePush.asAlarm : StorePush V → Option AlarmPush
  | .wire (.alarmPanelChanged payload) => some (.panelChanged payload)
  | .wire _ => none
  | .alarm push => some push

-- An entity reads again when it is told, and only then.
structure Screen (V : Type) where
  store : LoomStore V
  alarms : AlarmSection
  painted : Entity → Option (Rendering V)
  panels : String → Option LivePanel

def Screen.events (r : RoutingKeys) (x : Screen V) : StorePush V → List (HaEvent V)
  | .wire push => bridged r x.store push
  | .alarm push => bridgedAlarm x.alarms push

def Screen.applied (x : Screen V) (p : StorePush V) : Screen V :=
  {x with
    store := (p.asWire.map (applyPush x.store)).getD x.store
    alarms := (p.asAlarm.map x.alarms.applyPush).getD x.alarms}

-- The store has applied a push when the bridge announces it.
def Screen.push (r : RoutingKeys) (x : Screen V) (p : StorePush V) : Screen V :=
  let y := x.applied p
  let events := y.events r p
  {y with
    painted := fun e => if Pinged y.store events e then rendering y.store e else x.painted e
    panels := fun uniqueId =>
      if uniqueId ∈ events.filterMap HaEvent.pings then y.alarms.panelAt uniqueId else x.panels uniqueId}

structure UpToDate (x : Screen V) : Prop where
  painted : ∀ e, rendering x.store e ≠ none → x.painted e = rendering x.store e
  panels : ∀ uniqueId, x.alarms.panelAt uniqueId ≠ none → x.panels uniqueId = x.alarms.panelAt uniqueId

-- A push speaks of an object under the unique id that the store has for it.
def SpeaksOf (r : RoutingKeys) (s : LoomStore V) : Push V → Prop
  | .valueChanged payload =>
    (∀ dp ∈ s.dataPoints.get? (payload.deviceAddress,payload.channel,payload.parameter), valueKey r s payload = dp.summary.uniqueId) ∧
      ∀ cdp ∈ getCustomDataPointByChannel s payload.deviceAddress payload.channel,
        customUniqueId r s.serialSuffix payload.deviceAddress payload.channel = cdp.summary.uniqueId
  | .customStateChanged payload =>
    ∀ cdp ∈ s.cdps.get? (payload.deviceAddress,payload.name), customKey r s payload = cdp.summary.uniqueId
  | .sysvarChanged payload =>
    ∀ v ∈ s.sysvars.get? payload.name, sysvarEventKey r s payload.uniqueId payload.name = v.summary.uniqueId
  | .programChanged payload => ∀ p ∈ s.programs.get? payload.programId, truthy payload.uniqueId = some p.summary.uniqueId
  | _ => True

instance (r : RoutingKeys) (s : LoomStore V) (p : Push V) : Decidable (SpeaksOf r s p) := by
  induction p using Push.casesOn <;> unfold SpeaksOf <;> infer_instance

def StorePush.SpeaksOf (r : RoutingKeys) (s : LoomStore V) (p : StorePush V) : Prop :=
  ∀ push ∈ p.asWire, Compat.SpeaksOf r s push

instance (r : RoutingKeys) (s : LoomStore V) (p : StorePush V) : Decidable (p.SpeaksOf r s) := by
  unfold StorePush.SpeaksOf
  infer_instance

-- The graph and the indices, and that objects know the place they stand at.
structure Sited (s : LoomStore V) : Prop where
  intact : Intact s
  placed : Placed s
  customs : Customs s
  inStep : ChannelsInStep s
  keyed : ProgramsKeyed s
  numbered : ChannelsKeyed s

-- The panels are objects apart, each with the unique id it is registered under.
structure Seated (a : AlarmSection) : Prop where
  sound : a.Sound
  named : ∀ uid oid, a.panels.get? uid = some oid → ∀ p ∈ a.objects.get? oid, p.summary.uniqueId = uid

section Pushes
variable {r : RoutingKeys} {s : LoomStore V}

theorem channel_numbered (numbered : ChannelsKeyed s) (stored : s.channels.get? k = some c) : c.number = k.2 := by
  have record : channelRecord s k = some c.summary := by rw [channelRecord,stored,Option.map_some]
  exact congrArg Prod.snd (numbered k c.summary record)

theorem custom_place (sited : Sited s) (found : s.cdps.get? k = some cdp) : cdp.deviceAddress = k.1 :=
  congrArg Prod.fst (sited.customs.1.keyed k cdp found)

theorem push_sited (sited : Sited s) (p : Push V) : Sited (applyPush s p) where
  intact := push_intact s p sited.intact
  placed := placed_of_kept sited.placed (push_kept s p) (push_counter s p)
  customs := (operation_indexes s (.push p) trivial sited.customs).1
  inStep := ((operation_indexes s (.push p) trivial sited.customs).2 sited.inStep).mpr trivial
  keyed := push_keyed s p sited.keyed
  numbered := push_keyed_channels sited.numbered p

theorem field_value_same {t : LoomStore V} (points : t.dataPoints = s.dataPoints) : fieldValue t = fieldValue s := by
  unfold fieldValue
  rw [points]

theorem rendering_same {t : LoomStore V} (points : t.dataPoints = s.dataPoints) (cdps : t.cdps = s.cdps)
    (devices : ∀ address, deviceAvailable t address = deviceAvailable s address)
    (sysvars : t.sysvars = s.sysvars) (programs : t.programs = s.programs) (e : Entity) :
    rendering t e = rendering s e := by
  have fields := field_value_same points
  cases e with
  | dataPoint key => simp only [rendering,points,devices]
  | custom key => simp only [rendering,cdps,devices,fields]
  | sysvar name => simp only [rendering,sysvars]
  | program id => simp only [rendering,programs]

-- Every entity renders what it did, is gone, or is told.
def Repainted (r : RoutingKeys) (s : LoomStore V) (p : Push V) : Prop := ∀ e, rendering (applyPush s p) e ≠ none →
  rendering (applyPush s p) e = rendering s e ∨ Pinged (applyPush s p) (bridged r (applyPush s p) p) e

theorem ping_mem {events : List (HaEvent V)} (member : HaEvent.dataPointStateChanged uniqueId value ∈ events) :
    uniqueId ∈ events.filterMap HaEvent.pings := List.mem_filterMap.mpr ⟨_,member,rfl⟩

theorem value_repainted (sited : Sited s) (payload : DataPointValueChangedPayload V) (speaks : SpeaksOf r s (.valueChanged payload)) :
    Repainted r s (.valueChanged payload) := by
  intro e shown
  obtain ⟨points,index⟩ := speaks
  cases e with
  | dataPoint key =>
    by_cases here : key = (payload.deviceAddress,payload.channel,payload.parameter)
    · right
      cases held : s.dataPoints.get? key with
      | none =>
        refine absurd ?_ shown
        simp only [rendering,applyPush,applyValueChanged,Dict.get?_modify,here,if_true]
        rw [← here,held]
        rfl
      | some dp =>
        refine ⟨dp.summary.uniqueId,?_,?_⟩
        · simp only [entityId,applyPush,applyValueChanged,Dict.get?_modify,here,if_true]
          rw [← here,held]
          rfl
        · have same := points dp (here ▸ held)
          rw [← same]
          exact ping_mem (.head _)
    · left
      simp only [rendering,applyPush,applyValueChanged,Dict.get?_modify,here,if_false]
      rfl
  | custom key =>
    cases held : s.cdps.get? key with
    | none => exact absurd (by simp [rendering,applyPush,applyValueChanged,held]) shown
    | some cdp =>
      have place := custom_place sited held
      by_cases here : (cdp.deviceAddress,cdp.summary.channelNo) = (payload.deviceAddress,payload.channel)
      · right
        obtain ⟨address,channel⟩ := Prod.mk.inj here
        have indexed : getCustomDataPointByChannel s payload.deviceAddress payload.channel = some cdp :=
          (sited.inStep _ _ _).mpr ⟨key.2,by rw [← address,place]; exact held,channel⟩
        have index' : getCustomDataPointByChannel (applyPush s (.valueChanged payload)) payload.deviceAddress payload.channel = some cdp := indexed
        refine ⟨cdp.summary.uniqueId,by simp [entityId,applyPush,applyValueChanged,held],?_⟩
        rw [← index cdp indexed]
        refine @ping_mem V _ .none _ ?_
        simp only [bridged,bridgeValue,index',Option.isSome_some,if_true]
        exact .tail _ (.head _)
      · left
        have fields : fieldValue (applyPush s (.valueChanged payload)) cdp.deviceAddress cdp.summary.channelNo =
            fieldValue s cdp.deviceAddress cdp.summary.channelNo := by
          funext parameter
          have other : (cdp.deviceAddress,cdp.summary.channelNo,parameter) ≠ (payload.deviceAddress,payload.channel,payload.parameter) := by
            intro same
            obtain ⟨address,rest⟩ := Prod.mk.inj same
            exact here (Prod.ext address (Prod.mk.inj rest).1)
          simp only [fieldValue,applyPush,applyValueChanged,Dict.get?_modify,other,if_false]
        simp only [rendering,applyPush,applyValueChanged,held,Option.map_some] at fields ⊢
        rw [fields]
        rfl
  | sysvar name => exact .inl rfl
  | program id => exact .inl rfl

theorem custom_repainted (payload : CustomDataPointStateChangedPayload V) (speaks : SpeaksOf r s (.customStateChanged payload)) :
    Repainted r s (.customStateChanged payload) := by
  intro e shown
  have frame := push_frame s (.customStateChanged payload)
  have points := unchanged frame LoomStore.dataPoints fun _ => rfl
  have devices := unchanged frame LoomStore.devices fun _ => rfl
  have suffix := unchanged frame LoomStore.serialSuffix fun _ => rfl
  have available : deviceAvailable (applyPush s (.customStateChanged payload)) = deviceAvailable s := by
    unfold deviceAvailable
    rw [devices]
  have fields := field_value_same points
  cases e with
  | dataPoint key => exact .inl (by simp only [rendering,points,available])
  | custom key =>
    have get := mutate_cdp_get s key (payload.deviceAddress,payload.name) (·.replaceState payload.state)
    by_cases here : key = (payload.deviceAddress,payload.name)
    · right
      have stands : s.cdps.get? (payload.deviceAddress,payload.name) = s.cdps.get? key := by rw [here]
      rw [if_pos here,stands] at get
      cases held : s.cdps.get? key with
      | none =>
        rw [held] at get
        exact absurd (by simp only [rendering,applyPush,applyCustomDataPointStateChanged,get]; rfl) shown
      | some cdp =>
        rw [held] at get
        refine ⟨cdp.summary.uniqueId,by simp only [entityId,applyPush,applyCustomDataPointStateChanged,get]; rfl,?_⟩
        have same := speaks cdp (here ▸ held)
        have key' : customKey r (applyPush s (.customStateChanged payload)) payload = customKey r s payload := by
          unfold customKey
          rw [suffix]
        rw [← same,← key']
        exact ping_mem (.head _)
    · rw [if_neg here] at get
      exact .inl (by simp only [rendering,applyPush,applyCustomDataPointStateChanged] at available fields ⊢; simp only [get,available,fields])
  | sysvar name => exact .inl (by simp only [rendering,unchanged frame LoomStore.sysvars fun _ => rfl])
  | program id => exact .inl (by simp only [rendering,unchanged frame LoomStore.programs fun _ => rfl])

-- The fan-out reaches every data point of the device whose channel is in the store.
theorem availability_reaches_point (numbered : ChannelsKeyed s) {key : DataPointKey}
    {dp : Model.DataPoint V} (held : s.dataPoints.get? key = some dp) (channel : channelOf key ∈ s.channels) :
    dp.summary.uniqueId ∈ (bridgeAvailability s key.1).filterMap HaEvent.pings := by
  obtain ⟨c,stored⟩ := Dict.mem_iff_get?.mp channel
  have number : c.number = key.2.1 := channel_numbered numbered stored
  refine @ping_mem V _ .none _ ?_
  refine List.mem_append_left _ (List.mem_flatMap.mpr ⟨c,?_,List.mem_map.mpr ⟨dp,?_,rfl⟩⟩)
  · refine (List.mem_insertionSort _).mpr (List.mem_map.mpr ⟨(channelOf key,c),List.mem_filter.mpr ⟨Dict.mem_entries.mpr stored,?_⟩,rfl⟩)
    exact decide_eq_true rfl
  · refine (List.mem_insertionSort _).mpr (List.mem_map.mpr ⟨(key,dp),List.mem_filter.mpr ⟨Dict.mem_entries.mpr held,?_⟩,rfl⟩)
    rw [number]
    exact decide_eq_true rfl

theorem availability_reaches_custom {key : CustomKey} {cdp : Model.CustomDataPoint V} (held : s.cdps.get? key = some cdp) :
    cdp.summary.uniqueId ∈ (bridgeAvailability s key.1).filterMap HaEvent.pings := by
  refine @ping_mem V _ .none _ (List.mem_append_right _ (List.mem_map.mpr ⟨cdp,?_,rfl⟩))
  refine (List.mem_insertionSort _).mpr (List.mem_map.mpr ⟨(key,cdp),List.mem_filter.mpr ⟨Dict.mem_entries.mpr held,?_⟩,rfl⟩)
  exact decide_eq_true rfl

theorem availability_repainted (sited : Sited s) (payload : DeviceAvailabilityChangedPayload) :
    Repainted r s (.availabilityChanged payload) := by
  intro e shown
  have other : ∀ address, address ≠ payload.deviceAddress →
      deviceAvailable (applyPush s (.availabilityChanged payload)) address = deviceAvailable s address := by
    intro address apart
    simp only [deviceAvailable,applyPush,applyDeviceAvailabilityChanged,Dict.get?_modify,apart,if_false]
  cases e with
  | dataPoint key =>
    cases held : s.dataPoints.get? key with
    | none => exact absurd (by simp [rendering,applyPush,applyDeviceAvailabilityChanged,held]) shown
    | some dp =>
      have place := (sited.placed.place key dp held).1
      by_cases here : dp.deviceAddress = payload.deviceAddress
      · right
        refine ⟨dp.summary.uniqueId,by simp [entityId,applyPush,applyDeviceAvailabilityChanged,held],?_⟩
        have channel := sited.intact.dataPoints key (Dict.mem_of_get? held)
        have reached := @availability_reaches_point V (applyPush s (.availabilityChanged payload)) sited.numbered key dp held channel
        rw [← place,here] at reached
        exact reached
      · left
        have same := other dp.deviceAddress here
        simp only [rendering,applyPush,applyDeviceAvailabilityChanged,held,Option.map_some] at same ⊢
        rw [same]
  | custom key =>
    cases held : s.cdps.get? key with
    | none => exact absurd (by simp [rendering,applyPush,applyDeviceAvailabilityChanged,held]) shown
    | some cdp =>
      have place := custom_place sited held
      by_cases here : cdp.deviceAddress = payload.deviceAddress
      · right
        refine ⟨cdp.summary.uniqueId,by simp [entityId,applyPush,applyDeviceAvailabilityChanged,held],?_⟩
        have reached := @availability_reaches_custom V (applyPush s (.availabilityChanged payload)) key cdp held
        rw [← place,here] at reached
        exact reached
      · left
        have same := other cdp.deviceAddress here
        simp only [rendering,applyPush,applyDeviceAvailabilityChanged,held,Option.map_some] at same ⊢
        rw [same]
        rfl
  | sysvar name => exact .inl rfl
  | program id => exact .inl rfl

theorem refreshed_available (refreshedAt : Instant) (d : Model.Device) : (refreshedAvailability refreshedAt d).available = d.available := by
  unfold refreshedAvailability
  repeat' split
  all_goals rfl

theorem refreshed_repainted (payload : DeviceRefreshedPayload) : Repainted r s (.deviceRefreshed payload) := by
  intro e _
  refine .inl (@rendering_same V s (applyPush s (.deviceRefreshed payload)) rfl rfl (fun address => ?_) rfl rfl e)
  simp only [deviceAvailable,applyPush,applyDeviceRefreshed,Dict.get?_modify]
  split
  · rw [Option.map_map]
    cases s.devices.get? address with
    | none => rfl
    | some d => exact congrArg (fun b => (some b).getD true) (refreshed_available _ d)
  · rfl

theorem created_repainted (payload : DeviceCreatedPayload) : Repainted r s (.deviceCreated payload) := by
  intro e _
  have frame := push_frame s (.deviceCreated payload)
  refine .inl (rendering_same (unchanged frame LoomStore.dataPoints fun _ => rfl) (unchanged frame LoomStore.cdps fun _ => rfl)
    (fun address => ?_) (unchanged frame LoomStore.sysvars fun _ => rfl) (unchanged frame LoomStore.programs fun _ => rfl) e)
  simp only [deviceAvailable,applyPush,applyDeviceCreated]
  split
  · rfl
  · rename_i fresh
    split
    · simp only [Dict.get?_set]
      split
      · rename_i here
        have unknown : s.devices.get? address = none := Dict.get?_eq_none.mpr (here ▸ fresh)
        rw [unknown]
        rfl
      · rfl
    · rfl

theorem removed_repainted (sited : Sited s) (payload : DevicePayload) : Repainted r s (.deviceRemoved payload) := by
  intro e shown
  have sweeps : applyPush s (.deviceRemoved payload) = swept s payload.deviceAddress := removed_sweeps sited.intact sited.inStep payload
  have other : ∀ address, address ≠ payload.deviceAddress → deviceAvailable (swept s payload.deviceAddress) address = deviceAvailable s address := by
    intro address apart
    simp only [deviceAvailable,swept,Dict.get?_erase,apart,if_false]
  left
  rw [sweeps] at shown ⊢
  cases e with
  | dataPoint key =>
    simp only [rendering,swept,customsSwept,channelsSwept,Dict.get?_eraseWhere] at shown ⊢
    split at shown
    · exact absurd rfl shown
    · rename_i apart
      rw [if_neg apart]
      cases held : s.dataPoints.get? key with
      | none => rfl
      | some dp =>
        have place := (sited.placed.place key dp held).1
        have same := other dp.deviceAddress (by simpa [place] using apart)
        simp only [swept,customsSwept,channelsSwept,Option.map_some] at same ⊢
        rw [same]
  | custom key =>
    simp only [rendering,swept,customsSwept,channelsSwept,Dict.get?_eraseWhere] at shown ⊢
    split at shown
    · exact absurd rfl shown
    · rename_i apart
      rw [if_neg apart]
      cases held : s.cdps.get? key with
      | none => rfl
      | some cdp =>
        have elsewhere : cdp.deviceAddress ≠ payload.deviceAddress := by simpa [custom_place sited held] using apart
        have same := other cdp.deviceAddress elsewhere
        have fields : fieldValue (swept s payload.deviceAddress) cdp.deviceAddress = fieldValue s cdp.deviceAddress := by
          funext channel parameter
          simp only [fieldValue,swept,customsSwept,channelsSwept,Dict.get?_eraseWhere]
          rw [if_neg (by simpa using elsewhere)]
        simp only [swept,customsSwept,channelsSwept,Option.map_some] at same fields ⊢
        rw [same,fields]
  | sysvar name => rfl
  | program id => rfl

theorem sysvar_repainted (payload : SysvarChangedPayload V) (speaks : SpeaksOf r s (.sysvarChanged payload)) :
    Repainted r s (.sysvarChanged payload) := by
  intro e shown
  cases e with
  | sysvar name =>
    by_cases here : name = payload.name
    · right
      cases held : s.sysvars.get? name with
      | none =>
        refine absurd ?_ shown
        simp only [rendering,applyPush,applySysvarChanged,Dict.get?_modify,here,if_true]
        rw [← here,held]
        rfl
      | some v =>
        have same := speaks v (here ▸ held)
        have stored : (applyPush s (.sysvarChanged payload)).sysvars.get? payload.name = some (v.replaceSummary (pushedSysvar payload v.summary)) := by
          simp only [applyPush,applySysvarChanged,Dict.get?_modify,if_true]
          rw [← here,held]
          rfl
        have key : sysvarEventKey r (applyPush s (.sysvarChanged payload)) payload.uniqueId payload.name =
            sysvarEventKey r s payload.uniqueId payload.name := by
          unfold sysvarEventKey
          rw [stored,← here,held]
          rfl
        refine ⟨v.summary.uniqueId,by simp only [entityId,here,stored]; rfl,?_⟩
        rw [← same,← key]
        exact ping_mem (.head _)
    · left
      simp only [rendering,applyPush,applySysvarChanged,Dict.get?_modify,here,if_false]
  | dataPoint key => exact .inl rfl
  | custom key => exact .inl rfl
  | program id => exact .inl rfl

theorem upsert_program_get (known : summary.id ∈ s.programs) (id : String) :
    (upsertProgram s summary).programs.get? id =
      if id = summary.id then (s.programs.get? id).map (·.replaceSummary summary) else s.programs.get? id := by
  unfold upsertProgram
  rw [if_pos known]
  exact Dict.get?_modify _ _ _ _

theorem program_written (keyed : ProgramsKeyed s) (held : s.programs.get? key = some p) (same : summary.id = p.summary.id)
    (e : Entity) (other : e ≠ .program key) : rendering (upsertProgram s summary) e = rendering s e := by
  have id : summary.id = key := same.trans (keyed key p held)
  have known : summary.id ∈ s.programs := id ▸ Dict.mem_of_get? held
  have frame := upsert_program_beside s summary
  cases e with
  | program name =>
    have apart : name ≠ summary.id := fun equal => other (by rw [equal,id])
    simp only [rendering,upsert_program_get known,apart,if_false]
  | dataPoint _ => simp only [rendering,deviceAvailable,unchanged frame LoomStore.dataPoints fun _ => rfl,unchanged frame LoomStore.devices fun _ => rfl]
  | custom _ =>
    simp only [rendering,deviceAvailable,field_value_same (unchanged frame LoomStore.dataPoints fun _ => rfl),
      unchanged frame LoomStore.cdps fun _ => rfl,unchanged frame LoomStore.devices fun _ => rfl]
  | sysvar _ => simp only [rendering,upsert_program_sysvars]

theorem program_executed_repainted (keyed : ProgramsKeyed s) (payload : ProgramExecutedPayload) :
    Repainted r s (.programExecuted payload) := by
  intro e _
  left
  simp only [applyPush,applyProgramExecuted]
  split
  · rename_i p channel held linked
    split
    · by_cases here : e = .program payload.programId
      · subst here
        have id := keyed payload.programId p held
        have known : ({p.summary with channel := some channel,deviceAddress := payload.deviceAddress} : ProgramSummary).id ∈ s.programs :=
          (show p.summary.id = payload.programId from id) ▸ Dict.mem_of_get? held
        have get := upsert_program_get known payload.programId
        rw [if_pos (show payload.programId = p.summary.id from id.symm),held] at get
        simp only [rendering,get,held]
        rfl
      · exact program_written keyed held (by rfl) e here
    · rfl
  · rfl

theorem flipped_id (payload : ProgramChangedPayload) (summary : ProgramSummary) : (flippedSummary payload summary).id = summary.id ∧
    (flippedSummary payload summary).uniqueId = summary.uniqueId := by
  simp only [flippedSummary]
  cases truthy payload.channel <;> exact ⟨rfl,rfl⟩

theorem program_changed_repainted (keyed : ProgramsKeyed s) (payload : ProgramChangedPayload)
    (speaks : SpeaksOf r s (.programChanged payload)) : Repainted r s (.programChanged payload) := by
  intro e _
  simp only [applyPush,applyProgramChanged]
  split
  · exact .inl rfl
  · rename_i p held
    obtain ⟨id,uniqueId⟩ := flipped_id payload p.summary
    by_cases here : e = .program payload.programId
    · subst here
      right
      have key := keyed payload.programId p held
      have known : (flippedSummary payload p.summary).id ∈ s.programs := (id.trans key) ▸ Dict.mem_of_get? held
      have get := upsert_program_get known payload.programId
      rw [if_pos (id.trans key).symm,held] at get
      refine ⟨p.summary.uniqueId,?_,?_⟩
      · simp only [entityId,get,Option.map_some]
        exact congrArg some uniqueId
      · have told := speaks p held
        simp only [bridged,bridgeProgram,told]
        exact ping_mem (.head _)
    · exact .inl (program_written keyed held id e here)

theorem panel_repainted (payload : AlarmPanelChangedPayload) : Repainted r s (.alarmPanelChanged payload) := by
  intro e _
  have frame := push_frame s (.alarmPanelChanged payload)
  have devices := unchanged frame LoomStore.devices fun _ => rfl
  refine .inl (rendering_same (unchanged frame LoomStore.dataPoints fun _ => rfl) (unchanged frame LoomStore.cdps fun _ => rfl)
    (fun address => ?_) (unchanged frame LoomStore.sysvars fun _ => rfl) (unchanged frame LoomStore.programs fun _ => rfl) e)
  unfold deviceAvailable
  rw [devices]

theorem push_repainted (sited : Sited s) (p : Push V) (speaks : SpeaksOf r s p) : Repainted r s p := by
  cases p with
  | valueChanged payload => exact value_repainted sited payload speaks
  | customStateChanged payload => exact custom_repainted payload speaks
  | deviceCreated payload => exact created_repainted payload
  | deviceRemoved payload => exact removed_repainted sited payload
  | availabilityChanged payload => exact availability_repainted sited payload
  | deviceRefreshed payload => exact refreshed_repainted payload
  | sysvarChanged payload => exact sysvar_repainted payload speaks
  | programExecuted payload => exact program_executed_repainted sited.keyed payload
  | programChanged payload => exact program_changed_repainted sited.keyed payload speaks
  | alarmPanelChanged payload => exact panel_repainted payload
  | deviceReleased payload => exact fun _ _ => .inl rfl
  | metadataChanged payload => exact fun _ _ => .inl rfl
  | centralStateChanged payload => exact fun _ _ => .inl rfl


theorem named_of_modify {a b : AlarmSection} (seated : Seated a) (sound : b.Sound) (panels : b.panels = a.panels)
    (objects : ∀ oid p, b.objects.get? oid = some p → ∃ old ∈ a.objects.get? oid, p.summary.uniqueId = old.summary.uniqueId) :
    Seated b := by
  refine ⟨sound,fun uid oid found p there => ?_⟩
  obtain ⟨old,held,same⟩ := objects oid p there
  exact same.trans (seated.named uid oid (panels ▸ found) old held)

theorem on_panel_seated {a : AlarmSection} (seated : Seated a) (oid : Model.Oid) {f : LivePanel → LivePanel}
    (kept : ∀ p ∈ a.objects.get? oid, (f p).summary.uniqueId = p.summary.uniqueId) : Seated (a.onPanel oid f) := by
  refine named_of_modify seated (AlarmSection.on_panel_sound seated.sound oid f) rfl fun other p there => ?_
  simp only [AlarmSection.onPanel,Dict.get?_modify] at there
  split at there
  · rename_i here
    obtain ⟨old,held,rfl⟩ := Option.map_eq_some_iff.mp there
    exact ⟨old,held,kept old (here ▸ held)⟩
  · exact ⟨p,there,rfl⟩

theorem on_zone_seated {a : AlarmSection} (seated : Seated a) (zoneId : String) (f : PanelDetail → PanelDetail) :
    Seated (a.onZone zoneId f) := by
  unfold AlarmSection.onZone
  split
  · exact seated
  · exact on_panel_seated seated _ fun _ _ => rfl

theorem register_seated {a : AlarmSection} (seated : Seated a) (summary : AlarmPanelEntity) : Seated (a.register summary) := by
  refine ⟨AlarmSection.register_sound seated.sound summary,fun uid oid found p there => ?_⟩
  simp only [AlarmSection.register,Dict.get?_set,Option.mem_def] at found there
  split at found
  · rename_i here
    cases found
    rw [if_pos rfl] at there
    cases there
    exact here.symm
  · have fresh : oid ≠ a.nextOid := Nat.ne_of_lt (seated.sound.below oid (seated.sound.known uid oid found))
    rw [if_neg fresh] at there
    exact seated.named uid oid found p there

theorem drop_seated {a : AlarmSection} (seated : Seated a) (uniqueId : String) : Seated (a.drop uniqueId) := by
  obtain ⟨objects,_,panels⟩ := AlarmSection.drop_parts a uniqueId
  refine ⟨AlarmSection.drop_sound seated.sound uniqueId,fun uid oid found p there => ?_⟩
  rw [panels] at found
  rw [objects] at there
  split at found
  · cases found
  · exact seated.named uid oid found p there

theorem attach_panel_seated {a : AlarmSection} (seated : Seated a) (entity : AlarmPanelEntity) : Seated (a.attachPanel entity) := by
  have sound := AlarmSection.attach_panel_sound seated.sound entity
  unfold AlarmSection.attachPanel at sound ⊢
  split
  · exact register_seated seated entity
  · rename_i oid found
    have replaced : Seated (a.onPanel oid (·.replaceSummary entity)) :=
      on_panel_seated seated oid fun p held => (seated.named entity.uniqueId oid found p held).symm
    rw [found] at sound
    exact ⟨sound,replaced.named⟩

theorem alarm_push_seated {a : AlarmSection} (seated : Seated a) (push : AlarmPush) : Seated (a.applyPush push) := by
  cases push with
  | panelChanged payload =>
    simp only [AlarmSection.applyPush,AlarmSection.applyPanelChanged]
    split
    · exact drop_seated seated _
    · split
      · exact register_seated seated _
      · exact on_panel_seated seated _ fun _ _ => rfl
  | stateChanged payload => exact on_zone_seated seated _ _
  | countdown payload => exact on_zone_seated seated _ _
  | readinessChanged payload => exact on_zone_seated seated _ _
  | triggered payload => exact on_zone_seated seated _ _
  | healthChanged payload => exact ⟨AlarmSection.push_sound seated.sound (.healthChanged payload),seated.named⟩

theorem update_seated {a : AlarmSection} (seated : Seated a) (update : AlarmUpdate) : Seated (a.applyUpdate update) := by
  cases update with
  | push push => exact alarm_push_seated seated push
  | panels panels =>
    have dropped : Seated ((a.stalePanels panels).foldl AlarmSection.drop a) :=
      List.foldlRecOn _ _ seated fun b held uid _ => drop_seated held uid
    exact List.foldlRecOn panels _ dropped fun b held entity _ => attach_panel_seated held entity
  | zoneStatuses statuses => exact List.foldlRecOn statuses _ seated fun b held status _ => on_zone_seated held status.id _
  | triggeredMotion sensors =>
    refine named_of_modify seated (AlarmSection.triggered_motion_sound seated.sound sensors) rfl fun oid p there => ?_
    simp only [AlarmSection.applyUpdate,AlarmSection.triggered_motion_object] at there
    obtain ⟨old,held,rfl⟩ := Option.map_eq_some_iff.mp there
    refine ⟨old,held,?_⟩
    split <;> rfl

-- A panel shows what it did, is gone, or is told.
def PanelsRepainted (a : AlarmSection) (push : AlarmPush) (events : List (HaEvent V)) : Prop :=
  ∀ uniqueId, (a.applyPush push).panelAt uniqueId ≠ none →
    (a.applyPush push).panelAt uniqueId = a.panelAt uniqueId ∨ uniqueId ∈ events.filterMap HaEvent.pings

theorem on_panel_at {a : AlarmSection} (sound : a.Sound) (found : a.panels.get? uid = some oid) (f : LivePanel → LivePanel)
    (other : uniqueId ≠ uid) : (a.onPanel oid f).panelAt uniqueId = a.panelAt uniqueId := by
  unfold AlarmSection.panelAt AlarmSection.onPanel
  cases held : a.panels.get? uniqueId with
  | none => rfl
  | some oid' =>
    have apart : oid' ≠ oid := fun same => other (sound.apart uniqueId uid oid (same ▸ held) found)
    simp only [Option.bind_some,Dict.get?_modify,if_neg apart]

theorem zone_repainted {a : AlarmSection} (seated : Seated a) (zoneId : String) (f : PanelDetail → PanelDetail) (uniqueId : String) :
    (a.onZone zoneId f).panelAt uniqueId = a.panelAt uniqueId ∨
      uniqueId ∈ (pingZone (V := V) (a.onZone zoneId f) zoneId).filterMap HaEvent.pings := by
  cases there : a.byZone.get? zoneId with
  | none =>
    left
    simp only [AlarmSection.onZone,there]
  | some oid =>
    have moved : a.onZone zoneId f = a.onPanel oid (.mapDetail f) := by simp only [AlarmSection.onZone,there]
    rw [moved]
    cases held : a.panels.get? uniqueId with
    | none =>
      left
      simp only [AlarmSection.panelAt,AlarmSection.onPanel,held,Option.bind_none]
    | some oid' =>
      by_cases same : oid' = oid
      · right
        subst same
        obtain ⟨p,stored⟩ := Dict.mem_iff_get?.mp (seated.sound.known uniqueId oid' held)
        have panel : (a.onPanel oid' (.mapDetail f)).panelByZone zoneId = some (p.mapDetail f) := by
          simp only [AlarmSection.panelByZone,AlarmSection.onPanel,there,Option.bind_some,Dict.get?_modify,if_true,stored,
            Option.map_some]
        have named : (p.mapDetail f).summary.uniqueId = uniqueId := seated.named uniqueId oid' held p stored
        simp only [pingZone,panel,named]
        exact @ping_mem V _ .none _ (.head _)
      · left
        simp only [AlarmSection.panelAt,AlarmSection.onPanel,held,Option.bind_some,Dict.get?_modify,if_neg same]

theorem panel_changed_repainted {a : AlarmSection} (seated : Seated a) (payload : AlarmPanelChangedPayload) :
    PanelsRepainted a (.panelChanged payload) (bridgePanel (V := V) payload) := by
  intro uniqueId shown
  simp only [AlarmSection.applyPush,AlarmSection.applyPanelChanged] at shown ⊢
  by_cases removed : payload.removed = true
  · obtain ⟨objects,_,panels⟩ := AlarmSection.drop_parts a payload.uniqueId
    rw [if_pos removed] at shown ⊢
    left
    simp only [AlarmSection.panelAt,objects,panels] at shown ⊢
    split at shown
    · exact absurd rfl shown
    · rename_i other
      rw [if_neg other]
  · rw [if_neg removed] at shown ⊢
    by_cases here : uniqueId = payload.uniqueId
    · right
      simp only [bridgePanel,if_neg removed]
      rw [here]
      exact ping_mem (.head _)
    · left
      split
      · simp only [AlarmSection.panelAt,AlarmSection.register,panelStub,Dict.get?_set,if_neg here]
        cases held : a.panels.get? uniqueId with
        | none => rfl
        | some oid =>
          have fresh : oid ≠ a.nextOid := Nat.ne_of_lt (seated.sound.below oid (seated.sound.known uniqueId oid held))
          simp only [Option.bind_some,if_neg fresh]
      · rename_i oid found
        exact on_panel_at seated.sound found _ here

theorem alarm_repainted {a : AlarmSection} (seated : Seated a) (push : AlarmPush) :
    PanelsRepainted a push (bridgedAlarm (V := V) (a.applyPush push) push) := by
  cases push with
  | panelChanged payload => exact panel_changed_repainted seated payload
  | stateChanged payload => exact fun uniqueId _ => zone_repainted seated payload.zoneId _ uniqueId
  | countdown payload => exact fun uniqueId _ => zone_repainted seated payload.zoneId _ uniqueId
  | readinessChanged payload => exact fun uniqueId _ => zone_repainted seated payload.zoneId _ uniqueId
  | triggered payload => exact fun uniqueId _ => zone_repainted seated payload.zoneId _ uniqueId
  | healthChanged payload => exact fun _ _ => .inl rfl

theorem entities_repainted {x : Screen V} (sited : Sited x.store) (p : StorePush V) (speaks : p.SpeaksOf r x.store) (e : Entity)
    (shown : rendering (x.applied p).store e ≠ none) :
    rendering (x.applied p).store e = rendering x.store e ∨
      Pinged (x.applied p).store ((x.applied p).events r p) e := by
  cases p with
  | wire push => exact push_repainted sited push (speaks push rfl) e shown
  | alarm push =>
    cases push with
    | panelChanged payload => exact push_repainted (r := r) sited (.alarmPanelChanged payload) trivial e shown
    | _ => exact .inl rfl

theorem panels_repainted {x : Screen V} (seated : Seated x.alarms) (p : StorePush V) (uniqueId : String)
    (shown : (x.applied p).alarms.panelAt uniqueId ≠ none) :
    (x.applied p).alarms.panelAt uniqueId = x.alarms.panelAt uniqueId ∨
      uniqueId ∈ ((x.applied p).events r p).filterMap HaEvent.pings := by
  cases p with
  | wire push =>
    cases push with
    | alarmPanelChanged payload => exact panel_changed_repainted seated payload uniqueId shown
    | _ => exact .inl rfl
  | alarm push => exact alarm_repainted seated push uniqueId shown

theorem applied_sited {x : Screen V} (sited : Sited x.store) (p : StorePush V) : Sited (x.applied p).store := by
  unfold Screen.applied
  cases p.asWire with
  | none => exact sited
  | some push => exact push_sited sited push

theorem applied_seated {x : Screen V} (seated : Seated x.alarms) (p : StorePush V) : Seated (x.applied p).alarms := by
  unfold Screen.applied
  cases p.asAlarm with
  | none => exact seated
  | some push => exact alarm_push_seated seated push

theorem screen_step {x : Screen V} (sited : Sited x.store) (seated : Seated x.alarms) (fresh : UpToDate x) (p : StorePush V)
    (speaks : p.SpeaksOf r x.store) : UpToDate (x.push r p) where
  painted := by
    intro e shown
    simp only [Screen.push] at shown ⊢
    split
    · rfl
    · rename_i untold
      rcases entities_repainted sited p speaks e shown with same | told
      · rw [same] at shown ⊢
        exact fresh.painted e shown
      · exact absurd told untold
  panels := by
    intro uniqueId shown
    simp only [Screen.push] at shown ⊢
    split
    · rfl
    · rename_i untold
      rcases panels_repainted (r := r) seated p uniqueId shown with same | told
      · rw [same] at shown ⊢
        exact fresh.panels uniqueId shown
      · exact absurd told untold

end Pushes

-- An answer lists a custom data point and a channel of it once, and leaves none of its channels to
-- nobody.
def Fills (s : LoomStore V) (op : Operation V) : Prop := DistinctAnswer op ∧ Parented s op ∧ LeavesNoChannel s op

instance (s : LoomStore V) (op : Operation V) : Decidable (Fills s op) := by
  unfold Fills
  infer_instance

theorem operation_sited {s : LoomStore V} (sited : Sited s) (op : Operation V) (fills : Fills s op) : Sited (apply s op) where
  intact := (operation_exact s op sited.intact).mpr fills.2.1
  placed := operation_placed op sited.placed
  customs := (operation_indexes s op fills.1 sited.customs).1
  inStep := ((operation_indexes s op fills.1 sited.customs).2 sited.inStep).mpr fills.2.2
  keyed := operation_keyed s op sited.keyed
  numbered := operation_keyed_channels sited.numbered op

theorem initial_sited (maxDevices : Nat) (centralName serialSuffix : String) :
    Sited (LoomStore.categorised maxDevices centralName serialSuffix : LoomStore V) where
  intact := initial_intact maxDevices centralName serialSuffix
  placed := constructed_placed maxDevices centralName serialSuffix true true
  customs := constructed_customs maxDevices centralName serialSuffix true true
  inStep := fun _ _ _ => ⟨fun found => (nomatch found),fun ⟨_,found,_⟩ => (nomatch found)⟩
  keyed := fun _ _ found => nomatch found
  numbered := fun _ _ found => nomatch found

theorem filled_sited (maxDevices : Nat) (centralName serialSuffix : String) (ops : List (Operation V))
    (fills : Every perform (fun s op _ => Fills s op) (.categorised maxDevices centralName serialSuffix) ops) :
    Always perform Sited (.categorised maxDevices centralName serialSuffix : LoomStore V) ops := by
  refine always_of_every (initial_sited maxDevices centralName serialSuffix) ?_ fills
  intro s op t sited moved fits
  cases moved
  exact operation_sited sited op fits

theorem empty_seated : Seated .empty := ⟨AlarmSection.empty_sound,fun _ _ found => nomatch found⟩

theorem updated_seated (updates : List AlarmUpdate) : Seated (updates.foldl AlarmSection.applyUpdate .empty) :=
  List.foldlRecOn updates _ empty_seated fun _ seated update _ => update_seated seated update

theorem screen_up_to_date (r : RoutingKeys) (x : Screen V) (sited : Sited x.store) (seated : Seated x.alarms) (fresh : UpToDate x)
    (pushes : List (StorePush V)) (met : Every (total (Screen.push r)) (fun y p _ => p.SpeaksOf r y.store) x pushes) :
    Always (total (Screen.push r)) UpToDate x pushes := by
  have all : Always (total (Screen.push r)) (fun y => Sited y.store ∧ Seated y.alarms ∧ UpToDate y) x pushes := by
    refine always_of_every ⟨sited,seated,fresh⟩ ?_ met
    intro y p z held stepped speaks
    obtain ⟨whole,placed,shows⟩ := held
    cases stepped
    exact ⟨applied_sited whole p,applied_seated placed p,screen_step whole placed shows p speaks⟩
  exact always_mono (fun _ held => held.2.2) all

def houseKeys : RoutingKeys := ⟨fun suffix address parameter => suffix ++ address ++ parameter.getD "",id⟩

def housePoint (parameter : String) : DataPointSummary Nat :=
  ⟨parameter,"7A:1" ++ parameter,some 0,none,true,none,none,none,none,none,none,none,⟨true,true,true⟩,none⟩

def houseFill : List (Operation Nat) :=
  [.attachDeviceDetail ⟨stubSummary ⟨"ccu","HmIP-RF","A","HmIP-BROLL",none⟩,[⟨"A:1",1,none,none,none⟩]⟩,
    .attachChannelDataPoints "A" 1 [housePoint "LEVEL",housePoint "RAINING"],
    .attachCustomDataPoints "A" [⟨"cover","cover",1,none,none,"7A:1",none⟩],
    .attachHubCatalogue [⟨none,"guests","NUMBER",some 2,true,none,none,none,none,none,"sv_guests"⟩]
      [⟨none,"12","night",some true,some true,none,none,none,"p_night"⟩]]

def houseAlarms : AlarmSection := [AlarmUpdate.panels [alarmZone "hall" false]].foldl AlarmSection.applyUpdate .empty

def houseStore : LoomStore Nat := houseFill.foldl apply (.categorised 10 "ccu" "7")

def houseScreen : Screen Nat := ⟨houseStore,houseAlarms,rendering houseStore,houseAlarms.panelAt⟩

def housePushes : List (StorePush Nat) :=
  [.wire (.valueChanged ⟨"A",1,"RAINING","",some 1,none,10⟩),
    .wire (.customStateChanged ⟨"A",1,"cover","",.ofList [("position",40)]⟩),
    .wire (.sysvarChanged ⟨"ccu","guests","",some 4,none,none⟩),
    .wire (.programChanged ⟨"ccu","12",false,true,some "p_night",none,none⟩),
    .wire (.availabilityChanged ⟨"ccu","A",false⟩),
    .wire (.alarmPanelChanged ⟨"alarm_hall","hall","Hall","arming",true,false,false,false⟩),
    .alarm (.countdown ⟨"hall","exit",30,60⟩),
    .alarm (.stateChanged ⟨"hall","armed_away",some "full"⟩),
    .alarm (.readinessChanged ⟨"hall",.ofList [("full",⟨false,some ["window"],none⟩)]⟩),
    .alarm (.triggered ⟨"hall",3,some "window","opened"⟩),
    .alarm (.healthChanged ⟨false⟩),
    .wire (.deviceRemoved ⟨"ccu","HmIP-RF","A"⟩)]

theorem house_filled : Every perform (fun s op _ => Fills s op) (.categorised 10 "ccu" "7") houseFill := by decide +kernel

theorem house_painted :
    let y := housePushes.foldl (Screen.push houseKeys) houseScreen
    Always (total (Screen.push houseKeys)) UpToDate houseScreen housePushes ∧
      (y.panels "alarm_hall").map (fun p => (p.summary.state,p.detail.mode,p.detail.lastIncident)) =
        some ("arming",some "full",some (3,"opened",some "window")) ∧
      (houseStore.dataPoints.size,y.store.dataPoints.size) = (2,0) := by
  have stored := run_always (filled_sited 10 "ccu" "7" houseFill house_filled) (run_total apply _ houseFill)
  have seated := updated_seated [AlarmUpdate.panels [alarmZone "hall" false]]
  have spoken : Every (total (Screen.push houseKeys)) (fun y p _ => p.SpeaksOf houseKeys y.store) houseScreen housePushes := by
    decide +kernel
  refine ⟨screen_up_to_date houseKeys houseScreen stored seated ⟨fun _ _ => rfl,fun _ _ => rfl⟩ housePushes spoken,?_⟩
  decide +kernel

end LoomClient.Compat
