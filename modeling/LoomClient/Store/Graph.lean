import LoomClient.Store.Frame

namespace LoomClient.Store
open Lib Wire
variable {V : Type}

-- Every entry hangs off the entry above it, and the cap bounds the roots.
structure Intact (s : LoomStore V) : Prop where
  channels : ∀ k ∈ s.channels, k.1 ∈ s.devices
  cdps : ∀ k ∈ s.cdps, k.1 ∈ s.devices
  weekProfiles : ∀ a ∈ s.weekProfileDps, a ∈ s.devices
  dataPoints : ∀ k ∈ s.dataPoints, channelOf k ∈ s.channels
  calculated : ∀ k ∈ s.calculatedDpKeys, k ∈ s.dataPoints
  cap : s.devices.size ≤ s.maxDevices

instance (s : LoomStore V) : Decidable (Intact s) :=
  decidable_of_iff
    ((∀ k ∈ s.channels.keys, k.1 ∈ s.devices) ∧ (∀ k ∈ s.cdps.keys, k.1 ∈ s.devices) ∧
      (∀ a ∈ s.weekProfileDps.keys, a ∈ s.devices) ∧ (∀ k ∈ s.dataPoints.keys, channelOf k ∈ s.channels) ∧
      (∀ k ∈ s.calculatedDpKeys, k ∈ s.dataPoints) ∧ s.devices.size ≤ s.maxDevices)
    ⟨fun ⟨channels,cdps,weekProfiles,dataPoints,calculated,cap⟩ =>
        ⟨channels,cdps,weekProfiles,dataPoints,calculated,cap⟩,
      fun ⟨channels,cdps,weekProfiles,dataPoints,calculated,cap⟩ =>
        ⟨channels,cdps,weekProfiles,dataPoints,calculated,cap⟩⟩

theorem initial_intact (maxDevices : Nat) (centralName serialSuffix : String) :
    Intact (LoomStore.categorised maxDevices centralName serialSuffix : LoomStore V) := by
  refine ⟨?_,?_,?_,?_,?_,Nat.zero_le _⟩ <;> intro k member <;> simp [LoomStore.categorised,LoomStore.empty] at member

-- What an operation must find in the index for its entries to have a parent.
def Parented (s : LoomStore V) : Operation V → Prop
  | .attachDeviceDetail detail => canAdmitDevice s detail.address = true →
      ∀ c ∈ detail.channels, devicePart c.address = detail.address ∨ devicePart c.address ∈ s.devices
  | .attachChannelDataPoints address channel dataPoints => dataPoints = [] ∨ (address,channel) ∈ s.channels
  | .attachChannelCalculatedDataPoints address channel calculated =>
      s.calculatedFactory = false ∨ calculated = [] ∨ (address,channel) ∈ s.channels
  | .attachCustomDataPoints address cdps => cdps = [] ∨ address ∈ s.devices
  | .setWeekProfileDataPoint address _ _ => address ∈ s.devices
  | _ => True

instance (s : LoomStore V) (op : Operation V) : Decidable (Parented s op) := by
  induction op using Operation.casesOn <;> unfold Parented <;> infer_instance

structure SameGraph (s t : LoomStore V) : Prop where
  devices : ∀ a, a ∈ t.devices ↔ a ∈ s.devices
  channels : ∀ k, k ∈ t.channels ↔ k ∈ s.channels
  dataPoints : ∀ k, k ∈ t.dataPoints ↔ k ∈ s.dataPoints
  calculated : t.calculatedDpKeys = s.calculatedDpKeys
  cdps : ∀ k, k ∈ t.cdps ↔ k ∈ s.cdps
  weekProfiles : ∀ a, a ∈ t.weekProfileDps ↔ a ∈ s.weekProfileDps
  size : t.devices.size = s.devices.size
  maxDevices : t.maxDevices = s.maxDevices

theorem SameGraph.refl (s : LoomStore V) : SameGraph s s := by
  constructor <;> intros <;> rfl

theorem same_intact {s t : LoomStore V} (same : SameGraph s t) (valid : Intact s) : Intact t := by
  refine ⟨?_,?_,?_,?_,?_,?_⟩
  · intro k member
    exact (same.devices _).mpr (valid.channels k ((same.channels k).mp member))
  · intro k member
    exact (same.devices _).mpr (valid.cdps k ((same.cdps k).mp member))
  · intro a member
    exact (same.devices _).mpr (valid.weekProfiles a ((same.weekProfiles a).mp member))
  · intro k member
    exact (same.channels _).mpr (valid.dataPoints k ((same.dataPoints k).mp member))
  · intro k member
    exact (same.dataPoints k).mpr (valid.calculated k (same.calculated ▸ member))
  · rw [same.size,same.maxDevices]
    exact valid.cap

-- Blanking every field that is no part of the graph.
def graphOnly (s : LoomStore V) : LoomStore V :=
  {s with
    centralId := ""
    daemonCentralCount := 0
    programs := .empty
    programDps := .empty
    sysvars := .empty
    alarmPanels := .empty
    alarmPanelByZone := .empty
    nextOid := 0}

theorem same_graph {s t : LoomStore V} (frame : graphOnly t = graphOnly s) : SameGraph s t := by
  have devices : t.devices = s.devices := (congrArg LoomStore.devices frame :)
  have channels : t.channels = s.channels := (congrArg LoomStore.channels frame :)
  have dataPoints : t.dataPoints = s.dataPoints := (congrArg LoomStore.dataPoints frame :)
  have calculated : t.calculatedDpKeys = s.calculatedDpKeys := (congrArg LoomStore.calculatedDpKeys frame :)
  have cdps : t.cdps = s.cdps := (congrArg LoomStore.cdps frame :)
  have weekProfiles : t.weekProfileDps = s.weekProfileDps := (congrArg LoomStore.weekProfileDps frame :)
  have maxDevices : t.maxDevices = s.maxDevices := (congrArg LoomStore.maxDevices frame :)
  constructor <;> intros <;> simp only [devices,channels,dataPoints,calculated,cdps,weekProfiles,maxDevices]

theorem hub_same {s t : LoomStore V} (frame : besideHub t = besideHub s) : SameGraph s t :=
  same_graph (congrArg graphOnly frame :)

theorem alarm_same {s t : LoomStore V} (frame : besideAlarm t = besideAlarm s) : SameGraph s t :=
  same_graph (congrArg graphOnly frame :)

theorem modify_devices_same (s : LoomStore V) (a : Address) (f : Model.Device → Model.Device) :
    SameGraph s {s with devices := s.devices.modify a f} := by
  constructor <;> intros <;> simp

theorem modify_data_points_same (s : LoomStore V) (k : DataPointKey) (f : Model.DataPoint V → Model.DataPoint V) :
    SameGraph s {s with dataPoints := s.dataPoints.modify k f} := by
  constructor <;> intros <;> simp

theorem mutate_cdp_same (s : LoomStore V) (k : CustomKey)
    (f : Model.CustomDataPoint V → Model.CustomDataPoint V) : SameGraph s (mutateCdp s k f) := by
  unfold mutateCdp
  split
  · exact .refl s
  · constructor <;> intros <;> simp

theorem settle_data_point_same (s : LoomStore V) (k : DataPointKey) (summary : DataPointSummary V) :
    SameGraph s (settleDataPoint s k summary) := by
  unfold settleDataPoint
  split
  · exact .refl s
  · split
    · exact .refl s
    · exact modify_data_points_same _ _ _

theorem settle_calculated_same (s : LoomStore V) (k : DataPointKey) (calculated : CalculatedDPSummary V) :
    SameGraph s (settleCalculatedDataPoint s k calculated) := by
  unfold settleCalculatedDataPoint
  split
  · exact .refl s
  · split
    · exact .refl s
    · exact modify_data_points_same _ _ _

theorem settle_custom_same (s : LoomStore V) (k : CustomKey) (generation : Nat) (state : Option (Dict String V)) :
    SameGraph s (settleCustomDataPoint s k generation state) := by
  unfold settleCustomDataPoint
  split
  · split
    · exact mutate_cdp_same _ _ _
    · exact .refl s
  · exact .refl s

theorem fresh_device_intact {s : LoomStore V} (valid : Intact s) (fresh : a ∉ s.devices)
    (room : s.devices.size < s.maxDevices) (device : Model.Device) (oid : Nat) :
    Intact {s with devices := s.devices.set a device, nextOid := oid} where
  channels k member := Dict.mem_set.mpr (.inr (valid.channels k member))
  cdps k member := Dict.mem_set.mpr (.inr (valid.cdps k member))
  weekProfiles k member := Dict.mem_set.mpr (.inr (valid.weekProfiles k member))
  dataPoints := valid.dataPoints
  calculated := valid.calculated
  cap := by
    simp only [Dict.size_set,if_neg fresh]
    omega

theorem upsert_intact {s t : LoomStore V} (valid : Intact s) (admitted : upsertDeviceSummary s summary = some t) :
    Intact t := by
  rcases upsert_cases admitted with ⟨_,rfl⟩ | ⟨fresh,room,rfl⟩
  · exact same_intact (modify_devices_same _ _ _) valid
  · exact fresh_device_intact valid fresh room _ _

theorem admit_intact (s : LoomStore V) (summary : DeviceSummary) (valid : Intact s) : Intact (admitDevice s summary) := by
  unfold admitDevice
  cases admitted : upsertDeviceSummary s summary with
  | none => exact valid
  | some t => exact upsert_intact valid admitted

theorem snapshot_intact (s : LoomStore V) (snapshot : Snapshot V) (valid : Intact s) :
    Intact (loadSnapshot s snapshot) := by
  unfold loadSnapshot
  refine same_intact (hub_same (upsert_sysvars_beside _ _)) ?_
  refine same_intact (hub_same (upsert_programs_beside _ _)) ?_
  refine List.foldlRecOn _ admitDevice ?_ fun t held summary _ => admit_intact t summary held
  exact same_intact (s := s) (same_graph (congrArg graphOnly (adopt_central_beside s snapshot) :)) valid

theorem created_intact (s : LoomStore V) (payload : DeviceCreatedPayload) (valid : Intact s) :
    Intact (applyDeviceCreated s payload) := by
  unfold applyDeviceCreated
  split
  · exact valid
  · rename_i fresh
    split
    · rename_i room
      have below : s.devices.size < s.maxDevices := by simpa [canAdmitDevice,fresh] using room
      exact fresh_device_intact valid fresh below _ _
    · exact valid

-- Dropping leaves go before dropping what they hang off.
theorem drop_channel_calculated (s : LoomStore V) (key : ChannelKey)
    (stored : ∀ k ∈ s.calculatedDpKeys, k ∈ s.dataPoints) :
    ∀ k ∈ (dropChannel s key).calculatedDpKeys, k ∈ (dropChannel s key).dataPoints := by
  intro k member
  simp only [dropChannel,Finset.mem_filter,not_and] at member ⊢
  have present := stored k member.1
  simpa using And.intro present (member.2 present)

theorem drop_channel_intact (s : LoomStore V) (key : ChannelKey) (valid : Intact s) : Intact (dropChannel s key) where
  channels k member := valid.channels k (Dict.mem_erase.mp member).1
  cdps := valid.cdps
  weekProfiles := valid.weekProfiles
  dataPoints k member := by
    simp only [dropChannel,Dict.mem_eraseWhere,decide_eq_false_iff_not] at member
    exact Dict.mem_erase.mpr ⟨valid.dataPoints k member.1,member.2⟩
  calculated := drop_channel_calculated s key valid.calculated
  cap := valid.cap

theorem drop_channels_intact (s : LoomStore V) (keys : List ChannelKey) (valid : Intact s) :
    Intact (keys.foldl dropChannel s) :=
  List.foldlRecOn keys dropChannel valid fun t held k _ => drop_channel_intact t k held

theorem cdps_intact {s t : LoomStore V} (frame : besideCdps t = besideCdps s) (valid : Intact s) :
    Intact t ↔ ∀ k ∈ t.cdps, k.1 ∈ s.devices := by
  have devices : t.devices = s.devices := (congrArg LoomStore.devices frame :)
  have channels : t.channels = s.channels := (congrArg LoomStore.channels frame :)
  have dataPoints : t.dataPoints = s.dataPoints := (congrArg LoomStore.dataPoints frame :)
  have calculated : t.calculatedDpKeys = s.calculatedDpKeys := (congrArg LoomStore.calculatedDpKeys frame :)
  have weekProfiles : t.weekProfileDps = s.weekProfileDps := (congrArg LoomStore.weekProfileDps frame :)
  have maxDevices : t.maxDevices = s.maxDevices := (congrArg LoomStore.maxDevices frame :)
  constructor
  · intro after k member
    exact devices ▸ after.cdps k member
  · intro owned
    refine ⟨?_,?_,?_,?_,?_,?_⟩
    · rw [devices,channels]
      exact valid.channels
    · rw [devices]
      exact owned
    · rw [devices,weekProfiles]
      exact valid.weekProfiles
    · rw [channels,dataPoints]
      exact valid.dataPoints
    · rw [calculated,dataPoints]
      exact valid.calculated
    · rw [devices,maxDevices]
      exact valid.cap

theorem data_points_intact {s t : LoomStore V} (frame : besideDataPoints t = besideDataPoints s) (valid : Intact s)
    (calculated : ∀ k ∈ t.calculatedDpKeys, k ∈ t.dataPoints) :
    Intact t ↔ ∀ k ∈ t.dataPoints, channelOf k ∈ s.channels := by
  have devices : t.devices = s.devices := (congrArg LoomStore.devices frame :)
  have channels : t.channels = s.channels := (congrArg LoomStore.channels frame :)
  have cdps : t.cdps = s.cdps := (congrArg LoomStore.cdps frame :)
  have weekProfiles : t.weekProfileDps = s.weekProfileDps := (congrArg LoomStore.weekProfileDps frame :)
  have maxDevices : t.maxDevices = s.maxDevices := (congrArg LoomStore.maxDevices frame :)
  constructor
  · intro after k member
    exact channels ▸ after.dataPoints k member
  · intro owned
    refine ⟨?_,?_,?_,?_,calculated,?_⟩
    · rw [devices,channels]
      exact valid.channels
    · rw [devices,cdps]
      exact valid.cdps
    · rw [devices,weekProfiles]
      exact valid.weekProfiles
    · rw [channels]
      exact owned
    · rw [devices,maxDevices]
      exact valid.cap

theorem channels_intact {s t : LoomStore V} (frame : besideChannels t = besideChannels s) (valid : Intact s)
    (grown : ∀ k ∈ s.channels, k ∈ t.channels) : Intact t ↔ ∀ k ∈ t.channels, k.1 ∈ s.devices := by
  have devices : t.devices = s.devices := (congrArg LoomStore.devices frame :)
  have dataPoints : t.dataPoints = s.dataPoints := (congrArg LoomStore.dataPoints frame :)
  have calculated : t.calculatedDpKeys = s.calculatedDpKeys := (congrArg LoomStore.calculatedDpKeys frame :)
  have cdps : t.cdps = s.cdps := (congrArg LoomStore.cdps frame :)
  have weekProfiles : t.weekProfileDps = s.weekProfileDps := (congrArg LoomStore.weekProfileDps frame :)
  have maxDevices : t.maxDevices = s.maxDevices := (congrArg LoomStore.maxDevices frame :)
  constructor
  · intro after k member
    exact devices ▸ after.channels k member
  · intro owned
    refine ⟨?_,?_,?_,?_,?_,?_⟩
    · rw [devices]
      exact owned
    · rw [devices,cdps]
      exact valid.cdps
    · rw [devices,weekProfiles]
      exact valid.weekProfiles
    · rw [dataPoints]
      exact fun k member => grown _ (valid.dataPoints k member)
    · rw [calculated,dataPoints]
      exact valid.calculated
    · rw [devices,maxDevices]
      exact valid.cap

theorem removed_intact (s : LoomStore V) (payload : DevicePayload) (valid : Intact s) :
    Intact (applyDeviceRemoved s payload) := by
  refine ⟨?_,?_,?_,?_,?_,?_⟩
  · intro k member
    obtain ⟨stored,other⟩ := (removed_channels s payload k).mp member
    exact (removed_devices s payload _).mpr ⟨valid.channels k stored,other⟩
  · intro k member
    obtain ⟨stored,other⟩ := (removed_cdps s payload k).mp member
    exact (removed_devices s payload _).mpr ⟨valid.cdps k stored,other⟩
  · intro a member
    obtain ⟨stored,other⟩ := (removed_week_profiles s payload a).mp member
    exact (removed_devices s payload _).mpr ⟨valid.weekProfiles a stored,other⟩
  · intro k member
    obtain ⟨stored,kept⟩ := (removed_data_points s payload k).mp member
    have indexed := valid.dataPoints k stored
    exact (removed_channels s payload _).mpr ⟨indexed,fun equal => kept ⟨indexed,equal⟩⟩
  · let erased := {s with devices := s.devices.erase payload.deviceAddress}
    have dropped : ∀ k ∈ (dropDeviceChannels erased payload.deviceAddress).calculatedDpKeys,
        k ∈ (dropDeviceChannels erased payload.deviceAddress).dataPoints :=
      List.foldlRecOn _ dropChannel valid.calculated fun t held key _ => drop_channel_calculated t key held
    have frame := drop_device_cdps_beside (dropDeviceChannels erased payload.deviceAddress) payload.deviceAddress
    have calculated := (congrArg LoomStore.calculatedDpKeys frame :)
    have dataPoints := (congrArg LoomStore.dataPoints frame :)
    intro k member
    exact dataPoints ▸ dropped k (calculated ▸ member)
  · rw [removed_erases,removed_max]
    exact (Dict.size_erase_le _ _).trans valid.cap

theorem detail_exact (s : LoomStore V) (detail : DeviceDetail) (valid : Intact s) :
    Intact (attachDeviceDetail s detail) ↔ Parented s (.attachDeviceDetail detail) := by
  unfold attachDeviceDetail Parented
  cases admitted : upsertDeviceSummary s detail.toDeviceSummary with
  | none =>
    have refused : canAdmitDevice s detail.address = false := upsert_refused.mp admitted
    simp [valid,refused]
  | some t =>
    have allowed : canAdmitDevice s detail.address = true := by
      by_contra refused
      have none := upsert_refused.mpr (Bool.eq_false_iff.mpr refused)
      rw [admitted] at none
      cases none
    dsimp only
    let attached := {t with
      devices := t.devices.modify detail.address (·.attachDetail detail.firmware detail.availability)}
    have whole : Intact attached := same_intact (modify_devices_same _ _ _) (upsert_intact valid admitted)
    have known : ∀ a, a ∈ attached.devices ↔ a = detail.address ∨ a ∈ s.devices := by
      intro a
      simpa [attached] using upsert_devices admitted a
    let filled := detail.channels.foldl upsertChannel attached
    have frame : besideChannels filled = besideChannels attached := upsert_channels_beside attached detail.channels
    have keys := upsert_channels_mem attached detail.channels
    constructor
    · intro after _ c member
      by_cases own : devicePart c.address = detail.address
      · exact .inl own
      · have kept : channelKey c ∈ ((staleChannels filled detail).foldl dropChannel filled).channels := by
          refine (drop_channels_mem _ _ _).mpr ⟨(keys _).mpr (.inl ⟨c,member,rfl⟩),?_⟩
          simp [staleChannels,channelKey,own]
        have parent := after.channels _ kept
        have devices : ((staleChannels filled detail).foldl dropChannel filled).devices = attached.devices :=
          (congrArg LoomStore.devices (drop_channels_beside _ _) :).trans (congrArg LoomStore.devices frame :)
        rw [devices] at parent
        exact (known _).mp parent
    · intro parented
      refine drop_channels_intact _ _ ((channels_intact frame whole ?_).mpr ?_)
      · intro k member
        exact (keys k).mpr (.inr member)
      · intro k member
        rcases (keys k).mp member with ⟨c,listed,rfl⟩ | stored
        · exact (known _).mpr (parented allowed c listed)
        · exact whole.channels k stored

theorem data_points_exact (s : LoomStore V) (address : Address) (channel : Int)
    (dataPoints : List (DataPointSummary V)) (valid : Intact s) :
    Intact (attachChannelDataPoints s address channel dataPoints) ↔
      Parented s (.attachChannelDataPoints address channel dataPoints) := by
  have keys := attach_data_points_mem s address channel dataPoints
  rw [data_points_intact (attach_data_points_beside s address channel dataPoints) valid]
  · unfold Parented
    constructor
    · intro owned
      cases dataPoints with
      | nil => exact .inl rfl
      | cons dp rest => exact .inr (owned (address,channel,dp.parameter) ((keys _).mpr (.inl ⟨dp,by simp,rfl⟩)))
    · intro parented k member
      rcases (keys k).mp member with ⟨dp,listed,rfl⟩ | ⟨stored,_⟩
      · rcases parented with rfl | indexed
        · cases listed
        · exact indexed
      · exact valid.dataPoints k stored
  · -- The sweep spares calculated keys, so they stay stored.
    intro k member
    rw [attach_data_points_calculated] at member
    refine (keys k).mpr (.inr ⟨valid.calculated k member,?_⟩)
    simp [staleDataPoint,member]

theorem calculated_exact (s : LoomStore V) (address : Address) (channel : Int)
    (calculated : List (CalculatedDPSummary V)) (valid : Intact s) :
    Intact (attachChannelCalculatedDataPoints s address channel calculated) ↔
      Parented s (.attachChannelCalculatedDataPoints address channel calculated) := by
  have keys := attach_calculated_mem s address channel calculated
  rw [data_points_intact (attach_calculated_beside s address channel calculated) valid]
  · unfold Parented
    constructor
    · intro owned
      by_cases installed : s.calculatedFactory = true
      · refine .inr ?_
        cases calculated with
        | nil => exact .inl rfl
        | cons c rest => exact .inr (owned (address,channel,c.name) ((keys _).mpr (.inl ⟨installed,c,by simp,rfl⟩)))
      · exact .inl (Bool.eq_false_iff.mpr installed)
    · intro parented k member
      rcases (keys k).mp member with ⟨installed,c,listed,rfl⟩ | stored
      · rcases parented with missing | rfl | indexed
        · rw [missing] at installed
          cases installed
        · cases listed
        · exact indexed
      · exact valid.dataPoints k stored
  · intro k member
    rcases (attach_calculated_keys s address channel calculated k).mp member with added | stored
    · exact (keys k).mpr (.inl added)
    · exact (keys k).mpr (.inr (valid.calculated k stored))

theorem customs_exact (s : LoomStore V) (address : Address) (cdps : List (CustomDPSummary V)) (valid : Intact s) :
    Intact (attachCustomDataPoints s address cdps) ↔ Parented s (.attachCustomDataPoints address cdps) := by
  have keys := attach_customs_mem s address cdps
  rw [cdps_intact (attach_customs_beside s address cdps) valid]
  unfold Parented
  constructor
  · intro owned
    cases cdps with
    | nil => exact .inl rfl
    | cons c rest => exact .inr (owned (address,c.name) ((keys _).mpr (.inl ⟨c,by simp,rfl⟩)))
  · intro parented k member
    rcases (keys k).mp member with ⟨c,listed,rfl⟩ | ⟨stored,_⟩
    · rcases parented with rfl | known
      · cases listed
      · exact known
    · exact valid.cdps k stored

theorem week_profile_exact (s : LoomStore V) (address : Address) (dp : Model.WeekProfileDp) (climate : Bool)
    (valid : Intact s) :
    Intact (setWeekProfileDataPoint s address dp climate) ↔ Parented s (.setWeekProfileDataPoint address dp climate) := by
  unfold setWeekProfileDataPoint Parented
  constructor
  · intro after
    exact after.weekProfiles address (Dict.mem_set.mpr (.inl rfl))
  · intro known
    refine {valid with weekProfiles := ?_}
    intro a member
    rcases Dict.mem_set.mp member with rfl | stored
    · exact known
    · exact valid.weekProfiles a stored

theorem push_intact (s : LoomStore V) (push : Push V) (valid : Intact s) : Intact (applyPush s push) := by
  cases push with
  | valueChanged => exact same_intact (modify_data_points_same _ _ _) valid
  | customStateChanged => exact same_intact (mutate_cdp_same _ _ _) valid
  | deviceCreated => exact created_intact _ _ valid
  | deviceReleased => exact valid
  | deviceRemoved => exact removed_intact _ _ valid
  | metadataChanged => exact valid
  | availabilityChanged => exact same_intact (modify_devices_same _ _ _) valid
  | deviceRefreshed => exact same_intact (modify_devices_same _ _ _) valid
  | sysvarChanged => exact same_intact (s := s) (same_graph rfl) valid
  | programExecuted => exact same_intact (hub_same (program_executed_beside _ _)) valid
  | programChanged => exact same_intact (hub_same (program_changed_beside _ _)) valid
  | alarmPanelChanged => exact same_intact (alarm_same (panel_changed_beside _ _)) valid
  | centralStateChanged => exact valid

theorem operation_exact (s : LoomStore V) (op : Operation V) (valid : Intact s) :
    Intact (apply s op) ↔ Parented s op := by
  have kept : ∀ t : LoomStore V, Intact t → (Intact t ↔ True) := fun t held => ⟨fun _ => trivial,fun _ => held⟩
  cases op with
  | setDaemonCentralCount => exact kept _ (same_intact (s := s) (same_graph rfl) valid)
  | setCentralId => exact kept _ (same_intact (s := s) (same_graph rfl) valid)
  | loadSnapshot => exact kept _ (snapshot_intact _ _ valid)
  | attachDeviceDetail => exact detail_exact _ _ valid
  | attachChannelDataPoints => exact data_points_exact _ _ _ _ valid
  | attachChannelCalculatedDataPoints => exact calculated_exact _ _ _ _ valid
  | attachCustomDataPoints => exact customs_exact _ _ _ valid
  | setWeekProfileDataPoint => exact week_profile_exact _ _ _ _ valid
  | attachHubCatalogue => exact kept _ (same_intact (hub_same (hub_catalogue_beside _ _ _)) valid)
  | attachAlarmPanels => exact kept _ (same_intact (alarm_same (attach_panels_beside _ _)) valid)
  | push => exact kept _ (push_intact _ _ valid)
  | settleDataPoint => exact kept _ (same_intact (settle_data_point_same _ _ _) valid)
  | settleCalculatedDataPoint => exact kept _ (same_intact (settle_calculated_same _ _ _) valid)
  | settleCustomDataPoint => exact kept _ (same_intact (settle_custom_same _ _ _ _) valid)
  | upsertProgram => exact kept _ (same_intact (hub_same (upsert_program_beside _ _)) valid)
  | upsertSysvar => exact kept _ (same_intact (hub_same (upsert_sysvar_beside _ _)) valid)

end LoomClient.Store
