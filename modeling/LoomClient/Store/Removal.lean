import LoomClient.Store.Graph

namespace LoomClient.Store
open Lib Wire
variable {V : Type}

-- Nothing of a device is left: neither the device nor what hangs off its address.
structure Absent (s : LoomStore V) (a : Address) : Prop where
  device : a ∉ s.devices
  channels : ∀ k ∈ s.channels, k.1 ≠ a
  dataPoints : ∀ k ∈ s.dataPoints, k.1 ≠ a
  cdps : ∀ k ∈ s.cdps, k.1 ≠ a

instance (s : LoomStore V) (a : Address) : Decidable (Absent s a) :=
  decidable_of_iff
    (a ∉ s.devices ∧ (∀ k ∈ s.channels.keys, k.1 ≠ a) ∧ (∀ k ∈ s.dataPoints.keys, k.1 ≠ a) ∧
      (∀ k ∈ s.cdps.keys, k.1 ≠ a))
    ⟨fun ⟨device,channels,dataPoints,cdps⟩ => ⟨device,channels,dataPoints,cdps⟩,
      fun ⟨device,channels,dataPoints,cdps⟩ => ⟨device,channels,dataPoints,cdps⟩⟩

def Admits (a : Address) : LoomStore V → List DeviceSummary → Prop
  | _,[] => False
  | s,d :: rest => (d.address = a ∧ canAdmitDevice s a = true) ∨ Admits a (admitDevice s d) rest

instance Admits.decidable (a : Address) : ∀ (s : LoomStore V) (devices : List DeviceSummary), Decidable (Admits a s devices)
  | _,[] => isFalse id
  | s,d :: rest =>
    have _ : Decidable (Admits a (admitDevice s d) rest) := Admits.decidable a _ rest
    inferInstanceAs (Decidable ((d.address = a ∧ canAdmitDevice s a = true) ∨ Admits a (admitDevice s d) rest))

-- Whether an operation writes an entry of a device that has none.
def Creates (s : LoomStore V) (a : Address) : Operation V → Prop
  | .loadSnapshot snapshot => Admits a (adoptCentralId s snapshot) snapshot.devices
  | .attachDeviceDetail detail => canAdmitDevice s detail.address = true ∧
      (a = detail.address ∨ ∃ c ∈ detail.channels, devicePart c.address = a)
  | .attachChannelDataPoints address _ dataPoints => a = address ∧ dataPoints.isEmpty = false
  | .attachChannelCalculatedDataPoints address _ calculated =>
      s.calculatedFactory = true ∧ a = address ∧ calculated.isEmpty = false
  | .attachCustomDataPoints address cdps => a = address ∧ cdps.isEmpty = false
  | .push (.deviceCreated payload) => a = payload.deviceAddress ∧ canAdmitDevice s a = true
  | _ => False

instance (s : LoomStore V) (a : Address) (op : Operation V) : Decidable (Creates s a op) := by
  induction op using Operation.casesOn with
  | push push => induction push using Push.casesOn <;> unfold Creates <;> infer_instance
  | _ => unfold Creates; infer_instance

theorem same_absent {s t : LoomStore V} (same : SameGraph s t) : Absent t a ↔ Absent s a := by
  have carry : ∀ {u v : LoomStore V}, SameGraph u v → Absent u a → Absent v a := by
    intro u v equal absent
    refine ⟨?_,?_,?_,?_⟩
    · exact fun known => absent.device ((equal.devices a).mp known)
    · exact fun k member => absent.channels k ((equal.channels k).mp member)
    · exact fun k member => absent.dataPoints k ((equal.dataPoints k).mp member)
    · exact fun k member => absent.cdps k ((equal.cdps k).mp member)
  have back : SameGraph t s := by
    refine ⟨?_,?_,?_,?_,?_,?_,?_,?_⟩
    · exact fun a => (same.devices a).symm
    · exact fun k => (same.channels k).symm
    · exact fun k => (same.dataPoints k).symm
    · exact same.calculated.symm
    · exact fun k => (same.cdps k).symm
    · exact fun a => (same.weekProfiles a).symm
    · exact same.size.symm
    · exact same.maxDevices.symm
  exact ⟨carry back,carry same⟩

theorem admit_all_devices (s : LoomStore V) (devices : List DeviceSummary) (a : Address) :
    a ∈ (devices.foldl admitDevice s).devices ↔ Admits a s devices ∨ a ∈ s.devices := by
  induction devices generalizing s with
  | nil => simp [Admits]
  | cons d rest ih =>
    rw [List.foldl_cons,ih,admit_devices,Admits]
    simp only [or_assoc,or_left_comm]

section Writes
variable {s : LoomStore V} {a : Address}

theorem snapshot_absent (snapshot : Snapshot V) (absent : Absent s a) :
    Absent (loadSnapshot s snapshot) a ↔ ¬ Creates s a (.loadSnapshot snapshot) := by
  have frame := snapshot_beside s snapshot
  have channels : (loadSnapshot s snapshot).channels = s.channels := (congrArg LoomStore.channels frame :)
  have dataPoints : (loadSnapshot s snapshot).dataPoints = s.dataPoints := (congrArg LoomStore.dataPoints frame :)
  have cdps : (loadSnapshot s snapshot).cdps = s.cdps := (congrArg LoomStore.cdps frame :)
  have before : (adoptCentralId s snapshot).devices = s.devices :=
    (congrArg LoomStore.devices (adopt_central_beside s snapshot) :)
  have devices : a ∈ (loadSnapshot s snapshot).devices ↔ Admits a (adoptCentralId s snapshot) snapshot.devices := by
    rw [snapshot_devices,admit_all_devices,before]
    exact ⟨fun known => known.resolve_right absent.device,Or.inl⟩
  constructor
  · exact fun after created => after.device (devices.mpr created)
  · intro refused
    refine ⟨fun known => refused (devices.mp known),?_,?_,?_⟩
    · rw [channels]
      exact absent.channels
    · rw [dataPoints]
      exact absent.dataPoints
    · rw [cdps]
      exact absent.cdps

theorem detail_absent (detail : DeviceDetail) (absent : Absent s a) :
    Absent (attachDeviceDetail s detail) a ↔ ¬ Creates s a (.attachDeviceDetail detail) := by
  unfold Creates
  cases allowed : canAdmitDevice s detail.address with
  | false => simp [detail_refused allowed,absent,allowed]
  | true =>
    have cdps : (attachDeviceDetail s detail).cdps = s.cdps := (congrArg LoomStore.cdps (detail_beside s detail) :)
    constructor
    · rintro after ⟨_,rfl | ⟨c,listed,rfl⟩⟩
      · exact after.device ((detail_devices allowed _).mpr (.inl rfl))
      · refine after.channels (channelKey c) ((detail_channels allowed _).mpr ⟨.inl ⟨c,listed,rfl⟩,?_⟩) rfl
        exact fun gone => gone.2 (List.mem_map_of_mem listed)
    · intro other
      refine ⟨?_,?_,?_,?_⟩
      · intro known
        rcases (detail_devices allowed a).mp known with equal | stored
        · exact other ⟨allowed,.inl equal⟩
        · exact absent.device stored
      · intro k member equal
        rcases ((detail_channels allowed k).mp member).1 with ⟨c,listed,rfl⟩ | stored
        · exact other ⟨allowed,.inr ⟨c,listed,equal⟩⟩
        · exact absent.channels k stored equal
      · exact fun k member => absent.dataPoints k ((detail_data_points allowed k).mp member).1
      · rw [cdps]
        exact absent.cdps

theorem attached_absent {t : LoomStore V} (frame : besideDataPoints t = besideDataPoints s) (absent : Absent s a) :
    Absent t a ↔ ∀ k ∈ t.dataPoints, k.1 ≠ a := by
  have devices : t.devices = s.devices := (congrArg LoomStore.devices frame :)
  have channels : t.channels = s.channels := (congrArg LoomStore.channels frame :)
  have cdps : t.cdps = s.cdps := (congrArg LoomStore.cdps frame :)
  constructor
  · exact fun after => after.dataPoints
  · exact fun other => ⟨devices ▸ absent.device,channels ▸ absent.channels,other,cdps ▸ absent.cdps⟩

theorem data_points_absent (address : Address) (channel : Int) (dataPoints : List (DataPointSummary V))
    (absent : Absent s a) :
    Absent (attachChannelDataPoints s address channel dataPoints) a ↔
      ¬ Creates s a (.attachChannelDataPoints address channel dataPoints) := by
  have keys := attach_data_points_mem s address channel dataPoints
  rw [attached_absent (attach_data_points_beside s address channel dataPoints) absent]
  unfold Creates
  constructor
  · rintro other ⟨rfl,filled⟩
    cases dataPoints with
    | nil => cases filled
    | cons dp rest => exact other (a,channel,dp.parameter) ((keys _).mpr (.inl ⟨dp,by simp,rfl⟩)) rfl
  · intro other k member equal
    rcases (keys k).mp member with ⟨dp,listed,rfl⟩ | ⟨stored,_⟩
    · cases dataPoints with
      | nil => cases listed
      | cons => exact other ⟨equal.symm,rfl⟩
    · exact absent.dataPoints k stored equal

theorem calculated_absent (address : Address) (channel : Int) (calculated : List (CalculatedDPSummary V))
    (absent : Absent s a) :
    Absent (attachChannelCalculatedDataPoints s address channel calculated) a ↔
      ¬ Creates s a (.attachChannelCalculatedDataPoints address channel calculated) := by
  have keys := attach_calculated_mem s address channel calculated
  rw [attached_absent (attach_calculated_beside s address channel calculated) absent]
  unfold Creates
  constructor
  · rintro other ⟨installed,rfl,filled⟩
    cases calculated with
    | nil => cases filled
    | cons c rest => exact other (a,channel,c.name) ((keys _).mpr (.inl ⟨installed,c,by simp,rfl⟩)) rfl
  · intro other k member equal
    rcases (keys k).mp member with ⟨installed,c,listed,rfl⟩ | stored
    · cases calculated with
      | nil => cases listed
      | cons => exact other ⟨installed,equal.symm,rfl⟩
    · exact absent.dataPoints k stored equal

theorem customs_absent (address : Address) (cdps : List (CustomDPSummary V)) (absent : Absent s a) :
    Absent (attachCustomDataPoints s address cdps) a ↔ ¬ Creates s a (.attachCustomDataPoints address cdps) := by
  have keys := attach_customs_mem s address cdps
  have frame := attach_customs_beside s address cdps
  have devices : (attachCustomDataPoints s address cdps).devices = s.devices := (congrArg LoomStore.devices frame :)
  have channels : (attachCustomDataPoints s address cdps).channels = s.channels := (congrArg LoomStore.channels frame :)
  have dataPoints : (attachCustomDataPoints s address cdps).dataPoints = s.dataPoints :=
    (congrArg LoomStore.dataPoints frame :)
  unfold Creates
  constructor
  · rintro after ⟨rfl,filled⟩
    cases cdps with
    | nil => cases filled
    | cons c rest => exact after.cdps (a,c.name) ((keys _).mpr (.inl ⟨c,by simp,rfl⟩)) rfl
  · intro other
    refine ⟨devices ▸ absent.device,channels ▸ absent.channels,dataPoints ▸ absent.dataPoints,?_⟩
    intro k member equal
    rcases (keys k).mp member with ⟨c,listed,rfl⟩ | ⟨stored,_⟩
    · cases cdps with
      | nil => cases listed
      | cons => exact other ⟨equal.symm,rfl⟩
    · exact absent.cdps k stored equal

theorem created_absent (payload : DeviceCreatedPayload) (absent : Absent s a) :
    Absent (applyDeviceCreated s payload) a ↔ ¬ Creates s a (.push (.deviceCreated payload)) := by
  unfold applyDeviceCreated Creates
  by_cases equal : a = payload.deviceAddress
  · subst equal
    rw [if_neg absent.device]
    cases allowed : canAdmitDevice s payload.deviceAddress with
    | false => simp [absent]
    | true =>
      simp only [if_true,true_and,not_true_eq_false,iff_false]
      exact fun after => after.device (Dict.mem_set.mpr (.inl rfl))
  · simp only [equal,false_and,not_false_eq_true,iff_true]
    split
    · exact absent
    · split
      · exact {absent with device := fun known => (Dict.mem_set.mp known).elim equal absent.device}
      · exact absent

-- A removal sweeps the address, less the data points whose channel is not in the index.
def Indexed (s : LoomStore V) (a : Address) : Prop := ∀ k ∈ s.dataPoints.keys, k.1 = a → channelOf k ∈ s.channels

instance (s : LoomStore V) (a : Address) : Decidable (Indexed s a) := by unfold Indexed; infer_instance

theorem removed_absent (payload : DevicePayload) :
    Absent (applyDeviceRemoved s payload) payload.deviceAddress ↔ Indexed s payload.deviceAddress := by
  constructor
  · intro after k member equal
    by_contra missing
    exact after.dataPoints k ((removed_data_points s payload k).mpr ⟨member,fun gone => missing gone.1⟩) equal
  · intro indexed
    refine ⟨?_,?_,?_,?_⟩
    · exact fun known => ((removed_devices s payload _).mp known).2 rfl
    · exact fun k member => ((removed_channels s payload k).mp member).2
    · intro k member equal
      obtain ⟨stored,kept⟩ := (removed_data_points s payload k).mp member
      exact kept ⟨indexed k stored equal,equal⟩
    · exact fun k member => ((removed_cdps s payload k).mp member).2

theorem removed_keeps_absent (payload : DevicePayload) (absent : Absent s a) : Absent (applyDeviceRemoved s payload) a := by
  refine ⟨?_,?_,?_,?_⟩
  · exact fun known => absent.device ((removed_devices s payload a).mp known).1
  · exact fun k member => absent.channels k ((removed_channels s payload k).mp member).1
  · exact fun k member => absent.dataPoints k ((removed_data_points s payload k).mp member).1
  · exact fun k member => absent.cdps k ((removed_cdps s payload k).mp member).1

theorem operation_absent (op : Operation V) (absent : Absent s a) : Absent (apply s op) a ↔ ¬ Creates s a op := by
  have plain : ∀ {t : LoomStore V}, SameGraph s t → (Absent t a ↔ ¬ False) :=
    fun same => ⟨fun _ => id,fun _ => (same_absent same).mpr absent⟩
  cases op with
  | setDaemonCentralCount => exact plain (same_graph rfl)
  | setCentralId => exact plain (same_graph rfl)
  | loadSnapshot snapshot => exact snapshot_absent snapshot absent
  | attachDeviceDetail detail => exact detail_absent detail absent
  | attachChannelDataPoints => exact data_points_absent _ _ _ absent
  | attachChannelCalculatedDataPoints => exact calculated_absent _ _ _ absent
  | attachCustomDataPoints => exact customs_absent _ _ absent
  | setWeekProfileDataPoint =>
    exact ⟨fun _ => id,fun _ => ⟨absent.device,absent.channels,absent.dataPoints,absent.cdps⟩⟩
  | attachHubCatalogue => exact plain (hub_same (hub_catalogue_beside _ _ _))
  | attachAlarmPanels => exact plain (alarm_same (attach_panels_beside _ _))
  | settleDataPoint => exact plain (settle_data_point_same _ _ _)
  | settleCalculatedDataPoint => exact plain (settle_calculated_same _ _ _)
  | settleCustomDataPoint => exact plain (settle_custom_same _ _ _ _)
  | upsertProgram => exact plain (hub_same (upsert_program_beside _ _))
  | upsertSysvar => exact plain (hub_same (upsert_sysvar_beside _ _))
  | push push =>
    cases push with
    | deviceCreated payload => exact created_absent payload absent
    | deviceRemoved payload => exact ⟨fun _ => id,fun _ => removed_keeps_absent payload absent⟩
    | valueChanged => exact plain (modify_data_points_same _ _ _)
    | customStateChanged => exact plain (mutate_cdp_same _ _ _)
    | deviceReleased => exact plain (.refl s)
    | metadataChanged => exact plain (.refl s)
    | availabilityChanged => exact plain (modify_devices_same _ _ _)
    | deviceRefreshed => exact plain (modify_devices_same _ _ _)
    | sysvarChanged => exact plain (same_graph rfl)
    | programExecuted => exact plain (hub_same (program_executed_beside _ _))
    | programChanged => exact plain (hub_same (program_changed_beside _ _))
    | alarmPanelChanged => exact plain (alarm_same (panel_changed_beside _ _))
    | centralStateChanged => exact plain (.refl s)

end Writes
end LoomClient.Store
