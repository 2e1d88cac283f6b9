import LoomClient.Store.Operation

namespace LoomClient.Store
open Lib Wire
variable {V : Type}

-- What a helper leaves alone, said by blanking what it may write.
def besideDevices (s : LoomStore V) : LoomStore V := {s with devices := .empty, nextOid := 0}
def besideChannels (s : LoomStore V) : LoomStore V := {s with channels := .empty, nextOid := 0}
def besideDataPoints (s : LoomStore V) : LoomStore V :=
  {s with dataPoints := .empty, calculatedDpKeys := ∅, nextOid := 0}
def besideChannelTree (s : LoomStore V) : LoomStore V :=
  {s with channels := .empty, dataPoints := .empty, calculatedDpKeys := ∅}
def besideCdps (s : LoomStore V) : LoomStore V := {s with cdps := .empty, cdpByChannel := .empty, nextOid := 0}
def besideHub (s : LoomStore V) : LoomStore V :=
  {s with programs := .empty, programDps := .empty, sysvars := .empty, nextOid := 0}
def besideAlarm (s : LoomStore V) : LoomStore V :=
  {s with alarmPanels := .empty, alarmPanelByZone := .empty, nextOid := 0}
def besideSnapshot (s : LoomStore V) : LoomStore V :=
  {s with centralId := "", devices := .empty, programs := .empty, programDps := .empty, sysvars := .empty, nextOid := 0}
def besideDeviceTree (s : LoomStore V) : LoomStore V :=
  {s with devices := .empty, channels := .empty, dataPoints := .empty, calculatedDpKeys := ∅, nextOid := 0}
def besideRemoved (s : LoomStore V) : LoomStore V :=
  {besideCdps s with
    devices := .empty
    channels := .empty
    dataPoints := .empty
    calculatedDpKeys := ∅
    weekProfileDps := .empty}

-- Reading a field off such an equation.
theorem unchanged {τ : Type} {beside : LoomStore V → LoomStore V} {s t : LoomStore V} (frame : beside t = beside s)
    (field : LoomStore V → τ) (blind : ∀ u, field (beside u) = field u) : field t = field s :=
  (blind t).symm.trans ((congrArg field frame).trans (blind s))

theorem upsert_program_beside (s : LoomStore V) (summary : ProgramSummary) :
    besideHub (upsertProgram s summary) = besideHub s := by
  unfold upsertProgram
  split
  · rfl
  · split <;> rfl

theorem upsert_sysvar_beside (s : LoomStore V) (summary : SysvarSummary V) :
    besideHub (upsertSysvar s summary) = besideHub s := by
  unfold upsertSysvar
  split <;> rfl

theorem upsert_programs_beside (s : LoomStore V) (programs : List ProgramSummary) :
    besideHub (programs.foldl upsertProgram s) = besideHub s :=
  foldl_frame upsertProgram besideHub upsert_program_beside s programs

theorem upsert_sysvars_beside (s : LoomStore V) (sysvars : List (SysvarSummary V)) :
    besideHub (sysvars.foldl upsertSysvar s) = besideHub s :=
  foldl_frame upsertSysvar besideHub upsert_sysvar_beside s sysvars

theorem hub_catalogue_beside (s : LoomStore V) (sysvars : List (SysvarSummary V)) (programs : List ProgramSummary) :
    besideHub (attachHubCatalogue s sysvars programs) = besideHub s :=
  (upsert_programs_beside _ programs).trans (upsert_sysvars_beside s sysvars)

theorem program_executed_beside (s : LoomStore V) (payload : ProgramExecutedPayload) :
    besideHub (applyProgramExecuted s payload) = besideHub s := by
  unfold applyProgramExecuted
  split
  · split
    · exact upsert_program_beside _ _
    · rfl
  · rfl

theorem program_changed_beside (s : LoomStore V) (payload : ProgramChangedPayload) :
    besideHub (applyProgramChanged s payload) = besideHub s := by
  unfold applyProgramChanged
  split
  · rfl
  · exact upsert_program_beside _ _

theorem mutate_panel_beside (s : LoomStore V) (uid : String) (f : Model.AlarmPanel → Model.AlarmPanel) :
    besideAlarm (mutateAlarmPanel s uid f) = besideAlarm s := by
  unfold mutateAlarmPanel
  split <;> rfl

theorem drop_panel_beside (s : LoomStore V) (uid : String) : besideAlarm (dropAlarmPanel s uid) = besideAlarm s := by
  unfold dropAlarmPanel
  split <;> rfl

theorem attach_panel_beside (s : LoomStore V) (entity : AlarmPanelEntity) :
    besideAlarm (attachAlarmPanel s entity) = besideAlarm s := by
  unfold attachAlarmPanel
  split
  · rfl
  · exact mutate_panel_beside s _ _

theorem attach_panels_beside (s : LoomStore V) (panels : List AlarmPanelEntity) :
    besideAlarm (attachAlarmPanels s panels) = besideAlarm s :=
  (foldl_frame attachAlarmPanel besideAlarm attach_panel_beside _ panels).trans
    (foldl_frame dropAlarmPanel besideAlarm drop_panel_beside s _)

theorem panel_changed_beside (s : LoomStore V) (payload : AlarmPanelChangedPayload) :
    besideAlarm (applyAlarmPanelChanged s payload) = besideAlarm s := by
  unfold applyAlarmPanelChanged
  split
  · exact drop_panel_beside _ _
  · split
    · exact mutate_panel_beside _ _ _
    · rfl

theorem upsert_cases {s t : LoomStore V} (admitted : upsertDeviceSummary s summary = some t) :
    (summary.address ∈ s.devices ∧
      t = {s with devices := s.devices.modify summary.address (·.updateSummary summary)}) ∨
    (summary.address ∉ s.devices ∧ s.devices.size < s.maxDevices ∧
      t = {s with
        devices := s.devices.set summary.address (.build s.nextOid summary)
        nextOid := s.nextOid + 1}) := by
  unfold upsertDeviceSummary at admitted
  split at admitted
  · rename_i known
    exact .inl ⟨known,(Option.some.inj admitted).symm⟩
  · rename_i fresh
    split at admitted
    · rename_i room
      have below : s.devices.size < s.maxDevices := by simpa [canAdmitDevice,fresh] using room
      exact .inr ⟨fresh,below,(Option.some.inj admitted).symm⟩
    · cases admitted

theorem upsert_refused {s : LoomStore V} :
    upsertDeviceSummary s summary = none ↔ canAdmitDevice s summary.address = false := by
  unfold upsertDeviceSummary canAdmitDevice
  by_cases known : summary.address ∈ s.devices <;> simp [known]

theorem upsert_beside {s t : LoomStore V} (admitted : upsertDeviceSummary s summary = some t) :
    besideDevices t = besideDevices s := by
  rcases upsert_cases admitted with ⟨_,rfl⟩ | ⟨_,_,rfl⟩ <;> rfl

theorem upsert_devices {s t : LoomStore V} (admitted : upsertDeviceSummary s summary = some t) (a : Address) :
    a ∈ t.devices ↔ a = summary.address ∨ a ∈ s.devices := by
  rcases upsert_cases admitted with ⟨known,rfl⟩ | ⟨_,_,rfl⟩
  · exact Dict.mem_modify_known known
  · simp

theorem admit_beside (s : LoomStore V) (summary : DeviceSummary) : besideDevices (admitDevice s summary) = besideDevices s := by
  unfold admitDevice
  cases admitted : upsertDeviceSummary s summary with
  | none => rfl
  | some t => exact upsert_beside admitted

theorem admit_devices (s : LoomStore V) (d : DeviceSummary) (a : Address) :
    a ∈ (admitDevice s d).devices ↔ (d.address = a ∧ canAdmitDevice s a = true) ∨ a ∈ s.devices := by
  unfold admitDevice
  cases admitted : upsertDeviceSummary s d with
  | none =>
    have refused := upsert_refused.mp admitted
    constructor
    · exact Or.inr
    · rintro (⟨rfl,allowed⟩ | known)
      · rw [refused] at allowed
        cases allowed
      · exact known
  | some t =>
    rw [Option.getD_some,upsert_devices admitted]
    have allowed : canAdmitDevice s d.address = true := by
      cases decided : canAdmitDevice s d.address with
      | true => rfl
      | false =>
        rw [upsert_refused.mpr decided] at admitted
        cases admitted
    constructor
    · rintro (rfl | known)
      · exact .inl ⟨rfl,allowed⟩
      · exact .inr known
    · rintro (⟨rfl,_⟩ | known)
      · exact .inl rfl
      · exact .inr known

theorem created_beside (s : LoomStore V) (payload : DeviceCreatedPayload) :
    besideDevices (applyDeviceCreated s payload) = besideDevices s := by
  unfold applyDeviceCreated
  split
  · rfl
  · split <;> rfl

def channelKey (summary : ChannelSummary) : ChannelKey := (devicePart summary.address,summary.number)

theorem upsert_channel_beside (s : LoomStore V) (summary : ChannelSummary) :
    besideChannels (upsertChannel s summary) = besideChannels s := by
  unfold upsertChannel
  dsimp only
  split <;> rfl

theorem upsert_channel_mem (s : LoomStore V) (summary : ChannelSummary) (k : ChannelKey) :
    k ∈ (upsertChannel s summary).channels ↔ k = channelKey summary ∨ k ∈ s.channels := by
  unfold upsertChannel
  dsimp only
  split
  · rename_i known
    dsimp only
    exact Dict.mem_modify_known known
  · simp [channelKey]

theorem upsert_channels_beside (s : LoomStore V) (channels : List ChannelSummary) :
    besideChannels (channels.foldl upsertChannel s) = besideChannels s :=
  foldl_frame upsertChannel besideChannels upsert_channel_beside s channels

theorem upsert_channels_mem (s : LoomStore V) (channels : List ChannelSummary) (k : ChannelKey) :
    k ∈ (channels.foldl upsertChannel s).channels ↔ (∃ c ∈ channels, k = channelKey c) ∨ k ∈ s.channels :=
  foldl_grows upsertChannel (fun t => k ∈ t.channels) (fun c => k = channelKey c)
    (fun t c => upsert_channel_mem t c k) s channels

theorem drop_channels_beside (s : LoomStore V) (keys : List ChannelKey) :
    besideChannelTree (keys.foldl dropChannel s) = besideChannelTree s :=
  foldl_frame dropChannel besideChannelTree (fun _ _ => rfl) s keys

theorem drop_channels_mem (s : LoomStore V) (keys : List ChannelKey) (k : ChannelKey) :
    k ∈ (keys.foldl dropChannel s).channels ↔ k ∈ s.channels ∧ k ∉ keys :=
  foldl_removes dropChannel (fun t => k ∈ t.channels) k (fun t key => by simp [dropChannel]) s keys

theorem drop_channels_data_points (s : LoomStore V) (keys : List ChannelKey) (k : DataPointKey) :
    k ∈ (keys.foldl dropChannel s).dataPoints ↔ k ∈ s.dataPoints ∧ channelOf k ∉ keys :=
  foldl_removes dropChannel (fun t => k ∈ t.dataPoints) (channelOf k)
    (fun t key => by simp [dropChannel]) s keys

theorem attach_data_point_beside (address : Address) (channel : Int) (s : LoomStore V)
    (summary : DataPointSummary V) :
    besideDataPoints (attachDataPoint address channel s summary) = besideDataPoints s := by
  unfold attachDataPoint
  dsimp only
  split <;> rfl

theorem attach_data_point_calculated (address : Address) (channel : Int) (s : LoomStore V)
    (summary : DataPointSummary V) :
    (attachDataPoint address channel s summary).calculatedDpKeys = s.calculatedDpKeys := by
  unfold attachDataPoint
  dsimp only
  split <;> rfl

theorem attach_data_point_mem (address : Address) (channel : Int) (s : LoomStore V)
    (summary : DataPointSummary V) (k : DataPointKey) :
    k ∈ (attachDataPoint address channel s summary).dataPoints ↔
      k = (address,channel,summary.parameter) ∨ k ∈ s.dataPoints := by
  unfold attachDataPoint
  dsimp only
  split
  · rename_i known
    exact Dict.mem_modify_known known
  · simp

theorem attach_data_points_beside (s : LoomStore V) (address : Address) (channel : Int)
    (dataPoints : List (DataPointSummary V)) :
    besideDataPoints (attachChannelDataPoints s address channel dataPoints) = besideDataPoints s :=
  foldl_frame (attachDataPoint address channel) besideDataPoints (attach_data_point_beside address channel) _ dataPoints

theorem attach_data_points_calculated (s : LoomStore V) (address : Address) (channel : Int)
    (dataPoints : List (DataPointSummary V)) :
    (attachChannelDataPoints s address channel dataPoints).calculatedDpKeys = s.calculatedDpKeys :=
  foldl_frame (attachDataPoint address channel) (·.calculatedDpKeys) (attach_data_point_calculated address channel)
    _ dataPoints

theorem attach_data_points_mem (s : LoomStore V) (address : Address) (channel : Int)
    (dataPoints : List (DataPointSummary V)) (k : DataPointKey) :
    k ∈ (attachChannelDataPoints s address channel dataPoints).dataPoints ↔
      (∃ dp ∈ dataPoints, k = (address,channel,dp.parameter)) ∨
        k ∈ s.dataPoints ∧ staleDataPoint s address channel dataPoints k = false := by
  unfold attachChannelDataPoints
  rw [foldl_grows (attachDataPoint address channel) (fun t => k ∈ t.dataPoints)
    (fun dp => k = (address,channel,dp.parameter)) (fun t dp => attach_data_point_mem address channel t dp k)]
  simp only [Dict.mem_eraseWhere]

theorem attach_calculated_beside (s : LoomStore V) (address : Address) (channel : Int)
    (calculated : List (CalculatedDPSummary V)) :
    besideDataPoints (attachChannelCalculatedDataPoints s address channel calculated) = besideDataPoints s := by
  unfold attachChannelCalculatedDataPoints
  split
  · exact foldl_frame (attachCalculatedDataPoint address channel) besideDataPoints (fun _ _ => rfl) s calculated
  · rfl

theorem attach_calculated_mem (s : LoomStore V) (address : Address) (channel : Int)
    (calculated : List (CalculatedDPSummary V)) (k : DataPointKey) :
    k ∈ (attachChannelCalculatedDataPoints s address channel calculated).dataPoints ↔
      (s.calculatedFactory = true ∧ ∃ c ∈ calculated, k = (address,channel,c.name)) ∨ k ∈ s.dataPoints := by
  unfold attachChannelCalculatedDataPoints
  split
  · rename_i installed
    rw [foldl_grows (attachCalculatedDataPoint address channel) (fun t => k ∈ t.dataPoints)
      (fun c => k = (address,channel,c.name)) (fun t c => by simp [attachCalculatedDataPoint])]
    simp [installed]
  · rename_i missing
    simp [missing]

theorem attach_calculated_keys (s : LoomStore V) (address : Address) (channel : Int)
    (calculated : List (CalculatedDPSummary V)) (k : DataPointKey) :
    k ∈ (attachChannelCalculatedDataPoints s address channel calculated).calculatedDpKeys ↔
      (s.calculatedFactory = true ∧ ∃ c ∈ calculated, k = (address,channel,c.name)) ∨ k ∈ s.calculatedDpKeys := by
  unfold attachChannelCalculatedDataPoints
  split
  · rename_i installed
    rw [foldl_grows (attachCalculatedDataPoint address channel) (fun t => k ∈ t.calculatedDpKeys)
      (fun c => k = (address,channel,c.name)) (fun t c => by simp [attachCalculatedDataPoint])]
    simp [installed]
  · rename_i missing
    simp [missing]

theorem mutate_cdp_beside (s : LoomStore V) (key : CustomKey)
    (f : Model.CustomDataPoint V → Model.CustomDataPoint V) : besideCdps (mutateCdp s key f) = besideCdps s := by
  unfold mutateCdp
  split <;> rfl

theorem mutate_cdp_mem (s : LoomStore V) (key : CustomKey)
    (f : Model.CustomDataPoint V → Model.CustomDataPoint V) (k : CustomKey) :
    k ∈ (mutateCdp s key f).cdps ↔ k ∈ s.cdps := by
  unfold mutateCdp
  split
  · rfl
  · simp

theorem drop_cdp_beside (s : LoomStore V) (key : CustomKey) : besideCdps (dropCdp s key) = besideCdps s := by
  unfold dropCdp
  split <;> rfl

theorem drop_cdp_mem (s : LoomStore V) (key k : CustomKey) : k ∈ (dropCdp s key).cdps ↔ k ∈ s.cdps ∧ k ≠ key := by
  unfold dropCdp
  split
  · rename_i missing
    have absent := Dict.get?_eq_none.mp missing
    constructor
    · intro member
      exact ⟨member,fun equal => absent (equal ▸ member)⟩
    · exact And.left
  · simp

theorem drop_cdps_beside (s : LoomStore V) (keys : List CustomKey) :
    besideCdps (keys.foldl dropCdp s) = besideCdps s :=
  foldl_frame dropCdp besideCdps drop_cdp_beside s keys

theorem drop_cdps_mem (s : LoomStore V) (keys : List CustomKey) (k : CustomKey) :
    k ∈ (keys.foldl dropCdp s).cdps ↔ k ∈ s.cdps ∧ k ∉ keys :=
  foldl_removes dropCdp (fun t => k ∈ t.cdps) k (fun t key => drop_cdp_mem t key k) s keys

theorem attach_custom_beside (address : Address) (s : LoomStore V) (summary : CustomDPSummary V) :
    besideCdps (attachCustomDataPoint address s summary) = besideCdps s := by
  unfold attachCustomDataPoint
  dsimp only
  split
  · exact mutate_cdp_beside s _ _
  · rfl

theorem attach_custom_mem (address : Address) (s : LoomStore V) (summary : CustomDPSummary V) (k : CustomKey) :
    k ∈ (attachCustomDataPoint address s summary).cdps ↔ k = (address,summary.name) ∨ k ∈ s.cdps := by
  unfold attachCustomDataPoint
  dsimp only
  split
  · rename_i existing found
    rw [mutate_cdp_mem]
    constructor
    · exact Or.inr
    · rintro (rfl | member)
      · exact Dict.mem_of_get? found
      · exact member
  · simp [registerCdp]

theorem attach_customs_beside (s : LoomStore V) (address : Address) (cdps : List (CustomDPSummary V)) :
    besideCdps (attachCustomDataPoints s address cdps) = besideCdps s :=
  (foldl_frame (attachCustomDataPoint address) besideCdps (attach_custom_beside address) _ cdps).trans
    (drop_cdps_beside s _)

theorem attach_customs_mem (s : LoomStore V) (address : Address) (cdps : List (CustomDPSummary V)) (k : CustomKey) :
    k ∈ (attachCustomDataPoints s address cdps).cdps ↔
      (∃ c ∈ cdps, k = (address,c.name)) ∨ k ∈ s.cdps ∧ k ∉ staleCdps s address cdps := by
  unfold attachCustomDataPoints
  rw [foldl_grows (attachCustomDataPoint address) (fun t => k ∈ t.cdps) (fun c => k = (address,c.name))
    (fun t c => attach_custom_mem address t c k),drop_cdps_mem]

theorem adopt_central_beside (s : LoomStore V) (snapshot : Snapshot V) :
    {adoptCentralId s snapshot with centralId := ""} = {s with centralId := ""} := by
  unfold adoptCentralId
  split <;> rfl

theorem snapshot_devices (s : LoomStore V) (snapshot : Snapshot V) :
    (loadSnapshot s snapshot).devices = (snapshot.devices.foldl admitDevice (adoptCentralId s snapshot)).devices :=
  (congrArg LoomStore.devices (upsert_sysvars_beside _ _) :).trans
    (congrArg LoomStore.devices (upsert_programs_beside _ _) :)

theorem snapshot_beside (s : LoomStore V) (snapshot : Snapshot V) :
    besideSnapshot (loadSnapshot s snapshot) = besideSnapshot s := by
  unfold loadSnapshot
  refine (congrArg besideSnapshot (upsert_sysvars_beside _ _) :).trans ?_
  refine (congrArg besideSnapshot (upsert_programs_beside _ _) :).trans ?_
  refine (congrArg besideSnapshot (foldl_frame admitDevice besideDevices admit_beside _ _) :).trans ?_
  exact (congrArg besideSnapshot (adopt_central_beside s snapshot) :)

section Detail
variable {s : LoomStore V} {detail : DeviceDetail}

theorem detail_refused (refused : canAdmitDevice s detail.address = false) : attachDeviceDetail s detail = s := by
  unfold attachDeviceDetail
  rw [upsert_refused.mpr refused]

def unlisted (detail : DeviceDetail) (k : ChannelKey) : Prop :=
  k.1 = detail.address ∧ ¬ k.2 ∈ detail.channels.map (·.number)

theorem stale_channels_mem {k : ChannelKey} : k ∈ staleChannels s detail ↔ k ∈ s.channels ∧ unlisted detail k := by
  simp [staleChannels,unlisted,Dict.mem_keys]

theorem detail_parts (allowed : canAdmitDevice s detail.address = true) :
    ∃ t, besideDevices t = besideDevices s ∧ (∀ a, a ∈ t.devices ↔ a = detail.address ∨ a ∈ s.devices) ∧
      attachDeviceDetail s detail = (staleChannels (detail.channels.foldl upsertChannel t) detail).foldl dropChannel
        (detail.channels.foldl upsertChannel t) := by
  unfold attachDeviceDetail
  cases admitted : upsertDeviceSummary s detail.toDeviceSummary with
  | none =>
    have refused := upsert_refused.mp admitted
    rw [allowed] at refused
    cases refused
  | some t =>
    refine ⟨{t with devices := t.devices.modify detail.address (·.attachDetail detail.firmware detail.availability)},
      (upsert_beside admitted :),?_,rfl⟩
    intro a
    simpa using upsert_devices admitted a

theorem detail_devices (allowed : canAdmitDevice s detail.address = true) (a : Address) :
    a ∈ (attachDeviceDetail s detail).devices ↔ a = detail.address ∨ a ∈ s.devices := by
  obtain ⟨t,_,devices,same⟩ := detail_parts allowed
  rw [same]
  have kept : ∀ u : LoomStore V, ((staleChannels u detail).foldl dropChannel u).devices = u.devices :=
    fun u => (congrArg LoomStore.devices (drop_channels_beside u _) :)
  have filled : (detail.channels.foldl upsertChannel t).devices = t.devices :=
    (congrArg LoomStore.devices (upsert_channels_beside t detail.channels) :)
  rw [kept,filled]
  exact devices a

theorem detail_channels (allowed : canAdmitDevice s detail.address = true) (k : ChannelKey) :
    k ∈ (attachDeviceDetail s detail).channels ↔
      ((∃ c ∈ detail.channels, k = channelKey c) ∨ k ∈ s.channels) ∧ ¬ unlisted detail k := by
  obtain ⟨t,frame,_,same⟩ := detail_parts allowed
  have before : t.channels = s.channels := (congrArg LoomStore.channels frame :)
  rw [same,drop_channels_mem,stale_channels_mem,upsert_channels_mem,before]
  constructor
  · rintro ⟨known,kept⟩
    exact ⟨known,fun gone => kept ⟨known,gone⟩⟩
  · rintro ⟨known,kept⟩
    exact ⟨known,fun gone => kept gone.2⟩

theorem detail_data_points (allowed : canAdmitDevice s detail.address = true) (k : DataPointKey) :
    k ∈ (attachDeviceDetail s detail).dataPoints ↔ k ∈ s.dataPoints ∧
      ¬ (((∃ c ∈ detail.channels, channelOf k = channelKey c) ∨ channelOf k ∈ s.channels) ∧
        unlisted detail (channelOf k)) := by
  obtain ⟨t,frame,_,same⟩ := detail_parts allowed
  have before : t.channels = s.channels := (congrArg LoomStore.channels frame :)
  have stored : (detail.channels.foldl upsertChannel t).dataPoints = s.dataPoints :=
    (congrArg LoomStore.dataPoints (upsert_channels_beside t detail.channels) :).trans
      (congrArg LoomStore.dataPoints frame :)
  rw [same,drop_channels_data_points,stale_channels_mem,upsert_channels_mem,before,stored]

theorem detail_beside (s : LoomStore V) (detail : DeviceDetail) :
    besideDeviceTree (attachDeviceDetail s detail) = besideDeviceTree s := by
  cases allowed : canAdmitDevice s detail.address with
  | false => rw [detail_refused allowed]
  | true =>
    obtain ⟨t,frame,_,same⟩ := detail_parts allowed
    rw [same]
    refine (congrArg besideDeviceTree (drop_channels_beside _ _) :).trans ?_
    refine (congrArg besideDeviceTree (upsert_channels_beside t detail.channels) :).trans ?_
    exact (congrArg besideDeviceTree frame :)

end Detail

-- Data points go by way of the channel index: one whose channel is not in the index stays.
section Removal
variable (s : LoomStore V) (address : Address) (payload : DevicePayload)

theorem drop_device_channels_beside : besideChannelTree (dropDeviceChannels s address) = besideChannelTree s :=
  drop_channels_beside s _

theorem drop_device_channels_mem (k : ChannelKey) :
    k ∈ (dropDeviceChannels s address).channels ↔ k ∈ s.channels ∧ k.1 ≠ address := by
  unfold dropDeviceChannels
  rw [drop_channels_mem]
  simp only [List.mem_filter,Dict.mem_keys,decide_eq_true_eq,not_and,ne_eq]
  exact and_congr_right fun stored => ⟨fun kept => kept stored,fun kept _ => kept⟩

theorem drop_device_channels_data_points (k : DataPointKey) :
    k ∈ (dropDeviceChannels s address).dataPoints ↔ k ∈ s.dataPoints ∧ ¬ (channelOf k ∈ s.channels ∧ k.1 = address) := by
  unfold dropDeviceChannels
  rw [drop_channels_data_points]
  simp [Dict.mem_keys,channelOf]

theorem drop_device_cdps_beside : besideCdps (dropDeviceCdps s address) = besideCdps s := drop_cdps_beside s _

theorem drop_device_cdps_mem (k : CustomKey) :
    k ∈ (dropDeviceCdps s address).cdps ↔ k ∈ s.cdps ∧ k.1 ≠ address := by
  unfold dropDeviceCdps
  rw [drop_cdps_mem]
  simp only [List.mem_filter,Dict.mem_keys,decide_eq_true_eq,not_and,ne_eq]
  exact and_congr_right fun stored => ⟨fun kept => kept stored,fun kept _ => kept⟩

theorem removed_erases : (applyDeviceRemoved s payload).devices = s.devices.erase payload.deviceAddress :=
  (congrArg LoomStore.devices (drop_device_cdps_beside _ _) :).trans
    (congrArg LoomStore.devices (drop_device_channels_beside _ _) :)

theorem removed_devices (a : Address) :
    a ∈ (applyDeviceRemoved s payload).devices ↔ a ∈ s.devices ∧ a ≠ payload.deviceAddress := by
  rw [removed_erases,Dict.mem_erase]

theorem removed_channels (k : ChannelKey) :
    k ∈ (applyDeviceRemoved s payload).channels ↔ k ∈ s.channels ∧ k.1 ≠ payload.deviceAddress := by
  have same : (applyDeviceRemoved s payload).channels = (dropDeviceChannels
      {s with devices := s.devices.erase payload.deviceAddress} payload.deviceAddress).channels :=
    (congrArg LoomStore.channels (drop_device_cdps_beside _ _) :)
  rw [same,drop_device_channels_mem]

theorem removed_data_points (k : DataPointKey) :
    k ∈ (applyDeviceRemoved s payload).dataPoints ↔
      k ∈ s.dataPoints ∧ ¬ (channelOf k ∈ s.channels ∧ k.1 = payload.deviceAddress) := by
  have same : (applyDeviceRemoved s payload).dataPoints = (dropDeviceChannels
      {s with devices := s.devices.erase payload.deviceAddress} payload.deviceAddress).dataPoints :=
    (congrArg LoomStore.dataPoints (drop_device_cdps_beside _ _) :)
  rw [same,drop_device_channels_data_points]

theorem removed_cdps (k : CustomKey) :
    k ∈ (applyDeviceRemoved s payload).cdps ↔ k ∈ s.cdps ∧ k.1 ≠ payload.deviceAddress := by
  have before : (dropDeviceChannels {s with devices := s.devices.erase payload.deviceAddress}
      payload.deviceAddress).cdps = s.cdps := (congrArg LoomStore.cdps (drop_device_channels_beside _ _) :)
  change k ∈ (dropDeviceCdps _ payload.deviceAddress).cdps ↔ _
  rw [drop_device_cdps_mem,before]

theorem removed_week_profiles (a : Address) :
    a ∈ (applyDeviceRemoved s payload).weekProfileDps ↔ a ∈ s.weekProfileDps ∧ a ≠ payload.deviceAddress := by
  have before : (dropDeviceCdps (dropDeviceChannels {s with devices := s.devices.erase payload.deviceAddress}
      payload.deviceAddress) payload.deviceAddress).weekProfileDps = s.weekProfileDps :=
    (congrArg LoomStore.weekProfileDps (drop_device_cdps_beside _ _) :).trans
      (congrArg LoomStore.weekProfileDps (drop_device_channels_beside _ _) :)
  change a ∈ Dict.erase _ payload.deviceAddress ↔ _
  rw [Dict.mem_erase,before]

theorem removed_beside : besideRemoved (applyDeviceRemoved s payload) = besideRemoved s := by
  have blank : ∀ (u : LoomStore V) d, besideRemoved {u with weekProfileDps := d} = besideRemoved u := fun _ _ => rfl
  let t := dropDeviceChannels {s with devices := s.devices.erase payload.deviceAddress} payload.deviceAddress
  have first : besideRemoved t = besideRemoved s :=
    (congrArg besideRemoved (drop_device_channels_beside {s with devices := s.devices.erase payload.deviceAddress} _) :)
  have second : besideRemoved (dropDeviceCdps t payload.deviceAddress) = besideRemoved t :=
    (congrArg besideRemoved (drop_device_cdps_beside t payload.deviceAddress) :)
  exact (blank _ _).trans (second.trans first)

theorem removed_max : (applyDeviceRemoved s payload).maxDevices = s.maxDevices :=
  (congrArg LoomStore.maxDevices (drop_device_cdps_beside _ _) :).trans
    (congrArg LoomStore.maxDevices (drop_device_channels_beside _ _) :)

end Removal

section Settled
variable (s : LoomStore V)

theorem settle_data_point_beside (key : DataPointKey) (summary : DataPointSummary V) :
    besideDataPoints (settleDataPoint s key summary) = besideDataPoints s := by
  unfold settleDataPoint
  split
  · rfl
  · split <;> rfl

theorem settle_calculated_beside (key : DataPointKey) (calculated : CalculatedDPSummary V) :
    besideDataPoints (settleCalculatedDataPoint s key calculated) = besideDataPoints s := by
  unfold settleCalculatedDataPoint
  split
  · rfl
  · split <;> rfl

theorem settle_custom_beside (key : CustomKey) (generation : Nat) (state : Option (Dict String V)) :
    besideCdps (settleCustomDataPoint s key generation state) = besideCdps s := by
  unfold settleCustomDataPoint
  split
  · split
    · exact mutate_cdp_beside s _ _
    · rfl
  · rfl

end Settled

-- What an operation may write, blanked.
def besidePush : Push V → LoomStore V → LoomStore V
  | .valueChanged _ => besideDataPoints
  | .customStateChanged _ => besideCdps
  | .deviceCreated _ | .availabilityChanged _ | .deviceRefreshed _ => besideDevices
  | .deviceRemoved _ => besideRemoved
  | .sysvarChanged _ | .programExecuted _ | .programChanged _ => besideHub
  | .alarmPanelChanged _ => besideAlarm
  | .deviceReleased _ | .metadataChanged _ | .centralStateChanged _ => id

def besideOperation : Operation V → LoomStore V → LoomStore V
  | .setDaemonCentralCount _ => ({· with daemonCentralCount := 0})
  | .setCentralId _ => ({· with centralId := ""})
  | .loadSnapshot _ => besideSnapshot
  | .attachDeviceDetail _ => besideDeviceTree
  | .attachChannelDataPoints _ _ _ | .attachChannelCalculatedDataPoints _ _ _ => besideDataPoints
  | .attachCustomDataPoints _ _ => besideCdps
  | .setWeekProfileDataPoint _ _ _ => ({· with weekProfileDps := .empty,nextOid := 0})
  | .attachHubCatalogue _ _ => besideHub
  | .attachAlarmPanels _ => besideAlarm
  | .push push => besidePush push
  | .settleDataPoint _ _ | .settleCalculatedDataPoint _ _ => besideDataPoints
  | .settleCustomDataPoint _ _ _ => besideCdps
  | .upsertProgram _ | .upsertSysvar _ => besideHub

theorem push_frame (s : LoomStore V) (push : Push V) : besidePush push (applyPush s push) = besidePush push s := by
  cases push with
  | customStateChanged payload => exact mutate_cdp_beside s _ _
  | deviceCreated payload => exact created_beside s payload
  | deviceRemoved payload => exact removed_beside s payload
  | programExecuted payload => exact program_executed_beside s payload
  | programChanged payload => exact program_changed_beside s payload
  | alarmPanelChanged payload => exact panel_changed_beside s payload
  | _ => rfl

theorem operation_frame (s : LoomStore V) (op : Operation V) : besideOperation op (apply s op) = besideOperation op s := by
  cases op with
  | loadSnapshot snapshot => exact snapshot_beside s snapshot
  | attachDeviceDetail detail => exact detail_beside s detail
  | attachChannelDataPoints address channel dataPoints => exact attach_data_points_beside s address channel dataPoints
  | attachChannelCalculatedDataPoints address channel calculated => exact attach_calculated_beside s address channel calculated
  | attachCustomDataPoints address cdps => exact attach_customs_beside s address cdps
  | attachHubCatalogue sysvars programs => exact hub_catalogue_beside s sysvars programs
  | attachAlarmPanels panels => exact attach_panels_beside s panels
  | push push => exact push_frame s push
  | settleDataPoint key summary => exact settle_data_point_beside s key summary
  | settleCalculatedDataPoint key calculated => exact settle_calculated_beside s key calculated
  | settleCustomDataPoint key generation state => exact settle_custom_beside s key generation state
  | upsertProgram summary => exact upsert_program_beside s summary
  | upsertSysvar summary => exact upsert_sysvar_beside s summary
  | _ => rfl

-- Most operations write neither custom data points nor alarm panels.
def besideInventory (s : LoomStore V) : LoomStore V :=
  {besideSnapshot (besideDeviceTree s) with daemonCentralCount := 0,weekProfileDps := .empty}

def elsewhere : Operation V → Bool
  | .attachCustomDataPoints _ _ | .settleCustomDataPoint _ _ _ | .attachAlarmPanels _
  | .push (.customStateChanged _) | .push (.deviceRemoved _) | .push (.alarmPanelChanged _) => false
  | _ => true

theorem push_elsewhere (s : LoomStore V) (push : Push V) (other : elsewhere (.push push) = true) :
    besideInventory (applyPush s push) = besideInventory s := by
  refine unchanged (push_frame s push) besideInventory ?_
  cases push with
  | customStateChanged => cases other
  | deviceRemoved => cases other
  | alarmPanelChanged => cases other
  | _ => exact fun _ => rfl

theorem operation_elsewhere (s : LoomStore V) (op : Operation V) (other : elsewhere op = true) :
    besideInventory (apply s op) = besideInventory s := by
  cases op with
  | push push => exact push_elsewhere s push other
  | attachCustomDataPoints => cases other
  | settleCustomDataPoint => cases other
  | attachAlarmPanels => cases other
  | _ => exact unchanged (operation_frame s _) besideInventory fun _ => rfl

end LoomClient.Store
