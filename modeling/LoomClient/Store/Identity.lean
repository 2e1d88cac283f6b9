import LoomClient.Store.Frame

namespace LoomClient.Store
open Lib Wire
variable {V : Type}

-- The identity counter never goes back, so an identity is never given out twice.
theorem upsert_channel_counter (s : LoomStore V) (summary : ChannelSummary) :
    s.nextOid ≤ (upsertChannel s summary).nextOid := by
  unfold upsertChannel
  dsimp only
  split <;> simp

theorem upsert_program_counter (s : LoomStore V) (summary : ProgramSummary) :
    s.nextOid ≤ (upsertProgram s summary).nextOid := by
  unfold upsertProgram
  split
  · exact Nat.le_refl _
  · split <;> simp

theorem upsert_sysvar_counter (s : LoomStore V) (summary : SysvarSummary V) :
    s.nextOid ≤ (upsertSysvar s summary).nextOid := by
  unfold upsertSysvar
  split <;> simp

theorem upsert_device_counter {s t : LoomStore V} (admitted : upsertDeviceSummary s summary = some t) :
    s.nextOid ≤ t.nextOid := by
  rcases upsert_cases admitted with ⟨_,rfl⟩ | ⟨_,_,rfl⟩ <;> simp

theorem admit_counter (s : LoomStore V) (summary : DeviceSummary) : s.nextOid ≤ (admitDevice s summary).nextOid := by
  unfold admitDevice
  cases admitted : upsertDeviceSummary s summary with
  | none => exact Nat.le_refl _
  | some t => exact upsert_device_counter admitted

theorem snapshot_counter (s : LoomStore V) (snapshot : Snapshot V) : s.nextOid ≤ (loadSnapshot s snapshot).nextOid := by
  have pinned : (adoptCentralId s snapshot).nextOid = s.nextOid :=
    (congrArg LoomStore.nextOid (adopt_central_beside s snapshot) :)
  unfold loadSnapshot
  refine le_trans ?_ (foldl_increases _ LoomStore.nextOid upsert_sysvar_counter _ _)
  refine le_trans ?_ (foldl_increases _ LoomStore.nextOid upsert_program_counter _ _)
  exact pinned.symm.le.trans (foldl_increases _ LoomStore.nextOid admit_counter _ _)

theorem detail_counter (s : LoomStore V) (detail : DeviceDetail) :
    s.nextOid ≤ (attachDeviceDetail s detail).nextOid := by
  unfold attachDeviceDetail
  cases admitted : upsertDeviceSummary s detail.toDeviceSummary with
  | none => exact Nat.le_refl _
  | some t =>
    refine (upsert_device_counter admitted).trans ?_
    refine le_trans ?_ (foldl_increases dropChannel LoomStore.nextOid (fun _ _ => Nat.le_refl _) _ _)
    exact foldl_increases upsertChannel LoomStore.nextOid upsert_channel_counter
      {t with devices := t.devices.modify detail.address (·.attachDetail detail.firmware detail.availability)} _

theorem data_points_counter (s : LoomStore V) (address : Address) (channel : Int)
    (dataPoints : List (DataPointSummary V)) :
    s.nextOid ≤ (attachChannelDataPoints s address channel dataPoints).nextOid := by
  refine foldl_increases (attachDataPoint address channel) LoomStore.nextOid (fun t dp => ?_)
    {s with dataPoints := s.dataPoints.eraseWhere (staleDataPoint s address channel dataPoints)} dataPoints
  unfold attachDataPoint
  dsimp only
  split <;> simp

theorem calculated_counter (s : LoomStore V) (address : Address) (channel : Int)
    (calculated : List (CalculatedDPSummary V)) :
    s.nextOid ≤ (attachChannelCalculatedDataPoints s address channel calculated).nextOid := by
  unfold attachChannelCalculatedDataPoints
  split
  · exact foldl_increases (attachCalculatedDataPoint address channel) LoomStore.nextOid (fun _ _ => Nat.le_succ _) _ _
  · exact Nat.le_refl _

theorem mutate_panel_counter (s : LoomStore V) (uid : String) (f : Model.AlarmPanel → Model.AlarmPanel) :
    (mutateAlarmPanel s uid f).nextOid = s.nextOid := by
  unfold mutateAlarmPanel
  split <;> rfl

theorem drop_panel_counter (s : LoomStore V) (uid : String) : (dropAlarmPanel s uid).nextOid = s.nextOid := by
  unfold dropAlarmPanel
  split <;> rfl

theorem attach_panels_counter (s : LoomStore V) (panels : List AlarmPanelEntity) :
    s.nextOid ≤ (attachAlarmPanels s panels).nextOid := by
  refine le_trans ?_ (foldl_increases attachAlarmPanel LoomStore.nextOid (fun t entity => ?_) _ panels)
  · exact foldl_increases dropAlarmPanel LoomStore.nextOid (fun t uid => (drop_panel_counter t uid).symm.le) _ _
  · unfold attachAlarmPanel
    split
    · exact Nat.le_succ _
    · exact (mutate_panel_counter t _ _).symm.le

theorem panel_changed_counter (s : LoomStore V) (payload : AlarmPanelChangedPayload) :
    s.nextOid ≤ (applyAlarmPanelChanged s payload).nextOid := by
  unfold applyAlarmPanelChanged
  split
  · exact (drop_panel_counter s _).symm.le
  · split
    · exact (mutate_panel_counter s _ _).symm.le
    · exact Nat.le_succ _

theorem mutate_cdp_counter (s : LoomStore V) (key : CustomKey) (f : Model.CustomDataPoint V → Model.CustomDataPoint V) :
    (mutateCdp s key f).nextOid = s.nextOid := by
  unfold mutateCdp
  split <;> rfl

theorem mutate_cdp_get (s : LoomStore V) (key k : CustomKey) (f : Model.CustomDataPoint V → Model.CustomDataPoint V) :
    (mutateCdp s k f).cdps.get? key = if key = k then (s.cdps.get? k).map f else s.cdps.get? key := by
  unfold mutateCdp
  by_cases equal : key = k
  · subst equal
    cases found : s.cdps.get? key <;> simp [found,Dict.get?_modify]
  · cases found : s.cdps.get? k <;> simp [equal,Dict.get?_modify]

theorem drop_cdp_counter (s : LoomStore V) (key : CustomKey) : (dropCdp s key).nextOid = s.nextOid := by
  unfold dropCdp
  split <;> rfl

theorem drop_cdps_counter (s : LoomStore V) (keys : List CustomKey) : (keys.foldl dropCdp s).nextOid = s.nextOid :=
  foldl_frame dropCdp LoomStore.nextOid drop_cdp_counter s keys

theorem attach_custom_counter (address : Address) (s : LoomStore V) (summary : CustomDPSummary V) :
    s.nextOid ≤ (attachCustomDataPoint address s summary).nextOid := by
  unfold attachCustomDataPoint
  dsimp only
  split
  · exact (mutate_cdp_counter s _ _).symm.le
  · exact Nat.le_succ _

theorem attach_customs_counter (s : LoomStore V) (address : Address) (cdps : List (CustomDPSummary V)) :
    s.nextOid ≤ (attachCustomDataPoints s address cdps).nextOid :=
  (drop_cdps_counter s _).symm.le.trans
    (foldl_increases (attachCustomDataPoint address) LoomStore.nextOid (attach_custom_counter address) _ _)

theorem removed_counter (s : LoomStore V) (payload : DevicePayload) : (applyDeviceRemoved s payload).nextOid = s.nextOid :=
  (drop_cdps_counter _ _).trans (foldl_frame dropChannel LoomStore.nextOid (fun _ _ => rfl) _ _)

theorem push_counter (s : LoomStore V) (push : Push V) : s.nextOid ≤ (applyPush s push).nextOid := by
  cases push with
  | deviceCreated payload =>
    simp only [applyPush,applyDeviceCreated]
    split
    · exact Nat.le_refl _
    · split <;> simp
  | customStateChanged => exact (mutate_cdp_counter s _ _).symm.le
  | deviceRemoved payload => exact (removed_counter s payload).symm.le
  | programExecuted payload =>
    simp only [applyPush,applyProgramExecuted]
    split
    · split
      · exact upsert_program_counter _ _
      · exact Nat.le_refl _
    · exact Nat.le_refl _
  | programChanged payload =>
    simp only [applyPush,applyProgramChanged]
    split
    · exact Nat.le_refl _
    · exact upsert_program_counter _ _
  | alarmPanelChanged payload => exact panel_changed_counter s payload
  | _ => exact Nat.le_refl _

theorem operation_counter (s : LoomStore V) (op : Operation V) : s.nextOid ≤ (apply s op).nextOid := by
  cases op with
  | loadSnapshot snapshot => exact snapshot_counter s snapshot
  | attachDeviceDetail detail => exact detail_counter s detail
  | attachChannelDataPoints => exact data_points_counter s _ _ _
  | attachChannelCalculatedDataPoints => exact calculated_counter s _ _ _
  | attachCustomDataPoints => exact attach_customs_counter s _ _
  | setWeekProfileDataPoint => exact Nat.le_max_left _ _
  | attachHubCatalogue sysvars programs =>
    refine le_trans ?_ (foldl_increases upsertProgram LoomStore.nextOid upsert_program_counter _ programs)
    exact foldl_increases upsertSysvar LoomStore.nextOid upsert_sysvar_counter s sysvars
  | attachAlarmPanels panels => exact attach_panels_counter s panels
  | push push => exact push_counter s push
  | settleDataPoint =>
    simp only [apply,settleDataPoint]
    split
    · exact Nat.le_refl _
    · split <;> exact Nat.le_refl _
  | settleCalculatedDataPoint =>
    simp only [apply,settleCalculatedDataPoint]
    split
    · exact Nat.le_refl _
    · split <;> exact Nat.le_refl _
  | settleCustomDataPoint =>
    simp only [apply,settleCustomDataPoint]
    split
    · split
      · exact (mutate_cdp_counter s _ _).symm.le
      · exact Nat.le_refl _
    · exact Nat.le_refl _
  | upsertProgram summary => exact upsert_program_counter s summary
  | upsertSysvar summary => exact upsert_sysvar_counter s summary
  | setDaemonCentralCount => exact Nat.le_refl _
  | setCentralId => exact Nat.le_refl _

end LoomClient.Store
