import LoomClient.Store.Identity
import LoomClient.Lib.Slots

namespace LoomClient.Store
open Lib Wire
variable {V : Type}

-- A program stands for its record and the twins built beside it.
inductive ObjectKey where
  | device (address : Address)
  | channel (key : ChannelKey)
  | dataPoint (key : DataPointKey)
  | customDataPoint (key : CustomKey)
  | program (id : String)
  | sysvar (name : String)
  | alarmPanel (uniqueId : String)
  deriving DecidableEq

def objectsAt (s : LoomStore V) : ObjectKey → Option (List Model.Oid)
  | .device address => (s.devices.get? address).map fun d => [d.oid]
  | .channel key => (s.channels.get? key).map fun c => [c.oid]
  | .dataPoint key => (s.dataPoints.get? key).map fun dp => [dp.oid]
  | .customDataPoint key => (s.cdps.get? key).map fun cdp => [cdp.oid]
  | .program id => (s.programs.get? id).map fun p => p.oid :: (s.programDps.getD id []).map (·.oid)
  | .sysvar name => (s.sysvars.get? name).map fun v => [v.oid]
  | .alarmPanel uniqueId => (s.alarmPanels.get? uniqueId).map fun p => [p.oid]

-- The one path that builds an object for a key that may have one already.
def AttachesAnew (s : LoomStore V) : Operation V → Prop
  | .attachChannelCalculatedDataPoints address channel calculated =>
    s.calculatedFactory = true ∧ ∃ c ∈ calculated, (address,channel,c.name) ∈ s.dataPoints
  | _ => False

instance (s : LoomStore V) (op : Operation V) : Decidable (AttachesAnew s op) := by
  induction op using Operation.casesOn <;> unfold AttachesAnew <;> infer_instance

section Mutated
variable (s : LoomStore V)

theorem mutated_device {f : Model.Device → Model.Device} (a : Address) (same : ∀ d, (f d).oid = d.oid) :
    objectsAt {s with devices := s.devices.modify a f} = objectsAt s := by
  funext key
  cases key with
  | device b => exact Dict.read_modify (fun d _ => congrArg (fun i => [i]) (same d)) b
  | _ => rfl

theorem mutated_channel {f : Model.Channel → Model.Channel} (k : ChannelKey) (same : ∀ c, (f c).oid = c.oid) :
    objectsAt {s with channels := s.channels.modify k f} = objectsAt s := by
  funext key
  cases key with
  | channel b => exact Dict.read_modify (fun c _ => congrArg (fun i => [i]) (same c)) b
  | _ => rfl

theorem mutated_data_point {f : Model.DataPoint V → Model.DataPoint V} (k : DataPointKey)
    (same : ∀ dp, (f dp).oid = dp.oid) : objectsAt {s with dataPoints := s.dataPoints.modify k f} = objectsAt s := by
  funext key
  cases key with
  | dataPoint b => exact Dict.read_modify (fun dp _ => congrArg (fun i => [i]) (same dp)) b
  | _ => rfl

theorem mutated_sysvar {f : Model.Sysvar V → Model.Sysvar V} (name : String) (same : ∀ v, (f v).oid = v.oid) :
    objectsAt {s with sysvars := s.sysvars.modify name f} = objectsAt s := by
  funext key
  cases key with
  | sysvar b => exact Dict.read_modify (fun v _ => congrArg (fun i => [i]) (same v)) b
  | _ => rfl

theorem mutated_cdp {f : Model.CustomDataPoint V → Model.CustomDataPoint V} (k : CustomKey)
    (same : ∀ cdp, (f cdp).oid = cdp.oid) : objectsAt (mutateCdp s k f) = objectsAt s := by
  unfold mutateCdp
  split
  · rfl
  · funext key
    cases key with
    | customDataPoint b => exact Dict.read_modify (fun cdp _ => congrArg (fun i => [i]) (same cdp)) b
    | _ => rfl

theorem mutated_panel {f : Model.AlarmPanel → Model.AlarmPanel} (uniqueId : String) (same : ∀ p, (f p).oid = p.oid) :
    objectsAt (mutateAlarmPanel s uniqueId f) = objectsAt s := by
  unfold mutateAlarmPanel
  split
  · rfl
  · funext key
    cases key with
    | alarmPanel b => exact Dict.read_modify (fun p _ => congrArg (fun i => [i]) (same p)) b
    | _ => rfl

theorem mutated_program (summary : ProgramSummary) (known : summary.id ∈ s.programs) :
    objectsAt (upsertProgram s summary) = objectsAt s := by
  funext key
  unfold upsertProgram
  rw [if_pos known]
  cases key with
  | program id =>
    have twins : ((s.programDps.modify summary.id fun twins => twins.map (·.replaceSummary summary)).getD id []).map
        (·.oid) = (s.programDps.getD id []).map (·.oid) := by
      simp only [Dict.getD,Dict.get?_modify]
      split
      · cases s.programDps.get? id <;> simp [Model.Program.replaceSummary]
      · rfl
    simp only [objectsAt,twins]
    refine Dict.read_modify ?_ id
    exact fun _ _ => rfl
  | _ => rfl

end Mutated

section Added
variable (s : LoomStore V)

theorem upsert_device_grows {t : LoomStore V} (admitted : upsertDeviceSummary s summary = some t) :
    Grows (objectsAt s) (objectsAt t) := by
  rcases upsert_cases admitted with ⟨_,rfl⟩ | ⟨fresh,_,rfl⟩
  · exact grows_of_same (mutated_device s summary.address fun _ => rfl)
  · intro key oids found
    cases key with
    | device a => exact Dict.read_set_absent fresh found
    | _ => exact found

theorem admit_grows (summary : DeviceSummary) : Grows (objectsAt s) (objectsAt (admitDevice s summary)) := by
  unfold admitDevice
  cases admitted : upsertDeviceSummary s summary with
  | none => exact grows_refl _
  | some t => exact upsert_device_grows s admitted

theorem created_grows (payload : DeviceCreatedPayload) :
    Grows (objectsAt s) (objectsAt (applyDeviceCreated s payload)) := by
  unfold applyDeviceCreated
  split
  · exact grows_refl _
  · rename_i fresh
    split
    · intro key oids found
      cases key with
      | device a => exact Dict.read_set_absent fresh found
      | _ => exact found
    · exact grows_refl _

theorem upsert_channel_grows (summary : ChannelSummary) :
    Grows (objectsAt s) (objectsAt (upsertChannel s summary)) := by
  unfold upsertChannel
  dsimp only
  split
  · exact grows_of_same (mutated_channel s _ fun _ => rfl)
  · rename_i fresh
    intro key oids found
    cases key with
    | channel k => exact Dict.read_set_absent fresh found
    | _ => exact found

theorem upsert_program_grows (summary : ProgramSummary) :
    Grows (objectsAt s) (objectsAt (upsertProgram s summary)) := by
  by_cases known : summary.id ∈ s.programs
  · exact grows_of_same (mutated_program s summary known)
  · intro key oids found
    cases key with
    | program id =>
      have other : id ≠ summary.id := by
        rintro rfl
        simp [objectsAt,Dict.get?_eq_none.mpr known] at found
      unfold upsertProgram
      rw [if_neg known]
      split <;> simpa [objectsAt,Dict.getD,Dict.get?_set,other] using found
    | _ =>
      unfold upsertProgram
      rw [if_neg known]
      split <;> exact found

theorem upsert_sysvar_grows (summary : SysvarSummary V) :
    Grows (objectsAt s) (objectsAt (upsertSysvar s summary)) := by
  unfold upsertSysvar
  split
  · exact grows_of_same (mutated_sysvar s _ fun _ => rfl)
  · rename_i fresh
    intro key oids found
    cases key with
    | sysvar name => exact Dict.read_set_absent fresh found
    | _ => exact found

theorem attach_data_point_grows (address : Address) (channel : Int) (summary : DataPointSummary V) :
    Grows (objectsAt s) (objectsAt (attachDataPoint address channel s summary)) := by
  unfold attachDataPoint
  dsimp only
  split
  · exact grows_of_same (mutated_data_point s _ fun _ => rfl)
  · rename_i fresh
    intro key oids found
    cases key with
    | dataPoint k => exact Dict.read_set_absent fresh found
    | _ => exact found

theorem reseed_oid (summary : CustomDPSummary V) (cdp : Model.CustomDataPoint V) : (reseed summary cdp).oid = cdp.oid := by
  unfold reseed
  split <;> rfl

theorem attach_custom_grows (address : Address) (summary : CustomDPSummary V) :
    Grows (objectsAt s) (objectsAt (attachCustomDataPoint address s summary)) := by
  unfold attachCustomDataPoint
  dsimp only
  split
  · exact grows_of_same (mutated_cdp s _ (reseed_oid summary))
  · rename_i missing
    have fresh := Dict.get?_eq_none.mp missing
    intro key oids found
    cases key with
    | customDataPoint k => exact Dict.read_set_absent fresh found
    | _ => exact found

theorem register_panel_grows (entity : AlarmPanelEntity) (fresh : entity.uniqueId ∉ s.alarmPanels) :
    Grows (objectsAt s) (objectsAt (registerAlarmPanel s entity)) := by
  intro key oids found
  cases key with
  | alarmPanel uid => exact Dict.read_set_absent fresh found
  | _ => exact found

theorem attach_panel_grows (entity : AlarmPanelEntity) :
    Grows (objectsAt s) (objectsAt (attachAlarmPanel s entity)) := by
  unfold attachAlarmPanel
  split
  · rename_i missing
    exact register_panel_grows s entity (Dict.get?_eq_none.mp missing)
  · exact grows_of_same (mutated_panel s _ fun _ => rfl)

end Added

section Dropped
variable (s : LoomStore V)

theorem drop_channel_shrinks (k : ChannelKey) : Grows (objectsAt (dropChannel s k)) (objectsAt s) := by
  intro key oids found
  cases key with
  | channel c => exact Dict.read_eraseWhere found
  | dataPoint dp => exact Dict.read_eraseWhere found
  | _ => exact found

theorem drop_cdp_shrinks (k : CustomKey) : Grows (objectsAt (dropCdp s k)) (objectsAt s) := by
  unfold dropCdp
  split
  · exact grows_refl _
  · intro key oids found
    cases key with
    | customDataPoint cdp => exact Dict.read_eraseWhere found
    | _ => exact found

theorem drop_panel_shrinks (uid : String) : Grows (objectsAt (dropAlarmPanel s uid)) (objectsAt s) := by
  unfold dropAlarmPanel
  split
  · exact grows_refl _
  · intro key oids found
    cases key with
    | alarmPanel panel => exact Dict.read_eraseWhere found
    | _ => exact found

theorem removed_shrinks (payload : DevicePayload) : Grows (objectsAt (applyDeviceRemoved s payload)) (objectsAt s) := by
  have device : Grows (objectsAt {s with devices := s.devices.erase payload.deviceAddress}) (objectsAt s) := by
    intro key oids found
    cases key with
    | device a => exact Dict.read_eraseWhere found
    | _ => exact found
  have channels := foldl_slots_shrink objectsAt dropChannel drop_channel_shrinks
    {s with devices := s.devices.erase payload.deviceAddress}
    (s.channels.keys.filter fun k => k.1 = payload.deviceAddress)
  have cdps : ∀ u : LoomStore V, Grows (objectsAt (dropDeviceCdps u payload.deviceAddress)) (objectsAt u) :=
    fun u => foldl_slots_shrink objectsAt dropCdp drop_cdp_shrinks u _
  exact grows_trans (cdps _) (grows_trans channels device)

theorem erased_data_points_shrink (p : DataPointKey → Bool) :
    Grows (objectsAt {s with dataPoints := s.dataPoints.eraseWhere p}) (objectsAt s) := by
  intro key oids found
  cases key with
  | dataPoint k => exact Dict.read_eraseWhere found
  | _ => exact found

end Dropped

-- What each call does to the objects handed out.
section Operations
variable (s : LoomStore V)

theorem detail_stays (detail : DeviceDetail) : Stays (objectsAt s) (objectsAt (attachDeviceDetail s detail)) := by
  unfold attachDeviceDetail
  cases admitted : upsertDeviceSummary s detail.toDeviceSummary with
  | none => exact stays_of_grows (grows_refl _)
  | some t =>
    have first := grows_trans (upsert_device_grows s admitted) (grows_of_same
      (mutated_device t detail.address (f := (·.attachDetail detail.firmware detail.availability)) fun _ => rfl))
    have second := foldl_slots_grow objectsAt upsertChannel upsert_channel_grows
      {t with devices := t.devices.modify detail.address (·.attachDetail detail.firmware detail.availability)}
      detail.channels
    exact stays_of_added (grows_trans first second) (foldl_slots_shrink objectsAt dropChannel drop_channel_shrinks _ _)

theorem snapshot_grows (snapshot : Snapshot V) : Grows (objectsAt s) (objectsAt (loadSnapshot s snapshot)) := by
  have adopted : objectsAt (adoptCentralId s snapshot) = objectsAt s := by
    unfold adoptCentralId
    split <;> rfl
  have devices := foldl_slots_grow objectsAt admitDevice admit_grows (adoptCentralId s snapshot) snapshot.devices
  have programs := foldl_slots_grow objectsAt upsertProgram upsert_program_grows
    (snapshot.devices.foldl admitDevice (adoptCentralId s snapshot)) (snapshot.programs.getD [])
  have sysvars := foldl_slots_grow objectsAt upsertSysvar upsert_sysvar_grows
    ((snapshot.programs.getD []).foldl upsertProgram (snapshot.devices.foldl admitDevice (adoptCentralId s snapshot)))
    (snapshot.sysvars.getD [])
  exact grows_trans (grows_of_same adopted) (grows_trans devices (grows_trans programs sysvars))

theorem hub_catalogue_grows (sysvars : List (SysvarSummary V)) (programs : List ProgramSummary) :
    Grows (objectsAt s) (objectsAt (attachHubCatalogue s sysvars programs)) :=
  grows_trans (foldl_slots_grow objectsAt upsertSysvar upsert_sysvar_grows s sysvars)
    (foldl_slots_grow objectsAt upsertProgram upsert_program_grows _ programs)

theorem data_points_stay (address : Address) (channel : Int) (dataPoints : List (DataPointSummary V)) :
    Stays (objectsAt s) (objectsAt (attachChannelDataPoints s address channel dataPoints)) := by
  have added := foldl_slots_grow objectsAt (attachDataPoint address channel)
    (fun t dp => attach_data_point_grows t address channel dp)
    {s with dataPoints := s.dataPoints.eraseWhere (staleDataPoint s address channel dataPoints)} dataPoints
  refine stays_of_deleted (erased_data_points_shrink s _) added ?_
  intro key before after
  cases key with
  | dataPoint k =>
    refine Dict.read_ne_none.mpr (Dict.mem_eraseWhere.mpr ⟨Dict.read_ne_none.mp before,?_⟩)
    -- What the list brings in is not stale.
    rcases (attach_data_points_mem s address channel dataPoints k).mp (Dict.read_ne_none.mp after) with
      ⟨dp,listed,rfl⟩ | kept
    · simp only [staleDataPoint,List.mem_map_of_mem listed,not_true,decide_false,Bool.and_false,Bool.false_and]
    · exact kept.2
  | _ => exact before

theorem customs_stay (address : Address) (cdps : List (CustomDPSummary V)) :
    Stays (objectsAt s) (objectsAt (attachCustomDataPoints s address cdps)) := by
  have deleted := foldl_slots_shrink objectsAt dropCdp drop_cdp_shrinks s (staleCdps s address cdps)
  have added := foldl_slots_grow objectsAt (attachCustomDataPoint address)
    (fun t summary => attach_custom_grows t address summary) ((staleCdps s address cdps).foldl dropCdp s) cdps
  have frame := drop_cdps_beside s (staleCdps s address cdps)
  refine stays_of_deleted deleted added ?_
  intro key before after
  cases key with
  | customDataPoint k =>
    refine Dict.read_ne_none.mpr ((drop_cdps_mem s _ k).mpr ⟨Dict.read_ne_none.mp before,?_⟩)
    rcases (attach_customs_mem s address cdps k).mp (Dict.read_ne_none.mp after) with ⟨c,listed,rfl⟩ | kept
    · intro stale
      have gone := (of_decide_eq_true (List.mem_filter.mp stale).2).2
      exact gone (List.mem_map_of_mem listed)
    · exact kept.2
  | _ => exact fun missing => before ((unchanged frame (objectsAt · _) fun _ => rfl).symm.trans missing)

theorem drop_panels_mem (uids : List String) (uid : String) :
    uid ∈ (uids.foldl dropAlarmPanel s).alarmPanels ↔ uid ∈ s.alarmPanels ∧ uid ∉ uids := by
  refine foldl_removes dropAlarmPanel (fun t => uid ∈ t.alarmPanels) uid (fun t other => ?_) s uids
  unfold dropAlarmPanel
  split
  · rename_i missing
    have absent := Dict.get?_eq_none.mp missing
    exact ⟨fun known => ⟨known,fun equal => absent (equal ▸ known)⟩,And.left⟩
  · simp

theorem attach_panel_mem (entity : AlarmPanelEntity) (uid : String) :
    uid ∈ (attachAlarmPanel s entity).alarmPanels ↔ uid = entity.uniqueId ∨ uid ∈ s.alarmPanels := by
  unfold attachAlarmPanel
  split
  · simp [registerAlarmPanel]
  · rename_i existing found
    have kept : uid ∈ (mutateAlarmPanel s entity.uniqueId (·.replaceSummary entity)).alarmPanels ↔
        uid ∈ s.alarmPanels := by simp [mutateAlarmPanel,found]
    refine kept.trans ⟨Or.inr,?_⟩
    rintro (rfl | known)
    · exact Dict.mem_of_get? found
    · exact known

theorem attach_panels_mem (panels : List AlarmPanelEntity) (uid : String) :
    uid ∈ (attachAlarmPanels s panels).alarmPanels ↔ uid ∈ panels.map (·.uniqueId) := by
  unfold attachAlarmPanels
  dsimp only
  rw [foldl_grows attachAlarmPanel (fun t => uid ∈ t.alarmPanels) (fun e => uid = e.uniqueId)
    (fun t e => attach_panel_mem t e uid),drop_panels_mem]
  have listed : (∃ e ∈ panels, uid = e.uniqueId) ↔ uid ∈ panels.map (·.uniqueId) := by
    rw [List.mem_map]
    exact exists_congr fun e => and_congr_right fun _ => eq_comm
  rw [listed,List.mem_filter,Dict.mem_keys,decide_eq_true_eq]
  exact or_iff_left_of_imp fun stored => by_contra fun gone => stored.2 ⟨stored.1,gone⟩

theorem panels_stay (panels : List AlarmPanelEntity) :
    Stays (objectsAt s) (objectsAt (attachAlarmPanels s panels)) := by
  let stale := s.alarmPanels.keys.filter fun uid => ¬ uid ∈ panels.map (·.uniqueId)
  have deleted := foldl_slots_shrink objectsAt dropAlarmPanel drop_panel_shrinks s stale
  have added := foldl_slots_grow objectsAt attachAlarmPanel attach_panel_grows (stale.foldl dropAlarmPanel s) panels
  have frame := foldl_frame dropAlarmPanel besideAlarm drop_panel_beside s stale
  refine stays_of_deleted deleted added ?_
  intro key before after
  cases key with
  | alarmPanel uid =>
    have listed := (attach_panels_mem s panels uid).mp (Dict.read_ne_none.mp after)
    refine Dict.read_ne_none.mpr ((drop_panels_mem s stale uid).mpr ⟨Dict.read_ne_none.mp before,fun gone => ?_⟩)
    exact of_decide_eq_true (List.mem_filter.mp gone).2 listed
  | _ => exact fun missing => before ((unchanged frame (objectsAt · _) fun _ => rfl).symm.trans missing)

theorem settled_data_point (key : DataPointKey) (summary : DataPointSummary V) :
    objectsAt (settleDataPoint s key summary) = objectsAt s := by
  unfold settleDataPoint
  split
  · rfl
  · split
    · rfl
    · exact mutated_data_point s key fun _ => rfl

theorem settled_calculated (key : DataPointKey) (calculated : CalculatedDPSummary V) :
    objectsAt (settleCalculatedDataPoint s key calculated) = objectsAt s := by
  unfold settleCalculatedDataPoint
  split
  · rfl
  · split
    · rfl
    · refine mutated_data_point s key fun dp => ?_
      unfold Model.DataPoint.applyCalculatedAvailability
      split <;> rfl

theorem settled_custom (key : CustomKey) (generation : Nat) (state : Option (Dict String V)) :
    objectsAt (settleCustomDataPoint s key generation state) = objectsAt s := by
  unfold settleCustomDataPoint
  split
  · split
    · exact mutated_cdp s key fun _ => rfl
    · rfl
  · rfl

theorem push_stays (push : Push V) : Stays (objectsAt s) (objectsAt (applyPush s push)) := by
  cases push with
  | valueChanged payload => exact stays_of_grows (grows_of_same (mutated_data_point s _ fun _ => rfl))
  | customStateChanged payload => exact stays_of_grows (grows_of_same (mutated_cdp s _ fun _ => rfl))
  | deviceCreated payload => exact stays_of_grows (created_grows s payload)
  | deviceRemoved payload => exact stays_of_shrinks (removed_shrinks s payload)
  | availabilityChanged payload =>
    refine stays_of_grows (grows_of_same (mutated_device s _ fun d => ?_))
    split <;> rfl
  | deviceRefreshed payload =>
    refine stays_of_grows (grows_of_same (mutated_device s _ fun d => ?_))
    unfold refreshedAvailability
    split
    · rfl
    · split
      · rfl
      · split <;> rfl
  | sysvarChanged payload => exact stays_of_grows (grows_of_same (mutated_sysvar s _ fun _ => rfl))
  | programExecuted payload =>
    refine stays_of_grows ?_
    simp only [applyPush,applyProgramExecuted]
    split
    · split
      · exact upsert_program_grows s _
      · exact grows_refl _
    · exact grows_refl _
  | programChanged payload =>
    refine stays_of_grows ?_
    simp only [applyPush,applyProgramChanged]
    split
    · exact grows_refl _
    · exact upsert_program_grows s _
  | alarmPanelChanged payload =>
    simp only [applyPush,applyAlarmPanelChanged]
    split
    · exact stays_of_shrinks (drop_panel_shrinks s _)
    · split
      · exact stays_of_grows (grows_of_same (mutated_panel s _ fun _ => rfl))
      · rename_i fresh
        exact stays_of_grows (register_panel_grows s _ fresh)
  | _ => exact stays_of_grows (grows_refl _)

end Operations

-- Each calculated data point that is listed is built anew.
section Calculated
variable {s : LoomStore V} (address : Address) (channel : Int)

theorem calculated_slot (calculated : List (CalculatedDPSummary V)) (key : ObjectKey) :
    ((∀ c ∈ calculated, key ≠ .dataPoint (address,channel,c.name)) →
      objectsAt (calculated.foldl (attachCalculatedDataPoint address channel) s) key = objectsAt s key) ∧
    ((∃ c ∈ calculated, key = .dataPoint (address,channel,c.name)) →
      ∃ i, s.nextOid ≤ i ∧
        objectsAt (calculated.foldl (attachCalculatedDataPoint address channel) s) key = some [i]) := by
  induction calculated generalizing s with
  | nil => exact ⟨fun _ => rfl,fun ⟨_,listed,_⟩ => nomatch listed⟩
  | cons c rest ih =>
    let t := attachCalculatedDataPoint address channel s c
    have there : objectsAt t (.dataPoint (address,channel,c.name)) = some [s.nextOid] := by
      simp [t,objectsAt,attachCalculatedDataPoint,Dict.get?_set,Model.makeCalculatedDataPoint]
    have other : key ≠ .dataPoint (address,channel,c.name) → objectsAt t key = objectsAt s key := by
      intro apart
      cases key with
      | dataPoint k =>
        have different : k ≠ (address,channel,c.name) := fun equal => apart (congrArg _ equal)
        simp [t,objectsAt,attachCalculatedDataPoint,Dict.get?_set,different]
      | _ => rfl
    obtain ⟨unlisted,anew⟩ := ih (s := t)
    constructor
    · intro apart
      exact (unlisted fun d member => apart d (.tail c member)).trans (other (apart c (.head rest)))
    · rintro ⟨d,member,equal⟩
      by_cases later : ∃ e ∈ rest, key = .dataPoint (address,channel,e.name)
      · obtain ⟨i,above,found⟩ := anew later
        exact ⟨i,(Nat.le_succ _).trans above,found⟩
      · have last : d = c := by
          rcases List.mem_cons.mp member with here | further
          · exact here
          · exact absurd ⟨d,further,equal⟩ later
        subst last
        refine ⟨s.nextOid,Nat.le_refl _,?_⟩
        rw [List.foldl_cons,unlisted fun e member same => later ⟨e,member,same⟩,equal]
        exact there

end Calculated

-- Every data point carries a number the counter has passed.
def Numbered (s : LoomStore V) : Prop := ∀ k oids, objectsAt s (.dataPoint k) = some oids → ∀ i ∈ oids, i < s.nextOid

section Numbered
variable {s t : LoomStore V}

theorem numbered_of_shrinks (numbered : Numbered s) (counter : s.nextOid ≤ t.nextOid)
    (shrinks : ∀ k oids, objectsAt t (.dataPoint k) = some oids → objectsAt s (.dataPoint k) = some oids) :
    Numbered t :=
  fun k oids found i member => (numbered k oids (shrinks k oids found) i member).trans_le counter

theorem numbered_of_same (numbered : Numbered s) (counter : s.nextOid ≤ t.nextOid) (same : t.dataPoints = s.dataPoints) :
    Numbered t := by
  refine numbered_of_shrinks numbered counter fun k oids found => ?_
  simpa only [objectsAt,same] using found

theorem numbered_of_view (numbered : Numbered s) (counter : s.nextOid ≤ t.nextOid) (same : objectsAt t = objectsAt s) :
    Numbered t := by
  refine numbered_of_shrinks numbered counter fun k oids found => ?_
  rwa [same] at found

theorem attach_data_point_numbered (address : Address) (channel : Int) (summary : DataPointSummary V)
    (numbered : Numbered s) : Numbered (attachDataPoint address channel s summary) := by
  unfold attachDataPoint
  dsimp only
  split
  · exact numbered_of_view numbered (Nat.le_refl _) (mutated_data_point s _ fun _ => rfl)
  · intro k oids found i member
    simp only [objectsAt,Dict.get?_set] at found
    split at found
    · obtain rfl : [s.nextOid] = oids := by simpa [Model.DataPoint.build] using found
      rw [List.mem_singleton.mp member]
      exact Nat.lt_succ_self _
    · exact Nat.lt_succ_of_lt (numbered k oids found i member)

theorem calculated_numbered (address : Address) (channel : Int) (summary : CalculatedDPSummary V)
    (numbered : Numbered s) : Numbered (attachCalculatedDataPoint address channel s summary) := by
  intro k oids found i member
  simp only [objectsAt,attachCalculatedDataPoint,Dict.get?_set] at found
  split at found
  · obtain rfl : [s.nextOid] = oids := by simpa [Model.makeCalculatedDataPoint] using found
    rw [List.mem_singleton.mp member]
    exact Nat.lt_succ_self _
  · exact Nat.lt_succ_of_lt (numbered k oids found i member)

theorem detail_numbered (detail : DeviceDetail) (numbered : Numbered s) : Numbered (attachDeviceDetail s detail) := by
  refine numbered_of_shrinks numbered (detail_counter s detail) fun k oids found => ?_
  unfold attachDeviceDetail at found
  cases admitted : upsertDeviceSummary s detail.toDeviceSummary with
  | none => rwa [admitted] at found
  | some t =>
    rw [admitted] at found
    have kept := foldl_slots_shrink objectsAt dropChannel drop_channel_shrinks _ _ _ _ found
    have filled := unchanged (upsert_channels_beside
      {t with devices := t.devices.modify detail.address (·.attachDetail detail.firmware detail.availability)}
      detail.channels) LoomStore.dataPoints fun _ => rfl
    have before := unchanged (upsert_beside admitted) LoomStore.dataPoints fun _ => rfl
    have same := filled.trans before
    simpa only [objectsAt,same] using kept

theorem push_numbered (push : Push V) (numbered : Numbered s) : Numbered (applyPush s push) := by
  have counter := push_counter s push
  have same : (applyPush s push).dataPoints = s.dataPoints → Numbered (applyPush s push) :=
    numbered_of_same numbered counter
  cases push with
  | valueChanged payload => exact numbered_of_view numbered counter (mutated_data_point s _ fun _ => rfl)
  | deviceRemoved payload =>
    exact numbered_of_shrinks numbered counter fun k oids found => removed_shrinks s payload _ oids found
  | _ => exact same (unchanged (push_frame s _) LoomStore.dataPoints fun _ => rfl)

theorem operation_numbered (op : Operation V) (numbered : Numbered s) : Numbered (apply s op) := by
  have counter := operation_counter s op
  have same : (apply s op).dataPoints = s.dataPoints → Numbered (apply s op) := numbered_of_same numbered counter
  cases op with
  | attachDeviceDetail detail => exact detail_numbered detail numbered
  | attachChannelDataPoints address channel dataPoints =>
    have first : Numbered {s with dataPoints := s.dataPoints.eraseWhere (staleDataPoint s address channel dataPoints)} :=
      numbered_of_shrinks numbered (Nat.le_refl _) fun k oids found => Dict.read_eraseWhere found
    exact List.foldlRecOn dataPoints _ first fun t kept dp _ => attach_data_point_numbered address channel dp kept
  | attachChannelCalculatedDataPoints address channel calculated =>
    simp only [apply,attachChannelCalculatedDataPoints]
    split
    · exact List.foldlRecOn calculated _ numbered fun t kept c _ => calculated_numbered address channel c kept
    · exact numbered
  | push push => exact push_numbered push numbered
  | settleDataPoint key summary => exact numbered_of_view numbered counter (settled_data_point s key summary)
  | settleCalculatedDataPoint key calculated =>
    exact numbered_of_view numbered counter (settled_calculated s key calculated)
  | _ => exact same (unchanged (operation_frame s _) LoomStore.dataPoints fun _ => rfl)

end Numbered

theorem operation_stays_iff (s : LoomStore V) (op : Operation V) (numbered : Numbered s) :
    Stays (objectsAt s) (objectsAt (apply s op)) ↔ ¬ AttachesAnew s op := by
  cases op with
  | attachChannelCalculatedDataPoints address channel calculated =>
    simp only [apply,attachChannelCalculatedDataPoints,AttachesAnew]
    cases installed : s.calculatedFactory with
    | false => simpa using stays_of_grows (grows_refl (objectsAt s))
    | true =>
      simp only [if_true,true_and]
      constructor
      · rintro stays ⟨c,listed,known⟩
        have present : objectsAt s (.dataPoint (address,channel,c.name)) ≠ none := Dict.read_ne_none.mpr known
        obtain ⟨oids,before⟩ := Option.ne_none_iff_exists'.mp present
        obtain ⟨i,above,after⟩ := (calculated_slot address channel calculated (.dataPoint (address,channel,c.name))
          (s := s)).2 ⟨c,listed,rfl⟩
        have same := stays (.dataPoint (address,channel,c.name)) oids [i] before after
        have below : i < s.nextOid := numbered _ oids before i (same ▸ List.mem_singleton_self i)
        exact absurd above (Nat.not_le.mpr below)
      · intro apart key i j before after
        have unlisted : ∀ c ∈ calculated, key ≠ .dataPoint (address,channel,c.name) := by
          rintro c listed rfl
          exact apart ⟨c,listed,Dict.read_ne_none.mp (Option.ne_none_iff_exists'.mpr ⟨i,before⟩)⟩
        rw [(calculated_slot address channel calculated key (s := s)).1 unlisted,before] at after
        exact (Option.some.inj after).symm
  | loadSnapshot snapshot => exact iff_of_true (stays_of_grows (snapshot_grows s snapshot)) id
  | attachDeviceDetail detail => exact iff_of_true (detail_stays s detail) id
  | attachChannelDataPoints address channel dataPoints =>
    exact iff_of_true (data_points_stay s address channel dataPoints) id
  | attachCustomDataPoints address cdps => exact iff_of_true (customs_stay s address cdps) id
  | attachHubCatalogue sysvars programs => exact iff_of_true (stays_of_grows (hub_catalogue_grows s sysvars programs)) id
  | attachAlarmPanels panels => exact iff_of_true (panels_stay s panels) id
  | push push => exact iff_of_true (push_stays s push) id
  | settleDataPoint key summary =>
    exact iff_of_true (stays_of_grows (grows_of_same (settled_data_point s key summary))) id
  | settleCalculatedDataPoint key calculated =>
    exact iff_of_true (stays_of_grows (grows_of_same (settled_calculated s key calculated))) id
  | settleCustomDataPoint key generation state =>
    exact iff_of_true (stays_of_grows (grows_of_same (settled_custom s key generation state))) id
  | upsertProgram summary => exact iff_of_true (stays_of_grows (upsert_program_grows s summary)) id
  | upsertSysvar summary => exact iff_of_true (stays_of_grows (upsert_sysvar_grows s summary)) id
  | _ => exact iff_of_true (stays_of_grows (grows_refl _)) id

-- A store before its first call, with or without the factories of a layer above.
def constructed (maxDevices : Nat) (centralName serialSuffix : String) (calculatedFactory programFactory : Bool) :
    LoomStore V :=
  {LoomStore.categorised maxDevices centralName serialSuffix with calculatedFactory, programFactory}

-- Whatever is captured stays the object under its key until the key is dropped, exactly when no
-- call lists a calculated data point for a key that has an object.
theorem captures_stay_iff_none_anew (maxDevices : Nat) (centralName serialSuffix : String)
    (calculatedFactory programFactory : Bool) (ops : List (Operation V)) :
    let s : LoomStore V := constructed maxDevices centralName serialSuffix calculatedFactory programFactory
    CapturesStay perform objectsAt s ops ↔ Every perform (fun s op _ => ¬ AttachesAnew s op) s ops := by
  intro s
  have first : Numbered s := fun _ _ found => nomatch found
  refine captures_stay_iff.trans (every_congr Numbered first ?_ ?_)
  · intro u op t numbered moved
    cases moved
    exact operation_numbered op numbered
  · intro u op t numbered moved
    cases moved
    exact operation_stays_iff u op numbered

-- A second bootstrap attaches the calculated data points of a channel again.
theorem rebootstrap_replaces_calculated :
    let calculated : CalculatedDPSummary Nat := ⟨"DEW_POINT",some "sensor",some 7,true,true,none,none,"A_1_DEW_POINT"⟩
    let device : DeviceSummary :=
      ⟨"A",some "ccu","HmIP","ccu-HmIP","HmIP-STHO","A",true,1,false,false,false,false,⟨none,none,none,none⟩,⟨none,none⟩⟩
    let channel : ChannelSummary := ⟨"A:1",1,none,none,none⟩
    let walk : List (Operation Nat) := [.loadSnapshot ⟨[device],none,none,none,none⟩,
      .attachDeviceDetail (device.withChannels [channel]),.attachChannelCalculatedDataPoints "A" 1 [calculated]]
    ¬ CapturesStay perform objectsAt (constructed 8 "ccu" "S" true true) (walk ++ walk) := by
  intro calculated device channel walk kept
  have stays := captures_stay_iff.mp kept
  have last := stays.2.2.2.2.2.1 (.dataPoint ("A",1,"DEW_POINT")) [2] [3] (by decide +kernel) (by decide +kernel)
  cases last

end LoomClient.Store
