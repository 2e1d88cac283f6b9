import LoomClient.Store.Frame

namespace LoomClient.Store
open Lib Wire
variable {V : Type}

-- The identity and the marks of an object are not part of the record.
def deviceRecord (s : LoomStore V) (address : Address) :
    Option (DeviceSummary × Option DeviceFirmware × Option DeviceAvailability) :=
  (s.devices.get? address).map fun d => (d.summary,d.firmware,d.availability)

def channelRecord (s : LoomStore V) (k : ChannelKey) : Option ChannelSummary := (s.channels.get? k).map (·.summary)

def dataPointRecord (s : LoomStore V) (k : DataPointKey) : Option (DataPointSummary V) :=
  (s.dataPoints.get? k).map (·.summary)

def customRecord (s : LoomStore V) (k : CustomKey) : Option (CustomDPSummary V) := (s.cdps.get? k).map (·.summary)

def customState (s : LoomStore V) (k : CustomKey) : Dict String V := ((s.cdps.get? k).map (·.state)).getD .empty

def programRecord (s : LoomStore V) (id : String) : Option ProgramSummary := (s.programs.get? id).map (·.summary)

def sysvarRecord (s : LoomStore V) (name : String) : Option (SysvarSummary V) := (s.sysvars.get? name).map (·.summary)

def written {κ ρ : Type} [DecidableEq κ] (key : ρ → κ) (k : κ) (record : ρ) : Option ρ :=
  if key record = k then some record else none

def lastWritten {κ ρ : Type} [DecidableEq κ] (key : ρ → κ) (k : κ) (records : List ρ) : Option ρ :=
  records.reverse.findSome? (written key k)

theorem written_same {κ ρ : Type} [DecidableEq κ] {key : ρ → κ} {k : κ} {r : ρ} (same : key r = k) :
    written key k r = some r := if_pos same

theorem written_other {κ ρ : Type} [DecidableEq κ] {key : ρ → κ} {k : κ} {r : ρ} (other : key r ≠ k) :
    written key k r = none := if_neg other

theorem last_written_key {κ ρ : Type} [DecidableEq κ] {key : ρ → κ} {k : κ} {records : List ρ} {r : ρ}
    (found : lastWritten key k records = some r) : key r = k := by
  obtain ⟨_,_,wrote⟩ := List.exists_of_findSome?_eq_some found
  unfold written at wrote
  split at wrote
  · rename_i matching
    exact Option.some.inj wrote ▸ matching
  · cases wrote

theorem last_written_some {κ ρ : Type} [DecidableEq κ] (key : ρ → κ) {k : κ} {records : List ρ}
    (listed : ∃ r ∈ records, key r = k) : ∃ r, lastWritten key k records = some r := by
  obtain ⟨r,member,same⟩ := listed
  exact Option.isSome_iff_exists.mp (List.findSome?_isSome_iff.mpr ⟨r,List.mem_reverse.mpr member,
    Option.isSome_iff_exists.mpr ⟨r,written_same same⟩⟩)

theorem last_written_none {κ ρ : Type} [DecidableEq κ] (key : ρ → κ) (k : κ) (records : List ρ)
    (absent : ∀ r ∈ records, key r ≠ k) : lastWritten key k records = none :=
  List.findSome?_eq_none_iff.mpr fun r member => written_other (absent r (List.mem_reverse.mp member))

theorem last_written_listed {κ ρ : Type} [DecidableEq κ] {key : ρ → κ} {k : κ} {records : List ρ} :
    (lastWritten key k records).isSome ↔ ∃ r ∈ records, key r = k := by
  constructor
  · intro found
    by_contra unlisted
    push Not at unlisted
    rw [last_written_none key k records unlisted] at found
    cases found
  · intro listed
    obtain ⟨r,found⟩ := last_written_some key listed
    exact Option.isSome_iff_exists.mpr ⟨r,found⟩

theorem written_over {κ ν ρ : Type} [DecidableEq κ] (d : Dict κ ν) (record : ν → ρ) (key : ρ → κ) (r : ρ)
    (update : ν → ν) (fresh : ν) (updated : ∀ v, record (update v) = r) (built : record fresh = r) (k : κ) :
    ((if key r ∈ d then d.modify (key r) update else d.set (key r) fresh).get? k).map record =
      (written key k r).or ((d.get? k).map record) := by
  by_cases same : key r = k
  · rw [written_same same,Option.some_or]
    split
    · rename_i known
      obtain ⟨v,found⟩ := Dict.mem_iff_get?.mp known
      rw [Dict.get?_modify,if_pos same.symm,←same,found]
      simp only [Option.map_some,updated]
    · rw [Dict.get?_set,if_pos same.symm,Option.map_some,built]
  · rw [written_other same,Option.none_or]
    split
    · rw [Dict.get?_modify,if_neg (Ne.symm same)]
    · rw [Dict.get?_set,if_neg (Ne.symm same)]

section Writes
variable (s : LoomStore V)

theorem program_written (summary : ProgramSummary) (id : String) :
    programRecord (upsertProgram s summary) id = (written (·.id) id summary).or (programRecord s id) := by
  have stored : (upsertProgram s summary).programs = if summary.id ∈ s.programs
      then s.programs.modify summary.id (·.replaceSummary summary)
      else s.programs.set summary.id ⟨s.nextOid,none,summary⟩ := by
    unfold upsertProgram
    split
    · rfl
    · split <;> rfl
  rw [programRecord,stored]
  exact written_over s.programs (·.summary) (·.id) summary (·.replaceSummary summary) _ (fun _ => rfl) rfl id

theorem sysvar_written (summary : SysvarSummary V) (name : String) :
    sysvarRecord (upsertSysvar s summary) name = (written (·.name) name summary).or (sysvarRecord s name) := by
  have stored : (upsertSysvar s summary).sysvars = if summary.name ∈ s.sysvars
      then s.sysvars.modify summary.name (·.replaceSummary summary)
      else s.sysvars.set summary.name (.build s.nextOid summary) := by
    unfold upsertSysvar
    split <;> rfl
  rw [sysvarRecord,stored]
  exact written_over s.sysvars (·.summary) (·.name) summary (·.replaceSummary summary) _ (fun _ => rfl) rfl name

theorem channel_written (summary : ChannelSummary) (k : ChannelKey) :
    channelRecord (upsertChannel s summary) k = (written channelKey k summary).or (channelRecord s k) := by
  have stored : (upsertChannel s summary).channels = if (devicePart summary.address,summary.number) ∈ s.channels
      then s.channels.modify (devicePart summary.address,summary.number) (·.replaceSummary summary)
      else s.channels.set (devicePart summary.address,summary.number) ⟨s.nextOid,summary⟩ := by
    unfold upsertChannel
    dsimp only
    split <;> rfl
  rw [channelRecord,stored]
  exact written_over s.channels (·.summary) channelKey summary (·.replaceSummary summary) _ (fun _ => rfl) rfl k

theorem data_point_written (address : Address) (channel : Int) (summary : DataPointSummary V) (k : DataPointKey) :
    dataPointRecord (attachDataPoint address channel s summary) k =
      (written (fun dp => (address,channel,dp.parameter)) k summary).or (dataPointRecord s k) := by
  have stored : (attachDataPoint address channel s summary).dataPoints =
      if (address,channel,summary.parameter) ∈ s.dataPoints
      then s.dataPoints.modify (address,channel,summary.parameter) (·.replaceSummary summary)
      else s.dataPoints.set (address,channel,summary.parameter) (.build s.nextOid summary address channel) := by
    unfold attachDataPoint
    dsimp only
    split <;> rfl
  rw [dataPointRecord,stored]
  exact written_over s.dataPoints (·.summary) (fun dp => (address,channel,dp.parameter)) summary
    (·.replaceSummary summary) _ (fun _ => rfl) rfl k

theorem calculated_written (address : Address) (channel : Int) (calculated : CalculatedDPSummary V) (k : DataPointKey) :
    dataPointRecord (attachCalculatedDataPoint address channel s calculated) k =
      (written (fun dp => (address,channel,dp.parameter)) k (Model.synthesizeSummary calculated)).or
        (dataPointRecord s k) := by
  have stored : (attachCalculatedDataPoint address channel s calculated).dataPoints =
      s.dataPoints.set (address,channel,calculated.name)
        (Model.makeCalculatedDataPoint s.nextOid calculated address channel) := rfl
  let key := fun dp : DataPointSummary V => (address,channel,dp.parameter)
  have write := @written_same _ _ _ key k (Model.synthesizeSummary calculated)
  have skip := @written_other _ _ _ key k (Model.synthesizeSummary calculated)
  rw [dataPointRecord,stored,Dict.get?_set]
  by_cases same : k = (address,channel,calculated.name)
  · rw [if_pos same,write same.symm]; rfl
  · rw [if_neg same,skip (Ne.symm same),Option.none_or]; rfl

end Writes

theorem drop_channels_record (s : LoomStore V) (keys : List ChannelKey) (k : ChannelKey) (kept : k ∉ keys) :
    channelRecord (keys.foldl dropChannel s) k = channelRecord s k := by
  induction keys generalizing s with
  | nil => rfl
  | cons key rest ih =>
    rw [List.foldl_cons,ih _ fun member => kept (.tail key member)]
    have other : k ≠ key := fun same => kept (same ▸ .head rest)
    simp only [channelRecord,dropChannel,Dict.get?_erase,if_neg other]

theorem drop_channels_data_point_record (s : LoomStore V) (keys : List ChannelKey) (k : DataPointKey)
    (kept : channelOf k ∉ keys) : dataPointRecord (keys.foldl dropChannel s) k = dataPointRecord s k := by
  induction keys generalizing s with
  | nil => rfl
  | cons key rest ih =>
    rw [List.foldl_cons,ih _ fun member => kept (.tail key member)]
    have other : ¬ channelOf k = key := fun same => kept (same ▸ .head rest)
    simp [dataPointRecord,dropChannel,Dict.get?_eraseWhere,other]

theorem drop_channels_calculated (s : LoomStore V) (keys : List ChannelKey) (k : DataPointKey) :
    k ∈ (keys.foldl dropChannel s).calculatedDpKeys ↔
      k ∈ s.calculatedDpKeys ∧ ¬ (k ∈ s.dataPoints ∧ channelOf k ∈ keys) := by
  induction keys generalizing s with
  | nil => simp
  | cons key rest ih =>
    rw [List.foldl_cons,ih]
    simp only [dropChannel,Finset.mem_filter,Dict.mem_eraseWhere,decide_eq_false_iff_not,List.mem_cons]
    tauto

theorem upsert_program_sysvars (s : LoomStore V) (summary : ProgramSummary) :
    (upsertProgram s summary).sysvars = s.sysvars := by
  unfold upsertProgram
  split
  · rfl
  · split <;> rfl

theorem upsert_sysvar_programs (s : LoomStore V) (summary : SysvarSummary V) :
    (upsertSysvar s summary).programs = s.programs := by
  unfold upsertSysvar
  split <;> rfl

-- The loops of the catalogues.
section Loops
variable (s : LoomStore V)

theorem programs_written (programs : List ProgramSummary) (id : String) :
    programRecord (programs.foldl upsertProgram s) id = (lastWritten (·.id) id programs).or (programRecord s id) :=
  foldl_last upsertProgram (programRecord · id) _ (fun t p => program_written t p id) s programs

theorem sysvars_written (sysvars : List (SysvarSummary V)) (name : String) :
    sysvarRecord (sysvars.foldl upsertSysvar s) name = (lastWritten (·.name) name sysvars).or (sysvarRecord s name) :=
  foldl_last upsertSysvar (sysvarRecord · name) _ (fun t v => sysvar_written t v name) s sysvars

theorem channels_written (channels : List ChannelSummary) (k : ChannelKey) :
    channelRecord (channels.foldl upsertChannel s) k = (lastWritten channelKey k channels).or (channelRecord s k) :=
  foldl_last upsertChannel (channelRecord · k) _ (fun t c => channel_written t c k) s channels

theorem data_points_written (address : Address) (channel : Int) (dataPoints : List (DataPointSummary V))
    (k : DataPointKey) (fresh : staleDataPoint s address channel dataPoints k = false) :
    dataPointRecord (attachChannelDataPoints s address channel dataPoints) k =
      (lastWritten (fun dp => (address,channel,dp.parameter)) k dataPoints).or (dataPointRecord s k) := by
  have kept : dataPointRecord {s with
      dataPoints := s.dataPoints.eraseWhere (staleDataPoint s address channel dataPoints)} k = dataPointRecord s k := by
    simp [dataPointRecord,Dict.get?_eraseWhere,fresh]
  rw [attachChannelDataPoints,foldl_last (attachDataPoint address channel) (dataPointRecord · k) _
    (fun t dp => data_point_written t address channel dp k),kept]
  rfl

theorem calculated_points_written (address : Address) (channel : Int) (calculated : List (CalculatedDPSummary V))
    (k : DataPointKey) (installed : s.calculatedFactory = true) :
    dataPointRecord (attachChannelCalculatedDataPoints s address channel calculated) k =
      (lastWritten (fun dp => (address,channel,dp.parameter)) k (calculated.map Model.synthesizeSummary)).or
        (dataPointRecord s k) := by
  rw [attachChannelCalculatedDataPoints,if_pos installed,lastWritten,←List.map_reverse,List.findSome?_map]
  exact foldl_last (attachCalculatedDataPoint address channel) (dataPointRecord · k) _
    (fun t c => calculated_written t address channel c k) s calculated

end Loops

section Detail
variable {s : LoomStore V} {detail : DeviceDetail} (allowed : canAdmitDevice s detail.address = true)
include allowed

theorem detail_stored : ∃ t, upsertDeviceSummary s detail.toDeviceSummary = some t ∧
    (attachDeviceDetail s detail).devices =
      t.devices.modify detail.address (·.attachDetail detail.firmware detail.availability) := by
  cases admitted : upsertDeviceSummary s detail.toDeviceSummary with
  | none =>
    have refused := upsert_refused.mp admitted
    rw [allowed] at refused
    cases refused
  | some t =>
    refine ⟨t,rfl,?_⟩
    unfold attachDeviceDetail
    rw [admitted]
    exact (unchanged (drop_channels_beside _ _) LoomStore.devices fun _ => rfl).trans
      (unchanged (upsert_channels_beside _ detail.channels) LoomStore.devices fun _ => rfl)

theorem detail_device_record (a : Address) : deviceRecord (attachDeviceDetail s detail) a =
    if a = detail.address then some (detail.toDeviceSummary,some detail.firmware,some detail.availability)
    else deviceRecord s a := by
  obtain ⟨t,admitted,stored⟩ := detail_stored allowed
  rw [deviceRecord,stored,Dict.get?_modify]
  rcases upsert_cases admitted with ⟨known,rfl⟩ | ⟨_,_,rfl⟩
  · obtain ⟨d,found⟩ := Dict.mem_iff_get?.mp known
    by_cases same : a = detail.address
    · subst same
      rw [if_pos rfl,if_pos rfl,Dict.get?_modify,if_pos rfl,found]
      rfl
    · rw [if_neg same,if_neg same,Dict.get?_modify,if_neg same]
      rfl
  · by_cases same : a = detail.address
    · subst same
      rw [if_pos rfl,if_pos rfl,Dict.get?_set_self]
      rfl
    · rw [if_neg same,if_neg same,Dict.get?_set,if_neg same]
      rfl

theorem detail_channel_record (k : ChannelKey) (listed : ¬ unlisted detail k) :
    channelRecord (attachDeviceDetail s detail) k =
      (lastWritten channelKey k detail.channels).or (channelRecord s k) := by
  obtain ⟨t,frame,_,same⟩ := detail_parts allowed
  rw [same,drop_channels_record _ _ k fun stale => listed (stale_channels_mem.mp stale).2,channels_written]
  rw [unchanged frame (channelRecord · k) fun _ => rfl]

theorem detail_data_point_record (k : DataPointKey) (listed : ¬ unlisted detail (channelOf k)) :
    dataPointRecord (attachDeviceDetail s detail) k = dataPointRecord s k := by
  obtain ⟨t,frame,_,same⟩ := detail_parts allowed
  rw [same,drop_channels_data_point_record _ _ k fun stale => listed (stale_channels_mem.mp stale).2]
  exact (unchanged (upsert_channels_beside t detail.channels) (dataPointRecord · k) fun _ => rfl).trans
    (unchanged frame (dataPointRecord · k) fun _ => rfl)

theorem detail_calculated (k : DataPointKey) : k ∈ (attachDeviceDetail s detail).calculatedDpKeys ↔
    k ∈ s.calculatedDpKeys ∧ ¬ (k ∈ s.dataPoints ∧
      ((∃ c ∈ detail.channels, channelOf k = channelKey c) ∨ channelOf k ∈ s.channels) ∧
        unlisted detail (channelOf k)) := by
  obtain ⟨t,frame,_,same⟩ := detail_parts allowed
  have filled := upsert_channels_beside t detail.channels
  have keys := (unchanged filled LoomStore.calculatedDpKeys fun _ => rfl).trans
    (unchanged frame LoomStore.calculatedDpKeys fun _ => rfl)
  have dataPoints := (unchanged filled LoomStore.dataPoints fun _ => rfl).trans
    (unchanged frame LoomStore.dataPoints fun _ => rfl)
  rw [same,drop_channels_calculated,stale_channels_mem,upsert_channels_mem,keys,dataPoints,
    unchanged frame LoomStore.channels fun _ => rfl]

end Detail

section Customs
variable (s : LoomStore V) (address : Address)

theorem custom_stored (summary : CustomDPSummary V) : (attachCustomDataPoint address s summary).cdps =
    if (address,summary.name) ∈ s.cdps then s.cdps.modify (address,summary.name) (reseed summary)
    else s.cdps.set (address,summary.name) (.build s.nextOid summary address summary.state) := by
  unfold attachCustomDataPoint
  dsimp only
  cases found : s.cdps.get? (address,summary.name) with
  | none => rw [if_neg (Dict.get?_eq_none.mp found)]; rfl
  | some existing =>
    rw [if_pos (Dict.mem_of_get? found)]
    simp only [mutateCdp,found]

theorem reseed_summary (summary : CustomDPSummary V) (cdp : Model.CustomDataPoint V) :
    (reseed summary cdp).summary = summary := by
  unfold reseed
  split <;> rfl

theorem reseed_state (summary : CustomDPSummary V) (cdp : Model.CustomDataPoint V) :
    (reseed summary cdp).state = summary.state.getD cdp.state := by
  unfold reseed
  split
  · rename_i absent; rw [absent]; rfl
  · rename_i carried; rw [carried]; rfl

theorem custom_written (summary : CustomDPSummary V) (k : CustomKey) :
    customRecord (attachCustomDataPoint address s summary) k =
      (written (fun c => (address,c.name)) k summary).or (customRecord s k) := by
  rw [customRecord,custom_stored]
  exact written_over s.cdps (·.summary) (fun c => (address,c.name)) summary (reseed summary) _
    (reseed_summary summary) rfl k

theorem custom_state_written (summary : CustomDPSummary V) (k : CustomKey) :
    customState (attachCustomDataPoint address s summary) k =
      ((written (fun c => (address,c.name)) k summary).bind (·.state)).getD (customState s k) := by
  let key := fun c : CustomDPSummary V => (address,c.name)
  have write := @written_same _ _ _ key k summary
  have skip := @written_other _ _ _ key k summary
  rw [customState,custom_stored]
  by_cases same : k = (address,summary.name)
  · rw [write same.symm]
    split
    · rename_i known
      obtain ⟨v,found⟩ := Dict.mem_iff_get?.mp known
      rw [Dict.get?_modify,if_pos same,customState,same,found]
      exact reseed_state summary v
    · rename_i fresh
      rw [Dict.get?_set,if_pos same,customState,same,Dict.get?_eq_none.mpr fresh]
      rfl
  · rw [skip (Ne.symm same)]
    split
    · rw [Dict.get?_modify,if_neg same]; rfl
    · rw [Dict.get?_set,if_neg same]; rfl

theorem drop_cdps_kept (keys : List CustomKey) (k : CustomKey) (kept : k ∉ keys) :
    (keys.foldl dropCdp s).cdps.get? k = s.cdps.get? k := by
  induction keys generalizing s with
  | nil => rfl
  | cons key rest ih =>
    rw [List.foldl_cons,ih _ fun member => kept (.tail key member)]
    have other : k ≠ key := fun same => kept (same ▸ .head rest)
    unfold dropCdp
    split
    · rfl
    · rw [Dict.get?_erase,if_neg other]

theorem customs_elsewhere (cdps : List (CustomDPSummary V)) (k : CustomKey) (other : k.1 ≠ address) :
    (attachCustomDataPoints s address cdps).cdps.get? k = s.cdps.get? k := by
  have kept : k ∉ staleCdps s address cdps := by
    intro member
    simp only [staleCdps,List.mem_filter,decide_eq_true_eq] at member
    exact other member.2.1
  have each (t : LoomStore V) (c : CustomDPSummary V) :
      (attachCustomDataPoint address t c).cdps.get? k = t.cdps.get? k := by
    have elsewhere : k ≠ (address,c.name) := fun same => other (congrArg Prod.fst same)
    rw [custom_stored]
    split
    · rw [Dict.get?_modify,if_neg elsewhere]
    · rw [Dict.get?_set,if_neg elsewhere]
  exact (foldl_frame (attachCustomDataPoint address) (·.cdps.get? k) each _ cdps).trans (drop_cdps_kept s _ k kept)

theorem customs_written (cdps : List (CustomDPSummary V)) (k : CustomKey) (kept : k ∉ staleCdps s address cdps) :
    customRecord (attachCustomDataPoints s address cdps) k =
      (lastWritten (fun c => (address,c.name)) k cdps).or (customRecord s k) := by
  rw [attachCustomDataPoints,foldl_last (attachCustomDataPoint address) (customRecord · k) _
    (fun t c => custom_written t address c k),customRecord,drop_cdps_kept s _ k kept]
  rfl

theorem customs_state_written (cdps : List (CustomDPSummary V)) (k : CustomKey) (kept : k ∉ staleCdps s address cdps) :
    customState (attachCustomDataPoints s address cdps) k =
      (cdps.reverse.findSome? fun c => (written (fun c => (address,c.name)) k c).bind (·.state)).getD
        (customState s k) := by
  have before : customState ((staleCdps s address cdps).foldl dropCdp s) k = customState s k := by
    rw [customState,drop_cdps_kept s _ k kept]; rfl
  have loop := foldl_last (attachCustomDataPoint address) (fun t => some (customState t k)) _
    (fun t c => (congrArg some (custom_state_written t address c k)).trans (Option.or_some).symm)
    ((staleCdps s address cdps).foldl dropCdp s) cdps
  rw [before,Option.or_some] at loop
  exact Option.some.inj loop

end Customs
end LoomClient.Store
