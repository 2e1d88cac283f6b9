import LoomClient.Store.Frame

namespace LoomClient.Store
open Lib Wire
variable {V : Type}

-- `some none` for a data point that carries no timestamp.
def stamp (s : LoomStore V) (k : DataPointKey) : Option (Option Instant) :=
  (s.dataPoints.get? k).map (·.summary.modifiedAt)

def NoOlder (s t : LoomStore V) : Prop :=
  ∀ k ∈ s.dataPoints.keys, ∀ current ∈ stamp s k, ∀ next ∈ stamp t k, refreshIsStale current next = false

instance (s t : LoomStore V) : Decidable (NoOlder s t) := by unfold NoOlder; infer_instance

-- Of two records for one parameter in a list the later one stays.
def brings (s : LoomStore V) (k : DataPointKey) : Operation V → Option (Option Instant)
  | .push (.valueChanged payload) =>
    if k = (payload.deviceAddress,payload.channel,payload.parameter) then some (some payload.modifiedAt) else none
  | .attachChannelDataPoints address channel dataPoints =>
    dataPoints.reverse.findSome? fun dp => if k = (address,channel,dp.parameter) then some dp.modifiedAt else none
  | .attachChannelCalculatedDataPoints address channel calculated =>
    if s.calculatedFactory then
      calculated.reverse.findSome? fun dp => if k = (address,channel,dp.name) then some dp.modifiedAt else none
    else none
  | _ => none

def BringsNoOlder (s : LoomStore V) (op : Operation V) : Prop :=
  ∀ k ∈ s.dataPoints.keys, ∀ current ∈ stamp s k, ∀ next ∈ brings s k op, refreshIsStale current next = false

instance (s : LoomStore V) (op : Operation V) : Decidable (BringsNoOlder s op) := by
  unfold BringsNoOlder; infer_instance

theorem stale_self (m : Option Instant) : refreshIsStale m m = false := by
  cases m <;> simp [refreshIsStale]

def Overwrites (s t : LoomStore V) (writes : DataPointKey → Option (Option Instant)) : Prop :=
  ∀ k current, stamp s k = some current →
    (stamp t k = none ∧ writes k = none) ∨ stamp t k = some ((writes k).getD current)

theorem overwrites_exact {s t : LoomStore V} (effect : Overwrites s t writes) :
    NoOlder s t ↔
      ∀ k ∈ s.dataPoints.keys, ∀ current ∈ stamp s k, ∀ next ∈ writes k, refreshIsStale current next = false := by
  constructor
  · intro fresh k known current stored next written
    rcases effect k current stored with ⟨_,silent⟩ | after
    · simp [silent] at written
    · refine fresh k known current stored next ?_
      rw [Option.mem_def] at written
      simpa [written] using after
  · intro fresh k known current stored next after
    rcases effect k current stored with ⟨gone,_⟩ | replaced
    · simp [gone] at after
    · rw [Option.mem_def,replaced] at after
      cases written : writes k with
      | none =>
        simp only [written,Option.getD_none,Option.some.injEq] at after
        exact after ▸ stale_self current
      | some m =>
        simp only [written,Option.getD_some,Option.some.injEq] at after
        exact after ▸ fresh k known current stored m written

theorem overwrites_same {s t : LoomStore V} (same : t.dataPoints = s.dataPoints) : Overwrites s t fun _ => none := by
  intro k current stored
  right
  simpa [stamp,same] using stored

theorem drop_channels_stamp (s : LoomStore V) (keys : List ChannelKey) (k : DataPointKey) :
    stamp (keys.foldl dropChannel s) k = none ∨ stamp (keys.foldl dropChannel s) k = stamp s k := by
  refine List.foldlRecOn keys dropChannel (motive := fun t => stamp t k = none ∨ stamp t k = stamp s k) (.inr rfl) ?_
  intro t held key _
  by_cases gone : channelOf k = key
  · left
    simp [stamp,dropChannel,Dict.get?_eraseWhere,gone]
  · have same : stamp (dropChannel t key) k = stamp t k := by
      simp [stamp,dropChannel,Dict.get?_eraseWhere,gone]
    rw [same]
    exact held

theorem overwrites_dropped {s u : LoomStore V} (same : u.dataPoints = s.dataPoints) (keys : List ChannelKey)
    (tail : t.dataPoints = (keys.foldl dropChannel u).dataPoints) : Overwrites s t fun _ => none := by
  intro k current stored
  have before : stamp u k = some current := by simpa [stamp,same] using stored
  have after : stamp t k = stamp (keys.foldl dropChannel u) k := by simp [stamp,tail]
  rcases drop_channels_stamp u keys k with gone | kept
  · exact .inl ⟨after.trans gone,rfl⟩
  · exact .inr (after.trans (kept.trans before))

theorem detail_overwrites (s : LoomStore V) (detail : DeviceDetail) :
    Overwrites s (attachDeviceDetail s detail) fun _ => none := by
  unfold attachDeviceDetail
  cases admitted : upsertDeviceSummary s detail.toDeviceSummary with
  | none => exact overwrites_same rfl
  | some t =>
    have first : t.dataPoints = s.dataPoints := (congrArg LoomStore.dataPoints (upsert_beside admitted) :)
    let u := {t with devices := t.devices.modify detail.address (·.attachDetail detail.firmware detail.availability)}
    have second : (detail.channels.foldl upsertChannel u).dataPoints = t.dataPoints :=
      (congrArg LoomStore.dataPoints (upsert_channels_beside u detail.channels) :)
    exact overwrites_dropped (second.trans first) _ rfl

theorem removed_overwrites (s : LoomStore V) (payload : DevicePayload) :
    Overwrites s (applyDeviceRemoved s payload) fun _ => none :=
  overwrites_dropped (u := {s with devices := s.devices.erase payload.deviceAddress}) rfl _
    (congrArg LoomStore.dataPoints (drop_device_cdps_beside _ _) :)

theorem value_changed_overwrites (s : LoomStore V) (payload : DataPointValueChangedPayload V) :
    Overwrites s (applyValueChanged s payload) fun k => brings s k (.push (.valueChanged payload)) := by
  intro k current stored
  right
  obtain ⟨dp,found,_⟩ := Option.map_eq_some_iff.mp stored
  simp only [stamp,applyValueChanged,Dict.get?_modify,brings]
  split
  · rename_i equal
    subst equal
    simp [found,pushedSummary,Model.DataPoint.replaceSummary,Model.DataPoint.clearValueOverride]
  · exact stored

theorem attach_data_point_stamp (address : Address) (channel : Int) (s : LoomStore V) (dp : DataPointSummary V)
    (k : DataPointKey) :
    stamp (attachDataPoint address channel s dp) k =
      (if k = (address,channel,dp.parameter) then some dp.modifiedAt else none).or (stamp s k) := by
  unfold attachDataPoint
  dsimp only
  split
  · rename_i known
    obtain ⟨old,found⟩ := Dict.mem_iff_get?.mp known
    simp only [stamp,Dict.get?_modify]
    by_cases equal : k = (address,channel,dp.parameter)
    · simp [equal,found,Model.DataPoint.replaceSummary]
    · simp [equal]
  · simp only [stamp,Dict.get?_set]
    by_cases equal : k = (address,channel,dp.parameter) <;> simp [equal,Model.DataPoint.build]

theorem attach_data_points_overwrites (s : LoomStore V) (address : Address) (channel : Int)
    (dataPoints : List (DataPointSummary V)) :
    Overwrites s (attachChannelDataPoints s address channel dataPoints)
      fun k => brings s k (.attachChannelDataPoints address channel dataPoints) := by
  intro k current stored
  unfold attachChannelDataPoints brings
  rw [foldl_last (attachDataPoint address channel) (fun t => stamp t k)
    (fun dp => if k = (address,channel,dp.parameter) then some dp.modifiedAt else none)
    (fun t dp => attach_data_point_stamp address channel t dp k)]
  dsimp only
  generalize (dataPoints.reverse.findSome?
    fun dp => if k = (address,channel,dp.parameter) then some dp.modifiedAt else none) = written
  cases written with
  | some m => exact .inr rfl
  | none =>
    simp only [stamp,Dict.get?_eraseWhere,Option.none_or]
    split
    · exact .inl ⟨rfl,trivial⟩
    · exact .inr stored

theorem attach_calculated_overwrites (s : LoomStore V) (address : Address) (channel : Int)
    (calculated : List (CalculatedDPSummary V)) :
    Overwrites s (attachChannelCalculatedDataPoints s address channel calculated)
      fun k => brings s k (.attachChannelCalculatedDataPoints address channel calculated) := by
  intro k current stored
  right
  unfold attachChannelCalculatedDataPoints brings
  cases s.calculatedFactory with
  | false => simpa using stored
  | true =>
    simp only [if_true]
    rw [foldl_last (attachCalculatedDataPoint address channel) (fun t => stamp t k)
      (fun dp => if k = (address,channel,dp.name) then some dp.modifiedAt else none),stored]
    · cases calculated.reverse.findSome?
        fun dp => if k = (address,channel,dp.name) then some dp.modifiedAt else none <;> rfl
    · intro t dp
      simp only [stamp,attachCalculatedDataPoint,Dict.get?_set]
      by_cases equal : k = (address,channel,dp.name) <;>
        simp [equal,Model.makeCalculatedDataPoint,Model.synthesizeSummary]

-- The two round trips compare before they write.
theorem guarded_no_older (s : LoomStore V) (key : DataPointKey) (f : Model.DataPoint V → Model.DataPoint V)
    (guarded : ∀ dp, s.dataPoints.get? key = some dp →
      refreshIsStale dp.summary.modifiedAt (f dp).summary.modifiedAt = false) :
    NoOlder s {s with dataPoints := s.dataPoints.modify key f} := by
  intro k known current stored next after
  obtain ⟨dp,found,rfl⟩ := Option.map_eq_some_iff.mp stored
  simp only [stamp,Dict.get?_modify,Option.mem_def] at after
  split at after
  · rename_i equal
    subst equal
    rw [found] at after
    cases after
    exact guarded dp found
  · rw [found] at after
    cases after
    exact stale_self _

theorem settle_no_older (s : LoomStore V) (key : DataPointKey) (summary : DataPointSummary V) :
    NoOlder s (settleDataPoint s key summary) := by
  unfold settleDataPoint
  split
  · exact (overwrites_exact (overwrites_same rfl)).mpr (by simp)
  · rename_i dp found
    split
    · exact (overwrites_exact (overwrites_same rfl)).mpr (by simp)
    · rename_i fresh
      refine guarded_no_older s key _ fun other same => ?_
      rw [found] at same
      cases same
      simpa [Model.DataPoint.replaceSummary,Model.DataPoint.clearValueOverride] using fresh

theorem settle_calculated_no_older (s : LoomStore V) (key : DataPointKey) (calculated : CalculatedDPSummary V) :
    NoOlder s (settleCalculatedDataPoint s key calculated) := by
  unfold settleCalculatedDataPoint
  split
  · exact (overwrites_exact (overwrites_same rfl)).mpr (by simp)
  · rename_i dp found
    split
    · exact (overwrites_exact (overwrites_same rfl)).mpr (by simp)
    · rename_i fresh
      refine guarded_no_older s key _ fun other same => ?_
      rw [found] at same
      cases same
      simp only [Model.DataPoint.applyCalculatedAvailability,Model.DataPoint.clearValueOverride]
      split <;> simpa [Model.DataPoint.replaceSummary] using fresh

theorem quiet_no_older {s t : LoomStore V} {op : Operation V} (effect : Overwrites s t fun _ => none)
    (quiet : ∀ k, brings s k op = none) : NoOlder s t ↔ BringsNoOlder s op := by
  unfold BringsNoOlder
  simp only [quiet]
  exact overwrites_exact effect

theorem push_no_older (s : LoomStore V) (push : Push V) :
    NoOlder s (applyPush s push) ↔ BringsNoOlder s (.push push) := by
  cases push with
  | valueChanged payload => exact overwrites_exact (value_changed_overwrites s payload)
  | deviceRemoved payload => exact quiet_no_older (removed_overwrites s payload) fun _ => rfl
  | _ => exact quiet_no_older (overwrites_same (unchanged (push_frame s _) LoomStore.dataPoints fun _ => rfl)) fun _ => rfl

theorem operation_no_older (s : LoomStore V) (op : Operation V) : NoOlder s (apply s op) ↔ BringsNoOlder s op := by
  cases op with
  | attachDeviceDetail detail => exact quiet_no_older (detail_overwrites s detail) fun _ => rfl
  | attachChannelDataPoints address channel dataPoints =>
    exact overwrites_exact (attach_data_points_overwrites s address channel dataPoints)
  | attachChannelCalculatedDataPoints address channel calculated =>
    exact overwrites_exact (attach_calculated_overwrites s address channel calculated)
  | push push => exact push_no_older s push
  | settleDataPoint key summary =>
    exact ⟨fun _ _ _ _ _ _ written => (by cases written),fun _ => settle_no_older s key summary⟩
  | settleCalculatedDataPoint key calculated =>
    exact ⟨fun _ _ _ _ _ _ written => (by cases written),fun _ => settle_calculated_no_older s key calculated⟩
  | _ => exact quiet_no_older (overwrites_same (unchanged (operation_frame s _) LoomStore.dataPoints fun _ => rfl)) fun _ => rfl

end LoomClient.Store
