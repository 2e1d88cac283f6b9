import LoomClient.Store.InPlace

namespace LoomClient.Store
open Lib Wire
variable {V : Type}

structure Placed (s : LoomStore V) : Prop where
  place : ∀ k dp, s.dataPoints.get? k = some dp → dp.deviceAddress = k.1 ∧ dp.channelNumber = k.2.1
  below : ∀ k dp, s.dataPoints.get? k = some dp → dp.oid < s.nextOid
  apart : ∀ k l dp other, s.dataPoints.get? k = some dp → s.dataPoints.get? l = some other → dp.oid = other.oid → k = l

def placeOf (dp : Model.DataPoint V) : Model.Oid × Address × Int := (dp.oid,dp.deviceAddress,dp.channelNumber)

def KeptFrom (s t : LoomStore V) : Prop :=
  ∀ k dp, t.dataPoints.get? k = some dp → ∃ old, s.dataPoints.get? k = some old ∧ placeOf dp = placeOf old

section Kept
variable {s t u : LoomStore V}

theorem kept_trans (first : KeptFrom s t) (second : KeptFrom t u) : KeptFrom s u := by
  intro k dp found
  obtain ⟨middle,there,same⟩ := second k dp found
  obtain ⟨old,before,earlier⟩ := first k middle there
  exact ⟨old,before,same.trans earlier⟩

theorem kept_same (same : t.dataPoints = s.dataPoints) : KeptFrom s t := by
  intro k dp found
  exact ⟨dp,same ▸ found,rfl⟩

theorem kept_erased (p : DataPointKey → Bool) (erased : t.dataPoints = s.dataPoints.eraseWhere p) : KeptFrom s t := by
  intro k dp found
  rw [erased,Dict.get?_eraseWhere] at found
  split at found
  · cases found
  · exact ⟨dp,found,rfl⟩

theorem kept_modified {f : Model.DataPoint V → Model.DataPoint V} (key : DataPointKey) (place : ∀ dp, placeOf (f dp) = placeOf dp) :
    KeptFrom s {s with dataPoints := s.dataPoints.modify key f} := by
  intro k dp found
  simp only [Dict.get?_modify] at found
  split at found
  · obtain ⟨old,before,rfl⟩ := Option.map_eq_some_iff.mp found
    rename_i here
    exact ⟨old,before,place old⟩
  · exact ⟨dp,found,rfl⟩

theorem kept_dropped (s : LoomStore V) (keys : List ChannelKey) : KeptFrom s (keys.foldl dropChannel s) := by
  refine List.foldlRecOn keys dropChannel (kept_same rfl) fun t kept key _ => ?_
  exact kept_trans kept (kept_erased (fun k => decide (channelOf k = key)) rfl)

theorem placed_of_kept (placed : Placed s) (kept : KeptFrom s t) (counter : s.nextOid ≤ t.nextOid) : Placed t where
  place := by
    intro k dp found
    obtain ⟨old,before,same⟩ := kept k dp found
    obtain ⟨_,address,channel⟩ : dp.oid = old.oid ∧ dp.deviceAddress = old.deviceAddress ∧ dp.channelNumber = old.channelNumber := by
      simpa [placeOf] using same
    rw [address,channel]
    exact placed.place k old before
  below := by
    intro k dp found
    obtain ⟨old,before,same⟩ := kept k dp found
    have oid : dp.oid = old.oid := congrArg Prod.fst same
    rw [oid]
    exact (placed.below k old before).trans_le counter
  apart := by
    intro k l dp other found there equal
    obtain ⟨old,before,same⟩ := kept k dp found
    obtain ⟨old',before',same'⟩ := kept l other there
    refine placed.apart k l old old' before before' ?_
    exact (congrArg Prod.fst same).symm.trans (equal.trans (congrArg Prod.fst same'))

theorem placed_of_new {dp : Model.DataPoint V} (placed : Placed s) (new : placeOf dp = (s.nextOid,key.1,key.2.1))
    (stored : t.dataPoints = s.dataPoints.set key dp) (counter : t.nextOid = s.nextOid + 1) : Placed t := by
  simp only [placeOf,Prod.mk.injEq] at new
  obtain ⟨oid,address,channel⟩ := new
  have cases_of : ∀ k other, t.dataPoints.get? k = some other → (k = key ∧ other = dp) ∨ s.dataPoints.get? k = some other := by
    intro k other found
    rw [stored,Dict.get?_set] at found
    split at found
    · rename_i here
      exact .inl ⟨here,(Option.some.inj found).symm⟩
    · exact .inr found
  refine ⟨fun k other found => ?_,fun k other found => ?_,fun k l first second found there equal => ?_⟩
  · rcases cases_of k other found with ⟨rfl,rfl⟩ | before
    · exact ⟨address,channel⟩
    · exact placed.place k other before
  · rw [counter]
    rcases cases_of k other found with ⟨rfl,rfl⟩ | before
    · rw [oid]
      exact Nat.lt_succ_self _
    · exact Nat.lt_succ_of_lt (placed.below k other before)
  · rcases cases_of k first found with ⟨rfl,rfl⟩ | before <;> rcases cases_of l second there with ⟨rfl,rfl⟩ | before'
    · rfl
    · have below := placed.below l second before'
      rw [← equal,oid] at below
      exact absurd below (Nat.lt_irrefl _)
    · have below := placed.below k first before
      rw [equal,oid] at below
      exact absurd below (Nat.lt_irrefl _)
    · exact placed.apart k l first second before before' equal

theorem attach_data_point_placed (address : Address) (channel : Int) (summary : DataPointSummary V) (placed : Placed s) :
    Placed (attachDataPoint address channel s summary) := by
  unfold attachDataPoint
  dsimp only
  split
  · exact placed_of_kept placed (kept_modified _ fun _ => rfl) (Nat.le_refl _)
  · exact placed_of_new placed rfl rfl rfl

theorem detail_kept (s : LoomStore V) (detail : DeviceDetail) : KeptFrom s (attachDeviceDetail s detail) := by
  cases allowed : canAdmitDevice s detail.address with
  | false => exact kept_same (by rw [detail_refused allowed])
  | true =>
    obtain ⟨t,frame,_,same⟩ := detail_parts allowed
    have filled := unchanged (upsert_channels_beside t detail.channels) LoomStore.dataPoints fun _ => rfl
    have before := unchanged frame LoomStore.dataPoints fun _ => rfl
    rw [same]
    exact kept_trans (kept_same (filled.trans before)) (kept_dropped _ _)

theorem removed_kept (s : LoomStore V) (payload : DevicePayload) : KeptFrom s (applyDeviceRemoved s payload) := by
  let t : LoomStore V := {s with devices := s.devices.erase payload.deviceAddress}
  have dropped : KeptFrom t (dropDeviceChannels t payload.deviceAddress) := kept_dropped t _
  have rest : KeptFrom (dropDeviceChannels t payload.deviceAddress) (applyDeviceRemoved s payload) :=
    kept_same (unchanged (drop_device_cdps_beside _ payload.deviceAddress) LoomStore.dataPoints fun _ => rfl)
  exact kept_trans (kept_same rfl) (kept_trans dropped rest)

theorem push_kept (s : LoomStore V) (push : Push V) : KeptFrom s (applyPush s push) := by
  cases push with
  | valueChanged payload => exact kept_modified _ fun _ => rfl
  | deviceRemoved payload => exact removed_kept s payload
  | _ => exact kept_same (unchanged (push_frame s _) LoomStore.dataPoints fun _ => rfl)

theorem operation_placed (op : Operation V) (placed : Placed s) : Placed (apply s op) := by
  have of_kept : KeptFrom s (apply s op) → Placed (apply s op) := fun kept => placed_of_kept placed kept (operation_counter s op)
  cases op with
  | attachDeviceDetail detail => exact of_kept (detail_kept s detail)
  | attachChannelDataPoints address channel dataPoints =>
    have first : Placed {s with dataPoints := s.dataPoints.eraseWhere (staleDataPoint s address channel dataPoints)} :=
      placed_of_kept placed (kept_erased _ rfl) (Nat.le_refl _)
    exact List.foldlRecOn dataPoints _ first fun t kept dp _ => attach_data_point_placed address channel dp kept
  | attachChannelCalculatedDataPoints address channel calculated =>
    simp only [apply,attachChannelCalculatedDataPoints]
    split
    · exact List.foldlRecOn calculated _ placed fun t kept c _ => placed_of_new kept rfl rfl rfl
    · exact placed
  | push push => exact of_kept (push_kept s push)
  | settleDataPoint key summary =>
    apply of_kept
    simp only [apply,settleDataPoint]
    split
    · exact kept_same rfl
    · split
      · exact kept_same rfl
      · exact kept_modified _ fun _ => rfl
  | settleCalculatedDataPoint key calculated =>
    apply of_kept
    simp only [apply,settleCalculatedDataPoint]
    split
    · exact kept_same rfl
    · split
      · exact kept_same rfl
      · refine kept_modified key fun dp => ?_
        unfold Model.DataPoint.applyCalculatedAvailability
        split <;> rfl
  | _ => exact of_kept (kept_same (unchanged (operation_frame s _) LoomStore.dataPoints fun _ => rfl))

theorem constructed_placed (maxDevices : Nat) (centralName serialSuffix : String) (calculatedFactory programFactory : Bool) :
    Placed (constructed maxDevices centralName serialSuffix calculatedFactory programFactory : LoomStore V) where
  place := fun _ _ found => by cases found
  below := fun _ _ found => by cases found
  apart := fun _ _ _ _ found => by cases found

end Kept

end LoomClient.Store
