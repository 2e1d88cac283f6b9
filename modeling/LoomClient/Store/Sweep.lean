import LoomClient.Store.ChannelIndex
import LoomClient.Store.Graph

namespace LoomClient.Store
open Lib Wire
variable {V : Type}

section Channels
variable (s : LoomStore V) (keys : List ChannelKey)

theorem dropped_channels :
    (keys.foldl dropChannel s).channels = s.channels.eraseWhere fun k => decide (k ∈ keys) := by
  have loop : (keys.foldl dropChannel s).channels = keys.foldl Dict.erase s.channels :=
    (List.foldl_hom LoomStore.channels fun _ _ => rfl).symm
  rw [loop,Dict.foldl_erase]
  exact Dict.eraseWhere_congr fun k _ => decide_eq_decide.mpr Iff.rfl

theorem dropped_data_points :
    (keys.foldl dropChannel s).dataPoints = s.dataPoints.eraseWhere fun k => decide (channelOf k ∈ keys) := by
  have loop : (keys.foldl dropChannel s).dataPoints =
      keys.foldl (fun d key => d.eraseWhere fun k => decide (channelOf k = key)) s.dataPoints :=
    (List.foldl_hom LoomStore.dataPoints fun _ _ => rfl).symm
  rw [loop,Dict.foldl_eraseWhere]
  refine Dict.eraseWhere_congr fun k _ => ?_
  rw [Bool.eq_iff_iff,List.any_eq_true]
  simp

end Channels

-- The store less everything under one address, the order of the rest included.
def channelsSwept (s : LoomStore V) (address : Address) : LoomStore V :=
  {s with
    channels := s.channels.eraseWhere fun k => decide (k.1 = address)
    dataPoints := s.dataPoints.eraseWhere fun k => decide (k.1 = address)
    calculatedDpKeys := s.calculatedDpKeys.filter fun k => k.1 ≠ address}

def customsSwept (s : LoomStore V) (address : Address) : LoomStore V :=
  {s with
    cdps := s.cdps.eraseWhere fun k => decide (k.1 = address)
    cdpByChannel := s.cdpByChannel.eraseWhere fun k => decide (k.1 = address)}

def swept (s : LoomStore V) (address : Address) : LoomStore V :=
  {customsSwept (channelsSwept s address) address with
    devices := s.devices.erase address
    weekProfileDps := s.weekProfileDps.erase address}

section Swept
variable {s : LoomStore V} {address : Address}

theorem drop_device_channels_sweeps (dataPoints : ∀ k ∈ s.dataPoints, channelOf k ∈ s.channels)
    (calculated : ∀ k ∈ s.calculatedDpKeys, k ∈ s.dataPoints) :
    dropDeviceChannels s address = channelsSwept s address := by
  let keys := s.channels.keys.filter fun k => k.1 = address
  have mem : ∀ k, k ∈ keys ↔ k ∈ s.channels ∧ k.1 = address := fun k => by
    simp only [keys,List.mem_filter,Dict.mem_keys,decide_eq_true_eq]
  have beside : besideChannelTree (keys.foldl dropChannel s) = besideChannelTree s := drop_channels_beside s keys
  have channels : (keys.foldl dropChannel s).channels = s.channels.eraseWhere fun k => decide (k.1 = address) := by
    rw [dropped_channels]
    refine Dict.eraseWhere_congr fun k stored => decide_eq_decide.mpr ?_
    rw [mem]
    exact and_iff_right stored
  have points : (keys.foldl dropChannel s).dataPoints = s.dataPoints.eraseWhere fun k => decide (k.1 = address) := by
    rw [dropped_data_points]
    refine Dict.eraseWhere_congr fun k stored => decide_eq_decide.mpr ?_
    rw [mem]
    exact and_iff_right (dataPoints k stored)
  have keys_left : (keys.foldl dropChannel s).calculatedDpKeys = s.calculatedDpKeys.filter fun k => k.1 ≠ address := by
    ext k
    rw [drop_channels_calculated,mem,Finset.mem_filter]
    refine and_congr_right fun listed => not_congr ?_
    have stored := calculated k listed
    exact (and_iff_right stored).trans (and_iff_right (dataPoints k stored))
  calc dropDeviceChannels s address
      = {besideChannelTree (keys.foldl dropChannel s) with
          channels := (keys.foldl dropChannel s).channels
          dataPoints := (keys.foldl dropChannel s).dataPoints
          calculatedDpKeys := (keys.foldl dropChannel s).calculatedDpKeys} := rfl
    _ = channelsSwept s address := by rw [beside,channels,points,keys_left]; rfl

theorem drop_device_cdps_sweeps (inStep : ChannelsInStep s) : dropDeviceCdps s address = customsSwept s address := by
  let keys := customsOf s address
  have mem : ∀ k, k ∈ keys ↔ k ∈ s.cdps ∧ k.1 = address := fun k => by
    simp only [keys,customsOf,List.mem_filter,Dict.mem_keys,decide_eq_true_eq]
  have indexed := drop_cdps_indexed s keys
  have beside : {keys.foldl dropCdp s with cdps := .empty, cdpByChannel := .empty} =
      {s with cdps := .empty, cdpByChannel := .empty} :=
    foldl_frame dropCdp (fun u => {u with cdps := .empty, cdpByChannel := .empty}) (fun u k => by
      unfold dropCdp
      split <;> rfl) s keys
  have cdps : (keys.foldl dropCdp s).cdps = s.cdps.eraseWhere fun k => decide (k.1 = address) := by
    refine (congrArg Indexed.entries indexed).trans ((Indexed.withdrawn_erases keys).trans ?_)
    refine Dict.eraseWhere_congr fun k stored => decide_eq_decide.mpr ?_
    rw [mem]
    exact and_iff_right stored
  have index : (keys.foldl dropCdp s).cdpByChannel = s.cdpByChannel.eraseWhere fun k => decide (k.1 = address) := by
    refine (congrArg Indexed.index indexed).trans ((Indexed.withdrawn_unplaces keys).trans ?_)
    refine Dict.eraseWhere_congr fun i stored => ?_
    rw [Bool.eq_iff_iff,List.any_eq_true,decide_eq_true_eq]
    constructor
    · rintro ⟨k,gone,placed⟩
      obtain ⟨cdp,_,same⟩ := (Option.any_eq_true _ _).mp placed
      rw [decide_eq_true_eq] at same
      exact (congrArg Prod.fst same).trans ((mem k).mp gone).2
    · rintro rfl
      obtain ⟨cdp,held⟩ := Dict.mem_iff_get?.mp stored
      obtain ⟨name,live,here⟩ := (inStep i.1 i.2 cdp).mp held
      refine ⟨(i.1,name),(mem _).mpr ⟨Dict.mem_of_get? live,rfl⟩,(Option.any_eq_true _ _).mpr ⟨cdp,live,?_⟩⟩
      exact decide_eq_true (Prod.ext rfl here.symm)
  calc dropDeviceCdps s address
      = {{keys.foldl dropCdp s with cdps := .empty, cdpByChannel := .empty} with
          cdps := (keys.foldl dropCdp s).cdps
          cdpByChannel := (keys.foldl dropCdp s).cdpByChannel} := rfl
    _ = customsSwept s address := by rw [beside,cdps,index]; rfl

theorem removed_sweeps (intact : Intact s) (inStep : ChannelsInStep s) (payload : DevicePayload) :
    applyDeviceRemoved s payload = swept s payload.deviceAddress := by
  let t : LoomStore V := {s with devices := s.devices.erase payload.deviceAddress}
  have channels : dropDeviceChannels t payload.deviceAddress = channelsSwept t payload.deviceAddress :=
    drop_device_channels_sweeps intact.dataPoints intact.calculated
  have same : ChannelsInStep (channelsSwept t payload.deviceAddress) ↔ ChannelsInStep s := channels_untouched rfl
  have customs : dropDeviceCdps (channelsSwept t payload.deviceAddress) payload.deviceAddress =
      customsSwept (channelsSwept t payload.deviceAddress) payload.deviceAddress :=
    drop_device_cdps_sweeps (same.mpr inStep)
  unfold applyDeviceRemoved
  dsimp only
  rw [channels,customs]
  rfl

end Swept

-- What a store has of an address, key by key: nothing at all, or what another has.
structure HoldsNothingOf (s : LoomStore V) (address : Address) : Prop where
  device : address ∉ s.devices
  channels : ∀ k ∈ s.channels, k.1 ≠ address
  dataPoints : ∀ k ∈ s.dataPoints, k.1 ≠ address
  calculated : ∀ k ∈ s.calculatedDpKeys, k.1 ≠ address
  cdps : ∀ k ∈ s.cdps, k.1 ≠ address
  cdpByChannel : ∀ k ∈ s.cdpByChannel, k.1 ≠ address
  weekProfiles : address ∉ s.weekProfileDps

structure SameOf (s t : LoomStore V) (address : Address) : Prop where
  device : t.devices.get? address = s.devices.get? address
  channels : ∀ k, k.1 = address → t.channels.get? k = s.channels.get? k
  dataPoints : ∀ k, k.1 = address → t.dataPoints.get? k = s.dataPoints.get? k
  calculated : ∀ k, k.1 = address → (k ∈ t.calculatedDpKeys ↔ k ∈ s.calculatedDpKeys)
  cdps : ∀ k, k.1 = address → t.cdps.get? k = s.cdps.get? k
  cdpByChannel : ∀ k, k.1 = address → t.cdpByChannel.get? k = s.cdpByChannel.get? k
  weekProfiles : t.weekProfileDps.get? address = s.weekProfileDps.get? address

theorem swept_holds_nothing (s : LoomStore V) (address : Address) : HoldsNothingOf (swept s address) address := by
  have away : ∀ {κ ν : Type} (d : Dict κ ν) (f : κ → Address), ∀ k ∈ d.eraseWhere (fun k => decide (f k = address)),
      f k ≠ address := fun d f k member => of_decide_eq_false (Dict.mem_eraseWhere.mp member).2
  constructor
  · exact fun member => (Dict.mem_erase.mp member).2 rfl
  · exact away s.channels Prod.fst
  · exact away s.dataPoints Prod.fst
  · exact fun k member => of_decide_eq_true (by simpa [swept,customsSwept,channelsSwept] using (Finset.mem_filter.mp member).2)
  · exact away s.cdps Prod.fst
  · exact away s.cdpByChannel Prod.fst
  · exact fun member => (Dict.mem_erase.mp member).2 rfl

theorem swept_same_of (s : LoomStore V) {address other : Address} (apart : other ≠ address) :
    SameOf s (swept s address) other := by
  have kept : ∀ {κ ν : Type} [DecidableEq κ] (d : Dict κ ν) (f : κ → Address) (k : κ), f k = other →
      (d.eraseWhere fun k => decide (f k = address)).get? k = d.get? k := by
    intro κ ν _ d f k there
    rw [Dict.get?_eraseWhere,if_neg]
    rw [decide_eq_true_eq,there]
    exact apart
  constructor
  · exact (Dict.get?_erase _ _ _).trans (if_neg apart)
  · exact kept s.channels Prod.fst
  · exact kept s.dataPoints Prod.fst
  · rintro k rfl
    exact Finset.mem_filter.trans (and_iff_left apart)
  · exact kept s.cdps Prod.fst
  · exact kept s.cdpByChannel Prod.fst
  · exact (Dict.get?_erase _ _ _).trans (if_neg apart)

theorem removal_complete_and_framed (s : LoomStore V) (payload : DevicePayload) (intact : Intact s)
    (inStep : ChannelsInStep s) :
    let t := applyDeviceRemoved s payload
    HoldsNothingOf t payload.deviceAddress ∧ (∀ other, other ≠ payload.deviceAddress → SameOf s t other) ∧
      besideRemoved t = besideRemoved s := by
  intro t
  have sweeps : t = swept s payload.deviceAddress := removed_sweeps intact inStep payload
  refine ⟨?_,fun other apart => ?_,removed_beside s payload⟩
  · rw [sweeps]
    exact swept_holds_nothing s payload.deviceAddress
  · rw [sweeps]
    exact swept_same_of s apart

-- The removed address begins one of the others and ends the other.
def stocking (address : Address) : List (Operation Nat) :=
  let device : DeviceSummary :=
    ⟨address,some "ccu","HmIP","ccu-HmIP","HmIP-BDT",address,true,1,false,false,false,false,⟨none,none,none,none⟩,⟨none,none⟩⟩
  let level : DataPointSummary Nat := ⟨"LEVEL",address ++ "_LEVEL",some 1,none,true,none,none,none,none,none,none,none,⟨true,true,true⟩,none⟩
  let calculated : CalculatedDPSummary Nat := ⟨"DEW_POINT",some "sensor",some 7,true,true,none,none,address ++ "_DEW_POINT"⟩
  [.attachDeviceDetail (device.withChannels [⟨address ++ ":1",1,none,none,none⟩]),
    .attachChannelDataPoints address 1 [level],.attachChannelCalculatedDataPoints address 1 [calculated],
    .attachCustomDataPoints address [lampAt "light" 1],
    .setWeekProfileDataPoint address ⟨9,address ++ "_WEEK",address,1,false,none⟩ false]

theorem nested_address_removed :
    let s : LoomStore Nat := (["A","AB","BA"].flatMap stocking).foldl apply (constructed 8 "ccu" "S" true true)
    let t := applyDeviceRemoved s ⟨"ccu","HmIP","A"⟩
    HoldsNothingOf t "A" ∧ (∀ other, other ≠ "A" → SameOf s t other) ∧ besideRemoved t = besideRemoved s :=
  removal_complete_and_framed ((["A","AB","BA"].flatMap stocking).foldl apply (constructed 8 "ccu" "S" true true))
    ⟨"ccu","HmIP","A"⟩ (by decide +kernel) (by decide +kernel)

end LoomClient.Store
