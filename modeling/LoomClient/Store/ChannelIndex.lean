import LoomClient.Lib.Indexed
import LoomClient.Store.InPlace
import LoomClient.Store.Records

namespace LoomClient.Store
open Lib Wire
variable {V : Type}

def getCustomDataPointByChannel (s : LoomStore V) (address : Address) (channelNo : Int) : Option (Model.CustomDataPoint V) :=
  s.cdpByChannel.get? (address,channelNo)

-- A custom data point is live under an address and a primary channel exactly when the index has it.
def ChannelsInStep (s : LoomStore V) : Prop := ∀ address channelNo cdp,
  getCustomDataPointByChannel s address channelNo = some cdp ↔
    ∃ name, s.cdps.get? (address,name) = some cdp ∧ cdp.summary.channelNo = channelNo

instance [DecidableEq V] (s : LoomStore V) : Decidable (ChannelsInStep s) :=
  decidable_of_iff
    ((∀ e ∈ s.cdpByChannel.entries, ∃ held ∈ s.cdps.entries,
        held.2 = e.2 ∧ held.1.1 = e.1.1 ∧ e.2.summary.channelNo = e.1.2) ∧
      ∀ held ∈ s.cdps.entries, s.cdpByChannel.get? (held.1.1,held.2.summary.channelNo) = some held.2) (by
    constructor
    · rintro ⟨listed,indexed⟩ address channelNo cdp
      constructor
      · intro found
        obtain ⟨⟨⟨_,name⟩,_⟩,live,rfl,rfl,here⟩ := listed ((address,channelNo),cdp) (Dict.mem_entries.mpr found)
        exact ⟨name,Dict.mem_entries.mp live,here⟩
      · rintro ⟨name,live,rfl⟩
        exact indexed ((address,name),cdp) (Dict.mem_entries.mpr live)
    · intro inStep
      constructor
      · rintro ⟨⟨address,channelNo⟩,cdp⟩ member
        obtain ⟨name,live,here⟩ := (inStep address channelNo cdp).mp (Dict.mem_entries.mp member)
        exact ⟨((address,name),cdp),Dict.mem_entries.mpr live,rfl,rfl,here⟩
      · rintro ⟨⟨address,name⟩,cdp⟩ member
        exact (inStep address _ cdp).mpr ⟨name,Dict.mem_entries.mp member,rfl⟩)

def customIndexing : Indexing CustomKey ChannelKey (Model.CustomDataPoint V) where
  ident := (·.oid)
  key cdp := (cdp.deviceAddress,cdp.summary.name)
  place key cdp := (key.1,cdp.summary.channelNo)

def customIndexed (s : LoomStore V) : Lib.Indexed CustomKey ChannelKey (Model.CustomDataPoint V) :=
  ⟨s.cdps,s.cdpByChannel,s.nextOid⟩

theorem reseed_address (summary : CustomDPSummary V) (cdp : Model.CustomDataPoint V) :
    (reseed summary cdp).deviceAddress = cdp.deviceAddress := by
  unfold reseed
  split <;> rfl

def customCatalogue (address : Address) : Catalogue (customIndexing (V := V)) (CustomDPSummary V) where
  key c := (address,c.name)
  place c := (address,c.channelNo)
  update := reseed
  build i c := .build i c address c.state
  ident_update := reseed_oid
  key_update c cdp same := by
    simp only [customIndexing,reseed_address,reseed_summary,Prod.mk.injEq] at same ⊢
    exact ⟨same.1,trivial⟩
  place_update c cdp := by simp only [customIndexing,reseed_summary]
  ident_build _ _ := rfl
  key_build _ _ := rfl
  place_build _ _ := rfl

theorem mutate_cdp_indexed (s : LoomStore V) (key : CustomKey) (f : Model.CustomDataPoint V → Model.CustomDataPoint V) :
    customIndexed (mutateCdp s key f) = Indexed.revise customIndexing (customIndexed s) key f := by
  unfold mutateCdp Indexed.revise customIndexed
  dsimp only
  cases s.cdps.get? key <;> rfl

theorem drop_cdp_indexed (s : LoomStore V) (key : CustomKey) :
    customIndexed (dropCdp s key) = Indexed.withdraw customIndexing (customIndexed s) key := by
  unfold dropCdp Indexed.withdraw customIndexed
  dsimp only
  cases s.cdps.get? key <;> rfl

theorem drop_cdps_indexed (s : LoomStore V) (keys : List CustomKey) :
    customIndexed (keys.foldl dropCdp s) = keys.foldl (Indexed.withdraw customIndexing) (customIndexed s) :=
  (List.foldl_hom customIndexed fun t key => (drop_cdp_indexed t key).symm).symm

theorem attach_custom_indexed (address : Address) (s : LoomStore V) (c : CustomDPSummary V) :
    customIndexed (attachCustomDataPoint address s c) =
      Indexed.attach (customCatalogue address) (customIndexed s) c := by
  cases found : s.cdps.get? (address,c.name) with
  | none =>
    have there : (customIndexed s).entries.get? ((customCatalogue address).key c) = none := found
    simp only [attachCustomDataPoint,found,Indexed.attach,there]
    rfl
  | some cdp =>
    have there : (customIndexed s).entries.get? ((customCatalogue address).key c) = some cdp := found
    have mutated := mutate_cdp_indexed s (address,c.name) (reseed c)
    simp only [attachCustomDataPoint,found,Indexed.attach,there]
    exact congrArg (fun x : Lib.Indexed CustomKey ChannelKey (Model.CustomDataPoint V) =>
      {x with index := x.index.set (address,c.channelNo) (reseed c cdp)}) mutated

theorem attach_customs_indexed (s : LoomStore V) (address : Address) (cdps : List (CustomDPSummary V)) :
    customIndexed (attachCustomDataPoints s address cdps) =
      Indexed.reload (customCatalogue address) (customIndexed s) (staleCdps s address cdps) cdps := by
  unfold attachCustomDataPoints Indexed.reload
  rw [←drop_cdps_indexed]
  exact (List.foldl_hom customIndexed fun t c => (attach_custom_indexed address t c).symm).symm

theorem channels_in_step_iff {s : LoomStore V} (unshared : Indexed.Unshared customIndexing (customIndexed s)) :
    ChannelsInStep s ↔ Indexed.InStep customIndexing (customIndexed s) := by
  have placed : ∀ (k : CustomKey) (cdp : Model.CustomDataPoint V) (address : Address) (channelNo : Int),
      (s.cdps.get? k = some cdp ∧ (k.1,cdp.summary.channelNo) = (address,channelNo)) ↔
        k.1 = address ∧ s.cdps.get? (address,k.2) = some cdp ∧ cdp.summary.channelNo = channelNo := by
    rintro ⟨a,name⟩ cdp address channelNo
    simp only [Prod.mk.injEq]
    constructor
    · rintro ⟨found,rfl,same⟩
      exact ⟨rfl,found,same⟩
    · rintro ⟨rfl,found,same⟩
      exact ⟨found,rfl,same⟩
  have reads : ChannelsInStep s ↔ ∀ i cdp, s.cdpByChannel.get? i = some cdp ↔
      ∃ k : CustomKey, s.cdps.get? k = some cdp ∧ (k.1,cdp.summary.channelNo) = i := by
    constructor
    · rintro exact_index ⟨address,channelNo⟩ cdp
      refine (exact_index address channelNo cdp).trans ⟨?_,?_⟩
      · rintro ⟨name,found,same⟩
        exact ⟨(address,name),(placed (address,name) cdp address channelNo).mpr ⟨rfl,found,same⟩⟩
      · rintro ⟨k,stands⟩
        exact ⟨k.2,((placed k cdp address channelNo).mp stands).2⟩
    · intro exact_index address channelNo cdp
      refine (exact_index (address,channelNo) cdp).trans ⟨?_,?_⟩
      · rintro ⟨k,stands⟩
        exact ⟨k.2,((placed k cdp address channelNo).mp stands).2⟩
      · rintro ⟨name,found,same⟩
        exact ⟨(address,name),(placed (address,name) cdp address channelNo).mpr ⟨rfl,found,same⟩⟩
  rw [reads]
  exact ⟨fun held => Indexed.in_step_of_exact (n := customIndexing) held,fun inStep i cdp => inStep.exact unshared i cdp⟩

-- No two custom data points share an address and a channel.
def Customs (s : LoomStore V) : Prop :=
  Indexed.Sound customIndexing (customIndexed s) ∧ Indexed.Unshared customIndexing (customIndexed s)

def DistinctAnswer : Operation V → Prop
  | .attachCustomDataPoints _ cdps => (cdps.map (·.name)).Nodup ∧ (cdps.map (·.channelNo)).Nodup
  | _ => True

def LeavesNoChannel (s : LoomStore V) : Operation V → Prop
  | .attachCustomDataPoints address cdps =>
    ∀ c ∈ cdps, ∀ held ∈ s.cdps.get? (address,c.name), held.summary.channelNo ∈ cdps.map (·.channelNo)
  | _ => True

instance (op : Operation V) : Decidable (DistinctAnswer op) := by
  induction op using Operation.casesOn <;> unfold DistinctAnswer <;> infer_instance
instance (s : LoomStore V) (op : Operation V) : Decidable (LeavesNoChannel s op) := by
  induction op using Operation.casesOn <;> unfold LeavesNoChannel <;> infer_instance

section Untouched
variable {s t : LoomStore V}

theorem customs_untouched (cdps : t.cdps = s.cdps) (counter : s.nextOid ≤ t.nextOid) (customs : Customs s) : Customs t :=
  ⟨customs.1.of_entries cdps counter,customs.2.of_entries cdps⟩

theorem channels_untouched (same : (t.cdps,t.cdpByChannel) = (s.cdps,s.cdpByChannel)) :
    ChannelsInStep t ↔ ChannelsInStep s := by
  obtain ⟨cdps,index⟩ := Prod.mk.inj same
  unfold ChannelsInStep getCustomDataPointByChannel
  rw [cdps,index]

end Untouched

section Restated
variable {s : LoomStore V} (key : CustomKey) (state : Dict String V)

theorem restated_customs (customs : Customs s) : Customs (mutateCdp s key (·.replaceState state)) := by
  unfold Customs
  rw [mutate_cdp_indexed]
  exact ⟨Indexed.revise_sound (fun _ => rfl) (fun _ same => same) customs.1,
    Indexed.revise_unshared (fun _ => rfl) customs.2⟩

theorem restated_in_step (customs : Customs s) (inStep : ChannelsInStep s) :
    ChannelsInStep (mutateCdp s key (·.replaceState state)) := by
  rw [channels_in_step_iff (restated_customs key state customs).2,mutate_cdp_indexed]
  rw [channels_in_step_iff customs.2] at inStep
  exact Indexed.revise_in_step (fun _ same => same) (fun _ => rfl) customs.1 inStep

end Restated

section Removed
variable {s : LoomStore V} (payload : DevicePayload)

def customsOf (s : LoomStore V) (address : Address) : List CustomKey := s.cdps.keys.filter fun k => k.1 = address

theorem removed_indexed : customIndexed (applyDeviceRemoved s payload) =
    (customsOf s payload.deviceAddress).foldl (Indexed.withdraw customIndexing) (customIndexed s) := by
  let t := dropDeviceChannels {s with devices := s.devices.erase payload.deviceAddress} payload.deviceAddress
  have frame := drop_device_channels_beside {s with devices := s.devices.erase payload.deviceAddress} payload.deviceAddress
  have same : customIndexed t = customIndexed s := unchanged frame customIndexed fun _ => rfl
  have keys : customsOf t payload.deviceAddress = customsOf s payload.deviceAddress :=
    unchanged frame (fun u => customsOf u payload.deviceAddress) fun _ => rfl
  rw [←keys,←same]
  exact drop_cdps_indexed t (customsOf t payload.deviceAddress)

theorem removed_customs (customs : Customs s) : Customs (applyDeviceRemoved s payload) := by
  unfold Customs
  rw [removed_indexed]
  exact ⟨Indexed.withdrawn_sound _ customs.1,Indexed.withdrawn_unshared _ customs.2⟩

theorem removed_in_step (customs : Customs s) (inStep : ChannelsInStep s) :
    ChannelsInStep (applyDeviceRemoved s payload) := by
  rw [channels_in_step_iff (removed_customs payload customs).2,removed_indexed]
  rw [channels_in_step_iff customs.2] at inStep
  refine (Indexed.withdrawn_in_step_iff _ inStep).mpr fun k gone cdp found k' cdp' found' same => ?_
  have alike : k = k' := customs.2 k k' cdp cdp' found found' same.symm
  exact alike ▸ gone

end Removed

section Answered
variable {s : LoomStore V} {address : Address} {cdps : List (CustomDPSummary V)}

theorem stale_customs_mem (k : CustomKey) :
    k ∈ staleCdps s address cdps ↔ k ∈ s.cdps ∧ k.1 = address ∧ k ∉ cdps.map (customCatalogue address).key := by
  have listed : k.1 = address → (k ∈ cdps.map (customCatalogue address).key ↔ k.2 ∈ cdps.map (·.name)) := by
    intro here
    obtain ⟨a,name⟩ := k
    obtain rfl : a = address := here
    simp [customCatalogue]
  simp only [staleCdps,List.mem_filter,Dict.mem_keys,decide_eq_true_eq]
  constructor
  · rintro ⟨known,here,gone⟩
    exact ⟨known,here,fun member => gone ((listed here).mp member)⟩
  · rintro ⟨known,here,gone⟩
    exact ⟨known,here,fun member => gone ((listed here).mpr member)⟩

theorem answered_customs (channels : (cdps.map (·.channelNo)).Nodup) (customs : Customs s) :
    Customs (attachCustomDataPoints s address cdps) := by
  have places : (cdps.map (customCatalogue address).place).Nodup := by
    have paired := channels.map (f := fun channelNo => (address,channelNo)) fun _ _ same => (Prod.mk.inj same).2
    rwa [List.map_map] at paired
  unfold Customs
  rw [attach_customs_indexed]
  refine ⟨Indexed.reload_sound customs.1,Indexed.reload_unshared places customs.2 fun k cdp found stays unlisted member => ?_⟩
  obtain ⟨c,_,same⟩ := List.mem_map.mp member
  have here : address = k.1 := congrArg Prod.fst same
  exact stays ((stale_customs_mem k).mpr ⟨Dict.mem_of_get? found,here.symm,unlisted⟩)

theorem answered_in_step_iff (names : (cdps.map (·.name)).Nodup) (channels : (cdps.map (·.channelNo)).Nodup)
    (customs : Customs s) (inStep : ChannelsInStep s) :
    ChannelsInStep (attachCustomDataPoints s address cdps) ↔ LeavesNoChannel s (.attachCustomDataPoints address cdps) := by
  have places : (cdps.map (customCatalogue address).place).Nodup := by
    have paired := channels.map (f := fun channelNo => (address,channelNo)) fun _ _ same => (Prod.mk.inj same).2
    rwa [List.map_map] at paired
  have keys : (cdps.map (customCatalogue address).key).Nodup := by
    have paired := names.map (f := fun name => (address,name)) fun _ _ same => (Prod.mk.inj same).2
    rwa [List.map_map] at paired
  rw [channels_in_step_iff (answered_customs channels customs).2,attach_customs_indexed]
  rw [channels_in_step_iff customs.2] at inStep
  rw [Indexed.reload_in_step_iff customs.1 inStep]
  · rw [and_iff_right (Indexed.agrees_of_distinct keys places)]
    constructor
    · intro covers c listed held found
      have member : (address,c.name) ∈ cdps.map (customCatalogue address).key := List.mem_map.mpr ⟨c,listed,rfl⟩
      rcases covers (address,c.name) held found member with occupied | ⟨k,gone,cdp,stored,same⟩
      · obtain ⟨r,inside,at_place⟩ := List.mem_map.mp occupied
        exact List.mem_map.mpr ⟨r,inside,congrArg Prod.snd at_place⟩
      · obtain rfl := customs.2 k (address,c.name) cdp held stored found same
        exact absurd member ((stale_customs_mem _).mp gone).2.2
    · intro leaves k held found member
      obtain ⟨c,listed,rfl⟩ := List.mem_map.mp member
      obtain ⟨r,inside,same⟩ := List.mem_map.mp (leaves c listed held found)
      exact .inl (List.mem_map.mpr ⟨r,inside,congrArg (Prod.mk address) same⟩)
  · intro k cdp k' cdp' found found' same within
    obtain rfl := customs.2 k k' cdp cdp' found found' same
    exact within

end Answered

def customMaps (s : LoomStore V) : Dict CustomKey (Model.CustomDataPoint V) × Dict ChannelKey (Model.CustomDataPoint V) :=
  (s.cdps,s.cdpByChannel)

def Indexes (s t : LoomStore V) (guard : Prop) : Prop :=
  Customs t ∧ (ChannelsInStep s → (ChannelsInStep t ↔ guard))

theorem indexes_of_same {s t : LoomStore V} (counter : s.nextOid ≤ t.nextOid) (customs : Customs s)
    (same : customMaps t = customMaps s) : Indexes s t True := by
  refine ⟨customs_untouched (congrArg Prod.fst same) counter customs,fun inStep => ?_⟩
  rw [channels_untouched same]
  exact iff_of_true inStep trivial

theorem indexes_of_restated {s : LoomStore V} (key : CustomKey) (state : Dict String V) (customs : Customs s) :
    Indexes s (mutateCdp s key (·.replaceState state)) True :=
  ⟨restated_customs key state customs,fun inStep => iff_of_true (restated_in_step key state customs inStep) trivial⟩

theorem operation_indexes (s : LoomStore V) (op : Operation V) (distinct : DistinctAnswer op) (customs : Customs s) :
    Indexes s (apply s op) (LeavesNoChannel s op) := by
  have same := indexes_of_same (operation_counter s op) customs
  have outside := fun other => same (unchanged (operation_elsewhere s op other) customMaps fun _ => rfl)
  cases op with
  | attachCustomDataPoints address cdps =>
    exact ⟨answered_customs distinct.2 customs,answered_in_step_iff distinct.1 distinct.2 customs⟩
  | settleCustomDataPoint key generation state =>
    change Indexes s (settleCustomDataPoint s key generation state) True
    unfold settleCustomDataPoint
    split
    · split
      · exact indexes_of_restated key _ customs
      · exact indexes_of_same (Nat.le_refl _) customs rfl
    · exact indexes_of_same (Nat.le_refl _) customs rfl
  | attachAlarmPanels panels => exact same (unchanged (attach_panels_beside s panels) customMaps fun _ => rfl)
  | push push =>
    cases push with
    | customStateChanged payload => exact indexes_of_restated _ payload.state customs
    | deviceRemoved payload =>
      exact ⟨removed_customs payload customs,fun inStep => iff_of_true (removed_in_step payload customs inStep) trivial⟩
    | alarmPanelChanged payload => exact same (unchanged (panel_changed_beside s payload) customMaps fun _ => rfl)
    | _ => exact outside rfl
  | _ => exact outside rfl

theorem constructed_customs (maxDevices : Nat) (centralName serialSuffix : String) (calculatedFactory programFactory : Bool) :
    Customs (constructed maxDevices centralName serialSuffix calculatedFactory programFactory : LoomStore V) := by
  refine ⟨⟨?_,?_,?_⟩,?_⟩
  · exact fun _ _ found => nomatch found
  · exact fun _ _ found => nomatch found
  · exact fun _ _ _ _ found => nomatch found
  · exact fun _ _ _ _ found => nomatch found

theorem channels_in_step_iff_none_left (maxDevices : Nat) (centralName serialSuffix : String)
    (calculatedFactory programFactory : Bool) (ops : List (Operation V)) (distinct : ∀ op ∈ ops, DistinctAnswer op) :
    let s : LoomStore V := constructed maxDevices centralName serialSuffix calculatedFactory programFactory
    Always perform ChannelsInStep s ops ↔ Every perform (fun s op _ => LeavesNoChannel s op) s ops := by
  refine always_iff_every_among DistinctAnswer Customs ?_ ?_ distinct (constructed_customs _ _ _ _ _) ?_
  · intro s op t allowed customs moved
    cases moved
    exact (operation_indexes s op allowed customs).1
  · intro s op t allowed customs inStep moved
    cases moved
    exact (operation_indexes s op allowed customs).2 inStep
  · intro address channelNo cdp
    constructor
    · exact fun found => nomatch found
    · rintro ⟨_,found,_⟩
      cases found

-- Two points of a device exchange their channels: both channels stay occupied.
def lampAt (name : String) (channelNo : Int) : CustomDPSummary Nat := ⟨name,"light",channelNo,none,none,name,none⟩

theorem exchanged_channels_in_step :
    let s : LoomStore Nat := constructed 8 "ccu" "S" true true
    let ops : List (Operation Nat) := [.attachCustomDataPoints "A" [lampAt "X" 1,lampAt "Y" 2],
      .attachCustomDataPoints "A" [lampAt "X" 2,lampAt "Y" 1]]
    Always perform ChannelsInStep s ops :=
  (channels_in_step_iff_none_left 8 "ccu" "S" true true _ (by decide +kernel)).mpr (by decide +kernel)

-- A point that moves to a free channel is still found where it was.
theorem moved_point_left_behind :
    let s : LoomStore Nat := constructed 8 "ccu" "S" true true
    let ops : List (Operation Nat) := [.attachCustomDataPoints "A" [lampAt "X" 1],.attachCustomDataPoints "A" [lampAt "X" 2]]
    (∀ op ∈ ops, DistinctAnswer op) ∧ ¬ Always perform ChannelsInStep s ops := by
  intro s ops
  refine ⟨by decide +kernel,fun always => ?_⟩
  have last : ChannelsInStep (ops.foldl apply s) := run_always always (run_total apply s ops)
  have left : getCustomDataPointByChannel (ops.foldl apply s) "A" 1 = some (.build 0 (lampAt "X" 2) "A" none) := by
    decide +kernel
  obtain ⟨_,_,here⟩ := (last "A" 1 _).mp left
  exact absurd here (by decide)

end LoomClient.Store
