import LoomClient.Client.Rebuild

namespace LoomClient.Client
open Lib Wire Store Compat
variable {V : Type}

-- Each record is the last one written, whatever the store held.
section Graph
variable {i : Inventory V} {s : LoomStore V}

def deviceWritten (a : Address) (d : DeviceSummary) :
    Option (DeviceSummary × Option DeviceFirmware × Option DeviceAvailability) :=
  if d.address = a then some (d,some d.firmware,some d.availability) else none

def channelWritten (i : Inventory V) (k : ChannelKey) : Option ChannelSummary :=
  lastWritten channelKey k ((i.channels k.1).map (·.toChannelSummary))

def dataPointWritten (i : Inventory V) (k : DataPointKey) : Option (DataPointSummary V) :=
  lastWritten (fun dp => (k.1,k.2.1,dp.parameter)) k (i.dataPoints k.1 k.2.1)

theorem nested_device_record (known : summary.address ∈ s.devices) (a : Address) :
    deviceRecord (i.attachNested s summary) a = (deviceWritten a summary).or (deviceRecord s a) := by
  rw [attach_nested_eq,unchanged (parameters_beside _ _) (deviceRecord · a) fun _ => rfl,
    detail_device_record (nested_allowed known)]
  unfold deviceWritten
  by_cases same : summary.address = a
  · rw [if_pos same]
    exact if_pos same.symm
  · rw [if_neg same]
    exact if_neg (Ne.symm same)

theorem graphed_device_record (held : ∀ a, i.HasDevice a → a ∈ s.devices) (a : Address) :
    deviceRecord (graphed i s) a =
      (i.snapshot.devices.reverse.findSome? (deviceWritten a)).or (deviceRecord s a) := by
  refine foldl_last_of i.attachNested (fun t => ∀ a, i.HasDevice a → a ∈ t.devices) (deviceRecord · a) _ _ ?_ ?_ s held
  · intro t summary listed full b has
    exact (nested_devices (full summary.address (List.mem_map_of_mem listed)) b).mpr (full b has)
  · intro t summary listed full
    exact nested_device_record (full summary.address (List.mem_map_of_mem listed)) a

theorem channel_record_hit (listed : summary ∈ i.snapshot.devices) (known : summary.address ∈ s.devices)
    (here : k.1 = summary.address) (number : k.2 ∈ i.numbers k.1) :
    channelRecord (i.attachNested s summary) k = channelWritten i k := by
  have stays : ¬ unlisted (nestedDetail i summary) k :=
    fun gone => ((unlisted_nested k).mp gone).2 (here ▸ number)
  obtain ⟨c,member,same⟩ := (listed_key listed k).mpr ⟨here,here ▸ number⟩
  obtain ⟨last,found⟩ := last_written_some channelKey ⟨c,member,same.symm⟩
  rw [attach_nested_eq,unchanged (parameters_beside _ _) (channelRecord · k) fun _ => rfl,
    detail_channel_record (nested_allowed known) k stays,found,Option.some_or,channelWritten,here]
  exact found.symm

theorem channel_record_miss (listed : summary ∈ i.snapshot.devices) (known : summary.address ∈ s.devices)
    (elsewhere : k.1 ≠ summary.address) : channelRecord (i.attachNested s summary) k = channelRecord s k := by
  have stays : ¬ unlisted (nestedDetail i summary) k := fun gone => elsewhere ((unlisted_nested k).mp gone).1
  have none := last_written_none channelKey k (nestedDetail i summary).channels
    fun c member same => elsewhere ((listed_key listed k).mp ⟨c,member,same.symm⟩).1
  rw [attach_nested_eq,unchanged (parameters_beside _ _) (channelRecord · k) fun _ => rfl,
    detail_channel_record (nested_allowed known) k stays,none,Option.none_or]

theorem parameters_record_other (address : Address) (channels : List (Wire.Channel V)) (k : DataPointKey)
    (elsewhere : k.1 ≠ address) :
    dataPointRecord (channels.foldl (attachParameters i address) s) k = dataPointRecord s k := by
  refine foldl_frame _ (dataPointRecord · k) (fun t c => ?_) s channels
  have miss : channelOf k ≠ (address,c.number) := fun same => elsewhere (congrArg Prod.fst same)
  have none := last_written_none (fun dp => (address,c.number,dp.parameter)) k (i.dataPoints address c.number)
    fun dp _ same => elsewhere (congrArg Prod.fst same).symm
  rw [attachParameters,data_points_written t address c.number _ k (parameter_fresh miss),none,Option.none_or]

theorem parameters_record_own (k : DataPointKey) (number : k.2.1 ∈ i.numbers k.1) (listed : i.HasParameter k) :
    dataPointRecord ((i.channels k.1).foldl (attachParameters i k.1) s) k = dataPointWritten i k := by
  obtain ⟨channel,member,same⟩ := List.mem_map.mp number
  obtain ⟨dp,carried,parameter⟩ := List.mem_map.mp listed
  obtain ⟨last,found⟩ := last_written_some (fun dp : DataPointSummary V => (k.1,k.2.1,dp.parameter)) (k := k)
    ⟨dp,carried,by rw [parameter]⟩
  refine foldl_settled (fun _ => True) (fun t => dataPointRecord t k = dataPointWritten i k)
    (fun c : Wire.Channel V => c.number = k.2.1) ?_ ?_ (.inl ⟨trivial,channel,member,same⟩)
  · intro t c _ hit _
    have fresh : staleDataPoint t k.1 c.number (i.dataPoints k.1 c.number) k = false := by
      rw [hit]
      simp only [staleDataPoint,Bool.and_eq_false_iff,decide_eq_false_iff_not,not_not]
      exact .inl (.inr listed)
    rw [attachParameters,data_points_written t k.1 c.number _ k fresh,hit,found,Option.some_or]
    exact found.symm
  · intro t c _ miss
    refine ⟨fun _ => trivial,fun known => ?_⟩
    have other : channelOf k ≠ (k.1,c.number) := fun same => miss (congrArg Prod.snd same).symm
    have none := last_written_none (fun dp : DataPointSummary V => (k.1,c.number,dp.parameter)) k
      (i.dataPoints k.1 c.number) fun dp _ same => other (congrArg channelOf same).symm
    rw [attachParameters,data_points_written t k.1 c.number _ k (parameter_fresh other),none,Option.none_or,known]

theorem data_point_record_hit (listed : i.HasParameter k)
    (here : k.1 = summary.address) (number : k.2.1 ∈ i.numbers k.1) :
    dataPointRecord (i.attachNested s summary) k = dataPointWritten i k := by
  rw [attach_nested_eq,←here]
  exact parameters_record_own k number listed

theorem data_point_record_miss (known : summary.address ∈ s.devices) (elsewhere : k.1 ≠ summary.address) :
    dataPointRecord (i.attachNested s summary) k = dataPointRecord s k := by
  have stays : ¬ unlisted (nestedDetail i summary) (channelOf k) :=
    fun gone => elsewhere ((unlisted_nested (channelOf k)).mp gone).1
  rw [attach_nested_eq,parameters_record_other _ _ k elsewhere,
    detail_data_point_record (nested_allowed known) k stays]

theorem graphed_record (held : ∀ a, i.HasDevice a → a ∈ s.devices) {τ : Type} (observe : LoomStore V → τ)
    (address : Address) (result : τ) (own : i.HasDevice address)
    (hit : ∀ t summary, summary ∈ i.snapshot.devices → summary.address ∈ t.devices → address = summary.address →
      observe (i.attachNested t summary) = result)
    (miss : ∀ t summary, summary ∈ i.snapshot.devices → summary.address ∈ t.devices → address ≠ summary.address →
      observe (i.attachNested t summary) = observe t) : observe (graphed i s) = result := by
  obtain ⟨summary,member,same⟩ := List.mem_map.mp own
  refine (foldl_settled (fun t : LoomStore V => ∀ a, i.HasDevice a → a ∈ t.devices)
    (fun t : LoomStore V => (∀ a, i.HasDevice a → a ∈ t.devices) ∧ observe t = result)
    (fun summary : DeviceSummary => address = summary.address) ?_ ?_ (.inl ⟨held,summary,member,same.symm⟩)).2
  · intro t summary listed here known
    have full := known.elim id And.left
    have stored := full summary.address (List.mem_map_of_mem listed)
    exact ⟨fun a has => (nested_devices stored a).mpr (full a has),hit t summary listed stored here⟩
  · intro t summary listed elsewhere
    constructor
    · intro full a has
      exact (nested_devices (full summary.address (List.mem_map_of_mem listed)) a).mpr (full a has)
    · intro ⟨full,wrote⟩
      have stored := full summary.address (List.mem_map_of_mem listed)
      exact ⟨fun a has => (nested_devices stored a).mpr (full a has),
        (miss t summary listed stored elsewhere).trans wrote⟩

theorem graphed_channel_record (held : ∀ a, i.HasDevice a → a ∈ s.devices) (own : i.HasChannel k) :
    channelRecord (graphed i s) k = channelWritten i k :=
  graphed_record held (channelRecord · k) k.1 _ own.1
    (fun _ _ listed known here => channel_record_hit listed known here own.2)
    (fun _ _ listed known elsewhere => channel_record_miss listed known elsewhere)

theorem graphed_data_point_record (held : ∀ a, i.HasDevice a → a ∈ s.devices) (own : i.HasDataPoint k) :
    dataPointRecord (graphed i s) k = dataPointWritten i k :=
  graphed_record held (dataPointRecord · k) k.1 _ own.1.1
    (fun _ _ _ _ here => data_point_record_hit own.2 here own.1.2)
    (fun _ _ _ known elsewhere => data_point_record_miss known elsewhere)

end Graph

section Catalogue
variable {i : Inventory V} {s : LoomStore V}

def besideCatalogue (s : LoomStore V) : LoomStore V :=
  {s with
    dataPoints := .empty
    calculatedDpKeys := ∅
    cdps := .empty
    cdpByChannel := .empty
    nextOid := 0}

theorem attach_customs_frame (address : Address) : besideCdps (i.attachCustoms s address) = besideCdps s := by
  unfold Inventory.attachCustoms
  split
  · rfl
  · exact attach_customs_beside s address _

theorem attach_calculated_frame (address : Address) (channel : Int) :
    besideDataPoints (i.attachCalculated address s channel) = besideDataPoints s := by
  unfold Inventory.attachCalculated
  split
  · rfl
  · exact attach_calculated_beside s address channel _

theorem calculated_loop_frame (address : Address) (channels : List Int) :
    besideDataPoints (channels.foldl (i.attachCalculated address) s) = besideDataPoints s :=
  foldl_frame _ besideDataPoints (fun _ channel => attach_calculated_frame address channel) s channels

theorem catalogue_frame (i : Inventory V) (s : LoomStore V) (address : Address) :
    besideCatalogue (i.attachCatalogue s address) = besideCatalogue s :=
  (unchanged (calculated_loop_frame address _) besideCatalogue fun _ => rfl).trans
    (unchanged (attach_customs_frame address) besideCatalogue fun _ => rfl)

theorem catalogues_frame (i : Inventory V) (s : LoomStore V) (addresses : List Address) :
    besideCatalogue (addresses.foldl i.attachCatalogue s) = besideCatalogue s :=
  foldl_frame _ besideCatalogue (catalogue_frame i) s addresses

theorem catalogue_channels (i : Inventory V) (s : LoomStore V) (address : Address) :
    (i.attachCatalogue s address).channels = s.channels := unchanged (catalogue_frame i s address) _ fun _ => rfl

theorem channels_of_same {t : LoomStore V} (same : t.channels = s.channels) (address : Address) :
    channelsOf t address = channelsOf s address := by unfold channelsOf; rw [same]

theorem catalogue_customs (address : Address) :
    (i.attachCatalogue s address).cdps = (i.attachCustoms s address).cdps :=
  unchanged (calculated_loop_frame address _) LoomStore.cdps fun _ => rfl

theorem custom_stale (k : CustomKey) (cdps : List (CustomDPSummary V)) :
    k ∈ staleCdps s address cdps ↔ k ∈ s.cdps ∧ k.1 = address ∧ k.2 ∉ cdps.map (·.name) := by
  simp [staleCdps,Dict.mem_keys]

theorem customs_hit (k : CustomKey) (here : k.1 = address) (answered : i.customDataPoints address ≠ []) :
    k ∈ (i.attachCatalogue s address).cdps ↔ k.2 ∈ (i.customDataPoints address).map (·.name) := by
  rw [catalogue_customs,Inventory.attachCustoms,if_neg (by simpa using answered),attach_customs_mem,custom_stale]
  constructor
  · rintro (⟨c,member,rfl⟩ | ⟨stored,kept⟩)
    · exact List.mem_map_of_mem member
    · by_contra gone
      exact kept ⟨stored,here,gone⟩
  · intro listed
    obtain ⟨c,member,name⟩ := List.mem_map.mp listed
    exact .inl ⟨c,member,Prod.ext here name.symm⟩

theorem customs_miss (k : CustomKey) (aside : i.customDataPoints address ≠ [] → k.1 ≠ address) :
    (i.attachCatalogue s address).cdps.get? k = s.cdps.get? k := by
  rw [catalogue_customs,Inventory.attachCustoms]
  split
  · rfl
  · rename_i answered
    exact customs_elsewhere s address _ k (aside (by simpa using answered))

theorem custom_record_hit (k : CustomKey) (here : k.1 = address)
    (listed : k.2 ∈ (i.customDataPoints address).map (·.name)) :
    customRecord (i.attachCatalogue s address) k =
      lastWritten (fun c => (k.1,c.name)) k (i.customDataPoints k.1) := by
  subst here
  obtain ⟨c,member,name⟩ := List.mem_map.mp listed
  have kept : k ∉ staleCdps s k.1 (i.customDataPoints k.1) := fun stale => ((custom_stale k _).mp stale).2.2 listed
  obtain ⟨last,found⟩ := last_written_some (fun c : CustomDPSummary V => (k.1,c.name)) (k := k)
    ⟨c,member,Prod.ext rfl name⟩
  rw [customRecord,catalogue_customs,Inventory.attachCustoms,if_neg (List.isEmpty_eq_false_iff.mpr (List.ne_nil_of_mem member) ▸ Bool.false_ne_true)]
  exact (customs_written s k.1 _ k kept).trans (by rw [found,Option.some_or])

theorem custom_state_hit (k : CustomKey) (here : k.1 = address)
    (listed : k.2 ∈ (i.customDataPoints address).map (·.name)) :
    customState (i.attachCatalogue s address) k =
      ((i.customDataPoints k.1).reverse.findSome? fun c =>
        (written (fun c => (k.1,c.name)) k c).bind (·.state)).getD (customState s k) := by
  subst here
  obtain ⟨c,member,name⟩ := List.mem_map.mp listed
  have kept : k ∉ staleCdps s k.1 (i.customDataPoints k.1) := fun stale => ((custom_stale k _).mp stale).2.2 listed
  rw [customState,catalogue_customs,Inventory.attachCustoms,if_neg (List.isEmpty_eq_false_iff.mpr (List.ne_nil_of_mem member) ▸ Bool.false_ne_true)]
  exact customs_state_written s k.1 _ k kept

-- What a channel writes under a key of it.
def calculatedWritten (i : Inventory V) (k : DataPointKey) (address : Address) (channel : Int) :
    Option (DataPointSummary V) :=
  lastWritten (fun dp => (address,channel,dp.parameter)) k
    ((i.keptCalculated address channel).map Model.synthesizeSummary)

theorem calculated_written_elsewhere (k : DataPointKey) (elsewhere : channelOf k ≠ (address,channel)) :
    calculatedWritten i k address channel = none :=
  last_written_none _ k _ fun _ _ same => elsewhere (congrArg channelOf same).symm

theorem calculated_written_some (k : DataPointKey) (listed : k.2.2 ∈ (i.keptCalculated k.1 k.2.1).map (·.name)) :
    ∃ summary, calculatedWritten i k k.1 k.2.1 = some summary := by
  obtain ⟨c,member,name⟩ := List.mem_map.mp listed
  have here : (k.1,k.2.1,(Model.synthesizeSummary c).parameter) = k := congrArg (k.1,k.2.1,·) name
  obtain ⟨last,found⟩ := last_written_some (fun dp : DataPointSummary V => (k.1,k.2.1,dp.parameter)) (k := k)
    ⟨_,List.mem_map_of_mem member,here⟩
  exact ⟨last,found⟩

theorem calculated_step_record (installed : s.calculatedFactory = true) (address : Address) (channel : Int)
    (k : DataPointKey) : dataPointRecord (i.attachCalculated address s channel) k =
      (calculatedWritten i k address channel).or (dataPointRecord s k) := by
  unfold Inventory.attachCalculated calculatedWritten
  split
  · rename_i empty
    rw [List.isEmpty_iff.mp empty]
    rfl
  · exact calculated_points_written s address channel _ k installed

theorem calculated_step_mem (installed : s.calculatedFactory = true) (address : Address) (channel : Int)
    (k : DataPointKey) :
    (k ∈ (i.attachCalculated address s channel).dataPoints ↔
      (channelOf k = (address,channel) ∧ k.2.2 ∈ (i.keptCalculated address channel).map (·.name)) ∨
        k ∈ s.dataPoints) ∧
    (k ∈ (i.attachCalculated address s channel).calculatedDpKeys ↔
      (channelOf k = (address,channel) ∧ k.2.2 ∈ (i.keptCalculated address channel).map (·.name)) ∨
        k ∈ s.calculatedDpKeys) := by
  have listed : (∃ c ∈ i.keptCalculated address channel, k = (address,channel,c.name)) ↔
      channelOf k = (address,channel) ∧ k.2.2 ∈ (i.keptCalculated address channel).map (·.name) := by
    constructor
    · rintro ⟨c,member,rfl⟩
      exact ⟨rfl,List.mem_map_of_mem member⟩
    · rintro ⟨here,member⟩
      obtain ⟨c,kept,name⟩ := List.mem_map.mp member
      refine ⟨c,kept,?_⟩
      obtain ⟨device,number,parameter⟩ := k
      cases here
      cases name
      rfl
  unfold Inventory.attachCalculated
  split
  · rename_i empty
    have nothing := List.isEmpty_iff.mp empty
    simp [nothing]
  · rw [attach_calculated_mem,attach_calculated_keys,listed]
    simp [installed]

theorem installed_step (installed : s.calculatedFactory = true) (address : Address) (channel : Int) :
    (i.attachCalculated address s channel).calculatedFactory = true :=
  (unchanged (attach_calculated_frame address channel) LoomStore.calculatedFactory fun _ => rfl).trans installed

def Lists (i : Inventory V) (k : DataPointKey) : Prop := k.2.2 ∈ (i.keptCalculated k.1 k.2.1).map (·.name)

theorem next_channel {device here later listed stored : Prop} :
    (((device ∧ later) ∧ listed) ∨ ((device ∧ here) ∧ listed) ∨ stored) ↔
      ((device ∧ (here ∨ later)) ∧ listed) ∨ stored := by tauto

theorem next_device {number here later listed stored : Prop} :
    (((later ∧ number) ∧ listed) ∨ ((here ∧ number) ∧ listed) ∨ stored) ↔
      (((here ∨ later) ∧ number) ∧ listed) ∨ stored := by tauto

theorem calculated_loop_mem (installed : s.calculatedFactory = true) (address : Address) (channels : List Int)
    (k : DataPointKey) :
    (k ∈ (channels.foldl (i.attachCalculated address) s).dataPoints ↔
      ((k.1 = address ∧ k.2.1 ∈ channels) ∧ Lists i k) ∨ k ∈ s.dataPoints) ∧
    (k ∈ (channels.foldl (i.attachCalculated address) s).calculatedDpKeys ↔
      ((k.1 = address ∧ k.2.1 ∈ channels) ∧ Lists i k) ∨ k ∈ s.calculatedDpKeys) := by
  induction channels generalizing s with
  | nil => simp
  | cons channel rest ih =>
    have here : channelOf k = (address,channel) ∧ k.2.2 ∈ (i.keptCalculated address channel).map (·.name) ↔
        (k.1 = address ∧ k.2.1 = channel) ∧ Lists i k := by
      rw [channelOf,Prod.mk.injEq]
      refine and_congr_right fun both => ?_
      rw [Lists,both.1,both.2]
    have step := calculated_step_mem (i := i) installed address channel k
    have later := ih (installed_step (i := i) installed address channel)
    rw [here] at step
    rw [List.foldl_cons,later.1,later.2,step.1,step.2,List.mem_cons]
    exact ⟨next_channel,next_channel⟩

theorem calculated_loop_record (installed : s.calculatedFactory = true) (address : Address) (channels : List Int)
    (k : DataPointKey) : dataPointRecord (channels.foldl (i.attachCalculated address) s) k =
      if k.1 = address ∧ k.2.1 ∈ channels then (calculatedWritten i k k.1 k.2.1).or (dataPointRecord s k)
      else dataPointRecord s k := by
  induction channels generalizing s with
  | nil => simp
  | cons channel rest ih =>
    rw [List.foldl_cons,ih (installed_step installed address channel),calculated_step_record installed]
    by_cases here : channelOf k = (address,channel)
    · obtain ⟨device,number⟩ := Prod.mk.injEq .. ▸ here
      subst device number
      cases calculatedWritten i k k.1 k.2.1 <;> simp
    · rw [calculated_written_elsewhere k here,Option.none_or]
      have other : (k.1 = address ∧ k.2.1 ∈ channel :: rest) ↔ (k.1 = address ∧ k.2.1 ∈ rest) := by
        rw [List.mem_cons]
        refine and_congr_right fun device => or_iff_right fun number => here ?_
        rw [channelOf,device,number]
      simp only [other]

def numbersOf (s : LoomStore V) (address : Address) : List Int := (channelsOf s address).map (·.number)

theorem catalogue_mem (installed : s.calculatedFactory = true) (address : Address) (k : DataPointKey) :
    (k ∈ (i.attachCatalogue s address).dataPoints ↔
      ((k.1 = address ∧ k.2.1 ∈ numbersOf s address) ∧ Lists i k) ∨ k ∈ s.dataPoints) ∧
    (k ∈ (i.attachCatalogue s address).calculatedDpKeys ↔
      ((k.1 = address ∧ k.2.1 ∈ numbersOf s address) ∧ Lists i k) ∨ k ∈ s.calculatedDpKeys) := by
  have frame := attach_customs_frame (i := i) (s := s) address
  have loop := calculated_loop_mem (i := i)
    ((unchanged frame LoomStore.calculatedFactory fun _ => rfl).trans installed) address
    ((channelsOf (i.attachCustoms s address) address).map (·.number)) k
  rw [channels_of_same (unchanged frame LoomStore.channels fun _ => rfl),
    unchanged frame LoomStore.dataPoints fun _ => rfl,unchanged frame LoomStore.calculatedDpKeys fun _ => rfl] at loop
  unfold Inventory.attachCatalogue numbersOf
  dsimp only
  rw [channels_of_same (unchanged frame LoomStore.channels fun _ => rfl)]
  exact loop

theorem catalogue_record (installed : s.calculatedFactory = true) (address : Address) (k : DataPointKey) :
    dataPointRecord (i.attachCatalogue s address) k = if k.1 = address ∧ k.2.1 ∈ numbersOf s address
      then (calculatedWritten i k k.1 k.2.1).or (dataPointRecord s k) else dataPointRecord s k := by
  have frame := attach_customs_frame (i := i) (s := s) address
  have loop := calculated_loop_record (i := i)
    ((unchanged frame LoomStore.calculatedFactory fun _ => rfl).trans installed) address
    ((channelsOf (i.attachCustoms s address) address).map (·.number)) k
  rw [channels_of_same (unchanged frame LoomStore.channels fun _ => rfl),
    unchanged frame (dataPointRecord · k) fun _ => rfl] at loop
  unfold Inventory.attachCatalogue numbersOf
  dsimp only
  rw [channels_of_same (unchanged frame LoomStore.channels fun _ => rfl)]
  exact loop

theorem catalogue_installed (installed : s.calculatedFactory = true) (address : Address) :
    (i.attachCatalogue s address).calculatedFactory = true :=
  (unchanged (catalogue_frame i s address) LoomStore.calculatedFactory fun _ => rfl).trans installed

theorem numbers_of_catalogue (address other : Address) :
    numbersOf (i.attachCatalogue s address) other = numbersOf s other := by
  rw [numbersOf,channels_of_same (catalogue_channels i s address)]
  rfl

theorem catalogues_mem (installed : s.calculatedFactory = true) (addresses : List Address) (k : DataPointKey) :
    (k ∈ (addresses.foldl i.attachCatalogue s).dataPoints ↔
      ((k.1 ∈ addresses ∧ k.2.1 ∈ numbersOf s k.1) ∧ Lists i k) ∨ k ∈ s.dataPoints) ∧
    (k ∈ (addresses.foldl i.attachCatalogue s).calculatedDpKeys ↔
      ((k.1 ∈ addresses ∧ k.2.1 ∈ numbersOf s k.1) ∧ Lists i k) ∨ k ∈ s.calculatedDpKeys) := by
  induction addresses generalizing s with
  | nil => simp
  | cons address rest ih =>
    have step := catalogue_mem (i := i) installed address k
    have later := ih (catalogue_installed (i := i) installed address)
    have here : k.1 = address ∧ k.2.1 ∈ numbersOf s address ↔ k.1 = address ∧ k.2.1 ∈ numbersOf s k.1 :=
      and_congr_right fun device => by rw [device]
    rw [here] at step
    rw [List.foldl_cons,later.1,later.2,step.1,step.2,numbers_of_catalogue,List.mem_cons]
    exact ⟨next_device,next_device⟩

theorem catalogues_record (installed : s.calculatedFactory = true) (addresses : List Address) (k : DataPointKey) :
    dataPointRecord (addresses.foldl i.attachCatalogue s) k = if k.1 ∈ addresses ∧ k.2.1 ∈ numbersOf s k.1
      then (calculatedWritten i k k.1 k.2.1).or (dataPointRecord s k) else dataPointRecord s k := by
  induction addresses generalizing s with
  | nil => simp
  | cons address rest ih =>
    rw [List.foldl_cons,ih (catalogue_installed installed address),catalogue_record installed,numbers_of_catalogue]
    have twice (x : Option (DataPointSummary V)) :
        (calculatedWritten i k k.1 k.2.1).or ((calculatedWritten i k k.1 k.2.1).or x) =
          (calculatedWritten i k k.1 k.2.1).or x := by cases calculatedWritten i k k.1 k.2.1 <;> rfl
    by_cases device : k.1 = address
    · by_cases number : k.2.1 ∈ numbersOf s k.1
      · simp [←device,number,twice]
      · simp [←device,number]
    · simp [device]

end Catalogue

end LoomClient.Client
