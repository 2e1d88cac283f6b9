import LoomClient.Client.Inventory
import LoomClient.Store.Records
import Mathlib.Data.Finset.Card

namespace LoomClient.Client
open Lib Wire Store Compat
variable {V : Type}

-- Of a channel's calculated data points those count that the client keeps.
namespace Inventory
variable (i : Inventory V)

def numbers (address : Address) : List Int := (i.channels address).map (·.number)
def HasDevice (address : Address) : Prop := address ∈ i.snapshot.devices.map (·.address)
def HasChannel (k : ChannelKey) : Prop := i.HasDevice k.1 ∧ k.2 ∈ i.numbers k.1
def HasParameter (k : DataPointKey) : Prop := k.2.2 ∈ (i.dataPoints k.1 k.2.1).map (·.parameter)
def HasDataPoint (k : DataPointKey) : Prop := i.HasChannel (channelOf k) ∧ i.HasParameter k
def HasCalculated (k : DataPointKey) : Prop :=
  i.HasChannel (channelOf k) ∧ k.2.2 ∈ (i.keptCalculated k.1 k.2.1).map (·.name)
def HasCustom (k : CustomKey) : Prop := i.HasDevice k.1 ∧ k.2 ∈ (i.customDataPoints k.1).map (·.name)
def HasSysvar (name : String) : Prop := name ∈ (i.snapshot.sysvars.getD [] ++ i.sysvars).map (·.name)
def HasProgram (id : String) : Prop := id ∈ (i.snapshot.programs.getD [] ++ i.programs).map (·.id)

instance (a : Address) : Decidable (i.HasDevice a) := inferInstanceAs (Decidable (a ∈ _))
instance (k : ChannelKey) : Decidable (i.HasChannel k) := inferInstanceAs (Decidable (_ ∧ k.2 ∈ _))
instance (k : DataPointKey) : Decidable (i.HasParameter k) := inferInstanceAs (Decidable (k.2.2 ∈ _))
instance (k : DataPointKey) : Decidable (i.HasDataPoint k) := inferInstanceAs (Decidable (_ ∧ _))
instance (k : DataPointKey) : Decidable (i.HasCalculated k) := inferInstanceAs (Decidable (_ ∧ k.2.2 ∈ _))
instance (k : CustomKey) : Decidable (i.HasCustom k) := inferInstanceAs (Decidable (_ ∧ k.2 ∈ _))
instance (name : String) : Decidable (i.HasSysvar name) := inferInstanceAs (Decidable (name ∈ _))
instance (id : String) : Decidable (i.HasProgram id) := inferInstanceAs (Decidable (id ∈ _))

end Inventory

-- The store holds the inventory, key by key.
structure KeysMatch (i : Inventory V) (s : LoomStore V) : Prop where
  devices : ∀ a, a ∈ s.devices ↔ i.HasDevice a
  channels : ∀ k, k ∈ s.channels ↔ i.HasChannel k
  dataPoints : ∀ k, k ∈ s.dataPoints ↔ i.HasDataPoint k ∨ i.HasCalculated k
  calculated : ∀ k, k ∈ s.calculatedDpKeys ↔ i.HasCalculated k
  customs : ∀ k, k ∈ s.cdps ↔ i.HasCustom k
  sysvars : ∀ name, name ∈ s.sysvars ↔ i.HasSysvar name
  programs : ∀ id, id ∈ s.programs ↔ i.HasProgram id

-- The channel leaves with the detail record that no longer lists it.
def LeavesWithChannel (i : Inventory V) (s : LoomStore V) (k : ChannelKey) : Prop :=
  i.HasDevice k.1 ∧ k ∈ s.channels ∧ k.2 ∉ i.numbers k.1

-- What the walk does erase: a channel of a listed device with its data points, a generic data point
-- of a listed channel, a custom data point of a device whose catalogue answer is not empty.
structure NothingVanished (i : Inventory V) (s : LoomStore V) : Prop where
  devices : ∀ a ∈ s.devices, i.HasDevice a
  channels : ∀ k ∈ s.channels, i.HasDevice k.1
  dataPoints : ∀ k ∈ s.dataPoints, i.HasDataPoint k ∨ i.HasCalculated k ∨ LeavesWithChannel i s (channelOf k) ∨
    i.HasChannel (channelOf k) ∧ k ∉ s.calculatedDpKeys
  calculated : ∀ k ∈ s.calculatedDpKeys, i.HasCalculated k ∨ k ∈ s.dataPoints ∧ LeavesWithChannel i s (channelOf k)
  customs : ∀ k ∈ s.cdps, i.HasCustom k ∨ i.HasDevice k.1 ∧ i.customDataPoints k.1 ≠ []
  sysvars : ∀ name ∈ s.sysvars, i.HasSysvar name
  programs : ∀ id ∈ s.programs, i.HasProgram id

instance (i : Inventory V) (s : LoomStore V) (k : ChannelKey) : Decidable (LeavesWithChannel i s k) :=
  inferInstanceAs (Decidable (_ ∧ k ∈ s.channels ∧ k.2 ∉ _))

instance (i : Inventory V) (s : LoomStore V) : Decidable (NothingVanished i s) :=
  decidable_of_iff ((∀ a ∈ s.devices.keys, i.HasDevice a) ∧ (∀ k ∈ s.channels.keys, i.HasDevice k.1) ∧
    (∀ k ∈ s.dataPoints.keys, i.HasDataPoint k ∨ i.HasCalculated k ∨ LeavesWithChannel i s (channelOf k) ∨
      i.HasChannel (channelOf k) ∧ k ∉ s.calculatedDpKeys) ∧
    (∀ k ∈ s.calculatedDpKeys, i.HasCalculated k ∨ k ∈ s.dataPoints ∧ LeavesWithChannel i s (channelOf k)) ∧
    (∀ k ∈ s.cdps.keys, i.HasCustom k ∨ i.HasDevice k.1 ∧ i.customDataPoints k.1 ≠ []) ∧
    (∀ name ∈ s.sysvars.keys, i.HasSysvar name) ∧ ∀ id ∈ s.programs.keys, i.HasProgram id)
    ⟨fun ⟨devices,channels,dataPoints,calculated,customs,sysvars,programs⟩ =>
        ⟨devices,channels,dataPoints,calculated,customs,sysvars,programs⟩,
      fun kept => ⟨kept.devices,kept.channels,kept.dataPoints,kept.calculated,kept.customs,kept.sysvars,kept.programs⟩⟩

section Nested
variable {i : Inventory V} {s : LoomStore V} {summary : DeviceSummary}

def nestedDetail (i : Inventory V) (summary : DeviceSummary) : DeviceDetail :=
  summary.withChannels ((i.channels summary.address).map (·.toChannelSummary))

theorem nested_keys (listed : summary ∈ i.snapshot.devices) (c : ChannelSummary)
    (member : c ∈ (nestedDetail i summary).channels) : channelKey c = (summary.address,c.number) := by
  obtain ⟨channel,nested,rfl⟩ := List.mem_map.mp member
  obtain ⟨channels,found⟩ := Dict.mem_iff_get?.mp (i.nested summary listed)
  have same : i.channels summary.address = channels := by rw [Inventory.channels,found]; rfl
  exact congrArg (·,channel.number) (i.own summary listed channels found channel (same ▸ nested))

theorem unlisted_nested (k : ChannelKey) :
    unlisted (nestedDetail i summary) k ↔ k.1 = summary.address ∧ k.2 ∉ i.numbers summary.address := by
  unfold unlisted nestedDetail Inventory.numbers DeviceSummary.withChannels
  simp only [List.map_map,Function.comp_def]

theorem listed_key (listed : summary ∈ i.snapshot.devices) (k : ChannelKey) :
    (∃ c ∈ (nestedDetail i summary).channels, k = channelKey c) ↔
      k.1 = summary.address ∧ k.2 ∈ i.numbers summary.address := by
  constructor
  · rintro ⟨c,member,rfl⟩
    rw [nested_keys listed c member]
    obtain ⟨channel,nested,rfl⟩ := List.mem_map.mp member
    exact ⟨rfl,List.mem_map.mpr ⟨channel,nested,rfl⟩⟩
  · rintro ⟨device,number⟩
    obtain ⟨channel,nested,same⟩ := List.mem_map.mp number
    have member : channel.toChannelSummary ∈ (nestedDetail i summary).channels := List.mem_map.mpr ⟨channel,nested,rfl⟩
    exact ⟨_,member,(nested_keys listed _ member).trans (Prod.ext device.symm same) |>.symm⟩

theorem twice_listed {parameter stored calculated : Prop} :
    parameter ∨ (parameter ∨ stored ∧ calculated) ∧ calculated ↔ parameter ∨ stored ∧ calculated := by
  constructor
  · intro walked
    exact walked.elim Or.inl And.left
  · exact Or.imp_right fun held => ⟨.inr held,held.2⟩

def attachParameters (i : Inventory V) (address : Address) (s : LoomStore V) (c : Wire.Channel V) : LoomStore V :=
  attachChannelDataPoints s address c.number (i.dataPoints address c.number)

theorem attach_nested_eq : i.attachNested s summary =
    (i.channels summary.address).foldl (attachParameters i summary.address)
      (attachDeviceDetail s (nestedDetail i summary)) := rfl

theorem parameters_beside (address : Address) (channels : List (Wire.Channel V)) :
    besideDataPoints (channels.foldl (attachParameters i address) s) = besideDataPoints s :=
  foldl_frame _ besideDataPoints (fun _ _ => attach_data_points_beside _ _ _ _) s channels

theorem parameters_calculated (address : Address) (channels : List (Wire.Channel V)) :
    (channels.foldl (attachParameters i address) s).calculatedDpKeys = s.calculatedDpKeys :=
  foldl_frame _ LoomStore.calculatedDpKeys (fun _ _ => attach_data_points_calculated _ _ _ _) s channels

theorem parameter_hit (c : Wire.Channel V) (k : DataPointKey) (hit : channelOf k = (address,c.number)) :
    k ∈ (attachParameters i address s c).dataPoints ↔
      i.HasParameter k ∨ k ∈ s.dataPoints ∧ k ∈ s.calculatedDpKeys := by
  obtain ⟨device,number,parameter⟩ := k
  obtain ⟨rfl,rfl⟩ := Prod.mk.injEq .. ▸ hit
  have carries : (∃ dp ∈ i.dataPoints device c.number, (device,c.number,parameter) = (device,c.number,dp.parameter)) ↔
      i.HasParameter (device,c.number,parameter) := by
    simp only [Inventory.HasParameter,List.mem_map,Prod.mk.injEq,true_and,eq_comm]
  have stays : staleDataPoint s device c.number (i.dataPoints device c.number) (device,c.number,parameter) = false ↔
      i.HasParameter (device,c.number,parameter) ∨ (device,c.number,parameter) ∈ s.calculatedDpKeys := by
    simp only [staleDataPoint,channelOf,decide_true,Bool.true_and,Bool.and_eq_false_iff,decide_eq_false_iff_not,
      not_not,Inventory.HasParameter]
  rw [attachParameters,attach_data_points_mem,carries,stays,or_and_left,or_and_left]
  simp only [← or_assoc,or_self]

theorem parameter_fresh (miss : channelOf k ≠ (address,number)) :
    staleDataPoint s address number (i.dataPoints address number) k = false := by
  simp only [staleDataPoint,decide_eq_false miss,Bool.false_and]

theorem parameter_miss (c : Wire.Channel V) (k : DataPointKey) (miss : channelOf k ≠ (address,c.number)) :
    k ∈ (attachParameters i address s c).dataPoints ↔ k ∈ s.dataPoints := by
  rw [attachParameters,attach_data_points_mem,parameter_fresh miss]
  constructor
  · rintro (⟨dp,_,rfl⟩ | ⟨stored,_⟩)
    · exact absurd rfl miss
    · exact stored
  · exact fun stored => .inr ⟨stored,rfl⟩

theorem parameters_mem (address : Address) (k : DataPointKey) (device : k.1 = address) :
    k ∈ ((i.channels address).foldl (attachParameters i address) s).dataPoints ↔
      if k.2.1 ∈ i.numbers address then i.HasParameter k ∨ k ∈ s.dataPoints ∧ k ∈ s.calculatedDpKeys
      else k ∈ s.dataPoints := by
  have hits (c : Wire.Channel V) : channelOf k = (address,c.number) ↔ c.number = k.2.1 := by
    rw [channelOf,device,Prod.mk.injEq]
    exact ⟨fun same => same.2.symm,fun same => ⟨rfl,same.symm⟩⟩
  have keys (t : LoomStore V) (c : Wire.Channel V) :
      k ∈ (attachParameters i address t c).calculatedDpKeys ↔ k ∈ t.calculatedDpKeys := by
    rw [attachParameters,attach_data_points_calculated]
  split
  · rename_i listed
    obtain ⟨channel,member,number⟩ := List.mem_map.mp listed
    refine (foldl_settled
      (fun t : LoomStore V => (k ∈ t.dataPoints ↔ k ∈ s.dataPoints) ∧ (k ∈ t.calculatedDpKeys ↔ k ∈ s.calculatedDpKeys))
      (fun t : LoomStore V => (k ∈ t.dataPoints ↔ i.HasParameter k ∨ k ∈ s.dataPoints ∧ k ∈ s.calculatedDpKeys) ∧
        (k ∈ t.calculatedDpKeys ↔ k ∈ s.calculatedDpKeys))
      (fun c : Wire.Channel V => c.number = k.2.1) ?_ ?_ (.inl ⟨⟨Iff.rfl,Iff.rfl⟩,channel,member,number⟩)).1
    · intro t c _ hit known
      rw [parameter_hit c k ((hits c).mpr hit),keys]
      rcases known with ⟨points,calculated⟩ | ⟨points,calculated⟩
      · rw [points,calculated]
        exact ⟨Iff.rfl,Iff.rfl⟩
      · rw [points,calculated]
        exact ⟨twice_listed,Iff.rfl⟩
    · intro t c _ miss
      rw [parameter_miss c k fun same => miss ((hits c).mp same),keys]
      exact ⟨id,id⟩
  · rename_i absent
    refine foldl_untouched (fun t : LoomStore V => k ∈ t.dataPoints ↔ k ∈ s.dataPoints) (fun c : Wire.Channel V => c.number = k.2.1)
      ?_ Iff.rfl ?_
    · intro t c _ miss known
      rw [parameter_miss c k fun same => miss ((hits c).mp same),known]
    · exact fun c member same => absent (List.mem_map.mpr ⟨c,member,same⟩)

theorem parameters_other (address : Address) (channels : List (Wire.Channel V)) (k : DataPointKey) (other : k.1 ≠ address) :
    k ∈ (channels.foldl (attachParameters i address) s).dataPoints ↔ k ∈ s.dataPoints := by
  induction channels generalizing s with
  | nil => rfl
  | cons c rest ih =>
    rw [List.foldl_cons,ih,parameter_miss c k fun same => other (congrArg Prod.fst same)]

variable (listed : summary ∈ i.snapshot.devices) (known : summary.address ∈ s.devices)

theorem nested_allowed (known : summary.address ∈ s.devices) :
    canAdmitDevice s (nestedDetail i summary).address = true := by
  have here : (nestedDetail i summary).address = summary.address := rfl
  simp only [canAdmitDevice,here,known,decide_true,Bool.true_or]

include known in
theorem nested_devices (a : Address) : a ∈ (i.attachNested s summary).devices ↔ a ∈ s.devices := by
  rw [attach_nested_eq,unchanged (parameters_beside _ _) LoomStore.devices fun _ => rfl,
    detail_devices (nested_allowed known)]
  constructor
  · rintro (rfl | member)
    · exact known
    · exact member
  · exact .inr

include listed known

theorem nested_channels (k : ChannelKey) : k ∈ (i.attachNested s summary).channels ↔
    if k.1 = summary.address then k.2 ∈ i.numbers summary.address else k ∈ s.channels := by
  rw [attach_nested_eq,unchanged (parameters_beside _ _) LoomStore.channels fun _ => rfl,
    detail_channels (nested_allowed known),listed_key listed,unlisted_nested]
  split
  · rename_i here
    simp only [here,true_and,not_not]
    exact and_iff_right_of_imp Or.inl
  · rename_i elsewhere
    simp only [elsewhere,false_and,false_or,not_false_eq_true,and_true]

theorem nested_calculated (k : DataPointKey) : k ∈ (i.attachNested s summary).calculatedDpKeys ↔
    k ∈ s.calculatedDpKeys ∧ ¬ (k.1 = summary.address ∧ k ∈ s.dataPoints ∧ channelOf k ∈ s.channels ∧
      k.2.1 ∉ i.numbers summary.address) := by
  rw [attach_nested_eq,parameters_calculated,detail_calculated (nested_allowed known),listed_key listed,
    unlisted_nested]
  refine and_congr_right fun _ => not_congr ⟨?_,?_⟩
  · intro ⟨stored,either,own,gone⟩
    exact ⟨own,stored,either.resolve_left fun here => gone here.2,gone⟩
  · intro ⟨own,stored,channel,gone⟩
    exact ⟨stored,.inr channel,own,gone⟩

theorem nested_data_points (k : DataPointKey) : k ∈ (i.attachNested s summary).dataPoints ↔
    if k.1 = summary.address then
      if k.2.1 ∈ i.numbers summary.address then i.HasParameter k ∨ k ∈ s.dataPoints ∧ k ∈ s.calculatedDpKeys
      else k ∈ s.dataPoints ∧ channelOf k ∉ s.channels
    else k ∈ s.dataPoints := by
  have stored := detail_data_points (nested_allowed (i := i) known) k
  have keys := detail_calculated (nested_allowed (i := i) known) k
  rw [listed_key listed,unlisted_nested] at stored keys
  rw [attach_nested_eq]
  split
  · rename_i here
    rw [parameters_mem _ k here,stored,keys]
    split
    · rename_i number
      have stays : ¬ ((channelOf k).1 = summary.address ∧ (channelOf k).2 ∉ i.numbers summary.address) :=
        fun gone => gone.2 number
      simp only [stays,and_false,not_false_eq_true,and_true]
    · rename_i gone
      have leaves : (channelOf k).1 = summary.address ∧ (channelOf k).2 ∉ i.numbers summary.address := ⟨here,gone⟩
      simp only [leaves.1,leaves.2,and_false,false_or,not_false_eq_true,and_true]
  · rename_i elsewhere
    have stays : ¬ ((channelOf k).1 = summary.address ∧ (channelOf k).2 ∉ i.numbers summary.address) :=
      fun gone => elsewhere gone.1
    rw [parameters_other _ _ k elsewhere,stored]
    simp only [stays,and_false,not_false_eq_true,and_true]

theorem nested_elsewhere (k : DataPointKey) (other : k.1 ≠ summary.address) :
    (channelOf k ∈ (i.attachNested s summary).channels ↔ channelOf k ∈ s.channels) ∧
      (k ∈ (i.attachNested s summary).dataPoints ↔ k ∈ s.dataPoints) ∧
      (k ∈ (i.attachNested s summary).calculatedDpKeys ↔ k ∈ s.calculatedDpKeys) := by
  refine ⟨?_,?_,?_⟩
  · rw [nested_channels listed known]
    exact (if_neg other).to_iff
  · rw [nested_data_points listed known,if_neg other]
  · rw [nested_calculated listed known]
    exact and_iff_left fun gone => other gone.1

end Nested

section Graph
variable {i : Inventory V} {s : LoomStore V} (held : ∀ a, i.HasDevice a → a ∈ s.devices)

def graphed (i : Inventory V) (s : LoomStore V) : LoomStore V := i.snapshot.devices.foldl i.attachNested s

include held

theorem graphed_untouched (k : DataPointKey) (foreign : ¬ i.HasDevice k.1) :
    (channelOf k ∈ (graphed i s).channels ↔ channelOf k ∈ s.channels) ∧
      (k ∈ (graphed i s).dataPoints ↔ k ∈ s.dataPoints) ∧
      (k ∈ (graphed i s).calculatedDpKeys ↔ k ∈ s.calculatedDpKeys) := by
  refine (foldl_untouched
    (fun t : LoomStore V => (∀ a, i.HasDevice a → a ∈ t.devices) ∧
      (channelOf k ∈ t.channels ↔ channelOf k ∈ s.channels) ∧ (k ∈ t.dataPoints ↔ k ∈ s.dataPoints) ∧
      (k ∈ t.calculatedDpKeys ↔ k ∈ s.calculatedDpKeys))
    (fun summary : DeviceSummary => k.1 = summary.address) ?_ ⟨held,Iff.rfl,Iff.rfl,Iff.rfl⟩ ?_).2
  · intro t summary listed miss ⟨full,channels,dataPoints,calculated⟩
    have here := full summary.address (List.mem_map_of_mem listed)
    obtain ⟨first,second,third⟩ := nested_elsewhere listed here k miss
    exact ⟨fun a has => (nested_devices here a).mpr (full a has),first.trans channels,second.trans dataPoints,
      third.trans calculated⟩
  · exact fun summary listed same => foreign (same ▸ List.mem_map_of_mem listed)

theorem graphed_listed (k : DataPointKey) (own : i.HasDevice k.1) (number : k.2.1 ∈ i.numbers k.1) :
    channelOf k ∈ (graphed i s).channels ∧
      (k ∈ (graphed i s).dataPoints ↔ i.HasParameter k ∨ k ∈ s.dataPoints ∧ k ∈ s.calculatedDpKeys) ∧
      (k ∈ (graphed i s).calculatedDpKeys ↔ k ∈ s.calculatedDpKeys) := by
  obtain ⟨summary,member,same⟩ := List.mem_map.mp own
  refine (foldl_settled
    (fun t : LoomStore V => (∀ a, i.HasDevice a → a ∈ t.devices) ∧ (k ∈ t.dataPoints ↔ k ∈ s.dataPoints) ∧
      (k ∈ t.calculatedDpKeys ↔ k ∈ s.calculatedDpKeys))
    (fun t : LoomStore V => (∀ a, i.HasDevice a → a ∈ t.devices) ∧ channelOf k ∈ t.channels ∧
      (k ∈ t.dataPoints ↔ i.HasParameter k ∨ k ∈ s.dataPoints ∧ k ∈ s.calculatedDpKeys) ∧
      (k ∈ t.calculatedDpKeys ↔ k ∈ s.calculatedDpKeys))
    (fun summary : DeviceSummary => k.1 = summary.address) ?_ ?_
    (.inl ⟨⟨held,Iff.rfl,Iff.rfl⟩,summary,member,same.symm⟩)).2
  · intro t summary listed hit known
    have full := known.elim And.left And.left
    have here := full summary.address (List.mem_map_of_mem listed)
    have keys : k ∈ t.calculatedDpKeys ↔ k ∈ s.calculatedDpKeys := known.elim (·.2.2) (·.2.2.2)
    have points : i.HasParameter k ∨ k ∈ t.dataPoints ∧ k ∈ t.calculatedDpKeys ↔
        i.HasParameter k ∨ k ∈ s.dataPoints ∧ k ∈ s.calculatedDpKeys := by
      rcases known with before | after
      · rw [before.2.1,keys]
      · rw [after.2.2.1,keys]
        exact twice_listed
    refine ⟨fun a has => (nested_devices here a).mpr (full a has),?_,?_,?_⟩
    · rw [nested_channels listed here]
      exact (if_pos hit).mpr (hit ▸ number)
    · rw [nested_data_points listed here,if_pos hit,if_pos (hit ▸ number)]
      exact points
    · rw [nested_calculated listed here,keys]
      exact and_iff_left fun gone => gone.2.2.2 (hit ▸ number)
  · intro t summary listed miss
    constructor
    · intro ⟨full,dataPoints,calculated⟩
      have here := full summary.address (List.mem_map_of_mem listed)
      obtain ⟨_,second,third⟩ := nested_elsewhere listed here k miss
      exact ⟨fun a has => (nested_devices here a).mpr (full a has),second.trans dataPoints,third.trans calculated⟩
    · intro ⟨full,channel,dataPoints,calculated⟩
      have here := full summary.address (List.mem_map_of_mem listed)
      obtain ⟨first,second,third⟩ := nested_elsewhere listed here k miss
      exact ⟨fun a has => (nested_devices here a).mpr (full a has),first.mpr channel,second.trans dataPoints,
        third.trans calculated⟩

theorem graphed_gone (k : DataPointKey) (own : i.HasDevice k.1) (gone : k.2.1 ∉ i.numbers k.1) :
    channelOf k ∉ (graphed i s).channels ∧
      (k ∈ (graphed i s).dataPoints ↔ k ∈ s.dataPoints ∧ channelOf k ∉ s.channels) ∧
      (k ∈ (graphed i s).calculatedDpKeys ↔
        k ∈ s.calculatedDpKeys ∧ ¬ (k ∈ s.dataPoints ∧ channelOf k ∈ s.channels)) := by
  obtain ⟨summary,member,same⟩ := List.mem_map.mp own
  refine (foldl_settled
    (fun t : LoomStore V => (∀ a, i.HasDevice a → a ∈ t.devices) ∧
      (channelOf k ∈ t.channels ↔ channelOf k ∈ s.channels) ∧ (k ∈ t.dataPoints ↔ k ∈ s.dataPoints) ∧
      (k ∈ t.calculatedDpKeys ↔ k ∈ s.calculatedDpKeys))
    (fun t : LoomStore V => (∀ a, i.HasDevice a → a ∈ t.devices) ∧ channelOf k ∉ t.channels ∧
      (k ∈ t.dataPoints ↔ k ∈ s.dataPoints ∧ channelOf k ∉ s.channels) ∧
      (k ∈ t.calculatedDpKeys ↔ k ∈ s.calculatedDpKeys ∧ ¬ (k ∈ s.dataPoints ∧ channelOf k ∈ s.channels)))
    (fun summary : DeviceSummary => k.1 = summary.address) ?_ ?_
    (.inl ⟨⟨held,Iff.rfl,Iff.rfl,Iff.rfl⟩,summary,member,same.symm⟩)).2
  · intro t summary listed hit known
    have full := known.elim And.left And.left
    have here := full summary.address (List.mem_map_of_mem listed)
    refine ⟨fun a has => (nested_devices here a).mpr (full a has),?_,?_,?_⟩
    · rw [nested_channels listed here]
      exact fun stored => gone (hit ▸ (if_pos hit).mp stored)
    · rw [nested_data_points listed here,if_pos hit,if_neg (hit ▸ gone)]
      rcases known with before | after
      · rw [before.2.1,before.2.2.1]
      · rw [after.2.2.1]
        exact and_iff_left after.2.1
    · rw [nested_calculated listed here]
      have missing : k.2.1 ∉ i.numbers summary.address := hit ▸ gone
      simp only [hit,missing,not_false_eq_true,true_and,and_true]
      rcases known with before | after
      · rw [before.2.1,before.2.2.1,before.2.2.2]
      · rw [after.2.2.2]
        exact and_iff_left fun both => after.2.1 both.2
  · intro t summary listed miss
    constructor
    · intro ⟨full,channels,dataPoints,calculated⟩
      have here := full summary.address (List.mem_map_of_mem listed)
      obtain ⟨first,second,third⟩ := nested_elsewhere listed here k miss
      exact ⟨fun a has => (nested_devices here a).mpr (full a has),first.trans channels,second.trans dataPoints,
        third.trans calculated⟩
    · intro ⟨full,channel,dataPoints,calculated⟩
      have here := full summary.address (List.mem_map_of_mem listed)
      obtain ⟨first,second,third⟩ := nested_elsewhere listed here k miss
      exact ⟨fun a has => (nested_devices here a).mpr (full a has),fun stored => channel (first.mp stored),
        second.trans dataPoints,third.trans calculated⟩

theorem graphed_devices (a : Address) : a ∈ (graphed i s).devices ↔ a ∈ s.devices := by
  refine (foldl_untouched
    (fun t : LoomStore V => (∀ a, i.HasDevice a → a ∈ t.devices) ∧ (a ∈ t.devices ↔ a ∈ s.devices))
    (fun _ => False) ?_ ⟨held,Iff.rfl⟩ fun _ _ => id).2
  intro t summary listed _ ⟨full,same⟩
  have here := full summary.address (List.mem_map_of_mem listed)
  exact ⟨fun b has => (nested_devices here b).mpr (full b has),(nested_devices here a).trans same⟩

theorem graphed_channels (k : ChannelKey) :
    k ∈ (graphed i s).channels ↔ i.HasChannel k ∨ k ∈ s.channels ∧ ¬ i.HasDevice k.1 := by
  by_cases own : i.HasDevice k.1
  · by_cases number : k.2 ∈ i.numbers k.1
    · have here := (graphed_listed held (k.1,k.2,"") own number).1
      exact iff_of_true here (.inl ⟨own,number⟩)
    · have gone := (graphed_gone held (k.1,k.2,"") own number).1
      refine iff_of_false gone ?_
      rintro (⟨_,listed⟩ | ⟨_,foreign⟩)
      · exact number listed
      · exact foreign own
  · refine (graphed_untouched held (k.1,k.2,"") own).1.trans ?_
    exact ⟨fun stored => .inr ⟨stored,own⟩,fun either => (either.resolve_left fun has => own has.1).1⟩

end Graph

theorem nested_beside (i : Inventory V) (s : LoomStore V) (summary : DeviceSummary) :
    besideDeviceTree (i.attachNested s summary) = besideDeviceTree s :=
  (unchanged (parameters_beside _ _) besideDeviceTree fun _ => rfl).trans (detail_beside s _)

theorem graphed_beside (i : Inventory V) (s : LoomStore V) : besideDeviceTree (graphed i s) = besideDeviceTree s :=
  foldl_frame _ besideDeviceTree (nested_beside i) s _

section Admission
variable {i : Inventory V} {s : LoomStore V}

def WithinCap (i : Inventory V) (s : LoomStore V) : Prop :=
  (i.snapshot.devices.map (·.address)).toFinset.card ≤ s.maxDevices

theorem room_within (cap : WithinCap i s) (within : ∀ a ∈ s.devices, i.HasDevice a) (own : i.HasDevice a) :
    canAdmitDevice s a = true := by
  by_cases known : a ∈ s.devices
  · simp [canAdmitDevice,known]
  · have keys : s.devices.keys.toFinset ⊂ (i.snapshot.devices.map (·.address)).toFinset := by
      refine Finset.ssubset_iff_of_subset (fun b member => ?_) |>.mpr ⟨a,?_,?_⟩
      · exact List.mem_toFinset.mpr (within b (List.mem_toFinset.mp member))
      · exact List.mem_toFinset.mpr own
      · exact fun member => known (List.mem_toFinset.mp member)
    have smaller := Finset.card_lt_card keys
    rw [List.toFinset_card_of_nodup (l := s.devices.keys) s.devices.distinct,Dict.keys_length] at smaller
    simp [canAdmitDevice,Nat.lt_of_lt_of_le smaller cap]

theorem admitted_devices (devices : List DeviceSummary) (listed : ∀ d ∈ devices, i.HasDevice d.address)
    (cap : WithinCap i s) (within : ∀ a ∈ s.devices, i.HasDevice a) (a : Address) :
    a ∈ (devices.foldl admitDevice s).devices ↔ a ∈ devices.map (·.address) ∨ a ∈ s.devices := by
  induction devices generalizing s with
  | nil => simp
  | cons d rest ih =>
    have room := room_within cap within (listed d (.head rest))
    have added (b : Address) : b ∈ (admitDevice s d).devices ↔ b = d.address ∨ b ∈ s.devices := by
      rw [admit_devices]
      constructor
      · exact Or.imp_left fun same => same.1.symm
      · exact Or.imp_left fun same => ⟨same.symm,same ▸ room⟩
    have bound : WithinCap i (admitDevice s d) := by
      unfold WithinCap
      rw [unchanged (admit_beside s d) LoomStore.maxDevices fun _ => rfl]
      exact cap
    have still (b : Address) (member : b ∈ (admitDevice s d).devices) : i.HasDevice b := by
      rcases (added b).mp member with rfl | known
      · exact listed d (.head rest)
      · exact within b known
    rw [List.foldl_cons,ih (fun e member => listed e (.tail d member)) bound still,added,List.map_cons,List.mem_cons]
    exact or_left_comm.trans or_assoc.symm

theorem kept_devices (devices : List DeviceSummary) (known : a ∈ s.devices) :
    a ∈ (devices.foldl admitDevice s).devices := by
  induction devices generalizing s with
  | nil => exact known
  | cons d rest ih => exact ih ((admit_devices s d a).mpr (.inr known))

end Admission
end LoomClient.Client
