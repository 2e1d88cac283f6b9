import LoomClient.Client.Daemon
import LoomClient.Client.Catalogue

namespace LoomClient.Client
open Lib Wire Store Compat
variable {V : Type}

section Rebuilt
variable {i : Inventory V} {s : LoomStore V} (cap : WithinCap i s) (within : ∀ a ∈ s.devices, i.HasDevice a)

def hubbed (i : Inventory V) (s : LoomStore V) : LoomStore V := i.attachHub (i.attachPanels (i.attachGraph s))

theorem panels_frame (i : Inventory V) (s : LoomStore V) : besideAlarm (i.attachPanels s) = besideAlarm s := by
  unfold Inventory.attachPanels
  split
  · rfl
  · exact attach_panels_beside s _

theorem hubbed_graph {τ : Type} (field : LoomStore V → τ) (blindHub : ∀ u, field (besideHub u) = field u)
    (blindAlarm : ∀ u, field (besideAlarm u) = field u) :
    field (hubbed i s) = field (graphed i (loadSnapshot s i.snapshot)) :=
  (unchanged (hub_catalogue_beside _ i.sysvars i.programs) field blindHub).trans
    (unchanged (panels_frame i _) field blindAlarm)

theorem rebuilt_hubbed {τ : Type} (field : LoomStore V → τ) (blind : ∀ u, field (besideCatalogue u) = field u) :
    field (i.rebuilt s) = field (hubbed i s) := unchanged (catalogues_frame i (hubbed i s) _) field blind

theorem hubbed_setting {τ : Type} (field : LoomStore V → τ) (blindHub : ∀ u, field (besideHub u) = field u)
    (blindAlarm : ∀ u, field (besideAlarm u) = field u) (blindTree : ∀ u, field (besideDeviceTree u) = field u)
    (blindSnapshot : ∀ u, field (besideSnapshot u) = field u) : field (hubbed i s) = field s := by
  rw [hubbed_graph field blindHub blindAlarm,unchanged (graphed_beside i _) field blindTree]
  exact unchanged (snapshot_beside s i.snapshot) field blindSnapshot

theorem rebuilt_setting {τ : Type} (field : LoomStore V → τ) (blind : ∀ u, field (besideCatalogue u) = field u)
    (blindHub : ∀ u, field (besideHub u) = field u) (blindAlarm : ∀ u, field (besideAlarm u) = field u)
    (blindTree : ∀ u, field (besideDeviceTree u) = field u)
    (blindSnapshot : ∀ u, field (besideSnapshot u) = field u) : field (i.rebuilt s) = field s :=
  (rebuilt_hubbed field blind).trans (hubbed_setting field blindHub blindAlarm blindTree blindSnapshot)

include cap within

theorem loaded_devices (a : Address) : a ∈ (loadSnapshot s i.snapshot).devices ↔ i.HasDevice a := by
  have frame := adopt_central_beside s i.snapshot
  have devices : (adoptCentralId s i.snapshot).devices = s.devices := (congrArg LoomStore.devices frame :)
  have bound : WithinCap i (adoptCentralId s i.snapshot) := by
    have same : (adoptCentralId s i.snapshot).maxDevices = s.maxDevices := (congrArg LoomStore.maxDevices frame :)
    unfold WithinCap
    rw [same]
    exact cap
  rw [snapshot_devices,admitted_devices i.snapshot.devices (fun d member => List.mem_map_of_mem member) bound
    (devices ▸ within),devices]
  exact or_iff_left_of_imp (within a)

theorem held_all : ∀ a, i.HasDevice a → a ∈ (loadSnapshot s i.snapshot).devices :=
  fun a has => (loaded_devices cap within a).mpr has

theorem hubbed_devices (a : Address) : a ∈ (hubbed i s).devices ↔ i.HasDevice a := by
  rw [hubbed_graph LoomStore.devices (fun _ => rfl) fun _ => rfl,graphed_devices (held_all cap within)]
  exact loaded_devices cap within a

theorem hubbed_device_record (own : i.HasDevice a) : ∃ d, d.address = a ∧
    deviceRecord (hubbed i s) a = some (d,some d.firmware,some d.availability) ∧
    i.snapshot.devices.reverse.findSome? (deviceWritten a) = some (d,some d.firmware,some d.availability) := by
  obtain ⟨summary,member,same⟩ := List.mem_map.mp own
  have written : (i.snapshot.devices.reverse.findSome? (deviceWritten a)).isSome := by
    refine List.findSome?_isSome_iff.mpr ⟨summary,List.mem_reverse.mpr member,?_⟩
    rw [deviceWritten,if_pos same]
    rfl
  obtain ⟨record,found⟩ := Option.isSome_iff_exists.mp written
  obtain ⟨d,_,wrote⟩ := List.exists_of_findSome?_eq_some found
  unfold deviceWritten at wrote
  split at wrote
  · rename_i here
    have stored : deviceRecord (hubbed i s) a = some record := by
      rw [hubbed_graph (deviceRecord · a) (fun _ => rfl) fun _ => rfl,
        graphed_device_record (held_all cap within) a,found,Option.some_or]
    exact ⟨d,here,stored.trans wrote.symm,found.trans wrote.symm⟩
  · cases wrote

theorem catalogue_addresses (a : Address) : a ∈ (hubbed i s).devices.values.map (·.address) ↔ i.HasDevice a := by
  have keyed (k : Address) (v : Model.Device) (found : (hubbed i s).devices.get? k = some v) :
      i.HasDevice k ∧ v.address = k := by
    have own := (hubbed_devices cap within k).mp (Dict.mem_of_get? found)
    obtain ⟨d,here,stored,_⟩ := hubbed_device_record cap within own
    rw [deviceRecord,found] at stored
    have same : v.summary = d := congrArg Prod.fst (Option.some.inj stored)
    exact ⟨own,(congrArg DeviceSummary.address same).trans here⟩
  constructor
  · intro member
    obtain ⟨v,stored,here⟩ := List.mem_map.mp member
    obtain ⟨k,found⟩ := Dict.mem_values.mp stored
    obtain ⟨own,same⟩ := keyed k v found
    exact here ▸ same ▸ own
  · intro own
    obtain ⟨v,found⟩ := Dict.mem_iff_get?.mp ((hubbed_devices cap within a).mpr own)
    exact List.mem_map.mpr ⟨v,Dict.mem_values.mpr ⟨a,found⟩,(keyed a v found).2⟩

theorem hubbed_channel_record (own : i.HasChannel k) : channelRecord (hubbed i s) k = channelWritten i k := by
  rw [hubbed_graph (channelRecord · k) (fun _ => rfl) fun _ => rfl]
  exact graphed_channel_record (held_all cap within) own

theorem hubbed_channels (k : ChannelKey) :
    k ∈ (hubbed i s).channels ↔ i.HasChannel k ∨ k ∈ s.channels ∧ ¬ i.HasDevice k.1 := by
  rw [hubbed_graph LoomStore.channels (fun _ => rfl) fun _ => rfl,graphed_channels (held_all cap within),
    unchanged (snapshot_beside s i.snapshot) LoomStore.channels fun _ => rfl]

theorem catalogue_numbers (own : i.HasDevice a) (n : Int) : n ∈ numbersOf (hubbed i s) a ↔ n ∈ i.numbers a := by
  have keyed (m : Int) (c : Model.Channel) (found : (hubbed i s).channels.get? (a,m) = some c) :
      m ∈ i.numbers a ∧ c.number = m := by
    have stored := (hubbed_channels cap within (a,m)).mp (Dict.mem_of_get? found)
    have has : i.HasChannel (a,m) := stored.resolve_right fun foreign => foreign.2 own
    have record := hubbed_channel_record cap within has
    rw [channelRecord,found] at record
    exact ⟨has.2,congrArg Prod.snd (last_written_key record.symm)⟩
  unfold numbersOf channelsOf
  simp only [List.mem_map,List.mem_insertionSort,List.mem_filter,decide_eq_true_eq]
  constructor
  · rintro ⟨_,⟨⟨⟨device,m⟩,c⟩,⟨stored,here⟩,rfl⟩,rfl⟩
    subst here
    obtain ⟨listed,same⟩ := keyed m c (Dict.mem_entries.mp stored)
    exact same ▸ listed
  · intro listed
    obtain ⟨c,found⟩ := Dict.mem_iff_get?.mp ((hubbed_channels cap within (a,n)).mpr (.inl ⟨own,listed⟩))
    exact ⟨c,⟨((a,n),c),⟨Dict.mem_entries.mpr found,rfl⟩,rfl⟩,(keyed n c found).2⟩

theorem rebuilt_devices (a : Address) : a ∈ (i.rebuilt s).devices ↔ i.HasDevice a := by
  rw [rebuilt_hubbed LoomStore.devices fun _ => rfl]
  exact hubbed_devices cap within a

theorem rebuilt_channels (k : ChannelKey) :
    k ∈ (i.rebuilt s).channels ↔ i.HasChannel k ∨ k ∈ s.channels ∧ ¬ i.HasDevice k.1 := by
  rw [rebuilt_hubbed LoomStore.channels fun _ => rfl]
  exact hubbed_channels cap within k

theorem hubbed_data_points (k : DataPointKey) : k ∈ (hubbed i s).dataPoints ↔ i.HasDataPoint k ∨
    k ∈ s.dataPoints ∧ ¬ LeavesWithChannel i s (channelOf k) ∧ (i.HasChannel (channelOf k) → k ∈ s.calculatedDpKeys) := by
  have frame := snapshot_beside s i.snapshot
  have held := held_all cap within
  rw [hubbed_graph LoomStore.dataPoints (fun _ => rfl) fun _ => rfl]
  have points : (loadSnapshot s i.snapshot).dataPoints = s.dataPoints := unchanged frame _ fun _ => rfl
  have keys : (loadSnapshot s i.snapshot).calculatedDpKeys = s.calculatedDpKeys := unchanged frame _ fun _ => rfl
  have channels : (loadSnapshot s i.snapshot).channels = s.channels := unchanged frame _ fun _ => rfl
  by_cases own : i.HasDevice k.1
  · by_cases number : k.2.1 ∈ i.numbers k.1
    · have has : i.HasChannel (channelOf k) := ⟨own,number⟩
      have stays : ¬ LeavesWithChannel i s (channelOf k) := fun leaves => leaves.2.2 number
      rw [(graphed_listed held k own number).2.1,points,keys]
      simp only [Inventory.HasDataPoint,has,stays,true_and,not_false_eq_true,true_implies]
    · have gone : ¬ i.HasChannel (channelOf k) := fun has => number has.2
      have leaves : LeavesWithChannel i s (channelOf k) ↔ channelOf k ∈ s.channels :=
        ⟨fun both => both.2.1,fun stored => ⟨own,stored,number⟩⟩
      rw [(graphed_gone held k own number).2.1,points,channels]
      simp only [Inventory.HasDataPoint,gone,leaves,false_and,false_or,false_implies,and_true]
  · have gone : ¬ i.HasChannel (channelOf k) := fun has => own has.1
    have stays : ¬ LeavesWithChannel i s (channelOf k) := fun leaves => own leaves.1
    rw [(graphed_untouched held k own).2.1,points]
    simp only [Inventory.HasDataPoint,gone,stays,false_and,false_or,false_implies,and_true,not_false_eq_true]

theorem hubbed_calculated (k : DataPointKey) : k ∈ (hubbed i s).calculatedDpKeys ↔
    k ∈ s.calculatedDpKeys ∧ ¬ (k ∈ s.dataPoints ∧ LeavesWithChannel i s (channelOf k)) := by
  have frame := snapshot_beside s i.snapshot
  have held := held_all cap within
  rw [hubbed_graph LoomStore.calculatedDpKeys (fun _ => rfl) fun _ => rfl]
  have points : (loadSnapshot s i.snapshot).dataPoints = s.dataPoints := unchanged frame _ fun _ => rfl
  have keys : (loadSnapshot s i.snapshot).calculatedDpKeys = s.calculatedDpKeys := unchanged frame _ fun _ => rfl
  have channels : (loadSnapshot s i.snapshot).channels = s.channels := unchanged frame _ fun _ => rfl
  by_cases own : i.HasDevice k.1
  · by_cases number : k.2.1 ∈ i.numbers k.1
    · have stays : ¬ LeavesWithChannel i s (channelOf k) := fun leaves => leaves.2.2 number
      rw [(graphed_listed held k own number).2.2,keys]
      simp only [stays,and_false,not_false_eq_true,and_true]
    · have leaves : LeavesWithChannel i s (channelOf k) ↔ channelOf k ∈ s.channels :=
        ⟨fun both => both.2.1,fun stored => ⟨own,stored,number⟩⟩
      rw [(graphed_gone held k own number).2.2,points,channels,keys,leaves]
  · have stays : ¬ LeavesWithChannel i s (channelOf k) := fun leaves => own leaves.1
    rw [(graphed_untouched held k own).2.2,keys]
    simp only [stays,and_false,not_false_eq_true,and_true]

variable (installed : s.calculatedFactory = true)

omit cap within in
theorem hubbed_installed (installed : s.calculatedFactory = true) : (hubbed i s).calculatedFactory = true := by
  rw [hubbed_setting LoomStore.calculatedFactory (fun _ => rfl) (fun _ => rfl) (fun _ => rfl) fun _ => rfl,installed]

theorem visited_listed (k : DataPointKey) :
    (k.1 ∈ (hubbed i s).devices.values.map (·.address) ∧ k.2.1 ∈ numbersOf (hubbed i s) k.1) ↔
      i.HasChannel (channelOf k) := by
  rw [catalogue_addresses cap within]
  exact and_congr_right fun own => catalogue_numbers cap within own k.2.1

include installed

theorem rebuilt_data_points (k : DataPointKey) : k ∈ (i.rebuilt s).dataPoints ↔
    i.HasCalculated k ∨ i.HasDataPoint k ∨ k ∈ s.dataPoints ∧ ¬ LeavesWithChannel i s (channelOf k) ∧
      (i.HasChannel (channelOf k) → k ∈ s.calculatedDpKeys) := by
  refine (catalogues_mem (hubbed_installed installed) ((hubbed i s).devices.values.map (·.address)) k).1.trans ?_
  rw [visited_listed cap within,hubbed_data_points cap within]
  rfl

theorem rebuilt_calculated (k : DataPointKey) : k ∈ (i.rebuilt s).calculatedDpKeys ↔
    i.HasCalculated k ∨ k ∈ s.calculatedDpKeys ∧ ¬ (k ∈ s.dataPoints ∧ LeavesWithChannel i s (channelOf k)) := by
  refine (catalogues_mem (hubbed_installed installed) ((hubbed i s).devices.values.map (·.address)) k).2.trans ?_
  rw [visited_listed cap within,hubbed_calculated cap within]
  rfl

theorem rebuilt_record (own : i.HasChannel (channelOf k)) : dataPointRecord (i.rebuilt s) k =
    (calculatedWritten i k k.1 k.2.1).or (dataPointRecord (hubbed i s) k) := by
  refine (catalogues_record (hubbed_installed installed) ((hubbed i s).devices.values.map (·.address)) k).trans ?_
  exact if_pos ((visited_listed cap within k).mpr own)

end Rebuilt

section Customs
variable {i : Inventory V} {s : LoomStore V} (cap : WithinCap i s) (within : ∀ a ∈ s.devices, i.HasDevice a)

theorem hubbed_cdps (i : Inventory V) (s : LoomStore V) : (hubbed i s).cdps = s.cdps := by
  rw [hubbed_graph LoomStore.cdps (fun _ => rfl) fun _ => rfl,unchanged (graphed_beside i _) LoomStore.cdps fun _ => rfl]
  exact unchanged (snapshot_beside s i.snapshot) LoomStore.cdps fun _ => rfl

theorem rebuilt_custom (observe : LoomStore V → τ) (k : CustomKey) (holds : τ → Prop) (own : i.HasDevice k.1)
    (cap : WithinCap i s) (within : ∀ a ∈ s.devices, i.HasDevice a)
    (hit : ∀ t : LoomStore V, observe t = observe s ∨ holds (observe t) → holds (observe (i.attachCatalogue t k.1)))
    (read : ∀ t u : LoomStore V, t.cdps.get? k = u.cdps.get? k → observe t = observe u) :
    holds (observe (i.rebuilt s)) := by
  have visited := (catalogue_addresses cap within k.1).mpr own
  have start : observe (hubbed i s) = observe s := read _ _ (by rw [hubbed_cdps])
  refine foldl_settled (fun t : LoomStore V => observe t = observe s) (fun t : LoomStore V => holds (observe t))
    (fun address : Address => address = k.1) ?_ ?_ (.inl ⟨start,k.1,visited,rfl⟩)
  · intro t address _ here known
    exact here ▸ hit t known
  · intro t address _ elsewhere
    have same := read _ _ (customs_miss (i := i) (s := t) k fun _ here => elsewhere here.symm)
    exact ⟨fun known => same.trans known,fun known => same.symm ▸ known⟩

include cap within

theorem rebuilt_custom_kept (k : CustomKey) (aside : ¬ (i.HasDevice k.1 ∧ i.customDataPoints k.1 ≠ [])) :
    (i.rebuilt s).cdps.get? k = s.cdps.get? k := by
  refine foldl_untouched (fun t : LoomStore V => t.cdps.get? k = s.cdps.get? k) (fun _ : Address => False) ?_
    (by rw [←hubbed_cdps i s]; rfl) fun _ _ => id
  intro t address visited _ known
  refine (customs_miss k fun answered here => aside ?_).trans known
  exact here ▸ ⟨(catalogue_addresses cap within address).mp visited,answered⟩

theorem rebuilt_customs (k : CustomKey) : k ∈ (i.rebuilt s).cdps ↔
    i.HasCustom k ∨ k ∈ s.cdps ∧ ¬ (i.HasDevice k.1 ∧ i.customDataPoints k.1 ≠ []) := by
  by_cases answered : i.HasDevice k.1 ∧ i.customDataPoints k.1 ≠ []
  · have listed : k ∈ (i.rebuilt s).cdps ↔ k.2 ∈ (i.customDataPoints k.1).map (·.name) :=
      rebuilt_custom (fun t => k ∈ t.cdps) k (fun held => held ↔ k.2 ∈ (i.customDataPoints k.1).map (·.name))
        answered.1 cap within (fun t _ => customs_hit k rfl answered.2)
        fun t u same => by rw [Dict.mem_iff_get?,Dict.mem_iff_get?,same]
    rw [listed]
    simp only [Inventory.HasCustom,answered,true_and,not_true_eq_false,and_false,or_false,ne_eq,not_false_eq_true]
  · have unlisted : ¬ i.HasCustom k := by
      rintro ⟨own,listed⟩
      obtain ⟨c,member,_⟩ := List.mem_map.mp listed
      exact answered ⟨own,List.ne_nil_of_mem member⟩
    rw [Dict.mem_iff_get?,rebuilt_custom_kept cap within k answered,←Dict.mem_iff_get?]
    simp only [unlisted,answered,false_or,not_false_eq_true,and_true]

theorem rebuilt_custom_record (own : i.HasCustom k) :
    customRecord (i.rebuilt s) k = lastWritten (fun c => (k.1,c.name)) k (i.customDataPoints k.1) :=
  rebuilt_custom (customRecord · k) k (· = lastWritten (fun c => (k.1,c.name)) k (i.customDataPoints k.1)) own.1 cap
    within (fun t _ => custom_record_hit k rfl own.2) fun t u same => by rw [customRecord,same]; rfl

def stateWritten (i : Inventory V) (k : CustomKey) : Option (Dict String V) :=
  (i.customDataPoints k.1).reverse.findSome? fun c => (written (fun c => (k.1,c.name)) k c).bind (·.state)

theorem rebuilt_custom_state (own : i.HasCustom k) :
    customState (i.rebuilt s) k = (stateWritten i k).getD (customState s k) := by
  refine rebuilt_custom (customState · k) k (· = (stateWritten i k).getD (customState s k)) own.1 cap within ?_
    fun t u same => by rw [customState,same]; rfl
  intro t known
  refine (custom_state_hit k rfl own.2).trans ?_
  change (stateWritten i k).getD (customState t k) = _
  rcases known with before | after
  · rw [before]
  · rw [after]
    cases stateWritten i k <;> rfl

end Customs

section Hub
variable (i : Inventory V) (s : LoomStore V)

theorem hub_before {τ : Type} (field : LoomStore V → τ) (blindAlarm : ∀ u, field (besideAlarm u) = field u)
    (blindTree : ∀ u, field (besideDeviceTree u) = field u) :
    field (i.attachPanels (i.attachGraph s)) = field (loadSnapshot s i.snapshot) :=
  (unchanged (panels_frame i _) field blindAlarm).trans (unchanged (graphed_beside i _) field blindTree)

theorem rebuilt_sysvar_record (name : String) : sysvarRecord (i.rebuilt s) name =
    (lastWritten (·.name) name i.sysvars).or
      ((lastWritten (·.name) name (i.snapshot.sysvars.getD [])).or (sysvarRecord s name)) := by
  have programs (t : LoomStore V) (l : List ProgramSummary) :
      sysvarRecord (l.foldl upsertProgram t) name = sysvarRecord t name :=
    foldl_frame upsertProgram (sysvarRecord · name) (fun u p => by rw [sysvarRecord,upsert_program_sysvars]; rfl) t l
  have devices : sysvarRecord (i.snapshot.devices.foldl admitDevice (adoptCentralId s i.snapshot)) name =
      sysvarRecord s name :=
    (unchanged (foldl_frame admitDevice besideDevices admit_beside _ _) (sysvarRecord · name) fun _ => rfl).trans
      (congrArg (sysvarRecord · name) (adopt_central_beside s i.snapshot) :)
  rw [rebuilt_hubbed (sysvarRecord · name) fun _ => rfl,hubbed,Inventory.attachHub,attachHubCatalogue,programs,
    sysvars_written,hub_before i s (sysvarRecord · name) (fun _ => rfl) fun _ => rfl,loadSnapshot,sysvars_written,
    programs,devices]

theorem rebuilt_program_record (id : String) : programRecord (i.rebuilt s) id =
    (lastWritten (·.id) id i.programs).or
      ((lastWritten (·.id) id (i.snapshot.programs.getD [])).or (programRecord s id)) := by
  have sysvars (t : LoomStore V) (l : List (SysvarSummary V)) :
      programRecord (l.foldl upsertSysvar t) id = programRecord t id :=
    foldl_frame upsertSysvar (programRecord · id) (fun u v => by rw [programRecord,upsert_sysvar_programs]; rfl) t l
  have devices : programRecord (i.snapshot.devices.foldl admitDevice (adoptCentralId s i.snapshot)) id =
      programRecord s id :=
    (unchanged (foldl_frame admitDevice besideDevices admit_beside _ _) (programRecord · id) fun _ => rfl).trans
      (congrArg (programRecord · id) (adopt_central_beside s i.snapshot) :)
  rw [rebuilt_hubbed (programRecord · id) fun _ => rfl,hubbed,Inventory.attachHub,attachHubCatalogue,programs_written,
    sysvars,hub_before i s (programRecord · id) (fun _ => rfl) fun _ => rfl,loadSnapshot,sysvars,programs_written,
    devices]

theorem stored_iff_record {κ ν ρ : Type} [DecidableEq κ] (d : Dict κ ν) (record : ν → ρ) (k : κ) :
    k ∈ d ↔ ((d.get? k).map record).isSome := by
  rw [Dict.mem_iff_get?,Option.isSome_map,Option.isSome_iff_exists]

theorem written_iff_listed {κ ρ : Type} [DecidableEq κ] (key : ρ → κ) (k : κ) (records : List ρ) :
    (lastWritten key k records).isSome ↔ k ∈ records.map key := by
  constructor
  · intro wrote
    obtain ⟨r,member,written⟩ := List.findSome?_isSome_iff.mp wrote
    by_cases same : key r = k
    · exact List.mem_map.mpr ⟨r,List.mem_reverse.mp member,same⟩
    · rw [written_other same] at written; cases written
  · intro listed
    exact Option.isSome_iff_exists.mpr (last_written_some key (List.mem_map.mp listed))

theorem rebuilt_sysvars (name : String) : name ∈ (i.rebuilt s).sysvars ↔ i.HasSysvar name ∨ name ∈ s.sysvars := by
  refine (stored_iff_record _ (·.summary) name).trans ?_
  change (sysvarRecord (i.rebuilt s) name).isSome ↔ _
  rw [rebuilt_sysvar_record,Option.isSome_or,Option.isSome_or,Bool.or_eq_true,Bool.or_eq_true,
    stored_iff_record s.sysvars (·.summary),written_iff_listed,written_iff_listed]
  change _ ∨ _ ∨ (sysvarRecord s name).isSome ↔ _ ∨ (sysvarRecord s name).isSome
  rw [Inventory.HasSysvar,List.map_append,List.mem_append,or_assoc,or_left_comm]

theorem rebuilt_programs (id : String) : id ∈ (i.rebuilt s).programs ↔ i.HasProgram id ∨ id ∈ s.programs := by
  refine (stored_iff_record _ (·.summary) id).trans ?_
  change (programRecord (i.rebuilt s) id).isSome ↔ _
  rw [rebuilt_program_record,Option.isSome_or,Option.isSome_or,Bool.or_eq_true,Bool.or_eq_true,
    stored_iff_record s.programs (·.summary),written_iff_listed,written_iff_listed]
  change _ ∨ _ ∨ (programRecord s id).isSome ↔ _ ∨ (programRecord s id).isSome
  rw [Inventory.HasProgram,List.map_append,List.mem_append,or_assoc,or_left_comm]

end Hub

section Keys
variable {i : Inventory V} {s : LoomStore V}

theorem nested_keeps (summary : DeviceSummary) (known : a ∈ s.devices) : a ∈ (i.attachNested s summary).devices := by
  rw [attach_nested_eq,unchanged (parameters_beside _ _) LoomStore.devices fun _ => rfl]
  cases allowed : canAdmitDevice s (nestedDetail i summary).address with
  | false => rwa [detail_refused allowed]
  | true => exact (detail_devices allowed a).mpr (.inr known)

theorem graphed_keeps (devices : List DeviceSummary) (known : a ∈ s.devices) :
    a ∈ (devices.foldl i.attachNested s).devices := by
  induction devices generalizing s with
  | nil => exact known
  | cons summary rest ih => exact ih (nested_keeps summary known)

theorem rebuilt_keeps (known : a ∈ s.devices) : a ∈ (i.rebuilt s).devices := by
  have adopted : a ∈ (adoptCentralId s i.snapshot).devices := by
    have same : (adoptCentralId s i.snapshot).devices = s.devices :=
      (congrArg LoomStore.devices (adopt_central_beside s i.snapshot) :)
    rwa [same]
  rw [rebuilt_hubbed LoomStore.devices fun _ => rfl,hubbed_graph LoomStore.devices (fun _ => rfl) fun _ => rfl]
  refine graphed_keeps _ ?_
  rw [snapshot_devices]
  exact kept_devices _ adopted

theorem rebuilt_match (cap : WithinCap i s) (installed : s.calculatedFactory = true) :
    KeysMatch i (i.rebuilt s) ↔ NothingVanished i s := by
  constructor
  · intro keys
    have within (a : Address) (known : a ∈ s.devices) : i.HasDevice a := (keys.devices a).mp (rebuilt_keeps known)
    refine ⟨within,?_,?_,?_,?_,?_,?_⟩
    · intro k stored
      by_contra foreign
      exact foreign ((keys.channels k).mp ((rebuilt_channels cap within k).mpr (.inr ⟨stored,foreign⟩))).1
    · intro k stored
      have left := (keys.dataPoints k).mp ∘ (rebuilt_data_points cap within installed k).mpr
      by_contra vanished
      simp only [not_or,not_and,not_not] at vanished
      have remains := left (.inr (.inr ⟨stored,vanished.2.2.1,vanished.2.2.2⟩))
      exact remains.elim vanished.1 vanished.2.1
    · intro k stored
      by_cases leaves : k ∈ s.dataPoints ∧ LeavesWithChannel i s (channelOf k)
      · exact .inr leaves
      · exact .inl ((keys.calculated k).mp ((rebuilt_calculated cap within installed k).mpr (.inr ⟨stored,leaves⟩)))
    · intro k stored
      by_cases answered : i.HasDevice k.1 ∧ i.customDataPoints k.1 ≠ []
      · exact .inr answered
      · exact .inl ((keys.customs k).mp ((rebuilt_customs cap within k).mpr (.inr ⟨stored,answered⟩)))
    · exact fun name stored => (keys.sysvars name).mp ((rebuilt_sysvars i s name).mpr (.inr stored))
    · exact fun id stored => (keys.programs id).mp ((rebuilt_programs i s id).mpr (.inr stored))
  · intro kept
    have within := kept.devices
    refine ⟨rebuilt_devices cap within,?_,?_,?_,?_,?_,?_⟩
    · intro k
      refine (rebuilt_channels cap within k).trans (or_iff_left fun foreign => foreign.2 (kept.channels k foreign.1))
    · intro k
      refine (rebuilt_data_points cap within installed k).trans ⟨?_,?_⟩
      · rintro (calculated | generic | ⟨stored,stays,marked⟩)
        · exact .inr calculated
        · exact .inl generic
        · rcases kept.dataPoints k stored with generic | calculated | leaves | ⟨has,unmarked⟩
          · exact .inl generic
          · exact .inr calculated
          · exact absurd leaves stays
          · exact absurd (marked has) unmarked
      · rintro (generic | calculated)
        · exact .inr (.inl generic)
        · exact .inl calculated
    · intro k
      refine (rebuilt_calculated cap within installed k).trans ?_
      exact or_iff_left_of_imp fun ⟨stored,stays⟩ => (kept.calculated k stored).resolve_right stays
    · intro k
      refine (rebuilt_customs cap within k).trans ?_
      exact or_iff_left_of_imp fun ⟨stored,aside⟩ => (kept.customs k stored).resolve_right aside
    · exact fun name => (rebuilt_sysvars i s name).trans (or_iff_left_of_imp (kept.sysvars name))
    · exact fun id => (rebuilt_programs i s id).trans (or_iff_left_of_imp (kept.programs id))

end Keys

-- Two stores with the same records under the same keys.
structure SameRecords (s t : LoomStore V) : Prop where
  devices : ∀ a, deviceRecord t a = deviceRecord s a
  channels : ∀ k, channelRecord t k = channelRecord s k
  dataPoints : ∀ k, dataPointRecord t k = dataPointRecord s k
  calculated : t.calculatedDpKeys = s.calculatedDpKeys
  customs : ∀ k, customRecord t k = customRecord s k
  states : ∀ k, customState t k = customState s k
  sysvars : ∀ name, sysvarRecord t name = sysvarRecord s name
  programs : ∀ id, programRecord t id = programRecord s id

theorem SameRecords.trans {s t u : LoomStore V} (first : SameRecords s t) (second : SameRecords t u) :
    SameRecords s u where
  devices a := (second.devices a).trans (first.devices a)
  channels k := (second.channels k).trans (first.channels k)
  dataPoints k := (second.dataPoints k).trans (first.dataPoints k)
  calculated := second.calculated.trans first.calculated
  customs k := (second.customs k).trans (first.customs k)
  states k := (second.states k).trans (first.states k)
  sysvars name := (second.sysvars name).trans (first.sysvars name)
  programs id := (second.programs id).trans (first.programs id)

theorem same_records_beside {s t : LoomStore V} (frame : besideExtras t = besideExtras s) : SameRecords s t where
  devices a := unchanged frame (deviceRecord · a) fun _ => rfl
  channels k := unchanged frame (channelRecord · k) fun _ => rfl
  dataPoints k := unchanged frame (dataPointRecord · k) fun _ => rfl
  calculated := unchanged frame LoomStore.calculatedDpKeys fun _ => rfl
  customs k := unchanged frame (customRecord · k) fun _ => rfl
  states k := unchanged frame (customState · k) fun _ => rfl
  sysvars name := unchanged frame (sysvarRecord · name) fun _ => rfl
  programs id := unchanged frame (programRecord · id) fun _ => rfl

theorem stored_same {κ ν ρ : Type} [DecidableEq κ] {d e : Dict κ ν} {record : ν → ρ} {k : κ}
    (same : (e.get? k).map record = (d.get? k).map record) : k ∈ e ↔ k ∈ d := by
  rw [stored_iff_record d record,stored_iff_record e record,same]

theorem same_records_match {i : Inventory V} {s t : LoomStore V} (same : SameRecords s t) (keys : KeysMatch i s) :
    KeysMatch i t where
  devices a := (stored_same (same.devices a)).trans (keys.devices a)
  channels k := (stored_same (same.channels k)).trans (keys.channels k)
  dataPoints k := (stored_same (same.dataPoints k)).trans (keys.dataPoints k)
  calculated k := same.calculated ▸ keys.calculated k
  customs k := (stored_same (same.customs k)).trans (keys.customs k)
  sysvars name := (stored_same (same.sysvars name)).trans (keys.sysvars name)
  programs id := (stored_same (same.programs id)).trans (keys.programs id)

theorem matched_vanished {i : Inventory V} {s : LoomStore V} (keys : KeysMatch i s) : NothingVanished i s where
  devices a stored := (keys.devices a).mp stored
  channels k stored := ((keys.channels k).mp stored).1
  dataPoints k stored := ((keys.dataPoints k).mp stored).imp_right .inl
  calculated k stored := .inl ((keys.calculated k).mp stored)
  customs k stored := .inl ((keys.customs k).mp stored)
  sysvars name stored := (keys.sysvars name).mp stored
  programs id stored := (keys.programs id).mp stored

section Again
variable {i : Inventory V} {s : LoomStore V}

theorem absent_record {κ ν ρ : Type} [DecidableEq κ] {d : Dict κ ν} (record : ν → ρ) {k : κ} (absent : k ∉ d) :
    (d.get? k).map record = none := by rw [Dict.get?_eq_none.mpr absent]; rfl

theorem rebuilt_data_point_record (cap : WithinCap i s) (within : ∀ a ∈ s.devices, i.HasDevice a)
    (installed : s.calculatedFactory = true) (own : i.HasDataPoint k ∨ i.HasCalculated k) :
    dataPointRecord (i.rebuilt s) k = (calculatedWritten i k k.1 k.2.1).or (dataPointWritten i k) := by
  have channel : i.HasChannel (channelOf k) := own.elim And.left And.left
  rw [rebuilt_record cap within installed channel]
  by_cases calculated : Lists i k
  · obtain ⟨summary,wrote⟩ := calculated_written_some k calculated
    rw [wrote,Option.some_or,Option.some_or]
  · have generic : i.HasDataPoint k := own.resolve_right fun has => calculated has.2
    rw [hubbed_graph (dataPointRecord · k) (fun _ => rfl) fun _ => rfl,
      graphed_data_point_record (held_all cap within) generic]

theorem rebuilt_again {t : LoomStore V} (capS : WithinCap i s) (installedS : s.calculatedFactory = true)
    (kept : NothingVanished i s) (capT : WithinCap i t) (installedT : t.calculatedFactory = true)
    (same : SameRecords (i.rebuilt s) t) : SameRecords t (i.rebuilt t) := by
  have first := (rebuilt_match capS installedS).mpr kept
  have keys := same_records_match same first
  have second := (rebuilt_match capT installedT).mpr (matched_vanished keys)
  have within := (matched_vanished keys).devices
  refine ⟨?_,?_,?_,?_,?_,?_,?_,?_⟩
  · intro a
    rw [same.devices]
    by_cases own : i.HasDevice a
    · obtain ⟨d,_,stored,wrote⟩ := hubbed_device_record capS kept.devices own
      obtain ⟨e,_,again,rewrote⟩ := hubbed_device_record capT within own
      rw [rebuilt_hubbed (deviceRecord · a) fun _ => rfl,rebuilt_hubbed (deviceRecord · a) fun _ => rfl,again,stored,
        ←wrote,←rewrote]
    · rw [deviceRecord,absent_record _ fun stored => own ((second.devices a).mp stored),deviceRecord,
        absent_record _ fun stored => own ((first.devices a).mp stored)]
  · intro k
    rw [same.channels]
    by_cases own : i.HasChannel k
    · rw [rebuilt_hubbed (channelRecord · k) fun _ => rfl,rebuilt_hubbed (channelRecord · k) fun _ => rfl,
        hubbed_channel_record capT within own,hubbed_channel_record capS kept.devices own]
    · rw [channelRecord,absent_record _ fun stored => own ((second.channels k).mp stored),channelRecord,
        absent_record _ fun stored => own ((first.channels k).mp stored)]
  · intro k
    rw [same.dataPoints]
    by_cases own : i.HasDataPoint k ∨ i.HasCalculated k
    · rw [rebuilt_data_point_record capT within installedT own,
        rebuilt_data_point_record capS kept.devices installedS own]
    · rw [dataPointRecord,absent_record _ fun stored => own ((second.dataPoints k).mp stored),dataPointRecord,
        absent_record _ fun stored => own ((first.dataPoints k).mp stored)]
  · rw [same.calculated]
    exact Finset.ext fun k => (second.calculated k).trans (first.calculated k).symm
  · intro k
    rw [same.customs]
    by_cases own : i.HasCustom k
    · rw [rebuilt_custom_record capT within own,rebuilt_custom_record capS kept.devices own]
    · rw [customRecord,absent_record _ fun stored => own ((second.customs k).mp stored),customRecord,
        absent_record _ fun stored => own ((first.customs k).mp stored)]
  · intro k
    by_cases own : i.HasCustom k
    · rw [rebuilt_custom_state capT within own,same.states,rebuilt_custom_state capS kept.devices own]
      cases stateWritten i k <;> rfl
    · rw [customState,absent_record _ fun stored => own ((second.customs k).mp stored),customState,
        absent_record _ fun stored => own ((keys.customs k).mp stored)]
  · intro name
    rw [rebuilt_sysvar_record,same.sysvars,rebuilt_sysvar_record]
    cases lastWritten (·.name) name i.sysvars with
    | some => rfl
    | none => cases lastWritten (·.name) name (i.snapshot.sysvars.getD []) <;> rfl
  · intro id
    rw [rebuilt_program_record,same.programs,rebuilt_program_record]
    cases lastWritten (·.id) id i.programs with
    | some => rfl
    | none => cases lastWritten (·.id) id (i.snapshot.programs.getD []) <;> rfl

end Again

-- The client's re-bootstrap with the adapter's hook, nothing interleaved.
def rebootstrapped (upstream : Upstream) (i : Inventory V) (a : Adapter V) : Adapter V :=
  finish upstream i (runRebootstrap true) a

def pinnedStore (s : LoomStore V) (count : Nat) (centralId : String) : LoomStore V :=
  {s with daemonCentralCount := count,centralId}

theorem pinned_same (s : LoomStore V) (count : Nat) (centralId : String) : SameRecords s (pinnedStore s count centralId) :=
  ⟨fun _ => rfl,fun _ => rfl,fun _ => rfl,rfl,fun _ => rfl,fun _ => rfl,fun _ => rfl,fun _ => rfl⟩

theorem pinned_vanished (i : Inventory V) (s : LoomStore V) (count : Nat) (centralId : String) :
    NothingVanished i (pinnedStore s count centralId) ↔ NothingVanished i s := by
  constructor
  · exact fun kept => ⟨kept.devices,kept.channels,kept.dataPoints,kept.calculated,kept.customs,kept.sysvars,kept.programs⟩
  · exact fun kept => ⟨kept.devices,kept.channels,kept.dataPoints,kept.calculated,kept.customs,kept.sysvars,kept.programs⟩

theorem rebootstrapped_store (upstream : Upstream) (i : Inventory V) (a : Adapter V) : ∃ count centralId,
    besideExtras (rebootstrapped upstream i a).store =
      besideExtras (i.rebuilt (pinnedStore a.store count centralId)) := by
  obtain ⟨count,announced,labels,done⟩ := finish_rebootstrap upstream i a
  refine ⟨count,i.pinnedId a.store,?_⟩
  rw [rebootstrapped,done]
  exact tail_beside upstream i _

theorem resynchronised_iff_nothing_vanished (upstream : Upstream) (i : Inventory V) (a : Adapter V)
    (installed : a.store.calculatedFactory = true) (cap : WithinCap i a.store) :
    (KeysMatch i (rebootstrapped upstream i a).store ∧ SameRecords (rebootstrapped upstream i a).store
      (rebootstrapped upstream i (rebootstrapped upstream i a)).store) ↔ NothingVanished i a.store := by
  obtain ⟨count,centralId,frame⟩ := rebootstrapped_store upstream i a
  have exact_keys := rebuilt_match (s := pinnedStore a.store count centralId) cap installed
  rw [pinned_vanished] at exact_keys
  constructor
  · intro ⟨keys,_⟩
    exact exact_keys.mp (same_records_match (same_records_beside frame.symm) keys)
  · intro kept
    have same := same_records_beside frame
    refine ⟨same_records_match same (exact_keys.mpr kept),?_⟩
    obtain ⟨again,name,later⟩ := rebootstrapped_store upstream i (rebootstrapped upstream i a)
    have capAfter : WithinCap i (rebootstrapped upstream i a).store := by
      unfold WithinCap
      rw [unchanged frame LoomStore.maxDevices fun _ => rfl,rebuilt_setting LoomStore.maxDevices (fun _ => rfl)
        (fun _ => rfl) (fun _ => rfl) (fun _ => rfl) fun _ => rfl]
      exact cap
    have installedAfter : (rebootstrapped upstream i a).store.calculatedFactory = true := by
      rw [unchanged frame LoomStore.calculatedFactory fun _ => rfl,rebuilt_setting LoomStore.calculatedFactory
        (fun _ => rfl) (fun _ => rfl) (fun _ => rfl) (fun _ => rfl) fun _ => rfl]
      exact installed
    have repeated := rebuilt_again (s := pinnedStore a.store count centralId)
      (t := pinnedStore (rebootstrapped upstream i a).store again name) cap installed
      ((pinned_vanished i a.store count centralId).mpr kept) capAfter installedAfter (same.trans (pinned_same _ again name))
    exact ((pinned_same _ again name).trans repeated).trans (same_records_beside later)

-- One device without channels, and no device.
def emptyInventory : Inventory Nat where
  ccus := none
  snapshot := ⟨[],none,none,none,none⟩
  sysvars := []
  programs := []
  alarmPanels := none
  customDataPoints _ := []
  calculatedDataPoints _ _ := []
  weekProfile _ _ := none
  channelSchedule _ _ := none
  nested _ listed := absurd listed List.not_mem_nil
  own _ listed := absurd listed List.not_mem_nil

def singleInventory : Inventory Nat := {emptyInventory with
  snapshot := ⟨[bareSummary "A"],none,none,none,some [⟨"A",[]⟩]⟩
  nested := by decide +kernel
  own := by
    intro summary listed channels found channel member
    obtain rfl := List.mem_singleton.mp listed
    have empty : (channelMap (V := Nat) ⟨[bareSummary "A"],none,none,none,some [⟨"A",[]⟩]⟩).get?
      (bareSummary "A").address = some [] := by decide +kernel
    rw [empty] at found
    obtain rfl := Option.some.inj found
    cases member}

-- The records of a small plant.
def plantProgram : ProgramSummary := ⟨none,"7","away",some true,none,none,none,none,"p7"⟩
def plantSysvar (name : String) : SysvarSummary Nat := ⟨none,name,"NUMBER",some 1,true,none,none,none,none,none,name⟩
def plantCustom (name : String) (channelNo : Int) : CustomDPSummary Nat := ⟨name,"cover",channelNo,none,none,name,none⟩
def plantCalculated (name uniqueId : String) : CalculatedDPSummary Nat :=
  ⟨name,none,some 3,true,true,none,none,uniqueId⟩
def plantChannel (number : Int) (address : String) (parameters : List String) : Wire.Channel Nat :=
  {bareChannel address number with dataPoints := some (parameters.map fun p => bareDataPoint p (address ++ p) none)}

-- Everything hangs on the device's own address.
def plantInventory (channels : List (Wire.Channel Nat)) (customs : List (CustomDPSummary Nat))
    (calculated : Int → List (CalculatedDPSummary Nat)) (sysvars : List (SysvarSummary Nat))
    (own : ∀ channel ∈ channels, devicePart channel.address = "A") : Inventory Nat := {emptyInventory with
  snapshot := ⟨[bareSummary "A"],some [plantProgram],some sysvars,none,some [⟨"A",channels⟩]⟩
  sysvars
  programs := [plantProgram]
  customDataPoints := fun address => if address = "A" then customs else []
  calculatedDataPoints := fun address channel => if address = "A" then calculated channel else []
  nested := by
    intro summary listed
    obtain rfl := List.mem_singleton.mp listed
    exact List.mem_singleton.mpr rfl
  own := by
    intro summary listed nested found channel member
    obtain rfl := List.mem_singleton.mp listed
    obtain rfl := Option.some.inj found
    exact own channel member}

-- Channel 2 goes with its data points, a generic data point of channel 1 and a custom data point
-- go, a variable comes.
def plantBefore : Inventory Nat :=
  plantInventory [plantChannel 1 "A:1" ["STATE","LEVEL"],plantChannel 2 "A:2" ["STATE"]]
    [plantCustom "blind" 1,plantCustom "shutter" 2] (fun n => [plantCalculated "DEW_POINT" (if n = 1 then "d1" else "d2")])
    [plantSysvar "rain"] (by decide +kernel)

def plantAfter : Inventory Nat :=
  plantInventory [plantChannel 1 "A:1" ["STATE"]] [plantCustom "blind" 1] (fun _ => [plantCalculated "DEW_POINT" "d1"])
    [plantSysvar "rain",plantSysvar "wind"] (by decide +kernel)

def plantClient : Adapter Nat := rebootstrapped bareUpstream plantBefore (.initial 10 "" "")

theorem shrunken_plant_resynchronised :
    let later := rebootstrapped bareUpstream plantAfter plantClient
    (("A",2) ∈ plantClient.store.channels ∧ ("A",1,"LEVEL") ∈ plantClient.store.dataPoints ∧
      ("A",2,"DEW_POINT") ∈ plantClient.store.calculatedDpKeys ∧ ("A","shutter") ∈ plantClient.store.cdps ∧
      "rain" ∈ plantClient.store.sysvars ∧ "7" ∈ plantClient.store.programs) ∧
      KeysMatch plantAfter later.store ∧
      SameRecords later.store (rebootstrapped bareUpstream plantAfter later).store := by
  have fits : WithinCap plantAfter plantClient.store := by unfold WithinCap; decide +kernel
  have vanished : NothingVanished plantAfter plantClient.store := by decide +kernel
  refine ⟨by decide +kernel,?_⟩
  exact (resynchronised_iff_nothing_vanished bareUpstream plantAfter plantClient (by decide +kernel) fits).mpr vanished

-- The device leaves the daemon while its removal is lost: it stays in the store.
theorem vanished_device_survives :
    ¬ (KeysMatch emptyInventory (rebootstrapped bareUpstream emptyInventory
        (rebootstrapped bareUpstream singleInventory (.initial 10 "" ""))).store ∧
      SameRecords (rebootstrapped bareUpstream emptyInventory
        (rebootstrapped bareUpstream singleInventory (.initial 10 "" ""))).store
        (rebootstrapped bareUpstream emptyInventory (rebootstrapped bareUpstream emptyInventory
          (rebootstrapped bareUpstream singleInventory (.initial 10 "" "")))).store) := by
  intro ⟨keys,_⟩
  have stored : "A" ∈ (rebootstrapped bareUpstream emptyInventory
    (rebootstrapped bareUpstream singleInventory (.initial 10 "" ""))).store.devices := by decide +kernel
  have listed : emptyInventory.HasDevice "A" := (keys.devices "A").mp stored
  exact absurd listed List.not_mem_nil

end LoomClient.Client
