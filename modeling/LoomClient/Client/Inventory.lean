import LoomClient.Client.Walks
import LoomClient.Compat.Frame

namespace LoomClient.Client
open Lib Wire Store Compat
variable {V : Type}

-- Everything one complete re-bootstrap reads: a nested snapshot, which carries
-- the channels of each of its devices, and the REST catalogues.
structure Inventory (V : Type) where
  ccus : Option (List (Option String))
  snapshot : Snapshot V
  sysvars : List (SysvarSummary V)
  programs : List ProgramSummary
  alarmPanels : Option (List AlarmPanelEntity)
  customDataPoints : Address → List (CustomDPSummary V)
  calculatedDataPoints : Address → Int → List (CalculatedDPSummary V)
  weekProfile : Address → Int → Option WeekProfileResponse
  channelSchedule : Address → Int → Option Nat
  nested : ∀ summary ∈ snapshot.devices, summary.address ∈ channelMap snapshot
  own : ∀ summary ∈ snapshot.devices, ∀ channels, (channelMap snapshot).get? summary.address = some channels →
    ∀ channel ∈ channels, devicePart channel.address = summary.address

namespace Inventory
variable (i : Inventory V)

def answers : Answers V
  | .systemCcus => i.ccus
  | .snapshot _ _ => some i.snapshot
  | .alarmPanels => some i.alarmPanels
  | .alarmZoneStatuses => some ()
  | .triggeredMotion => some ()
  | .sysvars => some i.sysvars
  | .programs => some i.programs
  | .customDataPoints address => some (i.customDataPoints address)
  | .calculatedDataPoints address channel => some (i.calculatedDataPoints address channel)
  | .weekProfile address channel => i.weekProfile address channel
  | .channelSchedule address channel => i.channelSchedule address channel
  | _ => none

def channels (address : Address) : List (Wire.Channel V) := ((channelMap i.snapshot).get? address).getD []

def dataPoints (address : Address) (channel : Int) : List (DataPointSummary V) :=
  (channelDpMap (i.channels address)).getD channel []

def keptCalculated (address : Address) (channel : Int) : List (CalculatedDPSummary V) :=
  (i.calculatedDataPoints address channel).filter fun c => c.name ∉ suppressedCalculatedNames

-- The central that the first read pins.
def pinnedId (s : LoomStore V) : String :=
  if s.centralId ≠ "" then s.centralId
  else match i.ccus with
    | none => ""
    | some entries =>
      if s.centralName ≠ "" ∧ s.centralName ∈ entries.filterMap truthy then s.centralName
      else match entries.filterMap truthy with
        | [only] => only
        | _ => ""

-- The store operations of a complete re-bootstrap, as loops.
def attachNested (s : LoomStore V) (summary : DeviceSummary) : LoomStore V :=
  (i.channels summary.address).foldl
    (fun t c => attachChannelDataPoints t summary.address c.number (i.dataPoints summary.address c.number))
    (attachDeviceDetail s (summary.withChannels ((i.channels summary.address).map (·.toChannelSummary))))

def attachPanels (s : LoomStore V) : LoomStore V :=
  match i.alarmPanels with
  | none => s
  | some panels => attachAlarmPanels s panels

def attachCustoms (s : LoomStore V) (address : Address) : LoomStore V :=
  if (i.customDataPoints address).isEmpty then s else attachCustomDataPoints s address (i.customDataPoints address)

def attachCalculated (address : Address) (s : LoomStore V) (channel : Int) : LoomStore V :=
  if (i.keptCalculated address channel).isEmpty then s
  else attachChannelCalculatedDataPoints s address channel (i.keptCalculated address channel)

def attachCatalogue (s : LoomStore V) (address : Address) : LoomStore V :=
  let t := i.attachCustoms s address
  ((channelsOf t address).map (·.number)).foldl (i.attachCalculated address) t

def attachGraph (s : LoomStore V) : LoomStore V := i.snapshot.devices.foldl i.attachNested (loadSnapshot s i.snapshot)

def attachHub (s : LoomStore V) : LoomStore V := attachHubCatalogue s i.sysvars i.programs

def attachCatalogues (s : LoomStore V) : LoomStore V :=
  (s.devices.values.map (·.address)).foldl i.attachCatalogue s

def rebuilt (s : LoomStore V) : LoomStore V := i.attachCatalogues (i.attachHub (i.attachPanels (i.attachGraph s)))

end Inventory

-- The rest of the adapter's rebuild once the catalogues are in.
def layerTail : Coroutine V :=
  bootstrapSchedules <| .perform .bootstrapCombinedDataPoints <| .perform .emitDataPointsCreated .done

section Complete
variable (upstream : Upstream) (i : Inventory V) (next : Coroutine V)

abbrev finish (walk : Coroutine V) (a : Adapter V) : Adapter V := walk.complete (applyEffect upstream) i.answers a

theorem finish_pin (a : Adapter V) : ∃ count, finish upstream i (pinCentralId next) a =
    finish upstream i next {a with store := {a.store with daemonCentralCount := count,centralId := i.pinnedId a.store}} := by
  dsimp only [finish,pinCentralId,Walk.complete]
  unfold Inventory.pinnedId
  split
  · exact ⟨a.store.daemonCentralCount,rfl⟩
  · rename_i unset
    have blank : a.store.centralId = "" := not_not.mp unset
    dsimp only [Walk.complete,Inventory.answers]
    cases i.ccus with
    | none =>
      refine ⟨a.store.daemonCentralCount,?_⟩
      rw [←blank]
    | some entries =>
      refine ⟨(entries.filterMap truthy).length,?_⟩
      have configured : shownCentralName {a.store with daemonCentralCount := (entries.filterMap truthy).length} =
          a.store.centralName := by
        simp only [shownCentralName,blank]
        split
        · rename_i unnamed
          exact unnamed.symm
        · rfl
      dsimp only [onStore,Walk.complete,applyEffect,apply]
      rw [configured]
      split
      · rfl
      · cases entries.filterMap truthy with
        | nil => rw [←blank]
        | cons only rest =>
          cases rest with
          | nil => rfl
          | cons => rw [←blank]

theorem finish_operations (operations : List (Operation V)) (a : Adapter V) :
    finish upstream i (operations.foldr onStore next) a =
      finish upstream i next {a with store := operations.foldl apply a.store} := by
  induction operations generalizing a with
  | nil => rfl
  | cons operation rest ih => exact ih _

theorem finish_attach (a : Adapter V) (summary : DeviceSummary) :
    finish upstream i (attachDeviceFromSnapshot summary (i.channels summary.address)
      (some (channelDpMap (i.channels summary.address))) next) a =
      finish upstream i next {a with store := i.attachNested a.store summary} := by
  let detailed : Adapter V := {a with
    store := attachDeviceDetail a.store (summary.withChannels ((i.channels summary.address).map (·.toChannelSummary)))}
  have loop := finish_operations upstream i next ((i.channels summary.address).map fun c =>
    .attachChannelDataPoints summary.address c.number ((channelDpMap (i.channels summary.address)).getD c.number []))
    detailed
  rw [List.foldr_map,List.foldl_map] at loop
  exact loop

theorem finish_devices (a : Adapter V) (devices : List DeviceSummary)
    (known : ∀ summary ∈ devices, summary.address ∈ channelMap i.snapshot) :
    finish upstream i (bootstrapDevices i.snapshot true next devices) a =
      finish upstream i next {a with store := devices.foldl i.attachNested a.store} := by
  induction devices generalizing a with
  | nil => rfl
  | cons summary rest ih =>
    obtain ⟨channels,found⟩ := Dict.mem_iff_get?.mp (known summary (.head rest))
    have same : i.channels summary.address = channels := by rw [Inventory.channels,found]; rfl
    have attached := finish_attach upstream i (bootstrapDevices i.snapshot true next rest) a summary
    rw [same] at attached
    unfold bootstrapDevices
    dsimp only
    rw [found]
    exact attached.trans (ih _ fun summary member => known summary (.tail _ member))

theorem finish_panels (a : Adapter V) : finish upstream i (bootstrapAlarmPanels next) a =
    finish upstream i next {a with store := i.attachPanels a.store} := by
  unfold bootstrapAlarmPanels Inventory.attachPanels
  dsimp only [finish,Walk.complete,Inventory.answers]
  cases i.alarmPanels with
  | none => rfl
  | some panels =>
    dsimp only [onStore,Walk.complete]
    split <;> rfl

theorem finish_labels (a : Adapter V) (address : Address) (channel : Int) (calculated : List (CalculatedDPSummary V)) :
    ∃ labels, finish upstream i (suppressLabels address channel calculated next) a =
      finish upstream i next {a with suppressedCalcLabels := labels} := by
  induction calculated generalizing a with
  | nil => exact ⟨a.suppressedCalcLabels,rfl⟩
  | cons c rest ih =>
    unfold suppressLabels at ih ⊢
    rw [List.foldr_cons]
    split
    · split
      · exact ih _
      · exact ih a
    · exact ih a

theorem finish_calculated (a : Adapter V) (address : Address) (channels : List Int) :
    ∃ labels, finish upstream i (fetchCalculated address next channels) a = finish upstream i next
      {a with store := channels.foldl (i.attachCalculated address) a.store,suppressedCalcLabels := labels} := by
  induction channels generalizing a with
  | nil => exact ⟨a.suppressedCalcLabels,rfl⟩
  | cons channel rest ih =>
    let later := if (i.keptCalculated address channel).isEmpty then fetchCalculated address next rest
      else onStore (.attachChannelCalculatedDataPoints address channel (i.keptCalculated address channel))
        (fetchCalculated address next rest)
    obtain ⟨labels,labelled⟩ := finish_labels upstream i later a address channel (i.calculatedDataPoints address channel)
    change ∃ labels, finish upstream i (suppressLabels address channel _ later) a = _
    rw [labelled,List.foldl_cons,Inventory.attachCalculated]
    dsimp only [later]
    split
    · exact ih _
    · exact ih _

theorem finish_catalogue (a : Adapter V) (devices : List Address) :
    ∃ labels, finish upstream i (fetchCustomDataPoints next devices) a = finish upstream i next
      {a with store := devices.foldl i.attachCatalogue a.store,suppressedCalcLabels := labels} := by
  induction devices generalizing a with
  | nil => exact ⟨a.suppressedCalcLabels,rfl⟩
  | cons address rest ih =>
    let later (b : Adapter V) := finish upstream i (fetchCalculated address (fetchCustomDataPoints next rest)
      ((channelsOf b.store address).map (·.number))) b
    have fetched : finish upstream i (fetchCustomDataPoints next (address :: rest)) a =
        later {a with store := i.attachCustoms a.store address} := by
      unfold fetchCustomDataPoints Inventory.attachCustoms
      dsimp only [finish,Walk.complete,Inventory.answers]
      split <;> rfl
    obtain ⟨labels,calculated⟩ := finish_calculated upstream i (fetchCustomDataPoints next rest)
      {a with store := i.attachCustoms a.store address} address
      ((channelsOf (i.attachCustoms a.store address) address).map (·.number))
    obtain ⟨others,done⟩ := ih {a with store := i.attachCatalogue a.store address,suppressedCalcLabels := labels}
    exact ⟨others,fetched.trans (calculated.trans done)⟩

-- The whole run up to the schedules, as one function of the store.
theorem finish_rebootstrap (a : Adapter V) : ∃ count announced labels,
    finish upstream i (runRebootstrap true) a = finish upstream i layerTail {a with
      store := i.rebuilt {a.store with daemonCentralCount := count,centralId := i.pinnedId a.store}
      loomAnnouncements := announced
      suppressedCalcLabels := labels} := by
  unfold runRebootstrap bootstrap
  obtain ⟨count,pinned⟩ := finish_pin upstream i _ a
  let first : LoomStore V := {a.store with daemonCentralCount := count,centralId := i.pinnedId a.store}
  let loaded : Adapter V := {a with store := loadSnapshot first i.snapshot}
  have walked := finish_devices upstream i (bootstrapAlarmPanels <| .look fun a =>
    .perform (.publishDataPointsCreated a.store.devices.keys) onStoreRebootstrapped) loaded i.snapshot.devices i.nested
  let graphed : Adapter V := {a with store := i.attachGraph first}
  have paneled := finish_panels upstream i
    (.look fun a => .perform (.publishDataPointsCreated a.store.devices.keys) onStoreRebootstrapped) graphed
  let merged : Adapter V := {graphed with
    store := i.attachHub (i.attachPanels graphed.store)
    loomAnnouncements := a.loomAnnouncements ++ [(i.attachPanels graphed.store).devices.keys]}
  obtain ⟨labels,done⟩ := finish_catalogue upstream i layerTail merged (merged.store.devices.values.map (·.address))
  refine ⟨count,merged.loomAnnouncements,labels,?_⟩
  rw [pinned]
  exact walked.trans (paneled.trans done)

-- The tail mints identities and registers week profiles.
def IsLayered : Effect V → Prop
  | .store _ => False
  | _ => True

theorem tail_layered : (layerTail : Coroutine V).Only (fun _ => True) IsLayered := by
  have spawns : ∀ address channel profile entries switches,
      IsLayered (.spawnWeekProfile address channel profile entries switches : Effect V) := fun _ _ _ _ _ => trivial
  unfold layerTail
  refine schedules_only (fun _ _ => trivial) (fun _ _ => trivial) spawns ?_
  exact ⟨trivial,trivial,trivial⟩

theorem layered_beside (a : Adapter V) (effect : Effect V) (layered : IsLayered effect) :
    besideExtras (applyEffect upstream a effect).store = besideExtras a.store := by
  refine effect_beside upstream a effect fun operation same => ?_
  rw [same] at layered
  exact layered

theorem tail_beside (a : Adapter V) : besideExtras (finish upstream i layerTail a).store = besideExtras a.store := by
  have kept (b : Adapter V) (effect : Effect V) (layered : IsLayered effect)
      (same : besideExtras b.store = besideExtras a.store) :
      besideExtras (applyEffect upstream b effect).store = besideExtras a.store :=
    (layered_beside upstream b effect layered).trans same
  exact Walk.complete_only (fun b : Adapter V => besideExtras b.store = besideExtras a.store) kept i.answers
    layerTail a tail_layered rfl

end Complete
end LoomClient.Client
