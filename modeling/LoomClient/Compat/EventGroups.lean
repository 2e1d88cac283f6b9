import LoomClient.Compat.Frame
import LoomClient.Store.InPlace
import LoomClient.Store.Records
import Mathlib.Data.List.Sort

namespace LoomClient.Compat
open Lib Wire Store
variable {V : Type}

inductive TriggerKind where
  | keypress
  | impulse
  | deviceError
  deriving DecidableEq, Repr

def TriggerKind.short : TriggerKind → String
  | .keypress => "keypress"
  | .impulse => "impulse"
  | .deviceError => "device_error"

-- `_TRIGGER_BY_KIND`: a flavour the client does not know has no type.
def TriggerKind.ofSlug (kind : String) : Option TriggerKind :=
  [TriggerKind.keypress,.impulse,.deviceError].find? fun k => k.short = kind

-- `_trigger_type`: a token it does not know counts as a keypress.
def triggerType (token : String) : TriggerKind :=
  if token = "device_error" ∨ token = "homematic.device_error" then .deviceError
  else if token = "impulse" ∨ token = "homematic.impulse" then .impulse
  else .keypress

-- The channel and the members are the objects the store has at that moment.
structure BuiltGroup where
  uniqueId : String
  kind : TriggerKind
  channel : ChannelKey
  channelOid : Model.Oid
  events : List (DataPointKey × Model.Oid)
  deriving DecidableEq, Repr

def BuiltGroup.names (b : BuiltGroup) : String × TriggerKind × ChannelKey × List DataPointKey :=
  (b.uniqueId,b.kind,b.channel,b.events.map Prod.fst)

structure EventGroup (V : Type) extends BuiltGroup where
  oid : Model.Oid
  registered : Bool
  lastTriggered : Option (String × Option V)

structure TriggerPayload (V : Type) where
  deviceAddress : Address
  channel : Int
  eventType : String
  parameter : String
  value : Option V

def isMember (declared : EventGroupSummary) (dp : Model.DataPoint V) : Bool :=
  decide (dp.summary.parameter ∈ declared.parameters ∧ dp.summary.operations.event = true ∧
    ∀ u ∈ dp.summary.usage, u ∉ suppressedUsages)

def memberEvents (s : LoomStore V) (channel : ChannelKey) (declared : EventGroupSummary) : List (DataPointKey × Model.Oid) :=
  (((s.dataPoints.entries.filter fun e => channelOf e.1 = channel).insertionSort
    fun a b => a.2.summary.parameter ≤ b.2.summary.parameter).filter fun e => isMember declared e.2).map
      fun e => (e.1,e.2.oid)

def buildGroup (s : LoomStore V) (eventType : Option TriggerKind) (c : Model.Channel) (declared : EventGroupSummary) :
    Option BuiltGroup :=
  (TriggerKind.ofSlug declared.kind).bind fun kind =>
    if eventType.any (· ≠ kind) ∨ memberEvents s (channelKey c.summary) declared = [] then none
    else some ⟨declared.uniqueId,kind,channelKey c.summary,c.oid,memberEvents s (channelKey c.summary) declared⟩

-- `build_event_groups`
def buildGroups (s : LoomStore V) (eventType : Option TriggerKind) : List BuiltGroup :=
  s.devices.values.flatMap fun d => (channelsOf s d.address).flatMap fun c =>
    (c.summary.eventGroups.getD []).filterMap (buildGroup s eventType c)

-- The facade over its store, with the groups it has handed out by unique id.
structure GroupFacade (V : Type) where
  store : LoomStore V
  groups : Dict String (EventGroup V)

inductive GroupAction (V : Type) where
  | store (operation : Operation V)
  | getEventGroups (eventType : Option TriggerKind) (registered : Option Bool)
  | trigger (payload : TriggerPayload V)
  | register (uniqueId : String)
  | unregister (uniqueId : String)

namespace GroupFacade

def initial (maxDevices : Nat) (centralName serialSuffix : String) : GroupFacade V :=
  ⟨.categorised maxDevices centralName serialSuffix,.empty⟩

def cacheGroup (x : GroupFacade V) (built : BuiltGroup) : GroupFacade V :=
  if built.uniqueId ∈ x.groups then x else
    { store := {x.store with nextOid := x.store.nextOid + 1}
      groups := x.groups.set built.uniqueId
        {built with oid := x.store.nextOid, registered := false, lastTriggered := none} }

def scanned (x : GroupFacade V) (eventType : Option TriggerKind) : GroupFacade V :=
  (buildGroups x.store eventType).foldl cacheGroup x

def getEventGroups (x : GroupFacade V) (eventType : Option TriggerKind) (registered : Option Bool) : List (EventGroup V) :=
  (buildGroups x.store eventType).filterMap fun b =>
    ((x.scanned eventType).groups.get? b.uniqueId).filter fun g => registered.all (g.registered = ·)

def findEventGroup (x : GroupFacade V) (deviceAddress : Address) (channelNo : Option Int) (eventType : TriggerKind) :
    Option (EventGroup V) :=
  x.groups.values.find? fun g => g.channel.1 = deviceAddress ∧ some g.channel.2 = channelNo ∧ g.kind = eventType

def recordTrigger (p : TriggerPayload V) (g : EventGroup V) : EventGroup V := {g with lastTriggered := some (p.parameter,p.value)}

-- `on_trigger`, as far as it concerns the groups.
def onTrigger (x : GroupFacade V) (p : TriggerPayload V) : GroupFacade V :=
  match x.findEventGroup p.deviceAddress (some p.channel) (triggerType p.eventType) with
  | none => x
  | some g => {x with groups := x.groups.modify g.uniqueId (recordTrigger p)}

def step (x : GroupFacade V) : GroupAction V → Option (GroupFacade V)
  | .store operation => some {x with store := apply x.store operation}
  | .getEventGroups eventType _ => some (x.scanned eventType)
  | .trigger p => some (x.onTrigger p)
  | .register uniqueId => some {x with groups := x.groups.modify uniqueId fun g => {g with registered := true}}
  | .unregister uniqueId => some {x with groups := x.groups.modify uniqueId fun g => {g with registered := false}}

end GroupFacade

structure Refers (s : LoomStore V) (b : BuiltGroup) : Prop where
  channel : objectsAt s (.channel b.channel) = some [b.channelOid]
  events : ∀ e ∈ b.events, objectsAt s (.dataPoint e.1) = some [e.2]

-- A group is live when a scan of the store as it is would build the same again.
def LiveGroup (s : LoomStore V) (b : BuiltGroup) : Prop := Refers s b ∧ b ∈ buildGroups s none

def Concerns (p : TriggerPayload V) (b : BuiltGroup) : Prop :=
  b.channel = (p.deviceAddress,p.channel) ∧ b.kind = triggerType p.eventType

structure GroupLaw (x : GroupFacade V) (a : GroupAction V) (y : GroupFacade V) : Prop where
  handed : ∀ eventType registered, ∀ g ∈ y.getEventGroups eventType registered, LiveGroup y.store g.toBuiltGroup
  found : ∀ address channelNo kind g, y.findEventGroup address channelNo kind = some g → Refers y.store g.toBuiltGroup
  recorded : ∀ p, a = .trigger p → ∀ b ∈ buildGroups x.store none, Concerns p b →
    ∃ g ∈ y.getEventGroups none none, Concerns p g.toBuiltGroup ∧ g.lastTriggered = some (p.parameter,p.value)

def Stored (s : LoomStore V) (b : BuiltGroup) : Prop :=
  (s.channels.get? b.channel).isSome ∧ ∀ e ∈ b.events, (s.dataPoints.get? e.1).isSome

def Served (s : LoomStore V) (uniqueId : String) : Prop := ∃ b ∈ buildGroups s none, b.uniqueId = uniqueId

def Declared (s : LoomStore V) (b : BuiltGroup) : Prop :=
  ∃ d ∈ s.devices.values, ∃ c ∈ channelsOf s d.address, channelKey c.summary = b.channel ∧
    ∃ declared ∈ c.summary.eventGroups.getD [], declared.uniqueId = b.uniqueId ∧ declared.kind = b.kind.short ∧
      memberEvents s b.channel declared ≠ [] ∧ (memberEvents s b.channel declared).map Prod.fst = b.events.map Prod.fst

def AnewAt (s : LoomStore V) (key : DataPointKey) : Operation V → Prop
  | .attachChannelCalculatedDataPoints address channel calculated =>
    s.calculatedFactory = true ∧ ∃ c ∈ calculated, key = (address,channel,c.name)
  | _ => False

-- What is served under the ids handed out so far stays what it was. A trigger comes while its groups
-- are served.
def Spared (x : GroupFacade V) : GroupAction V → Prop
  | .store operation => ∀ g ∈ x.groups.values,
      Stored (apply x.store operation) g.toBuiltGroup ∧ (∀ e ∈ g.events, ¬ AnewAt x.store e.1 operation) ∧
        (Served (apply x.store operation) g.uniqueId → Declared (apply x.store operation) g.toBuiltGroup)
  | .trigger p => (∃ b ∈ buildGroups x.store none, Concerns p b) →
      (∃ g ∈ x.groups.values, Concerns p g.toBuiltGroup) ∧
        ∀ g ∈ x.groups.values, Concerns p g.toBuiltGroup → Served x.store g.uniqueId
  | _ => True

instance (s : LoomStore V) (key : DataPointKey) (op : Operation V) : Decidable (AnewAt s key op) := by
  induction op using Operation.casesOn <;> unfold AnewAt <;> infer_instance

instance (p : TriggerPayload V) (b : BuiltGroup) : Decidable (Concerns p b) := by unfold Concerns; infer_instance

instance (s : LoomStore V) (b : BuiltGroup) : Decidable (Stored s b) := by unfold Stored; infer_instance

instance (s : LoomStore V) (uniqueId : String) : Decidable (Served s uniqueId) := by unfold Served; infer_instance

instance (s : LoomStore V) (b : BuiltGroup) : Decidable (Declared s b) := by unfold Declared; infer_instance

instance (x : GroupFacade V) (a : GroupAction V) : Decidable (Spared x a) := by
  cases a <;> unfold Spared <;> infer_instance

def ChannelsKeyed (s : LoomStore V) : Prop := ∀ k r, channelRecord s k = some r → channelKey r = k

section Keyed
variable {s : LoomStore V}

theorem keyed_of_same {t : LoomStore V} (same : t.channels = s.channels) (keyed : ChannelsKeyed s) : ChannelsKeyed t := by
  intro k r found
  exact keyed k r (by simpa [channelRecord,same] using found)

theorem upsert_channel_keyed (keyed : ChannelsKeyed s) (summary : ChannelSummary) : ChannelsKeyed (upsertChannel s summary) := by
  intro k r found
  rw [channel_written] at found
  rcases Option.or_eq_some_iff.mp found with new | ⟨_,stored⟩
  · unfold written at new
    split at new
    · rename_i here
      cases new
      exact here
    · cases new
  · exact keyed k r stored

theorem drop_channel_keyed (keyed : ChannelsKeyed s) (key : ChannelKey) : ChannelsKeyed (dropChannel s key) := by
  intro k r found
  apply keyed k r
  simp only [channelRecord,dropChannel,Dict.get?_erase] at found ⊢
  split at found
  · cases found
  · exact found

theorem drop_channels_keyed (keyed : ChannelsKeyed s) (keys : List ChannelKey) : ChannelsKeyed (keys.foldl dropChannel s) :=
  List.foldlRecOn keys _ keyed fun _ kept key _ => drop_channel_keyed kept key

theorem detail_keyed_channels (keyed : ChannelsKeyed s) (detail : DeviceDetail) : ChannelsKeyed (attachDeviceDetail s detail) := by
  cases allowed : canAdmitDevice s detail.address with
  | false =>
    rw [detail_refused allowed]
    exact keyed
  | true =>
    obtain ⟨t,frame,_,same⟩ := detail_parts allowed
    rw [same]
    apply drop_channels_keyed
    have first : ChannelsKeyed t := keyed_of_same (unchanged frame LoomStore.channels fun _ => rfl) keyed
    exact List.foldlRecOn detail.channels _ first fun _ kept summary _ => upsert_channel_keyed kept summary

theorem removed_keyed_channels (keyed : ChannelsKeyed s) (payload : DevicePayload) : ChannelsKeyed (applyDeviceRemoved s payload) := by
  let t : LoomStore V := {s with devices := s.devices.erase payload.deviceAddress}
  have first : ChannelsKeyed t := keyed_of_same rfl keyed
  have dropped : ChannelsKeyed (dropDeviceChannels t payload.deviceAddress) := drop_channels_keyed first _
  exact keyed_of_same (unchanged (drop_device_cdps_beside _ payload.deviceAddress) LoomStore.channels fun _ => rfl) dropped

theorem push_keyed_channels (keyed : ChannelsKeyed s) (push : Push V) : ChannelsKeyed (applyPush s push) := by
  cases push with
  | deviceRemoved payload => exact removed_keyed_channels keyed payload
  | _ => exact keyed_of_same (unchanged (push_frame s _) LoomStore.channels fun _ => rfl) keyed

theorem operation_keyed_channels (keyed : ChannelsKeyed s) (op : Operation V) : ChannelsKeyed (apply s op) := by
  cases op with
  | attachDeviceDetail detail => exact detail_keyed_channels keyed detail
  | push push => exact push_keyed_channels keyed push
  | _ => exact keyed_of_same (unchanged (operation_frame s _) LoomStore.channels fun _ => rfl) keyed

end Keyed

section Scan
variable {s t : LoomStore V}

theorem member_events_refer (member : e ∈ memberEvents s channel declared) :
    objectsAt s (.dataPoint e.1) = some [e.2] := by
  obtain ⟨entry,here,rfl⟩ := List.mem_map.mp member
  have stored := (List.mem_filter.mp ((List.mem_insertionSort _).mp (List.mem_filter.mp here).1)).1
  have found : s.dataPoints.get? entry.1 = some entry.2 := Dict.mem_entries.mp stored
  simp [objectsAt,found]

theorem channels_of_stored {c : Model.Channel} (keyed : ChannelsKeyed s) (member : c ∈ channelsOf s address) :
    s.channels.get? (channelKey c.summary) = some c := by
  obtain ⟨entry,here,rfl⟩ := List.mem_map.mp ((List.mem_insertionSort _).mp member)
  have found : s.channels.get? entry.1 = some entry.2 := Dict.mem_entries.mp (List.mem_filter.mp here).1
  have key := keyed entry.1 entry.2.summary (by simp [channelRecord,found])
  rw [key]
  exact found

theorem built_cases (member : b ∈ buildGroups s eventType) : ∃ d ∈ s.devices.values, ∃ c ∈ channelsOf s d.address,
    ∃ declared ∈ c.summary.eventGroups.getD [], buildGroup s eventType c declared = some b := by
  obtain ⟨d,device,inside⟩ := List.mem_flatMap.mp member
  obtain ⟨c,channel,found⟩ := List.mem_flatMap.mp inside
  obtain ⟨declared,listed,built⟩ := List.mem_filterMap.mp found
  exact ⟨d,device,c,channel,declared,listed,built⟩

theorem build_group_parts (built : buildGroup s eventType c declared = some b) :
    b.channel = channelKey c.summary ∧ b.channelOid = c.oid ∧ b.events = memberEvents s (channelKey c.summary) declared ∧
      buildGroup s none c declared = some b := by
  obtain ⟨kind,known,made⟩ := Option.bind_eq_some_iff.mp built
  split at made
  · cases made
  · rename_i wanted
    cases made
    refine ⟨rfl,rfl,rfl,?_⟩
    have members : ¬ memberEvents s (channelKey c.summary) declared = [] := fun empty => wanted (.inr empty)
    simp [buildGroup,known,members]

theorem built_refers (keyed : ChannelsKeyed s) (member : b ∈ buildGroups s eventType) : Refers s b := by
  obtain ⟨d,_,c,channel,declared,_,built⟩ := built_cases member
  obtain ⟨key,oid,events,_⟩ := build_group_parts built
  refine ⟨?_,fun e listed => ?_⟩
  · rw [key,oid]
    simp [objectsAt,channels_of_stored keyed channel]
  · rw [events] at listed
    exact member_events_refer listed

theorem built_unfiltered (member : b ∈ buildGroups s eventType) : b ∈ buildGroups s none := by
  obtain ⟨d,device,c,channel,declared,listed,built⟩ := built_cases member
  refine List.mem_flatMap.mpr ⟨d,device,List.mem_flatMap.mpr ⟨c,channel,List.mem_filterMap.mpr ⟨declared,listed,?_⟩⟩⟩
  exact (build_group_parts built).2.2.2

end Scan

theorem operation_same_object {s : LoomStore V} (numbered : Numbered s) (op : Operation V) (key : ObjectKey)
    (kept : ∀ k, key = .dataPoint k → ¬ AnewAt s k op) (before : objectsAt s key = some i)
    (after : objectsAt (apply s op) key = some j) : j = i := by
  by_cases anew : AttachesAnew s op
  · cases op with
    | attachChannelCalculatedDataPoints address channel calculated =>
      have apart : ∀ c ∈ calculated, key ≠ .dataPoint (address,channel,c.name) := by
        intro c listed same
        exact kept _ same ⟨anew.1,c,listed,rfl⟩
      simp only [apply,attachChannelCalculatedDataPoints,anew.1,if_true] at after
      rw [(calculated_slot address channel calculated key (s := s)).1 apart,before] at after
      exact (Option.some.inj after).symm
    | _ => exact anew.elim
  · exact (operation_stays_iff s op numbered).mpr anew key i j before after

theorem same_events {first second : List (DataPointKey × Model.Oid)} (names : second.map Prod.fst = first.map Prod.fst)
    (same : ∀ k i j, (k,i) ∈ first → (k,j) ∈ second → j = i) : second = first := by
  induction first generalizing second with
  | nil => exact List.map_eq_nil_iff.mp names
  | cons e rest ih =>
    cases second with
    | nil => cases names
    | cons f others =>
      obtain ⟨head,tail⟩ := List.cons.inj names
      have equal : f.2 = e.2 := by
        apply same e.1 e.2 f.2 List.mem_cons_self
        rw [← head]
        exact List.mem_cons_self
      rw [ih tail fun k i j old new => same k i j (.tail e old) (.tail f new)]
      exact congrArg (· :: rest) (Prod.ext head equal)

theorem same_named (first : Refers s b) (second : Refers s c) (names : c.names = b.names) : c = b := by
  obtain ⟨uniqueId,kind,channel,channelOid,events⟩ := b
  obtain ⟨uniqueId',kind',channel',channelOid',events'⟩ := c
  simp only [BuiltGroup.names,Prod.mk.injEq] at names
  obtain ⟨rfl,rfl,rfl,keys⟩ := names
  have object : [channelOid'] = [channelOid] := Option.some.inj (second.channel.symm.trans first.channel)
  have members : events' = events := by
    refine same_events keys fun k i j old new => ?_
    have equal : [j] = [i] := Option.some.inj ((second.events _ new).symm.trans (first.events _ old))
    exact (List.cons.inj equal).1
  rw [members,(List.cons.inj object).1]

theorem slug_of_short (kind : TriggerKind) : TriggerKind.ofSlug kind.short = some kind := by
  cases kind <;> decide

theorem declared_names (declared : Declared s b) : ∃ c ∈ buildGroups s none, c.names = b.names := by
  obtain ⟨d,device,c,channel,key,summary,listed,id,kind,members,names⟩ := declared
  refine ⟨⟨b.uniqueId,b.kind,b.channel,c.oid,memberEvents s b.channel summary⟩,?_,?_⟩
  · refine List.mem_flatMap.mpr ⟨d,device,List.mem_flatMap.mpr ⟨c,channel,List.mem_filterMap.mpr ⟨summary,listed,?_⟩⟩⟩
    simp [buildGroup,kind,slug_of_short,key,members,id]
  · simp only [BuiltGroup.names,names]

theorem refers_after (numbered : Numbered s) (op : Operation V) (refers : Refers s b) (stored : Stored (apply s op) b)
    (kept : ∀ e ∈ b.events, ¬ AnewAt s e.1 op) : Refers (apply s op) b where
  channel := by
    obtain ⟨c,found⟩ := Option.isSome_iff_exists.mp stored.1
    have after : objectsAt (apply s op) (.channel b.channel) = some [c.oid] := by simp [objectsAt,found]
    have same := operation_same_object numbered op (.channel b.channel) (fun _ here => by cases here) refers.channel after
    rw [after,same]
  events := by
    intro e listed
    obtain ⟨dp,found⟩ := Option.isSome_iff_exists.mp (stored.2 e listed)
    have after : objectsAt (apply s op) (.dataPoint e.1) = some [dp.oid] := by simp [objectsAt,found]
    have same := operation_same_object numbered op (.dataPoint e.1) (fun _ here => by cases here; exact kept e listed)
      (refers.events e listed) after
    rw [after,same]

namespace GroupFacade
variable {x y : GroupFacade V}

def Lasts (s : LoomStore V) (b : BuiltGroup) : Prop := Refers s b ∧ (Served s b.uniqueId → b ∈ buildGroups s none)

structure Standing (x : GroupFacade V) : Prop where
  keyed : ChannelsKeyed x.store
  numbered : Numbered x.store
  groups : ∀ uid g, x.groups.get? uid = some g → g.uniqueId = uid ∧ Lasts x.store g.toBuiltGroup

theorem initial_standing (maxDevices : Nat) (centralName serialSuffix : String) :
    (initial maxDevices centralName serialSuffix : GroupFacade V).Standing where
  keyed := fun _ _ found => by cases found
  numbered := fun _ _ found => by cases found
  groups := fun _ _ found => by cases found

theorem lasts_counted (lasts : Lasts s b) (n : Nat) : Lasts {s with nextOid := n} b :=
  ⟨⟨lasts.1.channel,lasts.1.events⟩,lasts.2⟩

theorem built_lasts (keyed : ChannelsKeyed s) (built : b ∈ buildGroups s none) : Lasts s b :=
  ⟨built_refers keyed built,fun _ => built⟩

structure ScanFrom (x y : GroupFacade V) : Prop where
  store : ∃ n, y.store = {x.store with nextOid := n} ∧ x.store.nextOid ≤ n
  kept : ∀ uid g, x.groups.get? uid = some g → y.groups.get? uid = some g

theorem cache_from (y : GroupFacade V) (b : BuiltGroup) (scan : ScanFrom x y) : ScanFrom x (y.cacheGroup b) := by
  obtain ⟨n,store,above⟩ := scan.store
  unfold cacheGroup
  split
  · exact scan
  · rename_i fresh
    refine ⟨⟨n + 1,by simp only [store],Nat.le_succ_of_le above⟩,fun uid g found => ?_⟩
    have known := scan.kept uid g found
    have other : uid ≠ b.uniqueId := fun same => fresh (same ▸ Dict.mem_of_get? known)
    rw [Dict.get?_set,if_neg other]
    exact known

theorem scanned_from (x : GroupFacade V) (eventType : Option TriggerKind) : ScanFrom x (x.scanned eventType) := by
  have start : ScanFrom x x := ⟨⟨x.store.nextOid,rfl,Nat.le_refl _⟩,fun _ _ found => found⟩
  exact List.foldlRecOn (buildGroups x.store eventType) _ start fun y scan b _ => cache_from y b scan

theorem scanned_groups (standing : x.Standing) (eventType : Option TriggerKind) :
    ∀ uid g, (x.scanned eventType).groups.get? uid = some g → g.uniqueId = uid ∧ Lasts x.store g.toBuiltGroup := by
  unfold scanned
  refine @List.foldlRecOn _ _ (fun y : GroupFacade V => ∀ uid g, y.groups.get? uid = some g →
    g.uniqueId = uid ∧ Lasts x.store g.toBuiltGroup) (buildGroups x.store eventType) cacheGroup x standing.groups ?_
  intro y kept b built
  unfold cacheGroup
  split
  · exact kept
  · intro uid g found
    rw [Dict.get?_set] at found
    split at found
    · rename_i here
      cases found
      exact ⟨here.symm,built_lasts standing.keyed (built_unfiltered built)⟩
    · exact kept uid g found

theorem scanned_standing (standing : x.Standing) (eventType : Option TriggerKind) : (x.scanned eventType).Standing := by
  obtain ⟨n,store,above⟩ := (scanned_from x eventType).store
  refine ⟨?_,?_,?_⟩
  · rw [store]
    exact keyed_of_same rfl standing.keyed
  · rw [store]
    exact numbered_of_same (t := {x.store with nextOid := n}) standing.numbered above rfl
  · intro uid g found
    obtain ⟨id,lasts⟩ := scanned_groups standing eventType uid g found
    rw [store]
    exact ⟨id,lasts_counted lasts n⟩

theorem values_standing (standing : x.Standing) (member : g ∈ x.groups.values) : Lasts x.store g.toBuiltGroup := by
  obtain ⟨uid,found⟩ := Dict.mem_values.mp member
  exact (standing.groups uid g found).2

theorem handed_live (standing : x.Standing) (handed : g ∈ x.getEventGroups eventType registered) :
    LiveGroup x.store g.toBuiltGroup := by
  obtain ⟨b,built,found⟩ := List.mem_filterMap.mp handed
  obtain ⟨id,refers,live⟩ := scanned_groups standing eventType _ g (Option.filter_eq_some_iff.mp found).1
  exact ⟨refers,live ⟨b,built_unfiltered built,id.symm⟩⟩

theorem found_refers (standing : x.Standing) (found : x.findEventGroup address channelNo kind = some g) :
    Refers x.store g.toBuiltGroup :=
  (values_standing standing (List.mem_of_find?_eq_some found)).1

theorem marked_standing (standing : x.Standing) (uid : String) (mark : EventGroup V → EventGroup V)
    (same : ∀ g, (mark g).toBuiltGroup = g.toBuiltGroup) : ({x with groups := x.groups.modify uid mark} : GroupFacade V).Standing := by
  refine ⟨standing.keyed,standing.numbered,fun other g found => ?_⟩
  simp only [Dict.get?_modify] at found
  split at found
  · obtain ⟨old,known,rfl⟩ := Option.map_eq_some_iff.mp found
    rw [same]
    exact standing.groups other old known
  · exact standing.groups other g found

theorem operation_standing (standing : x.Standing) (op : Operation V) (spared : Spared x (.store op)) :
    ({x with store := apply x.store op} : GroupFacade V).Standing := by
  have keyed := operation_keyed_channels standing.keyed op
  refine ⟨keyed,operation_numbered op standing.numbered,fun uid g found => ?_⟩
  obtain ⟨id,refers,_⟩ := standing.groups uid g found
  obtain ⟨stored,kept,declared⟩ := spared g (Dict.mem_values.mpr ⟨uid,found⟩)
  have after := refers_after standing.numbered op refers stored kept
  refine ⟨id,after,fun served => ?_⟩
  obtain ⟨b,built,names⟩ := declared_names (declared served)
  exact same_named after (built_refers keyed built) names ▸ built

theorem trigger_standing (standing : x.Standing) (p : TriggerPayload V) : (x.onTrigger p).Standing := by
  unfold onTrigger
  split
  · exact standing
  · exact marked_standing standing _ (recordTrigger p) fun _ => rfl

theorem trigger_recorded (standing : x.Standing) (p : TriggerPayload V) (spared : Spared x (.trigger p))
    (built : b ∈ buildGroups x.store none) (concerns : Concerns p b) :
    ∃ g ∈ (x.onTrigger p).getEventGroups none none, Concerns p g.toBuiltGroup ∧ g.lastTriggered = some (p.parameter,p.value) := by
  obtain ⟨⟨handed,member,meant⟩,served⟩ := spared ⟨b,built,concerns⟩
  have hit : (x.findEventGroup p.deviceAddress (some p.channel) (triggerType p.eventType)).isSome := by
    refine List.find?_isSome.mpr ⟨handed,member,?_⟩
    simp [meant.1,meant.2]
  obtain ⟨g,found⟩ := Option.isSome_iff_exists.mp hit
  obtain ⟨uid,stored⟩ := Dict.mem_values.mp (List.mem_of_find?_eq_some found)
  obtain ⟨rfl,_,live⟩ := standing.groups uid g stored
  have matched : (g.channel.1 = p.deviceAddress ∧ g.channel.2 = p.channel) ∧ g.kind = triggerType p.eventType := by
    simpa [and_assoc] using List.find?_some found
  have concerned : Concerns p g.toBuiltGroup := ⟨Prod.ext matched.1.1 matched.1.2,matched.2⟩
  have here := live (served g (List.mem_of_find?_eq_some found) concerned)
  have after : x.onTrigger p = {x with groups := x.groups.modify g.uniqueId (recordTrigger p)} := by
    unfold onTrigger
    rw [found]
  have recorded : (x.onTrigger p).groups.get? g.uniqueId = some (recordTrigger p g) := by
    rw [after]
    simp [Dict.get?_modify,stored]
  refine ⟨recordTrigger p g,?_,concerned,rfl⟩
  refine List.mem_filterMap.mpr ⟨g.toBuiltGroup,?_,?_⟩
  · rw [after]
    exact here
  · rw [(scanned_from (x.onTrigger p) none).kept _ _ recorded]
    rfl

theorem step_standing (standing : x.Standing) (spared : Spared x a) (next : step x a = some y) : y.Standing := by
  cases a with
  | store operation =>
    cases next
    exact operation_standing standing operation spared
  | getEventGroups eventType registered =>
    cases next
    exact scanned_standing standing eventType
  | trigger p =>
    cases next
    exact trigger_standing standing p
  | register uid =>
    cases next
    exact marked_standing standing uid _ fun _ => rfl
  | unregister uid =>
    cases next
    exact marked_standing standing uid _ fun _ => rfl

theorem step_law (standing : x.Standing) (spared : Spared x a) (next : step x a = some y) : GroupLaw x a y := by
  have after := step_standing standing spared next
  refine ⟨fun eventType registered g handed => handed_live after handed,fun address channelNo kind g found => found_refers after found,?_⟩
  intro p trigger b built concerns
  subst trigger
  cases next
  exact trigger_recorded standing p spared built concerns

theorem event_groups_stay_live (maxDevices : Nat) (centralName serialSuffix : String) (actions : List (GroupAction V))
    (spared : Every step (fun x a _ => Spared x a) (initial maxDevices centralName serialSuffix) actions) :
    Every step GroupLaw (initial maxDevices centralName serialSuffix) actions := by
  refine every_of_every Standing (initial_standing maxDevices centralName serialSuffix) ?_ ?_ spared
  · exact fun _ _ _ standing next spared => step_standing standing spared next
  · exact fun _ _ _ standing next spared => step_law standing spared next

def pressSummary : DataPointSummary Nat :=
  ⟨"PRESS_SHORT","press",none,none,true,none,none,none,none,none,none,none,⟨false,false,true⟩,none⟩

def remoteDetail : DeviceDetail where
  address := "A"
  central := none
  interface := "HmIP"
  interfaceId := "ccu-HmIP"
  model := "HmIP-WRC2"
  name := "A"
  available := true
  channelsCount := 1
  updatable := false
  updateAvailable := false
  masterPushesConfigPending := false
  hasSubDevices := false
  firmware := ⟨none,none,none,none⟩
  availability := ⟨none,none⟩
  channels := [⟨"A:1",1,none,none,some [⟨"keypress",["PRESS_SHORT"],"group"⟩]⟩]

def pairAndScan : List (GroupAction Nat) :=
  [.store (.attachDeviceDetail remoteDetail),.store (.attachChannelDataPoints "A" 1 [pressSummary]),.getEventGroups none none]

theorem press_is_recorded : Every step GroupLaw (initial 8 "ccu" "S")
    (pairAndScan ++ [.store (.attachDeviceDetail remoteDetail),.trigger ⟨"A",1,"keypress","PRESS_SHORT",some 1⟩]) :=
  event_groups_stay_live 8 "ccu" "S" _ (by decide +kernel)

-- The device is unpaired after the scan, and its group is still found.
theorem group_outlives_its_channel : ¬ Every step GroupLaw (initial 8 "ccu" "S")
    (pairAndScan ++ [.store (.push (.deviceRemoved ⟨"ccu","ccu-HmIP","A"⟩))]) := by
  intro law
  have last := law.2.2.2.1.found "A" (some 1) .keypress
    ⟨⟨"group",.keypress,("A",1),1,[(("A",1,"PRESS_SHORT"),2)]⟩,3,false,none⟩ rfl
  have gone := last.channel
  revert gone
  decide +kernel

end GroupFacade

section Adapter
variable {s : LoomStore V}

theorem member_events_oids (s : LoomStore V) (channel : ChannelKey) (declared : EventGroupSummary) :
    (memberEvents s channel declared).map Prod.snd = groupMembers s channel declared := by
  have sorted : ((s.dataPoints.entries.filter fun e => channelOf e.1 = channel).insertionSort
      fun a b => a.2.summary.parameter ≤ b.2.summary.parameter).map Prod.snd = dataPointsOf s channel.1 channel.2 :=
    List.map_insertionSort _ _ Prod.snd _ fun _ _ _ _ => Iff.rfl
  unfold groupMembers memberEvents
  rw [← sorted,List.filter_map,List.map_map,List.map_map]
  rfl

theorem slug_known (kind : String) : (TriggerKind.ofSlug kind).isSome ↔ kind ∈ triggerKinds := by
  constructor
  · intro known
    obtain ⟨kind',found⟩ := Option.isSome_iff_exists.mp known
    have short : kind'.short = kind := by simpa using List.find?_some found
    rw [← short]
    cases kind' <;> decide
  · intro listed
    simp only [triggerKinds,List.mem_cons,List.not_mem_nil,or_false] at listed
    rcases listed with rfl | rfl | rfl <;> decide

theorem slug_short (found : TriggerKind.ofSlug kind = some k) : k.short = kind := by
  simpa using List.find?_some found

def BuiltGroup.shape (b : BuiltGroup) : String × String × ChannelKey × List Model.Oid :=
  (b.uniqueId,b.kind.short,b.channel,b.events.map Prod.snd)

def declaredShape (s : LoomStore V) (g : ChannelKey × EventGroupSummary) : String × String × ChannelKey × List Model.Oid :=
  (g.2.uniqueId,g.2.kind,g.1,groupMembers s g.1 g.2)

theorem channel_shapes (s : LoomStore V) (c : Model.Channel) (declared : List EventGroupSummary) :
    (declared.filterMap (buildGroup s none c)).map BuiltGroup.shape =
      ((declared.map fun d => (channelKey c.summary,d)).filter fun g =>
        g.2.kind ∈ triggerKinds ∧ groupMembers s g.1 g.2 ≠ []).map (declaredShape s) := by
  induction declared with
  | nil => rfl
  | cons d rest ih =>
    have members := member_events_oids s (channelKey c.summary) d
    have empty : memberEvents s (channelKey c.summary) d = [] ↔ groupMembers s (channelKey c.summary) d = [] := by
      rw [← members,List.map_eq_nil_iff]
    cases known : TriggerKind.ofSlug d.kind with
    | none =>
      have unknown : d.kind ∉ triggerKinds := fun listed => by
        have some := (slug_known d.kind).mpr listed
        rw [known] at some
        cases some
      simpa [List.filterMap_cons,buildGroup,known,unknown] using ih
    | some kind =>
      have listed : d.kind ∈ triggerKinds := (slug_known d.kind).mp (by rw [known]; rfl)
      by_cases none : groupMembers s (channelKey c.summary) d = []
      · simpa [List.filterMap_cons,buildGroup,known,listed,none,empty.mpr none] using ih
      · have some : memberEvents s (channelKey c.summary) d ≠ [] := fun nothing => none (empty.mp nothing)
        simp [buildGroup,known,listed,none,some,BuiltGroup.shape,declaredShape,slug_short known,members]
        simpa using ih

theorem built_shapes (keyed : ChannelsKeyed s) : (buildGroups s none).map BuiltGroup.shape = (buildEventGroups s).map (declaredShape s) := by
  unfold buildGroups buildEventGroups declaredGroups
  rw [List.map_flatMap,List.filter_flatMap,List.map_flatMap]
  refine List.flatMap_congr fun d _ => ?_
  rw [List.map_flatMap,List.filter_flatMap,List.map_flatMap]
  refine List.flatMap_congr fun c member => ?_
  have key : channelKey c.summary = (d.address,c.number) := by
    have stored := channels_of_stored keyed member
    obtain ⟨entry,here,rfl⟩ := List.mem_map.mp ((List.mem_insertionSort _).mp member)
    have own : entry.1.1 = d.address := by simpa using (List.mem_filter.mp here).2
    have found : s.channels.get? entry.1 = some entry.2 := Dict.mem_entries.mp (List.mem_filter.mp here).1
    have same := keyed entry.1 entry.2.summary (by simp [channelRecord,found])
    exact Prod.ext ((congrArg Prod.fst same).trans own) rfl
  rw [channel_shapes,key]

def EventGroup.forget (g : EventGroup V) : ChannelEventGroup := ⟨g.oid,g.uniqueId,g.kind.short,g.channel,g.events.map Prod.snd⟩

structure Agrees (x : GroupFacade V) (a : Adapter V) : Prop where
  store : a.store = x.store
  groups : ∀ uid, a.eventGroups.get? uid = (x.groups.get? uid).map EventGroup.forget

variable {x : GroupFacade V} {a : Adapter V}

theorem agrees_known (agrees : Agrees x a) (uid : String) : uid ∈ a.eventGroups ↔ uid ∈ x.groups := by
  rw [Dict.mem_iff_get?,Dict.mem_iff_get?,agrees.groups]
  cases x.groups.get? uid <;> simp

theorem cache_agrees {b : BuiltGroup} {g : ChannelKey × EventGroupSummary} (agrees : Agrees x a)
    (shape : b.shape = declaredShape a.store g) : Agrees (x.cacheGroup b) (cacheEventGroup a g) := by
  simp only [BuiltGroup.shape,declaredShape,Prod.mk.injEq] at shape
  obtain ⟨id,kind,channel,events⟩ := shape
  have known := agrees_known agrees b.uniqueId
  unfold GroupFacade.cacheGroup cacheEventGroup
  rw [← id]
  by_cases here : b.uniqueId ∈ x.groups
  · rw [if_pos here,if_pos (known.mpr here)]
    exact agrees
  · rw [if_neg here,if_neg fun listed => here (known.mp listed)]
    refine ⟨by simp only [agrees.store],fun uid => ?_⟩
    rw [Dict.get?_set,Dict.get?_set,agrees.groups]
    split
    · simp only [Option.map_some,EventGroup.forget,kind,channel,events,agrees.store]
    · rfl

theorem folds_agree {built : List BuiltGroup} {declared : List (ChannelKey × EventGroupSummary)} (agrees : Agrees x a)
    (shapes : built.map BuiltGroup.shape = declared.map (declaredShape a.store)) :
    Agrees (built.foldl GroupFacade.cacheGroup x) (declared.foldl cacheEventGroup a) := by
  induction built generalizing declared x a with
  | nil =>
    rw [List.map_eq_nil_iff.mp shapes.symm]
    exact agrees
  | cons b rest ih =>
    cases declared with
    | nil => cases shapes
    | cons g others =>
      obtain ⟨head,tail⟩ := List.cons.inj shapes
      have same : declaredShape (cacheEventGroup a g).store = declaredShape a.store := by
        unfold cacheEventGroup
        split <;> rfl
      rw [← same] at tail
      exact @ih (x.cacheGroup b) (cacheEventGroup a g) others (cache_agrees agrees head) tail

theorem scan_refines (agrees : Agrees x a) (keyed : ChannelsKeyed x.store) :
    Agrees (x.scanned none) (getEventGroups a).1 ∧
      (getEventGroups a).2 = (x.getEventGroups none none).map EventGroup.forget := by
  have shapes : (buildGroups x.store none).map BuiltGroup.shape = (buildEventGroups a.store).map (declaredShape a.store) := by
    rw [agrees.store]
    exact built_shapes keyed
  have cached : Agrees (x.scanned none) (getEventGroups a).1 := folds_agree agrees shapes
  refine ⟨cached,?_⟩
  have ids : (buildGroups x.store none).map BuiltGroup.uniqueId = (buildEventGroups a.store).map (·.2.uniqueId) := by
    have firsts := congrArg (List.map Prod.fst) shapes
    rwa [List.map_map,List.map_map] at firsts
  calc (getEventGroups a).2
      = ((buildEventGroups a.store).map (·.2.uniqueId)).filterMap (getEventGroups a).1.eventGroups.get? := by
        rw [List.filterMap_map]
        rfl
    _ = (buildGroups x.store none).filterMap fun b => ((x.scanned none).groups.get? b.uniqueId).map EventGroup.forget := by
        rw [← ids,List.filterMap_map]
        exact List.filterMap_congr fun b _ => cached.groups b.uniqueId
    _ = (x.getEventGroups none none).map EventGroup.forget := by
        unfold GroupFacade.getEventGroups
        rw [List.map_filterMap]
        refine List.filterMap_congr fun b _ => ?_
        cases (x.scanned none).groups.get? b.uniqueId <;> rfl

end Adapter

end LoomClient.Compat
