import LoomClient.Store.Operation
import Mathlib.Data.List.Infix

namespace LoomClient.Compat
open Lib Wire Store
variable {V : Type}

-- What the installed reference package contributes.
structure Upstream where
  canonicalUniqueId : String → String → Option String → Option String → String
  knowsCategory : DataPointCategory → Bool

structure ExtraDp where
  oid : Model.Oid
  category : DataPointCategory
  uniqueId : String
  deviceAddress : Address
  channelNo : Int
  translatedName : Option String
  deriving DecidableEq, Repr

structure ChannelEventGroup where
  oid : Model.Oid
  uniqueId : String
  kind : String
  channel : ChannelKey
  events : List Model.Oid
  deriving DecidableEq, Repr

structure Announced where
  oid : Model.Oid
  category : DataPointCategory
  uniqueId : String
  deriving DecidableEq, Repr

structure Candidate extends Announced where
  usage : Option String
  deriving DecidableEq, Repr

-- The consumer's registration marks sit on the objects in the source and are kept here as the set
-- of marked identities.
structure Adapter (V : Type) where
  store : LoomStore V
  hubSingletons : List Announced
  suppressedCalcLabels : Dict ChannelKey String
  extraDataPoints : List ExtraDp
  eventGroups : Dict String ChannelEventGroup
  announcedAlarmPanelIds : Finset String
  registered : Finset Model.Oid
  announcements : List (List Announced)
  loomAnnouncements : List (List Address)
  deriving DecidableEq

def Adapter.initial (maxDevices : Nat) (centralName serialSuffix : String) : Adapter V where
  store := .categorised maxDevices centralName serialSuffix
  hubSingletons := []
  suppressedCalcLabels := .empty
  extraDataPoints := []
  eventGroups := .empty
  announcedAlarmPanelIds := ∅
  registered := ∅
  announcements := []
  loomAnnouncements := []

def isOwn (centralName centralId : String) (central : Option String) : Bool :=
  match truthy central with
  | none => true
  | some c => c = (if centralName = "" then centralId else centralName) || c = centralId

def matchesCentral (s : LoomStore V) (central : Option String) : Bool := isOwn s.centralName s.centralId central

def isPrefixOf (start name : String) : Bool := start.toList.isPrefixOf name.toList
def contains (name token : String) : Bool := decide (token.toList <:+: name.toList)

def isExcludedSysvar (summary : SysvarSummary V) : Bool :=
  isPrefixOf "$\x7b" summary.name || contains summary.name "OldVal" || contains summary.name "pcCCUID" ||
    summary.vid = some 40 || summary.vid = some 41

-- The singletons ride along.
def allHubDataPoints (s : LoomStore V) : List Announced :=
  (s.sysvars.values.filter fun v => matchesCentral s v.summary.central && !isExcludedSysvar v.summary).map
    (fun v => ⟨v.oid,v.category,v.summary.uniqueId⟩) ++
  (s.programs.values.filter fun p => matchesCentral s p.summary.central).flatMap fun p =>
    (s.programDps.getD p.summary.id []).filterMap fun twin =>
      twin.category.map fun category => (⟨twin.oid,category,twin.summary.uniqueId⟩ : Announced)

def nonCreatableUsages : List String := ["no_create","ignored","event"]
def isCreatable (usage : Option String) : Bool :=
  match usage with
  | none => true
  | some u => decide (u ∉ nonCreatableUsages)

-- What the daemon declares for a channel, less the groups whose members are all suppressed.
def triggerKinds : List String := ["keypress","impulse","device_error"]
def suppressedUsages : List String := ["no_create","ignored"]

def groupMembers (s : LoomStore V) (channel : ChannelKey) (declared : EventGroupSummary) : List Model.Oid :=
  ((dataPointsOf s channel.1 channel.2).filter fun dp =>
    dp.summary.parameter ∈ declared.parameters ∧ dp.summary.operations.event = true ∧
      ∀ u ∈ dp.summary.usage, u ∉ suppressedUsages).map (·.oid)

def declaredGroups (s : LoomStore V) : List (ChannelKey × EventGroupSummary) :=
  s.devices.values.flatMap fun d => (channelsOf s d.address).flatMap fun c =>
    (c.summary.eventGroups.getD []).map fun declared => ((d.address,c.number),declared)

def buildEventGroups (s : LoomStore V) : List (ChannelKey × EventGroupSummary) :=
  (declaredGroups s).filter fun g => g.2.kind ∈ triggerKinds ∧ groupMembers s g.1 g.2 ≠ []

-- The first object built for a key is the one handed out ever after.
def cacheEventGroup (a : Adapter V) (built : ChannelKey × EventGroupSummary) : Adapter V :=
  if built.2.uniqueId ∈ a.eventGroups then a else
    {a with
      eventGroups := a.eventGroups.set built.2.uniqueId
        ⟨a.store.nextOid,built.2.uniqueId,built.2.kind,built.1,groupMembers a.store built.1 built.2⟩
      store := {a.store with nextOid := a.store.nextOid + 1}}

def getEventGroups (a : Adapter V) : Adapter V × List ChannelEventGroup :=
  let built := buildEventGroups a.store
  let cached := built.foldl cacheEventGroup a
  (cached,built.filterMap fun g => cached.eventGroups.get? g.2.uniqueId)

-- Built anew on every announcement.
def updateDataPoints (upstream : Upstream) (s : LoomStore V) : List Announced :=
  ((s.devices.values.filter (·.summary.updatable)).zipIdx s.nextOid).map fun d =>
    ⟨d.2,.update,upstream.canonicalUniqueId s.serialSuffix d.1.address (some "Update") none⟩

def candidates (a : Adapter V) (hub updates : List Announced) (groups : List ChannelEventGroup) : List Candidate :=
  a.store.dataPoints.values.map (fun dp => ⟨⟨dp.oid,dp.category,dp.summary.uniqueId⟩,dp.summary.usage⟩) ++
  a.store.cdps.values.map (fun cdp => ⟨⟨cdp.oid,cdp.category,cdp.summary.uniqueId⟩,none⟩) ++
  a.extraDataPoints.map (fun e => ⟨⟨e.oid,e.category,e.uniqueId⟩,none⟩) ++
  hub.map (fun h => ⟨h,none⟩) ++
  updates.map (fun u => ⟨u,none⟩) ++
  groups.map (fun g => ⟨⟨g.oid,.eventGroup,g.uniqueId⟩,none⟩) ++
  a.store.alarmPanels.values.map (fun p => ⟨⟨p.oid,.alarmControlPanel,p.summary.uniqueId⟩,none⟩)

def announceable (upstream : Upstream) (registered : Finset Model.Oid) (c : Candidate) : Bool :=
  isCreatable c.usage && decide (c.oid ∉ registered) && upstream.knowsCategory c.category

-- Nothing is published when the batch is empty.
def emitDataPointsCreated (upstream : Upstream) (a : Adapter V) : Adapter V :=
  let updates := updateDataPoints upstream a.store
  let a := {a with store := {a.store with nextOid := a.store.nextOid + updates.length}}
  let (a,groups) := getEventGroups a
  let batch := ((candidates a (allHubDataPoints a.store ++ a.hubSingletons) updates groups).filter
    (announceable upstream a.registered)).map (·.toAnnounced)
  {a with
    announcements := if batch = [] then a.announcements else a.announcements ++ [batch]
    announcedAlarmPanelIds := a.announcedAlarmPanelIds ∪
      ((batch.filter fun b => b.category = .alarmControlPanel).map (·.uniqueId)).toFinset}

-- The week profile and, on the channel that carries switches, one switch for each lock key.
def targetChannelUniqueId (upstream : Upstream) (serialSuffix : String) (address : Address)
    (profile : WeekProfileResponse) (channelKey : String) : String :=
  ((profile.availableTargetChannels.getD .empty).get? channelKey).getD
    (upstream.canonicalUniqueId serialSuffix address (some ("SCHEDULE_CHANNEL_LOCK_" ++ channelKey))
      (some "schedule_channel_switch"))

def appendExtra (a : Adapter V) (category : DataPointCategory) (uniqueId : String) (address : Address)
    (channelNo : Int) (translatedName : Option String) : Adapter V :=
  {a with
    extraDataPoints := a.extraDataPoints ++ [⟨a.store.nextOid,category,uniqueId,address,channelNo,translatedName⟩]
    store := {a.store with nextOid := a.store.nextOid + 1}}

def isClimate (profile : WeekProfileResponse) : Bool := profile.scheduleType = "climate"

def spawnWeekProfile (upstream : Upstream) (a : Adapter V) (address : Address) (channelNo : Int)
    (profile : WeekProfileResponse) (entries : Option Nat) (withSwitches : Bool) : Adapter V :=
  let dp : Model.WeekProfileDp := ⟨a.store.nextOid,profile.uniqueId,address,channelNo,isClimate profile,entries⟩
  let b := appendExtra a .weekProfile profile.uniqueId address channelNo none
  let c := {b with store := setWeekProfileDataPoint b.store address dp (isClimate profile)}
  if withSwitches then
    (profile.scheduleEnabled.getD .empty).keys.foldl (fun c key => appendExtra c .scheduleSwitch
      (targetChannelUniqueId upstream c.store.serialSuffix address profile key) address channelNo none) c
  else c

-- One number for each plain siren whose channel has both halves of the duration pair.
def channelHasDurationPair (s : LoomStore V) (address : Address) (channelNo : Int) : Bool :=
  decide ((address,channelNo,"DURATION_VALUE") ∈ s.dataPoints) &&
    decide ((address,channelNo,"DURATION_UNIT") ∈ s.dataPoints)

def combinedSirens (s : LoomStore V) : List (Address × Int) :=
  s.devices.values.flatMap fun d =>
    ((customDataPointsOf s d.address).filter fun cdp =>
      cdp.cls = .siren ∧ channelHasDurationPair s d.address cdp.summary.channelNo = true).map
      fun cdp => (d.address,cdp.summary.channelNo)

def combinedUniqueId (upstream : Upstream) (serialSuffix : String) (address : Address) (channelNo : Int) : String :=
  upstream.canonicalUniqueId serialSuffix (address ++ ":" ++ toString channelNo) (some "duration") (some "combined")

def bootstrapCombinedDataPoints (upstream : Upstream) (a : Adapter V) : Adapter V :=
  (combinedSirens a.store).foldl (fun b k => appendExtra b .number
    (combinedUniqueId upstream b.store.serialSuffix k.1 k.2) k.1 k.2 (b.suppressedCalcLabels.get? k)) a

inductive Effect (V : Type) where
  | store (operation : Operation V)
  | suppressLabel (channel : ChannelKey) (label : String)
  | spawnWeekProfile (address : Address) (channelNo : Int) (profile : WeekProfileResponse) (entries : Option Nat)
      (withSwitches : Bool)
  | bootstrapCombinedDataPoints
  | emitDataPointsCreated
  | publishDataPointsCreated (devices : List Address)
  | register (oid : Model.Oid)
  | unregister (oid : Model.Oid)
  deriving DecidableEq

def applyEffect (upstream : Upstream) (a : Adapter V) : Effect V → Adapter V
  | .store operation => {a with store := apply a.store operation}
  | .suppressLabel channel label => {a with suppressedCalcLabels := a.suppressedCalcLabels.set channel label}
  | .spawnWeekProfile address channelNo profile entries withSwitches =>
    spawnWeekProfile upstream a address channelNo profile entries withSwitches
  | .bootstrapCombinedDataPoints => bootstrapCombinedDataPoints upstream a
  | .emitDataPointsCreated => emitDataPointsCreated upstream a
  | .publishDataPointsCreated devices => {a with loomAnnouncements := a.loomAnnouncements ++ [devices]}
  | .register oid => {a with registered := insert oid a.registered}
  | .unregister oid => {a with registered := a.registered.erase oid}

end LoomClient.Compat
