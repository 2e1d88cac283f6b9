import LoomClient.Compat.Frame
import LoomClient.Store.Frame
import LoomClient.Lib.Slots

namespace LoomClient.Compat
open Lib Wire Store
variable {V : Type} (upstream : Upstream)

-- What a consumer files an object under.
def Announced.key (d : Announced) : DataPointCategory × String := (d.category,d.uniqueId)
def ExtraDp.key (e : ExtraDp) : DataPointCategory × String := (e.category,e.uniqueId)
def extraKeys (a : Adapter V) : List (DataPointCategory × String) := a.extraDataPoints.map ExtraDp.key

structure Appends (a b : Adapter V) (keys : List (DataPointCategory × String)) : Prop where
  store : besideExtras b.store = besideExtras a.store
  counter : a.store.nextOid + keys.length ≤ b.store.nextOid
  extras : extraKeys b = extraKeys a ++ keys
  older : a.extraDataPoints <+: b.extraDataPoints
  singletons : b.hubSingletons = a.hubSingletons
  groups : b.eventGroups = a.eventGroups
  registered : b.registered = a.registered
  announcements : b.announcements = a.announcements

theorem appends_refl (a : Adapter V) : Appends a a [] :=
  ⟨rfl,Nat.le_refl _,(List.append_nil _).symm,List.prefix_rfl,rfl,rfl,rfl,rfl⟩

theorem appends_trans {a b c : Adapter V} (first : Appends a b keys) (second : Appends b c more) :
    Appends a c (keys ++ more) where
  store := second.store.trans first.store
  counter := by
    rw [List.length_append,← Nat.add_assoc]
    exact (Nat.add_le_add_right first.counter more.length).trans second.counter
  extras := by rw [second.extras,first.extras,List.append_assoc]
  older := first.older.trans second.older
  singletons := second.singletons.trans first.singletons
  groups := second.groups.trans first.groups
  registered := second.registered.trans first.registered
  announcements := second.announcements.trans first.announcements

theorem appends_suffix {a b : Adapter V} (appended : Appends a b keys) : b.store.serialSuffix = a.store.serialSuffix :=
  unchanged appended.store LoomStore.serialSuffix fun _ => rfl

theorem append_extra_appends (a : Adapter V) (category : DataPointCategory) (uniqueId : String) (address : Address)
    (channelNo : Int) (translatedName : Option String) :
    Appends a (appendExtra a category uniqueId address channelNo translatedName) [(category,uniqueId)] where
  store := rfl
  counter := Nat.le_refl _
  extras := by simp only [extraKeys,appendExtra,List.map_append,List.map_cons,List.map_nil,ExtraDp.key]
  older := List.prefix_append _ _
  singletons := rfl
  groups := rfl
  registered := rfl
  announcements := rfl

theorem appends_each {α : Type} (step : Adapter V → α → Adapter V) (key : String → α → DataPointCategory × String)
    (each : ∀ b x, Appends b (step b x) [key b.store.serialSuffix x]) (a : Adapter V) (items : List α) :
    Appends a (items.foldl step a) (items.map (key a.store.serialSuffix)) := by
  induction items generalizing a with
  | nil => exact appends_refl a
  | cons x rest ih =>
    have first := each a x
    have later := ih (step a x)
    rw [appends_suffix first] at later
    exact appends_trans first later

def switchKey (serialSuffix : String) (address : Address) (profile : WeekProfileResponse) (channelKey : String) :
    DataPointCategory × String :=
  (.scheduleSwitch,targetChannelUniqueId upstream serialSuffix address profile channelKey)

def spawnKeys (serialSuffix : String) (address : Address) (profile : WeekProfileResponse) (withSwitches : Bool) :
    List (DataPointCategory × String) :=
  (.weekProfile,profile.uniqueId) ::
    if withSwitches then
      (profile.scheduleEnabled.getD .empty).keys.map (switchKey upstream serialSuffix address profile)
    else []

def combinedKeys (s : LoomStore V) : List (DataPointCategory × String) :=
  (combinedSirens s).map fun k => (.number,combinedUniqueId upstream s.serialSuffix k.1 k.2)

theorem switches_append (a : Adapter V) (keys : List String) (address : Address) (channelNo : Int)
    (profile : WeekProfileResponse) : Appends a (keys.foldl (appendSwitch upstream address channelNo profile) a)
      (keys.map (switchKey upstream a.store.serialSuffix address profile)) :=
  appends_each (appendSwitch upstream address channelNo profile)
    (fun suffix key => switchKey upstream suffix address profile key)
    (fun b _ => append_extra_appends b _ _ _ _ _) a keys

theorem spawn_appends (a : Adapter V) (address : Address) (channelNo : Int) (profile : WeekProfileResponse)
    (entries : Option Nat) (withSwitches : Bool) :
    Appends a (spawnWeekProfile upstream a address channelNo profile entries withSwitches)
      (spawnKeys upstream a.store.serialSuffix address profile withSwitches) := by
  let dp : Model.WeekProfileDp := ⟨a.store.nextOid,profile.uniqueId,address,channelNo,isClimate profile,entries⟩
  let b := appendExtra a .weekProfile profile.uniqueId address channelNo none
  let c : Adapter V := {b with store := setWeekProfileDataPoint b.store address dp (isClimate profile)}
  have extra := append_extra_appends a .weekProfile profile.uniqueId address channelNo none
  have stored : Appends a c [(.weekProfile,profile.uniqueId)] := {extra with
    counter := extra.counter.trans (Nat.le_max_left _ _)}
  cases withSwitches with
  | false => exact stored
  | true =>
    exact appends_trans stored
      (switches_append upstream c (profile.scheduleEnabled.getD .empty).keys address channelNo profile)

theorem combined_appends (a : Adapter V) :
    Appends a (bootstrapCombinedDataPoints upstream a) (combinedKeys upstream a.store) :=
  appends_each _ (fun suffix (k : Address × Int) => (.number,combinedUniqueId upstream suffix k.1 k.2))
    (fun b _ => append_extra_appends b _ _ _ _ _) a (combinedSirens a.store)

-- The cache of event groups: an entry stays, and stands under its own key.
def GroupsKeyed (cache : Dict String ChannelEventGroup) : Prop := ∀ uid g, cache.get? uid = some g → g.uniqueId = uid

theorem cached_groups (a : Adapter V) (built : List (ChannelKey × EventGroupSummary)) : ∃ cache counter,
    built.foldl cacheEventGroup a = {a with eventGroups := cache,store := {a.store with nextOid := counter}} ∧
      a.store.nextOid ≤ counter ∧ Grows a.eventGroups.get? cache.get? ∧
      (GroupsKeyed a.eventGroups → GroupsKeyed cache) := by
  induction built generalizing a with
  | nil => exact ⟨a.eventGroups,a.store.nextOid,rfl,Nat.le_refl _,grows_refl _,id⟩
  | cons g rest ih =>
    rw [List.foldl_cons,cacheEventGroup]
    split
    · exact ih a
    · rename_i fresh
      let group : ChannelEventGroup := ⟨a.store.nextOid,g.2.uniqueId,g.2.kind,g.1,groupMembers a.store g.1 g.2⟩
      obtain ⟨cache,counter,same,above,kept,keyed⟩ := ih {a with
        eventGroups := a.eventGroups.set g.2.uniqueId group
        store := {a.store with nextOid := a.store.nextOid + 1}}
      refine ⟨cache,counter,same,(Nat.le_succ _).trans above,?_,fun before => keyed ?_⟩
      · refine grows_trans ?_ kept
        intro uid old found
        have other : uid ≠ g.2.uniqueId := fun equal => fresh (equal ▸ Dict.mem_of_get? found)
        rw [Dict.get?_set,if_neg other]
        exact found
      · intro uid other found
        rw [Dict.get?_set] at found
        split at found
        · rename_i equal
          exact (congrArg ChannelEventGroup.uniqueId (Option.some.inj found)).symm.trans equal.symm
        · exact before uid other found

def standing (a : Adapter V) : List Candidate := candidates a (allHubDataPoints a.store ++ a.hubSingletons) [] []

def newlyAnnounced (s t : Adapter V) : List Announced := (t.announcements.drop s.announcements.length).flatten

theorem candidates_draw (a : Adapter V) (hub updates : List Announced) (groups : List ChannelEventGroup)
    (c : Candidate) : c ∈ candidates a hub updates groups ↔ c ∈ candidates a hub [] [] ∨
      (∃ u ∈ updates, ⟨u,none⟩ = c) ∨ ∃ g ∈ groups, ⟨⟨g.oid,.eventGroup,g.uniqueId⟩,none⟩ = c := by
  simp only [candidates,List.mem_append,List.mem_map,List.map_nil,List.not_mem_nil,or_false]
  exact iff_of_eq (by ac_rfl)

structure Emitted (a t : Adapter V) : Prop where
  store : besideMinted t.store = besideMinted a.store
  counter : a.store.nextOid + (updateDataPoints upstream a.store).length ≤ t.store.nextOid
  extras : t.extraDataPoints = a.extraDataPoints
  singletons : t.hubSingletons = a.hubSingletons
  registered : t.registered = a.registered
  kept : Grows a.eventGroups.get? t.eventGroups.get?
  keyed : GroupsKeyed a.eventGroups → GroupsKeyed t.eventGroups
  before : ∃ batches, t.announcements = a.announcements ++ batches
  batch : ∀ e, e ∈ newlyAnnounced a t → ∃ c : Candidate, c.toAnnounced = e ∧
    announceable upstream a.registered c = true ∧ (c ∈ standing a ∨
      (∃ u ∈ updateDataPoints upstream a.store, ⟨u,none⟩ = c) ∨
      ∃ uid g, t.eventGroups.get? uid = some g ∧ ⟨⟨g.oid,.eventGroup,g.uniqueId⟩,none⟩ = c)
  complete : ∀ c : Candidate, announceable upstream a.registered c = true →
    (c ∈ standing a ∨ ∃ u ∈ updateDataPoints upstream a.store, ⟨u,none⟩ = c) → c.toAnnounced ∈ newlyAnnounced a t

theorem newly_appended (a : List (List Announced)) (batch : List Announced) :
    ((if batch = [] then a else a ++ [batch]).drop a.length).flatten = batch := by
  split
  · rename_i empty
    rw [empty,List.drop_length,List.flatten_nil]
  · rw [List.drop_left,List.flatten_cons,List.flatten_nil,List.append_nil]

theorem emitted (a : Adapter V) : Emitted upstream a (emitDataPointsCreated upstream a) := by
  let updates := updateDataPoints upstream a.store
  let counted : Adapter V := {a with store := {a.store with nextOid := a.store.nextOid + updates.length}}
  obtain ⟨cache,counter,same,above,kept,keyed⟩ := cached_groups counted (buildEventGroups counted.store)
  let groups := (buildEventGroups counted.store).filterMap fun g => cache.get? g.2.uniqueId
  let cached : Adapter V := {a with eventGroups := cache,store := {a.store with nextOid := counter}}
  let offered := candidates cached (allHubDataPoints a.store ++ a.hubSingletons) updates groups
  let batch := (offered.filter (announceable upstream a.registered)).map (·.toAnnounced)
  have unfolded : emitDataPointsCreated upstream a = {cached with
      announcements := if batch = [] then a.announcements else a.announcements ++ [batch]
      announcedAlarmPanelIds := a.announcedAlarmPanelIds ∪
        ((batch.filter fun b => b.category = .alarmControlPanel).map (·.uniqueId)).toFinset} := by
    unfold emitDataPointsCreated getEventGroups
    dsimp only
    rw [same]
    rfl
  have draws (c : Candidate) : c ∈ offered ↔ c ∈ standing a ∨ (∃ u ∈ updates, ⟨u,none⟩ = c) ∨
      ∃ g ∈ groups, ⟨⟨g.oid,.eventGroup,g.uniqueId⟩,none⟩ = c :=
    candidates_draw cached (allHubDataPoints a.store ++ a.hubSingletons) updates groups c
  have fresh : newlyAnnounced a (emitDataPointsCreated upstream a) = batch := by
    rw [unfolded]
    exact newly_appended a.announcements batch
  rw [unfolded] at fresh ⊢
  refine ⟨rfl,above,rfl,rfl,rfl,kept,keyed,?_,?_,?_⟩
  · by_cases empty : batch = []
    · exact ⟨[],by rw [if_pos empty,List.append_nil]⟩
    · exact ⟨[batch],if_neg empty⟩
  · intro e member
    rw [fresh] at member
    obtain ⟨c,offer,rfl⟩ := List.mem_map.mp member
    obtain ⟨member,allowed⟩ := List.mem_filter.mp offer
    refine ⟨c,rfl,allowed,((draws c).mp member).imp_right fun rest => rest.imp_right ?_⟩
    intro ⟨g,listed,equal⟩
    obtain ⟨built,_,found⟩ := List.mem_filterMap.mp listed
    exact ⟨built.2.uniqueId,g,found,equal⟩
  · intro c allowed drawn
    rw [fresh]
    exact List.mem_map_of_mem (List.mem_filter.mpr ⟨(draws c).mpr (drawn.imp_right .inl),allowed⟩)

end LoomClient.Compat
