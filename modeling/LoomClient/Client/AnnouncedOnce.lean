import LoomClient.Client.Daemon
import LoomClient.Compat.Offers

namespace LoomClient.Client
open Lib Wire Store Compat
variable {V : Type} (upstream : Upstream)

abbrev FiledKey := DataPointCategory × String

-- What the adapter offers out of slots that stay, and what it builds anew.
def keptOffers (a : Adapter V) : List Announced :=
  (a.store.dataPoints.entries.filter fun e => e.1 ∉ a.store.calculatedDpKeys).map (fun e => pointOffer e.2) ++
    a.store.cdps.values.map customOffer ++ a.store.sysvars.values.map sysvarOffer ++
    a.store.programDps.values.flatMap twinOffers ++ a.store.alarmPanels.values.map panelOffer ++ a.hubSingletons

def renewedCandidates (s : LoomStore V) : List Candidate :=
  (s.dataPoints.entries.filter fun e => e.1 ∈ s.calculatedDpKeys).map (fun e => ⟨pointOffer e.2,e.2.summary.usage⟩) ++
    (updateDataPoints upstream s).map (⟨·,none⟩)

def renewedKeys (s : LoomStore V) : List FiledKey := (renewedCandidates upstream s).map (·.toAnnounced.key)

def announced (a : Adapter V) : List Announced := a.announcements.flatten
def isAnnounced (a : Adapter V) (oid : Model.Oid) : Prop := oid ∈ (announced a).map (·.oid)

instance (a : Adapter V) (oid : Model.Oid) : Decidable (isAnnounced a oid) := inferInstanceAs (Decidable (oid ∈ _))

-- The keys that the consumer's registered objects hold.
def heldKeys (a : Adapter V) : List FiledKey := ((announced a).filter fun d => d.oid ∈ a.registered).map Announced.key

def profileAt (s : LoomStore V) (address : Address) (climate : Bool) : Option Model.WeekProfileDp :=
  (s.weekProfileDps.getD address .empty).get? climate

-- The unique ids of the daemon tell the objects apart.
structure IdsApart (a : Adapter V) : Prop where
  kept : ∀ d ∈ keptOffers a, ∀ e ∈ keptOffers a, d.key = e.key → d.oid = e.oid
  renewed : ∀ d ∈ keptOffers a, d.key ∉ renewedKeys upstream a.store
  extras : ∀ κ ∈ extraKeys a, κ ∉ (keptOffers a).map Announced.key ∧ κ ∉ renewedKeys upstream a.store
  singletons : ∀ d ∈ a.hubSingletons, d.category ≠ .eventGroup

instance (a : Adapter V) : Decidable (IdsApart upstream a) :=
  decidable_of_iff ((∀ d ∈ keptOffers a, ∀ e ∈ keptOffers a, d.key = e.key → d.oid = e.oid) ∧
    (∀ d ∈ keptOffers a, d.key ∉ renewedKeys upstream a.store) ∧
    (∀ κ ∈ extraKeys a, κ ∉ (keptOffers a).map Announced.key ∧ κ ∉ renewedKeys upstream a.store) ∧
    ∀ d ∈ a.hubSingletons, d.category ≠ .eventGroup)
    ⟨fun ⟨kept,renewed,extras,singletons⟩ => ⟨kept,renewed,extras,singletons⟩,
      fun ⟨kept,renewed,extras,singletons⟩ => ⟨kept,renewed,extras,singletons⟩⟩

-- Every answer and every push shows the store what it holds, whatever reads fail and however the
-- walks interleave.
def Unchanged (a : Adapter V) : Effect V → Prop
  | .store operation => SamePopulation a.store operation
  | .emitDataPointsCreated => IdsApart upstream a
  | _ => True

instance (a : Adapter V) (effect : Effect V) : Decidable (Unchanged upstream a effect) := by
  induction effect using Effect.casesOn <;> unfold Unchanged <;> infer_instance

-- What is promised of an effect, before and after.
structure AnnouncedOnce (a : Adapter V) (b : Adapter V) : Prop where
  extras : (extraKeys b).Nodup
  fresh : ∀ e ∈ newlyAnnounced a b, e.key ∉ heldKeys a
  profiles : ∀ address climate dp, profileAt a.store address climate = some dp → isAnnounced a dp.oid →
    profileAt b.store address climate = some dp

-- No schedule and no combined number comes a second time, no schedule takes the place of an
-- announced one, and nothing built anew has the key of a registered object.
def BuiltOnce (a : Adapter V) : Effect V → Prop
  | .spawnWeekProfile address _ profile _ withSwitches =>
    (extraKeys a ++ spawnKeys upstream a.store.serialSuffix address profile withSwitches).Nodup ∧
      ∀ dp ∈ profileAt a.store address (isClimate profile), ¬isAnnounced a dp.oid
  | .bootstrapCombinedDataPoints => (extraKeys a ++ combinedKeys upstream a.store).Nodup
  | .emitDataPointsCreated => ∀ c ∈ renewedCandidates upstream a.store, announceable upstream a.registered c = true →
    c.toAnnounced.key ∉ heldKeys a
  | _ => True

instance (a : Adapter V) (effect : Effect V) : Decidable (BuiltOnce upstream a effect) := by
  induction effect using Effect.casesOn <;> unfold BuiltOnce <;> infer_instance

section Lists
variable {upstream} {a : Adapter V} {s : LoomStore V}

theorem mem_kept_offers : d ∈ keptOffers a ↔
    (∃ slot offers, offersAt a.store slot = some offers ∧ d ∈ offers) ∨ d ∈ a.hubSingletons := by
  unfold keptOffers
  rw [List.mem_append]
  refine or_congr_left ?_
  simp only [List.mem_append,List.mem_map,List.mem_filter,List.mem_flatMap,Dict.mem_values,decide_eq_true_eq]
  constructor
  · rintro ((((⟨⟨k,dp⟩,⟨stored,plain⟩,rfl⟩ | ⟨cdp,⟨k,stored⟩,rfl⟩) | ⟨v,⟨k,stored⟩,rfl⟩) | ⟨twins,⟨k,stored⟩,member⟩) |
      ⟨p,⟨k,stored⟩,rfl⟩)
    · exact ⟨.dataPoint k,_,by rw [offersAt,if_neg plain,Dict.mem_entries.mp stored]; rfl,.head _⟩
    · exact ⟨.customDataPoint k,_,by rw [offersAt,stored]; rfl,.head _⟩
    · exact ⟨.sysvar k,_,by rw [offersAt,stored]; rfl,.head _⟩
    · exact ⟨.program k,_,by rw [offersAt,stored]; rfl,member⟩
    · exact ⟨.alarmPanel k,_,by rw [offersAt,stored]; rfl,.head _⟩
  · rintro ⟨slot,offers,found,member⟩
    cases slot with
    | dataPoint k =>
      simp only [offersAt] at found
      split at found
      · cases found
      · rename_i plain
        obtain ⟨dp,stored,rfl⟩ := Option.map_eq_some_iff.mp found
        obtain rfl := List.mem_singleton.mp member
        exact .inl (.inl (.inl (.inl ⟨(k,dp),⟨Dict.mem_entries.mpr stored,plain⟩,rfl⟩)))
    | customDataPoint k =>
      obtain ⟨cdp,stored,rfl⟩ := Option.map_eq_some_iff.mp found
      obtain rfl := List.mem_singleton.mp member
      exact .inl (.inl (.inl (.inr ⟨cdp,⟨k,stored⟩,rfl⟩)))
    | sysvar k =>
      obtain ⟨v,stored,rfl⟩ := Option.map_eq_some_iff.mp found
      obtain rfl := List.mem_singleton.mp member
      exact .inl (.inl (.inr ⟨v,⟨k,stored⟩,rfl⟩))
    | program k =>
      obtain ⟨twins,stored,rfl⟩ := Option.map_eq_some_iff.mp found
      exact .inl (.inr ⟨twins,⟨k,stored⟩,member⟩)
    | alarmPanel k =>
      obtain ⟨p,stored,rfl⟩ := Option.map_eq_some_iff.mp found
      obtain rfl := List.mem_singleton.mp member
      exact .inr ⟨p,⟨k,stored⟩,rfl⟩

theorem update_keys (s : LoomStore V) : (updateDataPoints upstream s).map Announced.key =
    (s.devices.values.filter (·.summary.updatable)).map fun d => updateKey upstream s.serialSuffix d.address := by
  have numbered := List.zipIdx_map_fst s.nextOid (s.devices.values.filter (·.summary.updatable))
  conv => rhs; rw [← numbered,List.map_map]
  unfold updateDataPoints
  rw [List.map_map]
  rfl

theorem mem_renewed_keys (keyed : DevicesKeyed s) :
    κ ∈ renewedKeys upstream s ↔ ∃ slot, renewedAt upstream s slot = some κ := by
  have parts : renewedKeys upstream s =
      (s.dataPoints.entries.filter fun e => e.1 ∈ s.calculatedDpKeys).map (fun e => (pointOffer e.2).key) ++
        (updateDataPoints upstream s).map Announced.key := by
    simp only [renewedKeys,renewedCandidates,List.map_append,List.map_map,Function.comp_def]
  rw [parts,update_keys]
  simp only [List.mem_append,List.mem_map,List.mem_filter,Dict.mem_values,decide_eq_true_eq]
  constructor
  · rintro (⟨⟨k,dp⟩,⟨stored,calculated⟩,rfl⟩ | ⟨d,⟨⟨address,stored⟩,updatable⟩,rfl⟩)
    · exact ⟨.calculated k,by rw [renewedAt,if_pos calculated,Dict.mem_entries.mp stored]; rfl⟩
    · refine ⟨.update address,?_⟩
      have own : d.address = address := keyed address d stored
      rw [renewedAt,stored,Option.filter_some,if_pos updatable,own]
      rfl
  · rintro ⟨slot,found⟩
    cases slot with
    | calculated k =>
      simp only [renewedAt] at found
      split at found
      · rename_i calculated
        obtain ⟨dp,stored,rfl⟩ := Option.map_eq_some_iff.mp found
        exact .inl ⟨(k,dp),⟨Dict.mem_entries.mpr stored,calculated⟩,rfl⟩
      · cases found
    | update address =>
      obtain ⟨d,stored,rfl⟩ := Option.map_eq_some_iff.mp found
      obtain ⟨stored,updatable⟩ := Option.filter_eq_some_iff.mp stored
      have own : d.address = address := keyed address d stored
      exact .inr ⟨d,⟨⟨address,stored⟩,updatable⟩,by rw [own]⟩

variable (upstream) in
theorem standing_sources {c : Candidate} (member : c ∈ standing a) :
    c.toAnnounced ∈ keptOffers a ∨ c ∈ renewedCandidates upstream a.store ∨
      ∃ x ∈ a.extraDataPoints, (⟨x.oid,x.category,x.uniqueId⟩ : Announced) = c.toAnnounced := by
  unfold standing candidates at member
  simp only [List.map_append,List.map_nil,List.append_nil,List.mem_append,List.mem_map] at member
  have kept {d : Announced} (slot : KeptSlot) (offers : List Announced) (found : offersAt a.store slot = some offers) (listed : d ∈ offers) :
      d ∈ keptOffers a := mem_kept_offers.mpr (.inl ⟨slot,offers,found,listed⟩)
  rcases member with ((((⟨dp,stored,rfl⟩ | ⟨cdp,stored,rfl⟩) | ⟨x,listed,rfl⟩) | ⟨d,hub,rfl⟩ | ⟨d,single,rfl⟩)) | ⟨p,stored,rfl⟩
  · obtain ⟨k,found⟩ := Dict.mem_values.mp stored
    by_cases calculated : k ∈ a.store.calculatedDpKeys
    · refine .inr (.inl (List.mem_append_left _ (List.mem_map.mpr ⟨(k,dp),?_,rfl⟩)))
      exact List.mem_filter.mpr ⟨Dict.mem_entries.mpr found,decide_eq_true calculated⟩
    · refine .inl (kept (.dataPoint k) [pointOffer dp] ?_ (.head _))
      rw [offersAt,if_neg calculated,found]
      rfl
  · obtain ⟨k,found⟩ := Dict.mem_values.mp stored
    exact .inl (kept (.customDataPoint k) [customOffer cdp] (by rw [offersAt,found]; rfl) (.head _))
  · exact .inr (.inr ⟨x,listed,rfl⟩)
  · unfold allHubDataPoints at hub
    rcases List.mem_append.mp hub with sysvar | program
    · obtain ⟨v,shown,rfl⟩ := List.mem_map.mp sysvar
      obtain ⟨k,found⟩ := Dict.mem_values.mp (List.mem_filter.mp shown).1
      exact .inl (kept (.sysvar k) [sysvarOffer v] (by rw [offersAt,found]; rfl) (.head _))
    · obtain ⟨p,_,listed⟩ := List.mem_flatMap.mp program
      unfold Dict.getD at listed
      cases found : a.store.programDps.get? p.summary.id with
      | none => simp [found] at listed
      | some twins =>
        rw [found] at listed
        exact .inl (kept (.program p.summary.id) (twinOffers twins) (by rw [offersAt,found]; rfl) listed)
  · exact .inl (mem_kept_offers.mpr (.inr single))
  · obtain ⟨k,found⟩ := Dict.mem_values.mp stored
    exact .inl (kept (.alarmPanel k) [panelOffer p] (by rw [offersAt,found]; rfl) (.head _))

end Lists
-- The object itself in its slot, or that its key is one of those that are built anew.
inductive Remembered (a : Adapter V) (old : Announced) : Prop where
  | kept (slot : KeptSlot) (offers : List Announced) (found : offersAt a.store slot = some offers) (member : old ∈ offers)
  | singleton (member : old ∈ a.hubSingletons)
  | extra (x : ExtraDp) (listed : x ∈ a.extraDataPoints) (same : (⟨x.oid,x.category,x.uniqueId⟩ : Announced) = old)
  | group (uid : String) (g : ChannelEventGroup) (found : a.eventGroups.get? uid = some g)
      (same : (⟨g.oid,.eventGroup,g.uniqueId⟩ : Announced) = old)
  | renewed (slot : RenewedSlot) (found : renewedAt upstream a.store slot = some old.key)

structure Steady (a : Adapter V) : Prop where
  settled : Settled a.store
  groups : GroupsKeyed a.eventGroups
  extras : ∀ κ ∈ extraKeys a, κ.1 ≠ .eventGroup
  profiles : ∀ address climate dp, profileAt a.store address climate = some dp → dp.oid < a.store.nextOid
  announced : ∀ old ∈ announced a, Remembered upstream a old

section Effects
variable {upstream} {a b : Adapter V}

theorem remembered_later (offers : Grows (offersAt a.store) (offersAt b.store))
    (renewed : Grows (renewedAt upstream a.store) (renewedAt upstream b.store)) (singletons : b.hubSingletons = a.hubSingletons)
    (extras : ∀ x ∈ a.extraDataPoints, x ∈ b.extraDataPoints) (groups : Grows a.eventGroups.get? b.eventGroups.get?)
    (known : Remembered upstream a old) : Remembered upstream b old := by
  cases known with
  | kept slot list found member => exact .kept slot list (offers slot list found) member
  | singleton member => exact .singleton (singletons ▸ member)
  | extra x listed same => exact .extra x (extras x listed) same
  | group uid g found same => exact .group uid g (groups uid g found) same
  | renewed slot found => exact .renewed slot (renewed slot old.key found)

theorem extras_offers (frame : besideExtras b.store = besideExtras a.store) : offersAt b.store = offersAt a.store :=
  offers_frame frame fun u slot => by cases slot <;> rfl

theorem extras_renewed (frame : besideExtras b.store = besideExtras a.store) :
    renewedAt upstream b.store = renewedAt upstream a.store :=
  renewed_frame frame fun u slot => by cases slot <;> rfl

theorem extras_settled (frame : besideExtras b.store = besideExtras a.store) (settled : Settled a.store) :
    Settled b.store := by
  refine settled_beside settled ?_ frame (fun _ => rfl) fun _ => rfl
  exact tied_same settled.toTied (unchanged frame LoomStore.dataPoints fun _ => rfl)
    (unchanged frame LoomStore.sysvars fun _ => rfl) (unchanged frame LoomStore.programs fun _ => rfl)
    (unchanged frame LoomStore.programDps fun _ => rfl) (unchanged frame LoomStore.alarmPanels fun _ => rfl)

theorem announced_same (same : b.announcements = a.announcements) : newlyAnnounced a b = [] := by
  unfold newlyAnnounced
  rw [same,List.drop_length,List.flatten_nil]

theorem appends_steady {keys : List FiledKey} (steady : Steady upstream a) (appended : Appends a b keys)
    (plain : ∀ κ ∈ keys, κ.1 ≠ .eventGroup)
    (profiles : ∀ address climate dp, profileAt b.store address climate = some dp → dp.oid < b.store.nextOid) :
    Steady upstream b where
  settled := extras_settled appended.store steady.settled
  groups := by
    rw [appended.groups]
    exact steady.groups
  extras := by
    rw [appended.extras]
    intro κ member
    rcases List.mem_append.mp member with old | new
    · exact steady.extras κ old
    · exact plain κ new
  profiles := profiles
  announced := by
    intro old member
    unfold announced at member
    rw [appended.announcements] at member
    exact remembered_later (grows_of_same (extras_offers appended.store)) (grows_of_same (extras_renewed appended.store))
      appended.singletons (fun x listed => appended.older.subset listed) (grows_of_same (congrArg Dict.get? appended.groups))
      (steady.announced old member)

theorem spawn_keys_plain (serialSuffix : String) (address : Address) (profile : WeekProfileResponse) (withSwitches : Bool) :
    ∀ κ ∈ spawnKeys upstream serialSuffix address profile withSwitches, κ.1 ≠ .eventGroup := by
  intro κ member
  rcases List.mem_cons.mp member with rfl | switches
  · exact nofun
  · split at switches
    · obtain ⟨key,_,rfl⟩ := List.mem_map.mp switches
      exact nofun
    · cases switches

theorem combined_keys_plain (s : LoomStore V) : ∀ κ ∈ combinedKeys upstream s, κ.1 ≠ .eventGroup := by
  intro κ member
  obtain ⟨k,_,rfl⟩ := List.mem_map.mp member
  exact nofun

theorem spawned_profile (address : Address) (channelNo : Int) (profile : WeekProfileResponse) (entries : Option Nat)
    (withSwitches : Bool) (other : Address) (climate : Bool) :
    profileAt (spawnWeekProfile upstream a address channelNo profile entries withSwitches).store other climate =
      if other = address ∧ climate = isClimate profile then
        some ⟨a.store.nextOid,profile.uniqueId,address,channelNo,isClimate profile,entries⟩
      else profileAt a.store other climate := by
  have minted := spawn_minted upstream a address channelNo profile entries withSwitches
  have same := unchanged minted LoomStore.weekProfileDps fun _ => rfl
  unfold profileAt
  rw [same,setWeekProfileDataPoint]
  dsimp only
  unfold Dict.getD
  rw [Dict.get?_set]
  by_cases here : other = address
  · rw [if_pos here,Option.getD_some,Dict.get?_set,here]
    by_cases kind : climate = isClimate profile
    · rw [if_pos kind,if_pos ⟨rfl,kind⟩]
    · rw [if_neg kind,if_neg fun both => kind both.2]
  · rw [if_neg here,if_neg fun both => here both.1]

variable (upstream) in
theorem spawn_counter (a : Adapter V) (address : Address) (channelNo : Int) (profile : WeekProfileResponse)
    (entries : Option Nat) (withSwitches : Bool) :
    a.store.nextOid < (spawnWeekProfile upstream a address channelNo profile entries withSwitches).store.nextOid := by
  have minted := (spawn_appends upstream a address channelNo profile entries withSwitches).counter
  rw [spawnKeys,List.length_cons] at minted
  exact Nat.lt_of_lt_of_le (Nat.lt_add_of_pos_right (Nat.succ_pos _)) minted

theorem held_by {κ : FiledKey} (held : κ ∈ heldKeys a) : ∃ old ∈ announced a, old.oid ∈ a.registered ∧ old.key = κ := by
  obtain ⟨old,member,same⟩ := List.mem_map.mp held
  obtain ⟨member,registered⟩ := List.mem_filter.mp member
  exact ⟨old,member,of_decide_eq_true registered,same⟩

theorem kept_plain (tied : Tied a.store) (apart : IdsApart upstream a) (member : d ∈ keptOffers a) :
    d.category ≠ .eventGroup := by
  rcases mem_kept_offers.mp member with ⟨slot,offers,found,listed⟩ | single
  · exact offers_plain tied found d listed
  · exact apart.singletons d single

theorem kept_unheld (steady : Steady upstream a) (apart : IdsApart upstream a) (member : e ∈ keptOffers a)
    (unregistered : e.oid ∉ a.registered) : e.key ∉ heldKeys a := by
  intro held
  obtain ⟨old,before,registered,same⟩ := held_by held
  have own (there : old ∈ keptOffers a) : False := by
    rw [apart.kept old there e member same] at registered
    exact unregistered registered
  cases steady.announced old before with
  | kept slot offers found listed => exact own (mem_kept_offers.mpr (.inl ⟨slot,offers,found,listed⟩))
  | singleton single => exact own (mem_kept_offers.mpr (.inr single))
  | extra x listed alike =>
    have key : e.key ∈ extraKeys a := by
      rw [← same,← alike]
      exact List.mem_map_of_mem (f := ExtraDp.key) listed
    exact (apart.extras e.key key).1 (List.mem_map_of_mem member)
  | group uid g _ alike =>
    refine kept_plain steady.settled.toTied apart member ?_
    exact (congrArg Prod.fst same).symm.trans (congrArg Announced.category alike).symm
  | renewed slot found =>
    refine apart.renewed e member ((mem_renewed_keys steady.settled.devices).mpr ⟨slot,?_⟩)
    rw [← same]
    exact found

theorem extra_unheld (steady : Steady upstream a) (apart : IdsApart upstream a) (nodup : (extraKeys a).Nodup)
    {x : ExtraDp} (listed : x ∈ a.extraDataPoints) (unregistered : x.oid ∉ a.registered) : x.key ∉ heldKeys a := by
  intro held
  obtain ⟨old,before,registered,same⟩ := held_by held
  have key : x.key ∈ extraKeys a := List.mem_map_of_mem listed
  have own (there : old ∈ keptOffers a) : False := (apart.extras x.key key).1 (same ▸ List.mem_map_of_mem there)
  cases steady.announced old before with
  | kept slot offers found member => exact own (mem_kept_offers.mpr (.inl ⟨slot,offers,found,member⟩))
  | singleton single => exact own (mem_kept_offers.mpr (.inr single))
  | extra y other alike =>
    subst alike
    have equal : y = x := List.inj_on_of_nodup_map nodup other listed same
    exact unregistered (equal ▸ registered)
  | group uid g _ alike =>
    refine steady.extras x.key key ?_
    exact (congrArg Prod.fst same).symm.trans (congrArg Announced.category alike).symm
  | renewed slot found =>
    refine (apart.extras x.key key).2 ((mem_renewed_keys steady.settled.devices).mpr ⟨slot,?_⟩)
    rw [← same]
    exact found

theorem group_unheld (steady : Steady upstream a) (apart : IdsApart upstream a) {groups : Dict String ChannelEventGroup}
    (kept : Grows a.eventGroups.get? groups.get?) (keyed : GroupsKeyed groups) (found : groups.get? uid = some g)
    (unregistered : g.oid ∉ a.registered) : (.eventGroup,g.uniqueId) ∉ heldKeys a := by
  intro held
  obtain ⟨old,before,registered,same⟩ := held_by held
  have category : old.category = .eventGroup := congrArg Prod.fst same
  have own (there : old ∈ keptOffers a) : False := kept_plain steady.settled.toTied apart there category
  cases steady.announced old before with
  | kept slot offers there member => exact own (mem_kept_offers.mpr (.inl ⟨slot,offers,there,member⟩))
  | singleton single => exact own (mem_kept_offers.mpr (.inr single))
  | extra x listed alike =>
    subst alike
    exact steady.extras x.key (List.mem_map_of_mem listed) category
  | group uid' g' there alike =>
    subst alike
    have later := kept uid' g' there
    have uids : uid' = uid := by
      rw [← keyed uid' g' later,← keyed uid g found]
      exact congrArg Prod.snd same
    rw [uids,found] at later
    cases later
    exact unregistered registered
  | renewed slot there => exact renewed_plain upstream steady.settled.toTied there category

theorem renewed_drawn {c : Candidate} (member : c ∈ renewedCandidates upstream a.store) :
    c ∈ standing a ∨ ∃ u ∈ updateDataPoints upstream a.store, ⟨u,none⟩ = c := by
  rcases List.mem_append.mp member with calculated | update
  · refine .inl ?_
    obtain ⟨⟨k,dp⟩,stored,rfl⟩ := List.mem_map.mp calculated
    have value : dp ∈ a.store.dataPoints.values := List.mem_map_of_mem (List.mem_filter.mp stored).1
    unfold standing candidates
    simp only [List.mem_append]
    exact .inl (.inl (.inl (.inl (.inl (.inl (List.mem_map.mpr ⟨dp,value,rfl⟩))))))
  · obtain ⟨u,listed,rfl⟩ := List.mem_map.mp update
    exact .inr ⟨u,listed,rfl⟩

theorem emission_fresh_iff (steady : Steady upstream a) (apart : IdsApart upstream a) (nodup : (extraKeys a).Nodup) :
    (∀ e ∈ newlyAnnounced a (emitDataPointsCreated upstream a), e.key ∉ heldKeys a) ↔
      BuiltOnce upstream a .emitDataPointsCreated := by
  have emitted := emitted upstream a
  constructor
  · intro fresh c member allowed
    exact fresh c.toAnnounced (emitted.complete c allowed (renewed_drawn member))
  · intro once e member
    obtain ⟨c,rfl,allowed,drawn⟩ := emitted.batch e member
    have unregistered : c.oid ∉ a.registered := by
      simp only [announceable,Bool.and_eq_true,decide_eq_true_eq] at allowed
      exact allowed.1.2
    rcases drawn with stands | ⟨u,listed,rfl⟩ | ⟨uid,g,found,rfl⟩
    · rcases standing_sources upstream stands with own | renewed | ⟨x,listed,same⟩
      · exact kept_unheld steady apart own unregistered
      · exact once c renewed allowed
      · rw [← same] at unregistered ⊢
        exact extra_unheld steady apart nodup listed unregistered
    · exact once ⟨u,none⟩ (List.mem_append_right _ (List.mem_map_of_mem listed)) allowed
    · exact group_unheld steady apart emitted.kept (emitted.keyed steady.groups) found unregistered

theorem emission_steady (steady : Steady upstream a) : Steady upstream (emitDataPointsCreated upstream a) := by
  have emitted := emitted upstream a
  have frame := extras_of_minted emitted.store
  have profiles := unchanged emitted.store LoomStore.weekProfileDps fun _ => rfl
  have later {old : Announced} (known : Remembered upstream a old) : Remembered upstream (emitDataPointsCreated upstream a) old :=
    remembered_later (grows_of_same (extras_offers frame)) (grows_of_same (extras_renewed frame)) emitted.singletons
      (fun x listed => emitted.extras ▸ listed) emitted.kept known
  refine ⟨extras_settled frame steady.settled,emitted.keyed steady.groups,?_,?_,?_⟩
  · unfold extraKeys
    rw [emitted.extras]
    exact steady.extras
  · intro address climate dp found
    unfold profileAt at found
    rw [profiles] at found
    exact Nat.lt_of_lt_of_le (steady.profiles address climate dp found) ((Nat.le_add_right _ _).trans emitted.counter)
  · intro old member
    obtain ⟨batches,appended⟩ := emitted.before
    unfold announced at member
    rw [appended,List.flatten_append] at member
    rcases List.mem_append.mp member with before | new
    · exact later (steady.announced old before)
    · have fresh : old ∈ newlyAnnounced a (emitDataPointsCreated upstream a) := by
        unfold newlyAnnounced
        rw [appended,List.drop_left]
        exact new
      obtain ⟨c,rfl,_,drawn⟩ := emitted.batch old fresh
      have renewed (member : c ∈ renewedCandidates upstream a.store) : Remembered upstream a c.toAnnounced := by
        have key : c.toAnnounced.key ∈ renewedKeys upstream a.store := List.mem_map_of_mem (f := (·.toAnnounced.key)) member
        obtain ⟨slot,found⟩ := (mem_renewed_keys steady.settled.devices).mp key
        exact .renewed slot found
      rcases drawn with stands | ⟨u,listed,rfl⟩ | ⟨uid,g,found,rfl⟩
      · rcases standing_sources upstream stands with own | anew | ⟨x,listed,same⟩
        · rcases mem_kept_offers.mp own with ⟨slot,offers,found,listed⟩ | single
          · exact later (.kept slot offers found listed)
          · exact later (.singleton single)
        · exact later (renewed anew)
        · exact later (.extra x listed same)
      · exact later (renewed (List.mem_append_right _ (List.mem_map_of_mem listed)))
      · exact .group uid g found rfl

theorem quiet_steady (steady : Steady upstream a) (store : b.store = a.store) (groups : b.eventGroups = a.eventGroups)
    (extras : b.extraDataPoints = a.extraDataPoints) (singletons : b.hubSingletons = a.hubSingletons)
    (announcements : b.announcements = a.announcements) : Steady upstream b where
  settled := store ▸ steady.settled
  groups := groups ▸ steady.groups
  extras := by
    unfold extraKeys
    rw [extras]
    exact steady.extras
  profiles := store ▸ steady.profiles
  announced := by
    intro old member
    unfold announced at member
    rw [announcements] at member
    exact remembered_later (grows_of_same (by rw [store])) (grows_of_same (by rw [store])) singletons
      (fun x listed => extras ▸ listed) (grows_of_same (by rw [groups]))
      (steady.announced old member)

theorem store_steady (steady : Steady upstream a) (op : Operation V) (same : SamePopulation a.store op) :
    Steady upstream (applyEffect upstream a (.store op)) where
  settled := operation_settled steady.settled op same
  groups := steady.groups
  extras := steady.extras
  profiles := by
    intro address climate dp found
    have kept : profileAt (apply a.store op) address climate = profileAt a.store address climate :=
      congrArg (fun profiles => (Dict.getD profiles address .empty).get? climate) (operation_profiles op same)
    exact Nat.lt_of_lt_of_le (steady.profiles address climate dp (kept.symm.trans found)) (operation_counter a.store op)
  announced := by
    intro old member
    exact remembered_later (b := applyEffect upstream a (.store op))
      (operation_offers_kept steady.settled op same) (operation_renewed_kept op same) rfl (fun _ listed => listed)
      (grows_refl _) (steady.announced old member)

theorem spawn_steady (steady : Steady upstream a) (address : Address) (channelNo : Int) (profile : WeekProfileResponse)
    (entries : Option Nat) (withSwitches : Bool) :
    Steady upstream (spawnWeekProfile upstream a address channelNo profile entries withSwitches) := by
  have minted := spawn_counter upstream a address channelNo profile entries withSwitches
  refine appends_steady steady (spawn_appends upstream a address channelNo profile entries withSwitches)
    (spawn_keys_plain _ _ _ _) ?_
  intro other climate dp found
  rw [spawned_profile] at found
  split at found
  · cases found
    exact minted
  · exact (steady.profiles other climate dp found).trans minted

theorem combined_steady (steady : Steady upstream a) : Steady upstream (bootstrapCombinedDataPoints upstream a) := by
  have appended := combined_appends upstream a
  refine appends_steady steady appended (combined_keys_plain a.store) ?_
  intro address climate dp found
  have profiles := unchanged (combined_minted upstream a) LoomStore.weekProfileDps fun _ => rfl
  unfold profileAt at found
  rw [profiles] at found
  exact Nat.lt_of_lt_of_le (steady.profiles address climate dp found) ((Nat.le_add_right _ _).trans appended.counter)

theorem effect_steady (steady : Steady upstream a) (effect : Effect V) (same : Unchanged upstream a effect) :
    Steady upstream (applyEffect upstream a effect) := by
  cases effect with
  | store op => exact store_steady steady op same
  | spawnWeekProfile address channelNo profile entries withSwitches =>
    exact spawn_steady steady address channelNo profile entries withSwitches
  | bootstrapCombinedDataPoints => exact combined_steady steady
  | emitDataPointsCreated => exact emission_steady steady
  | suppressLabel => exact quiet_steady steady rfl rfl rfl rfl rfl
  | publishDataPointsCreated => exact quiet_steady steady rfl rfl rfl rfl rfl
  | register => exact quiet_steady steady rfl rfl rfl rfl rfl
  | unregister => exact quiet_steady steady rfl rfl rfl rfl rfl

theorem quiet_once (nodup : (extraKeys b).Nodup) (announcements : b.announcements = a.announcements)
    (profiles : ∀ address climate, profileAt b.store address climate = profileAt a.store address climate) :
    AnnouncedOnce a b := by
  refine ⟨nodup,?_,?_⟩
  · rw [announced_same announcements]
    exact nofun
  · intro address climate dp found _
    exact (profiles address climate).trans found

theorem spawn_once_iff (steady : Steady upstream a) (address : Address) (channelNo : Int) (profile : WeekProfileResponse)
    (entries : Option Nat) (withSwitches : Bool) :
    AnnouncedOnce a (spawnWeekProfile upstream a address channelNo profile entries withSwitches) ↔
      BuiltOnce upstream a (.spawnWeekProfile address channelNo profile entries withSwitches) := by
  have appended := spawn_appends upstream a address channelNo profile entries withSwitches
  constructor
  · intro once
    refine ⟨appended.extras ▸ once.extras,fun dp found shown => ?_⟩
    have kept := once.profiles address (isClimate profile) dp found shown
    rw [spawned_profile,if_pos ⟨rfl,rfl⟩] at kept
    cases kept
    exact Nat.lt_irrefl _ (steady.profiles address (isClimate profile) _ found)
  · intro ⟨nodup,vacant⟩
    refine ⟨appended.extras ▸ nodup,?_,?_⟩
    · rw [announced_same appended.announcements]
      exact nofun
    · intro other climate dp found shown
      rw [spawned_profile]
      split
      · rename_i here
        obtain ⟨rfl,rfl⟩ := here
        exact (vacant dp found shown).elim
      · exact found

theorem effect_once_iff (steady : Steady upstream a) (nodup : (extraKeys a).Nodup) (effect : Effect V)
    (same : Unchanged upstream a effect) : AnnouncedOnce a (applyEffect upstream a effect) ↔ BuiltOnce upstream a effect := by
  cases effect with
  | store op =>
    refine iff_of_true (quiet_once nodup rfl fun address climate => ?_) trivial
    exact congrArg (fun profiles => (Dict.getD profiles address .empty).get? climate) (operation_profiles op same)
  | spawnWeekProfile address channelNo profile entries withSwitches =>
    exact spawn_once_iff steady address channelNo profile entries withSwitches
  | bootstrapCombinedDataPoints =>
    have appended := combined_appends upstream a
    have keys : (extraKeys (bootstrapCombinedDataPoints upstream a)).Nodup ↔ (extraKeys a ++ combinedKeys upstream a.store).Nodup := by
      rw [appended.extras]
    refine ⟨fun once => keys.mp once.extras,fun apart => ?_⟩
    refine quiet_once (keys.mpr apart) appended.announcements fun address climate => ?_
    exact unchanged (combined_minted upstream a) (profileAt · address climate) fun _ => rfl
  | emitDataPointsCreated =>
    have emitted := emitted upstream a
    rw [← emission_fresh_iff steady same nodup]
    refine ⟨AnnouncedOnce.fresh,fun fresh => ⟨?_,fresh,?_⟩⟩
    · unfold extraKeys at nodup ⊢
      exact emitted.extras ▸ nodup
    · intro address climate dp found _
      exact (unchanged emitted.store (profileAt · address climate) fun _ => rfl).trans found
  | suppressLabel => exact iff_of_true (quiet_once nodup rfl fun _ _ => rfl) trivial
  | publishDataPointsCreated => exact iff_of_true (quiet_once nodup rfl fun _ _ => rfl) trivial
  | register => exact iff_of_true (quiet_once nodup rfl fun _ _ => rfl) trivial
  | unregister => exact iff_of_true (quiet_once nodup rfl fun _ _ => rfl) trivial

end Effects

-- The client before its start, with the hub's singletons built.
def seated (maxDevices : Nat) (centralName serialSuffix : String) (singletons : List Announced) : Session V :=
  {Session.initial maxDevices centralName serialSuffix with
    adapter := {Adapter.initial maxDevices centralName serialSuffix with hubSingletons := singletons}}

theorem seated_steady (maxDevices : Nat) (centralName serialSuffix : String) (singletons : List Announced) :
    Steady upstream (seated maxDevices centralName serialSuffix singletons : Session V).adapter := by
  refine ⟨⟨initial_tied maxDevices centralName serialSuffix,?_,?_⟩,?_,?_,?_,?_⟩
  · intro _ _ found
    cases found
  · intro _ _ found
    cases found
  · intro _ _ found
    cases found
  · intro _ member
    cases member
  · intro _ _ _ found
    cases found
  · intro _ member
    cases member

theorem announced_once_iff (maxDevices : Nat) (centralName serialSuffix : String) (singletons : List Announced)
    (actions : List (Action V))
    (population : Every (adapterStep upstream) (fun a effect _ => Unchanged upstream a effect)
      (seated maxDevices centralName serialSuffix singletons).adapter
      (effects upstream (seated maxDevices centralName serialSuffix singletons) actions)) :
    Every (adapterStep upstream) (fun a _ b => AnnouncedOnce a b)
        (seated maxDevices centralName serialSuffix singletons).adapter
        (effects upstream (seated maxDevices centralName serialSuffix singletons) actions) ↔
      Every (adapterStep upstream) (fun a effect _ => BuiltOnce upstream a effect)
        (seated maxDevices centralName serialSuffix singletons).adapter
        (effects upstream (seated maxDevices centralName serialSuffix singletons) actions) := by
  refine every_congr_along (fun a => Steady upstream a ∧ (extraKeys a).Nodup)
    ⟨seated_steady upstream maxDevices centralName serialSuffix singletons,List.nodup_nil⟩ ?_ ?_ population
  · intro a effect b ⟨steady,nodup⟩ step same once
    cases step
    exact ⟨effect_steady steady effect same,((effect_once_iff steady nodup effect same).mpr once).extras⟩
  · intro a effect b ⟨steady,nodup⟩ step same
    cases step
    exact effect_once_iff steady nodup effect same

-- The first walk announces seven objects; three are registered, and the re-bootstrap offers the
-- other four again.
def plainDevice (address : Address) : DaemonDevice Nat :=
  {bareDevice address none with customDataPoints := [⟨"COVER","cover",1,none,none,address ++ "-cover",none⟩]}

def plainDaemon : Daemon Nat := {Daemon.bare [plainDevice "A",plainDevice "B"] with
  programs := [⟨none,"7","away",some true,none,none,none,none,"p7"⟩]
  sysvars := [⟨none,"rain","NUMBER",some 1,true,none,none,none,none,none,"s-rain"⟩]}

def plainRun : List (Action Nat) :=
  let walk := List.replicate 9 (.resume 0 plainDaemon.answers)
  .begin .start :: walk ++ [.register 7,.register 10,.register 4] ++ .begin (.rebootstrap true) :: walk

theorem plain_devices_announced_once :
    (run (sessionStep bareUpstream) (seated 8 "" "" []) plainRun).map
        (fun y => (y.tasks.length,y.adapter.announcements.map (·.map Announced.oid))) =
      some (0,[[7,9,10,11,5,3,4],[9,11,5,3]]) ∧
      Every (adapterStep bareUpstream) (fun a _ b => AnnouncedOnce a b) (seated 8 "" "" []).adapter
        (effects bareUpstream (seated 8 "" "" []) plainRun) :=
  ⟨by decide +kernel,(announced_once_iff bareUpstream 8 "" "" [] plainRun (by decide +kernel)).mpr (by decide +kernel)⟩

def heatedDevice : DaemonDevice Nat :=
  {bareDevice "A" none with
    customDataPoints := [⟨"HEAT","climate",1,none,none,"A-heat",none⟩]
    weekProfiles := .ofList [(1,⟨"A-week","climate",none,none⟩,0)]}

-- The week profile is registered, and a re-bootstrap announces it once more.
theorem rebootstrap_announces_again :
    let daemon : Daemon Nat := .bare [heatedDevice]
    let walk : List (Action Nat) := List.replicate 9 (.resume 0 daemon.answers)
    let run := effects bareUpstream (seated 8 "" "" []) (.begin .start :: walk ++ .register 4 :: .begin (.rebootstrap true) :: walk)
    Every (adapterStep bareUpstream) (fun a effect _ => Unchanged bareUpstream a effect) (seated 8 "" "" []).adapter run ∧
      ¬Every (adapterStep bareUpstream) (fun a _ b => AnnouncedOnce a b) (seated 8 "" "" []).adapter run := by
  refine ⟨by decide +kernel,fun once => ?_⟩
  have extras : Every (adapterStep bareUpstream) (fun _ _ b => (extraKeys b).Nodup) _ _ :=
    every_of_every (fun _ => True) trivial (fun _ _ _ _ _ _ => trivial) (fun _ _ _ _ _ once => once.extras) once
  revert extras
  decide +kernel

end LoomClient.Client
