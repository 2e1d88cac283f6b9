import LoomClient.Compat.Announcement
import LoomClient.Store.InPlace
import LoomClient.Store.Records
import LoomClient.Store.Ties

namespace LoomClient.Compat
open Lib Wire Store
variable {V : Type} (upstream : Upstream)

def pointOffer (dp : Model.DataPoint V) : Announced := ⟨dp.oid,dp.category,dp.summary.uniqueId⟩
def customOffer (cdp : Model.CustomDataPoint V) : Announced := ⟨cdp.oid,cdp.category,cdp.summary.uniqueId⟩
def sysvarOffer (v : Model.Sysvar V) : Announced := ⟨v.oid,v.category,v.summary.uniqueId⟩
def twinOffers (twins : List Model.Program) : List Announced :=
  twins.filterMap fun twin => twin.category.map fun category => ⟨twin.oid,category,twin.summary.uniqueId⟩
def panelOffer (p : Model.AlarmPanel) : Announced := ⟨p.oid,.alarmControlPanel,p.summary.uniqueId⟩

def updateKey (serialSuffix : String) (address : Address) : DataPointCategory × String :=
  (.update,upstream.canonicalUniqueId serialSuffix address (some "Update") none)

-- The store builds a calculated data point anew on every walk, and the firmware object of a device on
-- every announcement.
inductive KeptSlot where
  | dataPoint (key : DataPointKey)
  | customDataPoint (key : CustomKey)
  | sysvar (name : String)
  | program (id : String)
  | alarmPanel (uniqueId : String)

inductive RenewedSlot where
  | calculated (key : DataPointKey)
  | update (address : Address)

def offersAt (s : LoomStore V) : KeptSlot → Option (List Announced)
  | .dataPoint key => if key ∈ s.calculatedDpKeys then none else (s.dataPoints.get? key).map fun dp => [pointOffer dp]
  | .customDataPoint key => (s.cdps.get? key).map fun cdp => [customOffer cdp]
  | .sysvar name => (s.sysvars.get? name).map fun v => [sysvarOffer v]
  | .program id => (s.programDps.get? id).map twinOffers
  | .alarmPanel uniqueId => (s.alarmPanels.get? uniqueId).map fun p => [panelOffer p]

def renewedAt (s : LoomStore V) : RenewedSlot → Option (DataPointCategory × String)
  | .calculated key => if key ∈ s.calculatedDpKeys then (s.dataPoints.get? key).map fun dp => (pointOffer dp).key else none
  | .update address => ((s.devices.get? address).filter (·.summary.updatable)).map fun _ =>
    updateKey upstream s.serialSuffix address

-- What the store does not hold yet may come.
def SameDevice (s : LoomStore V) (summary : DeviceSummary) : Prop :=
  ∀ old ∈ s.devices.get? summary.address, old.summary.updatable = summary.updatable
def SameProgram (s : LoomStore V) (summary : ProgramSummary) : Prop :=
  ∀ twins ∈ s.programDps.get? summary.id, ∀ twin ∈ twins, twin.summary.uniqueId = summary.uniqueId
def SameSysvar (s : LoomStore V) (summary : SysvarSummary V) : Prop :=
  ∀ old ∈ s.sysvars.get? summary.name, old.summary.uniqueId = summary.uniqueId

def SamePopulation (s : LoomStore V) : Operation V → Prop
  | .setDaemonCentralCount _ => True
  | .setCentralId _ => True
  | .loadSnapshot snapshot => (∀ d ∈ snapshot.devices, SameDevice s d) ∧
    (∀ p ∈ snapshot.programs.getD [], SameProgram s p) ∧ ∀ v ∈ snapshot.sysvars.getD [], SameSysvar s v
  | .attachDeviceDetail detail => SameDevice s detail.toDeviceSummary ∧
    ∀ k ∈ s.channels.keys, k.1 = detail.address → k.2 ∈ detail.channels.map (·.number)
  | .attachChannelDataPoints address channel dataPoints =>
    (∀ k ∈ s.dataPoints.keys, channelOf k = (address,channel) → k ∉ s.calculatedDpKeys →
      k.2.2 ∈ dataPoints.map (·.parameter)) ∧
    ∀ dp ∈ dataPoints, ∀ old ∈ s.dataPoints.get? (address,channel,dp.parameter), old.summary.uniqueId = dp.uniqueId
  | .attachChannelCalculatedDataPoints address channel calculated => ∀ c ∈ calculated,
    ∀ old ∈ s.dataPoints.get? (address,channel,c.name), (address,channel,c.name) ∈ s.calculatedDpKeys ∧
      (pointOffer old).key = (pointOffer (Model.makeCalculatedDataPoint 0 c address channel)).key
  | .attachCustomDataPoints address cdps =>
    (∀ k ∈ s.cdps.keys, k.1 = address → k.2 ∈ cdps.map (·.name)) ∧
    ∀ c ∈ cdps, ∀ old ∈ s.cdps.get? (address,c.name),
      old.summary.uniqueId = c.uniqueId ∧ old.summary.category = c.category
  | .attachHubCatalogue sysvars programs => (∀ v ∈ sysvars, SameSysvar s v) ∧ ∀ p ∈ programs, SameProgram s p
  | .attachAlarmPanels panels => ∀ uid ∈ s.alarmPanels.keys, uid ∈ panels.map (·.uniqueId)
  | .push (.deviceRemoved _) => False
  | .push (.alarmPanelChanged payload) => payload.removed = true → payload.uniqueId ∉ s.alarmPanels
  | .push _ => True
  | .settleDataPoint key summary => ∀ old ∈ s.dataPoints.get? key, old.summary.uniqueId = summary.uniqueId
  | .settleCalculatedDataPoint _ _ => True
  | .settleCustomDataPoint _ _ _ => True
  | .upsertProgram summary => SameProgram s summary
  | .upsertSysvar summary => SameSysvar s summary
  -- Only the adapter writes a week profile, when it spawns one.
  | .setWeekProfileDataPoint _ _ _ => False

instance (s : LoomStore V) (operation : Operation V) : Decidable (SamePopulation s operation) := by
  induction operation using Operation.casesOn with
  | push push => induction push using Push.casesOn <;> unfold SamePopulation <;> infer_instance
  | _ => unfold SamePopulation SameDevice SameProgram SameSysvar; infer_instance

-- A device stands under the address of its record.
def DevicesKeyed (s : LoomStore V) : Prop := s.devices.Holds fun a d => d.summary.address = a

structure Settled (s : LoomStore V) : Prop extends Tied s where
  devices : DevicesKeyed s
  programs : ProgramsKeyed s

section Hub
variable {s : LoomStore V} {slot : KeptSlot} {offers : List Announced}

theorem upsert_sysvar_offers (summary : SysvarSummary V) (found : offersAt s slot = some offers)
    (same : slot = .sysvar summary.name → ∀ d ∈ offers, d.uniqueId = summary.uniqueId) :
    offersAt (upsertSysvar s summary) slot = some offers := by
  cases slot with
  | sysvar name =>
    unfold upsertSysvar
    split
    · by_cases here : name = summary.name
      · obtain ⟨v,stored,rfl⟩ := Option.map_eq_some_iff.mp found
        have id : v.summary.uniqueId = summary.uniqueId := same (congrArg KeptSlot.sysvar here) _ (.head _)
        simp only [offersAt,Dict.get?_modify,here,if_true]
        rw [← here,stored]
        simp only [Option.map_some,sysvarOffer,Model.Sysvar.replaceSummary,id]
      · simpa only [offersAt,Dict.get?_modify,here,if_false] using found
    · rename_i fresh
      exact Dict.read_set_absent fresh found
  | _ =>
    unfold upsertSysvar
    split <;> exact found

theorem upsert_program_offers (tied : Tied s) (summary : ProgramSummary) (found : offersAt s slot = some offers)
    (same : slot = .program summary.id → ∀ d ∈ offers, d.uniqueId = summary.uniqueId) :
    offersAt (upsertProgram s summary) slot = some offers := by
  cases slot with
  | program id =>
    obtain ⟨twins,stored,rfl⟩ := Option.map_eq_some_iff.mp found
    obtain ⟨p,known,_⟩ := tied.twins id twins stored
    unfold upsertProgram
    split
    · by_cases here : id = summary.id
      · have ids := same (congrArg KeptSlot.program here)
        simp only [offersAt,Dict.get?_modify,here,if_true]
        rw [← here,stored]
        refine congrArg some ?_
        unfold twinOffers at ids ⊢
        rw [List.filterMap_map]
        refine List.filterMap_congr fun twin member => ?_
        cases category : twin.category with
        | none => simp [Model.Program.replaceSummary,category]
        | some c =>
          have id : twin.summary.uniqueId = summary.uniqueId :=
            ids ⟨twin.oid,c,twin.summary.uniqueId⟩ (List.mem_filterMap.mpr ⟨twin,member,by rw [category]; rfl⟩)
          simp [Model.Program.replaceSummary,category,id]
      · simpa only [offersAt,Dict.get?_modify,here,if_false] using found
    · rename_i fresh
      have other : id ≠ summary.id := fun here => fresh (here ▸ Dict.mem_of_get? known)
      split
      · simpa only [offersAt,Dict.get?_set,if_neg other] using found
      · exact found
  | _ =>
    unfold upsertProgram
    split
    · exact found
    · split <;> exact found

theorem program_offers_same (same : SameProgram s summary) (found : offersAt s (.program summary.id) = some offers) :
    ∀ d ∈ offers, d.uniqueId = summary.uniqueId := by
  obtain ⟨twins,stored,rfl⟩ := Option.map_eq_some_iff.mp found
  intro d member
  obtain ⟨twin,listed,shown⟩ := List.mem_filterMap.mp member
  obtain ⟨category,_,rfl⟩ := Option.map_eq_some_iff.mp shown
  exact same twins stored twin listed

theorem sysvar_offers_same {summary : SysvarSummary V} (same : SameSysvar s summary)
    (found : offersAt s (.sysvar summary.name) = some offers) : ∀ d ∈ offers, d.uniqueId = summary.uniqueId := by
  obtain ⟨v,stored,rfl⟩ := Option.map_eq_some_iff.mp found
  intro d member
  obtain rfl := List.mem_singleton.mp member
  exact same v stored

theorem upsert_sysvars_offers (sysvars : List (SysvarSummary V)) (found : offersAt s slot = some offers)
    (same : ∀ v ∈ sysvars, slot = .sysvar v.name → ∀ d ∈ offers, d.uniqueId = v.uniqueId) :
    offersAt (sysvars.foldl upsertSysvar s) slot = some offers :=
  List.foldlRecOn (motive := fun t => offersAt t slot = some offers) sysvars _ found
    fun _ kept v listed => upsert_sysvar_offers v kept (same v listed)

theorem upsert_programs_offers (tied : Tied s) (programs : List ProgramSummary) (found : offersAt s slot = some offers)
    (same : ∀ p ∈ programs, slot = .program p.id → ∀ d ∈ offers, d.uniqueId = p.uniqueId) :
    offersAt (programs.foldl upsertProgram s) slot = some offers := by
  refine (List.foldlRecOn (motive := fun t => Tied t ∧ offersAt t slot = some offers) programs _ ⟨tied,found⟩ ?_).2
  intro t kept p listed
  exact ⟨upsert_program_tied p kept.1,upsert_program_offers kept.1 p kept.2 (same p listed)⟩

theorem hub_offers_kept (tied : Tied s) {sysvars : List (SysvarSummary V)} {programs : List ProgramSummary}
    (first : ∀ v ∈ sysvars, SameSysvar s v) (second : ∀ p ∈ programs, SameProgram s p) :
    Grows (offersAt s) (offersAt (attachHubCatalogue s sysvars programs)) := by
  intro slot offers found
  refine upsert_programs_offers (upsert_sysvars_tied sysvars tied) programs ?_ ?_
  · refine upsert_sysvars_offers sysvars found fun v listed here => ?_
    rw [here] at found
    exact sysvar_offers_same (first v listed) found
  · intro p listed here
    rw [here] at found
    exact program_offers_same (second p listed) found

end Hub

theorem offers_frame {beside : LoomStore V → LoomStore V} {s t : LoomStore V} (frame : beside t = beside s)
    (blind : ∀ u slot, offersAt (beside u) slot = offersAt u slot) : offersAt t = offersAt s :=
  unchanged frame offersAt fun u => funext (blind u)

theorem snapshot_offers_kept {s : LoomStore V} (tied : Tied s) {snapshot : Snapshot V}
    (first : ∀ p ∈ snapshot.programs.getD [], SameProgram s p) (second : ∀ v ∈ snapshot.sysvars.getD [], SameSysvar s v) :
    Grows (offersAt s) (offersAt (loadSnapshot s snapshot)) := by
  let admitted := snapshot.devices.foldl admitDevice (adoptCentralId s snapshot)
  have adopted : besideSnapshot (adoptCentralId s snapshot) = besideSnapshot s := by
    unfold adoptCentralId
    split <;> rfl
  have devices := foldl_frame admitDevice besideDevices admit_beside (adoptCentralId s snapshot) snapshot.devices
  have same : offersAt admitted = offersAt s := by
    refine (offers_frame devices fun u slot => ?_).trans ?_
    · cases slot <;> rfl
    · unfold adoptCentralId
      split <;> rfl
  have holds : Tied admitted := by
    have adopted : Tied (adoptCentralId s snapshot) := by
      unfold adoptCentralId
      split
      · exact tied_same tied rfl rfl rfl rfl rfl
      · exact tied
    exact tied_frame adopted (unchanged devices besideUntied fun _ => rfl)
  intro slot offers found
  have there : offersAt admitted slot = some offers := (congrFun same slot).trans found
  refine upsert_sysvars_offers _ (upsert_programs_offers holds _ there fun p listed here => ?_) fun v listed here => ?_
  · rw [here] at found
    exact program_offers_same (first p listed) found
  · rw [here] at found
    exact sysvar_offers_same (second v listed) found

section Points
variable {s : LoomStore V} {slot : KeptSlot} {offers : List Announced} (address : Address) (channel : Int)

theorem attach_data_point_offers (summary : DataPointSummary V) (found : offersAt s slot = some offers)
    (same : slot = .dataPoint (address,channel,summary.parameter) → ∀ d ∈ offers, d.uniqueId = summary.uniqueId) :
    offersAt (attachDataPoint address channel s summary) slot = some offers := by
  cases slot with
  | dataPoint k =>
    unfold attachDataPoint
    dsimp only
    simp only [offersAt] at found
    split at found
    · cases found
    · rename_i plain
      split
      · simp only [offersAt,plain,if_false,Dict.get?_modify]
        by_cases here : k = (address,channel,summary.parameter)
        · obtain ⟨dp,stored,rfl⟩ := Option.map_eq_some_iff.mp found
          have id : dp.summary.uniqueId = summary.uniqueId := same (congrArg KeptSlot.dataPoint here) _ (.head _)
          simp only [if_pos here,stored,Option.map_some,pointOffer,Model.DataPoint.replaceSummary,id]
        · rw [if_neg here]
          exact found
      · rename_i fresh
        simp only [offersAt,plain,if_false]
        exact Dict.read_set_absent fresh found
  | _ =>
    unfold attachDataPoint
    dsimp only
    split <;> exact found

theorem data_points_offers_kept {dataPoints : List (DataPointSummary V)}
    (listed : ∀ k ∈ s.dataPoints.keys, channelOf k = (address,channel) → k ∉ s.calculatedDpKeys →
      k.2.2 ∈ dataPoints.map (·.parameter))
    (same : ∀ dp ∈ dataPoints, ∀ old ∈ s.dataPoints.get? (address,channel,dp.parameter), old.summary.uniqueId = dp.uniqueId) :
    Grows (offersAt s) (offersAt (attachChannelDataPoints s address channel dataPoints)) := by
  intro slot offers found
  refine List.foldlRecOn (motive := fun t => offersAt t slot = some offers) dataPoints _ ?_ fun t kept dp member => ?_
  · cases slot with
    | dataPoint k =>
      simp only [offersAt] at found ⊢
      split at found
      · cases found
      · rename_i plain
        obtain ⟨dp,stored,rfl⟩ := Option.map_eq_some_iff.mp found
        have fresh : staleDataPoint s address channel dataPoints k = false := by
          by_cases here : channelOf k = (address,channel)
          · have carried := listed k (Dict.mem_of_get? stored) here plain
            simp only [staleDataPoint,carried,not_true,decide_false,Bool.and_false,Bool.false_and]
          · simp only [staleDataPoint,here,decide_false,Bool.false_and]
        simp only [if_neg plain,Dict.get?_eraseWhere,fresh,Bool.false_eq_true,if_false,stored,Option.map_some]
    | _ => exact found
  · refine attach_data_point_offers address channel dp kept fun here => ?_
    rw [here] at found
    simp only [offersAt] at found
    split at found
    · cases found
    · obtain ⟨old,stored,rfl⟩ := Option.map_eq_some_iff.mp found
      intro d only
      obtain rfl := List.mem_singleton.mp only
      exact same dp member old stored

theorem calculated_offers_kept {calculated : List (CalculatedDPSummary V)}
    (apart : ∀ c ∈ calculated, ∀ old ∈ s.dataPoints.get? (address,channel,c.name),
      (address,channel,c.name) ∈ s.calculatedDpKeys) :
    Grows (offersAt s) (offersAt (attachChannelCalculatedDataPoints s address channel calculated)) := by
  intro slot offers found
  unfold attachChannelCalculatedDataPoints
  split
  · refine List.foldlRecOn (motive := fun t => offersAt t slot = some offers) calculated _ found fun t kept c member => ?_
    cases slot with
    | dataPoint k =>
      have other : k ≠ (address,channel,c.name) := by
        intro here
        simp only [offersAt] at found
        split at found
        · cases found
        · rename_i plain
          obtain ⟨dp,stored,_⟩ := Option.map_eq_some_iff.mp found
          exact plain (here ▸ apart c member dp (here ▸ stored))
      simpa only [offersAt,attachCalculatedDataPoint,Finset.mem_insert,other,false_or,Dict.get?_set,if_false] using kept
    | _ => exact kept
  · exact found

def besideDetail (s : LoomStore V) : LoomStore V := {s with devices := .empty, channels := .empty, nextOid := 0}

theorem detail_frame {detail : DeviceDetail}
    (listed : ∀ k ∈ s.channels.keys, k.1 = detail.address → k.2 ∈ detail.channels.map (·.number)) :
    besideDetail (attachDeviceDetail s detail) = besideDetail s := by
  cases allowed : canAdmitDevice s detail.address with
  | false => rw [detail_refused allowed]
  | true =>
    obtain ⟨t,frame,_,same⟩ := detail_parts allowed
    have none_stale : staleChannels (detail.channels.foldl upsertChannel t) detail = [] := by
      refine List.eq_nil_iff_forall_not_mem.mpr fun k stale => ?_
      obtain ⟨stored,own,gone⟩ := stale_channels_mem.mp stale
      rcases (upsert_channels_mem t detail.channels k).mp stored with ⟨c,member,rfl⟩ | before
      · exact gone (List.mem_map_of_mem member)
      · exact gone (listed k (unchanged frame LoomStore.channels (fun _ => rfl) ▸ before) own)
    rw [same,none_stale,List.foldl_nil,unchanged (upsert_channels_beside t detail.channels) besideDetail fun _ => rfl]
    exact unchanged frame besideDetail fun _ => rfl

end Points

section Customs
variable {s : LoomStore V} {slot : KeptSlot} {offers : List Announced} (address : Address)

theorem reseed_oid_cls (summary : CustomDPSummary V) (cdp : Model.CustomDataPoint V) :
    (reseed summary cdp).oid = cdp.oid ∧ (reseed summary cdp).cls = cdp.cls := by
  unfold reseed
  split <;> exact ⟨rfl,rfl⟩

theorem reseed_offer {summary : CustomDPSummary V} {cdp : Model.CustomDataPoint V}
    (id : cdp.summary.uniqueId = summary.uniqueId) (category : cdp.summary.category = summary.category) :
    customOffer (reseed summary cdp) = customOffer cdp := by
  obtain ⟨oid,cls⟩ := reseed_oid_cls summary cdp
  simp only [customOffer,Model.CustomDataPoint.category,reseed_summary,oid,cls,id,category]

theorem customs_offers_kept {cdps : List (CustomDPSummary V)}
    (listed : ∀ k ∈ s.cdps.keys, k.1 = address → k.2 ∈ cdps.map (·.name))
    (same : ∀ c ∈ cdps, ∀ old ∈ s.cdps.get? (address,c.name),
      old.summary.uniqueId = c.uniqueId ∧ old.summary.category = c.category) :
    Grows (offersAt s) (offersAt (attachCustomDataPoints s address cdps)) := by
  intro slot offers found
  cases slot with
  | customDataPoint k =>
    obtain ⟨old,stored,rfl⟩ := Option.map_eq_some_iff.mp found
    have kept : k ∉ staleCdps s address cdps := by
      intro stale
      obtain ⟨own,gone⟩ := of_decide_eq_true (List.mem_filter.mp stale).2
      exact gone (listed k (Dict.mem_of_get? stored) own)
    -- The object stays the one it was and takes the records of its own name.
    let holds (t : LoomStore V) : Prop := ∃ cdp, t.cdps.get? k = some cdp ∧ customOffer cdp = customOffer old ∧
      cdp.summary.uniqueId = old.summary.uniqueId ∧ cdp.summary.category = old.summary.category
    have first : holds ((staleCdps s address cdps).foldl dropCdp s) :=
      ⟨old,(drop_cdps_kept s _ k kept).trans stored,rfl,rfl,rfl⟩
    have final : holds (attachCustomDataPoints s address cdps) := by
      refine List.foldlRecOn (motive := holds) cdps _ first fun t known c member => ?_
      obtain ⟨cdp,there,offer,id,category⟩ := known
      by_cases here : k = (address,c.name)
      · obtain ⟨sameId,sameCategory⟩ := same c member old (here ▸ stored)
        refine ⟨reseed c cdp,?_,?_,?_,?_⟩
        · rw [custom_stored,if_pos (here ▸ Dict.mem_of_get? there),Dict.get?_modify,if_pos here,there]
          rfl
        · rw [reseed_offer (id.trans sameId) (category.trans sameCategory),offer]
        · rw [reseed_summary,sameId]
        · rw [reseed_summary,sameCategory]
      · refine ⟨cdp,?_,offer,id,category⟩
        rw [custom_stored]
        split
        · rw [Dict.get?_modify,if_neg here,there]
        · rw [Dict.get?_set,if_neg here,there]
    obtain ⟨cdp,there,offer,_⟩ := final
    simp only [offersAt,there,Option.map_some,offer]
  | _ => exact (unchanged (attach_customs_beside s address cdps) (offersAt · _) fun _ => rfl).trans found

end Customs

section Panels
variable {s : LoomStore V} {slot : KeptSlot} {offers : List Announced}

theorem attach_panel_offers (tied : Tied s) (entity : AlarmPanelEntity) (found : offersAt s slot = some offers) :
    offersAt (attachAlarmPanel s entity) slot = some offers := by
  cases slot with
  | alarmPanel uid =>
    unfold attachAlarmPanel
    split
    · rename_i missing
      exact Dict.read_set_absent (Dict.get?_eq_none.mp missing) found
    · unfold mutateAlarmPanel
      split
      · exact found
      · refine (Dict.read_modify (fun p stored => ?_) uid).trans found
        have id : p.summary.uniqueId = entity.uniqueId := tied.panels entity.uniqueId p stored
        simp only [panelOffer,Model.AlarmPanel.replaceSummary,id]
  | _ => exact (unchanged (attach_panel_beside s entity) (offersAt · _) fun _ => rfl).trans found

theorem panels_offers_kept (tied : Tied s) {panels : List AlarmPanelEntity}
    (listed : ∀ uid ∈ s.alarmPanels.keys, uid ∈ panels.map (·.uniqueId)) :
    Grows (offersAt s) (offersAt (attachAlarmPanels s panels)) := by
  have none_stale : s.alarmPanels.keys.filter (fun uid => ¬ uid ∈ panels.map (·.uniqueId)) = [] := by
    refine List.filter_eq_nil_iff.mpr fun uid stored gone => ?_
    exact of_decide_eq_true gone (listed uid stored)
  intro slot offers found
  unfold attachAlarmPanels
  rw [none_stale]
  refine (List.foldlRecOn (motive := fun t => Tied t ∧ offersAt t slot = some offers) panels _ ⟨tied,found⟩ ?_).2
  intro t kept entity _
  exact ⟨attach_panel_tied entity kept.1,attach_panel_offers kept.1 entity kept.2⟩

end Panels

section Mutated
variable (s : LoomStore V)

theorem mutated_point_offers {f : Model.DataPoint V → Model.DataPoint V} {key : DataPointKey}
    (same : ∀ dp, s.dataPoints.get? key = some dp → pointOffer (f dp) = pointOffer dp) :
    offersAt {s with dataPoints := s.dataPoints.modify key f} = offersAt s := by
  funext slot
  cases slot with
  | dataPoint k =>
    simp only [offersAt]
    split
    · rfl
    · refine Dict.read_modify (fun dp stored => ?_) k
      rw [same dp stored]
  | _ => rfl

theorem mutated_point_renewed {f : Model.DataPoint V → Model.DataPoint V} {key : DataPointKey}
    (same : ∀ dp, s.dataPoints.get? key = some dp → pointOffer (f dp) = pointOffer dp) :
    renewedAt upstream {s with dataPoints := s.dataPoints.modify key f} = renewedAt upstream s := by
  funext slot
  cases slot with
  | calculated k =>
    simp only [renewedAt]
    split
    · refine Dict.read_modify (fun dp stored => ?_) k
      rw [same dp stored]
    · rfl
  | update => rfl

theorem mutated_custom_offers (key : CustomKey) (state : Dict String V) :
    offersAt (mutateCdp s key (·.replaceState state)) = offersAt s := by
  unfold mutateCdp
  split
  · rfl
  · funext slot
    cases slot with
    | customDataPoint k =>
      refine Dict.read_modify ?_ k
      exact fun _ _ => rfl
    | _ => rfl

theorem mutated_device_renewed {f : Model.Device → Model.Device} (address : Address)
    (same : ∀ d, (f d).summary.updatable = d.summary.updatable) :
    renewedAt upstream {s with devices := s.devices.modify address f} = renewedAt upstream s := by
  funext slot
  cases slot with
  | calculated => rfl
  | update a =>
    simp only [renewedAt,Dict.get?_modify]
    split
    · cases s.devices.get? a with
      | none => rfl
      | some d =>
        simp only [Option.map_some,Option.filter_some,same]
        cases d.summary.updatable <;> rfl
    · rfl

theorem settled_point_cases (key : DataPointKey) (summary : DataPointSummary V) :
    settleDataPoint s key summary = s ∨ settleDataPoint s key summary =
      {s with dataPoints := s.dataPoints.modify key fun dp => (dp.replaceSummary summary).clearValueOverride} := by
  unfold settleDataPoint
  split
  · exact .inl rfl
  · split
    · exact .inl rfl
    · exact .inr rfl

theorem settled_calculated_cases (key : DataPointKey) (calculated : CalculatedDPSummary V) :
    settleCalculatedDataPoint s key calculated = s ∨ ∃ f : Model.DataPoint V → Model.DataPoint V,
      settleCalculatedDataPoint s key calculated = {s with dataPoints := s.dataPoints.modify key f} ∧
        ∀ dp, s.dataPoints.get? key = some dp → pointOffer (f dp) = pointOffer dp := by
  unfold settleCalculatedDataPoint
  split
  · exact .inl rfl
  · rename_i stored found
    split
    · exact .inl rfl
    · refine .inr ⟨_,rfl,fun dp here => ?_⟩
      obtain rfl := Option.some.inj (found.symm.trans here)
      unfold Model.DataPoint.applyCalculatedAvailability
      split <;> rfl

theorem refreshed_record (refreshedAt : Instant) (d : Model.Device) :
    (refreshedAvailability refreshedAt d).summary.updatable = d.summary.updatable ∧
      (refreshedAvailability refreshedAt d).summary.address = d.summary.address := by
  unfold refreshedAvailability
  split
  · exact ⟨rfl,rfl⟩
  · split
    · exact ⟨rfl,rfl⟩
    · split <;> exact ⟨rfl,rfl⟩

end Mutated

theorem program_push_same {s : LoomStore V} (settled : Settled s) {id : String} {program : Model.Program}
    {summary : ProgramSummary} (stored : s.programs.get? id = some program) (sameId : summary.id = program.summary.id)
    (unique : summary.uniqueId = program.summary.uniqueId) : SameProgram s summary := by
  intro twins found twin member
  have own : summary.id = id := sameId.trans (settled.programs id program stored)
  rw [own] at found
  obtain ⟨p,known,mirrored⟩ := settled.twins id twins found
  obtain rfl := Option.some.inj (stored.symm.trans known)
  rw [(mirrored twin member).1,unique]

theorem program_executed_cases {s : LoomStore V} (settled : Settled s) (payload : ProgramExecutedPayload) :
    applyProgramExecuted s payload = s ∨ ∃ summary, SameProgram s summary ∧ applyProgramExecuted s payload = upsertProgram s summary := by
  unfold applyProgramExecuted
  split
  · rename_i program channel stored _
    split
    · refine .inr ⟨_,?_,rfl⟩
      exact program_push_same settled stored rfl rfl
    · exact .inl rfl
  · exact .inl rfl

theorem program_changed_cases {s : LoomStore V} (settled : Settled s) (payload : ProgramChangedPayload) :
    applyProgramChanged s payload = s ∨ ∃ summary, SameProgram s summary ∧ applyProgramChanged s payload = upsertProgram s summary := by
  unfold applyProgramChanged
  split
  · exact .inl rfl
  · rename_i program stored
    refine .inr ⟨_,program_push_same settled stored ?_ ?_,rfl⟩
    · unfold flippedSummary
      dsimp only
      split <;> rfl
    · unfold flippedSummary
      dsimp only
      split <;> rfl

theorem panel_changed_offers {s : LoomStore V} (payload : AlarmPanelChangedPayload)
    (same : payload.removed = true → payload.uniqueId ∉ s.alarmPanels) :
    Grows (offersAt s) (offersAt (applyAlarmPanelChanged s payload)) := by
  intro slot offers found
  cases slot with
  | alarmPanel uid =>
    unfold applyAlarmPanelChanged
    split
    · rename_i removed
      have absent := Dict.get?_eq_none.mpr (same removed)
      unfold dropAlarmPanel
      rw [absent]
      exact found
    · split
      · unfold mutateAlarmPanel
        split
        · exact found
        · refine (Dict.read_modify ?_ uid).trans found
          exact fun _ _ => rfl
      · rename_i fresh
        exact Dict.read_set_absent fresh found
  | _ => exact (unchanged (panel_changed_beside s payload) (offersAt · _) fun _ => rfl).trans found

theorem sysvar_offers_kept {s : LoomStore V} {summary : SysvarSummary V} (same : SameSysvar s summary) :
    Grows (offersAt s) (offersAt (upsertSysvar s summary)) := by
  intro slot offers found
  refine upsert_sysvar_offers summary found fun here => ?_
  rw [here] at found
  exact sysvar_offers_same same found

theorem program_offers_kept {s : LoomStore V} (tied : Tied s) {summary : ProgramSummary} (same : SameProgram s summary) :
    Grows (offersAt s) (offersAt (upsertProgram s summary)) := by
  intro slot offers found
  refine upsert_program_offers tied summary found fun here => ?_
  rw [here] at found
  exact program_offers_same same found

theorem created_offers (s : LoomStore V) (payload : DeviceCreatedPayload) : offersAt (applyDeviceCreated s payload) = offersAt s :=
  offers_frame (created_beside s payload) fun u slot => by cases slot <;> rfl

theorem push_offers_kept {s : LoomStore V} (settled : Settled s) (push : Push V) (same : SamePopulation s (.push push)) :
    Grows (offersAt s) (offersAt (applyPush s push)) := by
  cases push with
  | valueChanged payload => exact grows_of_same (mutated_point_offers s fun _ _ => rfl)
  | customStateChanged payload => exact grows_of_same (mutated_custom_offers s _ _)
  | deviceCreated payload => exact grows_of_same (created_offers s payload)
  | deviceRemoved payload => exact same.elim
  | sysvarChanged payload =>
    refine grows_of_same (funext fun slot => ?_)
    cases slot with
    | sysvar name =>
      refine Dict.read_modify ?_ name
      exact fun _ _ => rfl
    | _ => rfl
  | programExecuted payload =>
    rcases program_executed_cases settled payload with still | ⟨summary,known,upserted⟩
    · exact grows_of_same (congrArg offersAt still)
    · simp only [applyPush,upserted]
      exact program_offers_kept settled.toTied known
  | programChanged payload =>
    rcases program_changed_cases settled payload with still | ⟨summary,known,upserted⟩
    · exact grows_of_same (congrArg offersAt still)
    · simp only [applyPush,upserted]
      exact program_offers_kept settled.toTied known
  | alarmPanelChanged payload => exact panel_changed_offers payload same
  | _ =>
    refine grows_of_same (funext fun slot => ?_)
    cases slot <;> rfl

theorem operation_offers_kept {s : LoomStore V} (settled : Settled s) (op : Operation V) (same : SamePopulation s op) :
    Grows (offersAt s) (offersAt (apply s op)) := by
  have tied := settled.toTied
  cases op with
  | setDaemonCentralCount count =>
    refine grows_of_same (funext fun slot => ?_)
    cases slot <;> rfl
  | setCentralId centralId =>
    refine grows_of_same (funext fun slot => ?_)
    cases slot <;> rfl
  | loadSnapshot snapshot => exact snapshot_offers_kept tied same.2.1 same.2.2
  | attachDeviceDetail detail =>
    refine grows_of_same (offers_frame (detail_frame same.2) fun u slot => ?_)
    cases slot <;> rfl
  | attachChannelDataPoints address channel dataPoints => exact data_points_offers_kept address channel same.1 same.2
  | attachChannelCalculatedDataPoints address channel calculated =>
    exact calculated_offers_kept address channel fun c listed old stored => (same c listed old stored).1
  | attachCustomDataPoints address cdps => exact customs_offers_kept address same.1 same.2
  | attachHubCatalogue sysvars programs => exact hub_offers_kept tied same.1 same.2
  | attachAlarmPanels panels => exact panels_offers_kept tied same
  | push push => exact push_offers_kept settled push same
  | settleDataPoint key summary =>
    rcases settled_point_cases s key summary with still | settled
    · exact grows_of_same (congrArg offersAt still)
    · simp only [apply,settled]
      refine grows_of_same (mutated_point_offers s fun dp stored => ?_)
      have id : dp.summary.uniqueId = summary.uniqueId := same dp stored
      simp only [pointOffer,Model.DataPoint.clearValueOverride,Model.DataPoint.replaceSummary,id]
  | settleCalculatedDataPoint key calculated =>
    rcases settled_calculated_cases s key calculated with still | ⟨f,settled,offer⟩
    · exact grows_of_same (congrArg offersAt still)
    · simp only [apply,settled]
      exact grows_of_same (mutated_point_offers s offer)
  | settleCustomDataPoint key generation state =>
    simp only [apply,settleCustomDataPoint]
    split
    · split
      · exact grows_of_same (mutated_custom_offers s key _)
      · exact grows_refl _
    · exact grows_refl _
  | upsertProgram summary => exact program_offers_kept tied same
  | upsertSysvar summary => exact sysvar_offers_kept same
  | setWeekProfileDataPoint address dp climate => exact same.elim

section Renewed
variable {upstream} {s : LoomStore V} {slot : RenewedSlot} {key : DataPointCategory × String}

theorem renewed_frame {beside : LoomStore V → LoomStore V} {s t : LoomStore V} (frame : beside t = beside s)
    (blind : ∀ u slot, renewedAt upstream (beside u) slot = renewedAt upstream u slot) :
    renewedAt upstream t = renewedAt upstream s := unchanged frame (renewedAt upstream) fun u => funext (blind u)

theorem upsert_device_renewed {t : LoomStore V} {summary : DeviceSummary} (admitted : upsertDeviceSummary s summary = some t)
    (found : renewedAt upstream s slot = some key)
    (same : slot = .update summary.address → summary.updatable = true) : renewedAt upstream t slot = some key := by
  rcases upsert_cases admitted with ⟨known,rfl⟩ | ⟨fresh,_,rfl⟩
  · cases slot with
    | update a =>
      simp only [renewedAt,Dict.get?_modify] at found ⊢
      split
      · rename_i here
        obtain ⟨d,stored⟩ := Dict.mem_iff_get?.mp known
        have updatable := same (congrArg RenewedSlot.update here)
        rw [here,stored] at found ⊢
        obtain ⟨old,_,rfl⟩ := Option.map_eq_some_iff.mp found
        simp only [Option.map_some,Model.Device.updateSummary,Option.filter_some,updatable,if_true]
      · exact found
    | calculated => exact found
  · cases slot with
    | update a =>
      simp only [renewedAt,Dict.get?_set] at found ⊢
      split
      · rename_i here
        rw [here,Dict.get?_eq_none.mpr fresh] at found
        cases found
      · exact found
    | calculated => exact found

theorem upsert_device_keyed {t : LoomStore V} {summary : DeviceSummary} (admitted : upsertDeviceSummary s summary = some t)
    (keyed : DevicesKeyed s) : DevicesKeyed t := by
  rcases upsert_cases admitted with ⟨_,rfl⟩ | ⟨_,_,rfl⟩
  · intro a d found
    rw [Dict.get?_modify] at found
    split at found
    · rename_i here
      obtain ⟨_,_,rfl⟩ := Option.map_eq_some_iff.mp found
      exact here.symm
    · exact keyed a d found
  · exact Dict.holds_set keyed rfl

theorem update_updatable (found : renewedAt upstream s (.update summary.address) = some key) (same : SameDevice s summary) :
    summary.updatable = true := by
  obtain ⟨d,stored,_⟩ := Option.map_eq_some_iff.mp found
  obtain ⟨stored,updatable⟩ := Option.filter_eq_some_iff.mp stored
  exact (same d stored).symm.trans updatable

theorem snapshot_renewed_kept {snapshot : Snapshot V} (same : ∀ d ∈ snapshot.devices, SameDevice s d) :
    Grows (renewedAt upstream s) (renewedAt upstream (loadSnapshot s snapshot)) := by
  intro slot key found
  have adopted : renewedAt upstream (adoptCentralId s snapshot) slot = some key := by
    unfold adoptCentralId
    split <;> cases slot <;> exact found
  have admitted : renewedAt upstream (snapshot.devices.foldl admitDevice (adoptCentralId s snapshot)) slot = some key := by
    refine List.foldlRecOn (motive := fun t => renewedAt upstream t slot = some key) _ _ adopted fun t kept d listed => ?_
    unfold admitDevice
    cases admitted : upsertDeviceSummary t d with
    | none => exact kept
    | some u =>
      refine upsert_device_renewed admitted kept fun here => ?_
      rw [here] at found
      exact update_updatable found (same d listed)
  have programs := upsert_programs_beside (snapshot.devices.foldl admitDevice (adoptCentralId s snapshot)) (snapshot.programs.getD [])
  have sysvars := upsert_sysvars_beside ((snapshot.programs.getD []).foldl upsertProgram
    (snapshot.devices.foldl admitDevice (adoptCentralId s snapshot))) (snapshot.sysvars.getD [])
  have blind (u : LoomStore V) (slot : RenewedSlot) : renewedAt upstream (besideHub u) slot = renewedAt upstream u slot := by
    cases slot <;> rfl
  exact (congrFun ((renewed_frame sysvars blind).trans (renewed_frame programs blind)) slot).trans admitted

theorem snapshot_keyed (snapshot : Snapshot V) (keyed : DevicesKeyed s) : DevicesKeyed (loadSnapshot s snapshot) := by
  have adopted : DevicesKeyed (adoptCentralId s snapshot) := by
    unfold adoptCentralId
    split <;> exact keyed
  unfold DevicesKeyed
  rw [snapshot_devices]
  refine List.foldlRecOn (motive := DevicesKeyed) _ _ adopted fun t kept d _ => ?_
  unfold admitDevice
  cases admitted : upsertDeviceSummary t d with
  | none => exact kept
  | some u => exact upsert_device_keyed admitted kept

theorem detail_renewed_kept {detail : DeviceDetail} (same : SameDevice s detail.toDeviceSummary)
    (listed : ∀ k ∈ s.channels.keys, k.1 = detail.address → k.2 ∈ detail.channels.map (·.number)) :
    Grows (renewedAt upstream s) (renewedAt upstream (attachDeviceDetail s detail)) := by
  intro slot key found
  have frame := detail_frame listed
  cases slot with
  | calculated k => exact (unchanged frame (renewedAt upstream · (.calculated k)) fun _ => rfl).trans found
  | update a =>
    cases allowed : canAdmitDevice s detail.address with
    | false =>
      rw [detail_refused allowed]
      exact found
    | true =>
      obtain ⟨t,admitted,stored⟩ := detail_stored allowed
      have first : renewedAt upstream t (.update a) = some key := by
        refine upsert_device_renewed admitted found fun here => ?_
        rw [here] at found
        exact update_updatable found same
      have suffix : (attachDeviceDetail s detail).serialSuffix = t.serialSuffix :=
        (unchanged frame LoomStore.serialSuffix fun _ => rfl).trans
          (unchanged (upsert_beside admitted) LoomStore.serialSuffix fun _ => rfl).symm
      simp only [renewedAt,stored,suffix,Dict.get?_modify] at first ⊢
      split
      · obtain ⟨d,there,rfl⟩ := Option.map_eq_some_iff.mp first
        obtain ⟨there,updatable⟩ := Option.filter_eq_some_iff.mp there
        simp only [there,Option.map_some,Model.Device.attachDetail,Option.filter_some,updatable,if_true]
      · exact first

theorem detail_keyed (detail : DeviceDetail) (keyed : DevicesKeyed s) : DevicesKeyed (attachDeviceDetail s detail) := by
  cases allowed : canAdmitDevice s detail.address with
  | false =>
    rw [detail_refused allowed]
    exact keyed
  | true =>
    obtain ⟨t,admitted,stored⟩ := detail_stored allowed
    unfold DevicesKeyed
    rw [stored]
    exact Dict.holds_modify (upsert_device_keyed admitted keyed) fun _ own => own

theorem data_points_renewed_kept (address : Address) (channel : Int) {dataPoints : List (DataPointSummary V)}
    (same : ∀ dp ∈ dataPoints, ∀ old ∈ s.dataPoints.get? (address,channel,dp.parameter), old.summary.uniqueId = dp.uniqueId) :
    Grows (renewedAt upstream s) (renewedAt upstream (attachChannelDataPoints s address channel dataPoints)) := by
  intro slot key found
  cases slot with
  | update a =>
    have frame := attach_data_points_beside s address channel dataPoints
    exact (unchanged frame (renewedAt upstream · (.update a)) fun _ => rfl).trans found
  | calculated k =>
    simp only [renewedAt] at found
    split at found
    · rename_i calculated
      obtain ⟨old,stored,rfl⟩ := Option.map_eq_some_iff.mp found
      let holds (t : LoomStore V) : Prop := k ∈ t.calculatedDpKeys ∧
        ∃ dp, t.dataPoints.get? k = some dp ∧ dp.category = old.category ∧ dp.summary.uniqueId = old.summary.uniqueId
      have fresh : staleDataPoint s address channel dataPoints k = false := by
        simp only [staleDataPoint,calculated,not_true,decide_false,Bool.and_false]
      have first : holds {s with
          dataPoints := s.dataPoints.eraseWhere (staleDataPoint s address channel dataPoints)} := by
        refine ⟨calculated,old,?_,rfl,rfl⟩
        simp only [Dict.get?_eraseWhere,fresh,Bool.false_eq_true,if_false,stored]
      have final : holds (attachChannelDataPoints s address channel dataPoints) := by
        refine List.foldlRecOn (motive := holds) dataPoints _ first fun t known summary member => ?_
        obtain ⟨calculated,dp,there,category,id⟩ := known
        refine ⟨by rw [attach_data_point_calculated]; exact calculated,?_⟩
        unfold attachDataPoint
        dsimp only
        by_cases here : k = (address,channel,summary.parameter)
        · rw [if_pos (here ▸ Dict.mem_of_get? there)]
          refine ⟨dp.replaceSummary summary,?_,category,(same summary member old (here ▸ stored)).symm⟩
          rw [Dict.get?_modify,if_pos here,there]
          rfl
        · refine ⟨dp,?_,category,id⟩
          split
          · rw [Dict.get?_modify,if_neg here,there]
          · rw [Dict.get?_set,if_neg here,there]
      obtain ⟨calculated,dp,there,category,id⟩ := final
      simp only [renewedAt,calculated,if_true,there,Option.map_some,pointOffer,Announced.key,category,id]
    · cases found

theorem calculated_renewed_kept (address : Address) (channel : Int) {calculated : List (CalculatedDPSummary V)}
    (same : ∀ c ∈ calculated, ∀ old ∈ s.dataPoints.get? (address,channel,c.name),
      (pointOffer old).key = (pointOffer (Model.makeCalculatedDataPoint 0 c address channel)).key) :
    Grows (renewedAt upstream s) (renewedAt upstream (attachChannelCalculatedDataPoints s address channel calculated)) := by
  intro slot key found
  cases slot with
  | update a =>
    have frame := attach_calculated_beside s address channel calculated
    exact (unchanged frame (renewedAt upstream · (.update a)) fun _ => rfl).trans found
  | calculated k =>
    unfold attachChannelCalculatedDataPoints
    split
    · have before := found
      simp only [renewedAt] at before
      split at before
      · obtain ⟨old,stored,rfl⟩ := Option.map_eq_some_iff.mp before
        refine List.foldlRecOn (motive := fun t => renewedAt upstream t (.calculated k) = some (pointOffer old).key) _ _ found
          fun t kept c member => ?_
        simp only [renewedAt,attachCalculatedDataPoint,Dict.get?_set] at kept ⊢
        by_cases here : k = (address,channel,c.name)
        · rw [if_pos (Finset.mem_insert.mpr (.inl here)),if_pos here]
          exact congrArg some (same c member old (here ▸ stored)).symm
        · simpa only [here,Finset.mem_insert,false_or,if_false] using kept
      · cases before
    · exact found

theorem created_renewed_kept (payload : DeviceCreatedPayload) :
    Grows (renewedAt upstream s) (renewedAt upstream (applyDeviceCreated s payload)) := by
  intro slot key found
  cases slot with
  | calculated k => exact (unchanged (created_beside s payload) (renewedAt upstream · (.calculated k)) fun _ => rfl).trans found
  | update a =>
    unfold applyDeviceCreated
    split
    · exact found
    · rename_i fresh
      split
      · have other : a ≠ payload.deviceAddress := by
          intro here
          obtain ⟨d,stored,_⟩ := Option.map_eq_some_iff.mp found
          exact fresh (here ▸ Dict.mem_of_get? (Option.filter_eq_some_iff.mp stored).1)
        simpa only [renewedAt,Dict.get?_set,if_neg other] using found
      · exact found

theorem push_renewed_kept (push : Push V) (same : SamePopulation s (.push push)) :
    Grows (renewedAt upstream s) (renewedAt upstream (applyPush s push)) := by
  have still {beside : LoomStore V → LoomStore V} {t : LoomStore V} (frame : beside t = beside s)
      (blind : ∀ u slot, renewedAt upstream (beside u) slot = renewedAt upstream u slot) :
      Grows (renewedAt upstream s) (renewedAt upstream t) := grows_of_same (renewed_frame frame blind)
  cases push with
  | valueChanged payload => exact grows_of_same (mutated_point_renewed upstream s fun _ _ => rfl)
  | deviceCreated payload => exact created_renewed_kept payload
  | deviceRemoved payload => exact same.elim
  | availabilityChanged payload =>
    refine grows_of_same (mutated_device_renewed upstream s _ fun d => ?_)
    split <;> rfl
  | deviceRefreshed payload =>
    exact grows_of_same (mutated_device_renewed upstream s _ fun d => (refreshed_record payload.refreshedAt d).1)
  | _ =>
    refine still (push_frame s _) fun u slot => ?_
    cases slot <;> rfl

theorem operation_renewed_kept (op : Operation V) (same : SamePopulation s op) :
    Grows (renewedAt upstream s) (renewedAt upstream (apply s op)) := by
  have still {beside : LoomStore V → LoomStore V} {t : LoomStore V} (frame : beside t = beside s)
      (blind : ∀ u slot, renewedAt upstream (beside u) slot = renewedAt upstream u slot) :
      Grows (renewedAt upstream s) (renewedAt upstream t) := grows_of_same (renewed_frame frame blind)
  cases op with
  | loadSnapshot snapshot => exact snapshot_renewed_kept same.1
  | attachDeviceDetail detail => exact detail_renewed_kept same.1 same.2
  | attachChannelDataPoints address channel dataPoints => exact data_points_renewed_kept address channel same.2
  | attachChannelCalculatedDataPoints address channel calculated =>
    exact calculated_renewed_kept address channel fun c listed old stored => (same c listed old stored).2
  | push push => exact push_renewed_kept push same
  | settleDataPoint key summary =>
    rcases settled_point_cases s key summary with still | settled
    · exact grows_of_same (congrArg (renewedAt upstream) still)
    · simp only [apply,settled]
      refine grows_of_same (mutated_point_renewed upstream s fun dp stored => ?_)
      have id : dp.summary.uniqueId = summary.uniqueId := same dp stored
      simp only [pointOffer,Model.DataPoint.clearValueOverride,Model.DataPoint.replaceSummary,id]
  | settleCalculatedDataPoint key calculated =>
    rcases settled_calculated_cases s key calculated with still | ⟨f,settled,offer⟩
    · exact grows_of_same (congrArg (renewedAt upstream) still)
    · simp only [apply,settled]
      exact grows_of_same (mutated_point_renewed upstream s offer)
  | setWeekProfileDataPoint address dp climate => exact same.elim
  | _ =>
    refine still (operation_frame s _) fun u slot => ?_
    cases slot <;> rfl

end Renewed

section Steady
variable {s : LoomStore V}

theorem points_settled {f : Model.DataPoint V → Model.DataPoint V} {key : DataPointKey}
    (same : ∀ dp, s.dataPoints.get? key = some dp → pointOffer (f dp) = pointOffer dp) (settled : Settled s) :
    Settled {s with dataPoints := s.dataPoints.modify key f} where
  toTied := by
    refine tied_points settled.toTied rfl fun k dp found => ?_
    rw [Dict.get?_modify] at found
    split at found
    · rename_i here
      subst here
      obtain ⟨old,stored,rfl⟩ := Option.map_eq_some_iff.mp found
      rw [show (f old).category = old.category from congrArg Announced.category (same old stored)]
      exact settled.points k old stored
    · exact settled.points k dp found
  devices := settled.devices
  programs := settled.programs

theorem settled_beside {beside : LoomStore V → LoomStore V} {t : LoomStore V} (settled : Settled s) (tied : Tied t)
    (frame : beside t = beside s) (devices : ∀ u, (beside u).devices = u.devices) (programs : ∀ u, (beside u).programs = u.programs) :
    Settled t where
  toTied := tied
  devices := by
    unfold DevicesKeyed
    rw [unchanged frame LoomStore.devices devices]
    exact settled.devices
  programs := same_keyed (unchanged frame LoomStore.programs programs) settled.programs

theorem upsert_program_settled (summary : ProgramSummary) (settled : Settled s) : Settled (upsertProgram s summary) where
  toTied := upsert_program_tied summary settled.toTied
  devices := by
    unfold DevicesKeyed
    rw [unchanged (upsert_program_beside s summary) LoomStore.devices fun _ => rfl]
    exact settled.devices
  programs := upsert_program_keyed s summary settled.programs

theorem upsert_sysvar_settled (summary : SysvarSummary V) (settled : Settled s) : Settled (upsertSysvar s summary) := by
  have tied := upsert_sysvar_tied summary settled.toTied
  unfold upsertSysvar at tied ⊢
  split
  · rename_i known
    rw [if_pos known] at tied
    exact ⟨tied,settled.devices,settled.programs⟩
  · rename_i fresh
    rw [if_neg fresh] at tied
    exact ⟨tied,settled.devices,settled.programs⟩

theorem mutate_custom_settled (key : CustomKey) (f : Model.CustomDataPoint V → Model.CustomDataPoint V) (settled : Settled s) :
    Settled (mutateCdp s key f) := by
  have frame := mutate_cdp_beside s key f
  exact settled_beside settled (tied_frame settled.toTied (unchanged frame besideUntied fun _ => rfl)) frame (fun _ => rfl) fun _ => rfl

theorem created_settled (payload : DeviceCreatedPayload) (settled : Settled s) : Settled (applyDeviceCreated s payload) := by
  have tied := tied_frame settled.toTied (unchanged (created_beside s payload) besideUntied fun _ => rfl)
  unfold applyDeviceCreated at tied ⊢
  split
  · exact settled
  · rename_i fresh
    rw [if_neg fresh] at tied
    split
    · rename_i room
      rw [if_pos room] at tied
      exact ⟨tied,Dict.holds_set settled.devices rfl,settled.programs⟩
    · exact settled

theorem panel_changed_settled (payload : AlarmPanelChangedPayload) (settled : Settled s) :
    Settled (applyAlarmPanelChanged s payload) := by
  refine settled_beside settled ?_ (panel_changed_beside s payload) (fun _ => rfl) fun _ => rfl
  unfold applyAlarmPanelChanged
  split
  · exact drop_panel_tied _ settled.toTied
  · split
    · exact mutate_panel_tied _ _ settled.toTied fun _ own => own
    · exact register_panel_tied _ settled.toTied

theorem push_settled (settled : Settled s) (push : Push V) (same : SamePopulation s (.push push)) :
    Settled (applyPush s push) := by
  cases push with
  | valueChanged payload => exact points_settled (fun _ _ => rfl) settled
  | customStateChanged payload => exact mutate_custom_settled _ _ settled
  | deviceCreated payload => exact created_settled payload settled
  | deviceRemoved payload => exact same.elim
  | availabilityChanged payload =>
    refine ⟨tied_frame settled.toTied rfl,Dict.holds_modify settled.devices fun d own => ?_,settled.programs⟩
    split <;> exact own
  | deviceRefreshed payload =>
    refine ⟨tied_frame settled.toTied rfl,Dict.holds_modify settled.devices fun d own => ?_,settled.programs⟩
    exact (refreshed_record payload.refreshedAt d).2.trans own
  | sysvarChanged payload =>
    have tied := settled.toTied
    exact ⟨{tied with sysvars := Dict.holds_modify tied.sysvars fun _ shown => shown},settled.devices,settled.programs⟩
  | programExecuted payload =>
    rcases program_executed_cases settled payload with still | ⟨summary,_,upserted⟩
    · rw [show applyPush s (.programExecuted payload) = s from still]
      exact settled
    · simp only [applyPush,upserted]
      exact upsert_program_settled summary settled
  | programChanged payload =>
    rcases program_changed_cases settled payload with still | ⟨summary,_,upserted⟩
    · rw [show applyPush s (.programChanged payload) = s from still]
      exact settled
    · simp only [applyPush,upserted]
      exact upsert_program_settled summary settled
  | alarmPanelChanged payload => exact panel_changed_settled payload settled
  | _ => exact settled

theorem snapshot_programs_keyed (snapshot : Snapshot V) (keyed : ProgramsKeyed s) : ProgramsKeyed (loadSnapshot s snapshot) := by
  have adopted : ProgramsKeyed (adoptCentralId s snapshot) := by
    unfold adoptCentralId
    split <;> exact keyed
  have devices := foldl_frame admitDevice besideDevices admit_beside (adoptCentralId s snapshot) snapshot.devices
  have admitted : ProgramsKeyed (snapshot.devices.foldl admitDevice (adoptCentralId s snapshot)) :=
    same_keyed (unchanged devices LoomStore.programs fun _ => rfl) adopted
  have programs : ProgramsKeyed ((snapshot.programs.getD []).foldl upsertProgram
      (snapshot.devices.foldl admitDevice (adoptCentralId s snapshot))) :=
    List.foldlRecOn (motive := ProgramsKeyed) _ _ admitted fun t kept p _ => upsert_program_keyed t p kept
  refine List.foldlRecOn (motive := ProgramsKeyed) (snapshot.sysvars.getD []) _ programs fun t kept v _ => ?_
  unfold upsertSysvar
  split <;> exact kept

theorem hub_catalogue_settled (sysvars : List (SysvarSummary V)) (programs : List ProgramSummary) (settled : Settled s) :
    Settled (attachHubCatalogue s sysvars programs) := by
  have first : Settled (sysvars.foldl upsertSysvar s) :=
    List.foldlRecOn (motive := Settled) sysvars _ settled fun _ kept summary _ => upsert_sysvar_settled summary kept
  exact List.foldlRecOn (motive := Settled) programs _ first fun _ kept summary _ => upsert_program_settled summary kept

theorem operation_settled (settled : Settled s) (op : Operation V) (same : SamePopulation s op) : Settled (apply s op) := by
  have tied := settled.toTied
  cases op with
  | setDaemonCentralCount count => exact ⟨tied_same tied rfl rfl rfl rfl rfl,settled.devices,settled.programs⟩
  | setCentralId centralId => exact ⟨tied_same tied rfl rfl rfl rfl rfl,settled.devices,settled.programs⟩
  | loadSnapshot snapshot =>
    exact ⟨snapshot_tied snapshot tied,snapshot_keyed snapshot settled.devices,snapshot_programs_keyed snapshot settled.programs⟩
  | attachDeviceDetail detail =>
    exact ⟨detail_tied detail tied,detail_keyed detail settled.devices,
      same_keyed (unchanged (detail_frame same.2) LoomStore.programs fun _ => rfl) settled.programs⟩
  | attachChannelDataPoints address channel dataPoints =>
    exact settled_beside settled (attach_data_points_tied address channel dataPoints tied)
      (attach_data_points_beside s address channel dataPoints) (fun _ => rfl) fun _ => rfl
  | attachChannelCalculatedDataPoints address channel calculated =>
    exact settled_beside settled (attach_calculated_tied address channel calculated tied)
      (attach_calculated_beside s address channel calculated) (fun _ => rfl) fun _ => rfl
  | attachCustomDataPoints address cdps =>
    exact settled_beside settled (attach_customs_tied address cdps tied) (attach_customs_beside s address cdps)
      (fun _ => rfl) fun _ => rfl
  | attachHubCatalogue sysvars programs => exact hub_catalogue_settled sysvars programs settled
  | attachAlarmPanels panels =>
    exact settled_beside settled (attach_panels_tied panels tied) (attach_panels_beside s panels) (fun _ => rfl) fun _ => rfl
  | push push => exact push_settled settled push same
  | settleDataPoint key summary =>
    rcases settled_point_cases s key summary with still | folded
    · rw [show apply s (.settleDataPoint key summary) = s from still]
      exact settled
    · simp only [apply,folded]
      refine points_settled (fun dp stored => ?_) settled
      have id : dp.summary.uniqueId = summary.uniqueId := same dp stored
      simp only [pointOffer,Model.DataPoint.clearValueOverride,Model.DataPoint.replaceSummary,id]
  | settleCalculatedDataPoint key calculated =>
    rcases settled_calculated_cases s key calculated with still | ⟨f,folded,offer⟩
    · rw [show apply s (.settleCalculatedDataPoint key calculated) = s from still]
      exact settled
    · simp only [apply,folded]
      exact points_settled offer settled
  | settleCustomDataPoint key generation state =>
    simp only [apply,settleCustomDataPoint]
    split
    · split
      · exact mutate_custom_settled key _ settled
      · exact settled
    · exact settled
  | upsertProgram summary => exact upsert_program_settled summary settled
  | upsertSysvar summary => exact upsert_sysvar_settled summary settled
  | setWeekProfileDataPoint address dp climate => exact same.elim

theorem push_profiles (push : Push V) (same : SamePopulation s (.push push)) :
    (applyPush s push).weekProfileDps = s.weekProfileDps := by
  cases push with
  | deviceRemoved payload => exact same.elim
  | _ => exact unchanged (push_frame s _) LoomStore.weekProfileDps fun _ => rfl

theorem operation_profiles (op : Operation V) (same : SamePopulation s op) : (apply s op).weekProfileDps = s.weekProfileDps := by
  cases op with
  | push push => exact push_profiles push same
  | setWeekProfileDataPoint address dp climate => exact same.elim
  | _ => exact unchanged (operation_frame s _) LoomStore.weekProfileDps fun _ => rfl

end Steady

theorem offers_plain {s : LoomStore V} {slot : KeptSlot} {offers : List Announced} (tied : Tied s) (found : offersAt s slot = some offers) :
    ∀ d ∈ offers, d.category ≠ .eventGroup := by
  intro d member
  cases slot with
  | dataPoint k =>
    simp only [offersAt] at found
    split at found
    · cases found
    · obtain ⟨dp,stored,rfl⟩ := Option.map_eq_some_iff.mp found
      obtain rfl := List.mem_singleton.mp member
      exact tied.points k dp stored
  | customDataPoint k =>
    obtain ⟨cdp,_,rfl⟩ := Option.map_eq_some_iff.mp found
    obtain rfl := List.mem_singleton.mp member
    exact custom_category_tied cdp
  | sysvar name =>
    obtain ⟨v,stored,rfl⟩ := Option.map_eq_some_iff.mp found
    obtain rfl := List.mem_singleton.mp member
    exact tied.sysvars name v stored
  | program id =>
    obtain ⟨twins,stored,rfl⟩ := Option.map_eq_some_iff.mp found
    obtain ⟨twin,listed,shown⟩ := List.mem_filterMap.mp member
    obtain ⟨category,classed,rfl⟩ := Option.map_eq_some_iff.mp shown
    obtain ⟨_,_,mirrored⟩ := tied.twins id twins stored
    intro group
    exact (mirrored twin listed).2 (classed.trans (congrArg some group))
  | alarmPanel uid =>
    obtain ⟨p,_,rfl⟩ := Option.map_eq_some_iff.mp found
    obtain rfl := List.mem_singleton.mp member
    intro same
    cases same

theorem renewed_plain {s : LoomStore V} {slot : RenewedSlot} {key : DataPointCategory × String} (tied : Tied s)
    (found : renewedAt upstream s slot = some key) :
    key.1 ≠ .eventGroup := by
  cases slot with
  | calculated k =>
    simp only [renewedAt] at found
    split at found
    · obtain ⟨dp,stored,rfl⟩ := Option.map_eq_some_iff.mp found
      exact tied.points k dp stored
    · cases found
  | update address =>
    obtain ⟨_,_,rfl⟩ := Option.map_eq_some_iff.mp found
    intro same
    cases same

end LoomClient.Compat
