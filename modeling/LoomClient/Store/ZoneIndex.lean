import LoomClient.Lib.Indexed
import LoomClient.Store.InPlace

namespace LoomClient.Store
open Lib Wire
variable {V : Type}

def getAlarmPanelByZone (s : LoomStore V) (zoneId : String) : Option Model.AlarmPanel := s.alarmPanelByZone.get? zoneId

def PanelOf (s : LoomStore V) (zoneId : String) (panel : Model.AlarmPanel) : Prop :=
  ∃ uniqueId, s.alarmPanels.get? uniqueId = some panel ∧ panel.summary.zoneId = zoneId

-- The index resolves a zone exactly when a live panel has it, and to such a panel.
def ZonesInStep (s : LoomStore V) : Prop := ∀ zoneId,
  ((getAlarmPanelByZone s zoneId).isSome = true ↔ ∃ panel, PanelOf s zoneId panel) ∧
    ∀ panel ∈ getAlarmPanelByZone s zoneId, PanelOf s zoneId panel

-- The panels as objects that stand at their zone; several may stand at one.
def panelIndexing : Indexing String String Model.AlarmPanel where
  ident := (·.oid)
  key panel := panel.summary.uniqueId
  place _ panel := panel.summary.zoneId

def panelIndexed (s : LoomStore V) : Lib.Indexed String String Model.AlarmPanel :=
  ⟨s.alarmPanels,s.alarmPanelByZone,s.nextOid⟩

def panelCatalogue : Catalogue panelIndexing AlarmPanelEntity where
  key entity := entity.uniqueId
  place entity := entity.zoneId
  update entity panel := panel.replaceSummary entity
  build i entity := ⟨i,entity⟩
  ident_update _ _ := rfl
  key_update _ _ _ := rfl
  place_update _ _ := rfl
  ident_build _ _ := rfl
  key_build _ _ := rfl
  place_build _ _ := rfl

theorem mutate_panel_indexed (s : LoomStore V) (uniqueId : String) (f : Model.AlarmPanel → Model.AlarmPanel) :
    panelIndexed (mutateAlarmPanel s uniqueId f) = Indexed.revise panelIndexing (panelIndexed s) uniqueId f := by
  unfold mutateAlarmPanel Indexed.revise panelIndexed
  dsimp only
  cases s.alarmPanels.get? uniqueId <;> rfl

theorem drop_panel_indexed (s : LoomStore V) (uniqueId : String) :
    panelIndexed (dropAlarmPanel s uniqueId) = Indexed.withdraw panelIndexing (panelIndexed s) uniqueId := by
  unfold dropAlarmPanel Indexed.withdraw panelIndexed
  dsimp only
  cases s.alarmPanels.get? uniqueId <;> rfl

theorem register_panel_indexed (s : LoomStore V) (entity : AlarmPanelEntity) (fresh : entity.uniqueId ∉ s.alarmPanels) :
    panelIndexed (registerAlarmPanel s entity) = Indexed.attach panelCatalogue (panelIndexed s) entity := by
  have there : (panelIndexed s).entries.get? (panelCatalogue.key entity) = none := Dict.get?_eq_none.mpr fresh
  simp only [Indexed.attach,there]
  rfl

theorem attach_panel_indexed (s : LoomStore V) (entity : AlarmPanelEntity) :
    panelIndexed (attachAlarmPanel s entity) = Indexed.attach panelCatalogue (panelIndexed s) entity := by
  cases found : s.alarmPanels.get? entity.uniqueId with
  | none =>
    simp only [attachAlarmPanel,found]
    exact register_panel_indexed s entity (Dict.get?_eq_none.mp found)
  | some panel =>
    have there : (panelIndexed s).entries.get? (panelCatalogue.key entity) = some panel := found
    have mutated := mutate_panel_indexed s entity.uniqueId (·.replaceSummary entity)
    simp only [attachAlarmPanel,found,Indexed.attach,there]
    exact congrArg (fun x : Lib.Indexed String String Model.AlarmPanel =>
      {x with index := x.index.set entity.zoneId (panel.replaceSummary entity)}) mutated

def stalePanels (s : LoomStore V) (panels : List AlarmPanelEntity) : List String :=
  s.alarmPanels.keys.filter fun uid => ¬ uid ∈ panels.map (·.uniqueId)

theorem attach_panels_indexed (s : LoomStore V) (panels : List AlarmPanelEntity) :
    panelIndexed (attachAlarmPanels s panels) = Indexed.reload panelCatalogue (panelIndexed s) (stalePanels s panels) panels := by
  have dropped : panelIndexed ((stalePanels s panels).foldl dropAlarmPanel s) =
      (stalePanels s panels).foldl (Indexed.withdraw panelIndexing) (panelIndexed s) :=
    (List.foldl_hom panelIndexed fun t uid => (drop_panel_indexed t uid).symm).symm
  unfold Indexed.reload
  rw [←dropped]
  exact (List.foldl_hom panelIndexed fun t entity => (attach_panel_indexed t entity).symm).symm

theorem zones_in_step_iff (s : LoomStore V) : ZonesInStep s ↔ Indexed.InStep panelIndexing (panelIndexed s) := by
  constructor
  · intro inStep
    refine ⟨?_,?_⟩
    · intro zoneId panel held
      exact (inStep zoneId).2 panel held
    · intro uid panel found
      have resolved := (inStep panel.summary.zoneId).1.mpr ⟨panel,uid,found,rfl⟩
      exact Dict.mem_iff_get?.mpr (Option.isSome_iff_exists.mp resolved)
  · intro inStep zoneId
    refine ⟨⟨?_,?_⟩,fun panel held => inStep.standing zoneId panel held⟩
    · intro resolved
      obtain ⟨panel,held⟩ := Option.isSome_iff_exists.mp resolved
      exact ⟨panel,inStep.standing zoneId panel held⟩
    · rintro ⟨panel,uid,found,rfl⟩
      exact Option.isSome_iff_exists.mpr (Dict.mem_iff_get?.mp (inStep.found uid panel found))

def Panels (s : LoomStore V) : Prop := Indexed.Sound panelIndexing (panelIndexed s)

-- A removal push takes the last panel of its zone; a catalogue names the zones of
-- the panels it keeps, or drops a panel of the zone it leaves out; and the panel it
-- lists last for a zone it also lists with that zone last.
def KeepsZones (s : LoomStore V) : Operation V → Prop
  | .push (.alarmPanelChanged payload) => payload.removed = true →
    ∀ panel ∈ s.alarmPanels.get? payload.uniqueId, ∀ uid ∈ s.alarmPanels.keys, ∀ other ∈ s.alarmPanels.get? uid,
      other.summary.zoneId = panel.summary.zoneId → uid = payload.uniqueId
  | .attachAlarmPanels panels =>
    (∀ entity ∈ panels, ∀ last ∈ lastWith (·.zoneId) entity.zoneId panels,
      (lastWith (·.uniqueId) last.uniqueId panels).map (·.zoneId) = some entity.zoneId) ∧
    ∀ entity ∈ panels, ∀ panel ∈ s.alarmPanels.get? entity.uniqueId, panel.summary.zoneId ∈ panels.map (·.zoneId) ∨
      ∃ uid ∈ stalePanels s panels, ∃ other ∈ s.alarmPanels.get? uid, other.summary.zoneId = panel.summary.zoneId
  | _ => True

instance (s : LoomStore V) (op : Operation V) : Decidable (KeepsZones s op) := by
  induction op using Operation.casesOn with
  | push push => induction push using Push.casesOn <;> unfold KeepsZones <;> infer_instance
  | _ => unfold KeepsZones; infer_instance

section Pushed
variable {s : LoomStore V}

theorem dropped_in_step_iff (uniqueId : String) (inStep : ZonesInStep s) : ZonesInStep (dropAlarmPanel s uniqueId) ↔
    ∀ panel ∈ s.alarmPanels.get? uniqueId, ∀ uid ∈ s.alarmPanels.keys, ∀ other ∈ s.alarmPanels.get? uid,
      other.summary.zoneId = panel.summary.zoneId → uid = uniqueId := by
  rw [zones_in_step_iff] at inStep
  rw [zones_in_step_iff,drop_panel_indexed]
  refine (Indexed.withdrawn_in_step_iff [uniqueId] inStep).trans ⟨?_,?_⟩
  · intro alone panel found uid _ other found' same
    exact List.mem_singleton.mp (alone uniqueId (List.mem_singleton_self _) panel found uid other found' same)
  · intro alone uid member panel found uid' other found' same
    obtain rfl := List.mem_singleton.mp member
    exact List.mem_singleton.mpr (alone panel found uid' (Dict.mem_of_get? found') other found' same)

theorem known_panel_kept (payload : AlarmPanelChangedPayload) (panels : Panels s) :
    let pushed := fun panel : Model.AlarmPanel => panel.replaceSummary {panel.summary with
      name := payload.name
      state := payload.state
      available := payload.available
      codeArmRequired := payload.codeArmRequired
      codeDisarmRequired := payload.codeDisarmRequired}
    Panels (mutateAlarmPanel s payload.uniqueId pushed) ∧
      (ZonesInStep s → ZonesInStep (mutateAlarmPanel s payload.uniqueId pushed)) := by
  intro pushed
  unfold Panels
  rw [zones_in_step_iff,zones_in_step_iff,mutate_panel_indexed]
  exact ⟨Indexed.revise_sound (fun _ => rfl) (fun _ same => same) panels,
    Indexed.revise_in_step (fun _ same => same) (fun _ => rfl) panels⟩

theorem new_panel_kept (entity : AlarmPanelEntity) (fresh : entity.uniqueId ∉ s.alarmPanels) (panels : Panels s) :
    Panels (registerAlarmPanel s entity) ∧ (ZonesInStep s → ZonesInStep (registerAlarmPanel s entity)) := by
  have unknown : ∀ (uid : String) (panel : Model.AlarmPanel), s.alarmPanels.get? uid = some panel →
      uid ∉ [entity].map panelCatalogue.key := by
    intro uid panel found member
    obtain rfl : uid = entity.uniqueId := List.mem_singleton.mp member
    exact fresh (Dict.mem_of_get? found)
  unfold Panels
  rw [zones_in_step_iff,zones_in_step_iff,register_panel_indexed s entity fresh]
  refine ⟨Indexed.attach_sound entity panels,fun inStep => ?_⟩
  change Indexed.InStep panelIndexing (Indexed.reload panelCatalogue (panelIndexed s) [] [entity])
  refine (Indexed.reload_in_step_iff panels inStep ?_).mpr ⟨?_,?_⟩
  · intro uid panel _ _ found _ _ within
    exact within.elim (fun gone => nomatch gone) fun member => absurd member (unknown uid panel found)
  · exact Indexed.agrees_of_distinct (List.nodup_singleton _) (List.nodup_singleton _)
  · exact fun uid panel found member => absurd member (unknown uid panel found)

end Pushed

section Listed
variable {s : LoomStore V} {panels : List AlarmPanelEntity}

theorem stale_panels_mem (uid : String) :
    uid ∈ stalePanels s panels ↔ uid ∈ s.alarmPanels ∧ uid ∉ panels.map panelCatalogue.key := by
  simp [stalePanels,Dict.mem_keys,panelCatalogue]

theorem listed_in_step_iff (sound : Panels s) (inStep : ZonesInStep s) :
    ZonesInStep (attachAlarmPanels s panels) ↔ KeepsZones s (.attachAlarmPanels panels) := by
  rw [zones_in_step_iff] at inStep
  rw [zones_in_step_iff,attach_panels_indexed,Indexed.reload_in_step_iff sound inStep]
  · refine and_congr Iff.rfl ⟨?_,?_⟩
    · intro covers entity listed panel found
      refine (covers entity.uniqueId panel found (List.mem_map.mpr ⟨entity,listed,rfl⟩)).imp id ?_
      rintro ⟨uid,gone,other,found',same⟩
      exact ⟨uid,gone,other,found',same⟩
    · intro covers uid panel found member
      obtain ⟨entity,listed,rfl⟩ := List.mem_map.mp member
      refine (covers entity listed panel found).imp id ?_
      rintro ⟨uid,gone,other,found',same⟩
      exact ⟨uid,gone,other,found',same⟩
  · intro uid _ uid' other _ found' _ _
    by_cases listed : uid' ∈ panels.map panelCatalogue.key
    · exact .inr listed
    · exact .inl ((stale_panels_mem uid').mpr ⟨Dict.mem_of_get? found',listed⟩)

end Listed

def panelMaps (s : LoomStore V) : Dict String Model.AlarmPanel × Dict String Model.AlarmPanel :=
  (s.alarmPanels,s.alarmPanelByZone)

def Resolves (s t : LoomStore V) (guard : Prop) : Prop := Panels t ∧ (ZonesInStep s → (ZonesInStep t ↔ guard))

theorem resolves_of_same {s t : LoomStore V} (counter : s.nextOid ≤ t.nextOid) (panels : Panels s)
    (same : panelMaps t = panelMaps s) : Resolves s t True := by
  obtain ⟨entries,index⟩ := Prod.mk.inj same
  refine ⟨Indexed.Sound.of_entries panels entries counter,fun inStep => iff_of_true ?_ trivial⟩
  unfold ZonesInStep PanelOf getAlarmPanelByZone
  rw [entries,index]
  exact inStep

theorem panel_changed_resolves (s : LoomStore V) (payload : AlarmPanelChangedPayload) (panels : Panels s) :
    Resolves s (applyAlarmPanelChanged s payload) (KeepsZones s (.push (.alarmPanelChanged payload))) := by
  unfold applyAlarmPanelChanged KeepsZones
  by_cases removed : payload.removed = true
  · rw [if_pos removed]
    refine ⟨?_,fun inStep => (dropped_in_step_iff payload.uniqueId inStep).trans ⟨fun alone _ => alone,fun alone => alone removed⟩⟩
    unfold Panels
    rw [drop_panel_indexed]
    exact Indexed.withdraw_sound _ panels
  · rw [if_neg removed]
    have vacuous : ∀ {p : Prop}, payload.removed = true → p := fun gone => absurd gone removed
    split
    · obtain ⟨sound,kept⟩ := known_panel_kept payload panels
      exact ⟨sound,fun inStep => iff_of_true (kept inStep) vacuous⟩
    · rename_i fresh
      obtain ⟨sound,kept⟩ := new_panel_kept (panelStub payload) fresh panels
      exact ⟨sound,fun inStep => iff_of_true (kept inStep) vacuous⟩

theorem operation_resolves (s : LoomStore V) (op : Operation V) (panels : Panels s) :
    Resolves s (apply s op) (KeepsZones s op) := by
  have same := resolves_of_same (operation_counter s op) panels
  have outside := fun other => same (unchanged (operation_elsewhere s op other) panelMaps fun _ => rfl)
  cases op with
  | attachAlarmPanels entities =>
    refine ⟨?_,listed_in_step_iff panels⟩
    change Panels (attachAlarmPanels s entities)
    unfold Panels
    rw [attach_panels_indexed]
    exact Indexed.reload_sound panels
  | attachCustomDataPoints address cdps => exact same (unchanged (attach_customs_beside s address cdps) panelMaps fun _ => rfl)
  | settleCustomDataPoint key generation state =>
    exact same (unchanged (settle_custom_beside s key generation state) panelMaps fun _ => rfl)
  | push push =>
    cases push with
    | alarmPanelChanged payload => exact panel_changed_resolves s payload panels
    | customStateChanged payload => exact same (unchanged (mutate_cdp_beside s _ _) panelMaps fun _ => rfl)
    | deviceRemoved payload => exact same (unchanged (removed_beside s payload) panelMaps fun _ => rfl)
    | _ => exact outside rfl
  | _ => exact outside rfl

theorem zones_in_step_iff_kept (maxDevices : Nat) (centralName serialSuffix : String)
    (calculatedFactory programFactory : Bool) (ops : List (Operation V)) :
    let s : LoomStore V := constructed maxDevices centralName serialSuffix calculatedFactory programFactory
    Always perform ZonesInStep s ops ↔ Every perform (fun s op _ => KeepsZones s op) s ops := by
  intro s
  have panels : Panels s := by
    refine ⟨?_,?_,?_⟩
    · exact fun _ _ found => nomatch found
    · exact fun _ _ found => nomatch found
    · exact fun _ _ _ _ found => nomatch found
  refine always_iff_every_within Panels ?_ ?_ panels ?_
  · intro s op t panels moved
    cases moved
    exact (operation_resolves s op panels).1
  · intro s op t panels inStep moved
    cases moved
    exact (operation_resolves s op panels).2 inStep
  · intro zoneId
    refine ⟨⟨?_,?_⟩,?_⟩
    · exact fun resolved => nomatch resolved
    · rintro ⟨_,_,found,_⟩
      cases found
    · exact fun _ found => nomatch found

-- The new panel is pushed before the old one is removed.
theorem replaced_panel_unresolved :
    let s : LoomStore Nat := constructed 8 "ccu" "S" true true
    let pushed := fun uid removed => Push.alarmPanelChanged ⟨uid,"z1","Ground floor","disarmed",true,false,false,removed⟩
    ¬ Always perform ZonesInStep s [.push (pushed "old" false),.push (pushed "new" false),.push (pushed "old" true)] := by
  intro s pushed always
  have last := run_always always (run_total apply s _)
  have resolved := (last "z1").1.mpr ⟨⟨1,panelStub ⟨"new","z1","Ground floor","disarmed",true,false,false,false⟩⟩,"new",
    by decide +kernel,rfl⟩
  exact absurd resolved (by decide +kernel)

end LoomClient.Store
