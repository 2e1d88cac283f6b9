import LoomClient.Store.Records
import LoomClient.Lib.Slots

namespace LoomClient.Store
open Lib Wire

-- A panel is one object under its unique id and in the zone index.
structure PanelDetail where
  mode : Option String
  bypassed : List String
  countdown : Countdown
  readiness : Dict String AlarmModeReadiness
  walktestActive : Bool
  lastIncident : Option (Int × String × Option String)
  triggeredMotionCount : Nat
  deriving DecidableEq

structure LivePanel where
  summary : AlarmPanelEntity
  detail : PanelDetail
  deriving DecidableEq

structure AlarmSection where
  objects : Dict Model.Oid LivePanel
  panels : Dict String Model.Oid
  byZone : Dict String Model.Oid
  healthy : Bool
  nextOid : Model.Oid
  deriving DecidableEq

def AlarmSection.empty : AlarmSection := ⟨.empty,.empty,.empty,true,0⟩

namespace PanelDetail

def unread : PanelDetail := ⟨none,[],⟨none,none,none⟩,.empty,false,none,0⟩

def clearCountdown (d : PanelDetail) : PanelDetail := {d with countdown := ⟨none,none,none⟩}
def setMode (d : PanelDetail) (mode : Option String) : PanelDetail := {d with mode}
def setCountdown (d : PanelDetail) (kind : String) (remainingS totalS : Int) : PanelDetail :=
  {d with countdown := ⟨some kind,some remainingS,some totalS⟩}
def setReadiness (d : PanelDetail) (readiness : Dict String AlarmModeReadiness) : PanelDetail := {d with readiness}
def setTriggeredMotionCount (d : PanelDetail) (count : Nat) : PanelDetail := {d with triggeredMotionCount := count}
def recordIncident (d : PanelDetail) (id : Int) (cause : String) (sensorName : Option String) : PanelDetail :=
  {d with lastIncident := some (id,cause,sensorName)}

def replaceStatus (d : PanelDetail) (status : AlarmZoneStatus) : PanelDetail :=
  {d with
    mode := status.mode
    bypassed := status.bypassed.getD []
    countdown := status.countdown.getD ⟨none,none,none⟩
    readiness := status.readiness.getD .empty
    walktestActive := status.walktestActive}

end PanelDetail

namespace LivePanel

def build (summary : AlarmPanelEntity) : LivePanel := ⟨summary,.unread⟩
def isMaster (p : LivePanel) : Bool := p.summary.master.getD false
def replaceSummary (p : LivePanel) (summary : AlarmPanelEntity) : LivePanel := {p with summary}
def mapDetail (f : PanelDetail → PanelDetail) (p : LivePanel) : LivePanel := {p with detail := f p.detail}

end LivePanel

namespace AlarmSection
variable (a : AlarmSection)

def panelAt (uniqueId : String) : Option LivePanel := (a.panels.get? uniqueId).bind a.objects.get?
def panelByZone (zoneId : String) : Option LivePanel := (a.byZone.get? zoneId).bind a.objects.get?

def onPanel (oid : Model.Oid) (f : LivePanel → LivePanel) : AlarmSection := {a with objects := a.objects.modify oid f}

def onZone (zoneId : String) (f : PanelDetail → PanelDetail) : AlarmSection :=
  match a.byZone.get? zoneId with
  | none => a
  | some oid => a.onPanel oid (.mapDetail f)

def register (summary : AlarmPanelEntity) : AlarmSection :=
  {a with
    objects := a.objects.set a.nextOid (.build summary)
    panels := a.panels.set summary.uniqueId a.nextOid
    byZone := a.byZone.set summary.zoneId a.nextOid
    nextOid := a.nextOid + 1}

-- The zone that leaves the index is the one the panel shows at that moment.
def drop (uniqueId : String) : AlarmSection :=
  match a.panels.get? uniqueId with
  | none => a
  | some oid => {a with
      panels := a.panels.erase uniqueId
      byZone := match a.objects.get? oid with
        | none => a.byZone
        | some panel => a.byZone.erase panel.summary.zoneId}

def attachPanel (entity : AlarmPanelEntity) : AlarmSection :=
  match a.panels.get? entity.uniqueId with
  | none => a.register entity
  | some oid =>
    let t := a.onPanel oid (·.replaceSummary entity)
    {t with byZone := t.byZone.set entity.zoneId oid}

def stalePanels (panels : List AlarmPanelEntity) : List String :=
  a.panels.keys.filter fun uid => ¬ uid ∈ panels.map (·.uniqueId)

def attachAlarmPanels (panels : List AlarmPanelEntity) : AlarmSection :=
  panels.foldl attachPanel ((a.stalePanels panels).foldl drop a)

def attachZoneStatus (status : AlarmZoneStatus) : AlarmSection := a.onZone status.id (·.replaceStatus status)

def attachAlarmZoneStatuses (statuses : List AlarmZoneStatus) : AlarmSection := statuses.foldl attachZoneStatus a

-- The master panel counts every latched detector, the others those of their zone.
def triggeredMotion (sensors : List AlarmTriggeredMotionSensor) (panel : LivePanel) : Nat :=
  if panel.isMaster then sensors.length else (sensors.filter fun s => s.zoneId = panel.summary.zoneId).length

def applyTriggeredMotion (sensors : List AlarmTriggeredMotionSensor) : AlarmSection :=
  {a with objects := a.objects.mapWithKey fun oid panel =>
    if oid ∈ a.panels.values then panel.mapDetail (·.setTriggeredMotionCount (triggeredMotion sensors panel)) else panel}

def changedSummary (payload : AlarmPanelChangedPayload) (summary : AlarmPanelEntity) : AlarmPanelEntity :=
  {summary with
    name := payload.name
    state := payload.state
    available := payload.available
    codeArmRequired := payload.codeArmRequired
    codeDisarmRequired := payload.codeDisarmRequired}

def applyPanelChanged (payload : AlarmPanelChangedPayload) : AlarmSection :=
  if payload.removed then a.drop payload.uniqueId
  else match a.panels.get? payload.uniqueId with
    | none => a.register (panelStub payload)
    | some oid => a.onPanel oid fun p => p.replaceSummary (changedSummary payload p.summary)

-- A countdown survives the arming and pending phases only.
def keepsCountdown (newState : String) : Bool := newState = "arming" || newState = "pending"

def applyStateChanged (payload : AlarmStateChangedPayload) : AlarmSection :=
  a.onZone payload.zoneId fun d =>
    if keepsCountdown payload.newState then d.setMode payload.mode else (d.setMode payload.mode).clearCountdown

def applyCountdown (payload : AlarmCountdownPayload) : AlarmSection :=
  a.onZone payload.zoneId (·.setCountdown payload.kind payload.remainingS payload.totalS)

def applyReadinessChanged (payload : AlarmReadinessChangedPayload) : AlarmSection :=
  a.onZone payload.zoneId (·.setReadiness payload.readiness)

def applyTriggered (payload : AlarmTriggeredPayload) : AlarmSection :=
  a.onZone payload.zoneId (·.recordIncident payload.incidentId payload.cause payload.sensorName)

def applyHealthChanged (payload : AlarmHealthChangedPayload) : AlarmSection := {a with healthy := payload.healthy}

end AlarmSection

inductive AlarmPush where
  | panelChanged (payload : AlarmPanelChangedPayload)
  | stateChanged (payload : AlarmStateChangedPayload)
  | countdown (payload : AlarmCountdownPayload)
  | readinessChanged (payload : AlarmReadinessChangedPayload)
  | triggered (payload : AlarmTriggeredPayload)
  | healthChanged (payload : AlarmHealthChangedPayload)
  deriving DecidableEq

def AlarmSection.applyPush (a : AlarmSection) : AlarmPush → AlarmSection
  | .panelChanged payload => a.applyPanelChanged payload
  | .stateChanged payload => a.applyStateChanged payload
  | .countdown payload => a.applyCountdown payload
  | .readinessChanged payload => a.applyReadinessChanged payload
  | .triggered payload => a.applyTriggered payload
  | .healthChanged payload => a.applyHealthChanged payload

namespace AlarmSection

-- Every registered panel is an object, and no two unique ids share one.
structure Sound (a : AlarmSection) : Prop where
  known : ∀ uid oid, a.panels.get? uid = some oid → oid ∈ a.objects
  apart : ∀ uid other oid, a.panels.get? uid = some oid → a.panels.get? other = some oid → uid = other
  below : ∀ oid ∈ a.objects, oid < a.nextOid

theorem empty_sound : Sound .empty := ⟨nofun,nofun,nofun⟩

section Soundness
variable {a : AlarmSection}

theorem sound_of_keys {b : AlarmSection} (sound : Sound a) (panels : b.panels = a.panels)
    (objects : ∀ oid, oid ∈ b.objects ↔ oid ∈ a.objects) (next : b.nextOid = a.nextOid) : Sound b := by
  refine ⟨?_,?_,?_⟩
  · intro uid oid found
    exact (objects oid).mpr (sound.known uid oid (panels ▸ found))
  · intro uid other oid first second
    exact sound.apart uid other oid (panels ▸ first) (panels ▸ second)
  · intro oid member
    exact next ▸ sound.below oid ((objects oid).mp member)

theorem on_panel_sound (sound : Sound a) (oid : Model.Oid) (f : LivePanel → LivePanel) : Sound (a.onPanel oid f) :=
  sound_of_keys sound rfl (fun _ => Dict.mem_modify) rfl

theorem on_zone_sound (sound : Sound a) (zoneId : String) (f : PanelDetail → PanelDetail) : Sound (a.onZone zoneId f) := by
  unfold onZone
  split
  · exact sound
  · exact on_panel_sound sound _ _

theorem register_sound (sound : Sound a) (summary : AlarmPanelEntity) : Sound (a.register summary) := by
  refine ⟨?_,?_,?_⟩
  · intro uid oid found
    simp only [register,Dict.get?_set] at found
    refine Dict.mem_set.mpr ?_
    split at found
    · exact .inl (Option.some.inj found).symm
    · exact .inr (sound.known uid oid found)
  · intro uid other oid first second
    have fresh : ∀ v, a.panels.get? v ≠ some a.nextOid := fun v found =>
      Nat.lt_irrefl _ (sound.below _ (sound.known v _ found))
    simp only [register,Dict.get?_set] at first second
    split at first <;> split at second
    · rename_i here there
      exact here.trans there.symm
    · exact absurd (Option.some.inj first ▸ second) (fresh other)
    · exact absurd (Option.some.inj second ▸ first) (fresh uid)
    · exact sound.apart uid other oid first second
  · intro oid member
    rcases Dict.mem_set.mp member with rfl | old
    · exact Nat.lt_succ_self _
    · exact Nat.lt_succ_of_lt (sound.below oid old)

theorem drop_parts (a : AlarmSection) (uniqueId : String) :
    (a.drop uniqueId).objects = a.objects ∧ (a.drop uniqueId).nextOid = a.nextOid ∧
      ∀ uid, (a.drop uniqueId).panels.get? uid = if uid = uniqueId then none else a.panels.get? uid := by
  unfold drop
  split
  · rename_i missing
    refine ⟨rfl,rfl,fun uid => ?_⟩
    split
    · rename_i same
      exact same ▸ missing
    · rfl
  · exact ⟨rfl,rfl,fun uid => Dict.get?_erase _ _ _⟩

theorem drop_sound (sound : Sound a) (uniqueId : String) : Sound (a.drop uniqueId) := by
  obtain ⟨objects,next,panels⟩ := drop_parts a uniqueId
  have kept : ∀ uid oid, (a.drop uniqueId).panels.get? uid = some oid → a.panels.get? uid = some oid := by
    intro uid oid found
    rw [panels] at found
    split at found
    · cases found
    · exact found
  refine ⟨?_,?_,?_⟩
  · intro uid oid found
    exact objects ▸ sound.known uid oid (kept uid oid found)
  · intro uid other oid first second
    exact sound.apart uid other oid (kept _ _ first) (kept _ _ second)
  · intro oid member
    exact next ▸ sound.below oid (objects ▸ member)

theorem attach_panel_sound (sound : Sound a) (entity : AlarmPanelEntity) : Sound (a.attachPanel entity) := by
  unfold attachPanel
  split
  · exact register_sound sound entity
  · exact sound_of_keys (on_panel_sound sound _ _) rfl (fun _ => Iff.rfl) rfl

theorem attach_panels_sound (sound : Sound a) (panels : List AlarmPanelEntity) : Sound (a.attachAlarmPanels panels) := by
  have dropped : Sound ((a.stalePanels panels).foldl drop a) :=
    List.foldlRecOn _ _ sound fun b held uid _ => drop_sound held uid
  exact List.foldlRecOn panels _ dropped fun b held entity _ => attach_panel_sound held entity

theorem zone_statuses_sound (sound : Sound a) (statuses : List AlarmZoneStatus) :
    Sound (a.attachAlarmZoneStatuses statuses) :=
  List.foldlRecOn statuses _ sound fun _ held status _ => on_zone_sound held status.id _

theorem triggered_motion_sound (sound : Sound a) (sensors : List AlarmTriggeredMotionSensor) :
    Sound (a.applyTriggeredMotion sensors) :=
  sound_of_keys sound rfl (fun _ => Dict.mem_mapWithKey) rfl

theorem push_sound (sound : Sound a) (push : AlarmPush) : Sound (a.applyPush push) := by
  cases push with
  | panelChanged payload =>
    simp only [applyPush,applyPanelChanged]
    split
    · exact drop_sound sound _
    · split
      · exact register_sound sound _
      · exact on_panel_sound sound _ _
  | stateChanged payload => exact on_zone_sound sound _ _
  | countdown payload => exact on_zone_sound sound _ _
  | readinessChanged payload => exact on_zone_sound sound _ _
  | triggered payload => exact on_zone_sound sound _ _
  | healthChanged payload => exact sound_of_keys sound rfl (fun _ => Iff.rfl) rfl

end Soundness

def summaryAt (a : AlarmSection) (uniqueId : String) : Option AlarmPanelEntity := (a.panelAt uniqueId).map (·.summary)
def detailAt (a : AlarmSection) (oid : Model.Oid) : Option PanelDetail := (a.objects.get? oid).map (·.detail)

section Reads
variable {a : AlarmSection}

theorem attach_panel_summary (sound : Sound a) (entity : AlarmPanelEntity) (uid : String) :
    summaryAt (a.attachPanel entity) uid = (written (·.uniqueId) uid entity).or (summaryAt a uid) := by
  unfold attachPanel
  cases found : a.panels.get? entity.uniqueId with
  | none =>
    by_cases same : entity.uniqueId = uid
    · simp [written_same same,summaryAt,panelAt,register,Dict.get?_set,same,LivePanel.build]
    · have beside : ∀ oid, a.panels.get? uid = some oid → oid ≠ a.nextOid := fun oid there =>
        Nat.ne_of_lt (sound.below oid (sound.known uid oid there))
      cases there : a.panels.get? uid with
      | none => simp [written_other same,summaryAt,panelAt,register,Dict.get?_set,Ne.symm same,there]
      | some oid =>
        simp [written_other same,summaryAt,panelAt,register,Dict.get?_set,Ne.symm same,there,beside oid there]
  | some oid =>
    by_cases same : entity.uniqueId = uid
    · obtain ⟨panel,stored⟩ := Dict.mem_iff_get?.mp (sound.known _ oid found)
      rw [same] at found
      simp [written_same same,summaryAt,panelAt,onPanel,found,Dict.get?_modify,stored,LivePanel.replaceSummary]
    · cases there : a.panels.get? uid with
      | none => simp [written_other same,summaryAt,panelAt,onPanel,there]
      | some other =>
        have apart : other ≠ oid := fun equal => same (sound.apart _ _ oid found (equal ▸ there))
        simp [written_other same,summaryAt,panelAt,onPanel,there,Dict.get?_modify,apart]

theorem drops_summary (uids : List String) (uid : String) :
    summaryAt (uids.foldl drop a) uid = if uid ∈ uids then none else summaryAt a uid := by
  induction uids generalizing a with
  | nil => simp
  | cons first rest ih =>
    obtain ⟨objects,_,panels⟩ := drop_parts a first
    have one : summaryAt (a.drop first) uid = if uid = first then none else summaryAt a uid := by
      simp only [summaryAt,panelAt,objects,panels]
      split <;> rfl
    rw [List.foldl_cons,ih,one]
    by_cases same : uid = first <;> by_cases later : uid ∈ rest <;> simp [same,later]

-- The catalogue is authoritative: a panel is there as its last entry says, or not.
theorem attach_panels_summary (sound : Sound a) (panels : List AlarmPanelEntity) (uid : String) :
    summaryAt (a.attachAlarmPanels panels) uid = lastWritten (·.uniqueId) uid panels := by
  let dropped := (a.stalePanels panels).foldl drop a
  have held : Sound dropped := List.foldlRecOn _ _ sound fun b held uid _ => drop_sound held uid
  have filled : summaryAt (panels.foldl attachPanel dropped) uid =
      (lastWritten (·.uniqueId) uid panels).or (summaryAt dropped uid) :=
    foldl_last_of attachPanel Sound (summaryAt · uid) _ panels (fun b e _ sound => attach_panel_sound sound e)
      (fun b e _ sound => attach_panel_summary sound e uid) dropped held
  refine filled.trans ?_
  cases listed : lastWritten (·.uniqueId) uid panels with
  | some e => rfl
  | none =>
    have unlisted : ¬ uid ∈ panels.map (·.uniqueId) := by
      intro member
      obtain ⟨e,there,same⟩ := List.mem_map.mp member
      obtain ⟨r,found⟩ := last_written_some (·.uniqueId) ⟨e,there,same⟩
      rw [listed] at found
      cases found
    have gone : summaryAt dropped uid = if uid ∈ a.stalePanels panels then none else summaryAt a uid :=
      drops_summary _ uid
    rw [Option.none_or,gone]
    split
    · rfl
    · rename_i kept
      have absent : uid ∉ a.panels := fun known =>
        kept (List.mem_filter.mpr ⟨known,decide_eq_true unlisted⟩)
      simp [summaryAt,panelAt,Dict.get?_eq_none.mpr absent]

theorem attach_panel_detail (sound : Sound a) (entity : AlarmPanelEntity) (known : oid ∈ a.objects) :
    oid ∈ (a.attachPanel entity).objects ∧ detailAt (a.attachPanel entity) oid = detailAt a oid := by
  unfold attachPanel
  split
  · have other : oid ≠ a.nextOid := Nat.ne_of_lt (sound.below oid known)
    exact ⟨Dict.mem_set.mpr (.inr known),by simp [detailAt,register,Dict.get?_set,other]⟩
  · refine ⟨Dict.mem_modify.mpr known,Dict.read_modify ?_ oid⟩
    exact fun _ _ => rfl

theorem attach_panels_detail (sound : Sound a) (panels : List AlarmPanelEntity) (known : oid ∈ a.objects) :
    detailAt (a.attachAlarmPanels panels) oid = detailAt a oid := by
  let dropped := (a.stalePanels panels).foldl drop a
  have objects : dropped.objects = a.objects := foldl_frame drop objects (fun b uid => (drop_parts b uid).1) a _
  have held : Sound dropped := List.foldlRecOn _ _ sound fun b held uid _ => drop_sound held uid
  have start : detailAt dropped oid = detailAt a oid := by simp only [detailAt,objects]
  have carried : ∀ b : AlarmSection, Sound b ∧ oid ∈ b.objects ∧ detailAt b oid = detailAt a oid →
      ∀ e, Sound (b.attachPanel e) ∧ oid ∈ (b.attachPanel e).objects ∧ detailAt (b.attachPanel e) oid = detailAt a oid := by
    rintro b ⟨sound,known,same⟩ e
    obtain ⟨still,kept⟩ := attach_panel_detail sound e known
    exact ⟨attach_panel_sound sound e,still,kept.trans same⟩
  have first : Sound dropped ∧ oid ∈ dropped.objects ∧ detailAt dropped oid = detailAt a oid :=
    ⟨held,objects ▸ known,start⟩
  exact (List.foldlRecOn (motive := fun b => Sound b ∧ oid ∈ b.objects ∧ detailAt b oid = detailAt a oid) panels
    attachPanel first fun b all e _ => carried b all e).2.2

theorem zone_status_detail (status : AlarmZoneStatus) (oid : Model.Oid) :
    (a.attachZoneStatus status).panels = a.panels ∧ (a.attachZoneStatus status).byZone = a.byZone ∧
      (a.attachZoneStatus status).objects.get? oid = (a.objects.get? oid).map fun p =>
        if a.byZone.get? status.id = some oid then p.mapDetail (·.replaceStatus status) else p := by
  unfold attachZoneStatus onZone
  cases found : a.byZone.get? status.id with
  | none => simp
  | some other =>
    refine ⟨rfl,rfl,?_⟩
    simp only [onPanel,Dict.get?_modify,Option.some.injEq]
    by_cases same : oid = other
    · simp [same]
    · simp [same,Ne.symm same]

theorem triggered_motion_object (sensors : List AlarmTriggeredMotionSensor) (oid : Model.Oid) :
    (a.applyTriggeredMotion sensors).objects.get? oid = (a.objects.get? oid).map fun p =>
      if oid ∈ a.panels.values then p.mapDetail (·.setTriggeredMotionCount (triggeredMotion sensors p)) else p := by
  simp only [applyTriggeredMotion,Dict.get?_mapWithKey]

end Reads
end AlarmSection
end LoomClient.Store
