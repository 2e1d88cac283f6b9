import LoomClient.Lib.Race
import LoomClient.Store.AlarmSection

namespace LoomClient.Client
open Lib Wire Store

-- A bootstrap against a daemon that advertises no alarm subsystem reads nothing; `none` is a
-- transport without the advertisement.
inductive AlarmCall where
  | bootstrapAlarmPanels (advertised : Option Bool)
  | refreshTriggeredMotion
  deriving DecidableEq, Repr

inductive AlarmRead where
  | panels | zoneStatuses | triggeredMotion
  deriving DecidableEq, Repr

inductive AlarmAnswer where
  | panels (panels : List AlarmPanelEntity)
  | zoneStatuses (statuses : List AlarmZoneStatus)
  | triggeredMotion (sensors : List AlarmTriggeredMotionSensor)
  | notFound
  | failed
  deriving DecidableEq

-- `countedBy` tells which read the latched count of an object came from. The code
-- does not keep it.
structure AlarmMirror where
  alarm : AlarmSection
  countedBy : Dict Model.Oid Nat
  deriving DecidableEq

abbrev AlarmOutcome := Outcome AlarmMirror AlarmPush AlarmRead

def AlarmCall.reads : AlarmCall → List AlarmRead
  | .bootstrapAlarmPanels advertised => if advertised = some false then [] else [.panels]
  | .refreshTriggeredMotion => [.triggeredMotion]

def settleAlarm (m : AlarmMirror) (read : Nat) : AlarmRead → Dating → AlarmAnswer → Option AlarmOutcome
  | .panels,_,.panels panels =>
    some ⟨{m with alarm := m.alarm.attachAlarmPanels panels},if panels = [] then [] else [.zoneStatuses],[]⟩
  | .zoneStatuses,_,.zoneStatuses statuses =>
    some ⟨{m with alarm := m.alarm.attachAlarmZoneStatuses statuses},[.triggeredMotion],[]⟩
  | .triggeredMotion,_,.triggeredMotion sensors =>
    some ⟨⟨m.alarm.applyTriggeredMotion sensors,
      m.alarm.panels.values.foldl (fun counted oid => counted.set oid read) m.countedBy⟩,[],[]⟩
  -- A missing route ends the call quietly or, past the first read, as a failure does.
  | _,_,.notFound => some ⟨m,[],[]⟩
  | _,_,.failed => some ⟨m,[],[]⟩
  | _,_,_ => none

def alarmReads : Handlers AlarmMirror AlarmCall AlarmPush AlarmRead AlarmAnswer where
  call m call := some ⟨m,call.reads,[]⟩
  push m push := some ⟨{m with alarm := m.alarm.applyPush push},[],[push]⟩
  settle := settleAlarm

structure Reading where
  mode : Option (Option String)
  countdown : Option Countdown
  readiness : Option (Dict String AlarmModeReadiness)
  deriving DecidableEq

def reading (push : AlarmPush) (d : PanelDetail) : Reading :=
  match push with
  | .stateChanged payload =>
    ⟨some d.mode,if AlarmSection.keepsCountdown payload.newState then none else some d.countdown,none⟩
  | .countdown _ => ⟨none,some d.countdown,none⟩
  | .readinessChanged _ => ⟨none,none,some d.readiness⟩
  | _ => ⟨none,none,none⟩

def pushedZone : AlarmPush → Option String
  | .stateChanged payload => some payload.zoneId
  | .countdown payload => some payload.zoneId
  | .readinessChanged payload => some payload.zoneId
  | _ => none

def shownState (p : LivePanel) : String × Bool := (p.summary.state,p.summary.available)

-- A removed panel is gone, and the fields of any other stand as pushed.
def keepsPush (a b : AlarmSection) (push : AlarmPush) : Prop :=
  (match push with
    | .panelChanged payload =>
      if payload.removed then a.panelAt payload.uniqueId = none → b.panelAt payload.uniqueId = none
      else ∀ panel ∈ a.panelAt payload.uniqueId, (b.panelAt payload.uniqueId).map shownState = some (shownState panel)
    | _ => True) ∧
  ∀ zone ∈ pushedZone push, ∀ oid ∈ a.byZone.get? zone, ∀ panel ∈ a.objects.get? oid,
    (b.objects.get? oid).map (reading push ·.detail) = some (reading push panel.detail)

def countAt (a : AlarmSection) (oid : Model.Oid) : Option Nat :=
  (a.objects.get? oid).map (·.detail.triggeredMotionCount)

def keepsLaterCounts (read : Nat) (m t : AlarmMirror) : Prop :=
  ∀ e ∈ m.countedBy.entries, read < e.2 → ∀ count ∈ countAt m.alarm e.1, countAt t.alarm e.1 = some count

def keepsAlarm (read : Nat) (_ : AlarmRead) (dating : Dating) (applied : List AlarmPush) (m t : AlarmMirror) : Prop :=
  (∀ push ∈ dating.newer applied, keepsPush m.alarm t.alarm push) ∧ keepsLaterCounts read m t

instance (a b : AlarmSection) (push : AlarmPush) : Decidable (keepsPush a b push) := by
  cases push <;> unfold keepsPush <;> infer_instance

instance (read : Nat) (r : AlarmRead) (dating : Dating) (applied : List AlarmPush) (m t : AlarmMirror) :
    Decidable (keepsAlarm read r dating applied m t) := by unfold keepsAlarm keepsLaterCounts; infer_instance

def agreesPanels (a : AlarmSection) (panels : List AlarmPanelEntity) : AlarmPush → Prop
  | .panelChanged payload =>
    if payload.removed then a.panelAt payload.uniqueId = none → ¬ payload.uniqueId ∈ panels.map (·.uniqueId)
    else ∀ panel ∈ a.panelAt payload.uniqueId,
      (lastWritten (·.uniqueId) payload.uniqueId panels).map (fun e => (e.state,e.available)) = some (shownState panel)
  | _ => True

def statusOf (a : AlarmSection) (oid : Model.Oid) (statuses : List AlarmZoneStatus) : Option AlarmZoneStatus :=
  statuses.reverse.find? fun status => a.byZone.get? status.id = some oid

def agreesStatuses (a : AlarmSection) (statuses : List AlarmZoneStatus) (push : AlarmPush) : Prop :=
  ∀ zone ∈ pushedZone push, ∀ oid ∈ a.byZone.get? zone, ∀ panel ∈ a.objects.get? oid,
    ∀ status ∈ statusOf a oid statuses, reading push (panel.detail.replaceStatus status) = reading push panel.detail

def agreesCounts (read : Nat) (m : AlarmMirror) (sensors : List AlarmTriggeredMotionSensor) : Prop :=
  ∀ e ∈ m.countedBy.entries, read < e.2 → e.1 ∈ m.alarm.panels.values → ∀ panel ∈ m.alarm.objects.get? e.1,
    AlarmSection.triggeredMotion sensors panel = panel.detail.triggeredMotionCount

def agreesAlarm (read : Nat) (_ : AlarmRead) (dating : Dating) (applied : List AlarmPush) (m : AlarmMirror) :
    AlarmAnswer → Prop
  | .panels panels => ∀ push ∈ dating.newer applied, agreesPanels m.alarm panels push
  | .zoneStatuses statuses => ∀ push ∈ dating.newer applied, agreesStatuses m.alarm statuses push
  | .triggeredMotion sensors => agreesCounts read m sensors
  | _ => True

section Summaries
variable {a b : AlarmSection}
open AlarmSection

theorem panel_none : a.panelAt uid = none ↔ a.summaryAt uid = none := by
  rw [summaryAt,Option.map_eq_none_iff]

theorem panel_state (a : AlarmSection) (uid : String) :
    (a.panelAt uid).map shownState = (a.summaryAt uid).map fun e => (e.state,e.available) := by
  rw [summaryAt,Option.map_map]
  rfl

theorem panel_push_kept (same : ∀ uid, b.summaryAt uid = a.summaryAt uid) (payload : AlarmPanelChangedPayload) :
    if payload.removed then a.panelAt payload.uniqueId = none → b.panelAt payload.uniqueId = none
    else ∀ panel ∈ a.panelAt payload.uniqueId, (b.panelAt payload.uniqueId).map shownState = some (shownState panel) := by
  split
  · rw [panel_none,panel_none,same]
    exact id
  · intro panel found
    rw [panel_state,same,←panel_state,Option.mem_def.mp found,Option.map_some]

theorem zone_push_kept (push : AlarmPush)
    (same : ∀ oid, oid ∈ a.objects → (b.objects.get? oid).map (reading push ·.detail) =
      (a.objects.get? oid).map (reading push ·.detail)) :
    ∀ zone ∈ pushedZone push, ∀ oid ∈ a.byZone.get? zone, ∀ panel ∈ a.objects.get? oid,
      (b.objects.get? oid).map (reading push ·.detail) = some (reading push panel.detail) := by
  intro zone _ oid _ panel found
  rw [same oid (Dict.mem_of_get? found),Option.mem_def.mp found,Option.map_some]

theorem same_detail_reading (same : b.detailAt oid = a.detailAt oid) (push : AlarmPush) :
    (b.objects.get? oid).map (reading push ·.detail) = (a.objects.get? oid).map (reading push ·.detail) := by
  have through : ∀ c : AlarmSection, (c.objects.get? oid).map (reading push ·.detail) =
      (c.detailAt oid).map (reading push) := fun c => by rw [detailAt,Option.map_map]; rfl
  rw [through,through,same]

theorem same_detail_count (same : b.detailAt oid = a.detailAt oid) : countAt b oid = countAt a oid := by
  have through : ∀ c : AlarmSection, countAt c oid = (c.detailAt oid).map (·.triggeredMotionCount) :=
    fun c => by rw [countAt,detailAt,Option.map_map]; rfl
  rw [through,through,same]

end Summaries

theorem panels_kept_iff (m : AlarmMirror) (sound : m.alarm.Sound) (read : Nat) (dating : Dating) (applied : List AlarmPush)
    (panels : List AlarmPanelEntity) :
    keepsAlarm read .panels dating applied m {m with alarm := m.alarm.attachAlarmPanels panels} ↔
      ∀ push ∈ dating.newer applied, agreesPanels m.alarm panels push := by
  have record := AlarmSection.attach_panels_summary sound panels
  have detail : ∀ oid, oid ∈ m.alarm.objects → (m.alarm.attachAlarmPanels panels).detailAt oid = m.alarm.detailAt oid :=
    fun oid known => AlarmSection.attach_panels_detail sound panels known
  have counts : keepsLaterCounts read m {m with alarm := m.alarm.attachAlarmPanels panels} := by
    intro e _ _ count found
    obtain ⟨panel,there,_⟩ := Option.map_eq_some_iff.mp found
    exact (same_detail_count (detail e.1 (Dict.mem_of_get? there))).trans found
  have each : ∀ push, keepsPush m.alarm (m.alarm.attachAlarmPanels panels) push ↔ agreesPanels m.alarm panels push := by
    intro push
    have zones := zone_push_kept push fun oid known => same_detail_reading (detail oid known) push
    unfold keepsPush
    rw [and_iff_left zones]
    cases push with
    | panelChanged payload =>
      simp only [agreesPanels]
      split
      · rw [panel_none (a := m.alarm.attachAlarmPanels panels),record]
        refine imp_congr_right fun _ => ⟨?_,?_⟩
        · intro none_listed member
          obtain ⟨e,there,same⟩ := List.mem_map.mp member
          obtain ⟨r,found⟩ := last_written_some (·.uniqueId) ⟨e,there,same⟩
          rw [none_listed] at found
          cases found
        · intro unlisted
          exact last_written_none _ _ _ fun e there same => unlisted (List.mem_map.mpr ⟨e,there,same⟩)
      · rw [panel_state,record]
    | _ => exact Iff.rfl
  exact (and_iff_left counts).trans (forall_congr' fun push => imp_congr_right fun _ => each push)

section Statuses
variable (a : AlarmSection)

theorem replaced_reading (push : AlarmPush) (d e : PanelDetail) (status : AlarmZoneStatus) :
    reading push (d.replaceStatus status) = reading push (e.replaceStatus status) := by
  cases push <;> rfl

theorem find_some_if {α β : Type} (p : α → Prop) [DecidablePred p] (f : α → β) (items : List α) :
    (items.findSome? fun x => if p x then some (f x) else none) = (items.find? fun x => p x).map f := by
  induction items with
  | nil => rfl
  | cons x rest ih =>
    rw [List.findSome?_cons,List.find?_cons]
    by_cases here : p x <;> simp [here,ih]

theorem statuses_reading (statuses : List AlarmZoneStatus) (push : AlarmPush) (oid : Model.Oid) (panel : LivePanel)
    (found : a.objects.get? oid = some panel) :
    ((a.attachAlarmZoneStatuses statuses).objects.get? oid).map (reading push ·.detail) =
      ((statusOf a oid statuses).map fun status => reading push (panel.detail.replaceStatus status)).or
        (some (reading push panel.detail)) := by
  let writes := fun status : AlarmZoneStatus =>
    if a.byZone.get? status.id = some oid then some (reading push (panel.detail.replaceStatus status)) else none
  have loop := foldl_last_of AlarmSection.attachZoneStatus (fun b => b.byZone = a.byZone ∧ oid ∈ b.objects)
    (fun b => (b.objects.get? oid).map (reading push ·.detail)) writes statuses ?_ ?_ a ⟨rfl,Dict.mem_of_get? found⟩
  · unfold AlarmSection.attachAlarmZoneStatuses
    rw [loop,found,Option.map_some,find_some_if]
    rfl
  · intro b status _ held
    obtain ⟨_,zones,there⟩ := AlarmSection.zone_status_detail (a := b) status oid
    refine ⟨zones.trans held.1,?_⟩
    obtain ⟨old,stored⟩ := Dict.mem_iff_get?.mp held.2
    rw [stored] at there
    exact Dict.mem_of_get? there
  · intro b status _ held
    obtain ⟨_,_,there⟩ := AlarmSection.zone_status_detail (a := b) status oid
    obtain ⟨old,stored⟩ := Dict.mem_iff_get?.mp held.2
    simp only [there,stored,held.1,writes,Option.map_some]
    split
    · exact congrArg some (replaced_reading push old.detail panel.detail status)
    · rfl

theorem statuses_frame (statuses : List AlarmZoneStatus) (oid : Model.Oid) :
    (a.attachAlarmZoneStatuses statuses).panels = a.panels ∧
      ((a.attachAlarmZoneStatuses statuses).objects.get? oid).map (fun p => (p.summary,p.detail.triggeredMotionCount)) =
        (a.objects.get? oid).map (fun p => (p.summary,p.detail.triggeredMotionCount)) := by
  constructor
  · exact foldl_frame AlarmSection.attachZoneStatus AlarmSection.panels
      (fun b status => (AlarmSection.zone_status_detail status 0).1) a statuses
  · refine foldl_frame AlarmSection.attachZoneStatus
      (fun b => (b.objects.get? oid).map fun p => (p.summary,p.detail.triggeredMotionCount)) (fun b status => ?_) a statuses
    rw [(AlarmSection.zone_status_detail status oid).2.2,Option.map_map]
    congr 1
    funext p
    simp only [Function.comp_apply]
    split <;> rfl

theorem statuses_kept_iff (m : AlarmMirror) (read : Nat) (dating : Dating) (applied : List AlarmPush)
    (statuses : List AlarmZoneStatus) :
    keepsAlarm read .zoneStatuses dating applied m {m with alarm := m.alarm.attachAlarmZoneStatuses statuses} ↔
      ∀ push ∈ dating.newer applied, agreesStatuses m.alarm statuses push := by
  have frame := statuses_frame m.alarm statuses
  have record : ∀ uid, (m.alarm.attachAlarmZoneStatuses statuses).summaryAt uid = m.alarm.summaryAt uid := by
    intro uid
    have through : ∀ c : AlarmSection, c.summaryAt uid = (c.panels.get? uid).bind fun oid =>
        ((c.objects.get? oid).map fun p => (p.summary,p.detail.triggeredMotionCount)).map Prod.fst := by
      intro c
      simp only [AlarmSection.summaryAt,AlarmSection.panelAt,Option.map_bind,Option.map_map]
      rfl
    rw [through,through,(frame 0).1]
    congr 1
    funext oid
    rw [(frame oid).2]
  have counts : keepsLaterCounts read m {m with alarm := m.alarm.attachAlarmZoneStatuses statuses} := by
    intro e _ _ count found
    have through : ∀ c : AlarmSection, countAt c e.1 =
        ((c.objects.get? e.1).map fun p => (p.summary,p.detail.triggeredMotionCount)).map Prod.snd := by
      intro c
      rw [Option.map_map]
      rfl
    rw [through,(frame e.1).2,←through]
    exact found
  have each : ∀ push, keepsPush m.alarm (m.alarm.attachAlarmZoneStatuses statuses) push ↔
      agreesStatuses m.alarm statuses push := by
    intro push
    have catalogue : match push with
        | .panelChanged payload =>
          if payload.removed then m.alarm.panelAt payload.uniqueId = none →
            (m.alarm.attachAlarmZoneStatuses statuses).panelAt payload.uniqueId = none
          else ∀ panel ∈ m.alarm.panelAt payload.uniqueId,
            ((m.alarm.attachAlarmZoneStatuses statuses).panelAt payload.uniqueId).map shownState = some (shownState panel)
        | _ => True := by
      cases push with
      | panelChanged payload => exact panel_push_kept record payload
      | _ => trivial
    refine (and_iff_right catalogue).trans (forall₂_congr fun zone _ => forall₂_congr fun oid _ =>
      forall₂_congr fun panel found => ?_)
    rw [statuses_reading m.alarm statuses push oid panel (Option.mem_def.mp found)]
    cases told : statusOf m.alarm oid statuses with
    | none => simp
    | some status => simp
  exact (and_iff_left counts).trans (forall_congr' fun push => imp_congr_right fun _ => each push)

end Statuses

theorem counts_kept_iff (m t : AlarmMirror) (read : Nat) (dating : Dating) (applied : List AlarmPush)
    (sensors : List AlarmTriggeredMotionSensor) (after : t.alarm = m.alarm.applyTriggeredMotion sensors) :
    keepsAlarm read .triggeredMotion dating applied m t ↔ agreesCounts read m sensors := by
  have object := fun oid => AlarmSection.triggered_motion_object (a := m.alarm) sensors oid
  have record : ∀ uid, (m.alarm.applyTriggeredMotion sensors).summaryAt uid = m.alarm.summaryAt uid := by
    intro uid
    simp only [AlarmSection.summaryAt,AlarmSection.panelAt]
    change Option.map _ ((m.alarm.panels.get? uid).bind _) = _
    rw [Option.map_bind,Option.map_bind]
    congr 1
    funext oid
    simp only [Function.comp_apply,object,Option.map_map]
    congr 1
    funext p
    simp only [Function.comp_apply]
    split <;> rfl
  have untouched : ∀ push oid, ((m.alarm.applyTriggeredMotion sensors).objects.get? oid).map (reading push ·.detail) =
      (m.alarm.objects.get? oid).map (reading push ·.detail) := by
    intro push oid
    rw [object,Option.map_map]
    congr 1
    funext p
    simp only [Function.comp_apply]
    split
    · cases push <;> rfl
    · rfl
  have pushes : ∀ push ∈ dating.newer applied, keepsPush m.alarm t.alarm push := by
    intro push _
    rw [after]
    refine ⟨?_,zone_push_kept push fun oid _ => untouched push oid⟩
    cases push with
    | panelChanged payload => exact panel_push_kept record payload
    | _ => trivial
  refine (and_iff_right pushes).trans ?_
  refine forall_congr' fun e => forall₂_congr fun _ _ => ?_
  have count : countAt t.alarm e.1 = (m.alarm.objects.get? e.1).map fun p =>
      if e.1 ∈ m.alarm.panels.values then AlarmSection.triggeredMotion sensors p else p.detail.triggeredMotionCount := by
    rw [countAt,after,object,Option.map_map]
    congr 1
    funext p
    simp only [Function.comp_apply]
    split <;> rfl
  rw [count,countAt]
  cases m.alarm.objects.get? e.1 with
  | none => simp
  | some panel => simp

theorem alarm_reads_sound : Race.Preserves alarmReads fun m => m.alarm.Sound := by
  refine ⟨?_,?_,?_⟩
  · intro m call o sound called
    cases called
    exact sound
  · intro m push o sound pushed
    cases pushed
    exact AlarmSection.push_sound sound push
  · intro m read r dating answer o sound settled
    cases r <;> cases answer <;> cases settled <;> first
      | exact sound
      | exact AlarmSection.attach_panels_sound sound _
      | exact AlarmSection.zone_statuses_sound sound _
      | exact AlarmSection.triggered_motion_sound sound _

theorem unchanged_kept (m : AlarmMirror) (read : Nat) (r : AlarmRead) (dating : Dating) (applied : List AlarmPush) :
    keepsAlarm read r dating applied m m := by
  refine ⟨fun push _ => ⟨?_,zone_push_kept push fun _ _ => rfl⟩,fun _ _ _ _ found => found⟩
  cases push with
  | panelChanged payload => exact panel_push_kept (fun _ => rfl) payload
  | _ => trivial

theorem alarm_answer_kept_iff (m : AlarmMirror) (read : Nat) (r : AlarmRead) (dating : Dating)
    (applied : List AlarmPush) (answer : AlarmAnswer) (o : AlarmOutcome) (sound : m.alarm.Sound)
    (settled : settleAlarm m read r dating answer = some o) :
    keepsAlarm read r dating applied m o.mirror ↔ agreesAlarm read r dating applied m answer := by
  cases answer with
  | panels panels =>
    cases r <;> cases settled
    exact panels_kept_iff m sound read dating applied panels
  | zoneStatuses statuses =>
    cases r <;> cases settled
    exact statuses_kept_iff m read dating applied statuses
  | triggeredMotion sensors =>
    cases r <;> cases settled
    exact counts_kept_iff m _ read dating applied sensors rfl
  | notFound => cases r <;> cases settled <;> exact iff_of_true (unchanged_kept m read _ dating applied) trivial
  | failed => cases r <;> cases settled <;> exact iff_of_true (unchanged_kept m read _ dating applied) trivial

-- No answer undoes a push it does not know and no triggered-motion read overwrites the counts of
-- one that was started later, exactly when every answer agrees with what the panels show there.
theorem alarm_pushes_kept_iff (incidents : List (Incident AlarmCall AlarmPush AlarmAnswer)) :
    Every (Race.advance alarmReads) (Race.KeepsPushes keepsAlarm) (.fresh ⟨.empty,.empty⟩) incidents ↔
      Every (Race.advance alarmReads) (fun x e _ => Race.Unopposed agreesAlarm x e) (.fresh ⟨.empty,.empty⟩) incidents :=
  Race.keeps_iff_unopposed alarm_reads_sound
    (fun m n r d ps a o sound settled => alarm_answer_kept_iff m n r d ps a o sound settled)
    AlarmSection.empty_sound incidents

-- The answer the daemon gave before the push puts the panel back to armed.
theorem alarm_answer_undoes_trigger :
    let panel : AlarmPanelEntity :=
      ⟨"openccu-loom_alarm_z1","z1","House","alarm_control_panel","armed_away",none,true,some false,true,true⟩
    let status : AlarmZoneStatus := ⟨"z1",some "full",none,none,none,false⟩
    ¬ Every (Race.advance alarmReads) (Race.KeepsPushes keepsAlarm) (.fresh ⟨.empty,.empty⟩) [
      .call (.bootstrapAlarmPanels (some true)),
      .answer 0 0 (.panels [panel]),.answer 1 0 (.zoneStatuses [status]),.answer 2 0 (.triggeredMotion []),
      .call (.bootstrapAlarmPanels (some true)),
      .push (.panelChanged ⟨"openccu-loom_alarm_z1","z1","House","triggered",true,true,true,false⟩),
      .answer 3 0 (.panels [panel])] := by
  decide +kernel

end LoomClient.Client
