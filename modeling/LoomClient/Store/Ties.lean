import LoomClient.Store.InPlace

namespace LoomClient.Store
open Lib Wire
variable {V : Type}

-- What the classes and the indices of the store guarantee of its objects.
structure Tied (s : LoomStore V) : Prop where
  points : s.dataPoints.Holds fun _ dp => dp.category ≠ .eventGroup
  sysvars : s.sysvars.Holds fun _ v => v.category ≠ .eventGroup
  twins : s.programDps.Holds fun id twins => ∃ p, s.programs.get? id = some p ∧
    ∀ twin ∈ twins, twin.summary = p.summary ∧ twin.category ≠ some .eventGroup
  panels : s.alarmPanels.Holds fun uid p => p.summary.uniqueId = uid

theorem lookup_ne {κ ν : Type} [BEq κ] [LawfulBEq κ] {table : List (κ × ν)} {v : ν} (absent : v ∉ table.map Prod.snd) (k : κ) :
    table.lookup k ≠ some v := by
  intro found
  obtain ⟨before,after,split,_⟩ := List.lookup_eq_some_iff.mp found
  refine absent ?_
  rw [split,List.map_append,List.map_cons]
  exact List.mem_append_right _ (.head _)

theorem class_by_category_tied (token : String) : Model.classByCategory.lookup token ≠ some .eventGroup :=
  lookup_ne (by decide) token

theorem custom_category_tied (cdp : Model.CustomDataPoint V) : cdp.category ≠ .eventGroup := by
  unfold Model.CustomDataPoint.category
  cases found : Model.categoryByString.lookup cdp.summary.category with
  | none => cases cdp.cls <;> nofun
  | some category =>
    rintro rfl
    exact lookup_ne (by decide) _ found

theorem generic_category_tied (summary : DataPointSummary V) : Model.genericCategory summary ≠ .eventGroup := by
  unfold Model.genericCategory
  split
  · rename_i category found
    intro equal
    subst equal
    obtain ⟨token,_,listed⟩ := Option.bind_eq_some_iff.mp found
    exact class_by_category_tied token listed
  · unfold Model.resolveGenericClass
    dsimp only
    split_ifs <;> nofun

theorem sysvar_class_tied (valueType : String) (extended : Bool) :
    Model.resolveSysvarClass valueType extended ≠ .eventGroup := by
  unfold Model.resolveSysvarClass
  dsimp only
  split_ifs <;> nofun

section Parts
variable {s t : LoomStore V}

theorem tied_same (tied : Tied s) (points : t.dataPoints = s.dataPoints) (sysvars : t.sysvars = s.sysvars)
    (programs : t.programs = s.programs) (twins : t.programDps = s.programDps)
    (panels : t.alarmPanels = s.alarmPanels) : Tied t where
  points := points ▸ tied.points
  sysvars := sysvars ▸ tied.sysvars
  twins := by rw [twins,programs]; exact tied.twins
  panels := panels ▸ tied.panels

-- What the ties say nothing of.
def besideUntied (s : LoomStore V) : LoomStore V :=
  {s with
    centralId := ""
    devices := .empty
    channels := .empty
    cdps := .empty
    cdpByChannel := .empty
    nextOid := 0}

theorem tied_frame (tied : Tied s) (frame : besideUntied t = besideUntied s) : Tied t :=
  tied_same tied (unchanged frame LoomStore.dataPoints fun _ => rfl) (unchanged frame LoomStore.sysvars fun _ => rfl)
    (unchanged frame LoomStore.programs fun _ => rfl) (unchanged frame LoomStore.programDps fun _ => rfl)
    (unchanged frame LoomStore.alarmPanels fun _ => rfl)

theorem tied_points (tied : Tied s) (frame : besideDataPoints t = besideDataPoints s)
    (points : t.dataPoints.Holds fun _ dp => dp.category ≠ .eventGroup) : Tied t where
  points := points
  sysvars := (unchanged frame LoomStore.sysvars fun _ => rfl) ▸ tied.sysvars
  twins := by
    rw [unchanged frame LoomStore.programDps fun _ => rfl,unchanged frame LoomStore.programs fun _ => rfl]
    exact tied.twins
  panels := (unchanged frame LoomStore.alarmPanels fun _ => rfl) ▸ tied.panels

theorem tied_panels (tied : Tied s) (frame : besideAlarm t = besideAlarm s)
    (panels : t.alarmPanels.Holds fun uid p => p.summary.uniqueId = uid) : Tied t where
  points := (unchanged frame LoomStore.dataPoints fun _ => rfl) ▸ tied.points
  sysvars := (unchanged frame LoomStore.sysvars fun _ => rfl) ▸ tied.sysvars
  twins := by
    rw [unchanged frame LoomStore.programDps fun _ => rfl,unchanged frame LoomStore.programs fun _ => rfl]
    exact tied.twins
  panels := panels

theorem upsert_sysvar_tied (summary : SysvarSummary V) (tied : Tied s) : Tied (upsertSysvar s summary) := by
  unfold upsertSysvar
  split
  · exact {tied with sysvars := Dict.holds_modify tied.sysvars fun _ shown => shown}
  · exact {tied with sysvars := Dict.holds_set tied.sysvars (sysvar_class_tied _ _)}

theorem upsert_program_tied (summary : ProgramSummary) (tied : Tied s) : Tied (upsertProgram s summary) := by
  have others (programs : Dict String Model.Program)
      (same : ∀ id, id ≠ summary.id → programs.get? id = s.programs.get? id) (id : String) (other : id ≠ summary.id)
      (twins : List Model.Program) (found : s.programDps.get? id = some twins) :
      ∃ p, programs.get? id = some p ∧
        ∀ twin ∈ twins, twin.summary = p.summary ∧ twin.category ≠ some .eventGroup := by
    rw [same id other]
    exact tied.twins id twins found
  unfold upsertProgram
  split
  · refine {tied with twins := ?_}
    intro id twins found
    rw [Dict.get?_modify] at found
    split at found
    · rename_i here
      subst here
      obtain ⟨old,stored,rfl⟩ := Option.map_eq_some_iff.mp found
      obtain ⟨p,known,mirrored⟩ := tied.twins summary.id old stored
      refine ⟨p.replaceSummary summary,by simp [Dict.get?_modify,known],?_⟩
      intro twin member
      obtain ⟨before,listed,rfl⟩ := List.mem_map.mp member
      exact ⟨rfl,(mirrored before listed).2⟩
    · rename_i other
      refine others _ (fun id other => ?_) id other twins found
      rw [Dict.get?_modify,if_neg other]
  · rename_i fresh
    have elsewhere (v : Model.Program) (id : String) (other : id ≠ summary.id) :
        (s.programs.set summary.id v).get? id = s.programs.get? id := by rw [Dict.get?_set,if_neg other]
    split
    · refine {tied with twins := ?_}
      intro id twins found
      rw [Dict.get?_set] at found
      split at found
      · rename_i here
        subst here
        cases found
        refine ⟨_,Dict.get?_set_self _ _ _,?_⟩
        simp
      · rename_i other
        exact others _ (elsewhere _) id other twins found
    · refine {tied with twins := ?_}
      intro id twins found
      have other : id ≠ summary.id := by
        intro here
        obtain ⟨p,known,_⟩ := tied.twins id twins found
        exact fresh (here ▸ Dict.mem_of_get? known)
      exact others _ (elsewhere _) id other twins found

theorem upsert_programs_tied (programs : List ProgramSummary) (tied : Tied s) : Tied (programs.foldl upsertProgram s) :=
  List.foldlRecOn (motive := Tied) programs _ tied fun _ kept summary _ => upsert_program_tied summary kept

theorem upsert_sysvars_tied (sysvars : List (SysvarSummary V)) (tied : Tied s) : Tied (sysvars.foldl upsertSysvar s) :=
  List.foldlRecOn (motive := Tied) sysvars _ tied fun _ kept summary _ => upsert_sysvar_tied summary kept

theorem mutate_panel_tied (uid : String) (f : Model.AlarmPanel → Model.AlarmPanel) (tied : Tied s)
    (keeps : ∀ p, p.summary.uniqueId = uid → (f p).summary.uniqueId = uid) : Tied (mutateAlarmPanel s uid f) := by
  refine tied_panels tied (mutate_panel_beside s uid f) ?_
  unfold mutateAlarmPanel
  split
  · exact tied.panels
  · exact Dict.holds_modify tied.panels keeps

theorem register_panel_tied (entity : AlarmPanelEntity) (tied : Tied s) : Tied (registerAlarmPanel s entity) :=
  {tied with panels := Dict.holds_set tied.panels rfl}

theorem drop_panel_tied (uid : String) (tied : Tied s) : Tied (dropAlarmPanel s uid) := by
  refine tied_panels tied (drop_panel_beside s uid) ?_
  unfold dropAlarmPanel
  split
  · exact tied.panels
  · exact Dict.holds_eraseWhere tied.panels

theorem attach_panel_tied (entity : AlarmPanelEntity) (tied : Tied s) : Tied (attachAlarmPanel s entity) := by
  unfold attachAlarmPanel
  split
  · exact register_panel_tied entity tied
  · exact tied_same (mutate_panel_tied entity.uniqueId (·.replaceSummary entity) tied fun _ _ => rfl) rfl rfl rfl rfl rfl

theorem attach_panels_tied (panels : List AlarmPanelEntity) (tied : Tied s) : Tied (attachAlarmPanels s panels) := by
  refine List.foldlRecOn (motive := Tied) panels _ ?_ fun _ kept entity _ => attach_panel_tied entity kept
  exact List.foldlRecOn (motive := Tied) _ _ tied fun _ kept uid _ => drop_panel_tied uid kept

theorem attach_data_point_tied (address : Address) (channel : Int) (summary : DataPointSummary V) (tied : Tied s) :
    Tied (attachDataPoint address channel s summary) := by
  refine tied_points tied (attach_data_point_beside address channel s summary) ?_
  unfold attachDataPoint
  dsimp only
  split
  · exact Dict.holds_modify tied.points fun _ plain => plain
  · exact Dict.holds_set tied.points (generic_category_tied summary)

theorem attach_data_points_tied (address : Address) (channel : Int) (dataPoints : List (DataPointSummary V))
    (tied : Tied s) : Tied (attachChannelDataPoints s address channel dataPoints) :=
  List.foldlRecOn (motive := Tied) dataPoints _ {tied with points := Dict.holds_eraseWhere tied.points}
    fun _ kept summary _ => attach_data_point_tied address channel summary kept

theorem attach_calculated_tied (address : Address) (channel : Int) (calculated : List (CalculatedDPSummary V))
    (tied : Tied s) : Tied (attachChannelCalculatedDataPoints s address channel calculated) := by
  unfold attachChannelCalculatedDataPoints
  split
  · refine List.foldlRecOn (motive := Tied) calculated _ tied fun t kept c _ => ?_
    refine {kept with points := Dict.holds_set kept.points ?_}
    unfold Model.makeCalculatedDataPoint
    dsimp only
    split <;> nofun
  · exact tied

theorem detail_tied (detail : DeviceDetail) (tied : Tied s) : Tied (attachDeviceDetail s detail) := by
  unfold attachDeviceDetail
  cases admitted : upsertDeviceSummary s detail.toDeviceSummary with
  | none => exact tied
  | some t =>
    have first : Tied t := by
      have frame := upsert_beside admitted
      exact tied_frame tied (congrArg besideUntied frame :)
    let u : LoomStore V := {t with
      devices := t.devices.modify detail.address (·.attachDetail detail.firmware detail.availability)}
    have filled : Tied (detail.channels.foldl upsertChannel u) := by
      have frame := upsert_channels_beside u detail.channels
      exact tied_frame first (congrArg besideUntied frame :)
    exact List.foldlRecOn (motive := Tied) _ dropChannel filled fun _ kept _ _ =>
      {kept with points := Dict.holds_eraseWhere kept.points}

theorem snapshot_tied (snapshot : Snapshot V) (tied : Tied s) : Tied (loadSnapshot s snapshot) := by
  unfold loadSnapshot
  refine upsert_sysvars_tied _ (upsert_programs_tied _ ?_)
  have frame := foldl_frame admitDevice besideDevices admit_beside (adoptCentralId s snapshot) snapshot.devices
  have adopted : Tied (adoptCentralId s snapshot) := by
    unfold adoptCentralId
    split
    · exact tied_same tied rfl rfl rfl rfl rfl
    · exact tied
  exact tied_frame adopted (congrArg besideUntied frame :)

theorem attach_customs_tied (address : Address) (cdps : List (CustomDPSummary V)) (tied : Tied s) :
    Tied (attachCustomDataPoints s address cdps) := by
  have frame := attach_customs_beside s address cdps
  exact tied_frame tied (congrArg besideUntied frame :)

end Parts

theorem initial_tied (maxDevices : Nat) (centralName serialSuffix : String) :
    Tied (.categorised maxDevices centralName serialSuffix : LoomStore V) := by
  constructor <;>
  · intro _ _ found
    cases found

def ProgramsKeyed (s : LoomStore V) : Prop := s.programs.Holds fun id p => p.summary.id = id

theorem upsert_program_keyed (s : LoomStore V) (summary : ProgramSummary) (keyed : ProgramsKeyed s) :
    ProgramsKeyed (upsertProgram s summary) := by
  unfold upsertProgram
  split
  · intro id p found
    simp only [Dict.get?_modify] at found
    split at found
    · rename_i equal
      obtain ⟨old,_,rfl⟩ := Option.map_eq_some_iff.mp found
      exact equal.symm
    · exact keyed id p found
  · split
    · exact Dict.holds_set keyed rfl
    · exact Dict.holds_set keyed rfl

theorem same_keyed {s t : LoomStore V} (same : t.programs = s.programs) (keyed : ProgramsKeyed s) : ProgramsKeyed t := by
  unfold ProgramsKeyed
  rw [same]
  exact keyed

theorem push_keyed (s : LoomStore V) (push : Push V) (keyed : ProgramsKeyed s) : ProgramsKeyed (applyPush s push) := by
  cases push with
  | programExecuted payload =>
    simp only [applyPush,applyProgramExecuted]
    split
    · split
      · exact upsert_program_keyed _ _ keyed
      · exact keyed
    · exact keyed
  | programChanged payload =>
    simp only [applyPush,applyProgramChanged]
    split
    · exact keyed
    · exact upsert_program_keyed _ _ keyed
  | customStateChanged => exact same_keyed (unchanged (mutate_cdp_beside s _ _) LoomStore.programs fun _ => rfl) keyed
  | deviceCreated payload => exact same_keyed (unchanged (created_beside s payload) LoomStore.programs fun _ => rfl) keyed
  | deviceRemoved payload => exact same_keyed (unchanged (removed_beside s payload) LoomStore.programs fun _ => rfl) keyed
  | alarmPanelChanged payload => exact same_keyed (unchanged (panel_changed_beside s payload) LoomStore.programs fun _ => rfl) keyed
  | _ => exact keyed

theorem upsert_sysvar_keyed (s : LoomStore V) (summary : SysvarSummary V) (keyed : ProgramsKeyed s) :
    ProgramsKeyed (upsertSysvar s summary) := by
  unfold upsertSysvar
  split <;> exact keyed

theorem operation_keyed (s : LoomStore V) (op : Operation V) (keyed : ProgramsKeyed s) : ProgramsKeyed (apply s op) := by
  cases op with
  | loadSnapshot snapshot =>
    have devices := (foldl_frame admitDevice besideDevices admit_beside (adoptCentralId s snapshot) snapshot.devices :)
    have adopted := unchanged (adopt_central_beside s snapshot) LoomStore.programs fun _ => rfl
    have first := same_keyed ((unchanged devices LoomStore.programs fun _ => rfl).trans adopted) keyed
    have second := List.foldlRecOn (snapshot.programs.getD []) upsertProgram first
      fun t held summary _ => upsert_program_keyed t summary held
    exact List.foldlRecOn (snapshot.sysvars.getD []) upsertSysvar second fun t held summary _ => upsert_sysvar_keyed t summary held
  | attachHubCatalogue sysvars programs =>
    have first := List.foldlRecOn sysvars upsertSysvar keyed fun t held summary _ => upsert_sysvar_keyed t summary held
    exact List.foldlRecOn programs upsertProgram first fun t held summary _ => upsert_program_keyed t summary held
  | upsertProgram summary => exact upsert_program_keyed s summary keyed
  | upsertSysvar summary => exact upsert_sysvar_keyed s summary keyed
  | push push => exact push_keyed s push keyed
  | _ => exact same_keyed (unchanged (operation_frame s _) LoomStore.programs fun _ => rfl) keyed

end LoomClient.Store
