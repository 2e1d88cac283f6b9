import LoomClient.Lib.Race
import LoomClient.Store.Records

namespace LoomClient.Client
open Lib Wire Store
variable {V : Type}

-- System variables, programs and the availability of a device carry no timestamp.
inductive UndatedCall where
  | bootstrap
  | bootstrapHubCatalogue
  | fetchSysvarData
  | fetchProgramData
  | setProgramEnabled (id : String)
  | refreshProgram (id : String)
  deriving DecidableEq, Repr

inductive UndatedRead (V : Type) where
  | snapshot
  | catalogueSysvars
  | cataloguePrograms (sysvars : List (SysvarSummary V)) (dating : Dating)
  | sysvars
  | programs
  | programPublished (rest : List ProgramSummary) (dating : Dating)
  | programEnabled (id : String)
  | program (id : String)
  deriving DecidableEq

inductive UndatedAnswer (V : Type) where
  | snapshot (snapshot : Snapshot V)
  | sysvars (sysvars : List (SysvarSummary V))
  | programs (programs : List ProgramSummary)
  | program (program : ProgramSummary)
  | accepted
  | published
  | failed
  deriving DecidableEq

abbrev UndatedOutcome (V : Type) := Outcome (LoomStore V) (Push V) (UndatedRead V)

def UndatedCall.first : UndatedCall → UndatedRead V
  | .bootstrap => .snapshot
  | .bootstrapHubCatalogue => .catalogueSysvars
  | .fetchSysvarData => .sysvars
  | .fetchProgramData => .programs
  | .setProgramEnabled id => .programEnabled id
  | .refreshProgram id => .program id

-- It is new or its activity moved, and it has a key to announce it under.
def programMoved (s : LoomStore V) (summary : ProgramSummary) : Bool :=
  (summary.uniqueId ≠ "") && match s.programs.get? summary.id with
    | none => true
    | some before => summary.active ≠ before.summary.active

-- The announcement is an await inside the loop: `none` when the loop ran out.
def untilPublished (s : LoomStore V) : List ProgramSummary → List ProgramSummary × Option (List ProgramSummary)
  | [] => ([],none)
  | summary :: rest =>
    if programMoved s summary then ([summary],some rest)
    else
      let (written,later) := untilPublished (upsertProgram s summary) rest
      (summary :: written,later)

def fetchPrograms (s : LoomStore V) (programs : List ProgramSummary) (dating : Dating) : UndatedOutcome V :=
  let (written,later) := untilPublished s programs
  ⟨written.foldl upsertProgram s,(later.map fun rest => .programPublished rest dating).toList,[]⟩

def settleUndated (s : LoomStore V) (_ : Nat) :
    UndatedRead V → Dating → UndatedAnswer V → Option (UndatedOutcome V)
  | _,_,.failed => some ⟨s,[],[]⟩
  | .snapshot,_,.snapshot snapshot => some ⟨loadSnapshot s snapshot,[],[]⟩
  | .catalogueSysvars,dating,.sysvars sysvars => some ⟨s,[.cataloguePrograms sysvars dating],[]⟩
  | .cataloguePrograms sysvars _,_,.programs programs => some ⟨attachHubCatalogue s sysvars programs,[],[]⟩
  | .sysvars,_,.sysvars sysvars => some ⟨sysvars.foldl upsertSysvar s,[],[]⟩
  | .programs,dating,.programs programs => some (fetchPrograms s programs dating)
  | .programPublished rest dating,_,.published => some (fetchPrograms s rest dating)
  -- The write is accepted as scheduled, and the program is read back at once.
  | .programEnabled id,_,.accepted => some ⟨s,[.program id],[]⟩
  | .program _,_,.program program => some ⟨upsertProgram s program,[],[]⟩
  | _,_,_ => none

def undatedReads : Handlers (LoomStore V) UndatedCall (Push V) (UndatedRead V) (UndatedAnswer V) where
  call s call := some ⟨s,[call.first],[]⟩
  push s push := some ⟨applyPush s push,[],[push]⟩
  settle := settleUndated

inductive Shown (V : Type) where
  | value (value : Option V)
  | activity (active executeAvailable : Option Bool)
  | available (available : Bool)
  deriving DecidableEq, Repr

def shownSysvar (summary : SysvarSummary V) : Shown V := .value summary.value
def shownProgram (summary : ProgramSummary) : Shown V := .activity summary.active summary.executeAvailable
def shownDevice (summary : DeviceSummary) : Shown V := .available summary.available

def shows (s : LoomStore V) : Push V → Option (Shown V)
  | .sysvarChanged payload => (sysvarRecord s payload.name).map shownSysvar
  | .programChanged payload => (programRecord s payload.programId).map shownProgram
  | .availabilityChanged payload => (s.devices.get? payload.deviceAddress).map fun d => shownDevice d.summary
  | _ => none

-- The two halves of the catalogue merge are answers of their own, and a suspended loop still works
-- off the answer it began with.
def source : UndatedRead V → Dating → Push V → Option Dating
  | .snapshot,dating,_ => some dating
  | .cataloguePrograms _ dating,_,.sysvarChanged _ => some dating
  | .cataloguePrograms _ _,dating,.programChanged _ => some dating
  | .sysvars,dating,.sysvarChanged _ => some dating
  | .programs,dating,.programChanged _ => some dating
  | .programPublished _ dating,_,.programChanged _ => some dating
  | .program _,dating,.programChanged _ => some dating
  | _,_,_ => none

def broughtDevices : UndatedRead V → UndatedAnswer V → List DeviceSummary
  | .snapshot,.snapshot snapshot => snapshot.devices
  | _,_ => []

def broughtSysvars : UndatedRead V → UndatedAnswer V → List (SysvarSummary V)
  | .snapshot,.snapshot snapshot => snapshot.sysvars.getD []
  | .cataloguePrograms sysvars _,.programs _ => sysvars
  | .sysvars,.sysvars sysvars => sysvars
  | _,_ => []

def broughtPrograms (s : LoomStore V) : UndatedRead V → UndatedAnswer V → List ProgramSummary
  | .snapshot,.snapshot snapshot => snapshot.programs.getD []
  | .cataloguePrograms _ _,.programs programs => programs
  | .programs,.programs programs => (untilPublished s programs).1
  | .programPublished rest _,.published => (untilPublished s rest).1
  | .program _,.program program => [program]
  | _,_ => []

-- Of several records for one key the last one counts.
def tells (s : LoomStore V) (r : UndatedRead V) (a : UndatedAnswer V) : Push V → Option (Shown V)
  | .sysvarChanged payload => (lastWritten (·.name) payload.name (broughtSysvars r a)).map shownSysvar
  | .programChanged payload => (lastWritten (·.id) payload.programId (broughtPrograms s r a)).map shownProgram
  | .availabilityChanged payload => (lastWritten (·.address) payload.deviceAddress (broughtDevices r a)).map shownDevice
  | _ => none

def keepsUndated (_ : Nat) (r : UndatedRead V) (dating : Dating) (applied : List (Push V)) (s t : LoomStore V) : Prop :=
  ∀ push ∈ applied, ∀ d ∈ source r dating push, push ∈ d.newer applied → ∀ shown ∈ shows s push,
    shows t push = some shown

def agreesUndated (_ : Nat) (r : UndatedRead V) (dating : Dating) (applied : List (Push V)) (s : LoomStore V)
    (a : UndatedAnswer V) : Prop :=
  ∀ push ∈ applied, ∀ d ∈ source r dating push, push ∈ d.newer applied → ∀ shown ∈ shows s push,
    ∀ told ∈ tells s r a push, told = shown

instance (n : Nat) (r : UndatedRead V) (dating : Dating) (applied : List (Push V)) (s t : LoomStore V) [DecidableEq V] :
    Decidable (keepsUndated n r dating applied s t) := by unfold keepsUndated; infer_instance

instance (n : Nat) (r : UndatedRead V) (dating : Dating) (applied : List (Push V)) (s : LoomStore V)
    (a : UndatedAnswer V) [DecidableEq V] : Decidable (agreesUndated n r dating applied s a) := by
  unfold agreesUndated; infer_instance

section Snapshot
variable (s : LoomStore V) (snapshot : Snapshot V)

def deviceSummary (s : LoomStore V) (address : Address) : Option DeviceSummary := (s.devices.get? address).map (·.summary)

theorem admit_written (d : DeviceSummary) (known : a ∈ s.devices) :
    deviceSummary (admitDevice s d) a = (written (·.address) a d).or (deviceSummary s a) := by
  unfold admitDevice
  cases admitted : upsertDeviceSummary s d with
  | none =>
    have refused := upsert_refused.mp admitted
    have other : d.address ≠ a := by
      rintro rfl
      simp [canAdmitDevice,known] at refused
    simp [written_other other]
  | some t =>
    rw [Option.getD_some]
    rcases upsert_cases admitted with ⟨_,rfl⟩ | ⟨fresh,_,rfl⟩
    · by_cases same : d.address = a
      · obtain ⟨old,found⟩ := Dict.mem_iff_get?.mp known
        simp [written_same same,deviceSummary,Dict.get?_modify,same,found,Model.Device.updateSummary]
      · simp [written_other same,deviceSummary,Dict.get?_modify,Ne.symm same]
    · have other : d.address ≠ a := fun same => fresh (same ▸ known)
      simp [written_other other,deviceSummary,Dict.get?_set,Ne.symm other]

theorem snapshot_device_written (known : a ∈ s.devices) :
    deviceSummary (loadSnapshot s snapshot) a =
      (lastWritten (·.address) a snapshot.devices).or (deviceSummary s a) := by
  have before : (adoptCentralId s snapshot).devices = s.devices :=
    (congrArg LoomStore.devices (adopt_central_beside s snapshot) :)
  have observed : deviceSummary (adoptCentralId s snapshot) a = deviceSummary s a := by simp only [deviceSummary,before]
  rw [deviceSummary,snapshot_devices,←observed]
  refine foldl_last_of admitDevice (fun t => a ∈ t.devices) (deviceSummary · a) _ _ ?_ ?_ _ (by rwa [before])
  · exact fun t d _ held => (admit_devices t d a).mpr (.inr held)
  · exact fun t d _ held => admit_written t d held

theorem snapshot_program_written (id : String) :
    programRecord (loadSnapshot s snapshot) id =
      (lastWritten (·.id) id (snapshot.programs.getD [])).or (programRecord s id) := by
  let u := snapshot.devices.foldl admitDevice (adoptCentralId s snapshot)
  have devices : programRecord u id = programRecord s id := by
    refine (unchanged (foldl_frame admitDevice besideDevices admit_beside _ _) (programRecord · id) fun _ => rfl).trans ?_
    exact (congrArg (programRecord · id) (adopt_central_beside s snapshot) :)
  have last : programRecord (loadSnapshot s snapshot) id =
      programRecord ((snapshot.programs.getD []).foldl upsertProgram u) id :=
    foldl_frame upsertSysvar (programRecord · id) (fun t v => by simp only [programRecord,upsert_sysvar_programs]) _ _
  rw [last,←devices]
  exact programs_written u _ id

theorem snapshot_sysvar_written (name : String) :
    sysvarRecord (loadSnapshot s snapshot) name =
      (lastWritten (·.name) name (snapshot.sysvars.getD [])).or (sysvarRecord s name) := by
  let u := snapshot.devices.foldl admitDevice (adoptCentralId s snapshot)
  have devices : sysvarRecord u name = sysvarRecord s name := by
    refine (unchanged (foldl_frame admitDevice besideDevices admit_beside _ _) (sysvarRecord · name) fun _ => rfl).trans ?_
    exact (congrArg (sysvarRecord · name) (adopt_central_beside s snapshot) :)
  have programs : sysvarRecord ((snapshot.programs.getD []).foldl upsertProgram u) name = sysvarRecord u name :=
    foldl_frame upsertProgram (sysvarRecord · name) (fun t p => by simp only [sysvarRecord,upsert_program_sysvars]) u _
  rw [←devices,←programs]
  exact sysvars_written _ _ name

end Snapshot

section Answers
variable (s : LoomStore V)

theorem programs_shown (programs : List ProgramSummary) (payload : ProgramChangedPayload) :
    shows (programs.foldl upsertProgram s) (.programChanged payload) =
      ((lastWritten (·.id) payload.programId programs).map shownProgram).or (shows s (.programChanged payload)) := by
  simp only [shows,programs_written]
  cases lastWritten (·.id) payload.programId programs <;> rfl

theorem sysvars_shown (sysvars : List (SysvarSummary V)) (payload : SysvarChangedPayload V) :
    shows (sysvars.foldl upsertSysvar s) (.sysvarChanged payload) =
      ((lastWritten (·.name) payload.name sysvars).map shownSysvar).or (shows s (.sysvarChanged payload)) := by
  simp only [shows,sysvars_written]
  cases lastWritten (·.name) payload.name sysvars <;> rfl

theorem programs_elsewhere (programs : List ProgramSummary) (push : Push V)
    (other : ∀ payload, push ≠ .programChanged payload) : shows (programs.foldl upsertProgram s) push = shows s push := by
  have frame := upsert_programs_beside s programs
  cases push with
  | programChanged payload => exact absurd rfl (other payload)
  | sysvarChanged payload =>
    have same : sysvarRecord (programs.foldl upsertProgram s) payload.name = sysvarRecord s payload.name :=
      foldl_frame upsertProgram (sysvarRecord · payload.name)
        (fun t p => by simp only [sysvarRecord,upsert_program_sysvars]) s programs
    simp only [shows,same]
  | availabilityChanged payload => simp only [shows,unchanged frame LoomStore.devices fun _ => rfl]
  | _ => rfl

theorem sysvars_elsewhere (sysvars : List (SysvarSummary V)) (push : Push V)
    (other : ∀ payload, push ≠ .sysvarChanged payload) : shows (sysvars.foldl upsertSysvar s) push = shows s push := by
  have frame := upsert_sysvars_beside s sysvars
  cases push with
  | sysvarChanged payload => exact absurd rfl (other payload)
  | programChanged payload =>
    have same : programRecord (sysvars.foldl upsertSysvar s) payload.programId = programRecord s payload.programId :=
      foldl_frame upsertSysvar (programRecord · payload.programId)
        (fun t v => by simp only [programRecord,upsert_sysvar_programs]) s sysvars
    simp only [shows,same]
  | availabilityChanged payload => simp only [shows,unchanged frame LoomStore.devices fun _ => rfl]
  | _ => rfl

theorem snapshot_shown (snapshot : Snapshot V) (push : Push V) (known : shows s push ≠ none) :
    shows (loadSnapshot s snapshot) push = (tells s .snapshot (.snapshot snapshot) push).or (shows s push) := by
  cases push with
  | sysvarChanged payload =>
    simp only [shows,tells,broughtSysvars,snapshot_sysvar_written]
    cases lastWritten (·.name) payload.name (snapshot.sysvars.getD []) <;> rfl
  | programChanged payload =>
    simp only [shows,tells,broughtPrograms,snapshot_program_written]
    cases lastWritten (·.id) payload.programId (snapshot.programs.getD []) <;> rfl
  | availabilityChanged payload =>
    have there : payload.deviceAddress ∈ s.devices := by
      obtain ⟨shown,found⟩ := Option.ne_none_iff_exists'.mp known
      obtain ⟨d,stored,_⟩ := Option.map_eq_some_iff.mp found
      exact Dict.mem_of_get? stored
    have read : ∀ t : LoomStore V, shows t (.availabilityChanged payload) =
        (deviceSummary t payload.deviceAddress).map shownDevice := by
      intro t
      simp only [shows,deviceSummary,Option.map_map,Function.comp_def]
    rw [read,read,snapshot_device_written s snapshot there,tells,broughtDevices]
    cases lastWritten (·.address) payload.deviceAddress snapshot.devices <;> rfl
  | _ => rfl

theorem only_programs_told {r : UndatedRead V} {a : UndatedAnswer V} (devices : broughtDevices r a = [])
    (sysvars : broughtSysvars r a = []) (push : Push V) :
    shows ((broughtPrograms s r a).foldl upsertProgram s) push = (tells s r a push).or (shows s push) := by
  cases push with
  | programChanged payload => exact programs_shown s _ payload
  | sysvarChanged payload =>
    rw [programs_elsewhere s _ _ (by simp),tells,sysvars]
    rfl
  | availabilityChanged payload =>
    rw [programs_elsewhere s _ _ (by simp),tells,devices]
    rfl
  | _ => exact programs_elsewhere s _ _ (by simp)

theorem only_sysvars_told {r : UndatedRead V} {a : UndatedAnswer V} (devices : broughtDevices r a = [])
    (programs : broughtPrograms s r a = []) (push : Push V) :
    shows ((broughtSysvars r a).foldl upsertSysvar s) push = (tells s r a push).or (shows s push) := by
  cases push with
  | sysvarChanged payload => exact sysvars_shown s _ payload
  | programChanged payload =>
    rw [sysvars_elsewhere s _ _ (by simp),tells,programs]
    rfl
  | availabilityChanged payload =>
    rw [sysvars_elsewhere s _ _ (by simp),tells,devices]
    rfl
  | _ => exact sysvars_elsewhere s _ _ (by simp)

theorem catalogue_told (sysvars : List (SysvarSummary V)) (dating : Dating) (programs : List ProgramSummary)
    (push : Push V) : shows (attachHubCatalogue s sysvars programs) push =
      (tells s (.cataloguePrograms sysvars dating) (.programs programs) push).or (shows s push) := by
  unfold attachHubCatalogue
  cases push with
  | programChanged payload =>
    rw [programs_shown,sysvars_elsewhere s _ _ (by simp)]
    rfl
  | sysvarChanged payload =>
    rw [programs_elsewhere _ _ _ (by simp)]
    exact sysvars_shown s sysvars payload
  | availabilityChanged payload =>
    rw [programs_elsewhere _ _ _ (by simp),sysvars_elsewhere s _ _ (by simp)]
    rfl
  | _ => rfl

theorem nothing_told {r : UndatedRead V} {a : UndatedAnswer V} (devices : broughtDevices r a = [])
    (sysvars : broughtSysvars r a = []) (programs : broughtPrograms s r a = []) (push : Push V) :
    shows s push = (tells s r a push).or (shows s push) := by
  have told := only_programs_told s devices sysvars push
  rwa [programs] at told

theorem answer_shown (n : Nat) (r : UndatedRead V) (dating : Dating) (a : UndatedAnswer V) (o : UndatedOutcome V)
    (settled : settleUndated s n r dating a = some o) (push : Push V) (known : shows s push ≠ none) :
    shows o.mirror push = (tells s r a push).or (shows s push) := by
  cases a with
  | failed =>
    cases r <;> cases settled <;> exact nothing_told s rfl rfl rfl push
  | snapshot snapshot =>
    cases r <;> cases settled
    exact snapshot_shown s snapshot push known
  | sysvars sysvars =>
    cases r <;> cases settled
    · exact nothing_told s rfl rfl rfl push
    · exact only_sysvars_told (r := .sysvars) (a := .sysvars sysvars) s rfl rfl push
  | programs programs =>
    cases r <;> cases settled
    · exact catalogue_told s _ _ programs push
    · exact only_programs_told (r := .programs) (a := .programs programs) s rfl rfl push
  | program program =>
    cases r <;> cases settled
    exact only_programs_told (r := .program _) (a := .program program) s rfl rfl push
  | accepted =>
    cases r <;> cases settled
    exact nothing_told s rfl rfl rfl push
  | published =>
    cases r <;> cases settled
    exact only_programs_told (r := .programPublished _ _) (a := .published) s rfl rfl push

end Answers

theorem answer_keeps_iff (s : LoomStore V) (n : Nat) (r : UndatedRead V) (dating : Dating) (applied : List (Push V))
    (a : UndatedAnswer V) (o : UndatedOutcome V) (settled : settleUndated s n r dating a = some o) :
    keepsUndated n r dating applied s o.mirror ↔ agreesUndated n r dating applied s a := by
  have after := answer_shown s n r dating a o settled
  constructor
  · intro kept push member d from_answer newer shown before told brought
    have same := kept push member d from_answer newer shown before
    rw [after push (by rw [Option.mem_def.mp before]; simp),Option.mem_def.mp brought] at same
    exact Option.some.inj same
  · intro agreed push member d from_answer newer shown before
    rw [after push (by rw [Option.mem_def.mp before]; simp)]
    cases brought : tells s r a push with
    | none => exact before
    | some told => rw [agreed push member d from_answer newer shown before told brought]; rfl

-- No answer undoes a push it does not know, exactly when every answer repeats what such a push has
-- left in the record, or does not bring the record.
theorem undated_pushes_kept_iff (s : LoomStore V) (incidents : List (Incident UndatedCall (Push V) (UndatedAnswer V))) :
    Every (Race.advance undatedReads) (Race.KeepsPushes keepsUndated) (.fresh s) incidents ↔
      Every (Race.advance undatedReads) (fun x e _ => Race.Unopposed agreesUndated x e) (.fresh s) incidents :=
  Race.keeps_iff_unopposed Race.preserves_trivial
    (fun m n r d ps a o _ settled => answer_keeps_iff m n r d ps a o settled) trivial incidents

-- The daemon accepts the write as scheduled and answers the read-back before the CCU has flipped
-- the program; the push of the flip overtakes that answer.
theorem readback_undoes_flip :
    let program : ProgramSummary := ⟨none,"12","Night",some false,some false,none,none,none,"loom_S_program_night"⟩
    let s : LoomStore Nat := apply (.empty 8) (.upsertProgram program)
    ¬ Every (Race.advance undatedReads) (Race.KeepsPushes keepsUndated) (.fresh s) [
      .call (.setProgramEnabled "12"),
      .answer 0 0 .accepted,
      .push (.programChanged ⟨"ccu","12",true,true,none,none,none⟩),
      .answer 1 0 (.program program)] := by
  decide +kernel

end LoomClient.Client
