import LoomClient.Compat.Adapter
import LoomClient.Store.Records
import LoomClient.Store.Ties

namespace LoomClient.Compat
open Lib Wire Store
variable {V : Type}

inductive Inbound (V : Type) where
  | snapshot (snapshot : Snapshot V)
  | hubCatalogue (sysvars : List (SysvarSummary V)) (programs : List ProgramSummary)
  | deviceDetail (detail : DeviceDetail)
  | sysvar (summary : SysvarSummary V)
  | program (summary : ProgramSummary)
  | interfaces (states : List InterfaceState)
  | push (push : Push V)
  deriving DecidableEq

structure Facade (V : Type) where
  store : LoomStore V
  interfaces : List InterfaceState
  centralEvents : List (String × String × String)
  deriving DecidableEq

def Facade.pinned (maxDevices : Nat) (centralName centralId serialSuffix : String) : Facade V :=
  ⟨{LoomStore.categorised maxDevices centralName serialSuffix with centralId},[],[]⟩

-- This central's own name, whatever the push is tagged with.
def published (s : LoomStore V) : Push V → List (String × String × String)
  | .centralStateChanged payload => [(s.centralName,payload.oldState,payload.newState)]
  | _ => []

def receive (x : Facade V) : Inbound V → Facade V
  | .snapshot snapshot => {x with store := loadSnapshot x.store snapshot}
  | .hubCatalogue sysvars programs => {x with store := attachHubCatalogue x.store sysvars programs}
  | .deviceDetail detail => {x with store := attachDeviceDetail x.store detail}
  | .sysvar summary => {x with store := upsertSysvar x.store summary}
  | .program summary => {x with store := upsertProgram x.store summary}
  | .interfaces states => {x with interfaces := states}
  | .push push => {x with
      store := applyPush x.store push
      centralEvents := x.centralEvents ++ published x.store push}

inductive Record (V : Type) where
  | device (summary : DeviceSummary)
  | detail (detail : DeviceDetail)
  | sysvar (summary : SysvarSummary V)
  | program (summary : ProgramSummary)
  | interfaces (states : List InterfaceState)
  | push (push : Push V)
  deriving DecidableEq

def recordsOf : Inbound V → List (Record V)
  | .snapshot read => read.devices.map .device ++ (read.programs.getD []).map .program ++
      (read.sysvars.getD []).map .sysvar
  | .hubCatalogue sysvars programs => sysvars.map .sysvar ++ programs.map .program
  | .deviceDetail detail => [.detail detail]
  | .sysvar summary => [.sysvar summary]
  | .program summary => [.program summary]
  | .interfaces states => [.interfaces states]
  | .push push => [.push push]

def takeIn (x : Facade V) : Record V → Facade V
  | .device summary => {x with store := admitDevice x.store summary}
  | .detail detail => {x with store := attachDeviceDetail x.store detail}
  | .sysvar summary => {x with store := upsertSysvar x.store summary}
  | .program summary => {x with store := upsertProgram x.store summary}
  | .interfaces states => {x with interfaces := states}
  | .push push => {x with
      store := applyPush x.store push
      centralEvents := x.centralEvents ++ published x.store push}

def pushTag : Push V → Option String
  | .deviceCreated payload => some payload.central
  | .deviceReleased payload => some payload.central
  | .deviceRemoved payload => some payload.central
  | .metadataChanged payload => some payload.central
  | .availabilityChanged payload => some payload.central
  | .sysvarChanged payload => some payload.central
  | .programExecuted payload => some payload.central
  | .programChanged payload => some payload.central
  | .centralStateChanged payload => some payload.central
  | .valueChanged _ => none
  | .customStateChanged _ => none
  | .deviceRefreshed _ => none
  | .alarmPanelChanged _ => none

section Central
variable (own : Option String → Bool)

def ownPart : Record V → Option (Record V)
  | .device summary => if own summary.central then some (.device summary) else none
  | .detail detail => if own detail.central then some (.detail detail) else none
  | .sysvar summary => if own summary.central then some (.sysvar summary) else none
  | .program summary => if own summary.central then some (.program summary) else none
  | .interfaces states => some (.interfaces (states.filter fun i => own i.centralId))
  | .push push => if own (pushTag push) then some (.push push) else none

def ownRecords (inbound : List (Inbound V)) : List (Record V) := (inbound.flatMap recordsOf).filterMap (ownPart own)

-- Admitted devices, this central's variables and programs (each program with its twins), the reported
-- interfaces and the central-state events.
structure Sight (V : Type) where
  devices : List Address
  sysvars : Dict String (DataPointCategory × SysvarSummary V)
  programs : Dict String (ProgramSummary × List (Option DataPointCategory × ProgramSummary))
  interfaces : List InterfaceState
  centralEvents : List (String × String × String)
  deriving DecidableEq

def shownSysvar (_ : String) (v : Model.Sysvar V) : Option (DataPointCategory × SysvarSummary V) :=
  if own v.summary.central then some (v.category,v.summary) else none

def shownTwins (twins : List Model.Program) : List (Option DataPointCategory × ProgramSummary) :=
  twins.map fun twin => (twin.category,twin.summary)

def shownProgram (programDps : Dict String (List Model.Program)) (id : String) (p : Model.Program) :
    Option (ProgramSummary × List (Option DataPointCategory × ProgramSummary)) :=
  if own p.summary.central then some (p.summary,shownTwins (programDps.getD id [])) else none

def sight (x : Facade V) : Sight V where
  devices := x.store.devices.keys
  sysvars := x.store.sysvars.shown (shownSysvar own)
  programs := x.store.programs.shown (shownProgram own x.store.programDps)
  interfaces := x.interfaces
  centralEvents := x.centralEvents

-- How the view moves on a record of this central, from the view alone.
def admitKey (maxDevices : Nat) (devices : List Address) (a : Address) : List Address :=
  if a ∈ devices then devices else if devices.length < maxDevices then devices ++ [a] else devices

def seeSysvar (g : Sight V) (summary : SysvarSummary V) : Sight V :=
  {g with sysvars := if summary.name ∈ g.sysvars then g.sysvars.modify summary.name fun e => (e.1,summary)
    else g.sysvars.set summary.name ((Model.Sysvar.build 0 summary).category,summary)}

def seeProgram (g : Sight V) (summary : ProgramSummary) : Sight V :=
  {g with programs :=
    if summary.id ∈ g.programs then g.programs.modify summary.id fun e => (summary,e.2.map fun twin => (twin.1,summary))
    else g.programs.set summary.id (summary,[(some .hubButton,summary),(some .hubSwitch,summary)])}

def rewriteSeen (change : ProgramSummary → Option ProgramSummary)
    (e : ProgramSummary × List (Option DataPointCategory × ProgramSummary)) :
    ProgramSummary × List (Option DataPointCategory × ProgramSummary) :=
  match change e.1 with
  | none => e
  | some summary => (summary,e.2.map fun twin => (twin.1,summary))

def executedChange (payload : ProgramExecutedPayload) (summary : ProgramSummary) : Option ProgramSummary :=
  match truthy payload.channel with
  | none => none
  | some channel =>
    if some channel ≠ summary.channel ∨ payload.deviceAddress ≠ summary.deviceAddress then
      some {summary with channel := some channel, deviceAddress := payload.deviceAddress}
    else none

def seePush (maxDevices : Nat) (centralName : String) (g : Sight V) : Push V → Sight V
  | .deviceCreated payload => {g with devices := admitKey maxDevices g.devices payload.deviceAddress}
  | .deviceRemoved payload => {g with devices := g.devices.filter fun a => decide (a ≠ payload.deviceAddress)}
  | .sysvarChanged payload =>
    {g with sysvars := g.sysvars.modify payload.name fun e => (e.1,pushedSysvar payload e.2)}
  | .programExecuted payload =>
    {g with programs := g.programs.modify payload.programId (rewriteSeen (executedChange payload))}
  | .programChanged payload =>
    {g with programs := g.programs.modify payload.programId (rewriteSeen fun summary => some (flippedSummary payload summary))}
  | .centralStateChanged payload =>
    {g with centralEvents := g.centralEvents ++ [(centralName,payload.oldState,payload.newState)]}
  | _ => g

def see (maxDevices : Nat) (centralName : String) (g : Sight V) : Record V → Sight V
  | .device summary => {g with devices := admitKey maxDevices g.devices summary.address}
  | .detail detail => {g with devices := admitKey maxDevices g.devices detail.address}
  | .sysvar summary => seeSysvar g summary
  | .program summary => seeProgram g summary
  | .interfaces states => {g with interfaces := states}
  | .push push => seePush maxDevices centralName g push

-- No foreign device that the cap lets in, no variable or program of the other side under the name or
-- id it writes, no foreign removal of a device that is held, and nothing foreign at all among
-- interfaces and central-state pushes.
def NewlyAdmitted (s : LoomStore V) (a : Address) : Prop := a ∉ s.devices ∧ s.devices.size < s.maxDevices

instance (s : LoomStore V) (a : Address) : Decidable (NewlyAdmitted s a) := by unfold NewlyAdmitted; infer_instance

def SamesideSysvar (s : LoomStore V) (name : String) (side : Bool) : Prop :=
  ∀ stored ∈ s.sysvars.get? name, own stored.summary.central = side

def SamesideProgram (s : LoomStore V) (id : String) (side : Bool) : Prop :=
  ∀ stored ∈ s.programs.get? id, own stored.summary.central = side

def Harmless (x : Facade V) : Record V → Prop
  | .device summary => own summary.central = false → ¬ NewlyAdmitted x.store summary.address
  | .detail detail => own detail.central = false → ¬ NewlyAdmitted x.store detail.address
  | .sysvar summary => SamesideSysvar own x.store summary.name (own summary.central)
  | .program summary => SamesideProgram own x.store summary.id (own summary.central)
  | .interfaces states => ∀ i ∈ states, own i.centralId = true
  | .push push => own (pushTag push) = false → match push with
    | .deviceCreated payload => ¬ NewlyAdmitted x.store payload.deviceAddress
    | .deviceRemoved payload => payload.deviceAddress ∉ x.store.devices
    | .sysvarChanged payload => SamesideSysvar own x.store payload.name false
    | .programExecuted payload => SamesideProgram own x.store payload.programId false
    | .programChanged payload => SamesideProgram own x.store payload.programId false
    | .centralStateChanged _ => False
    | _ => True

instance (x : Facade V) (record : Record V) : Decidable (Harmless own x record) := by
  unfold Harmless SamesideSysvar SamesideProgram
  cases record with
  | push push => cases push <;> infer_instance
  | _ => infer_instance

end Central

def fixedParts (s : LoomStore V) : String × String × Nat × Bool :=
  (s.centralName,s.centralId,s.maxDevices,s.programFactory)

structure Steady (fixed : String × String × Nat) (x : Facade V) : Prop where
  parts : fixedParts x.store = (fixed.1,fixed.2.1,fixed.2.2,true)
  keyed : ProgramsKeyed x.store

theorem push_fixed (s : LoomStore V) (push : Push V) : fixedParts (applyPush s push) = fixedParts s := by
  refine unchanged (push_frame s push) fixedParts ?_
  cases push <;> exact fun _ => rfl

theorem take_steady (x : Facade V) (record : Record V) (steady : Steady fixed x) : Steady fixed (takeIn x record) := by
  cases record with
  | device summary =>
    refine ⟨(unchanged (admit_beside x.store summary) fixedParts fun _ => rfl).trans steady.parts,?_⟩
    exact same_keyed (unchanged (admit_beside x.store summary) LoomStore.programs fun _ => rfl) steady.keyed
  | detail detail =>
    refine ⟨(unchanged (detail_beside x.store detail) fixedParts fun _ => rfl).trans steady.parts,?_⟩
    exact same_keyed (unchanged (detail_beside x.store detail) LoomStore.programs fun _ => rfl) steady.keyed
  | sysvar summary =>
    refine ⟨(unchanged (upsert_sysvar_beside x.store summary) fixedParts fun _ => rfl).trans steady.parts,?_⟩
    refine same_keyed ?_ steady.keyed
    simp only [takeIn,upsertSysvar]
    split <;> rfl
  | program summary =>
    exact ⟨(unchanged (upsert_program_beside x.store summary) fixedParts fun _ => rfl).trans steady.parts,
      upsert_program_keyed _ summary steady.keyed⟩
  | interfaces states => exact ⟨steady.parts,steady.keyed⟩
  | push push => exact ⟨(push_fixed x.store push).trans steady.parts,push_keyed _ push steady.keyed⟩

theorem admit_keys (s : LoomStore V) (summary : DeviceSummary) :
    (admitDevice s summary).devices.keys = admitKey s.maxDevices s.devices.keys summary.address := by
  unfold admitDevice upsertDeviceSummary admitKey canAdmitDevice
  by_cases known : summary.address ∈ s.devices
  · simp [known,Dict.keys_modify,Dict.mem_keys]
  · by_cases room : s.devices.size < s.maxDevices
    · simp [known,room,Dict.keys_set,Dict.mem_keys,Dict.keys_length]
    · simp [known,room,Dict.mem_keys,Dict.keys_length]

theorem detail_keys (s : LoomStore V) (detail : DeviceDetail) :
    (attachDeviceDetail s detail).devices.keys = admitKey s.maxDevices s.devices.keys detail.address := by
  rw [←admit_keys s detail.toDeviceSummary]
  unfold attachDeviceDetail admitDevice
  cases admitted : upsertDeviceSummary s detail.toDeviceSummary with
  | none => rfl
  | some t =>
    let u := {t with devices := t.devices.modify detail.address (·.attachDetail detail.firmware detail.availability)}
    have dropped : ∀ w : LoomStore V, ((staleChannels w detail).foldl dropChannel w).devices = w.devices :=
      fun w => (unchanged (drop_channels_beside w _) LoomStore.devices fun _ => rfl)
    have filled : (detail.channels.foldl upsertChannel u).devices = u.devices :=
      (unchanged (upsert_channels_beside u detail.channels) LoomStore.devices fun _ => rfl)
    exact (congrArg Dict.keys ((dropped _).trans filled)).trans (Dict.keys_modify _ _ _)

theorem created_keys (s : LoomStore V) (payload : DeviceCreatedPayload) :
    (applyDeviceCreated s payload).devices.keys = admitKey s.maxDevices s.devices.keys payload.deviceAddress := by
  unfold applyDeviceCreated admitKey canAdmitDevice
  by_cases known : payload.deviceAddress ∈ s.devices
  · simp [known,Dict.mem_keys]
  · by_cases room : s.devices.size < s.maxDevices
    · simp [known,room,Dict.keys_set,Dict.mem_keys,Dict.keys_length]
    · simp [known,room,Dict.mem_keys,Dict.keys_length]

theorem admit_key_idle {s : LoomStore V} (idle : ¬ NewlyAdmitted s a) :
    admitKey s.maxDevices s.devices.keys a = s.devices.keys := by
  unfold admitKey
  by_cases known : a ∈ s.devices
  · simp [known,Dict.mem_keys]
  · have full : ¬ s.devices.size < s.maxDevices := fun room => idle ⟨known,room⟩
    simp [known,full,Dict.mem_keys,Dict.keys_length]

section Seen
variable {own : Option String → Bool} {s : LoomStore V}

theorem sameside_known {summary : SysvarSummary V} (same : SamesideSysvar own s summary.name true) :
    summary.name ∈ s.sysvars.shown (shownSysvar own) ↔ summary.name ∈ s.sysvars := by
  rw [Dict.mem_iff_get?,Dict.mem_iff_get?,Dict.get?_shown]
  constructor
  · rintro ⟨e,seen⟩
    obtain ⟨v,stored,_⟩ := Option.bind_eq_some_iff.mp seen
    exact ⟨v,stored⟩
  · rintro ⟨v,stored⟩
    exact ⟨(v.category,v.summary),by simp [stored,shownSysvar,same v stored]⟩

theorem own_sysvar_seen {summary : SysvarSummary V} (mine : own summary.central = true)
    (same : SamesideSysvar own s summary.name true) :
    (upsertSysvar s summary).sysvars.shown (shownSysvar own) =
      if summary.name ∈ s.sysvars.shown (shownSysvar own) then
        (s.sysvars.shown (shownSysvar own)).modify summary.name fun e => (e.1,summary)
      else (s.sysvars.shown (shownSysvar own)).set summary.name ((Model.Sysvar.build 0 summary).category,summary) := by
  unfold upsertSysvar
  by_cases known : summary.name ∈ s.sysvars
  · rw [if_pos known,if_pos ((sameside_known same).mpr known)]
    refine Dict.shown_modify (fun _ _ _ => rfl) fun v stored => ?_
    simp [shownSysvar,Model.Sysvar.replaceSummary,mine,same v stored]
  · rw [if_neg known,if_neg (mt (sameside_known same).mp known)]
    refine (Dict.shown_append (fun _ _ _ => rfl) known).trans ?_
    simp [shownSysvar,Model.Sysvar.build,mine]

theorem foreign_sysvar_seen {summary : SysvarSummary V} (foreign : own summary.central = false)
    (same : SamesideSysvar own s summary.name false) :
    (upsertSysvar s summary).sysvars.shown (shownSysvar own) = s.sysvars.shown (shownSysvar own) := by
  unfold upsertSysvar
  by_cases known : summary.name ∈ s.sysvars
  · rw [if_pos known]
    refine (Dict.shown_modify (h := id) (fun _ _ _ => rfl) fun v stored => ?_).trans (Dict.modify_same fun _ _ => rfl)
    simp [shownSysvar,Model.Sysvar.replaceSummary,foreign,same v stored]
  · rw [if_neg known]
    refine (Dict.shown_append (fun _ _ _ => rfl) known).trans ?_
    simp [shownSysvar,Model.Sysvar.build,foreign]

theorem pushed_sysvar_seen (payload : SysvarChangedPayload V) :
    (applySysvarChanged s payload).sysvars.shown (shownSysvar own) =
      (s.sysvars.shown (shownSysvar own)).modify payload.name fun e => (e.1,pushedSysvar payload e.2) := by
  refine Dict.shown_modify (fun _ _ _ => rfl) fun v _ => ?_
  cases side : own v.summary.central <;> simp [shownSysvar,Model.Sysvar.replaceSummary,pushedSysvar,side]

theorem unseen_modify {μ : Type} {d : Dict String μ} {f : μ → μ} (unseen : d.get? k = none) : d.modify k f = d :=
  Dict.modify_same fun v found => by rw [unseen] at found; cases found

theorem foreign_sysvar_unseen (same : SamesideSysvar own s name false) :
    (s.sysvars.shown (shownSysvar own)).get? name = none := by
  rw [Dict.get?_shown]
  cases stored : s.sysvars.get? name with
  | none => rfl
  | some v => simp [shownSysvar,same v stored]

def rewritten (s : LoomStore V) (id : String) (summary : ProgramSummary) : LoomStore V :=
  {s with
    programs := s.programs.modify id (·.replaceSummary summary)
    programDps := s.programDps.modify id fun twins => twins.map (·.replaceSummary summary)}

theorem shown_beside {id : String} {programDps other : Dict String (List Model.Program)}
    (same : ∀ k, k ≠ id → other.get? k = programDps.get? k) (k : String) (p : Model.Program) (differs : k ≠ id) :
    shownProgram own other k p = shownProgram own programDps k p := by
  simp [shownProgram,Dict.getD,same k differs]

theorem rewritten_seen {id : String} {summary : ProgramSummary}
    (h : ProgramSummary × List (Option DataPointCategory × ProgramSummary) →
      ProgramSummary × List (Option DataPointCategory × ProgramSummary))
    (side : ∀ p, s.programs.get? id = some p → own summary.central = own p.summary.central)
    (moves : ∀ p twins, s.programs.get? id = some p → own p.summary.central = true →
      h (p.summary,twins) = (summary,twins.map fun twin => (twin.1,summary))) :
    (rewritten s id summary).programs.shown (shownProgram own (rewritten s id summary).programDps) =
      (s.programs.shown (shownProgram own s.programDps)).modify id h := by
  refine Dict.shown_modify (fun k p differs => shown_beside (fun k differs => ?_) k p differs) fun p stored => ?_
  · simp [rewritten,Dict.get?_modify,differs]
  · cases mine : own p.summary.central with
    | false => simp [shownProgram,Model.Program.replaceSummary,side p stored,mine]
    | true =>
      have twins : shownTwins ((rewritten s id summary).programDps.getD id []) =
          (shownTwins (s.programDps.getD id [])).map fun twin => (twin.1,summary) := by
        simp only [rewritten,Dict.getD,Dict.get?_modify,if_true]
        cases s.programDps.get? id <;> simp [shownTwins,Model.Program.replaceSummary,Function.comp_def]
      simp only [shownProgram,Model.Program.replaceSummary,side p stored,mine,if_true,Option.map_some,twins]
      rw [moves p _ stored mine]

theorem upsert_known {summary : ProgramSummary} (known : summary.id ∈ s.programs) :
    upsertProgram s summary = rewritten s summary.id summary := by
  unfold upsertProgram
  rw [if_pos known]
  rfl

theorem sameside_program_known {id : String} (same : SamesideProgram own s id true) :
    id ∈ s.programs.shown (shownProgram own s.programDps) ↔ id ∈ s.programs := by
  rw [Dict.mem_iff_get?,Dict.mem_iff_get?,Dict.get?_shown]
  constructor
  · rintro ⟨e,seen⟩
    obtain ⟨p,stored,_⟩ := Option.bind_eq_some_iff.mp seen
    exact ⟨p,stored⟩
  · rintro ⟨p,stored⟩
    exact ⟨_,by simp [stored,shownProgram,same p stored]; rfl⟩

theorem foreign_program_unseen {id : String} (same : SamesideProgram own s id false) :
    (s.programs.shown (shownProgram own s.programDps)).get? id = none := by
  rw [Dict.get?_shown]
  cases stored : s.programs.get? id with
  | none => rfl
  | some p => simp [shownProgram,same p stored]

theorem fresh_program {summary : ProgramSummary} (factory : s.programFactory = true) (fresh : summary.id ∉ s.programs) :
    (upsertProgram s summary).programs.shown (shownProgram own (upsertProgram s summary).programDps) =
      if own summary.central then (s.programs.shown (shownProgram own s.programDps)).set summary.id
        (summary,[(some .hubButton,summary),(some .hubSwitch,summary)])
      else s.programs.shown (shownProgram own s.programDps) := by
  unfold upsertProgram
  rw [if_neg fresh,if_pos factory]
  refine (Dict.shown_append (g := shownProgram own s.programDps)
    (fun k p differs => shown_beside (fun k differs => ?_) k p differs) fresh).trans ?_
  · simp [Dict.get?_set,differs]
  · cases side : own summary.central <;> simp [shownProgram,shownTwins,Dict.getD,Dict.get?_set,side]

theorem own_program_seen {summary : ProgramSummary} (factory : s.programFactory = true)
    (mine : own summary.central = true) (same : SamesideProgram own s summary.id true) :
    (upsertProgram s summary).programs.shown (shownProgram own (upsertProgram s summary).programDps) =
      if summary.id ∈ s.programs.shown (shownProgram own s.programDps) then
        (s.programs.shown (shownProgram own s.programDps)).modify summary.id
          fun e => (summary,e.2.map fun twin => (twin.1,summary))
      else (s.programs.shown (shownProgram own s.programDps)).set summary.id
        (summary,[(some .hubButton,summary),(some .hubSwitch,summary)]) := by
  by_cases known : summary.id ∈ s.programs
  · rw [if_pos ((sameside_program_known same).mpr known),upsert_known known]
    refine rewritten_seen _ (fun p stored => ?_) fun _ _ _ _ => rfl
    rw [mine,same p stored]
  · rw [if_neg (mt (sameside_program_known same).mp known),fresh_program factory known,if_pos mine]

theorem foreign_program_seen {summary : ProgramSummary} (factory : s.programFactory = true)
    (foreign : own summary.central = false) (same : SamesideProgram own s summary.id false) :
    (upsertProgram s summary).programs.shown (shownProgram own (upsertProgram s summary).programDps) =
      s.programs.shown (shownProgram own s.programDps) := by
  by_cases known : summary.id ∈ s.programs
  · rw [upsert_known known]
    refine (rewritten_seen (fun e => e) (fun p stored => ?_) fun p _ stored mine => ?_).trans (unseen_modify ?_)
    · rw [foreign,same p stored]
    · rw [same p stored] at mine
      cases mine
    · exact foreign_program_unseen same
  · rw [fresh_program factory known,foreign]
    rfl

theorem changed_program_seen (keyed : ProgramsKeyed s) (id : String) (change : ProgramSummary → Option ProgramSummary)
    (kept : ∀ a b, change a = some b → b.id = a.id ∧ b.central = a.central)
    {t : LoomStore V}
    (moved : t = match (s.programs.get? id).bind fun p => change p.summary with
      | none => s
      | some summary => upsertProgram s summary) :
    t.programs.shown (shownProgram own t.programDps) =
      (s.programs.shown (shownProgram own s.programDps)).modify id (rewriteSeen change) := by
  cases stored : s.programs.get? id with
  | none =>
    rw [stored] at moved
    subst moved
    refine (unseen_modify ?_).symm
    rw [Dict.get?_shown,stored]
    rfl
  | some p =>
    rw [stored] at moved
    cases changed : change p.summary with
    | none =>
      simp only [Option.bind_some,changed] at moved
      subst moved
      refine (Dict.modify_same fun e seen => ?_).symm
      rw [Dict.get?_shown,stored] at seen
      simp only [Option.bind_some,shownProgram] at seen
      split at seen
      · cases seen
        simp [rewriteSeen,changed]
      · cases seen
    | some summary =>
      simp only [Option.bind_some,changed] at moved
      obtain ⟨sameId,sameCentral⟩ := kept p.summary summary changed
      have own_id : summary.id = id := sameId.trans (keyed id p stored)
      have known : summary.id ∈ s.programs := own_id ▸ Dict.mem_of_get? stored
      rw [upsert_known known,own_id] at moved
      subst moved
      refine rewritten_seen (rewriteSeen change) (fun q found => ?_) fun q twins found _ => ?_
      · cases stored.symm.trans found
        rw [sameCentral]
      · cases stored.symm.trans found
        simp [rewriteSeen,changed]

theorem sight_parts {x : Facade V} {t : LoomStore V} {g : Sight V}
    (devices : t.devices.keys = g.devices)
    (sysvars : t.sysvars.shown (shownSysvar own) = g.sysvars)
    (programs : t.programs.shown (shownProgram own t.programDps) = g.programs)
    (interfaces : x.interfaces = g.interfaces) (events : x.centralEvents = g.centralEvents) :
    sight own {x with store := t} = g := by
  obtain ⟨_,_,_,_,_⟩ := g
  cases devices
  cases sysvars
  cases programs
  cases interfaces
  cases events
  rfl

def hubPart (s : LoomStore V) : Dict String (Model.Sysvar V) × Dict String Model.Program × Dict String (List Model.Program) :=
  (s.sysvars,s.programs,s.programDps)

theorem devices_sight {x : Facade V} {t : LoomStore V} {devices : List Address} (hub : hubPart t = hubPart x.store)
    (keys : t.devices.keys = devices) : sight own {x with store := t} = {sight own x with devices} := by
  obtain ⟨sysvars,programs,twins⟩ : t.sysvars = x.store.sysvars ∧ t.programs = x.store.programs ∧
      t.programDps = x.store.programDps := by simpa [hubPart] using hub
  exact sight_parts keys (by rw [sysvars]; rfl) (by rw [programs,twins]; rfl) rfl rfl

theorem idle_sight {x : Facade V} {t : LoomStore V} (hub : hubPart t = hubPart x.store)
    (keys : t.devices.keys = x.store.devices.keys) : sight own {x with store := t} = sight own x :=
  devices_sight hub keys

theorem hub_sight {x : Facade V} {t : LoomStore V}
    {sysvars : Dict String (DataPointCategory × SysvarSummary V)}
    {programs : Dict String (ProgramSummary × List (Option DataPointCategory × ProgramSummary))}
    (frame : besideHub t = besideHub x.store) (hubVars : t.sysvars.shown (shownSysvar own) = sysvars)
    (records : t.programs.shown (shownProgram own t.programDps) = programs) :
    sight own {x with store := t} = {sight own x with sysvars, programs} :=
  sight_parts (unchanged frame (fun u => u.devices.keys) fun _ => rfl) hubVars records rfl rfl

theorem executed_moved (s : LoomStore V) (payload : ProgramExecutedPayload) :
    applyProgramExecuted s payload =
      match (s.programs.get? payload.programId).bind fun p => executedChange payload p.summary with
      | none => s
      | some summary => upsertProgram s summary := by
  unfold applyProgramExecuted executedChange
  cases s.programs.get? payload.programId with
  | none => rfl
  | some p =>
    cases truthy payload.channel with
    | none => rfl
    | some channel =>
      simp only [Option.bind_some]
      by_cases moved : some channel ≠ p.summary.channel ∨ payload.deviceAddress ≠ p.summary.deviceAddress
      · rw [if_pos moved,if_pos moved]
      · rw [if_neg moved,if_neg moved]

theorem changed_moved (s : LoomStore V) (payload : ProgramChangedPayload) :
    applyProgramChanged s payload =
      match (s.programs.get? payload.programId).bind fun p => some (flippedSummary payload p.summary) with
      | none => s
      | some summary => upsertProgram s summary := by
  unfold applyProgramChanged
  cases s.programs.get? payload.programId <;> rfl

theorem executed_kept (payload : ProgramExecutedPayload) (a b : ProgramSummary)
    (changed : executedChange payload a = some b) : b.id = a.id ∧ b.central = a.central := by
  unfold executedChange at changed
  split at changed
  · cases changed
  · split at changed
    · cases changed
      exact ⟨rfl,rfl⟩
    · cases changed

theorem flipped_kept (payload : ProgramChangedPayload) (a b : ProgramSummary)
    (changed : some (flippedSummary payload a) = some b) : b.id = a.id ∧ b.central = a.central := by
  cases changed
  unfold flippedSummary
  split <;> exact ⟨rfl,rfl⟩

theorem program_push_sysvars {t : LoomStore V} (chosen : Option ProgramSummary)
    (moved : t = match chosen with
      | none => s
      | some summary => upsertProgram s summary) : t.sysvars = s.sysvars := by
  subst moved
  cases chosen with
  | none => rfl
  | some summary => exact upsert_program_sysvars s summary

end Seen

section Pushes
variable {own : Option String → Bool} {x : Facade V} {fixed : String × String × Nat}

theorem program_push_sight (keyed : ProgramsKeyed x.store) {t : LoomStore V} {id : String}
    {change : ProgramSummary → Option ProgramSummary}
    (kept : ∀ a b, change a = some b → b.id = a.id ∧ b.central = a.central)
    (moved : t = match (x.store.programs.get? id).bind fun p => change p.summary with
      | none => x.store
      | some summary => upsertProgram x.store summary)
    (frame : besideHub t = besideHub x.store) :
    sight own {x with store := t} = {sight own x with programs := (sight own x).programs.modify id (rewriteSeen change)} :=
  hub_sight frame (by rw [program_push_sysvars _ moved]; rfl) (changed_program_seen keyed id change kept moved)

theorem push_seen (steady : Steady fixed x) (push : Push V) :
    sight own (takeIn x (.push push)) = seePush fixed.2.2 fixed.1 (sight own x) push := by
  obtain ⟨name,_,cap,_⟩ : x.store.centralName = fixed.1 ∧ x.store.centralId = fixed.2.1 ∧
      x.store.maxDevices = fixed.2.2 ∧ x.store.programFactory = true := by simpa [fixedParts] using steady.parts
  have events : ∀ push : Push V, published x.store push = [] →
      takeIn x (.push push) = {x with store := applyPush x.store push} := by
    intro push silent
    simp [takeIn,silent]
  cases push with
  | deviceCreated payload =>
    rw [events _ rfl]
    refine devices_sight (unchanged (created_beside x.store payload) hubPart fun _ => rfl) ?_
    rw [←cap]
    exact created_keys x.store payload
  | deviceRemoved payload =>
    rw [events _ rfl]
    refine devices_sight (unchanged (removed_beside x.store payload) hubPart fun _ => rfl) ?_
    rw [show (applyPush x.store (.deviceRemoved payload)).devices = _ from removed_erases x.store payload]
    exact Dict.keys_erase _ _
  | sysvarChanged payload =>
    rw [events _ rfl]
    exact hub_sight rfl (pushed_sysvar_seen payload) rfl
  | programExecuted payload =>
    rw [events _ rfl]
    exact program_push_sight steady.keyed (executed_kept payload) (executed_moved x.store payload)
      (program_executed_beside x.store payload)
  | programChanged payload =>
    rw [events _ rfl]
    exact program_push_sight steady.keyed (flipped_kept payload) (changed_moved x.store payload)
      (program_changed_beside x.store payload)
  | centralStateChanged payload =>
    simp only [takeIn,published,seePush,name]
    rfl
  | customStateChanged payload =>
    rw [events _ rfl]
    exact idle_sight (unchanged (mutate_cdp_beside x.store _ _) hubPart fun _ => rfl)
      (unchanged (mutate_cdp_beside x.store _ _) (fun u => u.devices.keys) fun _ => rfl)
  | alarmPanelChanged payload =>
    rw [events _ rfl]
    exact idle_sight (unchanged (panel_changed_beside x.store payload) hubPart fun _ => rfl)
      (unchanged (panel_changed_beside x.store payload) (fun u => u.devices.keys) fun _ => rfl)
  | availabilityChanged payload =>
    rw [events _ rfl]
    exact idle_sight rfl (Dict.keys_modify _ _ _)
  | deviceRefreshed payload =>
    rw [events _ rfl]
    exact idle_sight rfl (Dict.keys_modify _ _ _)
  | valueChanged payload =>
    rw [events _ rfl]
    exact idle_sight rfl rfl
  | deviceReleased payload =>
    rw [events _ rfl]
    exact idle_sight rfl rfl
  | metadataChanged payload =>
    rw [events _ rfl]
    exact idle_sight rfl rfl

theorem foreign_push_unseen (cap : x.store.maxDevices = maxDevices) (push : Push V)
    (foreign : own (pushTag push) = false) (harmless : Harmless own x (.push push)) :
    seePush maxDevices centralName (sight own x) push = sight own x := by
  have apart := harmless foreign
  cases push with
  | deviceCreated payload =>
    have same := admit_key_idle apart
    rw [cap] at same
    simp only [seePush,sight,same]
  | deviceRemoved payload =>
    have same : (sight own x).devices.filter (fun a => decide (a ≠ payload.deviceAddress)) = (sight own x).devices :=
      List.filter_eq_self.mpr fun a known => decide_eq_true fun equal => apart (equal ▸ known)
    rw [seePush,same]
  | sysvarChanged payload =>
    have unseen : (sight own x).sysvars.get? payload.name = none := foreign_sysvar_unseen apart
    rw [seePush,unseen_modify unseen]
  | programExecuted payload =>
    have unseen : (sight own x).programs.get? payload.programId = none := foreign_program_unseen apart
    rw [seePush,unseen_modify unseen]
  | programChanged payload =>
    have unseen : (sight own x).programs.get? payload.programId = none := foreign_program_unseen apart
    rw [seePush,unseen_modify unseen]
  | centralStateChanged payload => exact apart.elim
  | _ => rfl

theorem record_seen (steady : Steady fixed x) (record : Record V) (harmless : Harmless own x record) :
    sight own (takeIn x record) = match ownPart own record with
      | none => sight own x
      | some part => see fixed.2.2 fixed.1 (sight own x) part := by
  obtain ⟨_,_,cap,factory⟩ : x.store.centralName = fixed.1 ∧ x.store.centralId = fixed.2.1 ∧
      x.store.maxDevices = fixed.2.2 ∧ x.store.programFactory = true := by simpa [fixedParts] using steady.parts
  cases record with
  | device summary =>
    have seen : sight own (takeIn x (.device summary)) =
        {sight own x with devices := admitKey fixed.2.2 x.store.devices.keys summary.address} :=
      devices_sight (unchanged (admit_beside x.store summary) hubPart fun _ => rfl)
        (cap ▸ admit_keys x.store summary)
    rw [seen]
    cases mine : own summary.central with
    | true => simp [ownPart,mine,see,sight]
    | false =>
      have same := admit_key_idle (harmless mine)
      rw [cap] at same
      simp [ownPart,mine,sight,same]
  | detail detail =>
    have seen : sight own (takeIn x (.detail detail)) =
        {sight own x with devices := admitKey fixed.2.2 x.store.devices.keys detail.address} :=
      devices_sight (unchanged (detail_beside x.store detail) hubPart fun _ => rfl)
        (cap ▸ detail_keys x.store detail)
    rw [seen]
    cases mine : own detail.central with
    | true => simp [ownPart,mine,see,sight]
    | false =>
      have same := admit_key_idle (harmless mine)
      rw [cap] at same
      simp [ownPart,mine,sight,same]
  | sysvar summary =>
    have frame := upsert_sysvar_beside x.store summary
    have others : (upsertSysvar x.store summary).programs = x.store.programs ∧
        (upsertSysvar x.store summary).programDps = x.store.programDps := by
      unfold upsertSysvar
      split <;> exact ⟨rfl,rfl⟩
    have programs : (upsertSysvar x.store summary).programs.shown
        (shownProgram own (upsertSysvar x.store summary).programDps) = (sight own x).programs := by
      rw [others.1,others.2]
      rfl
    cases mine : own summary.central with
    | true =>
      have same : SamesideSysvar own x.store summary.name true := mine ▸ harmless
      simp only [ownPart,mine,if_true,see]
      exact hub_sight frame (own_sysvar_seen mine same) programs
    | false =>
      have same : SamesideSysvar own x.store summary.name false := mine ▸ harmless
      simp only [ownPart,mine]
      exact hub_sight frame (foreign_sysvar_seen mine same) programs
  | program summary =>
    have frame := upsert_program_beside x.store summary
    have sysvars : (upsertProgram x.store summary).sysvars.shown (shownSysvar own) = (sight own x).sysvars := by
      rw [upsert_program_sysvars]
      rfl
    cases mine : own summary.central with
    | true =>
      have same : SamesideProgram own x.store summary.id true := mine ▸ harmless
      simp only [ownPart,mine,if_true,see]
      exact hub_sight frame sysvars (own_program_seen factory mine same)
    | false =>
      have same : SamesideProgram own x.store summary.id false := mine ▸ harmless
      simp only [ownPart,mine]
      exact hub_sight frame sysvars (foreign_program_seen factory mine same)
  | interfaces states =>
    have all : (states.filter fun i => own i.centralId) = states := List.filter_eq_self.mpr harmless
    simp only [ownPart,see,all]
    rfl
  | push push =>
    rw [push_seen steady push]
    cases mine : own (pushTag push) with
    | true => simp only [ownPart,mine,if_true,see]
    | false =>
      simp only [ownPart,mine]
      exact foreign_push_unseen cap push mine harmless

end Pushes

theorem foldl_store (take : LoomStore V → α → LoomStore V) (record : α → Record V)
    (each : ∀ (x : Facade V) a, takeIn x (record a) = {x with store := take x.store a}) (x : Facade V) (items : List α) :
    (items.map record).foldl takeIn x = {x with store := items.foldl take x.store} := by
  induction items generalizing x with
  | nil => rfl
  | cons a rest ih => rw [List.map_cons,List.foldl_cons,each,ih]; rfl

theorem receive_records (x : Facade V) (inbound : Inbound V) (pinned : x.store.centralId ≠ "") :
    receive x inbound = (recordsOf inbound).foldl takeIn x := by
  cases inbound with
  | snapshot read =>
    simp only [recordsOf,List.foldl_append]
    rw [foldl_store admitDevice .device (fun _ _ => rfl),foldl_store upsertProgram .program (fun _ _ => rfl),
      foldl_store upsertSysvar .sysvar (fun _ _ => rfl)]
    simp only [receive,loadSnapshot,adoptCentralId,if_neg pinned]
  | hubCatalogue sysvars programs =>
    simp only [recordsOf,List.foldl_append]
    rw [foldl_store upsertSysvar .sysvar (fun _ _ => rfl),foldl_store upsertProgram .program (fun _ _ => rfl)]
    rfl
  | _ => rfl

theorem records_steady (x : Facade V) (records : List (Record V)) (steady : Steady fixed x) :
    Steady fixed (records.foldl takeIn x) :=
  List.foldlRecOn records takeIn steady fun y held record _ => take_steady y record held

theorem receive_all_records (x : Facade V) (inbound : List (Inbound V)) (steady : Steady fixed x)
    (pinned : fixed.2.1 ≠ "") : inbound.foldl receive x = (inbound.flatMap recordsOf).foldl takeIn x := by
  induction inbound generalizing x with
  | nil => rfl
  | cons first rest ih =>
    have id : x.store.centralId = fixed.2.1 := congrArg (fun parts => parts.2.1) steady.parts
    have here := receive_records x first (id ▸ pinned)
    rw [List.foldl_cons,here,ih _ (records_steady x (recordsOf first) steady),List.flatMap_cons,List.foldl_append]

def hubList (s : LoomStore V) : List (DataPointCategory × String) :=
  (allHubDataPoints s).map fun h => (h.category,h.uniqueId)

def hubOf (g : Sight V) : List (DataPointCategory × String) :=
  (g.sysvars.values.filter fun e => !isExcludedSysvar e.2).map (fun e => (e.1,e.2.uniqueId)) ++
  g.programs.values.flatMap fun e => e.2.filterMap fun twin => twin.1.map fun category => (category,twin.2.uniqueId)

theorem sysvars_listed (own : Option String → Bool) (entries : List (String × Model.Sysvar V)) :
    (((entries.map Prod.snd).filter fun v => own v.summary.central && !isExcludedSysvar v.summary).map
      fun v => (v.category,v.summary.uniqueId)) =
    ((entries.filterMap fun e => shownSysvar own e.1 e.2).filter fun e => !isExcludedSysvar e.2).map
      fun e => (e.1,e.2.uniqueId) := by
  induction entries with
  | nil => rfl
  | cons e rest ih =>
    cases mine : own e.2.summary.central with
    | false => simpa [shownSysvar,mine] using ih
    | true => cases excluded : isExcludedSysvar e.2.summary <;> simpa [shownSysvar,mine,excluded] using ih

theorem programs_listed (own : Option String → Bool) (twins : Dict String (List Model.Program))
    (entries : List (String × Model.Program)) (keyed : ∀ e ∈ entries, e.2.summary.id = e.1) :
    (((entries.map Prod.snd).filter fun p => own p.summary.central).flatMap fun p =>
      (twins.getD p.summary.id []).filterMap fun twin => twin.category.map fun c => (c,twin.summary.uniqueId)) =
    (entries.filterMap fun e => shownProgram own twins e.1 e.2).flatMap fun e =>
      e.2.filterMap fun twin => twin.1.map fun c => (c,twin.2.uniqueId) := by
  induction entries with
  | nil => rfl
  | cons e rest ih =>
    have later := ih fun other member => keyed other (List.mem_cons_of_mem _ member)
    have key := keyed e List.mem_cons_self
    cases mine : own e.2.summary.central with
    | false => simpa [shownProgram,mine] using later
    | true =>
      simp only [List.map_cons,List.filter_cons,mine,if_true,List.flatMap_cons,later,List.filterMap_cons,shownProgram,
        key,shownTwins,List.filterMap_map]
      rfl

theorem hub_list_of_sight (x : Facade V) (keyed : ProgramsKeyed x.store) :
    hubList x.store = hubOf (sight (matchesCentral x.store) x) := by
  have first := sysvars_listed (matchesCentral x.store) x.store.sysvars.entries
  have second := programs_listed (matchesCentral x.store) x.store.programDps x.store.programs.entries
    fun e member => keyed e.1 e.2 (Dict.mem_entries.mp member)
  simp only [hubOf,sight,Dict.values_shown]
  simp only [hubList,allHubDataPoints,Dict.values,List.map_append,List.map_map,List.map_flatMap,List.map_filterMap,
    Option.map_map,Function.comp_def] at first second ⊢
  rw [first,second]

def localView (x : Facade V) : Sight V × List (DataPointCategory × String) :=
  (sight (matchesCentral x.store) x,hubList x.store)

-- Every record of a run is harmless where it arrives.
def RunsApart (own : Option String → Bool) (x : Facade V) (inbound : List (Inbound V)) : Prop :=
  Every (total takeIn) (fun x record _ => Harmless own x record) x (inbound.flatMap recordsOf)

instance (own : Option String → Bool) (x : Facade V) (inbound : List (Inbound V)) : Decidable (RunsApart own x inbound) := by
  unfold RunsApart; infer_instance

theorem local_view_replays (maxDevices : Nat) (centralName centralId serialSuffix : String) (pinned : centralId ≠ "")
    (inbound : List (Inbound V)) :
    let own := isOwn centralName centralId
    let x : Facade V := .pinned maxDevices centralName centralId serialSuffix
    RunsApart own x inbound →
      let seen := (ownRecords own inbound).foldl (see maxDevices centralName) (sight own x)
      localView (inbound.foldl receive x) = (seen,hubOf seen) := by
  intro own x apart seen
  have steady : Steady (centralName,centralId,maxDevices) x := by
    refine ⟨rfl,fun id p found => ?_⟩
    simp [x,Facade.pinned,LoomStore.categorised,LoomStore.empty] at found
  have last := records_steady x (inbound.flatMap recordsOf) steady
  rw [←receive_all_records x inbound steady pinned] at last
  have filter : matchesCentral (inbound.foldl receive x).store = own := by
    have name : (inbound.foldl receive x).store.centralName = centralName :=
      congrArg (fun parts => parts.1) last.parts
    have id : (inbound.foldl receive x).store.centralId = centralId := congrArg (fun parts => parts.2.1) last.parts
    funext central
    simp only [matchesCentral,name,id,own]
  have replayed : sight own (inbound.foldl receive x) = seen := by
    rw [receive_all_records x inbound steady pinned]
    refine observed_replay (fun y record held => take_steady y record held) ?_ steady apart
    intro y record held harmless
    have moved := record_seen held record harmless
    cases part : ownPart own record <;> rw [part] at moved <;> exact moved
  rw [localView,hub_list_of_sight _ last.keyed,filter,replayed]

theorem isolated_when_apart (maxDevices : Nat) (centralName centralId serialSuffix : String) (pinned : centralId ≠ "")
    (first second : List (Inbound V))
    (agree : ownRecords (isOwn centralName centralId) first = ownRecords (isOwn centralName centralId) second)
    (firstApart : RunsApart (isOwn centralName centralId) (.pinned maxDevices centralName centralId serialSuffix) first)
    (secondApart : RunsApart (isOwn centralName centralId) (.pinned maxDevices centralName centralId serialSuffix) second) :
    localView (first.foldl receive (.pinned maxDevices centralName centralId serialSuffix)) =
      localView (second.foldl receive (.pinned maxDevices centralName centralId serialSuffix)) := by
  have left := local_view_replays maxDevices centralName centralId serialSuffix pinned first firstApart
  have right := local_view_replays maxDevices centralName centralId serialSuffix pinned second secondApart
  dsimp only at left right
  rw [left,right,agree]

def sampleVariable (central name : String) (value : Nat) : SysvarSummary Nat :=
  ⟨some central,name,"FLOAT",some value,true,none,none,none,none,none,central ++ name⟩

theorem sibling_variable_invisible :
    localView (([.hubCatalogue [sampleVariable "A" "t" 1,sampleVariable "B" "u" 2] [],
        .push (.sysvarChanged ⟨"B","u","",some 3,none,none⟩)] : List (Inbound Nat)).foldl receive (.pinned 8 "A" "A" "")) =
      localView (([.hubCatalogue [sampleVariable "A" "t" 1] []] : List (Inbound Nat)).foldl receive
        (.pinned 8 "A" "A" "")) :=
  isolated_when_apart 8 "A" "A" "" (by decide) _ _ (by decide +kernel) (by decide +kernel) (by decide +kernel)

theorem sibling_push_writes_own_variable :
    let first : List (Inbound Nat) := [.hubCatalogue [sampleVariable "A" "t" 1] [],
      .push (.sysvarChanged ⟨"B","t","",some 3,none,none⟩)]
    let second : List (Inbound Nat) := [.hubCatalogue [sampleVariable "A" "t" 1] []]
    ¬ (ownRecords (isOwn "A" "A") first = ownRecords (isOwn "A" "A") second →
      localView (first.foldl receive (.pinned 8 "A" "A" "")) =
        localView (second.foldl receive (.pinned 8 "A" "A" ""))) := by
  decide +kernel

end LoomClient.Compat
