import LoomClient.Store.InPlace

namespace LoomClient.Store
open Lib Wire
variable {V : Type}

-- The twins of a program that is known before the factory is installed.
def buildProgramTwins (s : LoomStore V) (program : Model.Program) : LoomStore V :=
  if s.programFactory = true ∧ program.summary.id ∉ s.programDps then
    {s with
      programDps := s.programDps.set program.summary.id
        [⟨s.nextOid,some .hubButton,program.summary⟩,⟨s.nextOid + 1,some .hubSwitch,program.summary⟩]
      nextOid := s.nextOid + 2}
  else s

def setHubDataPointFactories (s : LoomStore V) (programFactory : Bool) : LoomStore V :=
  s.programs.values.foldl buildProgramTwins {s with programFactory}

def programDataPoints (s : LoomStore V) (id : String) : List Model.Program := s.programDps.getD id []

-- A call of the store, or the factory installed.
inductive TwinStep (V : Type) where
  | operate (operation : Operation V)
  | install
  deriving DecidableEq

def twinStep (s : LoomStore V) : TwinStep V → Option (LoomStore V)
  | .operate op => some (apply s op)
  | .install => some (setHubDataPointFactories s true)

-- The button and the switch over one record.
def mirroredBy (program : Model.Program) : List (Option DataPointCategory × ProgramSummary) :=
  [(some .hubButton,program.summary),(some .hubSwitch,program.summary)]

def faces (twins : List Model.Program) : List (Option DataPointCategory × ProgramSummary) :=
  twins.map fun twin => (twin.category,twin.summary)

-- Once the factory is installed: one tuple of twins for every program known.
structure Mirrored (s : LoomStore V) : Prop where
  known : ∀ id, id ∈ s.programDps ↔ id ∈ s.programs
  carried : ∀ id program, s.programs.get? id = some program → faces (programDataPoints s id) = mirroredBy program

def MirroredOnceInstalled (s : LoomStore V) : Prop := s.programFactory = true → Mirrored s

def twinOids (s : LoomStore V) (id : String) : Option (List Model.Oid) := (s.programDps.get? id).map (·.map (·.oid))

-- What holds before the factory is installed too: twins are of a known program.
structure Backed (s : LoomStore V) : Prop where
  keyed : ∀ id program, s.programs.get? id = some program → program.summary.id = id
  twins : ∀ id twins, s.programDps.get? id = some twins →
    ∃ program, s.programs.get? id = some program ∧ faces twins = mirroredBy program

structure Paired (s : LoomStore V) : Prop extends Backed s where
  complete : s.programFactory = true → ∀ id ∈ s.programs, id ∈ s.programDps

theorem Backed.unpaired {s : LoomStore V} {id : String} (backed : Backed s) (fresh : id ∉ s.programs) :
    id ∉ s.programDps := by
  intro member
  obtain ⟨twins,found⟩ := Dict.mem_iff_get?.mp member
  obtain ⟨program,stored,_⟩ := backed.twins id twins found
  exact fresh (Dict.mem_of_get? stored)

theorem Paired.mirrored {s : LoomStore V} (paired : Paired s) : MirroredOnceInstalled s := by
  intro installed
  refine ⟨fun id => ⟨fun member => ?_,paired.complete installed id⟩,fun id program stored => ?_⟩
  · by_contra fresh
    exact paired.unpaired fresh member
  · obtain ⟨twins,found⟩ := Dict.mem_iff_get?.mp (paired.complete installed id (Dict.mem_of_get? stored))
    obtain ⟨record,stored',carried⟩ := paired.twins id twins found
    rw [stored] at stored'
    rw [programDataPoints,Dict.getD,found,Option.some.inj stored']
    exact carried

section Upsert
variable {s : LoomStore V} (summary : ProgramSummary)

theorem faces_replaced (twins : List Model.Program) (record : Model.Program) (carried : faces twins = mirroredBy record) :
    faces (twins.map (·.replaceSummary summary)) = mirroredBy (record.replaceSummary summary) := by
  have both : faces (twins.map (·.replaceSummary summary)) = (faces twins).map fun face => (face.1,summary) := by
    simp [faces,Model.Program.replaceSummary,Function.comp_def]
  rw [both,carried]
  rfl

theorem upsert_program_paired (paired : Paired s) : Paired (upsertProgram s summary) := by
  unfold upsertProgram
  split
  · refine ⟨⟨?_,?_⟩,?_⟩
    · intro id program found
      rw [Dict.get?_modify] at found
      split at found
      · rename_i here
        obtain ⟨_,_,rfl⟩ := Option.map_eq_some_iff.mp found
        exact here.symm
      · exact paired.keyed id program found
    · intro id twins found
      simp only [Dict.get?_modify] at found ⊢
      split at found
      · rename_i here
        obtain ⟨old,stored,rfl⟩ := Option.map_eq_some_iff.mp found
        obtain ⟨record,known,carried⟩ := paired.twins id old stored
        rw [if_pos here,known]
        exact ⟨_,rfl,faces_replaced summary old record carried⟩
      · rename_i other
        rw [if_neg other]
        exact paired.twins id twins found
    · intro installed id member
      exact Dict.mem_modify.mpr (paired.complete installed id (Dict.mem_modify.mp member))
  · rename_i fresh
    have unpaired := paired.unpaired fresh
    have keyed : ∀ oid id program, (s.programs.set summary.id ⟨oid,none,summary⟩).get? id = some program →
        program.summary.id = id := by
      intro oid id program found
      rw [Dict.get?_set] at found
      split at found
      · rename_i here
        cases found
        exact here.symm
      · exact paired.keyed id program found
    have others : ∀ (oid : Model.Oid) id twins, s.programDps.get? id = some twins →
        ∃ program, (s.programs.set summary.id ⟨oid,none,summary⟩).get? id = some program ∧ faces twins = mirroredBy program := by
      intro oid id twins found
      have other : id ≠ summary.id := fun here => unpaired (here ▸ Dict.mem_of_get? found)
      rw [Dict.get?_set,if_neg other]
      exact paired.twins id twins found
    split
    · rename_i installed
      refine ⟨⟨keyed _,?_⟩,?_⟩
      · intro id twins found
        rw [Dict.get?_set] at found
        split at found
        · rename_i here
          cases found
          exact ⟨⟨s.nextOid,none,summary⟩,by rw [here,Dict.get?_set_self],rfl⟩
        · exact others _ id twins found
      · intro _ id member
        rcases Dict.mem_set.mp member with here | known
        · exact Dict.mem_set.mpr (.inl here)
        · exact Dict.mem_set.mpr (.inr (paired.complete installed id known))
    · rename_i missing
      exact ⟨⟨keyed _,others _⟩,fun installed => absurd installed missing⟩

theorem upsert_program_keeps_twins (paired : Paired s) : Grows (twinOids s) (twinOids (upsertProgram s summary)) := by
  unfold upsertProgram
  split
  · refine grows_of_same ?_
    funext id
    refine Dict.read_modify ?_ id
    intro twins _
    simp [Model.Program.replaceSummary,Function.comp_def]
  · rename_i fresh
    have unpaired := paired.unpaired fresh
    split
    · exact fun id oids found => Dict.read_set_absent unpaired found
    · exact grows_refl _

theorem upsert_program_factory : (upsertProgram s summary).programFactory = s.programFactory := by
  unfold upsertProgram
  split
  · rfl
  · split <;> rfl

end Upsert

section Install
variable {s : LoomStore V}

theorem build_twins_programs (program : Model.Program) : (buildProgramTwins s program).programs = s.programs := by
  unfold buildProgramTwins
  split <;> rfl

theorem build_twins_factory (program : Model.Program) :
    (buildProgramTwins s program).programFactory = s.programFactory := by
  unfold buildProgramTwins
  split <;> rfl

theorem build_twins_backed (program : Model.Program) (known : s.programs.get? program.summary.id = some program)
    (backed : Backed s) : Backed (buildProgramTwins s program) := by
  refine ⟨?_,?_⟩
  · rw [build_twins_programs]
    exact backed.keyed
  · intro id twins found
    rw [build_twins_programs]
    unfold buildProgramTwins at found
    split at found
    · rw [Dict.get?_set] at found
      split at found
      · rename_i here
        cases found
        exact ⟨program,here ▸ known,rfl⟩
      · exact backed.twins id twins found
    · exact backed.twins id twins found

theorem build_twins_mem (installed : s.programFactory = true) (program : Model.Program) (id : String) :
    id ∈ (buildProgramTwins s program).programDps ↔ id = program.summary.id ∨ id ∈ s.programDps := by
  unfold buildProgramTwins
  by_cases there : program.summary.id ∈ s.programDps
  · rw [if_neg fun fresh => fresh.2 there]
    refine ⟨Or.inr,?_⟩
    rintro (rfl | member)
    · exact there
    · exact member
  · rw [if_pos ⟨installed,there⟩]
    exact Dict.mem_set

theorem build_twins_grow (program : Model.Program) : Grows (twinOids s) (twinOids (buildProgramTwins s program)) := by
  unfold buildProgramTwins
  split
  · rename_i fresh
    exact fun id oids found => Dict.read_set_absent fresh.2 found
  · exact grows_refl _

theorem built_twins_mem (installed : s.programFactory = true) (programs : List Model.Program) (id : String) :
    id ∈ (programs.foldl buildProgramTwins s).programDps ↔
      (∃ program ∈ programs, id = program.summary.id) ∨ id ∈ s.programDps := by
  induction programs generalizing s with
  | nil => simp
  | cons program rest ih =>
    rw [List.foldl_cons,ih (installed ▸ build_twins_factory program),build_twins_mem installed]
    simp only [List.mem_cons,exists_eq_or_imp,or_assoc,or_left_comm]

theorem install_paired (paired : Paired s) : Paired (setHubDataPointFactories s true) := by
  let t : LoomStore V := {s with programFactory := true}
  have known : ∀ program ∈ s.programs.values, s.programs.get? program.summary.id = some program := by
    intro program member
    obtain ⟨id,stored⟩ := Dict.mem_values.mp member
    rw [paired.keyed id program stored]
    exact stored
  have first : Backed t ∧ t.programs = s.programs := ⟨⟨paired.keyed,paired.twins⟩,rfl⟩
  have loop : Backed (setHubDataPointFactories s true) ∧ (setHubDataPointFactories s true).programs = s.programs := by
    refine List.foldlRecOn (motive := fun u => Backed u ∧ u.programs = s.programs) s.programs.values buildProgramTwins first ?_
    rintro u ⟨backed,same⟩ program member
    exact ⟨build_twins_backed program (same ▸ known program member) backed,(build_twins_programs program).trans same⟩
  refine ⟨loop.1,fun _ id member => ?_⟩
  rw [loop.2] at member
  obtain ⟨program,stored⟩ := Dict.mem_iff_get?.mp member
  refine (built_twins_mem (s := t) rfl s.programs.values id).mpr (.inl ⟨program,Dict.mem_values.mpr ⟨id,stored⟩,?_⟩)
  exact (paired.keyed id program stored).symm

theorem install_keeps_twins : Grows (twinOids s) (twinOids (setHubDataPointFactories s true)) :=
  foldl_slots_grow twinOids buildProgramTwins (fun _ => build_twins_grow) {s with programFactory := true} s.programs.values

theorem install_factory : (setHubDataPointFactories s true).programFactory = true :=
  foldl_frame buildProgramTwins LoomStore.programFactory (fun _ => build_twins_factory) _ _

end Install

structure Mirrors (s t : LoomStore V) : Prop where
  paired : Paired t
  kept : Grows (twinOids s) (twinOids t)
  factory : s.programFactory = true → t.programFactory = true

def programMaps (s : LoomStore V) : Dict String Model.Program × Dict String (List Model.Program) × Bool :=
  (s.programs,s.programDps,s.programFactory)

section Steps
variable {s t u : LoomStore V}

theorem Mirrors.trans (first : Mirrors s t) (second : Mirrors t u) : Mirrors s u :=
  ⟨second.paired,grows_trans first.kept second.kept,fun installed => second.factory (first.factory installed)⟩

theorem mirrors_of_same (paired : Paired s) (same : programMaps t = programMaps s) : Mirrors s t := by
  simp only [programMaps,Prod.mk.injEq] at same
  obtain ⟨programs,twins,factory⟩ := same
  refine ⟨⟨⟨?_,?_⟩,?_⟩,?_,?_⟩
  · rw [programs]
    exact paired.keyed
  · rw [programs,twins]
    exact paired.twins
  · rw [programs,twins,factory]
    exact paired.complete
  · refine grows_of_same ?_
    funext id
    rw [twinOids,twinOids,twins]
  · rw [factory]
    exact id

theorem upsert_program_mirrors (summary : ProgramSummary) (paired : Paired s) : Mirrors s (upsertProgram s summary) :=
  ⟨upsert_program_paired summary paired,upsert_program_keeps_twins summary paired,
    fun installed => (upsert_program_factory summary).trans installed⟩

theorem upsert_programs_mirror (programs : List ProgramSummary) (paired : Paired s) :
    Mirrors s (programs.foldl upsertProgram s) :=
  List.foldlRecOn (motive := fun u => Mirrors s u) programs upsertProgram (mirrors_of_same paired rfl)
    fun _ held summary _ => held.trans (upsert_program_mirrors summary held.paired)

theorem program_push_mirrors (push : Push V) (paired : Paired s) : Mirrors s (applyPush s push) := by
  cases push with
  | programExecuted payload =>
    change Mirrors s (applyProgramExecuted s payload)
    unfold applyProgramExecuted
    split
    · split
      · exact upsert_program_mirrors _ paired
      · exact mirrors_of_same paired rfl
    · exact mirrors_of_same paired rfl
  | programChanged payload =>
    change Mirrors s (applyProgramChanged s payload)
    unfold applyProgramChanged
    split
    · exact mirrors_of_same paired rfl
    · exact upsert_program_mirrors _ paired
  | customStateChanged payload => exact mirrors_of_same paired (unchanged (mutate_cdp_beside s _ _) programMaps fun _ => rfl)
  | deviceCreated payload => exact mirrors_of_same paired (unchanged (created_beside s payload) programMaps fun _ => rfl)
  | deviceRemoved payload => exact mirrors_of_same paired (unchanged (removed_beside s payload) programMaps fun _ => rfl)
  | alarmPanelChanged payload =>
    exact mirrors_of_same paired (unchanged (panel_changed_beside s payload) programMaps fun _ => rfl)
  | _ => exact mirrors_of_same paired rfl

theorem upsert_sysvar_twins (s : LoomStore V) (summary : SysvarSummary V) :
    programMaps (upsertSysvar s summary) = programMaps s := by
  unfold upsertSysvar
  split <;> rfl

theorem upsert_sysvars_twins (s : LoomStore V) (sysvars : List (SysvarSummary V)) :
    programMaps (sysvars.foldl upsertSysvar s) = programMaps s :=
  foldl_frame upsertSysvar programMaps upsert_sysvar_twins s sysvars

theorem snapshot_mirrors (snapshot : Snapshot V) (paired : Paired s) : Mirrors s (loadSnapshot s snapshot) := by
  have before : programMaps (snapshot.devices.foldl admitDevice (adoptCentralId s snapshot)) = programMaps s :=
    (unchanged (foldl_frame admitDevice besideDevices admit_beside _ _) programMaps fun _ => rfl).trans
      (congrArg programMaps (adopt_central_beside s snapshot) :)
  have first := mirrors_of_same paired before
  have second := upsert_programs_mirror (snapshot.programs.getD []) first.paired
  exact (first.trans second).trans (mirrors_of_same second.paired (upsert_sysvars_twins _ (snapshot.sysvars.getD [])))

theorem hub_catalogue_mirrors (sysvars : List (SysvarSummary V)) (programs : List ProgramSummary) (paired : Paired s) :
    Mirrors s (attachHubCatalogue s sysvars programs) := by
  have first := mirrors_of_same paired (upsert_sysvars_twins s sysvars)
  exact first.trans (upsert_programs_mirror programs first.paired)

theorem operation_mirrors (op : Operation V) (paired : Paired s) : Mirrors s (apply s op) := by
  have same := mirrors_of_same (t := apply s op) paired
  cases op with
  | loadSnapshot snapshot => exact snapshot_mirrors snapshot paired
  | attachHubCatalogue sysvars programs => exact hub_catalogue_mirrors sysvars programs paired
  | upsertProgram summary => exact upsert_program_mirrors summary paired
  | push push => exact program_push_mirrors push paired
  | upsertSysvar summary => exact same (upsert_sysvar_twins s summary)
  | attachDeviceDetail detail => exact same (unchanged (detail_beside s detail) programMaps fun _ => rfl)
  | attachChannelDataPoints address channel dataPoints =>
    exact same (unchanged (attach_data_points_beside s address channel dataPoints) programMaps fun _ => rfl)
  | attachChannelCalculatedDataPoints address channel calculated =>
    exact same (unchanged (attach_calculated_beside s address channel calculated) programMaps fun _ => rfl)
  | attachCustomDataPoints address cdps => exact same (unchanged (attach_customs_beside s address cdps) programMaps fun _ => rfl)
  | attachAlarmPanels panels => exact same (unchanged (attach_panels_beside s panels) programMaps fun _ => rfl)
  | settleDataPoint key summary => exact same (unchanged (settle_data_point_beside s key summary) programMaps fun _ => rfl)
  | settleCalculatedDataPoint key calculated =>
    exact same (unchanged (settle_calculated_beside s key calculated) programMaps fun _ => rfl)
  | settleCustomDataPoint key generation state =>
    exact same (unchanged (settle_custom_beside s key generation state) programMaps fun _ => rfl)
  | _ => exact same rfl

theorem twin_step_mirrors (step : TwinStep V) (paired : Paired s) (moved : twinStep s step = some t) : Mirrors s t := by
  cases step with
  | operate op =>
    cases moved
    exact operation_mirrors op paired
  | install =>
    cases moved
    exact ⟨install_paired paired,install_keeps_twins,fun _ => install_factory⟩

end Steps

theorem twins_mirror_catalogue (maxDevices : Nat) (centralName serialSuffix : String)
    (calculatedFactory programFactory : Bool) (steps : List (TwinStep V)) :
    let s : LoomStore V := constructed maxDevices centralName serialSuffix calculatedFactory programFactory
    Always twinStep MirroredOnceInstalled s steps ∧
      Every twinStep (fun s a t => (a = .install ∨ s.programFactory = true → t.programFactory = true) ∧
        Grows (twinOids s) (twinOids t)) s steps := by
  intro s
  have first : Paired s := by
    refine ⟨⟨?_,?_⟩,?_⟩
    · exact fun _ _ found => nomatch found
    · exact fun _ _ found => nomatch found
    · exact fun _ _ member => absurd member (Dict.not_mem_empty _)
  have kept : ∀ (u : LoomStore V) a t, Paired u → twinStep u a = some t → Paired t :=
    fun u a t paired moved => (twin_step_mirrors a paired moved).paired
  refine ⟨always_mono (fun _ => Paired.mirrored) (always_of_invariant first kept),?_⟩
  refine every_of_invariant Paired first kept fun u a t paired moved => ?_
  have mirrors := twin_step_mirrors a paired moved
  refine ⟨?_,mirrors.kept⟩
  rintro (rfl | installed)
  · cases moved
    exact install_factory
  · exact mirrors.factory installed

end LoomClient.Store
