import LoomClient.Client.Session
import LoomClient.Store.Frame
import LoomClient.Compat.Frame
import Mathlib.Data.Set.Basic
import Mathlib.Data.List.Dedup

namespace LoomClient.Client
open Lib Wire Store Compat
variable {V : Type}

-- The one of the configured name, else the only one there is.
def Designates (configured : String) (reported : Set String) (central : String) : Prop :=
  (configured ∈ reported ∧ central = configured) ∨ (configured ∉ reported ∧ reported = {central})

theorem designates_unique (first : Designates configured reported one) (second : Designates configured reported other) :
    one = other := by
  rcases first with ⟨known,rfl⟩ | ⟨unknown,only⟩
  · rcases second with ⟨_,same⟩ | ⟨unknown,_⟩
    · exact same.symm
    · exact absurd known unknown
  · rcases second with ⟨known,_⟩ | ⟨_,same⟩
    · exact absurd known unknown
    · exact Set.singleton_eq_singleton_iff.mp (only.symm.trans same)

theorem designates_reported (designated : Designates configured reported central) : central ∈ reported := by
  rcases designated with ⟨known,rfl⟩ | ⟨_,only⟩
  · exact known
  · rw [only]
    exact Set.mem_singleton central

def ccuNames (entries : List (Option String)) : List String := entries.filterMap truthy

def interfaceNames (snapshot : Snapshot V) : List String :=
  (snapshot.interfaces.getD []).filterMap fun interface => truthy interface.centralId

def named (names : List String) : Set String := {name | name ∈ names}

def reportedNames : (read : Read) → Option (Answer V read) → List String
  | .systemCcus,some entries => ccuNames entries
  | .snapshot _ _,some snapshot => interfaceNames snapshot
  | _,_ => []

theorem truthy_some (found : truthy s = some name) : s = some name ∧ name ≠ "" := by
  obtain ⟨same,full⟩ := Option.filter_eq_some_iff.mp found
  exact ⟨same,by simpa using full⟩

theorem ccu_names_full (member : name ∈ ccuNames entries) : name ≠ "" := by
  obtain ⟨entry,_,found⟩ := List.mem_filterMap.mp member
  exact (truthy_some found).2

theorem interface_names_full {snapshot : Snapshot V} (member : name ∈ interfaceNames snapshot) : name ≠ "" := by
  obtain ⟨interface,_,found⟩ := List.mem_filterMap.mp member
  exact (truthy_some found).2

theorem named_singleton (names : List String) (distinct : names.Nodup) : named names = {only} ↔ names = [only] := by
  constructor
  · intro same
    have all : ∀ name, name ∈ names ↔ name = only := fun name => Set.ext_iff.mp same name
    cases names with
    | nil => exact absurd ((all only).mpr rfl) List.not_mem_nil
    | cons first rest =>
      have head : first = only := (all first).mp List.mem_cons_self
      cases rest with
      | nil => rw [head]
      | cons second rest =>
        have next : second = only := (all second).mp (by simp)
        exact absurd (by simp [head,next]) (List.nodup_cons.mp distinct).1
  · intro same
    rw [same]
    ext name
    simp [named]

def ruled (configured : String) (names : List String) : Option String :=
  if configured ≠ "" ∧ configured ∈ names then some configured
  else match names with
    | [only] => some only
    | _ => none

theorem ruled_only_designated (ruling : ruled configured names = some central) :
    Designates configured (named names) central := by
  unfold ruled at ruling
  split at ruling
  · rename_i known
    exact .inl ⟨known.2,(Option.some.inj ruling).symm⟩
  · rename_i unknown
    split at ruling
    · rename_i only
      cases ruling
      by_cases same : configured = central
      · exact .inl ⟨by simp [named,same],same.symm⟩
      · exact .inr ⟨by simpa [named] using same,by ext name; simp [named]⟩
    · cases ruling

theorem ruled_designates (distinct : names.Nodup) (full : ∀ name ∈ names, name ≠ "") :
    ruled configured names = some central ↔ Designates configured (named names) central := by
  refine ⟨ruled_only_designated,fun designated => ?_⟩
  unfold ruled
  rcases designated with ⟨known,rfl⟩ | ⟨unknown,only⟩
  · rw [if_pos ⟨full central known,known⟩]
  · rw [if_neg fun known => unknown known.2,(named_singleton names distinct).mp only]

theorem erase_dups_distinct [DecidableEq α] (names : List α) : names.eraseDups.Nodup := by
  induction size : names.length using Nat.strong_induction_on generalizing names with
  | h n ih =>
    cases names with
    | nil => exact List.nodup_nil
    | cons first rest =>
      have shorter : (rest.filter fun b => !b == first).length < n := by
        have bound := List.length_filter_le (fun b => !b == first) rest
        simp only [List.length_cons] at size
        omega
      rw [List.eraseDups_cons,List.nodup_cons]
      refine ⟨fun member => ?_,ih _ shorter _ rfl⟩
      simp [List.mem_eraseDups] at member

-- The snapshot may name a central once for each of its interfaces.
theorem infer_designates (s : LoomStore V) (snapshot : Snapshot V) :
    inferCentralId s snapshot = some central ↔ Designates s.centralName (named (interfaceNames snapshot)) central := by
  have same : named (interfaceNames snapshot) = named (interfaceNames snapshot).eraseDups := by
    ext name
    simp [named]
  have rule : inferCentralId s snapshot = ruled s.centralName (interfaceNames snapshot).eraseDups := by
    unfold inferCentralId ruled
    simp only [List.mem_eraseDups]
    rfl
  rw [rule,same]
  refine ruled_designates (erase_dups_distinct _) fun name member => ?_
  exact interface_names_full (List.mem_eraseDups.mp member)

def centralParts (s : LoomStore V) : String × String × String := (s.centralName,s.serialSuffix,s.centralId)

-- `late` is a turn that goes on with the answer to a pin, `names` what the answer names.
structure CentralMoves (late : Bool) (names : List String) (s t : LoomStore V) : Prop where
  fixed : t.centralName = s.centralName ∧ t.serialSuffix = s.serialSuffix
  stays : s.centralId ≠ "" → t.centralId ≠ ""
  chosen : t.centralId = s.centralId ∨ Designates s.centralName (named names) t.centralId
  pinned : late = false → s.centralId ≠ "" → t.centralId = s.centralId

theorem central_still {s t : LoomStore V} (same : centralParts t = centralParts s) : CentralMoves late names s t := by
  simp only [centralParts,Prod.mk.injEq] at same
  obtain ⟨name,suffix,id⟩ := same
  exact ⟨⟨name,suffix⟩,fun set => id ▸ set,.inl id,fun _ _ => id⟩

theorem central_onward {s t u : LoomStore V} (first : CentralMoves late names s t) (second : CentralMoves late names t u) :
    CentralMoves late names s u where
  fixed := ⟨second.fixed.1.trans first.fixed.1,second.fixed.2.trans first.fixed.2⟩
  stays := fun set => second.stays (first.stays set)
  chosen := by
    have later := second.chosen
    rw [first.fixed.1] at later
    rcases later with same | designated
    · rw [same]
      exact first.chosen
    · exact .inr designated
  pinned := fun early set => (second.pinned early (first.stays set)).trans (first.pinned early set)

theorem push_parts (s : LoomStore V) (push : Push V) : centralParts (applyPush s push) = centralParts s := by
  refine unchanged (push_frame s push) centralParts ?_
  cases push <;> exact fun _ => rfl

theorem operation_parts (s : LoomStore V) (op : Operation V) (quiet : namesNoCentral (.store op)) :
    centralParts (apply s op) = centralParts s := by
  cases op with
  | setCentralId => exact quiet.elim
  | loadSnapshot => exact quiet.elim
  | push push => exact push_parts s push
  | _ => exact unchanged (operation_frame s _) centralParts fun _ => rfl

-- A snapshot is asked which central is meant only while none is known.
theorem load_central (s : LoomStore V) (snapshot : Snapshot V) : CentralMoves late (interfaceNames snapshot) s (loadSnapshot s snapshot) := by
  have parts : (loadSnapshot s snapshot).centralName = s.centralName ∧ (loadSnapshot s snapshot).serialSuffix = s.serialSuffix :=
    ⟨unchanged (snapshot_beside s snapshot) LoomStore.centralName fun _ => rfl,
      unchanged (snapshot_beside s snapshot) LoomStore.serialSuffix fun _ => rfl⟩
  have id : (loadSnapshot s snapshot).centralId = (adoptCentralId s snapshot).centralId := by
    unfold loadSnapshot
    refine (unchanged (upsert_sysvars_beside _ _) LoomStore.centralId fun _ => rfl).trans ?_
    refine (unchanged (upsert_programs_beside _ _) LoomStore.centralId fun _ => rfl).trans ?_
    exact unchanged (foldl_frame admitDevice besideDevices admit_beside _ _) LoomStore.centralId fun _ => rfl
  by_cases blank : s.centralId = ""
  · have adopted : (loadSnapshot s snapshot).centralId = (inferCentralId s snapshot).getD "" := by
      rw [id,adoptCentralId,if_pos blank]
    refine ⟨parts,fun set => absurd blank set,?_,fun _ set => absurd blank set⟩
    cases inferred : inferCentralId s snapshot with
    | none =>
      rw [inferred] at adopted
      exact .inl (adopted.trans blank.symm)
    | some central =>
      rw [inferred] at adopted
      rw [adopted]
      exact .inr ((infer_designates s snapshot).mp inferred)
  · have kept : (loadSnapshot s snapshot).centralId = s.centralId := by
      rw [id,adoptCentralId,if_neg blank]
    exact ⟨parts,fun set => kept ▸ set,.inl kept,fun _ _ => kept⟩

section Coroutines
variable (upstream : Upstream)

theorem effect_central (late : Bool) (names : List String) (a : Adapter V) (effect : Effect V) (quiet : namesNoCentral effect) :
    CentralMoves late names a.store (applyEffect upstream a effect).store := by
  apply central_still
  by_cases own : ∃ operation, effect = .store operation
  · obtain ⟨operation,rfl⟩ := own
    exact operation_parts a.store operation quiet
  · have beside := effect_beside upstream a effect fun operation same => own ⟨operation,same⟩
    exact unchanged beside centralParts fun _ => rfl

def asksKnown (a : Adapter V) : Read → Prop
  | .snapshot _ (some _) => a.store.centralId ≠ ""
  | _ => True

def Adapter.CentralMoves (late : Bool) (names : List String) (a b : Adapter V) : Prop := Client.CentralMoves late names a.store b.store

def grantsMove (read : Read) (reply : Option (Answer V read)) : Adapter V → Adapter V → Prop :=
  Adapter.CentralMoves (decide (read = .systemCcus)) (reportedNames read reply)

abbrev InTurn (may : Adapter V → Adapter V → Prop) (walk : Coroutine V) (a : Adapter V) : Prop :=
  walk.Licensed (applyEffect upstream) asksKnown grantsMove may a

theorem centralless_in_turn {walk : Coroutine V} (late : Bool) (names : List String) (a : Adapter V)
    (centralless : Centralless walk) : InTurn upstream (Adapter.CentralMoves late names) walk a := by
  refine Walk.licensed_of_only ?_ ?_ (effect_central upstream late names) walk a centralless
  · intro a read asked
    cases read with
    | snapshot => exact asked.elim
    | _ => trivial
  · exact fun read reply a effect quiet => effect_central upstream _ _ a effect quiet

-- The pin asks for the shown name, which without a configured one is the id itself.
theorem shown_ruled {s : LoomStore V} (ruling : ruled (shownCentralName s) (ccuNames entries) = some central) :
    central ≠ "" ∧ (central = s.centralId ∨ Designates s.centralName (named (ccuNames entries)) central) := by
  have designated := ruled_only_designated ruling
  have full : central ≠ "" := ccu_names_full (designates_reported designated)
  refine ⟨full,?_⟩
  by_cases blank : s.centralName = ""
  · rw [show shownCentralName s = s.centralId from if_pos blank] at designated
    rcases designated with ⟨_,same⟩ | ⟨_,only⟩
    · exact .inl same
    · refine .inr (.inr ⟨fun known => ?_,only⟩)
      exact ccu_names_full known blank
  · rw [show shownCentralName s = s.centralName from if_neg blank] at designated
    exact .inr designated

-- Asked of the same centrals with none known, the pin settles what a snapshot would.
theorem pinned_as_inferred (a : Adapter V) (answers : Answers V) (entries : List (Option String)) (snapshot : Snapshot V)
    (blank : a.store.centralId = "") (answered : answers .systemCcus = some entries) (once : (ccuNames entries).Nodup)
    (same : named (ccuNames entries) = named (interfaceNames snapshot)) :
    ((pinCentralId .done).complete (applyEffect upstream) answers a).store.centralId =
      (inferCentralId a.store snapshot).getD "" := by
  have shown : shownCentralName a.store = a.store.centralName := by
    unfold shownCentralName
    split
    · rename_i unnamed
      rw [blank,unnamed]
    · rfl
  have agree : inferCentralId a.store snapshot = ruled a.store.centralName (ccuNames entries) := by
    apply Option.ext
    intro central
    rw [infer_designates,ruled_designates once fun _ => ccu_names_full,same]
  rw [agree]
  unfold pinCentralId
  simp only [Walk.complete,blank,ne_eq,not_true_eq_false,if_false,answered,onStore]
  split
  · rename_i known
    have configured : a.store.centralName ≠ "" ∧ a.store.centralName ∈ ccuNames entries := by
      rw [← shown]
      exact known
    rw [show ruled a.store.centralName (ccuNames entries) = _ from if_pos configured]
    exact shown
  · rename_i unknown
    have other : ¬(a.store.centralName ≠ "" ∧ a.store.centralName ∈ ccuNames entries) := by
      rw [← shown]
      exact unknown
    rw [show ruled a.store.centralName (ccuNames entries) = _ from if_neg other]
    split
    · rename_i only found
      rw [show ccuNames entries = [only] from found]
      rfl
    · rename_i several
      split
      · rename_i only found
        exact absurd found (several only)
      · exact blank

theorem pin_in_turn {next : Coroutine V} (goesOn : ∀ late names (a : Adapter V), InTurn upstream (Adapter.CentralMoves late names) next a)
    (names : List String) (a : Adapter V) : InTurn upstream (Adapter.CentralMoves false names) (pinCentralId next) a := by
  unfold pinCentralId
  simp only [InTurn,Walk.Licensed]
  split
  · exact goesOn false names a
  · refine ⟨trivial,fun reply b => ?_⟩
    cases reply with
    | none => exact goesOn _ _ b
    | some entries =>
      refine ⟨central_still rfl,?_⟩
      simp only [Walk.Licensed]
      have sets : ∀ central (c : Adapter V), ruled (shownCentralName c.store) (ccuNames entries) = some central →
          InTurn upstream (grantsMove .systemCcus (some entries)) (onStore (.setCentralId central) next) c := by
        intro central c ruling
        obtain ⟨full,chosen⟩ := shown_ruled ruling
        exact ⟨⟨⟨rfl,rfl⟩,fun _ => full,chosen,fun early => by cases early⟩,goesOn _ _ _⟩
      split
      · rename_i known
        exact sets _ _ (if_pos known)
      · rename_i unknown
        split
        · rename_i only found
          have names : ccuNames entries = [only] := found
          refine sets _ _ ((if_neg unknown).trans ?_)
          rw [names]
        · exact goesOn _ _ _

theorem bootstrap_in_turn {next : Coroutine V} (fetchDataPoints : Bool) (later : Centralless next) (names : List String)
    (a : Adapter V) : InTurn upstream (Adapter.CentralMoves false names) (bootstrap fetchDataPoints next) a := by
  refine pin_in_turn upstream (fun late names a => ?_) names a
  refine ⟨?_,fun reply b => ?_⟩
  · cases known : truthy (some a.store.centralId) with
    | none => trivial
    | some central =>
      obtain ⟨same,full⟩ := truthy_some known
      cases same
      exact full
  · cases reply with
    | none => trivial
    | some snapshot =>
      refine ⟨load_central b.store snapshot,?_⟩
      exact centralless_in_turn upstream _ _ _ (bootstrap_devices_centralless (alarm_panels_centralless fun _ => ⟨trivial,later⟩))

theorem entry_in_turn (entry : Entry) (names : List String) (a : Adapter V) :
    InTurn upstream (Adapter.CentralMoves false names) entry.body a := by
  cases entry with
  | start => exact bootstrap_in_turn upstream true start_layer_centralless names a
  | rebootstrap hook => exact bootstrap_in_turn upstream true (hook_centralless hook) names a
  | refreshDevice address => exact centralless_in_turn upstream false names a (refresh_device_centralless address)
  | refreshDataPoint key => exact centralless_in_turn upstream false names a (refresh_data_point_centralless key)
  | refreshCalculatedDataPoint key => exact centralless_in_turn upstream false names a (refresh_calculated_centralless key)
  | refreshCustomDataPoint key => exact centralless_in_turn upstream false names a (refresh_custom_centralless key)
  | refreshProgram id => exact centralless_in_turn upstream false names a (refresh_program_centralless id)

-- Every coroutine of the client waits for a reply that says what it may do next.
abbrev Waits (walk : Coroutine V) (a : Adapter V) : Prop := walk.Held (applyEffect upstream) asksKnown grantsMove a

structure Holding (x : Session V) : Prop where
  tasks : ∀ task ∈ x.tasks, Waits upstream task.rest x.adapter
  dispatching : ∀ walk, x.dispatching = some walk → Waits upstream walk x.adapter

def replyTurn (answers : Answers V) : Coroutine V → Bool × List String
  | .ask read _ => (decide (read = .systemCcus),reportedNames read (answers read))
  | _ => (false,[])

def turn (x : Session V) : Action V → Bool × List String
  | .call (.loadSnapshot snapshot) => (false,interfaceNames snapshot)
  | .resume task answers => match x.tasks[task]? with
    | none => (false,[])
    | some suspended => replyTurn answers suspended.rest
  | .resumeDispatch answers => match x.dispatching with
    | none => (false,[])
    | some suspended => replyTurn answers suspended
  | _ => (false,[])

-- Nobody but the client itself names its central.
def Unforced : Action V → Prop
  | .call (.setCentralId _) => False
  | _ => True

variable {upstream}

theorem waits_along {walk : Coroutine V} (moved : Adapter.CentralMoves late names a b) (waits : Waits upstream walk a) :
    Waits upstream walk b := by
  refine Walk.held_along (fun a b read moved known => ?_) walk moved waits
  cases read with
  | snapshot fetch central =>
    cases central with
    | none => trivial
    | some central => exact moved.stays known
  | _ => trivial

theorem proceed_central {x : Session V} {walk : Coroutine V} (turn : InTurn upstream (Adapter.CentralMoves late names) walk x.adapter) :
    Adapter.CentralMoves late names x.adapter (enact upstream x (proceed upstream x walk).1).adapter ∧
      Waits upstream (proceed upstream x walk).2 (enact upstream x (proceed upstream x walk).1).adapter := by
  have still : ∀ a : Adapter V, Adapter.CentralMoves late names a a := fun _ => central_still rfl
  have onward : ∀ a b c : Adapter V, Adapter.CentralMoves late names a b → Adapter.CentralMoves late names b c →
      Adapter.CentralMoves late names a c :=
    fun _ _ _ first second => central_onward first second
  exact Walk.licensed_settle still onward walk x.adapter turn

theorem reply_in_turn {walk : Coroutine V} (answers : Answers V) (waits : Waits upstream walk a) :
    InTurn upstream (Adapter.CentralMoves (replyTurn answers walk).1 (replyTurn answers walk).2) (walk.reply answers) a := by
  cases walk with
  | ask read next => exact waits.2 (answers read) a
  | done => trivial
  | perform => exact waits.elim
  | look => exact waits.elim

theorem keep_waits {rest : Coroutine V} (waits : Waits upstream rest a) : ∀ task ∈ keep reconciles rest, Waits upstream task.rest a := by
  intro task member
  unfold keep at member
  split at member
  · cases member
  · rw [List.mem_singleton.mp member]
    exact waits

theorem holding_along {x : Session V} (holding : Holding upstream x) (moved : Adapter.CentralMoves late names x.adapter a) :
    (∀ task ∈ x.tasks, Waits upstream task.rest a) ∧ ∀ walk, x.dispatching = some walk → Waits upstream walk a :=
  ⟨fun task member => waits_along moved (holding.tasks task member),
    fun walk found => waits_along moved (holding.dispatching walk found)⟩

theorem spawn_central {x : Session V} {walk : Coroutine V} (holding : Holding upstream x) (reconciles : Bool)
    (turn : InTurn upstream (Adapter.CentralMoves false []) walk x.adapter) :
    Adapter.CentralMoves false [] x.adapter (spawn upstream x reconciles walk).2.adapter ∧
      Holding upstream (spawn upstream x reconciles walk).2 := by
  obtain ⟨moved,waits⟩ := proceed_central turn
  obtain ⟨tasks,dispatching⟩ := holding_along holding moved
  refine ⟨moved,fun task member => ?_,dispatching⟩
  rcases List.mem_append.mp member with old | new
  · exact tasks task old
  · exact keep_waits waits task new

theorem holding_same {x : Session V} (holding : Holding upstream x) (a : Adapter V)
    (same : a.store.centralId = x.adapter.store.centralId) : Holding upstream {x with adapter := a} := by
  have waits : ∀ walk, Waits upstream walk x.adapter → Waits upstream walk a := by
    intro walk
    have asked : ∀ (a b : Adapter V) read, b.store.centralId = a.store.centralId → asksKnown a read → asksKnown b read := by
      intro a b read moved known
      cases read with
      | snapshot fetch central =>
        cases central with
        | none => trivial
        | some central => exact fun blank => known (moved.symm.trans blank)
      | _ => trivial
    exact Walk.held_along asked walk same
  exact ⟨fun task member => waits _ (holding.tasks task member),fun walk found => waits _ (holding.dispatching walk found)⟩

theorem dispatch_holding {x : Session V} (holding : Holding upstream x) (push : Push V) : Holding upstream (dispatch x push) := by
  refine ⟨fun task member => ?_,fun walk found => ?_⟩
  · rw [dispatch_adapter]
    apply holding.tasks task
    cases push with
    | deviceCreated payload =>
      simp only [dispatch,reconcileUnlessHeld] at member
      split at member
      · exact member
      · split at member <;> exact member
    | deviceReleased payload =>
      simp only [dispatch,reconcileUnlessHeld] at member
      split at member <;> exact member
    | _ => exact member
  · rw [dispatch_adapter]
    cases push with
    | metadataChanged payload =>
      cases found
      exact (entry_in_turn upstream (.refreshDevice payload.deviceAddress) [] x.adapter :)
    | deviceCreated payload =>
      simp only [dispatch,reconcileUnlessHeld] at found
      split at found
      · exact holding.dispatching walk found
      · split at found <;> exact holding.dispatching walk found
    | deviceReleased payload =>
      simp only [dispatch,reconcileUnlessHeld] at found
      split at found <;> exact holding.dispatching walk found
    | _ => exact holding.dispatching walk found

theorem advance_central {x y : Session V} (holding : Holding upstream x) (unforced : Unforced action)
    (moved : advance upstream x action = some (report,y)) :
    Adapter.CentralMoves (turn x action).1 (turn x action).2 x.adapter y.adapter ∧ Holding upstream y := by
  cases action with
  | push push =>
    simp only [advance] at moved
    split at moved
    · cases moved
    · cases moved
      have enacted : Adapter.CentralMoves false [] x.adapter (enact upstream x [.store (.push push)]).adapter :=
        effect_central upstream false [] x.adapter (.store (.push push)) trivial
      obtain ⟨tasks,dispatching⟩ := holding_along holding enacted
      refine ⟨?_,dispatch_holding ⟨tasks,dispatching⟩ push⟩
      rw [dispatch_adapter]
      exact enacted
  | call operation =>
    cases moved
    have enacted : Adapter.CentralMoves (turn x (.call operation)).1 (turn x (.call operation)).2 x.adapter
        (enact upstream x [.store operation]).adapter := by
      cases operation with
      | setCentralId => exact unforced.elim
      | loadSnapshot snapshot => exact load_central x.adapter.store snapshot
      | _ => exact effect_central upstream false [] x.adapter (.store _) trivial
    exact ⟨enacted,(holding_along holding enacted).1,(holding_along holding enacted).2⟩
  | «begin» entry =>
    cases moved
    exact spawn_central holding false (entry_in_turn upstream entry [] x.adapter)
  | beginReconcile =>
    simp only [advance] at moved
    split at moved
    · cases moved
    · rename_i address waiting _
      split at moved
      · cases moved
        have rest : Holding upstream {x with waiting} := ⟨holding.tasks,holding.dispatching⟩
        exact spawn_central rest true (centralless_in_turn upstream false [] x.adapter (reconcile_centralless address))
      · cases moved
  | resume task answers =>
    simp only [advance] at moved
    split at moved
    · cases moved
    · rename_i suspended found
      cases moved
      have waits := holding.tasks suspended (List.mem_of_getElem? found)
      obtain ⟨changed,later⟩ := proceed_central (reply_in_turn answers waits)
      obtain ⟨tasks,dispatching⟩ := holding_along holding changed
      refine ⟨?_,fun other member => ?_,dispatching⟩
      · simp only [turn,found]
        exact changed
      · rcases List.mem_append.mp member with early | late
        · rcases List.mem_append.mp early with before | here
          · exact tasks other (List.mem_of_mem_take before)
          · exact keep_waits later other here
        · exact tasks other (List.mem_of_mem_drop late)
  | resumeDispatch answers =>
    simp only [advance] at moved
    split at moved
    · cases moved
    · rename_i suspended found
      cases moved
      obtain ⟨changed,later⟩ := proceed_central (reply_in_turn answers (holding.dispatching suspended found))
      obtain ⟨tasks,_⟩ := holding_along holding changed
      refine ⟨?_,tasks,fun walk next => ?_⟩
      · simp only [turn,found]
        exact changed
      · dsimp only at next
        split at next
        · cases next
        · cases next
          exact later
  | register oid =>
    cases moved
    have enacted : Adapter.CentralMoves false [] x.adapter (enact upstream x [.register oid]).adapter := central_still rfl
    exact ⟨enacted,(holding_along holding enacted).1,(holding_along holding enacted).2⟩
  | unregister oid =>
    cases moved
    have enacted : Adapter.CentralMoves false [] x.adapter (enact upstream x [.unregister oid]).adapter := central_still rfl
    exact ⟨enacted,(holding_along holding enacted).1,(holding_along holding enacted).2⟩

theorem initial_holding (maxDevices : Nat) (centralName serialSuffix : String) :
    Holding upstream (Session.initial maxDevices centralName serialSuffix : Session V) where
  tasks := fun _ member => absurd member List.not_mem_nil
  dispatching := fun _ found => by cases found

end Coroutines
end LoomClient.Client
