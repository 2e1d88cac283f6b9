import LoomClient.Compat.Adapter
import LoomClient.Lib.Transition
import LoomClient.Store.AlarmSection

namespace LoomClient.Compat
open Lib Wire Store

-- A panel push has reached the store when the adapter's handler gets its turn.
structure PanelAnnouncer where
  alarm : AlarmSection
  announcedAlarmPanelIds : Finset String
  pending : Option AlarmPanelChangedPayload
  registered : Finset Model.Oid
  announcements : List Model.Oid
  deriving DecidableEq

-- A re-bootstrap attaches its catalogue and announces once the layered model is rebuilt; a walk that
-- fails in between only attaches.
inductive PanelAction where
  | push (payload : AlarmPanelChangedPayload)
  | handle
  | attach (panels : List AlarmPanelEntity)
  | emit
  | register (panel : Model.Oid)
  | unregister (panel : Model.Oid)
  deriving DecidableEq

namespace PanelAnnouncer
variable (upstream : Upstream)

def initial : PanelAnnouncer := ⟨.empty,∅,none,∅,[]⟩

def onAlarmPanelChanged (s : PanelAnnouncer) (payload : AlarmPanelChangedPayload) : PanelAnnouncer :=
  if payload.removed then {s with announcedAlarmPanelIds := s.announcedAlarmPanelIds.erase payload.uniqueId}
  else if payload.uniqueId ∈ s.announcedAlarmPanelIds then s
  else match s.alarm.panels.get? payload.uniqueId with
    | none => s
    | some panel =>
      if upstream.knowsCategory .alarmControlPanel then
        {s with
          announcedAlarmPanelIds := insert payload.uniqueId s.announcedAlarmPanelIds
          announcements := s.announcements ++ [panel]}
      else s

-- The set of announced ids is written and not asked.
def batch (s : PanelAnnouncer) : List (String × Model.Oid) :=
  if upstream.knowsCategory .alarmControlPanel then s.alarm.panels.entries.filter fun e => decide (e.2 ∉ s.registered) else []

def emitDataPointsCreated (s : PanelAnnouncer) : PanelAnnouncer :=
  {s with
    announcedAlarmPanelIds := s.announcedAlarmPanelIds ∪ ((batch upstream s).map Prod.fst).toFinset
    announcements := s.announcements ++ (batch upstream s).map Prod.snd}

def step (s : PanelAnnouncer) : PanelAction → Option PanelAnnouncer
  | .push payload => match s.pending with
    | none => some {s with alarm := s.alarm.applyPanelChanged payload, pending := some payload}
    | some _ => none
  | .handle => s.pending.map fun payload => onAlarmPanelChanged upstream {s with pending := none} payload
  | .attach panels => some {s with alarm := s.alarm.attachAlarmPanels panels}
  | .emit => some (emitDataPointsCreated upstream s)
  | .register panel => some {s with registered := insert panel s.registered}
  | .unregister panel => some {s with registered := s.registered.erase panel}

-- No panel is announced twice, and either path leaves none behind unannounced.
def AnnouncesOnce (s : PanelAnnouncer) (a : PanelAction) (t : PanelAnnouncer) : Prop :=
  t.announcements.Nodup ∧ match a with
    | .handle => ∀ payload ∈ s.pending, payload.removed = false →
      ∀ panel ∈ t.alarm.panels.get? payload.uniqueId, panel ∈ t.announcements
    | .emit => ∀ panel ∈ t.alarm.panels.values, panel ∈ t.announcements
    | _ => True

-- The set of ids and the consumer's marks agree with what has been announced where a path goes by them.
def Known (s : PanelAnnouncer) : PanelAction → Prop
  | .handle => ∀ payload ∈ s.pending, payload.removed = false →
    ∀ panel ∈ s.alarm.panels.get? payload.uniqueId,
      (panel ∈ s.announcements ↔
        payload.uniqueId ∈ s.announcedAlarmPanelIds ∨ upstream.knowsCategory .alarmControlPanel = false)
  | .emit => ∀ panel ∈ s.alarm.panels.values,
      (panel ∈ s.announcements ↔ panel ∈ s.registered ∨ upstream.knowsCategory .alarmControlPanel = false)
  | _ => True

instance (s : PanelAnnouncer) (a : PanelAction) (t : PanelAnnouncer) : Decidable (AnnouncesOnce s a t) := by
  cases a <;> unfold AnnouncesOnce <;> infer_instance

instance (s : PanelAnnouncer) (a : PanelAction) : Decidable (Known upstream s a) := by
  cases a <;> unfold Known <;> infer_instance

section Step
variable {upstream} {s t : PanelAnnouncer}

theorem once_iff_fresh (distinct : s.announcements.Nodup) (panel : Model.Oid) :
    (s.announcements ++ [panel]).Nodup ↔ panel ∉ s.announcements := by
  rw [List.nodup_append]
  constructor
  · intro both member
    exact both.2.2 panel member panel (.head []) rfl
  · intro fresh
    refine ⟨distinct,List.nodup_singleton panel,fun old member new here => ?_⟩
    rw [List.mem_singleton] at here
    intro same
    exact fresh (here ▸ same ▸ member)

theorem handle_once_iff (distinct : s.announcements.Nodup) (payload : AlarmPanelChangedPayload) (present : payload.removed = false) :
    ((onAlarmPanelChanged upstream s payload).announcements.Nodup ∧
      ∀ panel ∈ s.alarm.panels.get? payload.uniqueId, panel ∈ (onAlarmPanelChanged upstream s payload).announcements) ↔
    ∀ panel ∈ s.alarm.panels.get? payload.uniqueId, (panel ∈ s.announcements ↔
      payload.uniqueId ∈ s.announcedAlarmPanelIds ∨ upstream.knowsCategory .alarmControlPanel = false) := by
  unfold onAlarmPanelChanged
  rw [if_neg (by simp [present])]
  by_cases listed : payload.uniqueId ∈ s.announcedAlarmPanelIds
  · simp [listed,distinct]
  · rw [if_neg listed]
    cases found : s.alarm.panels.get? payload.uniqueId with
    | none => simp [distinct]
    | some panel =>
      cases knows : upstream.knowsCategory .alarmControlPanel with
      | false => simp [distinct]
      | true => simp [once_iff_fresh distinct,listed]

theorem panels_distinct (sound : s.alarm.Sound) : s.alarm.panels.values.Nodup := by
  refine List.Nodup.map_on ?_ (List.Nodup.of_map Prod.fst s.alarm.panels.distinct)
  intro e here e' there same
  have first := Dict.mem_entries.mp (show (e.1,e.2) ∈ s.alarm.panels.entries from here)
  have second := Dict.mem_entries.mp (show (e'.1,e'.2) ∈ s.alarm.panels.entries from there)
  exact Prod.ext (sound.apart e.1 e'.1 e.2 first (same ▸ second)) same

theorem mem_batch : panel ∈ (batch upstream s).map Prod.snd ↔
    panel ∈ s.alarm.panels.values ∧ panel ∉ s.registered ∧ upstream.knowsCategory .alarmControlPanel = true := by
  unfold batch
  cases upstream.knowsCategory .alarmControlPanel with
  | false => simp
  | true =>
    simp only [if_true,Dict.values,List.mem_map,List.mem_filter,decide_eq_true_eq,and_true]
    constructor
    · rintro ⟨e,⟨member,free⟩,rfl⟩
      exact ⟨⟨e,member,rfl⟩,free⟩
    · rintro ⟨⟨e,member,rfl⟩,free⟩
      exact ⟨e,⟨member,free⟩,rfl⟩

theorem batch_distinct (sound : s.alarm.Sound) : ((batch upstream s).map Prod.snd).Nodup := by
  refine List.Nodup.sublist (List.Sublist.map Prod.snd ?_) (panels_distinct sound)
  unfold batch
  split
  · exact List.filter_sublist
  · exact List.nil_sublist _

theorem emit_once_iff (distinct : s.announcements.Nodup) (sound : s.alarm.Sound) :
    ((emitDataPointsCreated upstream s).announcements.Nodup ∧
      ∀ panel ∈ s.alarm.panels.values, panel ∈ (emitDataPointsCreated upstream s).announcements) ↔
    ∀ panel ∈ s.alarm.panels.values,
      (panel ∈ s.announcements ↔ panel ∈ s.registered ∨ upstream.knowsCategory .alarmControlPanel = false) := by
  simp only [emitDataPointsCreated,List.nodup_append,List.mem_append]
  constructor
  · rintro ⟨⟨_,_,apart⟩,all⟩ panel member
    constructor
    · intro announced
      by_contra due
      obtain ⟨free,knows⟩ := not_or.mp due
      exact apart panel announced panel (mem_batch.mpr ⟨member,free,by simpa using knows⟩) rfl
    · intro skipped
      refine (all panel member).resolve_right fun inside => ?_
      obtain ⟨_,free,knows⟩ := mem_batch.mp inside
      rcases skipped with marked | lacks
      · exact free marked
      · rw [knows] at lacks
        cases lacks
  · intro known
    refine ⟨⟨distinct,batch_distinct sound,?_⟩,?_⟩
    · intro panel announced other inside same
      subst same
      obtain ⟨member,free,knows⟩ := mem_batch.mp inside
      rcases (known panel member).mp announced with marked | lacks
      · exact free marked
      · rw [knows] at lacks
        cases lacks
    · intro panel member
      by_cases skipped : panel ∈ s.registered ∨ upstream.knowsCategory .alarmControlPanel = false
      · exact .inl ((known panel member).mpr skipped)
      · obtain ⟨free,knows⟩ := not_or.mp skipped
        exact .inr (mem_batch.mpr ⟨member,free,by simpa using knows⟩)

theorem handle_alarm (payload : AlarmPanelChangedPayload) : (onAlarmPanelChanged upstream s payload).alarm = s.alarm := by
  unfold onAlarmPanelChanged
  split
  · rfl
  · split
    · rfl
    · split
      · rfl
      · split <;> rfl

theorem step_once_iff (distinct : s.announcements.Nodup) (sound : s.alarm.Sound) (next : step upstream s a = some t) :
    AnnouncesOnce s a t ↔ Known upstream s a := by
  cases a with
  | push payload =>
    simp only [step] at next
    split at next
    · cases next
      exact iff_of_true ⟨distinct,trivial⟩ trivial
    · cases next
  | handle =>
    obtain ⟨payload,waits,rfl⟩ := Option.map_eq_some_iff.mp next
    let turned : PanelAnnouncer := {s with pending := none}
    have same : (onAlarmPanelChanged upstream turned payload).alarm = s.alarm := handle_alarm payload
    simp only [AnnouncesOnce,Known,waits,Option.mem_def,Option.some.injEq,forall_eq']
    cases removed : payload.removed with
    | true =>
      have kept : (onAlarmPanelChanged upstream turned payload).announcements = s.announcements := by
        simp [onAlarmPanelChanged,removed,turned]
      refine iff_of_true ⟨?_,fun present => by cases present⟩ fun present => by cases present
      change (onAlarmPanelChanged upstream turned payload).announcements.Nodup
      rw [kept]
      exact distinct
    | false =>
      have exact_turn := @handle_once_iff upstream turned distinct payload removed
      rw [same]
      simpa using exact_turn
  | attach panels =>
    cases next
    exact iff_of_true ⟨distinct,trivial⟩ trivial
  | emit =>
    cases next
    exact emit_once_iff distinct sound
  | register panel =>
    cases next
    exact iff_of_true ⟨distinct,trivial⟩ trivial
  | unregister panel =>
    cases next
    exact iff_of_true ⟨distinct,trivial⟩ trivial

theorem step_sound (sound : s.alarm.Sound) (next : step upstream s a = some t) : t.alarm.Sound := by
  cases a with
  | push payload =>
    simp only [step] at next
    split at next
    · cases next
      exact AlarmSection.push_sound sound (.panelChanged payload)
    · cases next
  | handle =>
    obtain ⟨payload,_,rfl⟩ := Option.map_eq_some_iff.mp next
    rw [handle_alarm]
    exact sound
  | attach panels =>
    cases next
    exact AlarmSection.attach_panels_sound sound panels
  | emit => cases next; exact sound
  | register panel => cases next; exact sound
  | unregister panel => cases next; exact sound

end Step

theorem panels_announced_once_iff (actions : List PanelAction) :
    Every (step upstream) AnnouncesOnce initial actions ↔
      Every (step upstream) (fun s a _ => Known upstream s a) initial actions := by
  refine every_congr_while (fun s => s.announcements.Nodup ∧ s.alarm.Sound) ⟨List.nodup_nil,AlarmSection.empty_sound⟩ ?_ ?_
  · intro s a t standing next known
    exact ⟨((step_once_iff standing.1 standing.2 next).mpr known).1,step_sound standing.2 next⟩
  · intro s a t standing next
    exact step_once_iff standing.1 standing.2 next

def zonePush (uniqueId : String) (removed : Bool) : AlarmPanelChangedPayload :=
  ⟨uniqueId,uniqueId,uniqueId,"disarmed",true,false,false,removed⟩

-- A zone appears and is registered, a catalogue drops it, and it appears again. A panel whose entity
-- the consumer has not added is in every batch.
theorem recreated_panel_never_announced :
    let upstream : Upstream := ⟨fun _ _ _ _ => "",fun _ => true⟩
    ¬ Every (step upstream) AnnouncesOnce initial [.push (zonePush "a" false),.handle,.register 0,.attach [],.emit,
      .push (zonePush "a" false),.handle] ∧
    ¬ Every (step upstream) AnnouncesOnce initial [.push (zonePush "a" false),.handle,.emit] := by
  decide +kernel

end PanelAnnouncer
end LoomClient.Compat
