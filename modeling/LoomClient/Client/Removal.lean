import LoomClient.Client.Daemon
import LoomClient.Compat.Frame
import LoomClient.Store.Removal

namespace LoomClient.Client
open Lib Wire Store Compat
variable {V : Type}

def lifecycle (gone : Finset Address) : Effect V → Finset Address
  | .store (.push (.deviceRemoved payload)) => insert payload.deviceAddress gone
  | .store (.push (.deviceCreated payload)) => gone.erase payload.deviceAddress
  | .store (.push (.deviceReleased payload)) => gone.erase payload.deviceAddress
  | _ => gone

structure Watched (V : Type) where
  adapter : Adapter V
  gone : Finset Address

section Watching
variable (upstream : Upstream)

def watch (w : Watched V) (effect : Effect V) : Watched V :=
  ⟨applyEffect upstream w.adapter effect,lifecycle w.gone effect⟩

abbrev watchStep : Watched V → Effect V → Option (Watched V) := total (watch upstream)

def GoneAbsent (w : Watched V) : Prop := ∀ a ∈ w.gone, Absent w.adapter.store a

-- Write an entry of a device that is gone, or remove a device of which some data point's channel
-- is not in the index.
def Spares (w : Watched V) : Effect V → Prop
  | .store (.push (.deviceRemoved payload)) => Indexed w.adapter.store payload.deviceAddress
  | .store operation => ∀ a ∈ lifecycle w.gone (.store operation), ¬ Creates w.adapter.store a operation
  | _ => True

instance (w : Watched V) (effect : Effect V) : Decidable (Spares w effect) := by
  induction effect using Effect.casesOn with
  | store operation =>
    induction operation using Operation.casesOn with
    | push push => induction push using Push.casesOn <;> unfold Spares <;> infer_instance
    | _ => unfold Spares; infer_instance
  | _ => unfold Spares; infer_instance

theorem lifecycle_grows (gone : Finset Address) (effect : Effect V) (member : a ∈ lifecycle gone effect) :
    a ∈ gone ∨ ∃ payload, effect = .store (.push (.deviceRemoved payload)) ∧ a = payload.deviceAddress := by
  unfold lifecycle at member
  split at member
  · rename_i payload
    rcases Finset.mem_insert.mp member with equal | before
    · exact .inr ⟨payload,rfl,equal⟩
    · exact .inl before
  · exact .inl (Finset.mem_of_mem_erase member)
  · exact .inl (Finset.mem_of_mem_erase member)
  · exact .inl member

theorem own_effect_absent (a : Adapter V) (effect : Effect V) (own : ∀ operation, effect ≠ .store operation)
    (absent : Absent a.store address) : Absent (applyEffect upstream a effect).store address := by
  have frame := effect_beside upstream a effect own
  have devices : (applyEffect upstream a effect).store.devices = a.store.devices :=
    (congrArg LoomStore.devices frame :)
  have channels : (applyEffect upstream a effect).store.channels = a.store.channels :=
    (congrArg LoomStore.channels frame :)
  have dataPoints : (applyEffect upstream a effect).store.dataPoints = a.store.dataPoints :=
    (congrArg LoomStore.dataPoints frame :)
  have cdps : (applyEffect upstream a effect).store.cdps = a.store.cdps := (congrArg LoomStore.cdps frame :)
  exact ⟨devices ▸ absent.device,channels ▸ absent.channels,dataPoints ▸ absent.dataPoints,cdps ▸ absent.cdps⟩

theorem removal_exact (w : Watched V) (payload : DevicePayload) (held : GoneAbsent w) :
    GoneAbsent (watch upstream w (.store (.push (.deviceRemoved payload)))) ↔
      Indexed w.adapter.store payload.deviceAddress := by
  constructor
  · intro after
    exact (removed_absent payload).mp (after _ (Finset.mem_insert_self _ _))
  · intro indexed a member
    rcases Finset.mem_insert.mp member with rfl | before
    · exact (removed_absent payload).mpr indexed
    · exact removed_keeps_absent payload (held a before)

theorem other_exact (w : Watched V) (operation : Operation V) (held : GoneAbsent w)
    (other : ∀ payload, operation ≠ .push (.deviceRemoved payload)) :
    GoneAbsent (watch upstream w (.store operation)) ↔
      ∀ a ∈ lifecycle w.gone (.store operation), ¬ Creates w.adapter.store a operation := by
  refine forall₂_congr fun a member => operation_absent operation ?_
  rcases lifecycle_grows w.gone _ member with before | ⟨payload,equal,_⟩
  · exact held a before
  · cases equal
    exact absurd rfl (other payload)

theorem absent_exact (w : Watched V) (effect : Effect V) (held : GoneAbsent w) :
    GoneAbsent (watch upstream w effect) ↔ Spares w effect := by
  unfold Spares
  split
  · exact removal_exact upstream w _ held
  · rename_i operation other
    exact other_exact upstream w operation held other
  · rename_i _ own
    refine ⟨fun _ => trivial,fun _ a member => own_effect_absent upstream _ _ own (held a ?_)⟩
    rcases lifecycle_grows w.gone _ member with before | ⟨payload,equal,_⟩
    · exact before
    · exact absurd equal (own _)

theorem gone_absent_exact (x : Session V) (actions : List (Action V)) :
    Always (watchStep upstream) GoneAbsent ⟨x.adapter,∅⟩ (effects upstream x actions) ↔
      Every (watchStep upstream) (fun w effect _ => Spares w effect) ⟨x.adapter,∅⟩ (effects upstream x actions) := by
  refine always_iff_every (fun a member => absurd member (Finset.notMem_empty a)) ?_
  intro w effect u held moved
  cases moved
  exact absent_exact upstream w effect held

theorem watched_parts (w : Watched V) (list : List (Effect V)) :
    list.foldl (watch upstream) w = ⟨list.foldl (applyEffect upstream) w.adapter,list.foldl lifecycle w.gone⟩ := by
  induction list generalizing w with
  | nil => rfl
  | cons effect rest ih => exact ih (watch upstream w effect)

def lastRemoved (x : Session V) (actions : List (Action V)) : Finset Address :=
  (effects upstream x actions).foldl lifecycle ∅

def StaysRemoved (x : Session V) (actions : List (Action V)) : Prop :=
  ∀ y ∈ run (sessionStep upstream) x actions, Quiescent y →
    ∀ a ∈ lastRemoved upstream x actions, Absent y.adapter.store a

instance (x : Session V) (actions : List (Action V)) : Decidable (StaysRemoved upstream x actions) := by
  unfold StaysRemoved Quiescent; infer_instance

theorem stays_removed (x : Session V) (actions : List (Action V))
    (spared : Every (watchStep upstream) (fun w effect _ => Spares w effect) ⟨x.adapter,∅⟩
      (effects upstream x actions)) : StaysRemoved upstream x actions := by
  intro y path _ a member
  have always := (gone_absent_exact upstream x actions).mpr spared
  have last := run_always always (run_total (watch upstream) _ _)
  rw [watched_parts] at last
  rw [run_adapter upstream path]
  exact last a member

end Watching

-- The removal sticks when one read of the device fails and the other still answers.
theorem stays_removed_after_failed_reread :
    let daemon : Daemon Nat := .bare [bareDevice "A" none]
    let adopted : List (Action Nat) := [.push (.deviceCreated ⟨"","","A","",none⟩),.beginReconcile,
      .resume 0 daemon.answers,.resume 0 daemon.answers]
    let again : List (Action Nat) := [.begin (.refreshDevice "A"),.begin (.refreshDataPoint ("A",1,"STATE")),
      .push (.deviceRemoved ⟨"","","A"⟩),.resume 0 fun _ => none,.resume 0 daemon.answers]
    (∃ y ∈ run (sessionStep bareUpstream) (.initial 8 "" "") adopted, ("A",1,"STATE") ∈ y.adapter.store.dataPoints) ∧
      (run (sessionStep bareUpstream) (.initial 8 "" "") (adopted ++ again)).isSome ∧
      StaysRemoved bareUpstream (.initial 8 "" "") (adopted ++ again) := by
  refine ⟨by decide +kernel,by decide +kernel,?_⟩
  exact stays_removed _ _ _ (by decide +kernel)

-- With an answer that was under way the reconcile brings the device back.
theorem reconcile_revives_removed_device :
    let daemon : Daemon Nat := .bare [bareDevice "A" none]
    ¬ StaysRemoved bareUpstream (Session.initial 8 "" "" : Session Nat) [
      .push (.deviceCreated ⟨"","","A","",none⟩),.beginReconcile,
      .push (.deviceRemoved ⟨"","","A"⟩),.resume 0 daemon.answers,.resume 0 daemon.answers] := by
  decide +kernel

end LoomClient.Client
