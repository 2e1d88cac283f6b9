import LoomClient.Client.Daemon
import LoomClient.Compat.Frame
import LoomClient.Store.Freshness

namespace LoomClient.Client
open Lib Wire Store Compat
variable {V : Type} (upstream : Upstream)

def BringsNoOlderEffect (a : Adapter V) : Effect V → Prop
  | .store operation => BringsNoOlder a.store operation
  | _ => True

instance (a : Adapter V) (effect : Effect V) : Decidable (BringsNoOlderEffect a effect) := by
  induction effect using Effect.casesOn <;> unfold BringsNoOlderEffect <;> infer_instance

theorem own_effect_no_older (a : Adapter V) (effect : Effect V) (own : ∀ operation, effect ≠ .store operation) :
    NoOlder a.store (applyEffect upstream a effect).store := by
  have same : (applyEffect upstream a effect).store.dataPoints = a.store.dataPoints :=
    (congrArg LoomStore.dataPoints (effect_beside upstream a effect own) :)
  exact (overwrites_exact (overwrites_same same)).mpr (by simp)

theorem effect_no_older (a : Adapter V) (effect : Effect V) :
    NoOlder a.store (applyEffect upstream a effect).store ↔ BringsNoOlderEffect a effect := by
  cases effect with
  | store operation => exact operation_no_older a.store operation
  | _ => exact ⟨fun _ => trivial,fun _ => own_effect_no_older upstream a _ (by simp)⟩

-- The round trips never replace a newer record by an older one.
theorem no_older_record_iff (x : Session V) (actions : List (Action V)) :
    Every (adapterStep upstream) (fun a _ b => NoOlder a.store b.store) x.adapter (effects upstream x actions) ↔
      Every (adapterStep upstream) (fun a effect _ => BringsNoOlderEffect a effect) x.adapter
        (effects upstream x actions) := by
  refine every_congr (fun _ => True) trivial (fun _ _ _ _ _ => trivial) ?_
  intro a effect b _ moved
  cases moved
  exact effect_no_older upstream a effect

-- A push carries a newer value in, and the answer of the re-bootstrap is attached over it.
theorem snapshot_overwrites_newer_push :
    let daemon : Daemon Nat := .bare [bareDevice "A" (some 1)]
    let x : Session Nat := .initial 8 "" ""
    ¬ Every (adapterStep bareUpstream) (fun a _ b => NoOlder a.store b.store) x.adapter
      (effects bareUpstream x [
        .begin .start,.resume 0 daemon.answers,.resume 0 daemon.answers,
        .begin (.rebootstrap true),.resume 1 daemon.answers,
        .push (.valueChanged ⟨"A",1,"STATE","A",some 7,none,2⟩),
        .resume 1 daemon.answers]) := by
  decide +kernel

end LoomClient.Client
