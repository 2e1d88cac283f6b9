import LoomClient.Client.Daemon
import LoomClient.Compat.Frame
import LoomClient.Store.Graph

namespace LoomClient.Client
open Lib Wire Store Compat
variable {V : Type}

section Adapter
variable (upstream : Upstream)

theorem minted_graph {s t : LoomStore V} (same : besideMinted t = besideMinted s) : graphOnly t = graphOnly s :=
  (congrArg graphOnly same :)

theorem spawn_intact (a : Adapter V) (address : Address) (channelNo : Int) (profile : WeekProfileResponse)
    (entries : Option Nat) (withSwitches : Bool) (valid : Intact a.store) :
    Intact (spawnWeekProfile upstream a address channelNo profile entries withSwitches).store ↔
      address ∈ a.store.devices := by
  have same := minted_graph (spawn_minted upstream a address channelNo profile entries withSwitches)
  have registered := week_profile_exact a.store address
    ⟨a.store.nextOid,profile.uniqueId,address,channelNo,isClimate profile,entries⟩ (isClimate profile) valid
  constructor
  · intro after
    exact registered.mp (same_intact (same_graph same.symm) after)
  · intro known
    exact same_intact (same_graph same) (registered.mpr known)

def ParentedEffect (a : Adapter V) : Effect V → Prop
  | .store operation => Parented a.store operation
  | .spawnWeekProfile address _ _ _ _ => address ∈ a.store.devices
  | _ => True

instance (a : Adapter V) (effect : Effect V) : Decidable (ParentedEffect a effect) := by
  induction effect using Effect.casesOn <;> unfold ParentedEffect <;> infer_instance

theorem effect_exact (a : Adapter V) (effect : Effect V) (valid : Intact a.store) :
    Intact (applyEffect upstream a effect).store ↔ ParentedEffect a effect := by
  have kept : ∀ t : LoomStore V, graphOnly t = graphOnly a.store → (Intact t ↔ True) :=
    fun t same => ⟨fun _ => trivial,fun _ => same_intact (same_graph same) valid⟩
  cases effect with
  | store operation => exact operation_exact a.store operation valid
  | suppressLabel => exact kept _ rfl
  | spawnWeekProfile address channelNo profile entries withSwitches =>
    exact spawn_intact upstream a address channelNo profile entries withSwitches valid
  | bootstrapCombinedDataPoints => exact kept _ (minted_graph (combined_minted upstream a))
  | emitDataPointsCreated => exact kept _ (minted_graph (emit_minted upstream a))
  | publishDataPointsCreated => exact kept _ rfl
  | register => exact kept _ rfl
  | unregister => exact kept _ rfl

end Adapter

section Runs
variable (upstream : Upstream)

theorem integrity_exact (x : Session V) (actions : List (Action V)) (valid : Intact x.adapter.store) :
    Always (adapterStep upstream) (fun a => Intact a.store) x.adapter (effects upstream x actions) ↔
      Every (adapterStep upstream) (fun a effect _ => ParentedEffect a effect) x.adapter (effects upstream x actions) := by
  refine always_iff_every valid ?_
  intro a effect b held moved
  cases moved
  exact effect_exact upstream a effect held

-- Over every run of a fresh client and every interleaving in it, the graph is
-- whole in each state the run passes through exactly when each of its effects
-- finds the parent of what it writes.
theorem graph_intact_iff_parented (maxDevices : Nat) (centralName serialSuffix : String) (actions : List (Action V)) :
    let x : Session V := .initial maxDevices centralName serialSuffix
    Always (adapterStep upstream) (fun a => Intact a.store) x.adapter (effects upstream x actions) ↔
      Every (adapterStep upstream) (fun a effect _ => ParentedEffect a effect) x.adapter
        (effects upstream x actions) :=
  integrity_exact upstream _ actions (initial_intact maxDevices centralName serialSuffix)

end Runs

-- A cap of one and a nested snapshot of two devices: the second is refused, its
-- data point is attached all the same.
theorem refused_device_leaves_orphan :
    let daemon : Daemon Nat := .bare [bareDevice "A" none,bareDevice "B" none]
    let x : Session Nat := .initial 1 "" ""
    ¬ Always (adapterStep bareUpstream) (fun a => Intact a.store) x.adapter
      (effects bareUpstream x [.begin .start,.resume 0 daemon.answers,.resume 0 daemon.answers]) := by
  decide +kernel

end LoomClient.Client
