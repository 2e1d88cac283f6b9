import LoomClient.Compat.Adapter
import LoomClient.Lib.Fold

namespace LoomClient.Compat
open Lib Wire Store
variable {V : Type} (upstream : Upstream)

-- The adapter's own effects touch the store by minting identities, and by the
-- week profile that a spawn registers.
def besideMinted (s : LoomStore V) : LoomStore V := {s with nextOid := 0}
def besideExtras (s : LoomStore V) : LoomStore V := {s with weekProfileDps := .empty, nextOid := 0}

theorem append_extra_minted (a : Adapter V) (category : DataPointCategory) (uniqueId : String) (address : Address)
    (channelNo : Int) (translatedName : Option String) :
    besideMinted (appendExtra a category uniqueId address channelNo translatedName).store = besideMinted a.store := rfl

theorem combined_minted (a : Adapter V) :
    besideMinted (bootstrapCombinedDataPoints upstream a).store = besideMinted a.store :=
  foldl_frame _ (fun b : Adapter V => besideMinted b.store) (fun b _ => append_extra_minted b _ _ _ _ _) a _

theorem cache_group_minted (a : Adapter V) (built : ChannelKey × EventGroupSummary) :
    besideMinted (cacheEventGroup a built).store = besideMinted a.store := by
  unfold cacheEventGroup
  split <;> rfl

theorem event_groups_minted (a : Adapter V) : besideMinted (getEventGroups a).1.store = besideMinted a.store :=
  foldl_frame cacheEventGroup (fun b : Adapter V => besideMinted b.store) cache_group_minted a _

theorem emit_minted (a : Adapter V) : besideMinted (emitDataPointsCreated upstream a).store = besideMinted a.store := by
  unfold emitDataPointsCreated
  exact event_groups_minted _

def appendSwitch (address : Address) (channelNo : Int) (profile : WeekProfileResponse) (a : Adapter V) (key : String) :
    Adapter V :=
  appendExtra a .scheduleSwitch (targetChannelUniqueId upstream a.store.serialSuffix address profile key) address
    channelNo none

theorem switches_minted (a : Adapter V) (keys : List String) (address : Address) (channelNo : Int)
    (profile : WeekProfileResponse) :
    besideMinted (keys.foldl (appendSwitch upstream address channelNo profile) a).store = besideMinted a.store :=
  foldl_frame _ (fun b : Adapter V => besideMinted b.store) (fun b _ => append_extra_minted b _ _ _ _ _) a keys

theorem spawn_minted (a : Adapter V) (address : Address) (channelNo : Int) (profile : WeekProfileResponse)
    (entries : Option Nat) (withSwitches : Bool) :
    besideMinted (spawnWeekProfile upstream a address channelNo profile entries withSwitches).store =
      besideMinted (setWeekProfileDataPoint a.store address
        ⟨a.store.nextOid,profile.uniqueId,address,channelNo,isClimate profile,entries⟩ (isClimate profile)) := by
  unfold spawnWeekProfile
  cases withSwitches with
  | false => rfl
  | true => exact switches_minted upstream _ _ address channelNo profile

theorem extras_of_minted {s t : LoomStore V} (same : besideMinted t = besideMinted s) :
    besideExtras t = besideExtras s := (congrArg besideExtras same :)

-- Week profiles and the identity counter apart.
theorem effect_beside (a : Adapter V) (effect : Effect V) (own : ∀ operation, effect ≠ .store operation) :
    besideExtras (applyEffect upstream a effect).store = besideExtras a.store := by
  cases effect with
  | store operation => exact absurd rfl (own operation)
  | suppressLabel => rfl
  | spawnWeekProfile address channelNo profile entries withSwitches =>
    exact (extras_of_minted (spawn_minted upstream a address channelNo profile entries withSwitches) :).trans rfl
  | bootstrapCombinedDataPoints => exact extras_of_minted (combined_minted upstream a)
  | emitDataPointsCreated => exact extras_of_minted (emit_minted upstream a)
  | publishDataPointsCreated => rfl
  | register => rfl
  | unregister => rfl

end LoomClient.Compat
