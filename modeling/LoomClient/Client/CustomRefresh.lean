import LoomClient.Client.Daemon
import LoomClient.Store.Identity

namespace LoomClient.Client
open Lib Wire Store Compat
variable {V : Type}

-- A push, a catalogue re-read that carries a state, a fresh object, or another round trip whose
-- answer is taken.
def Sets (s : LoomStore V) (key : CustomKey) : Operation V → Prop
  | .push (.customStateChanged payload) => key = (payload.deviceAddress,payload.name) ∧ key ∈ s.cdps
  | .attachCustomDataPoints address cdps =>
    ∃ c ∈ cdps, key = (address,c.name) ∧ (key ∉ s.cdps ∨ c.state.isSome = true)
  | .settleCustomDataPoint k generation state =>
    key = k ∧ state.isSome = true ∧ (s.cdps.get? k).any (·.applyGeneration = generation) = true
  | _ => False

instance (s : LoomStore V) (key : CustomKey) (op : Operation V) : Decidable (Sets s key op) := by
  induction op using Operation.casesOn with
  | push push => induction push using Push.casesOn <;> unfold Sets <;> infer_instance
  | _ => unfold Sets; infer_instance

-- The captured object and whether its key has been set since are history: the guard sees the
-- generation only.
structure Flight where
  key : CustomKey
  generation : Nat
  oid : Model.Oid
  touched : Bool
  deriving DecidableEq, Repr

structure Refreshes (V : Type) where
  store : LoomStore V
  flights : List Flight

inductive RefreshAction (V : Type) where
  | operate (operation : Operation V)
  | issue (key : CustomKey)
  | answer (flight : Nat) (state : Option (Dict String V))
  | fail (flight : Nat)

def touch (s : LoomStore V) (operation : Operation V) (f : Flight) : Flight :=
  {f with touched := f.touched || decide (Sets s f.key operation)}

def operate (x : Refreshes V) (operation : Operation V) : Refreshes V :=
  ⟨apply x.store operation,x.flights.map (touch x.store operation)⟩

def refreshStep (x : Refreshes V) : RefreshAction V → Option (Refreshes V)
  | .operate operation => some (operate x operation)
  | .issue key => match x.store.cdps.get? key with
    | none => some x
    | some cdp => some {x with flights := x.flights ++ [⟨key,cdp.applyGeneration,cdp.oid,false⟩]}
  | .answer i state => match x.flights[i]? with
    | none => none
    | some f => some (operate {x with flights := x.flights.eraseIdx i} (.settleCustomDataPoint f.key f.generation state))
  | .fail i => some {x with flights := x.flights.eraseIdx i}

structure Moves (s t : LoomStore V) (key : CustomKey) (sets : Prop) : Prop where
  counter : s.nextOid ≤ t.nextOid
  after : ∀ cdp, t.cdps.get? key = some cdp →
    (∃ before, s.cdps.get? key = some before ∧ cdp.oid = before.oid ∧
      (sets → before.applyGeneration < cdp.applyGeneration) ∧
      (¬ sets → cdp.applyGeneration = before.applyGeneration)) ∨
    (sets ∧ s.nextOid ≤ cdp.oid ∧ cdp.oid < t.nextOid)

theorem moves_same {s t : LoomStore V} (counter : s.nextOid ≤ t.nextOid) (same : t.cdps = s.cdps) :
    Moves s t key False := by
  refine ⟨counter,fun cdp found => .inl ⟨cdp,?_,rfl,False.elim,fun _ => rfl⟩⟩
  rw [←same]
  exact found

theorem moves_congr {s t : LoomStore V} (equal : p ↔ q) (moves : Moves s t key p) : Moves s t key q :=
  propext equal ▸ moves

theorem moves_trans {s t u : LoomStore V} (first : Moves s t key p) (second : Moves t u key q) :
    Moves s u key (p ∨ q) := by
  refine ⟨first.counter.trans second.counter,fun cdp found => ?_⟩
  rcases second.after cdp found with ⟨middle,held,same,raised,level⟩ | ⟨sets,fresh,bound⟩
  · rcases first.after middle held with ⟨before,stored,equal,climbed,even⟩ | ⟨sets,fresh,bound⟩
    · refine .inl ⟨before,stored,same.trans equal,?_,?_⟩
      · rintro (sets | sets)
        · have rise := climbed sets
          by_cases again : q
          · have more := raised again
            omega
          · have flat := level again
            omega
        · have more := raised sets
          by_cases again : p
          · have rise := climbed again
            omega
          · have flat := even again
            omega
      · intro neither
        rw [level fun sets => neither (.inr sets),even fun sets => neither (.inl sets)]
    · rw [←same] at fresh bound
      exact .inr ⟨.inl sets,fresh,Nat.lt_of_lt_of_le bound second.counter⟩
  · exact .inr ⟨.inr sets,Nat.le_trans first.counter fresh,bound⟩

section Keys
variable (s : LoomStore V) (key : CustomKey)

theorem mutate_cdp_moves (k : CustomKey) (f : Model.CustomDataPoint V → Model.CustomDataPoint V) {sets : Prop}
    (kept : ∀ cdp, (f cdp).oid = cdp.oid) (there : sets → key = k)
    (raised : sets → ∀ cdp, cdp.applyGeneration < (f cdp).applyGeneration)
    (level : key = k → ¬ sets → ∀ cdp, s.cdps.get? k = some cdp → (f cdp).applyGeneration = cdp.applyGeneration) :
    Moves s (mutateCdp s k f) key sets := by
  refine ⟨(mutate_cdp_counter s k f).symm.le,fun cdp found => .inl ?_⟩
  rw [mutate_cdp_get] at found
  by_cases equal : key = k
  · rw [if_pos equal] at found
    obtain ⟨before,stored,rfl⟩ := Option.map_eq_some_iff.mp found
    exact ⟨before,equal ▸ stored,kept before,fun sets => raised sets before,fun idle => level equal idle before stored⟩
  · rw [if_neg equal] at found
    exact ⟨cdp,found,rfl,fun sets => absurd (there sets) equal,fun _ => rfl⟩

theorem drop_cdp_moves (k : CustomKey) : Moves s (dropCdp s k) key False := by
  refine ⟨(drop_cdp_counter s k).symm.le,fun cdp found => .inl ⟨cdp,?_,rfl,False.elim,fun _ => rfl⟩⟩
  unfold dropCdp at found
  split at found
  · exact found
  · rw [Dict.get?_erase] at found
    split at found
    · cases found
    · exact found

theorem drop_cdps_moves (keys : List CustomKey) : Moves s (keys.foldl dropCdp s) key False := by
  induction keys generalizing s with
  | nil => exact moves_same (Nat.le_refl _) rfl
  | cons k rest ih => exact moves_congr (or_self_iff) (moves_trans (drop_cdp_moves s key k) (ih (dropCdp s k)))

def SetBy (address : Address) (summary : CustomDPSummary V) : Prop :=
  key = (address,summary.name) ∧ (key ∉ s.cdps ∨ summary.state.isSome = true)

theorem attach_custom_moves (address : Address) (summary : CustomDPSummary V) :
    Moves s (attachCustomDataPoint address s summary) key (SetBy s key address summary) := by
  unfold attachCustomDataPoint
  dsimp only
  split
  · rename_i existing found
    have known : (address,summary.name) ∈ s.cdps := Dict.mem_of_get? found
    have moved : Moves s (mutateCdp s (address,summary.name) (reseed summary)) key (SetBy s key address summary) := by
      refine mutate_cdp_moves s key _ _ ?_ And.left ?_ ?_
      · intro cdp
        unfold reseed
        split <;> rfl
      · rintro ⟨equal,missing | carried⟩ cdp
        · exact absurd (equal ▸ known) missing
        · obtain ⟨state,some⟩ := Option.isSome_iff_exists.mp carried
          simp [reseed,some,Model.CustomDataPoint.replaceState,Model.CustomDataPoint.replaceSummary]
      · intro equal idle cdp _
        have bare : summary.state = none := by
          by_contra carried
          exact idle ⟨equal,.inr (Option.isSome_iff_ne_none.mpr carried)⟩
        simp [reseed,bare,Model.CustomDataPoint.replaceSummary]
    exact ⟨moved.counter,moved.after⟩
  · rename_i missing
    refine ⟨Nat.le_succ _,fun cdp found => ?_⟩
    simp only [registerCdp,Dict.get?_set] at found
    by_cases equal : key = (address,summary.name)
    · rw [if_pos equal] at found
      cases found
      refine .inr ⟨⟨equal,.inl (equal ▸ Dict.get?_eq_none.mp missing)⟩,?_,?_⟩ <;>
        simp [Model.CustomDataPoint.build,registerCdp]
    · rw [if_neg equal] at found
      exact .inl ⟨cdp,found,rfl,fun sets => absurd sets.1 equal,fun _ => rfl⟩

theorem attach_all_moves (address : Address) (cdps : List (CustomDPSummary V)) :
    Moves s (cdps.foldl (attachCustomDataPoint address) s) key (∃ c ∈ cdps, SetBy s key address c) := by
  induction cdps generalizing s with
  | nil => exact moves_congr (by simp) (moves_same (Nat.le_refl _) rfl)
  | cons c rest ih =>
    refine moves_congr ?_ (moves_trans (attach_custom_moves s key address c) (ih (attachCustomDataPoint address s c)))
    simp only [List.mem_cons,exists_eq_or_imp,SetBy,attach_custom_mem]
    by_cases here : key = (address,c.name)
    · subst here
      by_cases known : (address,c.name) ∈ s.cdps <;> simp [known]
    · simp [here]

theorem attach_customs_moves (address : Address) (cdps : List (CustomDPSummary V)) :
    Moves s (attachCustomDataPoints s address cdps) key (Sets s key (.attachCustomDataPoints address cdps)) := by
  refine moves_congr ?_ (moves_trans (drop_cdps_moves s key (staleCdps s address cdps))
    (attach_all_moves _ key address cdps))
  rw [false_or]
  refine exists_congr fun c => and_congr_right fun listed => and_congr_right fun equal => ?_
  have spared : key ∉ staleCdps s address cdps := by
    simp only [staleCdps,List.mem_filter,decide_eq_true_eq,not_and]
    intro _ _ missing
    exact missing (equal ▸ List.mem_map_of_mem listed)
  rw [drop_cdps_mem]
  simp [spared]

theorem settle_custom_moves (k : CustomKey) (generation : Nat) (state : Option (Dict String V)) :
    Moves s (settleCustomDataPoint s k generation state) key (Sets s key (.settleCustomDataPoint k generation state)) := by
  have idle : ∀ {p : Prop}, ¬ p → Moves s s key p :=
    fun no => moves_congr (iff_of_false id no) (moves_same (Nat.le_refl _) rfl)
  unfold settleCustomDataPoint
  split
  · rename_i cdp state found
    split
    · rename_i current
      refine mutate_cdp_moves s key k _ (fun _ => rfl) And.left (fun _ _ => Nat.lt_succ_self _) ?_
      intro equal unset
      exact absurd ⟨equal,rfl,by simp [found,current]⟩ unset
    · rename_i outdated
      refine idle ?_
      rintro ⟨_,_,current⟩
      simp [found,outdated] at current
  · rename_i missing
    refine idle ?_
    rintro ⟨_,carried,current⟩
    obtain ⟨newer,some⟩ := Option.isSome_iff_exists.mp carried
    obtain ⟨cdp,found,_⟩ := Option.any_eq_true .. |>.mp current
    exact missing cdp newer found some

theorem removed_moves (payload : DevicePayload) : Moves s (applyDeviceRemoved s payload) key False := by
  let t := dropDeviceChannels {s with devices := s.devices.erase payload.deviceAddress} payload.deviceAddress
  have cdps : t.cdps = s.cdps := (congrArg LoomStore.cdps (drop_device_channels_beside _ _) :)
  have counter : t.nextOid = s.nextOid := foldl_frame dropChannel LoomStore.nextOid (fun _ _ => rfl) _ _
  have first : Moves s t key False := moves_same counter.symm.le cdps
  have swept := moves_trans first
    (drop_cdps_moves t key (t.cdps.keys.filter fun k => k.1 = payload.deviceAddress))
  exact moves_congr or_self_iff ⟨swept.counter,swept.after⟩

theorem push_moves (push : Push V) : Moves s (applyPush s push) key (Sets s key (.push push)) := by
  have quiet : ∀ push : Push V, (applyPush s push).cdps = s.cdps → Moves s (applyPush s push) key False :=
    fun push same => moves_same (push_counter s push) same
  cases push with
  | customStateChanged payload =>
    refine mutate_cdp_moves s key _ _ (fun _ => rfl) And.left (fun _ _ => Nat.lt_succ_self _) ?_
    intro equal unset cdp found
    exact absurd ⟨equal,equal ▸ Dict.mem_of_get? found⟩ unset
  | deviceRemoved payload => exact removed_moves s key payload
  | _ => exact quiet _ (unchanged (push_frame s _) LoomStore.cdps fun _ => rfl)

theorem operation_moves (op : Operation V) : Moves s (apply s op) key (Sets s key op) := by
  have quiet : ∀ op : Operation V, (apply s op).cdps = s.cdps → Moves s (apply s op) key False :=
    fun op same => moves_same (operation_counter s op) same
  cases op with
  | attachCustomDataPoints address cdps => exact attach_customs_moves s key address cdps
  | push push => exact push_moves s key push
  | settleCustomDataPoint k generation state => exact settle_custom_moves s key k generation state
  | _ => exact quiet _ (unchanged (operation_frame s _) LoomStore.cdps fun _ => rfl)

end Keys

structure FlightSound (s : LoomStore V) (f : Flight) : Prop where
  minted : f.oid < s.nextOid
  captured : ∀ cdp, s.cdps.get? f.key = some cdp → cdp.oid = f.oid →
    f.generation ≤ cdp.applyGeneration ∧ (f.touched = true ↔ f.generation < cdp.applyGeneration)
  replaced : ∀ cdp, s.cdps.get? f.key = some cdp → cdp.oid ≠ f.oid → f.touched = true

structure Sound (x : Refreshes V) : Prop where
  stored : ∀ key cdp, x.store.cdps.get? key = some cdp → cdp.oid < x.store.nextOid
  flights : ∀ f ∈ x.flights, FlightSound x.store f

theorem flight_moves {s t : LoomStore V} {sets : Prop} [Decidable sets] (moves : Moves s t f.key sets)
    (sound : FlightSound s f) : FlightSound t {f with touched := f.touched || decide sets} := by
  refine ⟨Nat.lt_of_lt_of_le sound.minted moves.counter,?_,?_⟩
  · intro cdp found equal
    rcases moves.after cdp found with ⟨before,stored,same,raised,level⟩ | ⟨_,fresh,_⟩
    · obtain ⟨bound,history⟩ := sound.captured before stored (same ▸ equal)
      by_cases set : sets
      · have climbed := raised set
        refine ⟨by dsimp only; omega,?_⟩
        simp only [set,decide_true,Bool.or_true,true_iff]
        omega
      · have flat := level set
        simpa [set,flat] using And.intro bound history
    · have old := sound.minted
      rw [←equal] at old
      exact absurd old (Nat.not_lt.mpr fresh)
  · intro cdp found other
    rcases moves.after cdp found with ⟨before,stored,same,_,_⟩ | ⟨set,_,_⟩
    · simp [sound.replaced before stored fun equal => other (same.trans equal)]
    · simp [set]

theorem operate_sound (x : Refreshes V) (operation : Operation V) (sound : Sound x) : Sound (operate x operation) := by
  refine ⟨?_,?_⟩
  · intro key cdp found
    have moves := operation_moves x.store key operation
    rcases moves.after cdp found with ⟨before,stored,same,_⟩ | ⟨_,_,bound⟩
    · rw [same]
      exact Nat.lt_of_lt_of_le (sound.stored key before stored) moves.counter
    · exact bound
  · intro f member
    obtain ⟨before,listed,rfl⟩ := List.mem_map.mp member
    exact flight_moves (operation_moves x.store before.key operation) (sound.flights before listed)

theorem erase_sound (x : Refreshes V) (i : Nat) (sound : Sound x) : Sound {x with flights := x.flights.eraseIdx i} :=
  ⟨sound.stored,fun f member => sound.flights f (List.mem_of_mem_eraseIdx member)⟩

theorem refresh_sound (x y : Refreshes V) (action : RefreshAction V) (sound : Sound x)
    (moved : refreshStep x action = some y) : Sound y := by
  cases action with
  | operate operation =>
    cases moved
    exact operate_sound x operation sound
  | issue key =>
    simp only [refreshStep] at moved
    split at moved
    · cases moved
      exact sound
    · rename_i cdp found
      cases moved
      refine ⟨sound.stored,fun f member => ?_⟩
      rcases List.mem_append.mp member with listed | issued
      · exact sound.flights f listed
      · cases List.mem_singleton.mp issued
        refine ⟨sound.stored key cdp found,?_,?_⟩
        · intro now stored _
          cases found.symm.trans stored
          simp
        · intro now stored other
          cases found.symm.trans stored
          exact absurd rfl other
  | answer i state =>
    simp only [refreshStep] at moved
    split at moved
    · cases moved
    · cases moved
      exact operate_sound _ _ (erase_sound x i sound)
  | fail i =>
    cases moved
    exact erase_sound x i sound

def Taken (s : LoomStore V) (f : Flight) (state : Option (Dict String V)) : Prop :=
  state.isSome = true ∧ (s.cdps.get? f.key).any (·.applyGeneration = f.generation) = true

def TakenUntouched (x : Refreshes V) : RefreshAction V → Prop
  | .answer i state => ∀ f ∈ x.flights[i]?, Taken x.store f state → f.touched = false
  | _ => True

-- The guard meets the object it was armed on, or none that could pass for it.
def SameObject (x : Refreshes V) : RefreshAction V → Prop
  | .answer i state => ∀ f ∈ x.flights[i]?, ∀ cdp ∈ x.store.cdps.get? f.key,
      state.isSome = true → cdp.applyGeneration = f.generation → cdp.oid = f.oid
  | _ => True

instance (x : Refreshes V) (action : RefreshAction V) : Decidable (TakenUntouched x action) := by
  cases action <;> unfold TakenUntouched <;> unfold Taken <;> infer_instance

theorem taken_exact (x : Refreshes V) (action : RefreshAction V) (sound : Sound x) :
    TakenUntouched x action ↔ SameObject x action := by
  cases action with
  | answer i state =>
    refine forall₂_congr fun f member => ?_
    have history := sound.flights f (List.mem_of_getElem? member)
    constructor
    · intro untouched cdp found carried level
      have clean := untouched ⟨carried,Option.any_eq_true .. |>.mpr ⟨cdp,found,by simpa using level⟩⟩
      by_contra other
      have touched := history.replaced cdp found other
      rw [clean] at touched
      cases touched
    · rintro same ⟨carried,current⟩
      obtain ⟨cdp,found,level⟩ := Option.any_eq_true .. |>.mp current
      have equal : cdp.applyGeneration = f.generation := by simpa using level
      obtain ⟨_,exact_history⟩ := history.captured cdp found (same cdp found carried equal)
      refine Bool.eq_false_iff.mpr fun touched => ?_
      have raised := exact_history.mp touched
      omega
  | operate => exact Iff.rfl
  | issue => exact Iff.rfl
  | fail => exact Iff.rfl

theorem taken_untouched_iff_same_object (maxDevices : Nat) (centralName serialSuffix : String)
    (actions : List (RefreshAction V)) :
    let x : Refreshes V := ⟨.categorised maxDevices centralName serialSuffix,[]⟩
    Every refreshStep (fun x action _ => TakenUntouched x action) x actions ↔
      Every refreshStep (fun x action _ => SameObject x action) x actions := by
  refine every_congr Sound ⟨?_,?_⟩ ?_ ?_
  · intro key cdp found
    simp [LoomStore.categorised,LoomStore.empty] at found
  · intro f member
    cases member
  · exact fun x action y sound moved => refresh_sound x y action sound moved
  · exact fun x action _ sound _ => taken_exact x action sound

-- The fresh object starts at the generation that was captured.
theorem recreated_object_takes_old_answer :
    let lamp : CustomDPSummary Nat := ⟨"LAMP","light",1,none,some .empty,"uid",none⟩
    let x : Refreshes Nat := ⟨.categorised 8 "" "",[]⟩
    ¬ Every refreshStep (fun x action _ => TakenUntouched x action) x [
      .operate (.push (.deviceCreated ⟨"","","A","",none⟩)),.operate (.attachCustomDataPoints "A" [lamp]),
      .issue ("A","LAMP"),.operate (.push (.deviceRemoved ⟨"","","A"⟩)),
      .operate (.push (.deviceCreated ⟨"","","A","",none⟩)),.operate (.attachCustomDataPoints "A" [lamp]),
      .answer 0 (some .empty)] := by
  decide +kernel

end LoomClient.Client
