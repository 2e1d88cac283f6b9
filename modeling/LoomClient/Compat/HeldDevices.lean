import LoomClient.Lib.Dict
import LoomClient.Lib.Transition
import Mathlib.Data.Finset.Basic

namespace LoomClient.Compat
open Lib

structure InboxDevice where
  central : Option String
  address : String
  interface : Option String
  pendingCreation : Option Bool
  deriving DecidableEq, Repr

structure CentralNames where
  name : Option String
  uid : Option String
  deriving DecidableEq, Repr

def CentralNames.matchesCentral (names : CentralNames) (central : Option String) : Bool :=
  central.all fun tag => tag = "" || names.name = some tag || names.uid = some tag

def wireInterfaceId (central interface : Option String) : String :=
  match interface with
  | none => ""
  | some bare =>
    if bare = "" then ""
    else match central with
      | none => bare
      | some tag => if tag = "" then bare else tag ++ "-" ++ bare

-- A daemon that predates the hold sends no flag: not held.
def isHeld (entry : InboxDevice) : Bool := entry.pendingCreation.getD false

def heldAddresses (names : CentralNames) (entries : List InboxDevice) : Dict String String :=
  entries.foldl (fun held entry =>
    let interfaceId := wireInterfaceId entry.central entry.interface
    if isHeld entry && names.matchesCentral entry.central && interfaceId ≠ "" then held.set entry.address interfaceId
    else held) .empty

abbrev Batch := String × List String

-- Reading the inbox, or suspended in the publish of a batch with others to come.
inductive SyncPass where
  | reading (includeDeclined : Bool)
  | announcing (includeDeclined : Bool) (rest : List Batch)
  deriving DecidableEq, Repr

def SyncPass.includeDeclined : SyncPass → Bool
  | .reading includeDeclined => includeDeclined
  | .announcing includeDeclined _ => includeDeclined

def SyncPass.rest : SyncPass → List Batch
  | .reading _ => []
  | .announcing _ rest => rest

-- A task that has woken up clears `resyncTask` before it syncs. `waiting` are the passes that wait
-- for the lock, by whether they include declined addresses.
structure Announcer where
  announced : Finset String
  declined : Finset String
  resyncTask : Bool
  waiting : List Bool
  pass : Option SyncPass
  published : List Batch
  deriving DecidableEq

def Announcer.initial : Announcer := ⟨∅,∅,false,[],none,[]⟩

def skips (announced declined : Finset String) (includeDeclined : Bool) (address : String) : Bool :=
  address ∈ announced || (address ∈ declined && !includeDeclined)

-- `setdefault(interface_id, []).append(address)` for every address not skipped.
def newByInterface (announced declined : Finset String) (includeDeclined : Bool) (held : List (String × String)) :
    Dict String (List String) :=
  held.foldl (fun batches entry =>
    if skips announced declined includeDeclined entry.1 then batches
    else batches.set entry.2 (batches.getD entry.2 [] ++ [entry.1])) .empty

-- Announces the next batch and suspends in its publish, or finishes the pass.
def proceed (x : Announcer) (includeDeclined : Bool) : List Batch → Announcer
  | batch :: rest => {x with
      announced := x.announced ∪ batch.2.toFinset
      published := x.published ++ [batch]
      pass := some (.announcing includeDeclined rest)}
  | [] => {x with resyncTask := x.resyncTask && x.declined.Nonempty,pass := none}

def afterRead (x : Announcer) (includeDeclined : Bool) (held : Dict String String) : Announcer :=
  let announced := x.announced.filter (· ∈ held)
  let declined := x.declined.filter (· ∈ held)
  let remaining := declined.filter fun address => skips announced declined includeDeclined address
  proceed {x with announced,declined := remaining} includeDeclined
    (newByInterface announced declined includeDeclined held.entries).entries

-- `sync` is a pass from a push, a start or a re-bootstrap, `wake` the end of the delay. A consumer
-- may decline or forget at any point, also inside a publish.
inductive AnnouncerAction where
  | sync
  | wake
  | acquire
  | read (entries : List InboxDevice)
  | readFailed
  | resume
  | decline (address : String)
  | forget (address : String)
  | aclose
  deriving DecidableEq, Repr

def decline (x : Announcer) (address : String) : Announcer :=
  {x with announced := x.announced.erase address,declined := insert address x.declined,resyncTask := true}

def announcerStep (names : CentralNames) (x : Announcer) : AnnouncerAction → Option Announcer
  | .sync => some {x with waiting := x.waiting ++ [false]}
  | .wake => if x.resyncTask then some {x with resyncTask := false,waiting := x.waiting ++ [true]} else none
  | .acquire => match x.pass,x.waiting with
    | none,includeDeclined :: waiting => some {x with waiting,pass := some (.reading includeDeclined)}
    | _,_ => none
  | .read entries => match x.pass with
    | some (.reading includeDeclined) => some (afterRead x includeDeclined (heldAddresses names entries))
    | _ => none
  | .readFailed => match x.pass with
    | some (.reading includeDeclined) =>
      some {x with resyncTask := x.resyncTask || (includeDeclined && decide x.declined.Nonempty),pass := none}
    | _ => none
  | .resume => match x.pass with
    | some (.announcing includeDeclined rest) => some (proceed x includeDeclined rest)
    | _ => none
  | .decline address => some (decline x address)
  | .forget address => some {x with announced := x.announced.erase address}
  | .aclose => some {x with declined := ∅,resyncTask := false}

def AtRest (x : Announcer) : Prop := x.pass = none ∧ x.waiting = []

def Resyncing (x : Announcer) : Prop :=
  x.resyncTask = true ∨ true ∈ x.waiting ∨ x.pass.any SyncPass.includeDeclined = true

def Consistent (x : Announcer) : Prop :=
  (AtRest x → Disjoint x.announced x.declined) ∧ (x.declined.Nonempty → Resyncing x)

def Announcer.toCome (x : Announcer) : List String := (x.pass.elim [] SyncPass.rest).flatMap Prod.snd

instance (x : Announcer) : Decidable (AtRest x) := by unfold AtRest; infer_instance
instance (x : Announcer) : Decidable (Resyncing x) := by unfold Resyncing; infer_instance
instance (x : Announcer) : Decidable (Consistent x) := by unfold Consistent; infer_instance

-- No address is declined while the batch that announces it is still to come.
def Timely (x : Announcer) : AnnouncerAction → Prop
  | .decline address => address ∉ x.toCome
  | _ => True

instance (x : Announcer) (a : AnnouncerAction) : Decidable (Timely x a) := by cases a <;> unfold Timely <;> infer_instance

-- The address is announced, is read as no longer held, or the announcer closes.
def Repaid (names : CentralNames) (address : String) (x : Announcer) (a : AnnouncerAction) (t : Announcer) : Prop :=
  (∃ batch, t.published = x.published ++ [batch] ∧ address ∈ batch.2) ∨
    match a with
    | .read entries => address ∉ heldAddresses names entries
    | .aclose => True
    | _ => False

def Awaiting (address : String) (x : Announcer) : Prop := (address ∈ x.declined ∧ Resyncing x) ∨ address ∈ x.toCome

def Listed (batches : Dict String (List String)) (address : String) : Prop :=
  address ∈ batches.entries.flatMap Prod.snd

theorem listed_iff : Listed batches address ↔ ∃ i addresses, batches.get? i = some addresses ∧ address ∈ addresses := by
  simp only [Listed,List.mem_flatMap]
  constructor
  · rintro ⟨⟨i,addresses⟩,member,inside⟩
    exact ⟨i,addresses,Dict.mem_entries.mp member,inside⟩
  · rintro ⟨i,addresses,found,inside⟩
    exact ⟨(i,addresses),Dict.mem_entries.mpr found,inside⟩

theorem listed_set (batches : Dict String (List String)) (i new : String) :
    Listed (batches.set i (batches.getD i [] ++ [new])) address ↔ Listed batches address ∨ address = new := by
  simp only [listed_iff,Dict.get?_set]
  constructor
  · rintro ⟨j,addresses,found,inside⟩
    split at found
    · rename_i same
      cases found
      rcases List.mem_append.mp inside with old | last
      · unfold Dict.getD at old
        cases at_i : batches.get? i with
        | none => simp [at_i] at old
        | some before => exact .inl ⟨i,before,at_i,by simpa [at_i] using old⟩
      · exact .inr (List.mem_singleton.mp last)
    · exact .inl ⟨j,addresses,found,inside⟩
  · rintro (⟨j,addresses,found,inside⟩ | same)
    · by_cases at_i : j = i
      · subst at_i
        exact ⟨j,_,if_pos rfl,by simp [Dict.getD,found,inside]⟩
      · exact ⟨j,addresses,by rw [if_neg at_i]; exact found,inside⟩
    · exact ⟨i,_,if_pos rfl,by simp [same]⟩

theorem new_listed (announced declined : Finset String) (includeDeclined : Bool) (held : List (String × String)) :
    Listed (newByInterface announced declined includeDeclined held) address ↔
      address ∈ held.map Prod.fst ∧ skips announced declined includeDeclined address = false := by
  have folded : ∀ batches, Listed (held.foldl (fun batches entry =>
      if skips announced declined includeDeclined entry.1 then batches
      else batches.set entry.2 (batches.getD entry.2 [] ++ [entry.1])) batches) address ↔
        Listed batches address ∨
          (address ∈ held.map Prod.fst ∧ skips announced declined includeDeclined address = false) := by
    induction held with
    | nil => simp
    | cons entry rest ih =>
      intro batches
      rw [List.foldl_cons,ih,List.map_cons,List.mem_cons]
      split
      · rename_i skipped
        by_cases same : address = entry.1
        · simp [same,skipped]
        · simp [same]
      · rename_i taken
        rw [listed_set]
        by_cases same : address = entry.1
        · simp [same,taken]
        · simp [same]
  have empty : ¬ Listed (Dict.empty : Dict String (List String)) address := by simp [listed_iff]
  rw [newByInterface,folded]
  simp [empty]

-- A pass that includes declined addresses leaves none behind.
structure Kept (x : Announcer) : Prop where
  disjoint : Disjoint x.announced x.declined
  toCome : ∀ address ∈ x.toCome, address ∉ x.declined
  covered : x.declined.Nonempty → x.resyncTask = true ∨ true ∈ x.waiting ∨ x.pass = some (.reading true)

theorem Kept.resyncing (kept : Kept x) (declined : x.declined.Nonempty) : Resyncing x := by
  rcases kept.covered declined with sleeping | waiting | reading
  · exact .inl sleeping
  · exact .inr (.inl waiting)
  · exact .inr (.inr (by rw [reading]; rfl))

theorem initial_kept : Kept .initial := ⟨by simp [Announcer.initial],by simp [Announcer.initial],by simp [Announcer.initial]⟩

theorem proceed_declined (x : Announcer) (includeDeclined : Bool) (batches : List Batch) :
    (proceed x includeDeclined batches).declined = x.declined := by
  cases batches <;> rfl

theorem proceed_kept (x : Announcer) (includeDeclined : Bool) (batches : List Batch)
    (disjoint : Disjoint x.announced x.declined) (toCome : ∀ address ∈ batches.flatMap Prod.snd, address ∉ x.declined)
    (covered : x.declined.Nonempty → x.resyncTask = true ∨ true ∈ x.waiting) : Kept (proceed x includeDeclined batches) := by
  cases batches with
  | nil =>
    refine ⟨disjoint,by simp [proceed,Announcer.toCome],fun declined => ?_⟩
    rcases covered declined with sleeping | waiting
    · exact .inl (by simpa [proceed,sleeping] using declined)
    · exact .inr (.inl waiting)
  | cons batch rest =>
    refine ⟨?_,?_,fun declined => (covered declined).elim .inl fun waiting => .inr (.inl waiting)⟩
    · refine Finset.disjoint_union_left.mpr ⟨disjoint,Finset.disjoint_left.mpr ?_⟩
      intro address member
      exact toCome address (List.mem_append_left _ (List.mem_toFinset.mp member))
    · intro address member
      exact toCome address (List.mem_append_right _ member)

theorem remaining_declined (x : Announcer) (includeDeclined : Bool) (held : Dict String String) :
    (afterRead x includeDeclined held).declined =
      (x.declined.filter (· ∈ held)).filter fun address =>
        skips (x.announced.filter (· ∈ held)) (x.declined.filter (· ∈ held)) includeDeclined address :=
  proceed_declined _ _ _

theorem read_kept (x : Announcer) (includeDeclined : Bool) (held : Dict String String) (kept : Kept x)
    (reading : x.pass = some (.reading includeDeclined)) : Kept (afterRead x includeDeclined held) := by
  refine proceed_kept _ includeDeclined _ ?_ ?_ ?_
  · refine Finset.disjoint_left.mpr fun address announced declined => ?_
    exact Finset.disjoint_left.mp kept.disjoint (Finset.mem_filter.mp announced).1
      (Finset.mem_filter.mp (Finset.mem_filter.mp declined).1).1
  · intro address new remaining
    have taken := ((new_listed _ _ _ _).mp new).2
    exact nomatch taken.symm.trans (Finset.mem_filter.mp remaining).2
  · rintro ⟨address,remaining⟩
    obtain ⟨inside,skipped⟩ := Finset.mem_filter.mp remaining
    have declined := (Finset.mem_filter.mp inside).1
    have fresh : address ∉ x.announced := fun announced => Finset.disjoint_left.mp kept.disjoint announced declined
    cases includeDeclined with
    | true => simp [skips,fresh] at skipped
    | false =>
      rcases kept.covered ⟨address,declined⟩ with sleeping | waiting | including
      · exact .inl sleeping
      · exact .inr waiting
      · cases reading.symm.trans including

theorem step_kept (names : CentralNames) (x : Announcer) (a : AnnouncerAction) (t : Announcer) (kept : Kept x)
    (step : announcerStep names x a = some t) (timely : Timely x a) : Kept t := by
  cases a with
  | sync =>
    cases step
    refine ⟨kept.disjoint,kept.toCome,fun declined => ?_⟩
    rcases kept.covered declined with sleeping | waiting | reading
    · exact .inl sleeping
    · exact .inr (.inl (List.mem_append_left _ waiting))
    · exact .inr (.inr reading)
  | wake =>
    simp only [announcerStep] at step
    split at step <;> cases step
    exact ⟨kept.disjoint,kept.toCome,fun _ => .inr (.inl (by simp))⟩
  | acquire =>
    simp only [announcerStep] at step
    split at step <;> cases step
    rename_i includeDeclined waiting idle order
    refine ⟨kept.disjoint,by simp [Announcer.toCome,SyncPass.rest],fun declined => ?_⟩
    rcases kept.covered declined with sleeping | waits | reading
    · exact .inl sleeping
    · rw [order] at waits
      rcases List.mem_cons.mp waits with first | later
      · exact .inr (.inr (by rw [← first]))
      · exact .inr (.inl later)
    · cases idle.symm.trans reading
  | read entries =>
    simp only [announcerStep] at step
    split at step <;> cases step
    rename_i includeDeclined reading
    exact read_kept x includeDeclined _ kept reading
  | readFailed =>
    simp only [announcerStep] at step
    split at step <;> cases step
    rename_i includeDeclined reading
    refine ⟨kept.disjoint,by simp [Announcer.toCome],fun declined => ?_⟩
    rcases kept.covered declined with sleeping | waiting | including
    · exact .inl (by simp [sleeping])
    · exact .inr (.inl waiting)
    · cases reading.symm.trans including
      exact .inl (by simpa using .inr declined)
  | resume =>
    simp only [announcerStep] at step
    split at step <;> cases step
    rename_i includeDeclined rest announcing
    refine proceed_kept x includeDeclined rest kept.disjoint ?_ fun declined => ?_
    · intro address member
      exact kept.toCome address (by simpa [Announcer.toCome,announcing,SyncPass.rest] using member)
    · rcases kept.covered declined with sleeping | waiting | reading
      · exact .inl sleeping
      · exact .inr waiting
      · cases announcing.symm.trans reading
  | decline address =>
    cases step
    refine ⟨?_,?_,fun _ => .inl rfl⟩
    · refine Finset.disjoint_left.mpr fun other announced declined => ?_
      obtain ⟨different,before⟩ := Finset.mem_erase.mp announced
      rcases Finset.mem_insert.mp declined with same | old
      · exact different same
      · exact Finset.disjoint_left.mp kept.disjoint before old
    · intro other member declined
      rcases Finset.mem_insert.mp declined with same | old
      · subst same; exact timely member
      · exact kept.toCome other member old
  | forget address =>
    cases step
    exact ⟨kept.disjoint.mono_left (Finset.erase_subset _ _),kept.toCome,kept.covered⟩
  | aclose => cases step; exact ⟨by simp,by simp,by simp⟩

theorem Kept.consistent (kept : Kept x) : Consistent x := ⟨fun _ => kept.disjoint,kept.resyncing⟩

theorem proceed_awaiting (x : Announcer) (includeDeclined : Bool) (batches : List Batch)
    (due : address ∈ batches.flatMap Prod.snd) :
    (∃ batch, (proceed x includeDeclined batches).published = x.published ++ [batch] ∧ address ∈ batch.2) ∨
      address ∈ (proceed x includeDeclined batches).toCome := by
  cases batches with
  | nil => simp at due
  | cons batch rest =>
    rw [List.flatMap_cons] at due
    rcases List.mem_append.mp due with now | later
    · exact .inl ⟨batch,rfl,now⟩
    · exact .inr later

theorem step_awaiting (names : CentralNames) (address : String) (x : Announcer) (a : AnnouncerAction) (t : Announcer)
    (kept : Kept x) (awaiting : Awaiting address x) (step : announcerStep names x a = some t) (timely : Timely x a) :
    Repaid names address x a t ∨ Awaiting address t := by
  have after := step_kept names x a t kept step timely
  have still : address ∈ t.declined → Awaiting address t := fun member => .inl ⟨member,after.resyncing ⟨address,member⟩⟩
  have unmoved : t.declined = x.declined → t.toCome = x.toCome → Awaiting address t := by
    intro declined toCome
    rcases awaiting with ⟨member,_⟩ | due
    · exact still (by rw [declined]; exact member)
    · exact .inr (by rw [toCome]; exact due)
  cases a with
  | sync => cases step; exact .inr (unmoved rfl rfl)
  | wake =>
    simp only [announcerStep] at step
    split at step <;> cases step
    exact .inr (unmoved rfl rfl)
  | acquire =>
    simp only [announcerStep] at step
    split at step <;> cases step
    rename_i idle order
    exact .inr (unmoved rfl (by simp [Announcer.toCome,idle,SyncPass.rest]))
  | read entries =>
    simp only [announcerStep] at step
    split at step <;> cases step
    rename_i includeDeclined reading
    have declined : address ∈ x.declined := by
      rcases awaiting with ⟨member,_⟩ | due
      · exact member
      · simp [Announcer.toCome,reading,SyncPass.rest] at due
    by_cases held : address ∈ heldAddresses names entries
    · cases skipped : skips (x.announced.filter (· ∈ heldAddresses names entries))
          (x.declined.filter (· ∈ heldAddresses names entries)) includeDeclined address with
      | true =>
        refine .inr (still ?_)
        rw [remaining_declined]
        exact Finset.mem_filter.mpr ⟨Finset.mem_filter.mpr ⟨declined,held⟩,skipped⟩
      | false =>
        have new := (new_listed _ _ includeDeclined (heldAddresses names entries).entries).mpr ⟨Dict.mem_def.mp held,skipped⟩
        rcases proceed_awaiting _ includeDeclined _ new with now | later
        · exact .inl (.inl now)
        · exact .inr (.inr later)
    · exact .inl (.inr held)
  | readFailed =>
    simp only [announcerStep] at step
    split at step <;> cases step
    rename_i includeDeclined reading
    exact .inr (unmoved rfl (by simp [Announcer.toCome,reading,SyncPass.rest]))
  | resume =>
    simp only [announcerStep] at step
    split at step <;> cases step
    rename_i includeDeclined rest announcing
    rcases awaiting with ⟨member,_⟩ | due
    · exact .inr (still (by rw [proceed_declined]; exact member))
    · have batches : address ∈ rest.flatMap Prod.snd := by simpa [Announcer.toCome,announcing,SyncPass.rest] using due
      rcases proceed_awaiting x includeDeclined rest batches with now | later
      · exact .inl (.inl now)
      · exact .inr (.inr later)
  | decline other =>
    cases step
    rcases awaiting with ⟨member,_⟩ | due
    · exact .inr (still (Finset.mem_insert_of_mem member))
    · exact .inr (.inr due)
  | forget other => cases step; exact .inr (unmoved rfl rfl)
  | aclose => exact .inl (.inr trivial)

theorem declined_announced_again (names : CentralNames) (actions : List AnnouncerAction)
    (timely : Every (announcerStep names) (fun x a _ => Timely x a) .initial actions) :
    Always (announcerStep names) Consistent .initial actions ∧
    Throughout (announcerStep names) (fun _ a t rest => ∀ address, a = .decline address →
      Answered (announcerStep names) (Repaid names address) (Awaiting address) t rest) .initial actions := by
  constructor
  · have always := always_of_every initial_kept (step_kept names) timely
    exact always_mono (fun _ => Kept.consistent) always
  · refine throughout_of_every Kept initial_kept (step_kept names) ?_ timely
    intro x a t rest kept step here later address declined
    have after := step_kept names x a t kept step here
    subst declined
    cases step
    have due : address ∈ (decline x address).declined := Finset.mem_insert_self _ _
    exact answered_of_every Kept after (step_kept names) (.inl ⟨due,after.resyncing ⟨address,due⟩⟩)
      (step_awaiting names address) later

-- The condition is exact: an address declined before its batch is both announced and declined.
theorem pass_ends (names : CentralNames) (includeDeclined : Bool) (rest : List Batch)
    (announcing : x.pass = some (.announcing includeDeclined rest)) (declined : address ∈ x.declined)
    (due : address ∈ rest.flatMap Prod.snd ∨ address ∈ x.announced) :
    ∃ t, run (announcerStep names) x (List.replicate (rest.length + 1) .resume) = some t ∧
      t.pass = none ∧ address ∈ t.announced ∧ address ∈ t.declined := by
  have resumed : announcerStep names x .resume = some (proceed x includeDeclined rest) := by
    simp [announcerStep,announcing]
  induction rest generalizing x with
  | nil =>
    have told : address ∈ x.announced := by simpa using due
    exact ⟨proceed x includeDeclined [],by simp [run,resumed],rfl,told,declined⟩
  | cons batch rest ih =>
    rw [List.length_cons,List.replicate_succ,run,resumed,Option.bind_some]
    refine ih rfl declined ?_ (by simp [announcerStep,proceed])
    rw [List.flatMap_cons] at due
    rcases due with batches | told
    · rcases List.mem_append.mp batches with first | later
      · exact .inr (Finset.mem_union_right _ (List.mem_toFinset.mpr first))
      · exact .inl later
    · exact .inr (Finset.mem_union_left _ told)

theorem untimely_decline_inconsistent (names : CentralNames) (includeDeclined : Bool) (rest : List Batch)
    (announcing : x.pass = some (.announcing includeDeclined rest)) (untimely : address ∈ x.toCome) :
    ∃ t, run (announcerStep names) (decline x address) (List.replicate (rest.length + 1) .resume) = some t ∧
      t.pass = none ∧ ¬ Disjoint t.announced t.declined := by
  have due : address ∈ rest.flatMap Prod.snd := by simpa [Announcer.toCome,announcing,SyncPass.rest] using untimely
  have declined : address ∈ (decline x address).declined := Finset.mem_insert_self _ _
  obtain ⟨t,path,done,told,kept⟩ := pass_ends (x := decline x address) names includeDeclined rest announcing declined (.inl due)
  exact ⟨t,path,done,fun disjoint => Finset.disjoint_left.mp disjoint told kept⟩

def heldPair : List InboxDevice := [⟨none,"A",some "HmIP-RF",some true⟩,⟨none,"B",some "BidCos-RF",some true⟩]

def declineInPublish : List AnnouncerAction :=
  [.sync,.acquire,.read heldPair,.decline "A",.resume,.decline "B",.resume,.wake,.acquire,.read heldPair,.resume,.resume]

theorem decline_in_publish_announced_again :
    Always (announcerStep ⟨some "ccu",none⟩) Consistent .initial declineInPublish ∧
    Throughout (announcerStep ⟨some "ccu",none⟩) (fun _ a t rest => ∀ address, a = .decline address →
      Answered (announcerStep ⟨some "ccu",none⟩) (Repaid ⟨some "ccu",none⟩ address) (Awaiting address) t rest)
      .initial declineInPublish :=
  declined_announced_again _ _ (by decide +kernel)

-- Inside the announcement on the first interface the consumer declines the device of the second.
theorem declined_before_its_batch : ¬ Always (announcerStep ⟨none,none⟩) Consistent .initial
    [.sync,.acquire,.read heldPair,.decline "B",.resume,.resume] := by
  decide +kernel

end LoomClient.Compat
