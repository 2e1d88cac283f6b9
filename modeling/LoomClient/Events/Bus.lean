import LoomClient.Lib.Dict
import LoomClient.Lib.Fold
import LoomClient.Lib.TaskSlot
import LoomClient.Lib.Transition
import Mathlib.Data.List.Range

namespace LoomClient.Events
open Lib

-- Two subscriptions are compared field by field, handlers by whatever equality they bring along.
structure Subscription (Kind Key Handler : Type) where
  eventType : Kind
  eventKey : Option Key
  handler : Handler
  cancelled : Bool

structure Event (Kind Key : Type) where
  kind : Kind
  eventKey : Option Key

inductive Stage where
  | running
  | finished
  | cancelled
  deriving DecidableEq, Repr

-- A call of `publish`: the snapshot of the bucket, cut where the loop stands.
structure Publish (Kind Key : Type) where
  event : Event Kind Key
  turned : List Nat
  waiting : List Nat
  calls : List Nat
  stage : Stage

-- The heap holds every subscription ever made, the buckets and the groups refer to them.
structure Bus (Kind Key Handler : Type) where
  heap : List (Subscription Kind Key Handler)
  subs : Dict Kind (List Nat)
  groups : List (List Nat)
  publishes : List (Publish Kind Key)

inductive Action (Kind Key Handler : Type) where
  | subscribe (eventType : Kind) (eventKey : Option Key) (handler : Handler)
  | unsubscribe (sub : Nat)
  | createSubscriptionGroup
  | groupSubscribe (group : Nat) (eventType : Kind) (eventKey : Option Key) (handler : Handler)
  | groupCancel (group : Nat)
  | publish (event : Event Kind Key)
  | settle (publish : Nat) (ending : Ending)

variable {Kind Key Handler : Type} [DecidableEq Kind] [DecidableEq Key] [BEq Handler]

def Subscription.equals (a b : Subscription Kind Key Handler) : Bool :=
  decide (a.eventType = b.eventType) && decide (a.eventKey = b.eventKey) && a.handler == b.handler &&
    a.cancelled == b.cancelled

def Subscription.cancel (held : Subscription Kind Key Handler) : Subscription Kind Key Handler :=
  {held with cancelled := true}

-- The filter of a subscription: no key takes every event of the type.
def Subscription.admits (held : Subscription Kind Key Handler) (event : Event Kind Key) : Bool :=
  decide (held.eventKey = none ∨ held.eventKey = event.eventKey)

namespace Bus

def empty : Bus Kind Key Handler := ⟨[],.empty,[],[]⟩

def bucket (b : Bus Kind Key Handler) (kind : Kind) : List Nat := (b.subs.get? kind).getD []

def subscribe (b : Bus Kind Key Handler) (eventType : Kind) (eventKey : Option Key) (handler : Handler) :
    Bus Kind Key Handler :=
  {b with
    heap := b.heap ++ [⟨eventType,eventKey,handler,false⟩]
    subs := b.subs.set eventType (b.bucket eventType ++ [b.heap.length])}

-- `list.remove` stops at the first member that is the object or equals it.
def same (b : Bus Kind Key Handler) (sub member : Nat) : Bool :=
  decide (member = sub) || match b.heap[member]?,b.heap[sub]? with
    | some left,some right => left.equals right
    | _,_ => false

def unsubscribe (b : Bus Kind Key Handler) (sub : Nat) : Bus Kind Key Handler :=
  match b.heap[sub]? with
  | none => b
  | some held =>
    if held.cancelled then b else
    let marked : Bus Kind Key Handler := {b with heap := b.heap.modify sub Subscription.cancel}
    match marked.subs.get? held.eventType with
    | none => marked
    | some bucket =>
      let left := bucket.eraseP (marked.same sub)
      {marked with subs := if left.isEmpty then marked.subs.erase held.eventType else marked.subs.set held.eventType left}

def skips (b : Bus Kind Key Handler) (event : Event Kind Key) (sub : Nat) : Bool :=
  match b.heap[sub]? with
  | none => true
  | some held => held.cancelled || !held.admits event

-- The loop goes on to the next handler it awaits.
def fanOut (skips : Nat → Bool) (p : Publish Kind Key) : List Nat → Publish Kind Key
  | [] => {p with waiting := [], stage := .finished}
  | sub :: rest =>
    if skips sub then fanOut skips {p with turned := p.turned ++ [sub]} rest
    else {p with turned := p.turned ++ [sub], waiting := rest, calls := p.calls ++ [sub], stage := .running}

def opened (b : Bus Kind Key Handler) (event : Event Kind Key) : Publish Kind Key :=
  ⟨event,[],b.bucket event.kind,[],.running⟩

def resume (b : Bus Kind Key Handler) (p : Publish Kind Key) : Publish Kind Key :=
  fanOut (b.skips p.event) p p.waiting

def publish (b : Bus Kind Key Handler) (event : Event Kind Key) : Bus Kind Key Handler :=
  {b with publishes := b.publishes ++ [b.resume (b.opened event)]}

-- A handler that fails is passed over; a cancellation ends the loop.
def settled (b : Bus Kind Key Handler) (p : Publish Kind Key) : Ending → Publish Kind Key
  | .returned => b.resume p
  | .raised => b.resume p
  | .cancelled => {p with stage := .cancelled}

def members (b : Bus Kind Key Handler) (group : Nat) : List Nat := (b.groups[group]?).getD []

def step (b : Bus Kind Key Handler) : Action Kind Key Handler → Option (Bus Kind Key Handler)
  | .subscribe eventType eventKey handler => some (b.subscribe eventType eventKey handler)
  | .unsubscribe sub => if sub < b.heap.length then some (b.unsubscribe sub) else none
  | .createSubscriptionGroup => some {b with groups := b.groups ++ [[]]}
  | .groupSubscribe group eventType eventKey handler =>
    if group < b.groups.length then
      some {b.subscribe eventType eventKey handler with groups := b.groups.modify group (· ++ [b.heap.length])}
    else none
  | .groupCancel group =>
    if group < b.groups.length then
      some ((b.members group).foldl unsubscribe {b with groups := b.groups.set group []})
    else none
  | .publish event => some (b.publish event)
  | .settle i ending => match b.publishes[i]? with
    | none => none
    | some p => if p.stage = .running then some {b with publishes := b.publishes.set i (b.settled p ending)} else none

end Bus

namespace Action

def settles (i : Nat) : Action Kind Key Handler → Bool
  | .settle j _ => decide (j = i)
  | _ => false

def registers (b : Bus Kind Key Handler) (kind : Kind) : Action Kind Key Handler → List Nat
  | .subscribe eventType _ _ => if eventType = kind then [b.heap.length] else []
  | .groupSubscribe _ eventType _ _ => if eventType = kind then [b.heap.length] else []
  | _ => []

def ends (b : Bus Kind Key Handler) : Action Kind Key Handler → List Nat
  | .unsubscribe sub => [sub]
  | .groupCancel group => b.members group
  | _ => []

def tracks (b : Bus Kind Key Handler) (group : Nat) : Action Kind Key Handler → List Nat
  | .groupSubscribe other _ _ _ => if other = group then b.members group ++ [b.heap.length] else b.members group
  | .groupCancel other => if other = group then [] else b.members group
  | _ => b.members group

end Action

-- Registered under its type at this moment, with a key that admits it.
def Bus.reaches (b : Bus Kind Key Handler) (event : Event Kind Key) (sub : Nat) : Bool :=
  decide (sub ∈ b.bucket event.kind) && (b.heap[sub]?).any fun held => held.admits event

-- The turns that came were those next in line, and precisely the ones the event was for at that
-- moment were called.
structure Turns (b : Bus Kind Key Handler) (p q : Publish Kind Key) (now : List Nat) : Prop where
  event : q.event = p.event
  next : p.waiting = now ++ q.waiting
  turned : q.turned = p.turned ++ now
  calls : q.calls = p.calls ++ now.filter (b.reaches p.event)

-- It awaits the handler of its last turn, or it has gone through the snapshot.
def Halts (b : Bus Kind Key Handler) (p q : Publish Kind Key) (now : List Nat) : Prop :=
  (∃ passed sub, now = passed ++ [sub] ∧ (∀ m ∈ passed, b.reaches p.event m = false) ∧ b.reaches p.event sub = true ∧
    q.stage = .running) ∨
  ((∀ m ∈ now, b.reaches p.event m = false) ∧ q.stage = .finished ∧ q.waiting = [])

-- A subscription is known by its place in the order of registration.
structure FanOutLaw (s : Bus Kind Key Handler) (a : Action Kind Key Handler) (t : Bus Kind Key Handler) : Prop where
  removed : ∀ kind, t.bucket kind = (s.bucket kind ++ a.registers s kind).filter (· ∉ a.ends s)
  ordered : ∀ kind, (t.bucket kind).Pairwise (· < ·)
  tracked : ∀ group, t.members group = a.tracks s group
  started : ∀ event, a = .publish event →
    ∃ q now, t.publishes = s.publishes ++ [q] ∧ Turns s (s.opened event) q now ∧ Halts s (s.opened event) q now
  others : ∀ i, (∀ ending, a ≠ .settle i ending) → ∀ p, s.publishes[i]? = some p → t.publishes[i]? = some p
  resumed : ∀ i ending, a = .settle i ending → ∃ p q now, s.publishes[i]? = some p ∧ p.stage = .running ∧
    t.publishes[i]? = some q ∧ Turns s p q now ∧ (if ending = .cancelled then q.stage = .cancelled ∧ now = [] else Halts s p q now)
  complete : ∀ q ∈ t.publishes, q.stage = .finished → q.waiting = []
  once : ∀ q ∈ t.publishes, (q.turned ++ q.waiting).Pairwise (· < ·) ∧ q.calls.Sublist q.turned

section Registry
omit [DecidableEq Key] [BEq Handler]

def Bus.registered (b : Bus Kind Key Handler) (kind : Kind) (sub : Nat) : Bool :=
  (b.heap[sub]?).any fun held => !held.cancelled && decide (held.eventType = kind)

def Bus.Registry (b : Bus Kind Key Handler) : Prop :=
  ∀ kind, b.bucket kind = (List.range b.heap.length).filter (b.registered kind)

theorem erase_only {p : Nat → Bool} (members : List Nat) (distinct : members.Nodup)
    (only : ∀ m ∈ members, p m = true ↔ m = sub) : members.eraseP p = members.filter (· ≠ sub) := by
  induction members with
  | nil => rfl
  | cons m rest ih =>
    obtain ⟨fresh,others⟩ := List.nodup_cons.mp distinct
    have later := ih others fun n member => only n (.tail m member)
    by_cases here : m = sub
    · rw [List.eraseP_cons_of_pos ((only m (.head rest)).mpr here),List.filter_cons_of_neg (by simpa using here)]
      subst here
      exact (List.filter_eq_self.mpr fun n member => by
        have other : n ≠ m := fun equal => fresh (equal ▸ member)
        simpa using other).symm
    · rw [List.eraseP_cons_of_neg (fun passed => here ((only m (.head rest)).mp passed)),
        List.filter_cons_of_pos (by simpa using here),later]

theorem bucket_set (b : Bus Kind Key Handler) (kind kind' : Kind) (members : List Nat) :
    ({b with subs := b.subs.set kind members} : Bus Kind Key Handler).bucket kind' =
      if kind' = kind then members else b.bucket kind' := by
  unfold Bus.bucket
  rw [Dict.get?_set]
  split <;> rfl

variable {b : Bus Kind Key Handler}

theorem registered_below (known : b.registered kind sub = true) : sub < b.heap.length := by
  unfold Bus.registered at known
  cases held : b.heap[sub]? with
  | none => simp [held] at known
  | some => exact (List.getElem?_eq_some_iff.mp held).1

theorem mem_bucket (registry : b.Registry) : sub ∈ b.bucket kind ↔ b.registered kind sub = true := by
  rw [registry kind,List.mem_filter,List.mem_range]
  exact ⟨And.right,fun known => ⟨registered_below known,known⟩⟩

theorem bucket_increases (registry : b.Registry) (kind : Kind) : (b.bucket kind).Pairwise (· < ·) := by
  rw [registry kind]
  exact List.pairwise_lt_range.filter _

theorem bucket_distinct (registry : b.Registry) (kind : Kind) : (b.bucket kind).Nodup :=
  (bucket_increases registry kind).imp Nat.ne_of_lt

theorem subscribe_bucket (b : Bus Kind Key Handler) (eventType kind : Kind) (eventKey : Option Key) (handler : Handler) :
    (b.subscribe eventType eventKey handler).bucket kind =
      b.bucket kind ++ if eventType = kind then [b.heap.length] else [] := by
  have written : (b.subscribe eventType eventKey handler).bucket kind =
      if kind = eventType then b.bucket eventType ++ [b.heap.length] else b.bucket kind := bucket_set b eventType kind _
  rw [written]
  by_cases same : kind = eventType
  · subst same; simp
  · simp [same,Ne.symm same]

theorem subscribe_registry (registry : b.Registry) (eventType : Kind) (eventKey : Option Key) (handler : Handler) :
    (b.subscribe eventType eventKey handler).Registry := by
  intro kind
  have length : (b.subscribe eventType eventKey handler).heap.length = b.heap.length + 1 := List.length_append
  rw [subscribe_bucket,registry kind,length,List.range_succ,List.filter_append]
  congr 1
  · apply List.filter_congr
    intro sub member
    have below := List.mem_range.mp member
    simp only [Bus.registered,Bus.subscribe,List.getElem?_append_left below]
  · have last : (b.subscribe eventType eventKey handler).registered kind b.heap.length = decide (eventType = kind) := by
      simp only [Bus.registered,Bus.subscribe,List.getElem?_concat_length,Option.any_some,Bool.not_false,Bool.true_and]
    rw [List.filter_singleton,last]
    by_cases same : eventType = kind <;> simp [same]

theorem registered_held (known : b.registered kind sub = true) :
    ∃ held, b.heap[sub]? = some held ∧ held.cancelled = false ∧ held.eventType = kind := by
  unfold Bus.registered at known
  cases found : b.heap[sub]? with
  | none => simp [found] at known
  | some held =>
    rw [found,Option.any_some,Bool.and_eq_true,Bool.not_eq_true',decide_eq_true_eq] at known
    exact ⟨held,rfl,known⟩

theorem filter_absent {members : List Nat} (absent : sub ∉ members) : members.filter (· ≠ sub) = members := by
  apply List.filter_eq_self.mpr
  intro m member
  have other : m ≠ sub := fun equal => absent (equal ▸ member)
  simpa using other

end Registry

section Unsubscribe
variable {b : Bus Kind Key Handler}

theorem unsubscribe_heap (b : Bus Kind Key Handler) (sub : Nat) :
    (b.unsubscribe sub).heap = b.heap.modify sub Subscription.cancel := by
  unfold Bus.unsubscribe
  cases found : b.heap[sub]? with
  | none => exact (List.modify_eq_self (List.getElem?_eq_none_iff.mp found)).symm
  | some held =>
    by_cases gone : held.cancelled = true
    · have same : held.cancel = held := by
        cases held
        simp only at gone
        subst gone
        rfl
      simp only [if_pos gone]
      apply List.ext_getElem?
      intro i
      rw [List.getElem?_modify]
      by_cases here : sub = i
      · subst here
        simp [found,same]
      · simp [here]
    · simp only [if_neg gone]
      split <;> rfl

theorem unsubscribe_publishes (b : Bus Kind Key Handler) (sub : Nat) : (b.unsubscribe sub).publishes = b.publishes := by
  unfold Bus.unsubscribe
  split
  · rfl
  · split
    · rfl
    · dsimp only
      split <;> rfl

theorem unsubscribe_groups (b : Bus Kind Key Handler) (sub : Nat) : (b.unsubscribe sub).groups = b.groups := by
  unfold Bus.unsubscribe
  split
  · rfl
  · split
    · rfl
    · dsimp only
      split <;> rfl

theorem unsubscribe_registered (b : Bus Kind Key Handler) (sub : Nat) (kind : Kind) (m : Nat) :
    (b.unsubscribe sub).registered kind m = (b.registered kind m && decide (m ≠ sub)) := by
  unfold Bus.registered
  rw [unsubscribe_heap,List.getElem?_modify]
  by_cases here : sub = m
  · subst here
    cases b.heap[sub]? <;> simp [Subscription.cancel]
  · simp [here,Ne.symm here]

theorem same_only (registry : b.Registry) (found : b.heap[sub]? = some held) (member : m ∈ b.bucket kind) :
    ({b with heap := b.heap.modify sub Subscription.cancel} : Bus Kind Key Handler).same sub m = true ↔ m = sub := by
  obtain ⟨other,holds,current,_⟩ := registered_held ((mem_bucket registry).mp member)
  by_cases here : m = sub
  · simp [Bus.same,here]
  · have marked : (b.heap.modify sub Subscription.cancel)[sub]? = some held.cancel := by simp [found]
    have beside : (b.heap.modify sub Subscription.cancel)[m]? = some other := by
      rw [List.getElem?_modify_ne _ _ (Ne.symm here),holds]
    simp only [Bus.same,marked,beside,Subscription.equals,Subscription.cancel,current]
    simp [here]

theorem unsubscribe_bucket (registry : b.Registry) (sub : Nat) (kind : Kind) :
    (b.unsubscribe sub).bucket kind = (b.bucket kind).filter (· ≠ sub) := by
  unfold Bus.unsubscribe
  cases found : b.heap[sub]? with
  | none =>
    refine (filter_absent fun member => ?_).symm
    obtain ⟨_,held,_⟩ := registered_held ((mem_bucket registry).mp member)
    simp [found] at held
  | some held =>
    have typed : ∀ kind, sub ∈ b.bucket kind → held.cancelled = false ∧ held.eventType = kind := by
      intro kind member
      obtain ⟨known,again,facts⟩ := registered_held ((mem_bucket registry).mp member)
      rw [found] at again
      cases again
      exact facts
    by_cases gone : held.cancelled = true
    · simp only [if_pos gone]
      refine (filter_absent fun member => ?_).symm
      simp [(typed kind member).1] at gone
    · simp only [if_neg gone]
      by_cases own : kind = held.eventType
      · subst own
        cases listed : b.subs.get? held.eventType with
        | none =>
          have none_left : b.bucket held.eventType = [] := by simp [Bus.bucket,listed]
          rw [none_left]
          exact none_left
        | some members =>
          have bucket : b.bucket held.eventType = members := by simp [Bus.bucket,listed]
          have taken := erase_only members (bucket ▸ bucket_distinct registry held.eventType)
            fun m member => same_only registry found (bucket.symm ▸ member)
          rw [bucket,← taken]
          dsimp only
          split
          · rename_i empty
            rw [Bus.bucket,Dict.get?_erase,if_pos rfl,List.isEmpty_iff.mp empty]
            rfl
          · rw [Bus.bucket,Dict.get?_set,if_pos rfl]
            rfl
      · rw [filter_absent fun member => own (typed kind member).2.symm]
        cases b.subs.get? held.eventType with
        | none => rfl
        | some members =>
          dsimp only
          split
          · rw [Bus.bucket,Dict.get?_erase,if_neg own]
            rfl
          · rw [Bus.bucket,Dict.get?_set,if_neg own]
            rfl

theorem unsubscribe_registry (registry : b.Registry) (sub : Nat) : (b.unsubscribe sub).Registry := by
  intro kind
  rw [unsubscribe_bucket registry,registry kind,unsubscribe_heap,List.length_modify,List.filter_filter]
  apply List.filter_congr
  intro m _
  rw [unsubscribe_registered]
  exact Bool.and_comm _ _

theorem unsubscribe_all (registry : b.Registry) (members : List Nat) :
    (members.foldl Bus.unsubscribe b).Registry ∧
      ∀ kind, (members.foldl Bus.unsubscribe b).bucket kind = (b.bucket kind).filter (· ∉ members) := by
  induction members generalizing b with
  | nil => exact ⟨registry,fun kind => (List.filter_eq_self.mpr (by simp)).symm⟩
  | cons sub rest ih =>
    have later := ih (unsubscribe_registry registry sub)
    refine ⟨later.1,fun kind => ?_⟩
    rw [List.foldl_cons,later.2 kind,unsubscribe_bucket registry,List.filter_filter]
    apply List.filter_congr
    intro m _
    by_cases here : m = sub <;> simp [here]

end Unsubscribe

section Turns
variable {b : Bus Kind Key Handler}

def Bus.Typed (b : Bus Kind Key Handler) (event : Event Kind Key) (sub : Nat) : Prop :=
  ∃ held, b.heap[sub]? = some held ∧ held.eventType = event.kind

omit [DecidableEq Kind] [DecidableEq Key] [BEq Handler] in
theorem fan_out_turns (skips : Nat → Bool) (waiting : List Nat) (p : Publish Kind Key) :
    ∃ now, waiting = now ++ (Bus.fanOut skips p waiting).waiting ∧
      (Bus.fanOut skips p waiting).turned = p.turned ++ now ∧
      (Bus.fanOut skips p waiting).calls = p.calls ++ now.filter (fun sub => !skips sub) ∧
      ((∃ passed sub, now = passed ++ [sub] ∧ (∀ m ∈ passed, skips m = true) ∧ skips sub = false ∧
          (Bus.fanOut skips p waiting).stage = .running) ∨
        (∀ m ∈ now, skips m = true) ∧ (Bus.fanOut skips p waiting).stage = .finished ∧
          (Bus.fanOut skips p waiting).waiting = []) := by
  induction waiting generalizing p with
  | nil =>
    refine ⟨[],rfl,(List.append_nil _).symm,(List.append_nil _).symm,.inr ⟨?_,rfl,rfl⟩⟩
    exact fun _ member => absurd member List.not_mem_nil
  | cons sub rest ih =>
    unfold Bus.fanOut
    by_cases skipped : skips sub = true
    · rw [if_pos skipped]
      obtain ⟨now,next,turned,calls,halts⟩ := ih {p with turned := p.turned ++ [sub]}
      refine ⟨sub :: now,congrArg (sub :: ·) next,?_,?_,?_⟩
      · rw [turned,List.append_assoc]
        rfl
      · rw [calls,List.filter_cons_of_neg (by simp [skipped])]
      · rcases halts with ⟨passed,last,rfl,before,called,running⟩ | ⟨before,finished⟩
        · exact .inl ⟨sub :: passed,last,rfl,List.forall_mem_cons.mpr ⟨skipped,before⟩,called,running⟩
        · exact .inr ⟨List.forall_mem_cons.mpr ⟨skipped,before⟩,finished⟩
    · have called : skips sub = false := Bool.not_eq_true _ ▸ skipped
      rw [if_neg skipped]
      refine ⟨[sub],rfl,rfl,?_,.inl ⟨[],sub,rfl,?_,called,rfl⟩⟩
      · rw [List.filter_cons_of_pos (by simp [called])]
        rfl
      · exact fun _ member => absurd member List.not_mem_nil

omit [DecidableEq Kind] [DecidableEq Key] [BEq Handler] in
theorem fan_out_event (skips : Nat → Bool) (waiting : List Nat) (p : Publish Kind Key) :
    (Bus.fanOut skips p waiting).event = p.event := by
  induction waiting generalizing p with
  | nil => rfl
  | cons sub rest ih =>
    unfold Bus.fanOut
    split
    · exact ih {p with turned := p.turned ++ [sub]}
    · rfl

omit [BEq Handler] in
-- The loop tests the flag and the key; that the type fits and that the object is still in its
-- bucket comes with these.
theorem reaches_unless_skipped (registry : b.Registry) (event : Event Kind Key) (typed : b.Typed event sub) :
    b.reaches event sub = !b.skips event sub := by
  obtain ⟨held,found,kind⟩ := typed
  have listed : sub ∈ b.bucket event.kind ↔ held.cancelled = false := by
    rw [mem_bucket registry]
    simp [Bus.registered,found,kind]
  unfold Bus.reaches Bus.skips
  simp only [found,Option.any_some]
  cases standing : held.cancelled <;> simp [listed,standing]

omit [BEq Handler] in
theorem resume_turns (registry : b.Registry) (p : Publish Kind Key) (typed : ∀ sub ∈ p.waiting, b.Typed p.event sub) :
    ∃ now, Turns b p (b.resume p) now ∧ Halts b p (b.resume p) now := by
  obtain ⟨now,next,turned,calls,halts⟩ := fan_out_turns (b.skips p.event) p.waiting p
  have judged (sub : Nat) (member : sub ∈ now) : b.reaches p.event sub = !b.skips p.event sub := by
    refine reaches_unless_skipped registry p.event (typed sub ?_)
    rw [next]
    exact List.mem_append_left _ member
  refine ⟨now,⟨fan_out_event _ _ p,next,turned,?_⟩,?_⟩
  · exact calls.trans (congrArg (p.calls ++ ·) (List.filter_congr fun sub member => (judged sub member).symm))
  · have silent (m : Nat) (member : m ∈ now) (skipped : b.skips p.event m = true) : b.reaches p.event m = false := by
      rw [judged m member,skipped]
      rfl
    rcases halts with ⟨passed,sub,rfl,before,called,running⟩ | ⟨before,finished⟩
    · refine .inl ⟨passed,sub,rfl,fun m member => silent m (List.mem_append_left _ member) (before m member),?_,running⟩
      rw [judged sub (List.mem_append_right _ (.head [])),called]
      rfl
    · exact .inr ⟨fun m member => silent m member (before m member),finished⟩

omit [BEq Handler] in
theorem halts_complete {p q : Publish Kind Key} (halts : Halts b p q now) : q.stage = .finished → q.waiting = [] := by
  rcases halts with ⟨_,_,_,_,_,running⟩ | ⟨_,_,through⟩
  · rw [running]
    exact nofun
  · exact fun _ => through

end Turns

section Standing
variable {s t : Bus Kind Key Handler}

structure Bus.Stands (b : Bus Kind Key Handler) (p : Publish Kind Key) : Prop where
  typed : ∀ sub ∈ p.waiting, b.Typed p.event sub
  order : (p.turned ++ p.waiting).Pairwise (· < ·)
  called : p.calls.Sublist p.turned
  complete : p.stage = .finished → p.waiting = []

def Publish.Awaits (p : Publish Kind Key) : Prop :=
  p.stage = .running → ∃ sub, p.turned.getLast? = some sub ∧ p.calls.getLast? = some sub

structure Bus.Standing (b : Bus Kind Key Handler) : Prop where
  registry : b.Registry
  stands : ∀ p ∈ b.publishes, b.Stands p
  awaits : ∀ p ∈ b.publishes, p.Awaits

def Bus.Carries (s t : Bus Kind Key Handler) : Prop := ∀ event sub, s.Typed event sub → t.Typed event sub

omit [DecidableEq Kind] [DecidableEq Key] [BEq Handler] in
theorem Bus.Stands.carried {p : Publish Kind Key} (stands : s.Stands p) (carries : s.Carries t) : t.Stands p :=
  ⟨fun sub member => carries _ sub (stands.typed sub member),stands.order,stands.called,stands.complete⟩

omit [BEq Handler] [DecidableEq Key] in
theorem subscribe_carries (s : Bus Kind Key Handler) (eventType : Kind) (eventKey : Option Key) (handler : Handler) :
    s.Carries (s.subscribe eventType eventKey handler) := by
  rintro event sub ⟨held,found,kind⟩
  have below := (List.getElem?_eq_some_iff.mp found).1
  exact ⟨held,(List.getElem?_append_left below).trans found,kind⟩

theorem unsubscribe_carries (s : Bus Kind Key Handler) (sub : Nat) : s.Carries (s.unsubscribe sub) := by
  rintro event m ⟨held,found,kind⟩
  by_cases here : sub = m
  · refine ⟨held.cancel,?_,kind⟩
    simp [unsubscribe_heap,found,here]
  · refine ⟨held,?_,kind⟩
    simp [unsubscribe_heap,found,here]

theorem unsubscribe_all_carries (s : Bus Kind Key Handler) (members : List Nat) :
    s.Carries (members.foldl Bus.unsubscribe s) ∧ (members.foldl Bus.unsubscribe s).publishes = s.publishes := by
  induction members generalizing s with
  | nil => exact ⟨fun _ _ typed => typed,rfl⟩
  | cons sub rest ih =>
    have later := ih (s.unsubscribe sub)
    exact ⟨fun event m typed => later.1 event m (unsubscribe_carries s sub event m typed),
      later.2.trans (unsubscribe_publishes s sub)⟩

omit [BEq Handler] [DecidableEq Key] in
theorem opened_stands (standing : s.Standing) (event : Event Kind Key) : s.Stands (s.opened event) where
  typed := by
    intro sub member
    obtain ⟨held,found,_,kind⟩ := registered_held ((mem_bucket standing.registry).mp member)
    exact ⟨held,found,kind⟩
  order := bucket_increases standing.registry event.kind
  called := List.Sublist.refl _
  complete := fun finished => by cases finished

omit [BEq Handler] in
theorem resume_stands (registry : s.Registry) {p : Publish Kind Key} (stands : s.Stands p) : s.Stands (s.resume p) := by
  obtain ⟨now,turns,halts⟩ := resume_turns registry p stands.typed
  refine ⟨fun sub member => ?_,?_,?_,halts_complete halts⟩
  · rw [turns.event]
    refine stands.typed sub ?_
    rw [turns.next]
    exact List.mem_append_right _ member
  · have order := stands.order
    rwa [turns.next,← List.append_assoc,← turns.turned] at order
  · rw [turns.calls,turns.turned]
    exact List.Sublist.append stands.called (List.filter_sublist)

omit [BEq Handler] in
theorem halts_awaits {p q : Publish Kind Key} (turns : Turns s p q now) (halts : Halts s p q now) : q.Awaits := by
  intro running
  rcases halts with ⟨passed,sub,rfl,_,called,_⟩ | ⟨_,finished,_⟩
  · refine ⟨sub,?_,?_⟩
    · rw [turns.turned,← List.append_assoc,List.getLast?_concat]
    · rw [turns.calls,List.filter_append,List.filter_cons_of_pos called,List.filter_nil,← List.append_assoc,
        List.getLast?_concat]
  · rw [finished] at running
    cases running

omit [BEq Handler] in
theorem settled_turns (registry : s.Registry) {p : Publish Kind Key} (stands : s.Stands p) (ending : Ending) :
    s.Stands (s.settled p ending) ∧ (s.settled p ending).Awaits ∧ ∃ now, Turns s p (s.settled p ending) now ∧
      if ending = .cancelled then (s.settled p ending).stage = .cancelled ∧ now = [] else Halts s p (s.settled p ending) now := by
  have resumed := resume_turns registry p stands.typed
  have awaits : (s.resume p).Awaits := by
    obtain ⟨now,turns,halts⟩ := resumed
    exact halts_awaits turns halts
  cases ending with
  | returned => exact ⟨resume_stands registry stands,awaits,resumed⟩
  | raised => exact ⟨resume_stands registry stands,awaits,resumed⟩
  | cancelled =>
    refine ⟨⟨stands.typed,stands.order,stands.called,nofun⟩,nofun,[],?_,rfl,rfl⟩
    exact ⟨rfl,rfl,(List.append_nil _).symm,(List.append_nil _).symm⟩

omit [BEq Handler] in
theorem quiet_law {a : Action Kind Key Handler} (standing : t.Standing) (same : t.publishes = s.publishes)
    (removed : ∀ kind, t.bucket kind = (s.bucket kind ++ a.registers s kind).filter (· ∉ a.ends s))
    (tracked : ∀ group, t.members group = a.tracks s group)
    (silent : ∀ event, a ≠ .publish event) (idle : ∀ i ending, a ≠ .settle i ending) : FanOutLaw s a t where
  removed := removed
  ordered := bucket_increases standing.registry
  tracked := tracked
  started := fun event equal => absurd equal (silent event)
  others := fun _ _ _ found => same ▸ found
  resumed := fun i ending equal => absurd equal (idle i ending)
  complete := fun q member => (standing.stands q member).complete
  once := fun q member => ⟨(standing.stands q member).order,(standing.stands q member).called⟩

omit [BEq Handler] [DecidableEq Key] in
theorem standing_carried (standing : s.Standing) (registry : t.Registry) (carries : s.Carries t)
    (same : t.publishes = s.publishes) : t.Standing :=
  ⟨registry,fun p member => (standing.stands p (same ▸ member)).carried carries,
    fun p member => standing.awaits p (same ▸ member)⟩

omit [BEq Handler] in
theorem subscribe_law (standing : s.Standing) (eventType : Kind) (eventKey : Option Key) (handler : Handler)
    (a : Action Kind Key Handler) (registers : ∀ kind, a.registers s kind = if eventType = kind then [s.heap.length] else [])
    (ends : a.ends s = []) (tracked : ∀ group, t.members group = a.tracks s group)
    (silent : ∀ event, a ≠ .publish event) (idle : ∀ i ending, a ≠ .settle i ending)
    (heap : t.heap = (s.subscribe eventType eventKey handler).heap)
    (subs : t.subs = (s.subscribe eventType eventKey handler).subs) (same : t.publishes = s.publishes) :
    t.Standing ∧ FanOutLaw s a t := by
  have bucket : ∀ kind, t.bucket kind = (s.subscribe eventType eventKey handler).bucket kind := by
    intro kind
    unfold Bus.bucket
    rw [subs]
  have registry : t.Registry := by
    intro kind
    have listed := subscribe_registry standing.registry eventType eventKey handler kind
    rw [bucket,listed]
    unfold Bus.registered
    rw [heap]
  have carries : s.Carries t := by
    intro event sub typed
    obtain ⟨held,found,kind⟩ := subscribe_carries s eventType eventKey handler event sub typed
    exact ⟨held,heap ▸ found,kind⟩
  have after := standing_carried standing registry carries same
  refine ⟨after,quiet_law after same (fun kind => ?_) tracked silent idle⟩
  rw [bucket,subscribe_bucket,registers,ends]
  exact (List.filter_eq_self.mpr (by simp)).symm

theorem members_modify (groups : List (List Nat)) (group other : Nat) (f : List Nat → List Nat) (known : group < groups.length) :
    ((groups.modify group f)[other]?).getD [] =
      if group = other then f ((groups[other]?).getD []) else (groups[other]?).getD [] := by
  by_cases here : group = other
  · subst here
    simp [known]
  · simp [here]

theorem members_set (groups : List (List Nat)) (group other : Nat) (known : group < groups.length) :
    ((groups.set group [])[other]?).getD [] = if group = other then [] else (groups[other]?).getD [] := by
  by_cases here : group = other
  · subst here
    simp [known]
  · simp [here]

theorem members_append (groups : List (List Nat)) (group : Nat) :
    ((groups ++ [[]])[group]?).getD [] = (groups[group]?).getD [] := by
  rcases Nat.lt_trichotomy group groups.length with below | last | above
  · rw [List.getElem?_append_left below]
  · subst last
    simp
  · rw [List.getElem?_eq_none (by simp; omega),List.getElem?_eq_none (by omega)]

theorem group_subscribe_law (standing : s.Standing) {group : Nat} {eventType : Kind} {eventKey : Option Key}
    {handler : Handler} (next : s.step (.groupSubscribe group eventType eventKey handler) = some t) :
    t.Standing ∧ FanOutLaw s (.groupSubscribe group eventType eventKey handler) t := by
  simp only [Bus.step] at next
  split at next
  · rename_i known
    cases next
    refine subscribe_law standing eventType eventKey handler _ (fun _ => rfl) rfl (fun other => ?_) (by simp) (by simp) rfl
      rfl rfl
    exact members_modify s.groups group other (· ++ [s.heap.length]) known
  · cases next

theorem create_group_law (standing : s.Standing) (next : s.step .createSubscriptionGroup = some t) :
    t.Standing ∧ FanOutLaw s .createSubscriptionGroup t := by
  cases next
  have after : Bus.Standing {s with groups := s.groups ++ [[]]} :=
    standing_carried standing standing.registry (fun _ _ typed => typed) rfl
  refine ⟨after,quiet_law after rfl (fun kind => ?_) (fun group => members_append s.groups group) (by simp) (by simp)⟩
  simp only [Action.registers,Action.ends,List.append_nil]
  exact (List.filter_eq_self.mpr (by simp)).symm

theorem unsubscribe_law (standing : s.Standing) {sub : Nat} (next : s.step (.unsubscribe sub) = some t) :
    t.Standing ∧ FanOutLaw s (.unsubscribe sub) t := by
  simp only [Bus.step] at next
  split at next
  · cases next
    have after : (s.unsubscribe sub).Standing := standing_carried standing (unsubscribe_registry standing.registry sub)
      (unsubscribe_carries s sub) (unsubscribe_publishes s sub)
    refine ⟨after,quiet_law after (unsubscribe_publishes s sub) (fun kind => ?_) (fun group => ?_) (by simp) (by simp)⟩
    · simp only [unsubscribe_bucket standing.registry,Action.registers,Action.ends,List.append_nil,List.mem_singleton]
    · rw [Bus.members,unsubscribe_groups]
      rfl
  · cases next

theorem group_cancel_law (standing : s.Standing) {group : Nat} (next : s.step (.groupCancel group) = some t) :
    t.Standing ∧ FanOutLaw s (.groupCancel group) t := by
  simp only [Bus.step] at next
  split at next
  · rename_i known
    cases next
    let emptied : Bus Kind Key Handler := {s with groups := s.groups.set group []}
    have registry : emptied.Registry := standing.registry
    obtain ⟨gone,bucket⟩ := unsubscribe_all registry (s.members group)
    obtain ⟨carries,same⟩ := unsubscribe_all_carries emptied (s.members group)
    have after : ((s.members group).foldl Bus.unsubscribe emptied).Standing := standing_carried standing gone carries same
    refine ⟨after,quiet_law after same (fun kind => ?_) (fun other => ?_) (by simp) (by simp)⟩
    · simp only [Action.registers,Action.ends,List.append_nil]
      exact bucket kind
    · rw [Bus.members,foldl_frame Bus.unsubscribe Bus.groups unsubscribe_groups]
      exact members_set s.groups group other known
  · cases next

theorem publish_law (standing : s.Standing) {event : Event Kind Key} (next : s.step (.publish event) = some t) :
    t.Standing ∧ FanOutLaw s (.publish event) t := by
  cases next
  have opened := opened_stands standing event
  obtain ⟨now,turns,halts⟩ := resume_turns standing.registry (s.opened event) opened.typed
  have after : (s.publish event).Standing := by
    refine ⟨standing.registry,fun q member => ?_,fun q member => ?_⟩
    · rcases List.mem_append.mp member with older | newest
      · exact (standing.stands q older).carried fun _ _ typed => typed
      · rw [List.mem_singleton.mp newest]
        exact (resume_stands standing.registry opened).carried fun _ _ typed => typed
    · rcases List.mem_append.mp member with older | newest
      · exact standing.awaits q older
      · rw [List.mem_singleton.mp newest]
        exact halts_awaits turns halts
  refine ⟨after,fun kind => ?_,bucket_increases standing.registry,fun _ => rfl,?_,?_,?_,?_,?_⟩
  · simp only [Action.registers,Action.ends,List.append_nil]
    exact (List.filter_eq_self.mpr (by simp)).symm
  · intro event' equal
    cases equal
    exact ⟨_,now,rfl,turns,halts⟩
  · intro i _ p found
    exact (List.getElem?_append_left (List.getElem?_eq_some_iff.mp found).1).trans found
  · intro i ending equal
    cases equal
  · exact fun q member => (after.stands q member).complete
  · exact fun q member => ⟨(after.stands q member).order,(after.stands q member).called⟩

theorem settle_law (standing : s.Standing) {i : Nat} {ending : Ending} (next : s.step (.settle i ending) = some t) :
    t.Standing ∧ FanOutLaw s (.settle i ending) t := by
  simp only [Bus.step] at next
  split at next
  · cases next
  · rename_i p found
    split at next
    · rename_i running
      cases next
      have member := List.mem_of_getElem? found
      have below := (List.getElem?_eq_some_iff.mp found).1
      obtain ⟨stands,awaits,now,turns,halts⟩ := settled_turns standing.registry (standing.stands p member) ending
      have after : Bus.Standing {s with publishes := s.publishes.set i (s.settled p ending)} := by
        refine ⟨standing.registry,fun q member => ?_,fun q member => ?_⟩
        · rcases List.mem_or_eq_of_mem_set member with older | new
          · exact (standing.stands q older).carried fun _ _ typed => typed
          · rw [new]
            exact stands.carried fun _ _ typed => typed
        · rcases List.mem_or_eq_of_mem_set member with older | new
          · exact standing.awaits q older
          · rw [new]
            exact awaits
      refine ⟨after,fun kind => ?_,bucket_increases standing.registry,fun _ => rfl,?_,?_,?_,?_,?_⟩
      · simp only [Action.registers,Action.ends,List.append_nil]
        exact (List.filter_eq_self.mpr (by simp)).symm
      · intro event equal
        cases equal
      · intro j other q held
        have apart : i ≠ j := by
          intro same
          subst same
          exact other ending rfl
        exact (List.getElem?_set_ne apart).trans held
      · intro j ending' equal
        cases equal
        exact ⟨p,_,now,found,running,List.getElem?_set_self below,turns,halts⟩
      · exact fun q member => (after.stands q member).complete
      · exact fun q member => ⟨(after.stands q member).order,(after.stands q member).called⟩
    · cases next

theorem step_law (standing : s.Standing) (next : s.step a = some t) : t.Standing ∧ FanOutLaw s a t := by
  cases a with
  | subscribe eventType eventKey handler =>
    cases next
    exact subscribe_law standing eventType eventKey handler _ (fun _ => rfl) rfl (fun _ => rfl) (by simp) (by simp) rfl rfl rfl
  | groupSubscribe => exact group_subscribe_law standing next
  | createSubscriptionGroup => exact create_group_law standing next
  | unsubscribe => exact unsubscribe_law standing next
  | groupCancel => exact group_cancel_law standing next
  | publish => exact publish_law standing next
  | settle => exact settle_law standing next

omit [BEq Handler] [DecidableEq Key] in
theorem empty_standing : (Bus.empty : Bus Kind Key Handler).Standing :=
  ⟨fun _ => rfl,fun _ member => absurd member List.not_mem_nil,fun _ member => absurd member List.not_mem_nil⟩

end Standing

-- Every member of the snapshot has had its turn or still waits for it.
def Owes (i : Nat) (event : Event Kind Key) (snapshot : List Nat) (b : Bus Kind Key Handler) : Prop :=
  ∃ q, b.publishes[i]? = some q ∧ q.event = event ∧ q.turned ++ q.waiting = snapshot ∧
    (q.stage = .finished → q.turned = snapshot)

-- While it runs each ending has brought one more turn, and only a cancellation stops it short.
def Paced (i endings : Nat) (torn : Prop) (b : Bus Kind Key Handler) : Prop :=
  ∃ q, b.publishes[i]? = some q ∧ (q.stage = .running → endings < q.turned.length) ∧ (q.stage = .cancelled → torn)

section Run
variable {s t : Bus Kind Key Handler}

omit [BEq Handler] in
theorem turns_owe {p q : Publish Kind Key} {snapshot : List Nat} (turns : Turns s p q now) (before : p.turned ++ p.waiting = snapshot)
    (complete : q.stage = .finished → q.waiting = []) :
    q.turned ++ q.waiting = snapshot ∧ (q.stage = .finished → q.turned = snapshot) := by
  have kept : q.turned ++ q.waiting = snapshot := by
    rw [turns.turned,List.append_assoc,← turns.next,before]
  refine ⟨kept,fun finished => ?_⟩
  rw [← kept,complete finished,List.append_nil]

omit [BEq Handler] in
theorem publish_owes (law : FanOutLaw s (.publish event) t) :
    Owes s.publishes.length event (s.bucket event.kind) t := by
  obtain ⟨q,now,publishes,turns,_⟩ := law.started event rfl
  have member : q ∈ t.publishes := by
    rw [publishes]
    exact List.mem_append_right _ (.head [])
  refine ⟨q,?_,turns.event,turns_owe turns rfl (law.complete q member)⟩
  rw [publishes,List.getElem?_concat_length]

omit [BEq Handler] in
theorem step_owes {a : Action Kind Key Handler} (law : FanOutLaw s a t) (owes : Owes i event snapshot s) :
    Owes i event snapshot t := by
  obtain ⟨p,found,same,kept,finished⟩ := owes
  by_cases own : ∃ ending, a = .settle i ending
  · obtain ⟨ending,equal⟩ := own
    obtain ⟨p',q,now,found',_,later,turns,_⟩ := law.resumed i ending equal
    rw [found] at found'
    cases found'
    exact ⟨q,later,turns.event.trans same,turns_owe turns kept (law.complete q (List.mem_of_getElem? later))⟩
  · exact ⟨p,law.others i (fun ending equal => own ⟨ending,equal⟩) p found,same,kept,finished⟩

theorem always_owes (standing : s.Standing) (owes : Owes i event snapshot s) (later : List (Action Kind Key Handler)) :
    Always Bus.step (Owes i event snapshot) s later := by
  have both : Always Bus.step (fun b => b.Standing ∧ Owes i event snapshot b) s later := by
    refine always_of_invariant ⟨standing,owes⟩ fun s a t both next => ?_
    obtain ⟨after,law⟩ := step_law both.1 next
    exact ⟨after,step_owes law both.2⟩
  exact always_mono (fun _ both => both.2) both

omit [BEq Handler] in
theorem halts_further {p q : Publish Kind Key} (turns : Turns s p q now) (halts : Halts s p q now) :
    q.stage ≠ .cancelled ∧ (q.stage = .running → p.turned.length < q.turned.length) := by
  rw [turns.turned,List.length_append]
  rcases halts with ⟨passed,sub,rfl,_,_,running⟩ | ⟨_,finished,_⟩
  · rw [running,List.length_append,List.length_singleton]
    exact ⟨nofun,fun _ => by omega⟩
  · rw [finished]
    exact ⟨nofun,nofun⟩

omit [BEq Handler] in
theorem publish_paced (law : FanOutLaw s (.publish event) t) (torn : Prop) : Paced s.publishes.length 0 torn t := by
  obtain ⟨q,now,publishes,turns,halts⟩ := law.started event rfl
  obtain ⟨whole,further⟩ := halts_further turns halts
  refine ⟨q,?_,further,fun cancelled => absurd cancelled whole⟩
  rw [publishes,List.getElem?_concat_length]

omit [BEq Handler] in
theorem step_paced {a : Action Kind Key Handler} (law : FanOutLaw s a t) (paced : Paced i endings torn s)
    (tears : a = .settle i .cancelled → torn) : Paced i (endings + (a.settles i).toNat) torn t := by
  obtain ⟨p,found,count,whole⟩ := paced
  by_cases own : ∃ ending, a = .settle i ending
  · obtain ⟨ending,rfl⟩ := own
    obtain ⟨p',q,now,found',running,later,turns,ended⟩ := law.resumed i ending rfl
    obtain rfl := Option.some.inj (found.symm.trans found')
    have before := count running
    have one : (Action.settle i ending : Action Kind Key Handler).settles i = true := decide_eq_true rfl
    rw [one]
    refine ⟨q,later,?_,?_⟩
    · intro goes
      split at ended
      · rw [ended.1] at goes
        cases goes
      · exact Nat.lt_of_le_of_lt before ((halts_further turns ended).2 goes)
    · intro stopped
      split at ended
      · rename_i cancelled
        exact tears (cancelled ▸ rfl)
      · exact absurd stopped (halts_further turns ended).1
  · have none_of : a.settles i = false := by
      cases a with
      | settle j ending => exact decide_eq_false fun same => own ⟨ending,same ▸ rfl⟩
      | _ => rfl
    rw [none_of]
    exact ⟨p,law.others i (fun ending equal => own ⟨ending,equal⟩) p found,count,whole⟩

theorem run_paced (standing : s.Standing) (later : List (Action Kind Key Handler)) (paced : Paced i endings torn s)
    (tears : .settle i .cancelled ∈ later → torn) (path : run Bus.step s later = some t) :
    Paced i (endings + later.countP (·.settles i)) torn t := by
  induction later generalizing s endings with
  | nil =>
    cases path
    exact paced
  | cons a rest ih =>
    obtain ⟨m,next,path⟩ := Option.bind_eq_some_iff.mp path
    obtain ⟨after,law⟩ := step_law standing next
    have one := step_paced law paced fun same => tears (same ▸ .head rest)
    have all := ih after one (fun member => tears (.tail a member)) path
    rw [List.countP_cons]
    cases ends : a.settles i with
    | true => rwa [ends,Bool.toNat_true,Nat.add_assoc,Nat.add_comm 1] at all
    | false => rwa [ends] at all

-- No more endings are ever needed than the snapshot is long.
theorem fan_out_law (actions : List (Action Kind Key Handler)) :
    Every Bus.step (fun s a t => FanOutLaw s a t ∧ ∀ event, a = .publish event → ∀ later,
      Always Bus.step (Owes s.publishes.length event (s.bucket event.kind)) t later ∧
      ∀ u, run Bus.step t later = some u →
        Paced s.publishes.length (later.countP (·.settles s.publishes.length))
          (.settle s.publishes.length .cancelled ∈ later) u) Bus.empty actions := by
  refine every_of_invariant Bus.Standing empty_standing (fun s a t standing next => (step_law standing next).1) ?_
  intro s a t standing next
  obtain ⟨after,law⟩ := step_law standing next
  refine ⟨law,fun event equal later => ?_⟩
  subst equal
  refine ⟨always_owes after (publish_owes law) later,fun u path => ?_⟩
  have paced := run_paced after later (publish_paced law (.settle s.publishes.length .cancelled ∈ later)) id path
  rwa [Nat.zero_add] at paced

end Run
end LoomClient.Events
