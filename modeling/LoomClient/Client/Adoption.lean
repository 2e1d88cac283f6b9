import LoomClient.Client.Session
import Mathlib.Data.List.Forall2
import Mathlib.Data.List.Perm.Basic
import Mathlib.Data.List.ReduceOption

namespace LoomClient.Client
open Lib Wire Store Compat
variable {V : Type}

-- The last thing an adoption does: it looks whether the device is still there.
def announceHeld (address : Address) (a : Adapter V) : Coroutine V :=
  if address ∈ a.store.devices then .perform (.publishDataPointsCreated [address]) .done else .done

-- Reads whose failure ends the adoption, store operations, and the announcement at the end.
def Adopts (address : Address) : Coroutine V → Prop
  | .done => False
  | .perform effect next => (∃ operation, effect = .store operation) ∧ Adopts address next
  | .look next => next = announceHeld address
  | .ask _ next => next none = .done ∧ ∀ answer, Adopts address (next (some answer))

def Stores (report : List (Effect V)) : Prop := ∀ effect ∈ report, ∃ operation, effect = .store operation

def publishes (address : Address) (report : List (Effect V)) : Bool := report.any fun
  | .publishDataPointsCreated devices => decide (devices = [address])
  | _ => false

def Waiting (address : Address) (rest : Coroutine V) : Prop := ∃ question next, rest = .ask question next ∧ Adopts address rest

-- The addresses that pushes asked for, those whose walk began, beside every task the address that
-- it adopts, and how the walks ended.
structure Ledger (V : Type) where
  session : Session V
  asked : List Address
  begun : List Address
  running : List (Option Address)
  announced : List Address
  abandoned : List Address

def Ledger.initial (maxDevices : Nat) (centralName serialSuffix : String) : Ledger V :=
  ⟨.initial maxDevices centralName serialSuffix,[],[],[],[],[]⟩

-- The address that the handlers of a push hand to an adoption.
def adopted (x : Session V) : Push V → List Address
  | .deviceCreated payload =>
    if isCacheRestore payload.source || storeHoldsCompleteDevice x.adapter.store payload.deviceAddress then []
    else [payload.deviceAddress]
  | .deviceReleased payload =>
    if storeHoldsCompleteDevice x.adapter.store payload.deviceAddress then [] else [payload.deviceAddress]
  | _ => []

def Ledger.settle (l : Ledger V) (y : Session V) (before after : List (Option Address)) (tag : Option Address)
    (report : List (Effect V)) (rest : Coroutine V) : Ledger V :=
  let ended := if rest.isDone then tag.toList else []
  {l with
    session := y
    running := before ++ (if rest.isDone then [] else [tag]) ++ after
    announced := l.announced ++ ended.filter (publishes · report)
    abandoned := l.abandoned ++ ended.filter (!publishes · report)}

section Machine
variable (upstream : Upstream)

def Ledger.record (l : Ledger V) (report : List (Effect V)) (y : Session V) : Action V → Ledger V
  | .push push => {l with session := y, asked := l.asked ++ adopted (enact upstream l.session report) push}
  | .begin entry => l.settle y l.running [] none report (proceed upstream l.session entry.body).2
  | .beginReconcile => match l.session.waiting with
    | [] => {l with session := y}
    | address :: _ =>
      {l with begun := l.begun ++ [address]}.settle y l.running [] (some address) report
        (proceed upstream l.session (reconcileNewDevice address)).2
  | .resume task answers => match l.session.tasks[task]? with
    | none => {l with session := y}
    | some suspended =>
      l.settle y (l.running.take task) (l.running.drop (task + 1)) (l.running[task]?.join) report
        (proceed upstream l.session (suspended.rest.reply answers)).2
  | _ => {l with session := y}

def ledgerStep (l : Ledger V) (action : Action V) : Option (Ledger V) :=
  (advance upstream l.session action).map fun (report,y) => l.record upstream report y action

end Machine

theorem fetch_channels_adopts (address : Address) (channels : List ChannelSummary) :
    Adopts address (fetchChannels address none (.look (announceHeld address)) channels : Coroutine V) := by
  induction channels with
  | nil => rfl
  | cons channel rest ih => exact ⟨rfl,fun answer => ⟨⟨_,rfl⟩,ih⟩⟩

theorem reconcile_adopts (address : Address) : Adopts address (reconcileNewDevice address : Coroutine V) :=
  ⟨rfl,fun detail => ⟨⟨_,rfl⟩,fetch_channels_adopts address detail.channels⟩⟩

inductive Stretch (address : Address) (b : Adapter V) : List (Effect V) → Coroutine V → Prop where
  | suspended (stores : Stores report) (waiting : Waiting address rest) : Stretch address b report rest
  | announced (held : address ∈ b.store.devices) (published : publishes address report = true) : Stretch address b report .done
  | gone (absent : address ∉ b.store.devices) (stores : Stores report) : Stretch address b report .done

theorem stores_publish (stores : Stores report) (address : Address) : publishes address report = false := by
  refine List.any_eq_false.mpr fun effect member => ?_
  obtain ⟨operation,rfl⟩ := stores effect member
  exact Bool.false_ne_true

theorem adopts_settle (upstream : Upstream) (walk : Coroutine V) (adopts : Adopts address walk) (a : Adapter V) :
    Stretch address ((walk.settle (applyEffect upstream) a).1.foldl (applyEffect upstream) a)
      (walk.settle (applyEffect upstream) a).1 (walk.settle (applyEffect upstream) a).2 := by
  induction walk generalizing a with
  | done => exact adopts.elim
  | perform effect next ih =>
    obtain ⟨⟨operation,rfl⟩,later⟩ := adopts
    have stretch := ih later (applyEffect upstream a (.store operation))
    simp only [Walk.settle,List.foldl_cons]
    generalize Walk.settle (applyEffect upstream) next (applyEffect upstream a (.store operation)) = ran at stretch ⊢
    obtain ⟨report,rest⟩ := ran
    have more (stores : Stores report) : Stores (.store operation :: report) := by
      intro effect member
      rcases List.mem_cons.mp member with rfl | member
      · exact ⟨operation,rfl⟩
      · exact stores effect member
    cases stretch with
    | suspended stores waiting => exact .suspended (more stores) waiting
    | announced held published => exact .announced held (by simpa [publishes] using published)
    | gone absent stores => exact .gone absent (more stores)
  | look next ih =>
    cases adopts
    unfold Walk.settle announceHeld
    split
    · rename_i held
      exact .announced held (by simp [Walk.settle,publishes])
    · rename_i absent
      exact .gone absent fun effect member => nomatch member
  | ask question next ih => exact .suspended (fun effect member => nomatch member) ⟨question,next,rfl,adopts⟩

-- A task that holds a slot stands beside the address it adopts, any other beside none.
structure Tagged (task : Task V) (tag : Option Address) : Prop where
  slot : task.reconciles = tag.isSome
  waits : ∀ address, tag = some address → Waiting address task.rest

def Ledger.live (l : Ledger V) : List Address := l.running.reduceOption

def reconciling (x : Session V) : Nat := (x.tasks.filter (·.reconciles)).length

-- Every address that was asked for began in its turn or still waits, and every one that began
-- runs, was announced or was abandoned.
structure Booked (l : Ledger V) : Prop where
  tagged : List.Forall₂ Tagged l.session.tasks l.running
  slots : reconciling l.session ≤ maxConcurrentReconciles
  queue : l.asked = l.begun ++ l.session.waiting
  balance : l.begun.Perm (l.live ++ l.announced ++ l.abandoned)

theorem dispatch_adopts (x : Session V) (push : Push V) :
    (dispatch x push).waiting = x.waiting ++ adopted x push ∧ (dispatch x push).tasks = x.tasks := by
  cases push with
  | deviceCreated payload =>
    simp only [dispatch,reconcileUnlessHeld,adopted]
    by_cases cached : isCacheRestore payload.source = true
    · simp [cached]
    · by_cases held : storeHoldsCompleteDevice x.adapter.store payload.deviceAddress = true
      · simp [cached,held]
      · simp [cached,held]
  | deviceReleased payload =>
    simp only [dispatch,reconcileUnlessHeld,adopted]
    by_cases held : storeHoldsCompleteDevice x.adapter.store payload.deviceAddress = true
    · simp [held]
    · simp [held]
  | _ => exact ⟨(List.append_nil _).symm,rfl⟩

theorem live_settle (l : Ledger V) (y : Session V) (before after : List (Option Address)) (tag : Option Address)
    (report : List (Effect V)) (rest : Coroutine V) :
    ((l.settle y before after tag report rest).live ++ (l.settle y before after tag report rest).announced ++
      (l.settle y before after tag report rest).abandoned).Perm
    ((before ++ tag :: after).reduceOption ++ l.announced ++ l.abandoned) := by
  unfold Ledger.live Ledger.settle
  cases ended : rest.isDone with
  | false =>
    have same : before ++ [tag] ++ after = before ++ tag :: after := by simp
    simp [same]
  | true =>
    refine List.perm_iff_count.mpr fun address => ?_
    cases tag with
    | none => simp [List.reduceOption_append,List.reduceOption_cons_of_none]
    | some adopted =>
      by_cases published : publishes adopted report = true
      · simp [List.reduceOption_append,List.reduceOption_cons_of_some,List.count_append,List.count_cons,published]
        omega
      · simp [List.reduceOption_append,List.reduceOption_cons_of_some,List.count_append,List.count_cons,published]
        omega

theorem settle_tagged (l : Ledger V) (y : Session V) (tag : Option Address) (report : List (Effect V)) (rest : Coroutine V)
    {tasks after : List (Task V)} {tags later : List (Option Address)} (front : List.Forall₂ Tagged tasks tags)
    (back : List.Forall₂ Tagged after later) (waits : ∀ address, tag = some address → rest.isDone = false → Waiting address rest) :
    List.Forall₂ Tagged (tasks ++ keep tag.isSome rest ++ after) (l.settle y tags later tag report rest).running := by
  unfold Ledger.settle keep
  refine List.rel_append (List.rel_append front ?_) back
  cases ended : rest.isDone with
  | true => exact .nil
  | false => exact .cons ⟨rfl,fun address same => waits address same ended⟩ .nil

theorem stretch_waits (stretch : Stretch address b report rest) (going : rest.isDone = false) : Waiting address rest := by
  cases stretch with
  | suspended _ waiting => exact waiting
  | announced | gone => cases going

theorem keep_slots (reconciles : Bool) (rest : Coroutine V) :
    ((keep reconciles rest).filter (·.reconciles)).length ≤ if reconciles then 1 else 0 := by
  unfold keep
  split
  · exact Nat.zero_le _
  · cases reconciles <;> exact Nat.le_refl _

theorem reply_stretch (upstream : Upstream) (waiting : Waiting address rest) (answers : Answers V) (a : Adapter V) :
    Stretch address (((rest.reply answers).settle (applyEffect upstream) a).1.foldl (applyEffect upstream) a)
      ((rest.reply answers).settle (applyEffect upstream) a).1 ((rest.reply answers).settle (applyEffect upstream) a).2 ∨
    ((∃ question next, rest = .ask question next ∧ answers question = none) ∧
      (rest.reply answers).settle (applyEffect upstream) a = ([],.done)) := by
  obtain ⟨question,next,rfl,adopts⟩ := waiting
  cases answered : answers question with
  | none =>
    refine .inr ⟨⟨question,next,rfl,answered⟩,?_⟩
    rw [Walk.reply,answered,adopts.1]
    rfl
  | some answer =>
    refine .inl ?_
    rw [Walk.reply,answered]
    exact adopts_settle upstream _ (adopts.2 answer) a

section Steps
variable {upstream : Upstream} {l m : Ledger V}

theorem booked_push (booked : Booked l) (push : Push V) (x : Session V) (tasks : x.tasks = l.session.tasks)
    (waiting : x.waiting = l.session.waiting) :
    Booked {l with session := dispatch x push, asked := l.asked ++ adopted x push} := by
  obtain ⟨queued,kept⟩ := dispatch_adopts x push
  refine ⟨?_,?_,?_,booked.balance⟩
  · simp only [kept,tasks]
    exact booked.tagged
  · simp only [reconciling,kept,tasks]
    exact booked.slots
  · simp only [queued,waiting,booked.queue,List.append_assoc]

theorem booked_same (booked : Booked l) (y : Session V) (tasks : y.tasks = l.session.tasks)
    (waiting : y.waiting = l.session.waiting) : Booked {l with session := y} := by
  refine ⟨?_,?_,?_,booked.balance⟩
  · simp only [tasks]
    exact booked.tagged
  · simp only [reconciling,tasks]
    exact booked.slots
  · simp only [waiting]
    exact booked.queue

theorem booked_begin (booked : Booked l) (entry : Entry) :
    Booked (l.settle (spawn upstream l.session false entry.body).2 l.running [] none
      (spawn upstream l.session false entry.body).1 (proceed upstream l.session entry.body).2) where
  tagged := by
    have rows := settle_tagged l (spawn upstream l.session false entry.body).2 none
      (spawn upstream l.session false entry.body).1 (proceed upstream l.session entry.body).2 booked.tagged .nil
      fun _ none => nomatch none
    rw [List.append_nil] at rows
    exact rows
  slots := by
    have none := keep_slots false (proceed upstream l.session entry.body).2
    have before := booked.slots
    simp only [reconciling,Ledger.settle,spawn,enact,List.filter_append,List.length_append] at before none ⊢
    simp only [Bool.false_eq_true,if_false] at none
    omega
  queue := booked.queue
  balance := by
    refine booked.balance.trans (List.Perm.trans ?_ (live_settle _ _ _ _ _ _ _).symm)
    simp only [List.reduceOption_append,List.reduceOption_cons_of_none,List.reduceOption_nil,List.append_nil]
    exact List.Perm.refl _

theorem booked_reconcile (booked : Booked l) (turn : l.session.waiting = address :: waiting)
    (free : reconciling l.session < maxConcurrentReconciles) :
    Booked ({l with begun := l.begun ++ [address]}.settle
      (spawn upstream {l.session with waiting} true (reconcileNewDevice address)).2 l.running [] (some address)
      (spawn upstream {l.session with waiting} true (reconcileNewDevice address)).1
      (proceed upstream l.session (reconcileNewDevice address)).2) where
  tagged := by
    have stretch := adopts_settle upstream _ (reconcile_adopts address) l.session.adapter
    have rows := settle_tagged {l with begun := l.begun ++ [address]}
      (spawn upstream {l.session with waiting} true (reconcileNewDevice address)).2 (some address)
      (spawn upstream {l.session with waiting} true (reconcileNewDevice address)).1
      (proceed upstream l.session (reconcileNewDevice address)).2 booked.tagged .nil
      fun other same going => Option.some.inj same ▸ stretch_waits stretch going
    rw [List.append_nil] at rows
    exact rows
  slots := by
    have one := keep_slots true (proceed upstream l.session (reconcileNewDevice address)).2
    simp only [reconciling,Ledger.settle,spawn,enact,List.filter_append,List.length_append] at free one ⊢
    simp only [if_true] at one
    exact Nat.le_trans (Nat.add_le_add_left one _) free
  queue := by
    show l.asked = l.begun ++ [address] ++ waiting
    rw [booked.queue,turn,List.append_assoc]
    rfl
  balance := by
    refine List.Perm.trans ?_ (live_settle _ _ _ _ _ _ _).symm
    simp only [List.reduceOption_append,List.reduceOption_cons_of_some,List.reduceOption_nil]
    refine (booked.balance.append_right [address]).trans (List.perm_iff_count.mpr fun other => ?_)
    simp only [Ledger.live,List.count_append]
    omega

theorem booked_resume (booked : Booked l) (found : l.session.tasks[i]? = some suspended) (answers : Answers V) :
    Booked (l.settle
      {enact upstream l.session (proceed upstream l.session (suspended.rest.reply answers)).1 with
        tasks := l.session.tasks.take i ++
          keep suspended.reconciles (proceed upstream l.session (suspended.rest.reply answers)).2 ++
          l.session.tasks.drop (i + 1)}
      (l.running.take i) (l.running.drop (i + 1)) (l.running[i]?.join)
      (proceed upstream l.session (suspended.rest.reply answers)).1
      (proceed upstream l.session (suspended.rest.reply answers)).2) := by
  obtain ⟨within,there⟩ := List.getElem?_eq_some_iff.mp found
  have same := booked.tagged.length_eq
  have within' : i < l.running.length := same ▸ within
  have pair : Tagged suspended l.running[i] := by
    have at_i := booked.tagged.get within within'
    simp only [List.get_eq_getElem,there] at at_i
    exact at_i
  have tag : l.running[i]?.join = l.running[i] := by rw [List.getElem?_eq_getElem within']; rfl
  have cutTasks := List.take_append_drop i l.session.tasks
  rw [List.drop_eq_getElem_cons within,there] at cutTasks
  have cutTags := List.take_append_drop i l.running
  rw [List.drop_eq_getElem_cons within'] at cutTags
  rw [tag]
  refine ⟨?_,?_,booked.queue,?_⟩
  · have rows := settle_tagged l
      {enact upstream l.session (proceed upstream l.session (suspended.rest.reply answers)).1 with
        tasks := l.session.tasks.take i ++
          keep suspended.reconciles (proceed upstream l.session (suspended.rest.reply answers)).2 ++
          l.session.tasks.drop (i + 1)} l.running[i]
      (proceed upstream l.session (suspended.rest.reply answers)).1
      (proceed upstream l.session (suspended.rest.reply answers)).2
      (List.forall₂_take i booked.tagged) (List.forall₂_drop (i + 1) booked.tagged)
      fun address adopting going => by
        rcases reply_stretch upstream (pair.waits address adopting) answers l.session.adapter with stretch | ⟨_,ended⟩
        · exact stretch_waits stretch going
        · simp only [proceed,ended] at going
          cases going
    rw [← pair.slot] at rows
    exact rows
  · have kept := keep_slots suspended.reconciles (proceed upstream l.session (suspended.rest.reply answers)).2
    have before := booked.slots
    simp only [reconciling,Ledger.settle] at before ⊢
    rw [← cutTasks] at before
    cases slot : suspended.reconciles with
    | false =>
      simp only [slot,List.filter_append,List.length_append,List.filter_cons,Bool.false_eq_true,if_false] at before kept ⊢
      omega
    | true =>
      simp only [slot,List.filter_append,List.length_append,List.filter_cons,if_true,List.length_cons] at before kept ⊢
      omega
  · refine booked.balance.trans (List.Perm.trans ?_ (live_settle _ _ _ _ _ _ _).symm)
    rw [cutTags]
    exact List.Perm.refl _

theorem booked_step (booked : Booked l) (action : Action V) (step : ledgerStep upstream l action = some m) : Booked m := by
  obtain ⟨⟨report,y⟩,moved,rfl⟩ := Option.map_eq_some_iff.mp step
  cases action with
  | push push =>
    simp only [advance] at moved
    split at moved
    · cases moved
    · cases moved
      exact booked_push booked push _ rfl rfl
  | call | register | unregister =>
    cases moved
    exact booked_same booked _ rfl rfl
  | «begin» entry =>
    cases moved
    exact booked_begin booked entry
  | beginReconcile =>
    simp only [advance] at moved
    split at moved
    · cases moved
    · rename_i address waiting turn
      split at moved
      · rename_i free
        cases moved
        simp only [Ledger.record,turn]
        exact booked_reconcile booked turn free
      · cases moved
  | resume i answers =>
    simp only [advance] at moved
    split at moved
    · cases moved
    · rename_i suspended found
      cases moved
      simp only [Ledger.record,found]
      exact booked_resume booked found answers
  | resumeDispatch =>
    simp only [advance] at moved
    split at moved
    · cases moved
    · cases moved
      exact booked_same booked _ rfl rfl

end Steps

def Refused (l : Ledger V) (action : Action V) : Prop :=
  ∃ i answers task question next, action = .resume i answers ∧ l.session.tasks[i]? = some task ∧
    task.rest = .ask question next ∧ answers question = none

-- An adoption announces a device that the store holds, and is abandoned only for a failed read or
-- because the store does not hold the device any more.
structure Accounted (l : Ledger V) (action : Action V) (m : Ledger V) : Prop where
  announced : m.announced = l.announced ∨
    ∃ address, m.announced = l.announced ++ [address] ∧ address ∈ m.session.adapter.store.devices
  abandoned : m.abandoned = l.abandoned ∨
    ∃ address, m.abandoned = l.abandoned ++ [address] ∧ (Refused l action ∨ address ∉ m.session.adapter.store.devices)

section Accounts
variable {upstream : Upstream} {l m : Ledger V}

theorem stretch_accounted {k : Ledger V} {y : Session V} (stretch : Stretch address y.adapter report rest)
    (kept : k.announced = l.announced ∧ k.abandoned = l.abandoned) :
    Accounted l action (k.settle y before after (some address) report rest) := by
  unfold Ledger.settle
  cases stretch with
  | suspended stores waiting =>
    obtain ⟨question,next,rfl,adopts⟩ := waiting
    exact ⟨.inl (by simp [Walk.isDone,kept.1]),.inl (by simp [Walk.isDone,kept.2])⟩
  | announced held published =>
    exact ⟨.inr ⟨address,by simp [Walk.isDone,published,kept.1],held⟩,.inl (by simp [Walk.isDone,published,kept.2])⟩
  | gone absent stores =>
    have unpublished := stores_publish stores address
    exact ⟨.inl (by simp [Walk.isDone,unpublished,kept.1]),
      .inr ⟨address,by simp [Walk.isDone,unpublished,kept.2],.inr absent⟩⟩

theorem untagged_accounted : Accounted l action (l.settle y before after none report rest) := by
  refine ⟨.inl ?_,.inl ?_⟩
  all_goals
    unfold Ledger.settle
    cases rest.isDone <;> simp

theorem step_accounted (booked : Booked l) (action : Action V) (step : ledgerStep upstream l action = some m) :
    Accounted l action m := by
  obtain ⟨⟨report,y⟩,moved,rfl⟩ := Option.map_eq_some_iff.mp step
  cases action with
  | push | call | register | unregister | resumeDispatch => exact ⟨.inl rfl,.inl rfl⟩
  | «begin» entry => exact untagged_accounted
  | beginReconcile =>
    simp only [advance] at moved
    split at moved
    · cases moved
    · rename_i address waiting turn
      split at moved
      · cases moved
        simp only [Ledger.record,turn]
        exact stretch_accounted (adopts_settle upstream _ (reconcile_adopts address) l.session.adapter) ⟨rfl,rfl⟩
      · cases moved
  | resume i answers =>
    simp only [advance] at moved
    split at moved
    · cases moved
    · rename_i suspended found
      cases moved
      simp only [Ledger.record,found]
      obtain ⟨within,there⟩ := List.getElem?_eq_some_iff.mp found
      have within' : i < l.running.length := booked.tagged.length_eq ▸ within
      have pair : Tagged suspended l.running[i] := by
        have at_i := booked.tagged.get within within'
        simp only [List.get_eq_getElem,there] at at_i
        exact at_i
      have tag : l.running[i]?.join = l.running[i] := by rw [List.getElem?_eq_getElem within']; rfl
      rw [tag]
      cases adopting : l.running[i] with
      | none => exact untagged_accounted
      | some address =>
        rcases reply_stretch upstream (pair.waits address adopting) answers l.session.adapter with stretch | ⟨failed,ended⟩
        · exact stretch_accounted stretch ⟨rfl,rfl⟩
        · obtain ⟨question,next,rest,answered⟩ := failed
          simp only [proceed,ended]
          exact ⟨.inl (by simp [Ledger.settle,Walk.isDone,publishes]),
            .inr ⟨address,by simp [Ledger.settle,Walk.isDone,publishes],
              .inl ⟨i,answers,suspended,question,next,rfl,found,rest,answered⟩⟩⟩

end Accounts

-- At most four adoptions run at once, they begin in the order in which they were asked
-- for, and each ends once.
structure Balanced (l : Ledger V) : Prop where
  slots : reconciling l.session ≤ maxConcurrentReconciles
  queue : l.asked = l.begun ++ l.session.waiting
  balance : l.begun.Perm (l.live ++ l.announced ++ l.abandoned)
  settled : Quiescent l.session → l.asked.Perm (l.announced ++ l.abandoned)

theorem booked_balanced {l : Ledger V} (booked : Booked l) : Balanced l := by
  refine ⟨booked.slots,booked.queue,booked.balance,fun ⟨tasks,waiting,_⟩ => ?_⟩
  have idle : l.running = [] := by
    have rows := booked.tagged
    rw [tasks] at rows
    exact List.forall₂_nil_left_iff.mp rows
  have balance := booked.balance
  rw [Ledger.live,idle] at balance
  rw [booked.queue,waiting,List.append_nil]
  exact balance

theorem initial_booked (maxDevices : Nat) (centralName serialSuffix : String) :
    Booked (Ledger.initial maxDevices centralName serialSuffix : Ledger V) :=
  ⟨.nil,Nat.zero_le _,rfl,List.Perm.refl _⟩

theorem adoptions_accounted (upstream : Upstream) (maxDevices : Nat) (centralName serialSuffix : String)
    (actions : List (Action V)) :
    Always (ledgerStep upstream) Balanced (.initial maxDevices centralName serialSuffix) actions ∧
    Every (ledgerStep upstream) Accounted (.initial maxDevices centralName serialSuffix) actions := by
  have first : Booked (Ledger.initial maxDevices centralName serialSuffix : Ledger V) := initial_booked _ _ _
  have kept : ∀ (l : Ledger V) a m, Booked l → ledgerStep upstream l a = some m → Booked m := fun _ a _ booked =>
    booked_step booked a
  exact ⟨always_mono (fun _ => booked_balanced) (always_of_invariant first kept),
    every_of_invariant Booked first kept fun _ a _ booked => step_accounted booked a⟩

end LoomClient.Client
