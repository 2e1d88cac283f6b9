import LoomClient.Client.Recovery

namespace LoomClient.Transport
open Lib Client
variable {ε V : Type}

-- A later `clear()` does not take the wake-up of `set()` back.
inductive Waiter where
  | created
  | armed
  | woken
  | done
  deriving DecidableEq, Repr

-- `pending` and `taken` are the iterators whose `queue.get()` task waits or has completed, `left` the
-- tasks whose iterator has gone. No step reads the two histories.
structure EventQueue (ε : Type) where
  lastSeq : Option Int
  queue : List ε
  sizes : List Nat
  queuedBytes : Int
  droppedCount : Nat
  overflowing : Bool
  reading : Bool
  closing : Bool
  stopped : Bool
  stops : Nat
  waiters : List (Nat × Waiter)
  pending : List Nat
  taken : List (Nat × ε)
  left : List Nat
  accepted : List ε
  yielded : List ε

def EventQueue.initial : EventQueue ε := ⟨none,[],[],0,0,false,false,false,false,0,[],[],[],[],[],[]⟩

def EventQueue.overflows (x : EventQueue ε) (size : Nat) : Bool :=
  decide (envelopeQueueMaxBytes < x.queuedBytes + size) || decide (envelopeQueueMaxsize ≤ x.queue.length)

def registerOverflow (x : EventQueue ε) : EventQueue ε := {x with droppedCount := x.droppedCount + 1,overflowing := true}

def handleText (seq : ε → Option Int) (x : EventQueue ε) (envelope : ε) (size : Nat) : EventQueue ε :=
  let y := {x with lastSeq := highestSeq x.lastSeq (seq envelope)}
  if y.overflows size then registerOverflow y
  else {y with
    queue := y.queue ++ [envelope]
    sizes := y.sizes ++ [size]
    queuedBytes := y.queuedBytes + size
    accepted := y.accepted ++ [envelope]}

def popSize (x : EventQueue ε) : EventQueue ε :=
  match x.sizes with
  | [] => x
  | size :: sizes => {x with sizes,queuedBytes := x.queuedBytes - size}

def releaseLatch (x : EventQueue ε) : EventQueue ε :=
  if x.overflowing ∧ x.queue.length ≤ envelopeQueueLowWater then {x with overflowing := false} else x

def wakeWaiters (waiters : List (Nat × Waiter)) : List (Nat × Waiter) :=
  waiters.map fun (i,w) => (i,if w = .armed then .woken else w)

def signalStopped (x : EventQueue ε) : EventQueue ε := {x with stopped := true,waiters := wakeWaiters x.waiters}

def EventQueue.waiter? (x : EventQueue ε) (i : Nat) : Option Waiter := x.waiters.lookup i

def setWaiter (x : EventQueue ε) (i : Nat) (w : Waiter) : EventQueue ε :=
  {x with waiters := x.waiters.map fun (j,v) => (j,if j = i then w else v)}

def EventQueue.waits (x : EventQueue ε) (i : Nat) : Bool := x.pending.contains i || (x.taken.lookup i).isSome

def endIterator (x : EventQueue ε) (i : Nat) : EventQueue ε :=
  {x with
    waiters := x.waiters.filter (·.1 ≠ i)
    pending := x.pending.filter (· ≠ i)
    taken := x.taken.filter (·.1 ≠ i)}

-- `readEnded` and `finish` are the later parts of a `stop()`, `refused` a rejected credential.
-- `take` and `takeLeft` complete a `queue.get()` task, `wake` resumes the iterator that waits,
-- `cancel` throws into it there and `close` into one that has yielded.
inductive QueueAction (ε : Type) where
  | start
  | stop
  | readEnded
  | finish
  | refused
  | frame (envelope : ε) (size : Nat)
  | iterate (iterator : Nat)
  | arm (iterator : Nat)
  | completeWaiter (iterator : Nat)
  | take (iterator : Nat)
  | takeLeft (iterator : Nat)
  | wake (iterator : Nat)
  | cancel (iterator : Nat)
  | close (iterator : Nat)

-- A new iterator creates its waiter before it looks at the event.
def iterate (x : EventQueue ε) (i : Nat) : EventQueue ε :=
  if x.stopped then endIterator x i
  else {x with
    waiters := if (x.waiter? i).isSome then x.waiters else x.waiters ++ [(i,.created)]
    pending := x.pending ++ [i]}

def queueStep (seq : ε → Option Int) (x : EventQueue ε) : QueueAction ε → Option (EventQueue ε)
  | .start => some (if x.reading then x else {x with reading := true,closing := false,stopped := false})
  | .stop => some {x with closing := true,stops := x.stops + 1}
  | .readEnded => if x.stops = 0 then none else some {x with reading := false}
  | .finish => if x.stops = 0 then none else some (signalStopped {x with stops := x.stops - 1})
  | .refused => if x.reading then some (signalStopped {x with reading := false}) else none
  | .frame envelope size => if x.reading then some (handleText seq x envelope size) else none
  | .iterate i => if x.waits i then none else some (iterate x i)
  | .arm i => match x.waiter? i with
    | some .created => some (setWaiter x i (if x.stopped then .done else .armed))
    | _ => none
  | .completeWaiter i => match x.waiter? i with
    | some .woken => some (setWaiter x i .done)
    | _ => none
  | .take i => match x.queue with
    | envelope :: queue =>
      if i ∈ x.pending then some {x with pending := x.pending.filter (· ≠ i),taken := x.taken ++ [(i,envelope)],queue} else none
    | [] => none
  | .takeLeft i => match x.queue with
    | _ :: queue => if i ∈ x.left then some {x with left := x.left.erase i,queue} else none
    | [] => none
  -- With the stop waiter done the result of the getter is never looked at.
  | .wake i =>
    if x.waiter? i = some .done then if x.waits i then some (endIterator x i) else none
    else match x.taken with
      | (j,envelope) :: taken =>
        if i = j then
          let y := releaseLatch (popSize {x with taken})
          some {y with yielded := y.yielded ++ [envelope]}
        else none
      | [] => none
  | .cancel i =>
    if x.waits i then some {endIterator x i with left := if i ∈ x.pending then x.left ++ [i] else x.left} else none
  | .close i => if x.waits i then none else some (endIterator x i)

-- Yielded in order, or on its way to an iterator that waits for it, or still queued.
def Delivered (x : EventQueue ε) : Prop := x.yielded ++ x.taken.map Prod.snd ++ x.queue = x.accepted

instance [DecidableEq ε] (x : EventQueue ε) : Decidable (Delivered x) := by unfold Delivered; infer_instance

def InTime (x : EventQueue ε) : QueueAction ε → Prop
  | .takeLeft _ => False
  | .cancel i => x.taken.lookup i = none
  | .wake i => x.waiter? i = some .done → x.taken.lookup i = none
  | _ => True

def SameEnvelopes (x y : EventQueue ε) : Prop :=
  y.queue = x.queue ∧ y.taken = x.taken ∧ y.accepted = x.accepted ∧ y.yielded = x.yielded

theorem SameEnvelopes.delivered (same : SameEnvelopes x y) : Delivered y ↔ Delivered x := by
  obtain ⟨queue,taken,accepted,yielded⟩ := same
  rw [Delivered,Delivered,queue,taken,accepted,yielded]

theorem popSize_same (x : EventQueue ε) : SameEnvelopes x (popSize x) := by
  unfold popSize
  split <;> exact ⟨rfl,rfl,rfl,rfl⟩

theorem releaseLatch_same (x : EventQueue ε) : SameEnvelopes x (releaseLatch x) := by
  unfold releaseLatch
  split <;> exact ⟨rfl,rfl,rfl,rfl⟩

theorem lookup_none (taken : List (Nat × ε)) : taken.lookup i = none ↔ ∀ held ∈ taken, held.1 ≠ i := by
  simp only [List.lookup_eq_none_iff,bne_iff_ne,ne_eq]
  exact ⟨fun absent held member same => absent held member same.symm,
    fun absent held member same => absent held member same.symm⟩

theorem idle_holds_nothing (x : EventQueue ε) (idle : x.waits i = false) : x.taken.lookup i = none := by
  obtain ⟨_,absent⟩ := Bool.or_eq_false_iff.mp idle
  simpa using absent

theorem endIterator_taken (x : EventQueue ε) : (endIterator x i).taken = x.taken ↔ x.taken.lookup i = none := by
  simp only [endIterator,List.filter_eq_self,decide_eq_true_eq,lookup_none]

theorem endIterator_delivered (delivered : Delivered x) :
    Delivered (endIterator x i) ↔ x.taken.lookup i = none := by
  constructor
  · intro kept
    rw [← endIterator_taken]
    have lengths : x.accepted.length = (endIterator x i).accepted.length := rfl
    rw [← delivered,← kept] at lengths
    simp only [List.length_append,List.length_map] at lengths
    exact List.filter_sublist.eq_of_length (by simp only [endIterator] at lengths ⊢; omega)
  · intro absent
    have same : SameEnvelopes x (endIterator x i) := ⟨rfl,(endIterator_taken x).mpr absent,rfl,rfl⟩
    exact same.delivered.mpr delivered

theorem handleText_delivered (seq : ε → Option Int) (x : EventQueue ε) (envelope : ε) (size : Nat) :
    Delivered (handleText seq x envelope size) ↔ Delivered x := by
  unfold handleText
  dsimp only
  split
  · exact Iff.rfl
  · simp only [Delivered]
    rw [← List.append_assoc,List.append_left_inj]

theorem take_delivered (x : EventQueue ε) (front : x.queue = envelope :: queue) (pending : List Nat) :
    Delivered {x with pending,taken := x.taken ++ [(i,envelope)],queue} ↔ Delivered x := by
  simp [Delivered,front]

theorem takeLeft_delivered (front : x.queue = envelope :: queue) (left : List Nat) (delivered : Delivered x) :
    ¬ Delivered {x with left,queue} := by
  intro kept
  have lengths := congrArg List.length (delivered.trans kept.symm)
  simp only [front,List.length_append,List.length_cons] at lengths
  omega

theorem yield_delivered (x : EventQueue ε) (front : x.taken = (i,envelope) :: taken) :
    Delivered {releaseLatch (popSize {x with taken}) with
      yielded := (releaseLatch (popSize {x with taken})).yielded ++ [envelope]} ↔ Delivered x := by
  obtain ⟨queue,takenSame,accepted,yielded⟩ := releaseLatch_same (popSize {x with taken})
  obtain ⟨queue',takenSame',accepted',yielded'⟩ := popSize_same {x with taken}
  simp only [Delivered,queue,takenSame,accepted,yielded,queue',takenSame',accepted',yielded',front]
  simp

theorem queueStep_exact (seq : ε → Option Int) (x : EventQueue ε) (a : QueueAction ε) (y : EventQueue ε)
    (delivered : Delivered x) (step : queueStep seq x a = some y) : Delivered y ↔ InTime x a := by
  have unmoved : SameEnvelopes x y → (Delivered y ↔ True) := fun same => by simp [same.delivered,delivered]
  cases a with
  | start =>
    cases step
    refine unmoved ?_
    split <;> exact ⟨rfl,rfl,rfl,rfl⟩
  | stop => cases step; exact unmoved ⟨rfl,rfl,rfl,rfl⟩
  | readEnded => simp only [queueStep] at step; split at step <;> cases step; exact unmoved ⟨rfl,rfl,rfl,rfl⟩
  | finish => simp only [queueStep] at step; split at step <;> cases step; exact unmoved ⟨rfl,rfl,rfl,rfl⟩
  | refused => simp only [queueStep] at step; split at step <;> cases step; exact unmoved ⟨rfl,rfl,rfl,rfl⟩
  | frame envelope size =>
    simp only [queueStep] at step
    split at step <;> cases step
    simp [InTime,handleText_delivered,delivered]
  | iterate i =>
    cases waits : x.waits i with
    | true => simp [queueStep,waits] at step
    | false =>
      have moved : iterate x i = y := by simpa [queueStep,waits] using step
      subst moved
      by_cases stopped : x.stopped = true
      · simp [iterate,stopped,InTime,endIterator_delivered delivered,idle_holds_nothing x waits]
      · exact unmoved (by simp [iterate,stopped,SameEnvelopes])
  | arm i => simp only [queueStep] at step; split at step <;> cases step; exact unmoved ⟨rfl,rfl,rfl,rfl⟩
  | completeWaiter i => simp only [queueStep] at step; split at step <;> cases step; exact unmoved ⟨rfl,rfl,rfl,rfl⟩
  | take i =>
    simp only [queueStep] at step
    split at step
    · rename_i envelope queue front
      split at step <;> cases step
      simp [InTime,take_delivered x front,delivered]
    · cases step
  | takeLeft i =>
    simp only [queueStep] at step
    split at step
    · rename_i envelope queue front
      split at step <;> cases step
      simp [InTime,takeLeft_delivered front _ delivered]
    · cases step
  | wake i =>
    simp only [queueStep] at step
    split at step
    · rename_i done
      split at step <;> cases step
      simp [InTime,done,endIterator_delivered delivered]
    · rename_i running
      split at step
      · rename_i j envelope taken front
        split at step <;> cases step
        simp [InTime,running,yield_delivered x front,delivered]
      · cases step
  | cancel i =>
    simp only [queueStep] at step
    split at step <;> cases step
    exact endIterator_delivered delivered
  | close i =>
    cases waits : x.waits i with
    | true => simp [queueStep,waits] at step
    | false =>
      have moved : endIterator x i = y := by simpa [queueStep,waits] using step
      subst moved
      simp [InTime,endIterator_delivered delivered,idle_holds_nothing x waits]

theorem delivered_iff_getters_in_time (seq : ε → Option Int) (actions : List (QueueAction ε)) :
    Always (queueStep seq) Delivered .initial actions ↔
      Every (queueStep seq) (fun x a _ => InTime x a) .initial actions :=
  always_iff_every rfl (queueStep_exact seq)

-- A consumer is cancelled while it waits; its getter takes the next envelope.
theorem left_getter_takes_envelope :
    ¬ Always (queueStep fun seq : Int => some seq) Delivered .initial
      [.start,.iterate 0,.arm 0,.cancel 0,.iterate 1,.frame 1 120,.takeLeft 0] := by
  decide +kernel

-- The next getter completes beside the stop waiter, and an envelope is dropped.
example : ¬ Always (queueStep fun seq : Int => some seq) Delivered .initial
    [.start,.iterate 0,.arm 0,.frame 1 120,.take 0,.wake 0,.stop,.readEnded,.finish,.start,.completeWaiter 0,
      .frame 2 120,.iterate 0,.take 0,.wake 0] := by
  decide +kernel

end LoomClient.Transport
