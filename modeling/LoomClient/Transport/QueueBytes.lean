import LoomClient.Transport.EventQueue
import Mathlib.Algebra.BigOperators.Group.List.Basic
import Mathlib.Algebra.GroupWithZero.Nat

namespace LoomClient.Transport
open Lib Client
variable {ε α : Type}

structure Ledger (ε : Type) where
  queue : List ε
  sizes : List Nat
  bytes : Int
  latched : Bool
  taken : List (Nat × ε)

def EventQueue.ledger (x : EventQueue ε) : Ledger ε := ⟨x.queue,x.sizes,x.queuedBytes,x.overflowing,x.taken⟩

def Ledger.hand (l : Ledger ε) (taken : List (Nat × ε)) : Ledger ε :=
  {l with
    taken
    sizes := l.sizes.tail
    bytes := l.bytes - l.sizes.headD 0
    latched := l.latched && decide (envelopeQueueLowWater < l.queue.length)}

inductive Moved (x : EventQueue ε) : QueueAction ε → Ledger ε → Prop where
  | refused (full : x.overflows size = true) : Moved x (.frame envelope size) {x.ledger with latched := true}
  | admitted (room : x.overflows size = false) : Moved x (.frame envelope size)
      {x.ledger with
        queue := x.queue ++ [envelope]
        sizes := x.sizes ++ [size]
        bytes := x.queuedBytes + size}
  | took (front : x.queue = envelope :: queue) :
      Moved x (.take i) {x.ledger with queue,taken := x.taken ++ [(i,envelope)]}
  | lost (front : x.queue = envelope :: queue) : Moved x (.takeLeft i) {x.ledger with queue}
  | handed (running : x.waiter? i ≠ some .done) (front : x.taken = (i,envelope) :: taken) :
      Moved x (.wake i) (x.ledger.hand taken)
  | ended (i : Nat) (apart : ∀ e n, a ≠ .frame e n) (idle : ∀ j, a ≠ .take j)
      (exact_loss : InTime x a ↔ x.taken.lookup i = none) : Moved x a {x.ledger with taken := x.taken.filter (·.1 ≠ i)}
  | still (apart : ∀ e n, a ≠ .frame e n) (idle : ∀ j, a ≠ .take j) (calm : InTime x a) : Moved x a x.ledger

theorem handleText_ledger (seq : ε → Option Int) (x : EventQueue ε) :
    Moved x (.frame envelope size) (handleText seq x envelope size).ledger := by
  unfold handleText
  dsimp only
  split
  · rename_i full
    exact .refused full
  · rename_i room
    exact .admitted (Bool.eq_false_iff.mpr room)

theorem handed_ledger (x : EventQueue ε) (taken : List (Nat × ε)) :
    (releaseLatch (popSize {x with taken})).ledger = x.ledger.hand taken := by
  have popped : (popSize {x with taken}).ledger =
      ⟨x.queue,x.sizes.tail,x.queuedBytes - x.sizes.headD 0,x.overflowing,taken⟩ := by
    unfold popSize
    split
    · rename_i none_recorded
      simp [EventQueue.ledger,show x.sizes = [] from none_recorded]
    · rename_i size sizes recorded
      simp [EventQueue.ledger,show x.sizes = size :: sizes from recorded]
  unfold releaseLatch
  simp only [EventQueue.ledger,Ledger.mk.injEq] at popped
  obtain ⟨queue,sizes,bytes,latched,kept⟩ := popped
  split
  · rename_i drained
    rw [queue] at drained
    simp [EventQueue.ledger,Ledger.hand,queue,sizes,bytes,kept,Nat.not_lt.mpr drained.2]
  · rename_i full
    rw [queue,latched] at full
    simp only [EventQueue.ledger,Ledger.hand,queue,sizes,bytes,latched,kept,Ledger.mk.injEq,true_and,and_true]
    cases open_latch : x.overflowing with
    | false => rfl
    | true =>
      have above : envelopeQueueLowWater < x.queue.length := by simpa [open_latch] using full
      simp [above]

theorem queueStep_moved (seq : ε → Option Int) (step : queueStep seq x a = some y) : Moved x a y.ledger := by
  have apart : ∀ {b : QueueAction ε}, (∀ e n, b ≠ .frame e n) → (∀ j, b ≠ .take j) → InTime x b →
      y.ledger = x.ledger → Moved x b y.ledger := by
    intro b apart idle calm same
    rw [same]
    exact .still apart idle calm
  cases a with
  | start =>
    cases step
    refine apart (by simp) (by simp) trivial ?_
    split <;> rfl
  | stop => cases step; exact apart (by simp) (by simp) trivial rfl
  | readEnded => simp only [queueStep] at step; split at step <;> cases step; exact apart (by simp) (by simp) trivial rfl
  | finish => simp only [queueStep] at step; split at step <;> cases step; exact apart (by simp) (by simp) trivial rfl
  | refused => simp only [queueStep] at step; split at step <;> cases step; exact apart (by simp) (by simp) trivial rfl
  | frame envelope size =>
    simp only [queueStep] at step
    split at step <;> cases step
    exact handleText_ledger seq x
  | iterate i =>
    cases waits : x.waits i with
    | true => simp [queueStep,waits] at step
    | false =>
      have moved : iterate x i = y := by simpa [queueStep,waits] using step
      subst moved
      by_cases stopped : x.stopped = true
      · simp only [iterate,stopped,if_true]
        exact .ended i (by simp) (by simp) (by simp [InTime,idle_holds_nothing x waits])
      · exact apart (by simp) (by simp) trivial (by simp [iterate,stopped,EventQueue.ledger])
  | arm i => simp only [queueStep] at step; split at step <;> cases step; exact apart (by simp) (by simp) trivial rfl
  | completeWaiter i =>
    simp only [queueStep] at step
    split at step <;> cases step
    exact apart (by simp) (by simp) trivial rfl
  | take i =>
    simp only [queueStep] at step
    split at step
    · rename_i envelope queue front
      split at step <;> cases step
      exact .took front
    · cases step
  | takeLeft i =>
    simp only [queueStep] at step
    split at step
    · rename_i envelope queue front
      split at step <;> cases step
      exact .lost front
    · cases step
  | wake i =>
    simp only [queueStep] at step
    split at step
    · rename_i done
      split at step <;> cases step
      exact .ended i (by simp) (by simp) (by simp [InTime,done])
    · rename_i running
      split at step
      · rename_i j envelope taken front
        split at step <;> cases step
        rename_i same
        subst same
        have handed := handed_ledger x taken
        simp only [EventQueue.ledger] at handed ⊢
        rw [handed]
        exact .handed running front
      · cases step
  | cancel i =>
    simp only [queueStep] at step
    split at step <;> cases step
    exact .ended i (by simp) (by simp) Iff.rfl
  | close i =>
    cases waits : x.waits i with
    | true => simp [queueStep,waits] at step
    | false =>
      have moved : endIterator x i = y := by simpa [queueStep,waits] using step
      subst moved
      exact .ended i (by simp) (by simp) (by simp [InTime,idle_holds_nothing x waits])

structure Framed (α : Type) where
  envelope : α
  raw : List Char

def utf8Bytes (raw : List Char) : Nat := (raw.map Char.utf8Size).sum

def heldBytes (queue : List (Framed α)) : Nat := (queue.map fun f => utf8Bytes f.raw).sum

-- `frame_size = len(raw)` counts characters.
def measured : QueueAction (Framed α) → Bool
  | .frame f size => size = f.raw.length
  | _ => true

def textStep (seq : α → Option Int) (x : EventQueue (Framed α)) (a : QueueAction (Framed α)) : Option (EventQueue (Framed α)) :=
  if measured a then queueStep (fun f => seq f.envelope) x a else none

structure Accounted (x : EventQueue (Framed α)) : Prop where
  tally : x.queuedBytes = (x.sizes.sum : Nat)
  positive : 0 ≤ x.queuedBytes
  sizes : x.sizes.length = x.queue.length ∨ x.taken ≠ [] ∧ x.sizes.length = x.queue.length + 1
  budget : heldBytes x.queue ≤ envelopeQueueMaxBytes

theorem accounted_iff (x : EventQueue (Framed α)) :
    Accounted x ↔ x.queuedBytes = (x.sizes.sum : Nat) ∧ 0 ≤ x.queuedBytes ∧
      (x.sizes.length = x.queue.length ∨ x.taken ≠ [] ∧ x.sizes.length = x.queue.length + 1) ∧
      heldBytes x.queue ≤ envelopeQueueMaxBytes :=
  ⟨fun h => ⟨h.tally,h.positive,h.sizes,h.budget⟩,fun ⟨tally,positive,sizes,budget⟩ => ⟨tally,positive,sizes,budget⟩⟩

instance (x : EventQueue (Framed α)) : Decidable (Accounted x) :=
  have : Decidable (x.taken ≠ []) := match x.taken with
    | [] => isFalse fun h => h rfl
    | _ :: _ => isTrue (List.cons_ne_nil _ _)
  decidable_of_iff' _ (accounted_iff x)

-- A frame that the queue takes in has room for its bytes, an iterator takes an envelope while no other
-- is handed over, and an envelope that was taken reaches its iterator.
def Accountable (x : EventQueue (Framed α)) (a : QueueAction (Framed α)) : Prop :=
  InTime x a ∧ match a with
    | .frame f size => x.overflows size = true ∨ heldBytes x.queue + utf8Bytes f.raw ≤ envelopeQueueMaxBytes
    | .take _ => x.taken = []
    | _ => True

-- The tally is that of the recorded sizes.
structure Tallied (l : Ledger ε) : Prop where
  tally : l.bytes = (l.sizes.sum : Nat)
  covered : l.queue.length + l.taken.length ≤ l.sizes.length

-- One envelope at most is on its way between the queue and an iterator.
structure Balanced (l : Ledger (Framed α)) : Prop where
  sizes : l.sizes.length = l.queue.length + l.taken.length
  single : l.taken.length ≤ 1
  budget : heldBytes l.queue ≤ envelopeQueueMaxBytes

theorem tallied_moved (tallied : Tallied x.ledger) (moved : Moved x a l) : Tallied l := by
  obtain ⟨tally,covered⟩ := tallied
  cases moved with
  | refused full => exact ⟨tally,covered⟩
  | admitted room =>
    simp only [EventQueue.ledger] at tally covered
    refine ⟨?_,?_⟩
    · rw [tally]
      simp
    · simp only [EventQueue.ledger,List.length_append,List.length_singleton]
      omega
  | took front =>
    simp only [EventQueue.ledger,front,List.length_cons] at covered
    refine ⟨tally,?_⟩
    simp only [EventQueue.ledger,List.length_append,List.length_singleton]
    omega
  | lost front =>
    simp only [EventQueue.ledger,front,List.length_cons] at covered
    refine ⟨tally,?_⟩
    simp only [EventQueue.ledger]
    omega
  | handed running front =>
    simp only [EventQueue.ledger,front,List.length_cons] at tally covered
    simp only [Ledger.hand,EventQueue.ledger]
    cases recorded : x.sizes with
    | nil => simp [recorded] at covered
    | cons size rest =>
      rw [recorded] at tally covered
      refine ⟨?_,?_⟩
      · simp only [tally,List.sum_cons,List.headD_cons,List.tail_cons]
        omega
      · simp only [List.tail_cons,List.length_cons] at covered ⊢
        omega
  | ended i apart idle exact_loss =>
    refine ⟨tally,?_⟩
    have fewer := List.length_filter_le (fun held : Nat × _ => decide (held.1 ≠ i)) x.taken
    simp only [EventQueue.ledger] at covered ⊢
    omega
  | still apart idle calm => exact ⟨tally,covered⟩

theorem accounted_balanced (tallied : Tallied x.ledger) : Accounted x ↔ Balanced x.ledger := by
  obtain ⟨tally,covered⟩ := tallied
  simp only [EventQueue.ledger] at tally covered
  constructor
  · intro accounted
    rcases accounted.sizes with even | ⟨handing,one⟩
    · exact ⟨by simp only [EventQueue.ledger]; omega,by simp only [EventQueue.ledger]; omega,accounted.budget⟩
    · have some_taken : 0 < x.taken.length := List.length_pos_iff.mpr handing
      exact ⟨by simp only [EventQueue.ledger]; omega,by simp only [EventQueue.ledger]; omega,accounted.budget⟩
  · intro balanced
    obtain ⟨sizes,single,budget⟩ := balanced
    simp only [EventQueue.ledger] at sizes single
    refine ⟨tally,by rw [tally]; exact Int.natCast_nonneg _,?_,budget⟩
    by_cases handing : x.taken = []
    · exact .inl (by simpa [handing] using sizes)
    · have some_taken : 0 < x.taken.length := List.length_pos_iff.mpr handing
      exact .inr ⟨handing,by omega⟩

theorem taken_kept_iff (x : EventQueue ε) (i : Nat) :
    (x.taken.filter (·.1 ≠ i)).length = x.taken.length ↔ x.taken.lookup i = none := by
  rw [lookup_none,List.length_filter_eq_length_iff]
  simp

theorem balanced_moved (balanced : Balanced x.ledger) (moved : Moved x a l) : Balanced l ↔ Accountable x a := by
  obtain ⟨sizes,single,budget⟩ := balanced
  simp only [EventQueue.ledger] at sizes single budget
  cases moved with
  | refused full => exact ⟨fun _ => ⟨trivial,.inl full⟩,fun _ => ⟨sizes,single,budget⟩⟩
  | @admitted size envelope room =>
    have held : heldBytes (x.queue ++ [envelope]) = heldBytes x.queue + utf8Bytes envelope.raw := by
      simp [heldBytes]
    constructor
    · intro after
      have fits := after.budget
      rw [held] at fits
      exact ⟨trivial,.inr (by exact_mod_cast fits)⟩
    · rintro ⟨-,full | fits⟩
      · rw [room] at full
        cases full
      · refine ⟨?_,single,?_⟩
        · simp only [EventQueue.ledger,List.length_append,List.length_singleton]
          omega
        · rw [held]
          exact_mod_cast fits
  | @took envelope queue i front =>
    rw [front] at sizes budget
    have split_off : heldBytes (envelope :: queue) = utf8Bytes envelope.raw + heldBytes queue := by
      simp [heldBytes]
    have smaller : heldBytes queue ≤ envelopeQueueMaxBytes := by omega
    constructor
    · intro after
      have one := after.single
      simp only [List.length_append,List.length_singleton] at one
      exact ⟨trivial,List.eq_nil_of_length_eq_zero (by omega)⟩
    · rintro ⟨-,free⟩
      refine ⟨?_,by simp [free],smaller⟩
      simp only [EventQueue.ledger,List.length_append,List.length_cons,List.length_nil] at sizes ⊢
      omega
  | lost front =>
    constructor
    · intro after
      have kept := after.sizes
      rw [front] at sizes
      simp only [EventQueue.ledger,List.length_cons] at sizes kept
      omega
    · exact fun accountable => accountable.1.elim
  | handed running front =>
    refine ⟨fun _ => ⟨fun done => absurd done running,trivial⟩,fun _ => ?_⟩
    rw [front,List.length_cons] at sizes single
    refine ⟨?_,?_,budget⟩
    · simp only [Ledger.hand,EventQueue.ledger,List.length_tail]
      omega
    · simp only [Ledger.hand]
      omega
  | ended i apart idle exact_loss =>
    have simple : Accountable x a ↔ InTime x a := by
      cases a <;> simp_all [Accountable]
    rw [simple,exact_loss,← taken_kept_iff]
    constructor
    · intro after
      have kept := after.sizes
      simp only [EventQueue.ledger] at kept
      omega
    · intro kept
      exact ⟨by simp only [EventQueue.ledger,kept]; exact sizes,by rw [kept]; exact single,budget⟩
  | still apart idle calm =>
    have simple : Accountable x a := by
      cases a <;> simp_all [Accountable]
    exact ⟨fun _ => simple,fun _ => ⟨sizes,single,budget⟩⟩

theorem accounted_iff_accountable (seq : α → Option Int) (actions : List (QueueAction (Framed α))) :
    Always (textStep seq) Accounted .initial actions ↔
      Every (textStep seq) (fun x a _ => Accountable x a) .initial actions := by
  have taken_step : ∀ {x y : EventQueue (Framed α)} {a}, textStep seq x a = some y → Moved x a y.ledger := by
    intro x y a step
    unfold textStep at step
    split at step
    · exact queueStep_moved _ step
    · cases step
  refine always_iff_every_within (fun x => Tallied x.ledger) ?_ ?_ ⟨rfl,by simp [EventQueue.ledger,EventQueue.initial]⟩
    ⟨rfl,Int.le_refl _,.inl rfl,by simp [heldBytes,EventQueue.initial,envelopeQueueMaxBytes]⟩
  · intro x a y tallied step
    exact tallied_moved tallied (taken_step step)
  · intro x a y tallied accounted step
    have moved := taken_step step
    rw [accounted_balanced (tallied_moved tallied moved)]
    exact balanced_moved ((accounted_balanced tallied).mp accounted) moved

-- Frames of ASCII characters: the tally counts their bytes.
def AsciiText (raw : List Char) : Prop := ∀ c ∈ raw, c.utf8Size = 1

def AsciiFrame : QueueAction (Framed α) → Prop
  | .frame f _ => AsciiText f.raw
  | _ => True

structure Recorded (l : Ledger (Framed α)) : Prop where
  tallied : Tallied l
  last : l.queue.map (·.raw.length) <:+ l.sizes
  ascii : ∀ f ∈ l.queue, AsciiText f.raw

theorem ascii_bytes (ascii : AsciiText raw) : utf8Bytes raw = raw.length := by
  induction raw with
  | nil => rfl
  | cons c rest ih =>
    have one : c.utf8Size = 1 := ascii c (.head rest)
    have later := ih fun d member => ascii d (.tail c member)
    unfold utf8Bytes at later ⊢
    rw [List.map_cons,List.sum_cons,one,later,List.length_cons,Nat.add_comm]

theorem recorded_moved (recorded : Recorded x.ledger) (measured : measured a = true) (ascii : AsciiFrame a)
    (moved : Moved x a l) : Recorded l := by
  refine ⟨tallied_moved recorded.tallied moved,?_,?_⟩
  · have last := recorded.last
    cases moved with
    | @admitted size envelope room =>
      have own : size = envelope.raw.length := of_decide_eq_true measured
      obtain ⟨before,same⟩ := last
      refine ⟨before,?_⟩
      simp only [EventQueue.ledger] at same ⊢
      rw [← same,own,List.map_append,List.append_assoc]
      rfl
    | took front | lost front =>
      simp only [EventQueue.ledger,front,List.map_cons] at last ⊢
      exact (List.suffix_cons _ _).trans last
    | handed running front =>
      have covered := recorded.tallied.covered
      simp only [EventQueue.ledger,front,List.length_cons] at covered last
      cases sizes : x.sizes with
      | nil => simp [sizes] at covered
      | cons size rest =>
        rw [sizes] at covered last
        simp only [Ledger.hand,EventQueue.ledger,sizes,List.tail_cons]
        rcases List.suffix_cons_iff.mp last with whole | later
        · have lengths := congrArg List.length whole
          simp only [List.length_map,List.length_cons] at lengths covered
          omega
        · exact later
    | _ => exact last
  · have held := recorded.ascii
    cases moved with
    | admitted room =>
      intro f member
      rcases List.mem_append.mp member with old | new
      · exact held f old
      · rw [List.mem_singleton.mp new]
        exact ascii
    | took front | lost front =>
      simp only [EventQueue.ledger,front] at held
      exact fun f member => held f (.tail _ member)
    | _ => exact held

theorem ascii_frames_fit (seq : α → Option Int) (actions : List (QueueAction (Framed α))) (ascii : ∀ a ∈ actions, AsciiFrame a) :
    Every (textStep seq) (fun x a _ => ∀ f size, a = .frame f size →
      x.overflows size = true ∨ heldBytes x.queue + utf8Bytes f.raw ≤ envelopeQueueMaxBytes) .initial actions := by
  have split_step : ∀ {x y : EventQueue (Framed α)} {a}, textStep seq x a = some y → measured a = true ∧ Moved x a y.ledger := by
    intro x y a step
    unfold textStep at step
    split at step
    · exact ⟨‹_›,queueStep_moved _ step⟩
    · cases step
  have first : Recorded (EventQueue.ledger (.initial : EventQueue (Framed α))) :=
    ⟨⟨rfl,by simp [EventQueue.ledger,EventQueue.initial]⟩,List.suffix_rfl,fun f member => nomatch member⟩
  have plain : Every (textStep seq) (fun _ a _ => AsciiFrame a) .initial actions :=
    every_of_actions fun a member _ _ => ascii a member
  refine every_of_every (fun x => Recorded x.ledger) first ?_ ?_ plain
  · intro x a y recorded step plain
    obtain ⟨own,moved⟩ := split_step step
    exact recorded_moved recorded own plain moved
  · rintro x _ y recorded step plain f size rfl
    have own : size = f.raw.length := of_decide_eq_true (split_step step).1
    by_cases full : x.overflows size = true
    · exact .inl full
    · right
      have room : x.queuedBytes + size ≤ envelopeQueueMaxBytes := by
        simp only [EventQueue.overflows,Bool.or_eq_true,decide_eq_true_eq,not_or] at full
        omega
      have bytes : heldBytes x.queue = (x.queue.map (·.raw.length)).sum :=
        congrArg List.sum (List.map_congr_left fun g member => ascii_bytes (recorded.ascii g member))
      have most : (x.queue.map (·.raw.length)).sum ≤ x.sizes.sum := by
        obtain ⟨before,same⟩ := recorded.last
        have total := congrArg List.sum same
        simp only [List.sum_append,EventQueue.ledger] at total
        omega
      have tally := recorded.tallied.tally
      simp only [EventQueue.ledger] at tally
      rw [bytes,ascii_bytes plain]
      omega

-- A waiting consumer is cancelled, and its getter takes an envelope whose size stays.
def idleFrame : Framed Int := ⟨1,"\x7b\x7d".toList⟩

theorem left_getter_keeps_size :
    ¬Always (textStep some) Accounted .initial
      [.start,.iterate 0,.arm 0,.cancel 0,.iterate 1,.frame idleFrame 2,.takeLeft 0] := by
  decide +kernel

end LoomClient.Transport
