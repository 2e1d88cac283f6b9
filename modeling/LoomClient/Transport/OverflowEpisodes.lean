import LoomClient.Transport.FrameReader
import LoomClient.Transport.QueueBytes

namespace LoomClient.Transport
open Lib Client
variable {ε : Type}

-- The budgets the last overflow found exhausted, each until it has been at half or below.
structure Episode (ε : Type) where
  stream : EventQueue ε
  countOwed : Bool
  bytesOwed : Bool

def Episode.initial : Episode ε := ⟨.initial,false,false⟩

def triggersResync (x : EventQueue ε) : QueueAction ε → Bool
  | .frame _ size => x.overflows size && !x.overflowing
  | _ => false

def Episode.owe (x : Episode ε) : QueueAction ε → Episode ε
  | .frame envelope size =>
    if triggersResync x.stream (.frame envelope size) then
      {x with
        countOwed := decide (envelopeQueueMaxsize ≤ x.stream.queue.length)
        bytesOwed := decide (envelopeQueueMaxBytes < x.stream.queuedBytes + size)}
    else x
  | _ => x

def Episode.drain (x : Episode ε) : Episode ε :=
  {x with
    countOwed := x.countOwed && decide (envelopeQueueLowWater < x.stream.queue.length)
    bytesOwed := x.bytesOwed && decide (envelopeQueueMaxBytes < 2 * x.stream.queuedBytes)}

def episodeStep (seq : ε → Option Int) (x : Episode ε) (a : QueueAction ε) : Option (Episode ε) :=
  (queueStep seq x.stream a).map fun stream => {x.owe a with stream}.drain

def Episode.Settled (x : Episode ε) : Prop := x.countOwed = false ∧ x.bytesOwed = false

instance (x : Episode ε) : Decidable x.Settled := by unfold Episode.Settled; infer_instance

def OncePerEpisode (x : Episode ε) (a : QueueAction ε) : Prop := triggersResync x.stream a = true → x.Settled

instance (x : Episode ε) (a : QueueAction ε) : Decidable (OncePerEpisode x a) := by unfold OncePerEpisode; infer_instance

-- Where bytes are still owed, the tally left behind is at half or below.
def ReleasedDrained (x : Episode ε) : QueueAction ε → Prop
  | .wake i =>
    x.stream.waiter? i ≠ some .done → x.stream.overflowing = true → x.stream.queue.length ≤ envelopeQueueLowWater →
      x.bytesOwed = true → 2 * (x.stream.queuedBytes - x.stream.sizes.headD 0) ≤ envelopeQueueMaxBytes
  | _ => True

instance (x : Episode ε) (a : QueueAction ε) : Decidable (ReleasedDrained x a) := by
  unfold ReleasedDrained
  cases a <;> infer_instance

def Released (x : Episode ε) : Prop := x.stream.overflowing = false → x.Settled

theorem drain_settled {x : Episode ε} (settled : x.Settled) : x.drain.Settled := by
  obtain ⟨count,bytes⟩ := settled
  exact ⟨by simp [Episode.drain,count],by simp [Episode.drain,bytes]⟩

theorem owe_apart (x : Episode ε) (apart : ∀ e n, a ≠ .frame e n) : x.owe a = x := by
  cases a with
  | frame envelope size => exact absurd rfl (apart envelope size)
  | _ => rfl

theorem owe_admitted (x : Episode ε) (room : x.stream.overflows size = false) : x.owe (.frame envelope size) = x := by
  simp [Episode.owe,triggersResync,room]

theorem released_step (released : Released x) (step : queueStep seq x.stream a = some stream)
    (drained : ReleasedDrained x a) : Released {x.owe a with stream}.drain := by
  intro unlatched
  change stream.ledger.latched = false at unlatched
  have moved := queueStep_moved seq step
  have kept : x.owe a = x → stream.ledger.latched = x.stream.overflowing → {x.owe a with stream}.drain.Settled := by
    intro same latch
    have settled := released (latch ▸ unlatched)
    rw [same]
    exact drain_settled (x := {x with stream}) settled
  generalize ledger : stream.ledger = l at moved unlatched kept
  cases moved with
  | refused full => cases unlatched
  | admitted room => exact kept (owe_admitted x room) rfl
  | took front => exact kept rfl rfl
  | lost front => exact kept rfl rfl
  | ended i apart idle exact_loss => exact kept (owe_apart x apart) rfl
  | still apart idle calm => exact kept (owe_apart x apart) rfl
  | handed running front =>
    by_cases latched : x.stream.overflowing = true
    · have low : x.stream.queue.length ≤ envelopeQueueLowWater := by
        simpa [Ledger.hand,EventQueue.ledger,latched] using unlatched
      simp only [EventQueue.ledger,Ledger.hand,Ledger.mk.injEq] at ledger
      obtain ⟨queue,-,bytes,-,-⟩ := ledger
      refine ⟨?_,?_⟩
      · simp [Episode.drain,queue,Nat.not_lt.mpr low]
      · simp only [Episode.drain,Episode.owe,bytes,Bool.and_eq_false_iff,decide_eq_false_iff_not,Int.not_lt]
        cases owed : x.bytesOwed with
        | false => exact .inl rfl
        | true => exact .inr (drained running latched low owed)
    · refine kept rfl ?_
      simp [Ledger.hand,EventQueue.ledger,Bool.eq_false_iff.mpr latched]

theorem one_resync_per_episode (seq : ε → Option Int) (actions : List (QueueAction ε))
    (drained : Every (episodeStep seq) (fun x a _ => ReleasedDrained x a) .initial actions) :
    Every (episodeStep seq) (fun x a _ => OncePerEpisode x a) .initial actions := by
  refine every_of_every Released (fun _ => ⟨rfl,rfl⟩) ?_ ?_ drained
  · intro x a y released step met
    obtain ⟨stream,moved,rfl⟩ := Option.map_eq_some_iff.mp step
    exact released_step released moved met
  · intro x a y released step met triggered
    cases a with
    | frame envelope size =>
      simp only [triggersResync,Bool.and_eq_true,Bool.not_eq_true'] at triggered
      exact released triggered.2
    | _ => cases triggered

def oneMiB : QueueAction Nat := .frame 0 (1024 * 1024)

-- One hand-over opens the latch again, and the next two frames ask for a second resync.
theorem byte_overflow_resyncs_again :
    ¬Every (episodeStep fun _ : Nat => none) (fun x a _ => OncePerEpisode x a) .initial
      (.start :: List.replicate 65 oneMiB ++ [.iterate 0,.arm 0,.take 0,.wake 0,oneMiB,oneMiB]) := by
  decide +kernel

def Episode.filled (x : Episode ε) (n : Nat) (envelope : ε) (size : Nat) : Episode ε :=
  {x with stream := {x.stream with
    queue := x.stream.queue ++ List.replicate n envelope
    sizes := x.stream.sizes ++ List.replicate n size
    queuedBytes := x.stream.queuedBytes + n * size
    accepted := x.stream.accepted ++ List.replicate n envelope}}

@[simp] theorem Episode.filled_length (x : Episode ε) (n : Nat) (envelope : ε) (size : Nat) :
    (x.filled n envelope size).stream.queue.length = x.stream.queue.length + n := by
  simp only [filled,List.length_append,List.length_replicate]

theorem text_filled {x : EventQueue ε} (fits : x.overflows size = false) : handleText (fun _ => none) x envelope size =
    {x with
      queue := x.queue ++ [envelope]
      sizes := x.sizes ++ [size]
      queuedBytes := x.queuedBytes + size
      accepted := x.accepted ++ [envelope]} := by
  have cursor : highestSeq x.lastSeq none = x.lastSeq := by cases x.lastSeq <;> rfl
  have room : EventQueue.overflows {x with lastSeq := x.lastSeq} size = false := fits
  simp only [handleText,cursor,room,Bool.false_eq_true,if_false]

theorem frame_filled {x : Episode ε} {size : Nat} (settled : x.Settled) (reading : x.stream.reading = true)
    (bytes : x.stream.queuedBytes + size ≤ envelopeQueueMaxBytes) (room : x.stream.queue.length < envelopeQueueMaxsize) :
    episodeStep (fun _ => none) x (.frame envelope size) = some (x.filled 1 envelope size) := by
  have fits : x.stream.overflows size = false := by
    simp only [EventQueue.overflows,Bool.or_eq_false_iff,decide_eq_false_iff_not]
    omega
  obtain ⟨count,owed⟩ := settled
  simp only [episodeStep,queueStep,reading,if_true,text_filled fits,Episode.owe,triggersResync,fits,Bool.false_and,
    Option.map_some,Episode.drain,count,owed,Episode.filled,Bool.false_eq_true,if_false]
  simp

theorem frames_filled (x : Episode ε) (n : Nat) (envelope : ε) (size : Nat) (settled : x.Settled) (reading : x.stream.reading = true)
    (bytes : x.stream.queuedBytes + n * size ≤ envelopeQueueMaxBytes) (room : x.stream.queue.length + n ≤ envelopeQueueMaxsize) :
    run (episodeStep fun _ => none) x (List.replicate n (.frame envelope size)) = some (x.filled n envelope size) := by
  induction n generalizing x with
  | zero => simp [run,Episode.filled]
  | succ n ih =>
    have one : x.stream.queuedBytes + size ≤ envelopeQueueMaxBytes := by
      refine le_trans ?_ bytes
      push_cast
      nlinarith
    have next : (x.filled 1 envelope size).stream.queuedBytes + n * size ≤ envelopeQueueMaxBytes := by
      simp only [Episode.filled]
      push_cast at bytes ⊢
      linarith
    have left : (x.filled 1 envelope size).stream.queue.length + n ≤ envelopeQueueMaxsize := by
      rw [Episode.filled_length]
      omega
    rw [List.replicate_succ,run,frame_filled settled reading one (by omega),Option.bind_some]
    refine (ih (x.filled 1 envelope size) settled reading next left).trans (congrArg some ?_)
    simp [Episode.filled,List.replicate_succ,add_mul,add_comm,add_assoc]

def smallFrame : QueueAction Nat := .frame 1 100

-- An iterator that has taken its stop waiter takes the next envelope.
def handOver : List (QueueAction Nat) := [.iterate 0,.take 0,.wake 0]

-- The frames of the largest size are handed over first, so that half of the bytes are gone when the
-- queue is down to its low-water mark.
def beforeOverflow : List (QueueAction Nat) :=
  List.replicate 33 oneMiB ++ (List.replicate 2018 smallFrame ++ List.replicate 30 oneMiB)

def fromOverflow : List (QueueAction Nat) :=
  oneMiB :: oneMiB :: .iterate 0 :: .arm 0 :: .take 0 :: .wake 0 ::
    ((List.replicate 32 handOver).flatten ++ List.replicate 35 oneMiB)

def startedEpisode : Episode Nat := ⟨{EventQueue.initial with reading := true},false,false⟩

def fullEpisode : Episode Nat := ((startedEpisode.filled 33 0 (1024 * 1024)).filled 2018 1 100).filled 30 0 (1024 * 1024)

theorem before_overflow_fills : run (episodeStep fun _ => none) startedEpisode beforeOverflow = some fullEpisode := by
  have settled : startedEpisode.Settled := by decide
  have first := frames_filled startedEpisode 33 0 (1024 * 1024) settled rfl (by decide) (by decide)
  have second := frames_filled (startedEpisode.filled 33 0 (1024 * 1024)) 2018 1 100 settled rfl (by decide) (by
    rw [Episode.filled_length]
    decide)
  have third := frames_filled ((startedEpisode.filled 33 0 (1024 * 1024)).filled 2018 1 100) 30 0 (1024 * 1024) settled rfl
    (by decide) (by
      rw [Episode.filled_length,Episode.filled_length]
      decide)
  unfold beforeOverflow oneMiB smallFrame
  rw [run_append,first,Option.bind_some,run_append,second,Option.bind_some,third]
  rfl

theorem before_overflow_drained : Every (episodeStep fun _ => none) (fun x a _ => ReleasedDrained x a) startedEpisode beforeOverflow := by
  refine every_of_actions fun a member x _ => ?_
  have framed : a = oneMiB ∨ a = smallFrame := by
    simp only [beforeOverflow,List.mem_append,List.mem_replicate] at member
    tauto
  rcases framed with rfl | rfl <;> trivial

theorem drained_episodes_resync_once :
    Every (episodeStep fun _ : Nat => none) (fun x a _ => OncePerEpisode x a) .initial
      (.start :: (beforeOverflow ++ fromOverflow)) := by
  refine one_resync_per_episode _ _ ⟨trivial,(every_append _ _ _).mpr ⟨before_overflow_drained,fun x reached => ?_⟩⟩
  cases before_overflow_fills.symm.trans reached
  decide +kernel

end LoomClient.Transport
