import LoomClient.Events.Attention
import LoomClient.Events.Decoding
import LoomClient.Transport.EventQueue

namespace LoomClient.Events
open Lib Transport
variable {J P τ Handler : Type}

-- Where `_dispatch_loop` stands: before its next envelope, waiting for one, in
-- `publish`, at the end of the stream, or cancelled.
inductive DispatchPhase where
  | idle
  | waiting
  | publishing (publish : Nat)
  | ended
  | cancelled
  deriving DecidableEq

-- The fan-outs that the loop has started, the oldest first.
structure Dispatch (J τ Handler : Type) where
  queue : EventQueue (WsEnvelope J τ)
  bus : Bus EventClass String Handler
  iterator : Nat
  phase : DispatchPhase
  dispatched : List Nat

-- An iterator moves only with the loop that reads from it.
def outside : QueueAction ε → Bool
  | .iterate _ | .wake _ | .cancel _ | .close _ => false
  | _ => true

-- `bus` is every other use of the bus; `goOn` resumes the loop behind a `publish` that has ended,
-- `start` is `start_events()` after the end of the stream.
inductive DispatchAction (J τ Handler : Type) where
  | queue (action : QueueAction (WsEnvelope J τ))
  | bus (action : Action EventClass String Handler)
  | start
  | next
  | receive
  | goOn
  | cancel

section Step
variable [BEq Handler] (models : Models J P)

def seqOf (envelope : WsEnvelope J τ) : Option Int := some envelope.seq

def Dispatch.initial : Dispatch J τ Handler := ⟨.initial,.empty,0,.ended,[]⟩

def Dispatch.publish (x : Dispatch J τ Handler) (envelope : WsEnvelope J τ) : Dispatch J τ Handler :=
  {x with
    bus := x.bus.publish (eventFromEnvelope models envelope).onBus
    phase := .publishing x.bus.publishes.length
    dispatched := x.dispatched ++ [x.bus.publishes.length]}

def Dispatch.step (x : Dispatch J τ Handler) : DispatchAction J τ Handler → Option (Dispatch J τ Handler)
  | .queue action => if outside action then (queueStep seqOf x.queue action).map fun queue => {x with queue} else none
  | .bus action => (x.bus.step action).map fun bus => {x with bus}
  | .start => match x.phase with
    | .ended => some {x with phase := .idle,iterator := x.iterator + 1}
    | _ => none
  | .next => match x.phase with
    | .idle => (queueStep seqOf x.queue (.iterate x.iterator)).map fun queue =>
        {x with queue,phase := if x.queue.stopped then .ended else .waiting}
    | _ => none
  | .receive => match x.phase with
    | .waiting => (queueStep seqOf x.queue (.wake x.iterator)).map fun queue =>
        match queue.yielded.drop x.queue.yielded.length with
        | [] => {x with queue,phase := .ended}
        | envelope :: _ => Dispatch.publish models {x with queue} envelope
    | _ => none
  | .goOn => match x.phase with
    | .publishing i => match (x.bus.publishes[i]?).map Publish.stage with
      | some .finished => some {x with phase := .idle}
      | some .cancelled => some {x with phase := .cancelled}
      | _ => none
    | _ => none
  | .cancel => match x.phase with
    | .waiting => (queueStep seqOf x.queue (.cancel x.iterator)).map fun queue => {x with queue,phase := .cancelled}
    | _ => none

def calledIn (bus : Bus EventClass String Handler) (sub i : Nat) : Bool :=
  (bus.publishes[i]?).any fun p => p.calls.contains sub

-- Among the envelopes that the loop took and the fan-outs it started for them.
def heard (bus : Bus EventClass String Handler) (sub : Nat) (taken : List (Nat × WsEnvelope J τ)) : List (LoomEvent J P τ) :=
  (taken.filter fun pair => calledIn bus sub pair.1).map fun pair => eventFromEnvelope models pair.2

def wanted (bus : Bus EventClass String Handler) (sub : Nat) (envelopes : List (WsEnvelope J τ)) : List (LoomEvent J P τ) :=
  (envelopes.map (eventFromEnvelope models)).filter fun event => bus.wants sub event.onBus

end Step

section Queue
variable {ε : Type} {seq : ε → Option Int} {x y : EventQueue ε}

-- Nothing is taken from the queue that was not accepted, and nothing out of order.
def Ordered (x : EventQueue ε) : Prop := (x.yielded ++ x.taken.map Prod.snd ++ x.queue).Sublist x.accepted

theorem same_ordered (same : SameEnvelopes x y) (ordered : Ordered x) : Ordered y := by
  obtain ⟨queue,taken,accepted,yielded⟩ := same
  rw [Ordered,queue,taken,accepted,yielded]
  exact ordered

theorem endIterator_ordered (ordered : Ordered x) : Ordered (endIterator x i) := by
  refine List.Sublist.trans ?_ ordered
  have fewer : ((endIterator x i).taken.map Prod.snd).Sublist (x.taken.map Prod.snd) := List.filter_sublist.map Prod.snd
  exact ((List.Sublist.refl x.yielded).append fewer).append (List.Sublist.refl x.queue)

theorem handleText_ordered (ordered : Ordered x) (envelope : ε) (size : Nat) : Ordered (handleText seq x envelope size) := by
  unfold handleText
  dsimp only
  split
  · exact ordered
  · unfold Ordered at ordered ⊢
    dsimp only
    rw [← List.append_assoc]
    exact ordered.append (List.Sublist.refl [envelope])

theorem queueStep_yields (moved : queueStep seq x a = some y) :
    (y.yielded = x.yielded ∨ ∃ i envelope, a = .wake i ∧ y.yielded = x.yielded ++ [envelope]) ∧ (Ordered x → Ordered y) := by
  have still : SameEnvelopes x y → (y.yielded = x.yielded ∨ ∃ i envelope, a = .wake i ∧ y.yielded = x.yielded ++ [envelope]) ∧
      (Ordered x → Ordered y) := fun same => ⟨.inl same.2.2.2,same_ordered same⟩
  cases a with
  | start =>
    cases moved
    refine still ?_
    split <;> exact ⟨rfl,rfl,rfl,rfl⟩
  | stop => cases moved; exact still ⟨rfl,rfl,rfl,rfl⟩
  | readEnded => simp only [queueStep] at moved; split at moved <;> cases moved; exact still ⟨rfl,rfl,rfl,rfl⟩
  | finish => simp only [queueStep] at moved; split at moved <;> cases moved; exact still ⟨rfl,rfl,rfl,rfl⟩
  | refused => simp only [queueStep] at moved; split at moved <;> cases moved; exact still ⟨rfl,rfl,rfl,rfl⟩
  | arm i => simp only [queueStep] at moved; split at moved <;> cases moved; exact still ⟨rfl,rfl,rfl,rfl⟩
  | completeWaiter i => simp only [queueStep] at moved; split at moved <;> cases moved; exact still ⟨rfl,rfl,rfl,rfl⟩
  | frame envelope size =>
    simp only [queueStep] at moved
    split at moved <;> cases moved
    refine ⟨.inl ?_,fun ordered => handleText_ordered ordered envelope size⟩
    unfold handleText
    dsimp only
    split <;> rfl
  | iterate i =>
    simp only [queueStep] at moved
    split at moved <;> cases moved
    unfold iterate
    split
    · exact ⟨.inl rfl,endIterator_ordered⟩
    · exact ⟨.inl rfl,fun ordered => ordered⟩
  | take i =>
    simp only [queueStep] at moved
    split at moved
    · rename_i envelope queue front
      split at moved <;> cases moved
      refine ⟨.inl rfl,fun ordered => ?_⟩
      unfold Ordered at ordered ⊢
      rw [front] at ordered
      simpa using ordered
    · cases moved
  | takeLeft i =>
    simp only [queueStep] at moved
    split at moved
    · rename_i envelope queue front
      split at moved <;> cases moved
      refine ⟨.inl rfl,fun ordered => List.Sublist.trans ?_ ordered⟩
      rw [front]
      exact (List.Sublist.refl _).append (List.sublist_cons_self envelope queue)
    · cases moved
  | wake i =>
    simp only [queueStep] at moved
    split at moved
    · split at moved <;> cases moved
      exact ⟨.inl rfl,endIterator_ordered⟩
    · split at moved
      · rename_i j envelope taken front
        split at moved <;> cases moved
        obtain ⟨queue,takenSame,accepted,yielded⟩ := releaseLatch_same (popSize {x with taken})
        obtain ⟨queue',takenSame',accepted',yielded'⟩ := popSize_same {x with taken}
        refine ⟨.inr ⟨i,envelope,rfl,?_⟩,fun ordered => ?_⟩
        · simp only [yielded,yielded']
        · unfold Ordered at ordered ⊢
          simp only [queue,takenSame,accepted,yielded,queue',takenSame',accepted',yielded']
          rw [front] at ordered
          simpa using ordered
      · cases moved
  | cancel i =>
    simp only [queueStep] at moved
    split at moved <;> cases moved
    exact ⟨.inl rfl,endIterator_ordered⟩
  | close i =>
    simp only [queueStep] at moved
    split at moved <;> cases moved
    exact ⟨.inl rfl,endIterator_ordered⟩

end Queue

section Follow
variable [BEq Handler] {models : Models J P} {x y : Dispatch J τ Handler} {new : List Nat} {taken : List (WsEnvelope J τ)}

def Bus.ended (b : Bus EventClass String Handler) (i : Nat) : Prop := (b.publishes[i]?).map Publish.stage = some .finished

structure Fans (models : Models J P) (sub : Nat) (kind : EventClass) (new : List Nat) (taken : List (WsEnvelope J τ))
    (b : Bus EventClass String Handler) : Prop where
  standing : b.Standing
  old : sub < b.heap.length
  matched : new.map (fun i => (b.publishes[i]?).map Publish.event) =
    taken.map fun envelope => some (eventFromEnvelope models envelope).onBus
  attends : sub ∈ b.bucket kind → ∀ i ∈ new, ∀ p, b.publishes[i]? = some p → b.Attends sub kind p

-- All but the last have ended, and that one too unless the loop is in it or was cancelled there.
structure Sequential (b : Bus EventClass String Handler) (phase : DispatchPhase) (new : List Nat) : Prop where
  earlier : ∀ i ∈ new.dropLast, b.ended i
  last : ∀ i, new.getLast? = some i → b.ended i ∨ phase = .publishing i ∨ phase = .cancelled
  current : ∀ i, phase = .publishing i → new = [] ∨ new.getLast? = some i

omit [BEq Handler] in
theorem matched_found {b : Bus EventClass String Handler} (fans : Fans models sub kind new taken b) (member : i ∈ new) :
    ∃ p, b.publishes[i]? = some p := by
  have mapped : (b.publishes[i]?).map Publish.event ∈ new.map (fun i => (b.publishes[i]?).map Publish.event) :=
    List.mem_map_of_mem member
  rw [fans.matched] at mapped
  obtain ⟨envelope,_,same⟩ := List.mem_map.mp mapped
  obtain ⟨p,found,_⟩ := Option.map_eq_some_iff.mp same.symm
  exact ⟨p,found⟩

theorem ended_kept {b c : Bus EventClass String Handler} (standing : b.Standing) (moved : b.step a = some c)
    (ended : b.ended i) : c.ended i := by
  obtain ⟨p,found,finished⟩ := Option.map_eq_some_iff.mp ended
  obtain ⟨q,later,_,kept⟩ := step_publishes standing moved found
  rw [Bus.ended,later]
  exact congrArg some (kept finished)

theorem fans_step {b c : Bus EventClass String Handler} (fans : Fans models sub kind new taken b) (moved : b.step a = some c) :
    Fans models sub kind new taken c := by
  obtain ⟨_,grown⟩ := step_terms moved fans.old
  refine ⟨(step_law fans.standing moved).1,lt_of_lt_of_le fans.old grown,?_,fun still i member q later => ?_⟩
  · rw [← fans.matched]
    apply List.map_congr_left
    intro i member
    obtain ⟨p,found⟩ := matched_found fans member
    obtain ⟨q,later,same,_⟩ := step_publishes fans.standing moved found
    rw [found,later,Option.map_some,Option.map_some,same]
  · obtain ⟨p,found⟩ := matched_found fans member
    have there := step_bucket fans.standing moved fans.old still
    exact step_attends fans.standing moved fans.old still found later (fans.attends there i member p found)

theorem sequential_step {b c : Bus EventClass String Handler} (standing : b.Standing) (moved : b.step a = some c)
    (line : Sequential b phase new) : Sequential c phase new where
  earlier i member := ended_kept standing moved (line.earlier i member)
  last i found := (line.last i found).imp_left (ended_kept standing moved)
  current := line.current

theorem fans_publish {b : Bus EventClass String Handler} (fans : Fans models sub kind new taken b) (envelope : WsEnvelope J τ) :
    Fans models sub kind (new ++ [b.publishes.length]) (taken ++ [envelope])
      (b.publish (eventFromEnvelope models envelope).onBus) := by
  have later := fans_step fans (a := .publish (eventFromEnvelope models envelope).onBus) rfl
  obtain ⟨q,publishes,same,attends⟩ := publish_attends sub kind fans.standing
    (eventFromEnvelope models envelope).onBus
  have placed : (b.publish (eventFromEnvelope models envelope).onBus).publishes[b.publishes.length]? = some q := by
    rw [publishes,List.getElem?_concat_length]
  refine ⟨later.standing,later.old,?_,fun still i member p found => ?_⟩
  · rw [List.map_append,List.map_append,later.matched]
    simp only [List.map_cons,List.map_nil,placed,Option.map_some,same]
  · rcases List.mem_append.mp member with before | last
    · exact later.attends still i before p found
    · cases List.mem_singleton.mp last
      cases placed.symm.trans found
      exact attends (step_bucket fans.standing (a := .publish _) rfl fans.old still)

theorem sequential_publish {b : Bus EventClass String Handler} (standing : b.Standing) (event : Event EventClass String)
    (done : ∀ i ∈ new, b.ended i) :
    Sequential (b.publish event) (.publishing b.publishes.length) (new ++ [b.publishes.length]) where
  earlier i member := by
    rw [List.dropLast_concat] at member
    exact ended_kept (a := .publish event) standing rfl (done i member)
  last i found := by
    rw [List.getLast?_concat] at found
    cases found
    exact .inr (.inl rfl)
  current i same := by
    cases same
    exact .inr List.getLast?_concat

omit [BEq Handler] in
theorem sequential_done {b : Bus EventClass String Handler} (line : Sequential b phase new)
    (free : (∀ i, phase ≠ .publishing i) ∧ phase ≠ .cancelled) : ∀ i ∈ new, b.ended i := by
  intro i member
  rcases List.eq_nil_or_concat' new with rfl | ⟨front,last,rfl⟩
  · cases member
  · rcases List.mem_append.mp member with before | here
    · exact line.earlier i (by simpa using before)
    · cases List.mem_singleton.mp here
      rcases line.last i (by simp) with ended | inside | gone
      · exact ended
      · exact absurd inside (free.1 i)
      · exact absurd gone free.2

omit [BEq Handler] in
theorem sequential_free {b : Bus EventClass String Handler} (done : ∀ i ∈ new, b.ended i)
    (free : ∀ i, phase ≠ .publishing i) : Sequential b phase new where
  earlier i member := done i (List.mem_of_mem_dropLast member)
  last i found := .inl (done i (List.mem_of_getLast? found))
  current i same := absurd same (free i)

structure Follows (models : Models J P) (sub : Nat) (kind : EventClass) (start x : Dispatch J τ Handler) (new : List Nat)
    (taken : List (WsEnvelope J τ)) : Prop where
  dispatched : x.dispatched = start.dispatched ++ new
  yielded : x.queue.yielded = start.queue.yielded ++ taken
  fans : Fans models sub kind new taken x.bus
  line : Sequential x.bus x.phase new
  ordered : Ordered x.queue

omit [BEq Handler] in
theorem follows_queue (follows : Follows models sub kind start x new taken) (queue : EventQueue (WsEnvelope J τ))
    (same : queue.yielded = x.queue.yielded) (ordered : Ordered queue) (line : Sequential x.bus phase new) :
    Follows models sub kind start {x with queue,phase} new taken :=
  ⟨follows.dispatched,same.trans follows.yielded,follows.fans,line,ordered⟩

omit [BEq Handler] in
theorem follows_quiet (follows : Follows models sub kind start y new taken) :
    ∃ more later, Follows models sub kind start y (new ++ more) (taken ++ later) :=
  ⟨[],[],by simpa using follows⟩

omit [BEq Handler] in
theorem follows_free (follows : Follows models sub kind start x new taken) (done : ∀ i ∈ new, x.bus.ended i)
    (stepped : queueStep seqOf x.queue a = some queue) (same : queue.yielded = x.queue.yielded)
    (free : ∀ i, phase ≠ .publishing i) : Follows models sub kind start {x with queue,phase} new taken :=
  follows_queue follows queue same ((queueStep_yields stepped).2 follows.ordered) (sequential_free done free)

theorem queue_follows (follows : Follows models sub kind start x new taken) (moved : x.step models (.queue a) = some y) :
    Follows models sub kind start y new taken := by
  simp only [Dispatch.step] at moved
  split at moved
  · rename_i away
    obtain ⟨queue,stepped,rfl⟩ := Option.map_eq_some_iff.mp moved
    obtain ⟨yields,kept⟩ := queueStep_yields stepped
    rcases yields with same | ⟨i,envelope,rfl,_⟩
    · exact follows_queue follows queue same (kept follows.ordered) follows.line
    · cases away
  · cases moved

theorem bus_follows (follows : Follows models sub kind start x new taken) (moved : x.step models (.bus a) = some y) :
    Follows models sub kind start y new taken := by
  obtain ⟨bus,stepped,rfl⟩ := Option.map_eq_some_iff.mp moved
  exact ⟨follows.dispatched,follows.yielded,fans_step follows.fans stepped,
    sequential_step follows.fans.standing stepped follows.line,follows.ordered⟩

theorem start_follows (follows : Follows models sub kind start x new taken) (moved : x.step models .start = some y) :
    Follows models sub kind start y new taken := by
  simp only [Dispatch.step] at moved
  split at moved
  · rename_i ended
    cases moved
    have done := sequential_done follows.line (by simp [ended])
    exact ⟨follows.dispatched,follows.yielded,follows.fans,sequential_free done (by simp),follows.ordered⟩
  · cases moved

theorem next_follows (follows : Follows models sub kind start x new taken) (moved : x.step models .next = some y) :
    Follows models sub kind start y new taken := by
  simp only [Dispatch.step] at moved
  split at moved
  · rename_i idle
    obtain ⟨queue,stepped,rfl⟩ := Option.map_eq_some_iff.mp moved
    have done := sequential_done follows.line (by simp [idle])
    rcases (queueStep_yields stepped).1 with same | ⟨i,envelope,impossible,_⟩
    · refine follows_free follows done stepped same fun i => ?_
      split <;> simp
    · cases impossible
  · cases moved

theorem cancel_follows (follows : Follows models sub kind start x new taken) (moved : x.step models .cancel = some y) :
    Follows models sub kind start y new taken := by
  simp only [Dispatch.step] at moved
  split at moved
  · rename_i waiting
    obtain ⟨queue,stepped,rfl⟩ := Option.map_eq_some_iff.mp moved
    have done := sequential_done follows.line (by simp [waiting])
    rcases (queueStep_yields stepped).1 with same | ⟨i,envelope,impossible,_⟩
    · exact follows_free follows done stepped same (by simp)
    · cases impossible
  · cases moved

theorem receive_follows (follows : Follows models sub kind start x new taken) (moved : x.step models .receive = some y) :
    ∃ more later, Follows models sub kind start y (new ++ more) (taken ++ later) := by
  simp only [Dispatch.step] at moved
  split at moved
  · rename_i waiting
    obtain ⟨queue,stepped,rfl⟩ := Option.map_eq_some_iff.mp moved
    obtain ⟨yields,kept⟩ := queueStep_yields stepped
    have done := sequential_done follows.line (by simp [waiting])
    rcases yields with same | ⟨i,envelope,_,more⟩
    · have nothing : queue.yielded.drop x.queue.yielded.length = [] := by rw [same,List.drop_length]
      refine follows_quiet ?_
      rw [nothing]
      exact follows_free follows done stepped same (by simp)
    · rw [more,List.drop_left]
      refine ⟨[x.bus.publishes.length],[envelope],?_,?_,fans_publish follows.fans envelope,
        sequential_publish follows.fans.standing _ done,kept follows.ordered⟩
      · show x.dispatched ++ [x.bus.publishes.length] = _
        rw [follows.dispatched,List.append_assoc]
      · show queue.yielded = _
        rw [more,follows.yielded,List.append_assoc]
  · cases moved

omit [BEq Handler] in
theorem sequential_current {b : Bus EventClass String Handler} (line : Sequential b (.publishing i) new) (ended : b.ended i) :
    ∀ j ∈ new, b.ended j := by
  intro j member
  rcases List.eq_nil_or_concat' new with rfl | ⟨front,last,rfl⟩
  · cases member
  · rcases List.mem_append.mp member with before | here
    · exact line.earlier j (by simpa using before)
    · cases List.mem_singleton.mp here
      rcases line.current i rfl with none | found
      · simp at none
      · have same : j = i := by simpa using found
        rw [same]
        exact ended

theorem goOn_follows (follows : Follows models sub kind start x new taken) (moved : x.step models .goOn = some y) :
    Follows models sub kind start y new taken := by
  simp only [Dispatch.step] at moved
  split at moved
  · rename_i i inside
    have line : Sequential x.bus (.publishing i) new := inside ▸ follows.line
    split at moved
    · rename_i finished
      cases moved
      exact ⟨follows.dispatched,follows.yielded,follows.fans,sequential_free (sequential_current line finished) (by simp),
        follows.ordered⟩
    · cases moved
      exact ⟨follows.dispatched,follows.yielded,follows.fans,⟨line.earlier,fun _ _ => .inr (.inr rfl),nofun⟩,
        follows.ordered⟩
    · cases moved
  · cases moved

theorem follows_step (follows : Follows models sub kind start x new taken) (moved : x.step models a = some y) :
    ∃ more later, Follows models sub kind start y (new ++ more) (taken ++ later) := by
  cases a with
  | queue => exact follows_quiet (queue_follows follows moved)
  | bus => exact follows_quiet (bus_follows follows moved)
  | start => exact follows_quiet (start_follows follows moved)
  | next => exact follows_quiet (next_follows follows moved)
  | receive => exact receive_follows follows moved
  | goOn => exact follows_quiet (goOn_follows follows moved)
  | cancel => exact follows_quiet (cancel_follows follows moved)

theorem follows_run {models : Models J P} {start x t : Dispatch J τ Handler} (follows : Follows models sub kind start x new taken)
    (path : run (Dispatch.step models) x actions = some t) :
    ∃ more later, Follows models sub kind start t (new ++ more) (taken ++ later) := by
  induction actions generalizing x new taken with
  | nil =>
    cases path
    exact ⟨[],[],by simpa using follows⟩
  | cons a rest ih =>
    obtain ⟨y,moved,after⟩ := Option.bind_eq_some_iff.mp path
    obtain ⟨more,later,next⟩ := follows_step follows moved
    obtain ⟨more',later',last⟩ := ih next after
    exact ⟨more ++ more',later ++ later',by simpa using last⟩

end Follow

section Heard
variable [BEq Handler] {models : Models J P} {x y s t : Dispatch J τ Handler}

theorem step_parts (moved : x.step models a = some y) :
    (y.queue = x.queue ∨ ∃ action, queueStep seqOf x.queue action = some y.queue) ∧
      (y.bus = x.bus ∨ ∃ action, x.bus.step action = some y.bus) := by
  cases a with
  | queue action =>
    simp only [Dispatch.step] at moved
    split at moved
    · obtain ⟨queue,stepped,rfl⟩ := Option.map_eq_some_iff.mp moved
      exact ⟨.inr ⟨action,stepped⟩,.inl rfl⟩
    · cases moved
  | bus action =>
    obtain ⟨bus,stepped,rfl⟩ := Option.map_eq_some_iff.mp moved
    exact ⟨.inl rfl,.inr ⟨action,stepped⟩⟩
  | start =>
    simp only [Dispatch.step] at moved
    split at moved <;> cases moved
    exact ⟨.inl rfl,.inl rfl⟩
  | next =>
    simp only [Dispatch.step] at moved
    split at moved
    · obtain ⟨queue,stepped,rfl⟩ := Option.map_eq_some_iff.mp moved
      exact ⟨.inr ⟨_,stepped⟩,.inl rfl⟩
    · cases moved
  | receive =>
    simp only [Dispatch.step] at moved
    split at moved
    · obtain ⟨queue,stepped,rfl⟩ := Option.map_eq_some_iff.mp moved
      split
      · exact ⟨.inr ⟨_,stepped⟩,.inl rfl⟩
      · rename_i envelope _ _
        exact ⟨.inr ⟨_,stepped⟩,.inr ⟨.publish (eventFromEnvelope models envelope).onBus,rfl⟩⟩
    · cases moved
  | goOn =>
    simp only [Dispatch.step] at moved
    split at moved
    · split at moved <;> cases moved
      · exact ⟨.inl rfl,.inl rfl⟩
      · exact ⟨.inl rfl,.inl rfl⟩
    · cases moved
  | cancel =>
    simp only [Dispatch.step] at moved
    split at moved
    · obtain ⟨queue,stepped,rfl⟩ := Option.map_eq_some_iff.mp moved
      exact ⟨.inr ⟨_,stepped⟩,.inl rfl⟩
    · cases moved

def Inside (x : Dispatch J τ Handler) : Prop := ∀ i, x.phase = .publishing i → ∃ p, x.bus.publishes[i]? = some p

structure Sound (x : Dispatch J τ Handler) : Prop where
  standing : x.bus.Standing
  ordered : Ordered x.queue
  inside : Inside x

theorem inside_step (standing : x.bus.Standing) (inside : Inside x) (moved : x.step models a = some y) : Inside y := by
  intro i publishing
  cases a with
  | queue =>
    simp only [Dispatch.step] at moved
    split at moved
    · obtain ⟨queue,_,rfl⟩ := Option.map_eq_some_iff.mp moved
      exact inside i publishing
    · cases moved
  | bus action =>
    obtain ⟨bus,stepped,rfl⟩ := Option.map_eq_some_iff.mp moved
    obtain ⟨p,found⟩ := inside i publishing
    obtain ⟨q,later,_⟩ := step_publishes standing stepped found
    exact ⟨q,later⟩
  | receive =>
    simp only [Dispatch.step] at moved
    split at moved
    · obtain ⟨queue,_,rfl⟩ := Option.map_eq_some_iff.mp moved
      split at publishing
      · cases publishing
      · cases publishing
        exact ⟨_,List.getElem?_concat_length⟩
    · cases moved
  | next =>
    simp only [Dispatch.step] at moved
    split at moved
    · obtain ⟨queue,_,rfl⟩ := Option.map_eq_some_iff.mp moved
      dsimp only at publishing
      split at publishing <;> cases publishing
    · cases moved
  | goOn =>
    simp only [Dispatch.step] at moved
    split at moved
    · split at moved <;> cases moved <;> cases publishing
    · cases moved
  | start =>
    simp only [Dispatch.step] at moved
    split at moved <;> cases moved
    cases publishing
  | cancel =>
    simp only [Dispatch.step] at moved
    split at moved
    · obtain ⟨queue,_,rfl⟩ := Option.map_eq_some_iff.mp moved
      cases publishing
    · cases moved

theorem sound_step (sound : Sound x) (moved : x.step models a = some y) : Sound y := by
  obtain ⟨queue,bus⟩ := step_parts moved
  refine ⟨?_,?_,inside_step sound.standing sound.inside moved⟩
  · rcases bus with same | ⟨action,stepped⟩
    · rw [same]
      exact sound.standing
    · exact (step_law sound.standing stepped).1
  · rcases queue with same | ⟨action,stepped⟩
    · rw [same]
      exact sound.ordered
    · exact (queueStep_yields stepped).2 sound.ordered

theorem run_sound (sound : Sound s) (path : run (Dispatch.step models) s actions = some t) : Sound t :=
  run_always (always_of_invariant sound fun _ _ _ => sound_step) path

omit [BEq Handler] in
theorem initial_sound : Sound (Dispatch.initial : Dispatch J τ Handler) :=
  ⟨empty_standing,List.Sublist.refl [],nofun⟩

theorem zip_matched {f : α → γ} {g : β → γ} {xs : List α} {ys : List β} (matched : xs.map f = ys.map g)
    (pair : (a,b) ∈ xs.zip ys) : f a = g b := by
  induction xs generalizing ys with
  | nil => cases pair
  | cons a' xs ih =>
    cases ys with
    | nil => cases pair
    | cons b' ys =>
      obtain ⟨head,tail⟩ := List.cons.inj matched
      rcases List.mem_cons.mp pair with here | there
      · cases here
        exact head
      · exact ih tail there

variable {b : Bus EventClass String Handler} {new : List Nat} {taken : List (WsEnvelope J τ)}

omit [BEq Handler] in
theorem called_wanted (fans : Fans models sub kind new taken b) (there : sub ∈ b.bucket kind)
    (pair : (i,envelope) ∈ new.zip taken) :
    (calledIn b sub i = true → b.wants sub (eventFromEnvelope models envelope).onBus = true) ∧
      (b.ended i → calledIn b sub i = b.wants sub (eventFromEnvelope models envelope).onBus) := by
  have member : i ∈ new := (List.of_mem_zip pair).1
  obtain ⟨p,found⟩ := matched_found fans member
  have same : p.event = (eventFromEnvelope models envelope).onBus := by
    have matched := zip_matched fans.matched pair
    rw [found] at matched
    exact Option.some.inj matched
  have attends := fans.attends there i member p found
  have stands := fans.standing.stands p (List.mem_of_getElem? found)
  have called : calledIn b sub i = true ↔ sub ∈ p.calls := by simp [calledIn,found]
  rw [← same]
  refine ⟨fun reached => attends_called stands attends (called.mp reached),fun ended => ?_⟩
  have finished : p.stage = .finished := by simpa [Bus.ended,found] using ended
  rw [Bool.eq_iff_iff,called]
  exact attends_finished fans.standing.registry there stands attends finished

omit [BEq Handler] in
theorem wanted_zip (size : new.length = taken.length) :
    wanted models b sub taken = ((new.zip taken).filter fun pair => b.wants sub (eventFromEnvelope models pair.2).onBus).map
      fun pair => eventFromEnvelope models pair.2 := by
  have second : (new.zip taken).map Prod.snd = taken := List.map_snd_zip (le_of_eq size.symm)
  unfold wanted
  conv_lhs => rw [← second]
  rw [List.map_map,List.filter_map]
  rfl

omit [BEq Handler] in
theorem heard_ended (fans : Fans models sub kind new taken b) (there : sub ∈ b.bucket kind) (size : new.length = taken.length)
    (done : ∀ i ∈ new, b.ended i) : heard models b sub (new.zip taken) = wanted models b sub taken := by
  rw [wanted_zip size,heard]
  refine congrArg _ (List.filter_congr fun pair member => ?_)
  exact (called_wanted fans there member).2 (done pair.1 (List.of_mem_zip member).1)

omit [BEq Handler] in
theorem heard_owed (fans : Fans models sub kind new taken b) (line : Sequential b phase new) (there : sub ∈ b.bucket kind) :
    ∃ owed, heard models b sub (new.zip taken) ++ owed = wanted models b sub taken ∧ owed.length ≤ 1 ∧
      ((∀ i ∈ new, b.ended i) → owed = []) := by
  have size : new.length = taken.length := by simpa using congrArg List.length fans.matched
  rcases List.eq_nil_or_concat' new with rfl | ⟨front,i,rfl⟩
  · exact ⟨[],by rw [List.append_nil,heard_ended fans there size (by simp)],Nat.zero_le 1,fun _ => rfl⟩
  · rcases List.eq_nil_or_concat' taken with rfl | ⟨before,envelope,rfl⟩
    · simp at size
    · have level : front.length = before.length := by simpa using size
      have zipped : (front ++ [i]).zip (before ++ [envelope]) = front.zip before ++ [(i,envelope)] := List.zip_append level
      have earlier : ∀ pair ∈ front.zip before, calledIn b sub pair.1 = b.wants sub (eventFromEnvelope models pair.2).onBus := by
        intro pair member
        have inside : pair ∈ (front ++ [i]).zip (before ++ [envelope]) := by
          rw [zipped]
          exact List.mem_append_left _ member
        have done := line.earlier pair.1 (by simpa using (List.of_mem_zip member).1)
        exact (called_wanted fans there inside).2 done
      have final : (i,envelope) ∈ (front ++ [i]).zip (before ++ [envelope]) := by
        rw [zipped]
        exact List.mem_concat_self
      obtain ⟨meant,complete⟩ := called_wanted fans there final
      have met : (front.zip before).filter (fun pair => calledIn b sub pair.1) =
          (front.zip before).filter fun pair => b.wants sub (eventFromEnvelope models pair.2).onBus :=
        List.filter_congr earlier
      simp only [wanted_zip size,heard,zipped,List.filter_append,List.map_append,met,List.append_assoc,List.append_cancel_left_eq]
      cases reached : calledIn b sub i with
      | true => exact ⟨[],by simp [reached,meant reached],Nat.zero_le 1,fun _ => rfl⟩
      | false =>
        refine ⟨_,by simp [reached]; rfl,?_,fun done => ?_⟩
        · exact (List.length_map _).trans_le (List.length_filter_le _ _)
        · have same := complete (done i (by simp))
          simp [← same,reached]

structure Hears (models : Models J P) (sub : Nat) (s t : Dispatch J τ Handler) (new : List Nat) (taken : List (WsEnvelope J τ)) :
    Prop where
  dispatched : t.dispatched = s.dispatched ++ new
  yielded : t.queue.yielded = s.queue.yielded ++ taken
  accepted : t.queue.yielded.Sublist t.queue.accepted
  apart : ∀ i ∈ new.dropLast, t.bus.ended i
  awaited : ∀ i, t.phase = .publishing i → ∃ p, t.bus.publishes[i]? = some p ∧ p.Awaits
  heard : ∃ owed, heard models t.bus sub (new.zip taken) ++ owed = wanted models t.bus sub taken ∧ owed.length ≤ 1 ∧
    ((∀ i, t.phase ≠ .publishing i) → t.phase ≠ .cancelled → owed = [])

-- A handler that stays subscribed is called once for every envelope that is for it, in the order of
-- their arrival and never for two at a time; while the loop is in a fan-out, it awaits a handler
-- that this called or goes on.
theorem handlers_hear_pushes (models : Models J P) (before after : List (DispatchAction J τ Handler)) (sub : Nat)
    (kind : EventClass) (start : run (Dispatch.step models) Dispatch.initial before = some s) (there : sub ∈ s.bus.bucket kind)
    (path : run (Dispatch.step models) s after = some t) (still : sub ∈ t.bus.bucket kind) :
    ∃ new taken, Hears models sub s t new taken := by
  have sound := run_sound initial_sound start
  have later := run_sound sound path
  obtain ⟨standing,ordered,_⟩ := sound
  have fans : Fans models sub kind [] ([] : List (WsEnvelope J τ)) s.bus :=
    ⟨standing,bucket_below standing.registry there,rfl,fun _ i member => absurd member List.not_mem_nil⟩
  have line : Sequential s.bus s.phase [] :=
    ⟨fun i member => absurd member List.not_mem_nil,fun i found => (nomatch found),fun _ _ => .inl rfl⟩
  have first : Follows models sub kind s s [] [] :=
    ⟨(List.append_nil _).symm,(List.append_nil _).symm,fans,line,ordered⟩
  obtain ⟨new,taken,follows⟩ := follows_run first path
  rw [List.nil_append,List.nil_append] at follows
  obtain ⟨owed,heard,most,none⟩ := heard_owed follows.fans follows.line still
  refine ⟨new,taken,follows.dispatched,follows.yielded,?_,follows.line.earlier,fun i inside => ?_,owed,heard,most,
    fun free alive => ?_⟩
  · have front : t.queue.yielded.Sublist (t.queue.yielded ++ t.queue.taken.map Prod.snd ++ t.queue.queue) := by
      rw [List.append_assoc]
      exact List.sublist_append_left _ _
    exact front.trans follows.ordered
  · obtain ⟨p,found⟩ := later.inside i inside
    exact ⟨p,found,later.standing.awaits p (List.mem_of_getElem? found)⟩
  · exact none (sequential_done follows.line ⟨free,alive⟩)

-- A created device of the central that the handler subscribed for.
def oneKey : Models Bool Unit := ⟨fun _ valid => if valid then some () else none,fun _ _ => some "ccu"⟩

def created : WsEnvelope Bool Nat := ⟨7,.change,none,"device.created",0,true⟩

def subscribing : List (DispatchAction Bool Nat Nat) := [.bus (.subscribe .deviceCreated (some "ccu") 5)]

def pushing : List (DispatchAction Bool Nat Nat) :=
  [.queue .start,.start,.next,.queue (.arm 1),.queue (.frame created 120),.queue (.take 1),.receive,.bus (.settle 0 .returned),.goOn]

def subscribed : Dispatch Bool Nat Nat := (run (Dispatch.step oneKey) .initial subscribing).getD .initial

def pushed : Dispatch Bool Nat Nat := (run (Dispatch.step oneKey) subscribed pushing).getD .initial

theorem created_heard : ∃ new taken, Hears oneKey 0 subscribed pushed new taken :=
  handlers_hear_pushes oneKey subscribing pushing 0 .deviceCreated rfl (by decide) rfl (by decide)

end Heard

end LoomClient.Events
