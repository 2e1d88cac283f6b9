import LoomClient.Compat.Teardown

namespace LoomClient.Compat.Teardown
open Lib
variable {ε : Type} {x y : Owner ε} {id : Nat} {ids : List Nat} {kind : Kind} {how : Ended ε} {i j : Item} {rest : List Item}

-- The bodies that let an exception out, by `body`.
def Kind.mayFail : Kind → Bool
  | .place .triggeredMotion | .place .degraded | .looper => true
  | _ => false

-- All it answers for but the degraded report and the looper's, which it cancels and leaves, and those
-- of `events()`; and its own handshakes.
def Kind.isAwaited (full : Bool) (kind : Kind) : Bool :=
  match kind with
  | .place .degraded | .looper | .waiter | .getter => false
  | .io => true
  | kind => kind.isOwned full

structure Sane (x : Owner ε) : Prop where
  placed : ∀ k id, x.place k = some id → x.kind? id = some (.place k)
  tracked : ∀ id ∈ x.background, x.kind? id = some .background
  looped : ∀ id ∈ x.looper, x.kind? id = some .looper ∧ x.ended? id = none
  failed : ∀ id e, x.ended? id = some (.failed e) → ∃ kind, x.kind? id = some kind ∧ kind.mayFail

def MotionFine (x : Owner ε) : Prop :=
  ∀ id e, x.place .triggeredMotion = some id → x.ended? id ≠ some (.failed e)

def Kind.isLeft : Kind → Bool
  | .place .degraded | .looper | .waiter | .getter => true
  | _ => false

def Left (x : Owner ε) (id : Nat) : Prop := ∃ kind, x.kind? id = some kind ∧ kind.isLeft

-- Ended, left to itself, awaited now or drained by an item ahead.
def AnsweredFor (x : Owner ε) (ids : List Nat) (rest : List Item) (id : Nat) : Prop :=
  (x.ended? id).isSome ∨ Left x id ∨ id ∈ ids ∨ ∃ i ∈ rest, id ∈ drains x i

def Done (x : Owner ε) : Item → Prop
  | .drain k => x.place k = none
  | .leaveBus => x.refreshGroup = false
  | .cancelLooper | .closeSocket => True
  | .releaseDegraded => x.place .degraded = none
  | .unhook => x.hook = false
  | .drainResync => x.place .resync = none
  | .setClosing => x.closing = true
  | .drainBackground => x.background = [] ∧ x.place .rebootstrap = none
  | .closeStream => (x.streamSession && x.ownsStream) = false
  | .signalStopped => x.streamStopped = true
  | .leaveWire => x.wireGroup = false
  | .closeHttp => x.httpSession = false
  | .setStopped => x.state = .stopped

def Begun (x : Owner ε) (i : Item) : Prop :=
  match i with
  | .drain _ | .drainBackground | .closeStream | .closeHttp => True
  | i => Done x i

def Awaited (x : Owner ε) (id : Nat) : Prop :=
  ∃ task, x.tasks[id]? = some task ∧ task.kind.isAwaited x.full ∧ (task.kind = .io ∨ task.status ≠ .running false)

structure Between (x : Owner ε) (rest : List Item) : Prop where
  sane : Sane x
  fine : ∀ later, rest = .drain .triggeredMotion :: later → MotionFine x
  code : rest <:+ items x.full
  accounted : ∀ id ∈ x.owned, AnsweredFor x [] rest id
  done : ∀ i ∈ items x.full, i ∉ rest → Done x i

structure Within (x : Owner ε) (ids : List Nat) (now : Item) (rest : List Item) : Prop where
  sane : Sane x
  unfailed : ∀ id ∈ ids, ∀ e, x.ended? id ≠ some (.failed e)
  code : (now :: rest) <:+ items x.full
  accounted : ∀ id ∈ x.owned, AnsweredFor x ids rest id
  done : ∀ i ∈ items x.full, i ∉ now :: rest → Done x i
  begun : Begun x now
  awaited : ∀ id ∈ ids, Awaited x id

theorem items_nodup (full : Bool) : (items full).Nodup := by cases full <;> decide

theorem code_nodup (code : (i :: rest) <:+ items full) : i ∉ rest :=
  (List.nodup_cons.mp ((items_nodup full).sublist code.sublist)).1

-- No task of an item that does not drain, so that only four items matter.
theorem drains_cases (member : id ∈ drains x i) :
    (∃ k, i = .drain k ∧ x.place k = some id) ∨ (i = .drainResync ∧ x.place .resync = some id) ∨
      (i = .drainBackground ∧ (id ∈ x.background ∨ x.place .rebootstrap = some id)) := by
  cases i <;> simp_all [drains]

theorem foreign_owned (foreign : kind.ofClient = false) (owned : kind.isOwned full = true) : full = true := by
  cases full
  · simp [Kind.isOwned,foreign] at owned
  · rfl

theorem Later.left (later : Later x y) (left : Left x id) : Left y id := by
  obtain ⟨kind,known,loose⟩ := left
  exact ⟨kind,later.sameKind known,loose⟩

theorem Later.answered (later : Later x y) (ahead : ∀ i ∈ rest, id ∈ drains x i → id ∈ drains y i)
    (held : AnsweredFor x ids rest id) : AnsweredFor y ids rest id := by
  rcases held with ended | left | awaited | ⟨i,member,drained⟩
  · obtain ⟨how,ended⟩ := Option.isSome_iff_exists.mp ended
    exact .inl (by rw [later.ended ended]; rfl)
  · exact .inr (.inl (later.left left))
  · exact .inr (.inr (.inl awaited))
  · exact .inr (.inr (.inr ⟨i,member,ahead i member drained⟩))

theorem Later.awaited (later : Later x y) (same : y.full = x.full) (held : Awaited x id) : Awaited y id := by
  obtain ⟨task,found,kept,started⟩ := held
  obtain ⟨next,reached,sameKind,moved⟩ := later id task found
  refine ⟨next,reached,by rw [sameKind,same]; exact kept,?_⟩
  rw [sameKind]
  refine started.imp_right fun ahead still => ?_
  cases status : task.status with
  | running cancelling =>
    cases cancelling with
    | false => exact ahead status
    | true =>
      rw [status,still] at moved
      simp [Status.Advances] at moved
  | ended how =>
    rw [status,still] at moved
    cases moved

theorem Onward.sane (onward : Onward x y) (sane : Sane x) (place : ∀ k id, y.place k = some id → x.place k = some id)
    (background : ∀ id ∈ y.background, id ∈ x.background) (looper : ∀ id ∈ y.looper, id ∈ x.looper) : Sane y where
  placed k id found := onward.later.sameKind (sane.placed k id (place k id found))
  tracked id member := onward.later.sameKind (sane.tracked id (background id member))
  looped id member := by
    obtain ⟨kind,live⟩ := sane.looped id (looper id member)
    exact ⟨onward.later.sameKind kind,by rw [onward.ended,live]⟩
  failed id e failed := by
    rw [onward.ended] at failed
    obtain ⟨kind,known,fails⟩ := sane.failed id e failed
    exact ⟨kind,onward.later.sameKind known,fails⟩

theorem flags_sane (sane : Sane x) (tasks : y.tasks = x.tasks) (place : y.place = x.place)
    (background : y.background = x.background) (looper : y.looper = x.looper) : Sane y :=
  (onward_of_tasks tasks).sane sane (fun _ _ found => place ▸ found) (fun _ member => background ▸ member)
    (fun _ member => looper ▸ member)

section Items

theorem code_mem (code : (i :: rest) <:+ items full) : i ∈ items full := code.subset (.head _)

theorem code_tail (code : (i :: rest) <:+ items full) : rest <:+ items full := (List.suffix_cons i rest).trans code

theorem drain_awaited (member : .drain k ∈ items full) : (Kind.place k).isAwaited full = true := by
  cases full <;> cases k <;> first | rfl | (revert member; decide)

theorem drain_place (member : .drain k ∈ items full) : k ≠ .resync ∧ k ≠ .rebootstrap ∧ k ≠ .degraded := by
  cases full <;> cases k <;> first | decide | (revert member; decide)

theorem resync_awaited (member : .drainResync ∈ items full) : (Kind.place .resync).isAwaited full = true := by
  cases full
  · revert member
    decide
  · rfl

theorem before_onward (i : Item) (x : Owner ε) : Onward x (beforeAwait i x) := by
  have first : Onward x (if handshakes x i then x.spawn .io else x.cancelAll (drains x i)) := by
    split
    · exact spawn_onward x .io
    · exact cancel_all_onward _ x
  cases i
  case cancelLooper => exact first.trans (cancel_all_onward _ _)
  case releaseDegraded => exact (first.trans (cancel_all_onward _ _)).trans (onward_of_tasks rfl)
  all_goals exact first.trans (onward_of_tasks rfl)

theorem before_frame (i : Item) (x : Owner ε) :
    (beforeAwait i x).owned = x.owned ∧ (beforeAwait i x).full = x.full ∧
      (beforeAwait i x).background = x.background ∧ (beforeAwait i x).looper = x.looper ∧
      ∀ k, (beforeAwait i x).place k =
        if (i = .drainResync ∧ k = .resync) ∨ (i = .releaseDegraded ∧ k = .degraded) then none else x.place k := by
  have io : Kind.io.isOwned x.full = false := by cases h : x.full <;> rfl
  cases i <;> simp only [beforeAwait] <;> split <;>
    simp [Owner.spawn,Owner.cancelAll,Owner.setPlace,io,Function.update_apply]

theorem before_place (held : (beforeAwait i x).place k = some id) : x.place k = some id := by
  rw [(before_frame i x).2.2.2.2 k] at held
  split at held
  · cases held
  · exact held

theorem before_sane (i : Item) (sane : Sane x) : Sane (beforeAwait i x) := by
  obtain ⟨-,-,background,looper,-⟩ := before_frame i x
  exact (before_onward i x).sane sane (fun _ _ => before_place) (fun _ member => background ▸ member)
    (fun _ member => looper ▸ member)

theorem before_done (i : Item) (held : Done x j) : Done (beforeAwait i x) j := by
  obtain ⟨-,-,background,-,place⟩ := before_frame i x
  have emptied : ∀ k, x.place k = none → (beforeAwait i x).place k = none := by
    intro k empty
    rw [place,empty]
    split <;> rfl
  cases j
  case drain k => exact emptied k held
  case releaseDegraded => exact emptied .degraded held
  case drainResync => exact emptied .resync held
  case drainBackground => exact ⟨background.trans held.1,emptied .rebootstrap held.2⟩
  all_goals
    simp only [Done] at held ⊢
    try (cases i <;> simp only [beforeAwait] <;> split <;> exact held)

theorem before_begun (i : Item) (x : Owner ε) : Begun (beforeAwait i x) i := by
  cases i <;> simp [Begun,Done,beforeAwait,Owner.setPlace]

theorem handshake_drains (shakes : handshakes x i = true) : drains x i = [] := by
  cases i <;> first | rfl | cases shakes

theorem handshake_awaits (drained : id ∈ drains x i) : id ∈ awaits i x := by
  unfold awaits
  split
  · rename_i shakes
    rw [handshake_drains shakes] at drained
    cases drained
  · exact drained

theorem before_drains (member : j ∈ items full) (other : j ≠ i) (drained : id ∈ drains x j) :
    id ∈ drains (beforeAwait i x) j := by
  obtain ⟨-,-,background,-,place⟩ := before_frame i x
  rcases drains_cases drained with ⟨k,rfl,held⟩ | ⟨rfl,held⟩ | ⟨rfl,held⟩
  · obtain ⟨notResync,-,notDegraded⟩ := drain_place member
    simp [drains,place,notResync,notDegraded,held]
  · simp [drains,place,Ne.symm other,held]
  · simpa [drains,background,place] using held

theorem drains_awaited (sane : Sane x) (member : i ∈ items x.full) (drained : id ∈ drains x i) :
    ∃ kind, x.kind? id = some kind ∧ kind.isAwaited x.full = true := by
  rcases drains_cases drained with ⟨k,rfl,held⟩ | ⟨rfl,held⟩ | ⟨rfl,held | held⟩
  · exact ⟨_,sane.placed k id held,drain_awaited member⟩
  · exact ⟨_,sane.placed .resync id held,resync_awaited member⟩
  · exact ⟨_,sane.tracked id held,by cases x.full <;> rfl⟩
  · exact ⟨_,sane.placed .rebootstrap id held,by cases x.full <;> rfl⟩

theorem before_awaited (sane : Sane x) (member : i ∈ items x.full) (waits : id ∈ awaits i x) :
    Awaited (beforeAwait i x) id := by
  have full := (before_frame i x).2.1
  unfold awaits at waits
  split at waits
  · rename_i shakes
    rw [List.mem_singleton.mp waits]
    have started : (x.spawn .io).tasks[x.tasks.length]? = some ⟨.io,.running false⟩ := by simp [Owner.spawn]
    refine ⟨⟨.io,.running false⟩,?_,by rw [full]; cases x.full <;> rfl,.inl rfl⟩
    cases i <;> first | cases shakes | simpa [beforeAwait,shakes] using started
  · rename_i quiet
    obtain ⟨kind,known,awaited⟩ := drains_awaited sane member waits
    obtain ⟨task,found,rfl⟩ := Option.map_eq_some_iff.mp ((cancel_all_onward (drains x i) x).later.sameKind known)
    refine ⟨task,?_,by rw [full]; exact awaited,.inr (cancel_all_cancelled waits task found)⟩
    rcases drains_cases waits with ⟨k,rfl,-⟩ | ⟨rfl,-⟩ | ⟨rfl,-⟩ <;> simpa [beforeAwait,handshakes,Owner.setPlace] using found

theorem awaited_fails (awaited : Kind.isAwaited full kind = true) (fails : kind.mayFail = true) :
    kind = .place .triggeredMotion := by
  cases kind with
  | place k =>
    cases k <;> first | rfl | (cases fails; done) | cases awaited
  | looper | waiter | getter => cases awaited
  | background | io => cases fails

-- Of the tasks an item drains only the re-read can have failed.
theorem drains_unfailed (start : Between x (i :: rest)) (drained : id ∈ drains x i) : x.ended? id ≠ some (.failed e) := by
  intro failed
  obtain ⟨kind,known,awaited⟩ := drains_awaited start.sane (code_mem start.code) drained
  obtain ⟨same,sure,fails⟩ := start.sane.failed id e failed
  rw [known] at sure
  cases sure
  have motion := awaited_fails awaited fails
  rw [motion] at known
  rcases drains_cases drained with ⟨k,rfl,held⟩ | ⟨rfl,held⟩ | ⟨rfl,held | held⟩
  · rw [start.sane.placed k id held] at known
    cases known
    exact start.fine rest rfl id e held failed
  · rw [start.sane.placed .resync id held] at known
    cases known
  · rw [start.sane.tracked id held] at known
    cases known
  · rw [start.sane.placed .rebootstrap id held] at known
    cases known

theorem before_unfailed (start : Between x (i :: rest)) (waits : id ∈ awaits i x) :
    (beforeAwait i x).ended? id ≠ some (.failed e) := by
  rw [(before_onward i x).ended]
  unfold awaits at waits
  split at waits
  · rw [List.mem_singleton.mp waits]
    simp [Owner.ended?]
  · exact drains_unfailed start waits

theorem before_within (start : Between x (i :: rest)) : Within (beforeAwait i x) (awaits i x) i rest := by
  obtain ⟨owned,full,-⟩ := before_frame i x
  have onward := before_onward i x
  have fresh := code_nodup start.code
  constructor
  case sane => exact before_sane i start.sane
  case unfailed => exact fun id waits e => before_unfailed start waits
  case code => rw [full]; exact start.code
  case accounted =>
    intro id member
    rw [owned] at member
    have now : AnsweredFor x (awaits i x) rest id := by
      rcases start.accounted id member with ended | left | awaited | ⟨j,ahead,drained⟩
      · exact .inl ended
      · exact .inr (.inl left)
      · cases awaited
      · rcases List.mem_cons.mp ahead with rfl | later
        · exact .inr (.inr (.inl (handshake_awaits drained)))
        · exact .inr (.inr (.inr ⟨j,later,drained⟩))
    refine onward.later.answered ?_ now
    intro j later drained
    exact before_drains ((code_tail start.code).subset later) (fun same => fresh (same ▸ later)) drained
  case done =>
    rw [full]
    exact fun j member other => before_done i (start.done j member other)
  case begun => exact before_begun i x
  case awaited => exact fun id waits => before_awaited start.sane (code_mem start.code) waits

theorem after_frame (i : Item) (x : Owner ε) :
    (afterAwait i x).owned = x.owned ∧ (afterAwait i x).full = x.full ∧ (afterAwait i x).tasks = x.tasks := by
  cases i <;> exact ⟨rfl,rfl,rfl⟩

theorem after_place (held : (afterAwait i x).place k = some id) : x.place k = some id := by
  cases i <;> simp only [afterAwait,Owner.setPlace,Function.update_apply] at held <;>
    first | exact held | (split at held <;> first | cases held | exact held)

theorem after_background (member : id ∈ (afterAwait i x).background) : id ∈ x.background := by
  cases i <;> first | exact member | cases member

theorem after_looper (i : Item) (x : Owner ε) : (afterAwait i x).looper = x.looper := by
  cases i <;> rfl

theorem after_sane (i : Item) (sane : Sane x) : Sane (afterAwait i x) :=
  (onward_of_tasks (after_frame i x).2.2).sane sane (fun _ _ => after_place) (fun _ => after_background)
    (fun _ member => after_looper i x ▸ member)

theorem after_done (i : Item) (held : Done x j) : Done (afterAwait i x) j := by
  have emptied : ∀ k, x.place k = none → (afterAwait i x).place k = none := by
    intro k empty
    cases i <;> simp [afterAwait,Owner.setPlace,Function.update_apply,empty]
  cases j
  case drain k => exact emptied k held
  case releaseDegraded => exact emptied .degraded held
  case drainResync => exact emptied .resync held
  case drainBackground =>
    refine ⟨?_,emptied .rebootstrap held.2⟩
    cases i <;> first | exact held.1 | rfl
  all_goals
    cases i <;> simp_all [Done,afterAwait,Owner.setPlace]

theorem after_own (begun : Begun x i) : Done (afterAwait i x) i := by
  cases i <;> simp_all [Begun,Done,afterAwait,Owner.setPlace]

theorem after_drains (member : j ∈ items full) (here : i ∈ items full) (other : j ≠ i) (drained : id ∈ drains x j) :
    id ∈ drains (afterAwait i x) j := by
  rcases drains_cases drained with ⟨k,rfl,held⟩ | ⟨rfl,held⟩ | ⟨rfl,held⟩
  · obtain ⟨-,notRebootstrap,-⟩ := drain_place member
    cases i
    case drain k' =>
      have apart : k ≠ k' := fun same => other (by rw [same])
      simp [drains,afterAwait,Owner.setPlace,apart,held]
    all_goals simp [drains,afterAwait,Owner.setPlace,notRebootstrap,held]
  · cases i
    case drain k' =>
      have apart : .resync ≠ k' := fun same => (drain_place here).1 same.symm
      simp [drains,afterAwait,Owner.setPlace,apart,held]
    all_goals simp [drains,afterAwait,Owner.setPlace,held]
  · cases i
    case drain k' =>
      have apart : .rebootstrap ≠ k' := fun same => (drain_place here).2.1 same.symm
      simpa [drains,afterAwait,Owner.setPlace,apart] using held
    case drainBackground => exact absurd rfl other
    all_goals simpa [drains,afterAwait,Owner.setPlace,Function.update_apply] using held

theorem after_between (ran : Within x [] i rest) (fine : ∀ later, rest = .drain .triggeredMotion :: later → MotionFine x) :
    Between (afterAwait i x) rest := by
  obtain ⟨owned,full,tasks⟩ := after_frame i x
  have onward : Onward x (afterAwait i x) := onward_of_tasks tasks
  have fresh := code_nodup ran.code
  constructor
  case sane => exact after_sane i ran.sane
  case fine =>
    intro later next id e held
    rw [onward.ended]
    exact fine later next id e (after_place held)
  case code => rw [full]; exact code_tail ran.code
  case accounted =>
    intro id member
    rw [owned] at member
    refine onward.later.answered ?_ (ran.accounted id member)
    intro j later drained
    exact after_drains ((code_tail ran.code).subset later) (code_mem ran.code) (fun same => fresh (same ▸ later)) drained
  case done =>
    rw [full]
    intro j member passed
    by_cases here : j = i
    · rw [here]
      exact after_own ran.begun
    · exact after_done i (ran.done j member (by simp [here,passed]))

theorem ended_within (ran : Within x (id :: ids) i rest) (ended : (x.ended? id).isSome) : Within x ids i rest where
  sane := ran.sane
  unfailed other member := ran.unfailed other (.tail _ member)
  code := ran.code
  accounted other member := by
    rcases ran.accounted other member with done | left | awaited | ahead
    · exact .inl done
    · exact .inr (.inl left)
    · rcases List.mem_cons.mp awaited with rfl | later
      · exact .inl ended
      · exact .inr (.inr (.inl later))
    · exact .inr (.inr (.inr ahead))
  done := ran.done
  begun := ran.begun
  awaited other member := ran.awaited other (.tail _ member)

theorem before_fine (fine : MotionFine x) (i : Item) : MotionFine (beforeAwait i x) := by
  intro id e held
  rw [(before_onward i x).ended]
  exact fine id e (before_place held)

theorem after_fine (fine : MotionFine x) (i : Item) : MotionFine (afterAwait i x) := by
  have onward : Onward x (afterAwait i x) := onward_of_tasks (after_frame i x).2.2
  intro id e held
  rw [onward.ended]
  exact fine id e (after_place held)

theorem within_endures : (teardown : Procedure (Owner ε) Item ε).Endures Within where
  ended _ _ _ _ _ ran ended := ended_within ran ended
  unfailed _ id _ _ _ e ran := ran.unfailed id (.head _) e

theorem teardown_keeps : (teardown : Procedure (Owner ε) Item ε).Keeps
    (fun x rest => Between x rest ∧ (.drain .triggeredMotion ∈ rest → MotionFine x))
    (fun x ids i rest => Within x ids i rest ∧ (.drain .triggeredMotion ∈ rest → MotionFine x)) where
  ended _ _ _ _ _ ran ended := ⟨ended_within ran.1 ended,ran.2⟩
  unfailed _ id _ _ _ e ran := ran.1.unfailed id (.head _) e
  before _ i _ start := ⟨before_within start.1,fun ahead => before_fine (start.2 (.tail _ ahead)) i⟩
  after _ i _ ran := ⟨after_between ran.1 fun _ next => ran.2 (next ▸ .head _),fun ahead => after_fine (ran.2 ahead) i⟩

end Items

section Incidents

def drainer : Place → Item
  | .degraded => .releaseDegraded
  | .resync => .drainResync
  | .rebootstrap => .drainBackground
  | k => .drain k

theorem Within.moved (ran : Within x ids i rest) (later : Later x y) (sane : Sane y)
    (unfailed : ∀ id ∈ ids, ∀ e, y.ended? id ≠ some (.failed e)) (full : y.full = x.full)
    (accounted : ∀ id ∈ y.owned, AnsweredFor y ids rest id)
    (done : ∀ j ∈ items x.full, j ∉ rest → Done x j → Done y j) : Within y ids i rest where
  sane := sane
  unfailed := unfailed
  code := by rw [full]; exact ran.code
  accounted := accounted
  done := by
    rw [full]
    exact fun j member passed =>
      done j member (fun ahead => passed (.tail _ ahead)) (ran.done j member passed)
  begun := by
    have here := done i (code_mem ran.code) (code_nodup ran.code)
    have begun := ran.begun
    cases i <;> first | exact here begun | trivial
  awaited id member := later.awaited full (ran.awaited id member)

theorem Within.still (ran : Within x ids i rest) (onward : Onward x y) :
    ∀ id ∈ ids, ∀ e, y.ended? id ≠ some (.failed e) := by
  intro id member e
  rw [onward.ended]
  exact ran.unfailed id member e

theorem start_onward (x : Owner ε) (k : Place) : Onward x (x.startAt k) :=
  (spawn_onward x (.place k)).trans (onward_of_tasks rfl)

theorem start_place (x : Owner ε) (k q : Place) :
    (x.startAt k).place q = if q = k then some x.tasks.length else x.place q := by
  simp [Owner.startAt,Owner.setPlace,Owner.spawn,Function.update_apply]

theorem spawn_sane (sane : Sane x) (kind : Kind) : Sane (x.spawn kind) :=
  (spawn_onward x kind).sane sane (fun _ _ found => found) (fun _ member => member) (fun _ member => member)

theorem start_sane (sane : Sane x) (k : Place) : Sane (x.startAt k) := by
  obtain ⟨placed,tracked,looped,failed⟩ := spawn_sane sane (.place k)
  refine ⟨?_,tracked,looped,failed⟩
  intro q id found
  rw [start_place] at found
  split at found
  · rename_i here
    cases found
    rw [here]
    exact spawn_kind x (.place k)
  · exact placed q id found

theorem start_drains (drained : id ∈ drains x j) (apart : x.place k ≠ some id) : id ∈ drains (x.startAt k) j := by
  have kept : ∀ q, x.place q = some id → (x.startAt k).place q = some id := by
    intro q found
    rw [start_place,if_neg (fun same : q = k => apart (by rw [← same]; exact found)),found]
  rcases drains_cases drained with ⟨q,rfl,found⟩ | ⟨rfl,found⟩ | ⟨rfl,found | found⟩
  · simp [drains,kept q found]
  · simp [drains,kept .resync found]
  · exact List.mem_append_left _ found
  · exact List.mem_append_right _ (by simp [kept .rebootstrap found])

theorem start_done (member : j ∈ items full) (apart : j ≠ drainer k) (held : Done x j) : Done (x.startAt k) j := by
  cases j
  case drain q =>
    have other : q ≠ k := by
      rintro rfl
      obtain ⟨notResync,notRebootstrap,notDegraded⟩ := drain_place member
      cases q <;> first | exact apart rfl | contradiction
    simpa only [Done,start_place,if_neg other] using held
  case releaseDegraded =>
    have other : .degraded ≠ k := by rintro rfl; exact apart rfl
    simpa only [Done,start_place,if_neg other] using held
  case drainResync =>
    have other : .resync ≠ k := by rintro rfl; exact apart rfl
    simpa only [Done,start_place,if_neg other] using held
  case drainBackground =>
    have other : .rebootstrap ≠ k := by rintro rfl; exact apart rfl
    exact ⟨held.1,by simpa only [start_place,if_neg other] using held.2⟩
  all_goals exact held

theorem start_within (ran : Within x ids i rest) (gone : x.liveAt k = false)
    (room : drainer k ∈ rest ∨ (x.full = false ∧ drainer k ∉ closeItems ∧ (Kind.place k).isOwned false = false)) :
    Within (x.startAt k) ids i rest := by
  have onward := start_onward x k
  have apart : ∀ j ∈ items x.full, j ∉ rest → j ≠ drainer k := by
    rintro j member passed rfl
    rcases room with ahead | ⟨whole,foreign,-⟩
    · exact passed ahead
    · rw [whole] at member
      exact foreign member
  refine ran.moved onward.later (start_sane ran.sane k) (ran.still onward)
    rfl ?_ (fun j member passed => start_done member (apart j member passed))
  intro id member
  have old : id ∈ x.owned → AnsweredFor (x.startAt k) ids rest id := by
    intro owned
    by_cases here : x.place k = some id
    · have ended : (x.ended? id).isSome := by simpa [Owner.liveAt,here] using gone
      exact .inl (by rw [onward.ended]; exact ended)
    · rcases ran.accounted id owned with ended | left | awaited | ⟨j,ahead,drained⟩
      · exact .inl (by rw [onward.ended]; exact ended)
      · exact .inr (.inl (onward.later.left left))
      · exact .inr (.inr (.inl awaited))
      · exact .inr (.inr (.inr ⟨j,ahead,start_drains drained here⟩))
  have owned : id ∈ if x.isWaiting && (Kind.place k).isOwned x.full then x.owned ++ [x.tasks.length] else x.owned := member
  split at owned
  · rename_i counted
    rcases List.mem_append.mp owned with before | new
    · exact old before
    · rw [List.mem_singleton.mp new]
      rcases room with ahead | ⟨whole,-,foreign⟩
      · by_cases lost : k = .degraded
        · exact .inr (.inl ⟨_,spawn_kind x _,by rw [lost]; rfl⟩)
        · refine .inr (.inr (.inr ⟨drainer k,ahead,?_⟩))
          cases k <;> first | exact absurd rfl lost | simp [drainer,drains,start_place]
      · rw [whole,foreign,Bool.and_false] at counted
        cases counted
  · exact old owned

theorem flags_within (ran : Within x ids i rest) (tasks : y.tasks = x.tasks) (place : y.place = x.place)
    (background : y.background = x.background) (looper : y.looper = x.looper) (owned : y.owned = x.owned)
    (full : y.full = x.full) (done : ∀ j, Done x j → Done y j) : Within y ids i rest := by
  have onward : Onward x y := onward_of_tasks tasks
  refine ran.moved onward.later (flags_sane ran.sane tasks place background looper) (ran.still onward) full ?_
    (fun j _ _ => done j)
  rw [owned]
  intro id member
  refine onward.later.answered ?_ (ran.accounted id member)
  intro j _ drained
  cases j <;> simpa only [drains,place,background] using drained

theorem spawn_within (ran : Within x ids i rest) (kind : Kind) (tasks : y.tasks = (x.spawn kind).tasks)
    (sane : Sane y) (place : y.place = x.place) (background : ∀ id ∈ x.background, id ∈ y.background)
    (owned : y.owned = (x.spawn kind).owned) (full : y.full = x.full)
    (fresh : (x.isWaiting && kind.isOwned x.full) = true → AnsweredFor y ids rest x.tasks.length)
    (done : ∀ j ∈ items x.full, j ∉ rest → Done x j → Done y j) : Within y ids i rest := by
  have onward : Onward x y := (spawn_onward x kind).trans (onward_of_tasks tasks)
  refine ran.moved onward.later sane (ran.still onward) full ?_ done
  intro id member
  have old : id ∈ x.owned → AnsweredFor y ids rest id := by
    intro before
    refine onward.later.answered ?_ (ran.accounted id before)
    intro j _ drained
    rcases drains_cases drained with ⟨q,rfl,found⟩ | ⟨rfl,found⟩ | ⟨rfl,found | found⟩
    · simp [drains,place,found]
    · simp [drains,place,found]
    · exact List.mem_append_left _ (background id found)
    · exact List.mem_append_right _ (by simp [place,found])
  rw [owned] at member
  simp only [Owner.spawn] at member
  split at member
  · rename_i counted
    rcases List.mem_append.mp member with before | new
    · exact old before
    · rw [List.mem_singleton.mp new]
      exact fresh counted
  · exact old member

theorem background_sane (sane : Sane x) : Sane (spawnBackground x) := by
  obtain ⟨placed,tracked,looped,failed⟩ := spawn_sane sane .background
  refine ⟨placed,?_,looped,failed⟩
  intro id member
  rcases List.mem_append.mp member with old | new
  · exact tracked id old
  · rw [List.mem_singleton.mp new]
    exact spawn_kind x .background

theorem schedule_sane (sane : Sane x) :
    Sane {x.spawn .looper with looper := x.looper ++ [x.tasks.length]} := by
  obtain ⟨placed,tracked,looped,failed⟩ := spawn_sane sane .looper
  refine ⟨placed,tracked,?_,failed⟩
  intro id member
  rcases List.mem_append.mp member with old | new
  · exact looped id old
  · rw [List.mem_singleton.mp new]
    exact ⟨spawn_kind x .looper,by rw [Owner.ended?]; simp [Owner.spawn]⟩

theorem background_within (ran : Within x ids i rest) (ahead : .drainBackground ∈ rest) :
    Within (spawnBackground x) ids i rest := by
  refine spawn_within ran .background rfl (background_sane ran.sane) rfl (fun id => List.mem_append_left _) rfl rfl ?_ ?_
  · intro counted
    exact .inr (.inr (.inr ⟨_,ahead,List.mem_append_left _ (List.mem_append_right _ (.head _))⟩))
  · intro j _ passed held
    cases j
    case drainBackground => exact absurd ahead passed
    all_goals exact held

theorem schedule_within (ran : Within x ids i rest) :
    Within {x.spawn .looper with looper := x.looper ++ [x.tasks.length]} ids i rest := by
  refine spawn_within ran .looper rfl (schedule_sane ran.sane) rfl (fun id member => member) rfl rfl ?_
    (fun j _ _ held => by cases j <;> exact held)
  exact fun _ => .inr (.inl ⟨_,spawn_kind x .looper,rfl⟩)

theorem clear_place (x : Owner ε) (k q : Place) :
    (x.setPlace k none).place q = if q = k then none else x.place q := by
  simp [Owner.setPlace,Function.update_apply]

theorem clear_sane (sane : Sane x) (k : Place) : Sane (x.setPlace k none) := by
  have onward : Onward x (x.setPlace k none) := onward_of_tasks rfl
  refine onward.sane sane ?_ (fun _ member => member) (fun _ member => member)
  intro q id found
  rw [clear_place] at found
  split at found
  · cases found
  · exact found

theorem clear_done (held : Done x j) : Done (x.setPlace k none) j := by
  cases j <;> simp_all [Done,Owner.setPlace,Function.update_apply]

theorem clear_within (ran : Within x ids i rest) (k : Place)
    (free : k = .degraded ∨ ∀ id, x.place k = some id → (x.ended? id).isSome ∨ (x.full = false ∧ drainer k ∉ closeItems)) :
    Within (x.setPlace k none) ids i rest := by
  have onward : Onward x (x.setPlace k none) := onward_of_tasks rfl
  refine ran.moved onward.later (clear_sane ran.sane k) (ran.still onward) rfl ?_
    (fun j _ _ => clear_done)
  intro id member
  have kept : ∀ q, q ≠ k → x.place q = some id → (x.setPlace k none).place q = some id := by
    intro q other found
    rw [clear_place,if_neg other,found]
  rcases ran.accounted id member with ended | left | awaited | ⟨j,ahead,drained⟩
  · exact .inl ended
  · exact .inr (.inl left)
  · exact .inr (.inr (.inl awaited))
  · have coded : j ∈ items x.full := (code_tail ran.code).subset ahead
    by_cases here : x.place k = some id ∧ j = drainer k
    · rcases free with rfl | gone
      · rw [here.2] at drained
        cases drained
      · rcases gone id here.1 with ended | ⟨whole,foreign⟩
        · exact .inl ended
        · rw [here.2,whole] at coded
          exact absurd coded foreign
    · refine .inr (.inr (.inr ⟨j,ahead,?_⟩))
      rcases drains_cases drained with ⟨q,rfl,found⟩ | ⟨rfl,found⟩ | ⟨rfl,found | found⟩
      · have other : q ≠ k := by
          rintro rfl
          obtain ⟨notResync,notRebootstrap,notDegraded⟩ := drain_place coded
          exact here ⟨found,by cases q <;> first | rfl | contradiction⟩
        simp [drains,kept q other found]
      · have other : .resync ≠ k := by rintro rfl; exact here ⟨found,rfl⟩
        simp [drains,kept .resync other found]
      · exact List.mem_append_left _ found
      · have other : .rebootstrap ≠ k := by rintro rfl; exact here ⟨found,rfl⟩
        exact List.mem_append_right _ (by simp [kept .rebootstrap other found])

theorem cancel_sane (sane : Sane x) (ids : List Nat) : Sane (x.cancelAll ids) :=
  (cancel_all_onward ids x).sane sane (fun _ _ found => found) (fun _ member => member) (fun _ member => member)

theorem cancel_within (ran : Within x ids i rest) (cancelled : List Nat) : Within (x.cancelAll cancelled) ids i rest := by
  have onward := cancel_all_onward cancelled x
  refine ran.moved onward.later (cancel_sane ran.sane cancelled)
    (ran.still onward) rfl ?_ (fun j _ _ held => by cases j <;> exact held)
  intro id member
  exact onward.later.answered (fun j _ drained => by cases j <;> exact drained) (ran.accounted id member)

theorem end_sane (sane : Sane x) (found : x.tasks[id]? = some ⟨kind,.running cancelling⟩)
    (fails : ∀ e, how = .failed e → kind.mayFail = true) : Sane (endTask x id how) := by
  have later := end_task_later found how
  refine ⟨fun k other held => later.sameKind (sane.placed k other held),?_,?_,?_⟩
  · exact fun other member => later.sameKind (sane.tracked other (List.mem_of_mem_filter member))
  · intro other member
    obtain ⟨listed,apart⟩ := List.mem_filter.mp member
    obtain ⟨known,live⟩ := sane.looped other listed
    refine ⟨later.sameKind known,?_⟩
    rw [end_task_ended found,if_neg (by simpa using apart),live]
  · intro other e failed
    rw [end_task_ended found] at failed
    split at failed
    · rename_i here
      have known : x.kind? id = some kind := by simp [Owner.kind?,found]
      exact ⟨kind,here ▸ later.sameKind known,fails e (Option.some.inj failed)⟩
    · obtain ⟨k,known,loose⟩ := sane.failed other e failed
      exact ⟨k,later.sameKind known,loose⟩

theorem end_within (ran : Within x ids i rest) (found : x.tasks[id]? = some ⟨kind,.running cancelling⟩)
    (fails : ∀ e, how = .failed e → kind.mayFail = true)
    (steady : id ∈ ids → ∀ e, how ≠ .failed e) :
    Within (endTask x id how) ids i rest := by
  have later := end_task_later found how
  refine ran.moved later (end_sane ran.sane found fails)
    ?_ rfl ?_ ?_
  · intro other member e failed
    rw [end_task_ended found] at failed
    split at failed
    · rename_i here
      exact steady (here ▸ member) e (Option.some.inj failed)
    · exact ran.unfailed other member e failed
  · intro other member
    by_cases here : other = id
    · exact .inl (by rw [end_task_ended found,if_pos here]; rfl)
    · refine later.answered ?_ (ran.accounted other member)
      intro j _ drained
      rcases drains_cases drained with ⟨q,rfl,found⟩ | ⟨rfl,found⟩ | ⟨rfl,found | found⟩
      · simp [drains,endTask,found]
      · simp [drains,endTask,found]
      · exact List.mem_append_left _ (List.mem_filter.mpr ⟨found,by simpa using here⟩)
      · exact List.mem_append_right _ (by simp [endTask,found])
  · intro j _ _ held
    cases j
    case drainBackground => exact ⟨by simp [endTask,held.1],held.2⟩
    case setStopped =>
      have stopped : x.state = .stopped := held
      simp only [Done,endTask]
      split
      · simp [stopped,CentralState.terminal]
      · exact stopped
    all_goals exact held

theorem body_fails (ended : body kind c = some (.failed e)) :
    kind.mayFail = true ∧ (kind = .place .triggeredMotion → c = .raised false e) := by
  cases c with
  | returned =>
    cases kind with
    | place k => cases k <;> cases ended
    | _ => cases ended
  | raised loom err =>
    cases kind with
    | place k => cases k <;> cases loom <;> cases ended <;> simp [Kind.mayFail]
    | looper => simp [Kind.mayFail]
    | _ => cases ended

end Incidents

def aheadOf (x : Owner ε) : List Item :=
  match x.call with
  | .waiting _ _ rest => rest
  | _ => []

def Room (x : Owner ε) (k : Place) : Prop :=
  x.isWaiting = true → x.full = true → x.liveAt k = true ∨ drainer k ∈ aheadOf x

def awaitedNow (x : Owner ε) : List Nat :=
  match x.call with
  | .waiting ids _ _ => ids
  | _ => []

-- No event starts a task in a place that `stop()` has passed, and the re-read lets nothing but the
-- client's own exceptions out.
def Calm (x : Owner ε) : OwnerAction ε → Prop
  | .complete id (.raised false _) => id ∈ awaitedNow x → x.kind? id ≠ some (.place .triggeredMotion)
  | .latch => Room x .triggeredMotion
  | .featuresChanged => Room x .featuresRefresh
  | .decline => Room x .resync
  | .resyncDue | .resyncDropped => x.isWaiting = true → x.full = true → x.liveAt .resync = false
  | _ => True

def OwnerAction.isTeardown : OwnerAction ε → Bool
  | .stop | .close | .wake => true
  | _ => false

def Standing (x : Owner ε) : Prop :=
  match x.call with
  | .waiting ids i rest => Within x ids i rest
  | .raised _ => False
  | _ => True

section Steps
variable {a : OwnerAction ε}

theorem background_ahead (code : rest <:+ items full) (ahead : .setClosing ∈ rest) : .drainBackground ∈ rest := by
  have every : ∀ c ∈ (items full).tails, .setClosing ∈ c → .drainBackground ∈ c := by cases full <;> decide
  exact every rest ((List.mem_tails _ _).mpr code) ahead

theorem degraded_ahead (code : rest <:+ items full) (ahead : .leaveBus ∈ rest) : .releaseDegraded ∈ rest := by
  have every : ∀ c ∈ (items full).tails, .leaveBus ∈ c → .releaseDegraded ∈ c := by cases full <;> decide
  exact every rest ((List.mem_tails _ _).mpr code) ahead

theorem open_ahead (ran : Within x ids i rest) (opened : x.closing = false) : .drainBackground ∈ rest := by
  have passed : ¬Done x .setClosing := by simp [Done,opened]
  refine background_ahead (code_tail ran.code) (Classical.byContradiction fun gone => passed ?_)
  by_cases now : i = .setClosing
  · have begun := ran.begun
    rw [now] at begun
    exact begun
  · exact ran.done _ (by cases x.full <;> decide) (by simp [Ne.symm now,gone])

theorem bus_ahead (ran : Within x ids i rest) (whole : x.full = true) (group : x.refreshGroup = true) :
    .releaseDegraded ∈ rest := by
  have passed : ¬Done x .leaveBus := by simp [Done,group]
  refine degraded_ahead (code_tail ran.code) (Classical.byContradiction fun gone => passed ?_)
  by_cases now : i = .leaveBus
  · have begun := ran.begun
    rw [now] at begun
    exact begun
  · exact ran.done _ (by rw [whole]; decide) (by simp [Ne.symm now,gone])

theorem waiting_of (waits : x.call = .waiting ids i rest) : x.isWaiting = true := by
  simp [Owner.isWaiting,waits]

theorem start_unless_within (ran : Within x ids i rest) (k : Place)
    (room : x.liveAt k = true ∨ drainer k ∈ rest ∨
      (x.full = false ∧ drainer k ∉ closeItems ∧ (Kind.place k).isOwned false = false)) :
    Within (startUnlessLive x k) ids i rest := by
  unfold startUnlessLive
  split
  · exact ran
  · rename_i gone
    have dead : x.liveAt k = false := by simpa using gone
    refine start_within ran dead (room.resolve_left ?_)
    rw [dead]
    exact Bool.false_ne_true

theorem room_within (waits : x.call = .waiting ids i rest) (ran : Within x ids i rest) (k : Place)
    (calm : x.full = true → Room x k) (foreign : drainer k ∉ closeItems ∧ (Kind.place k).isOwned false = false) :
    Within (startUnlessLive x k) ids i rest := by
  refine start_unless_within ran k ?_
  cases whole : x.full with
  | false => exact .inr (.inr ⟨rfl,foreign⟩)
  | true =>
    have ahead := calm whole (waiting_of waits) whole
    simp only [aheadOf,waits] at ahead
    exact ahead.imp_right .inl

theorem connection_within (ran : Within x ids i rest) (group : x.refreshGroup = true) (connected : Bool) :
    Within (onConnectionState x connected) ids i rest := by
  unfold onConnectionState
  split
  · exact ran
  · rename_i lasting
    have moved : ∀ y : Owner ε, Within y ids i rest → y.state = x.state → y.full = x.full → y.liveAt .degraded = false →
        Within (if connected then {y with state := .running} else y.startAt .degraded) ids i rest := by
      intro y within state full gone
      split
      · refine flags_within within rfl rfl rfl rfl rfl rfl ?_
        intro j held
        cases j
        case setStopped =>
          have stopped : y.state = .stopped := held
          rw [state] at stopped
          exact absurd (by rw [stopped]; rfl) lasting
        all_goals exact held
      · refine start_within within gone ?_
        cases whole : x.full with
        | false => exact .inr ⟨by rw [full,whole],by decide,rfl⟩
        | true => exact .inl (bus_ahead ran whole group)
    split
    · refine moved _ (clear_within (cancel_within ran _) .degraded (.inl rfl)) rfl rfl ?_
      simp [Owner.liveAt,Owner.setPlace]
    · rename_i gone
      exact moved x ran rfl rfl (by simpa using gone)

theorem pump_keeps_within (ids : List Nat) (i : Item) (rest : List Item) :
    PumpKeeps fun x : Owner ε => Within x ids i rest where
  spawn x kind which ran := by
    refine spawn_within ran kind rfl (spawn_sane ran.sane kind) rfl (fun _ member => member) rfl rfl ?_
      (fun j _ _ held => by cases j <;> exact held)
    exact fun _ => .inr (.inl ⟨kind,spawn_kind x kind,by obtain rfl | rfl := which <;> rfl⟩)
  cancel _ cancelled ran := cancel_within ran cancelled
  flags _ _ _ _ ran := flags_within ran rfl rfl rfl rfl rfl rfl fun j held => by cases j <;> exact held
  ends _ _ _ _ _ found well ran := end_within ran found (fun e failed => absurd failed (well e)) fun _ => well

theorem refused_cases (sane : Sane x) (moved : ownerStep x .refused = some y) : ∃ id kind cancelling,
    x.tasks[id]? = some ⟨kind,.running cancelling⟩ ∧ y = {endTask x id .finished with streamStopped := true} := by
  simp only [ownerStep] at moved
  split at moved
  · rename_i id there
    simp only [Option.ite_none_right_eq_some,Option.some.injEq] at moved
    obtain ⟨live,rfl⟩ := moved
    obtain ⟨⟨kind,status⟩,found,-⟩ := Option.map_eq_some_iff.mp (sane.placed .reader id there)
    have going : x.ended? id = none := by simpa [Owner.liveAt,there] using live
    cases status with
    | running cancelling => exact ⟨id,kind,cancelling,found,rfl⟩
    | ended how =>
      rw [ended_iff.mpr ⟨kind,found⟩] at going
      cases going
  · cases moved

section Each
variable (waits : x.call = .waiting ids i rest) (ran : Within x ids i rest) (calm : x.full = true → Calm x a)

include ran in
theorem created_within : Within (if x.closing then x else spawnBackground x) ids i rest := by
  split
  · exact ran
  · rename_i opened
    exact background_within ran (open_ahead ran (by simpa using opened))

include ran in
theorem replay_within : Within (if x.closing then x else startUnlessLive x .rebootstrap) ids i rest := by
  split
  · exact ran
  · rename_i opened
    exact start_unless_within ran _ (.inr (.inl (open_ahead ran (by simpa using opened))))

include waits ran in
theorem due_within (calm : x.full = true → Calm x .resyncDue) (live : x.liveAt .resync = true) :
    Within (x.setPlace .resync none) ids i rest := by
  refine clear_within ran _ (.inr fun id _ => ?_)
  cases whole : x.full with
  | false => exact .inr ⟨rfl,by decide⟩
  | true => exact absurd live (by rw [calm whole (waiting_of waits) whole]; exact Bool.false_ne_true)

include waits ran in
theorem dropped_within (calm : x.full = true → Calm x .resyncDropped) :
    Within ((x.cancelAll (x.place .resync).toList).setPlace .resync none) ids i rest := by
  refine clear_within (cancel_within ran _) _ (.inr fun id found => ?_)
  cases whole : x.full with
  | false => exact .inr ⟨whole,by decide⟩
  | true =>
    have gone := calm whole (waiting_of waits) whole
    have there : x.place .resync = some id := found
    have ended : (x.ended? id).isSome := by simpa [Owner.liveAt,there] using gone
    exact .inl (by rw [(cancel_all_onward _ x).ended]; exact ended)

include ran in
theorem refused_within (moved : ownerStep x .refused = some y) : Within y ids i rest := by
  obtain ⟨id,kind,cancelling,found,rfl⟩ := refused_cases ran.sane moved
  have ended : Within (endTask x id .finished) ids i rest := end_within ran found nofun fun _ => nofun
  exact flags_within ended rfl rfl rfl rfl rfl rfl fun j held => by cases j <;> first | exact held | rfl

include waits ran in
theorem complete_within (calm : x.full = true → Calm x (.complete id c)) (moved : completeTask x id c = some y) :
    Within y ids i rest := by
  rcases complete_cases moved with ⟨found,rfl⟩ | ⟨found,rfl⟩ | ⟨kind,cancelling,how,found,ended,rfl⟩
  · exact end_within ran found nofun fun _ => nofun
  · exact end_within ((pump_keeps_within ids i rest).flags x x.pump x.stray (x.queued - 1) ran) found nofun fun _ => nofun
  · refine end_within ran found (fun e failed => (body_fails (failed ▸ ended)).1) ?_
    rintro awaited e rfl
    obtain ⟨task,there,counted,-⟩ := ran.awaited id awaited
    rw [found] at there
    cases there
    obtain ⟨fails,outside⟩ := body_fails ended
    have motion : kind = .place .triggeredMotion := awaited_fails counted fails
    have whole : x.full = true := by
      rw [motion] at counted
      exact foreign_owned rfl counted
    have steady := calm whole
    rw [outside motion] at steady
    exact steady (by simpa only [awaitedNow,waits] using awaited) (by rw [Owner.kind?,found,← motion]; rfl)

include ran in
theorem deliver_within (moved : deliverTask x id = some y) : Within y ids i rest := by
  rcases deliver_cases moved with ⟨kind,found,⟨rfl,thrown⟩ | rfl⟩
  · exact (pump_keeps_within ids i rest).cancelled found ran thrown
  · exact end_within ran found nofun fun _ => nofun

end Each

theorem incident_within (waits : x.call = .waiting ids i rest) (ran : Within x ids i rest)
    (calm : x.full = true → Calm x a) (incident : a.isTeardown = false) (moved : ownerStep x a = some y) :
    Within y ids i rest := by
  have busy := waiting_of waits
  cases a with
  | connect => simp [ownerStep,busy] at moved
  | startEvents => simp [ownerStep,busy] at moved
  | install => simp [ownerStep,busy] at moved
  | startReconcile => simp [ownerStep,busy] at moved
  | latch =>
    obtain ⟨-,rfl⟩ := by simpa [ownerStep] using moved
    exact room_within waits ran _ calm ⟨by decide,rfl⟩
  | featuresChanged =>
    obtain ⟨-,rfl⟩ := by simpa [ownerStep] using moved
    exact room_within waits ran _ calm ⟨by decide,rfl⟩
  | connection connected =>
    obtain ⟨group,rfl⟩ := by simpa [ownerStep] using moved
    exact connection_within ran group connected
  | deviceCreated =>
    obtain ⟨-,rfl⟩ := by simpa [ownerStep] using moved
    exact created_within ran
  | contractRecheck =>
    obtain rfl := by simpa [ownerStep] using moved
    exact created_within ran
  | replayLost =>
    obtain rfl := by simpa [ownerStep] using moved
    exact replay_within ran
  | decline =>
    obtain rfl := by simpa [ownerStep] using moved
    exact room_within waits ran _ calm ⟨by decide,rfl⟩
  | resyncDue =>
    obtain ⟨live,rfl⟩ := by simpa [ownerStep] using moved
    exact due_within waits ran calm live
  | resyncDropped =>
    obtain rfl := by simpa [ownerStep] using moved
    exact dropped_within waits ran calm
  | schedule =>
    obtain rfl := by simpa [ownerStep] using moved
    exact schedule_within ran
  | socket isOpen =>
    obtain ⟨-,rfl⟩ := by simpa [ownerStep] using moved
    exact flags_within ran rfl rfl rfl rfl rfl rfl fun j held => by cases j <;> exact held
  | frame =>
    obtain ⟨-,rfl⟩ := by simpa [ownerStep] using moved
    exact (pump_keeps_within ids i rest).flags x x.pump x.stray _ ran
  | refused => exact refused_within ran moved
  | pump id =>
    obtain ⟨cancelling,found,turned⟩ := pump_cases moved
    exact (pump_keeps_within ids i rest).turn found ran turned
  | finalize id =>
    simp only [ownerStep] at moved
    split at moved <;> cases moved
    exact cancel_within ran _
  | complete id c => exact complete_within waits ran calm moved
  | deliver id => exact deliver_within ran moved
  | stop => cases incident
  | close => cases incident
  | wake => cases incident

end Steps

end LoomClient.Compat.Teardown
