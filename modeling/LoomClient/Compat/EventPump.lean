import LoomClient.Compat.TeardownCalls

namespace LoomClient.Compat.Teardown
open Lib
variable {ε : Type} {x y z : Owner ε} {id other waiter getter : Nat} {kind : Kind} {stage : Pump} {cancelling thrown : Bool}
  {how : Ended ε} {a : OwnerAction ε}

def Cancelled (x : Owner ε) (id : Nat) : Prop := ∃ task, x.tasks[id]? = some task ∧ task.status ≠ .running false

def Pump.Sound (x : Owner ε) : Pump → Prop
  | .idle => True
  | .waiting waiter getter => x.kind? waiter = some .waiter ∧ x.kind? getter = some .getter
  | .yielded waiter => x.kind? waiter = some .waiter
  | .letting waiter getter => (x.kind? waiter = some .waiter ∧ x.kind? getter = some .getter) ∧ Cancelled x getter
  | .leaving waiter _ => x.kind? waiter = some .waiter ∧ Cancelled x waiter

structure Pumping (x : Owner ε) : Prop where
  sound : ∀ id, (x.pump id).Sound x
  stray : ∀ id ∈ x.stray, (x.kind? id = some .waiter ∨ x.kind? id = some .getter) ∧ x.ended? id = none

theorem pumped_left {stage : Pump} (sound : stage.Sound x) (member : id ∈ stage.tasks) : Left x id := by
  have waiter (w : Nat) (known : x.kind? w = some .waiter) : Left x w := ⟨_,known,rfl⟩
  have getter (g : Nat) (known : x.kind? g = some .getter) : Left x g := ⟨_,known,rfl⟩
  cases stage with
  | idle => cases member
  | waiting w g =>
    obtain rfl | rfl := by simpa [Pump.tasks] using member
    · exact waiter _ sound.1
    · exact getter _ sound.2
  | yielded w =>
    obtain rfl := by simpa [Pump.tasks] using member
    exact waiter _ sound
  | letting w g =>
    obtain rfl | rfl := by simpa [Pump.tasks] using member
    · exact waiter _ sound.1.1
    · exact getter _ sound.1.2
  | leaving w thrown =>
    obtain rfl := by simpa [Pump.tasks] using member
    exact waiter _ sound.1

theorem stray_left (pumping : Pumping x) (member : id ∈ x.stray) : Left x id :=
  (pumping.stray id member).1.elim (fun known => ⟨_,known,rfl⟩) fun known => ⟨_,known,rfl⟩

section Kept

theorem Later.cancelled (later : Later x y) (held : Cancelled x id) : Cancelled y id := by
  obtain ⟨task,found,going⟩ := held
  obtain ⟨next,reached,-,moved⟩ := later id task found
  refine ⟨next,reached,fun fresh => ?_⟩
  rw [fresh] at moved
  cases status : task.status with
  | running cancelling =>
    cases cancelling with
    | false => exact going status
    | true => simp [status,Status.Advances] at moved
  | ended how => simp [status,Status.Advances] at moved

theorem Later.sound (later : Later x y) (sound : stage.Sound x) : stage.Sound y := by
  cases stage with
  | idle => trivial
  | waiting => exact ⟨later.sameKind sound.1,later.sameKind sound.2⟩
  | yielded => exact later.sameKind sound
  | letting => exact ⟨⟨later.sameKind sound.1.1,later.sameKind sound.1.2⟩,later.cancelled sound.2⟩
  | leaving => exact ⟨later.sameKind sound.1,later.cancelled sound.2⟩

theorem Pumping.moved (pumping : Pumping x) (onward : Onward x y) (pump : y.pump = x.pump) (stray : y.stray = x.stray) :
    Pumping y where
  sound id := by
    rw [pump]
    exact onward.later.sound (pumping.sound id)
  stray id member := by
    rw [stray] at member
    obtain ⟨known,live⟩ := pumping.stray id member
    exact ⟨known.imp onward.later.sameKind onward.later.sameKind,by rw [onward.ended,live]⟩

theorem end_pumping (pumping : Pumping x) (found : x.tasks[id]? = some ⟨kind,.running cancelling⟩) (how : Ended ε) :
    Pumping (endTask x id how) where
  sound other := by
    have later := end_task_later found how
    change (Function.update x.pump id .idle other).Sound _
    rw [Function.update_apply]
    split
    · trivial
    · exact later.sound (pumping.sound other)
  stray other member := by
    obtain ⟨listed,apart⟩ := List.mem_filter.mp member
    obtain ⟨known,live⟩ := pumping.stray other listed
    have later := end_task_later found how
    refine ⟨known.imp later.sameKind later.sameKind,?_⟩
    rw [end_task_ended found,if_neg (by simpa using apart),live]

theorem set_pump_pumping (pumping : Pumping x) (id : Nat) (stage : Pump) (sound : stage.Sound x) :
    Pumping (x.setPump id stage) where
  sound other := by
    change (Function.update x.pump id stage other).Sound x
    rw [Function.update_apply]
    split
    · exact sound
    · exact pumping.sound other
  stray := pumping.stray

theorem leave_behind_pumping (pumping : Pumping x) (known : x.kind? other = some .waiter ∨ x.kind? other = some .getter) :
    Pumping (x.leaveBehind other) := by
  unfold Owner.leaveBehind
  split
  · exact pumping
  · rename_i going
    refine ⟨pumping.sound,fun id member => ?_⟩
    rcases List.mem_append.mp member with before | new
    · exact pumping.stray id before
    · rw [List.mem_singleton.mp new]
      exact ⟨known,Option.not_isSome_iff_eq_none.mp going⟩

theorem cancel_cancelled (known : x.kind? id = some kind) : Cancelled (x.cancelAll [id]) id := by
  obtain ⟨task,found,-⟩ := Option.map_eq_some_iff.mp ((cancel_all_onward [id] x).later.sameKind known)
  exact ⟨task,found,cancel_all_cancelled (.head _) task found⟩

theorem leave_pumping (pumping : Pumping x) (found : x.tasks[id]? = some ⟨kind,.running cancelling⟩)
    (known : x.kind? waiter = some .waiter) : Pumping (x.leave id waiter thrown) := by
  unfold Owner.leave
  split
  · exact end_pumping pumping found _
  · have onward := cancel_all_onward [waiter] x
    exact set_pump_pumping (pumping.moved onward rfl rfl) id (.leaving waiter thrown)
      ⟨onward.later.sameKind known,cancel_cancelled known⟩

theorem let_go_pumping (pumping : Pumping x) (found : x.tasks[id]? = some ⟨kind,.running cancelling⟩)
    (known : x.kind? waiter = some .waiter ∧ x.kind? getter = some .getter) : Pumping (x.letGo id waiter getter) := by
  unfold Owner.letGo
  split
  · exact end_pumping pumping found _
  · have onward := cancel_all_onward [getter] x
    refine set_pump_pumping (pumping.moved onward rfl rfl) id (.letting waiter getter) ⟨?_,cancel_cancelled known.2⟩
    exact ⟨onward.later.sameKind known.1,onward.later.sameKind known.2⟩

theorem await_envelope_pumping (pumping : Pumping x) (known : x.kind? waiter = some .waiter) :
    Pumping (x.awaitEnvelope id waiter) := by
  have onward := spawn_onward x .getter
  exact set_pump_pumping (pumping.moved onward rfl rfl) id (.waiting waiter x.tasks.length)
    ⟨onward.later.sameKind known,spawn_kind x .getter⟩

theorem turn_pumping (pumping : Pumping x) (found : x.tasks[id]? = some ⟨kind,.running cancelling⟩)
    (moved : pumpTurn x id = some y) : Pumping y := by
  have sound := pumping.sound id
  unfold pumpTurn at moved
  split at moved <;> rename_i stands <;> rw [stands] at sound
  · split at moved <;> cases moved
    have onward := spawn_onward x .waiter
    have begun := pumping.moved onward rfl rfl
    have inside : id < x.tasks.length := (List.getElem?_eq_some_iff.mp found).1
    have still : (x.spawn .waiter).tasks[id]? = some ⟨kind,.running cancelling⟩ := by
      rw [Owner.spawn,List.getElem?_append_left inside,found]
    split
    · exact leave_pumping begun still (spawn_kind x .waiter)
    · exact await_envelope_pumping begun (spawn_kind x .waiter)
  · split at moved
    · split at moved
      · cases moved
        exact let_go_pumping pumping found sound
      · split at moved <;> cases moved
        exact set_pump_pumping pumping id (.yielded _) sound.1
    · cases moved
  · split at moved <;> cases moved
    split
    · exact leave_pumping pumping found sound
    · exact await_envelope_pumping pumping sound
  · split at moved <;> cases moved
    exact end_pumping pumping found _
  · split at moved <;> cases moved
    exact end_pumping pumping found _

theorem left_behind_found (found : x.tasks[id]? = some ⟨kind,.running cancelling⟩) (other : Nat) :
    (x.leaveBehind other).tasks[id]? = some ⟨kind,.running cancelling⟩ := by
  unfold Owner.leaveBehind
  split <;> exact found

theorem left_behind_kind (known : x.kind? id = some kind) (other : Nat) : (x.leaveBehind other).kind? id = some kind := by
  unfold Owner.leaveBehind
  split <;> exact known

theorem cancel_pump_pumping (pumping : Pumping x) (found : x.tasks[id]? = some ⟨kind,.running cancelling⟩)
    (moved : cancelPump x id = some y) : Pumping y := by
  have sound := pumping.sound id
  unfold cancelPump at moved
  split at moved
  · cases moved
    exact end_pumping pumping found _
  · rename_i stands
    rw [stands] at sound
    cases moved
    exact leave_pumping (leave_behind_pumping pumping (.inr sound.2)) (left_behind_found found _)
      (left_behind_kind sound.1 _)
  · rename_i stands
    rw [stands] at sound
    cases moved
    exact end_pumping (leave_behind_pumping pumping (.inl sound)) (left_behind_found found _) _
  · cases moved

end Kept

section Steps

theorem before_pump (i : Item) (x : Owner ε) : (beforeAwait i x).pump = x.pump ∧ (beforeAwait i x).stray = x.stray := by
  cases i <;> simp only [beforeAwait] <;> split <;> exact ⟨rfl,rfl⟩

theorem start_unless_pumping (pumping : Pumping x) (k : Place) : Pumping (startUnlessLive x k) := by
  unfold startUnlessLive
  split
  · exact pumping
  · exact pumping.moved (start_onward x k) rfl rfl

theorem connection_pumping (pumping : Pumping x) (connected : Bool) : Pumping (onConnectionState x connected) := by
  have moved : ∀ y : Owner ε, Pumping y → Pumping (if connected then {y with state := .running} else y.startAt .degraded) := by
    intro y held
    split
    · exact held.moved (onward_of_tasks rfl) rfl rfl
    · exact held.moved (start_onward y .degraded) rfl rfl
  unfold onConnectionState
  split
  · exact pumping
  · split
    · exact moved _ (pumping.moved ((cancel_all_onward _ x).trans (onward_of_tasks rfl)) rfl rfl)
    · exact moved x pumping

theorem start_events_pumping (pumping : Pumping x) : Pumping (startEvents x) := by
  have reading : Pumping (if x.liveAt .reader then x else startReader x) := by
    split
    · exact pumping
    · exact pumping.moved ((start_onward x .reader).trans (onward_of_tasks rfl)) rfl rfl
  unfold startEvents
  split
  · exact pumping
  · exact reading.moved ((start_onward _ .dispatch).trans (onward_of_tasks rfl)) rfl rfl

theorem settle_pumping {result : Owner ε × Call Item ε} (pumping : Pumping result.1) : Pumping (settleCall result) :=
  pumping.moved (onward_of_tasks rfl) rfl rfl

theorem before_pumping (i : Item) (x : Owner ε) (pumping : Pumping x) : Pumping (beforeAwait i x) :=
  pumping.moved (before_onward i x) (before_pump i x).1 (before_pump i x).2

theorem after_pumping (i : Item) (x : Owner ε) (pumping : Pumping x) : Pumping (afterAwait i x) :=
  pumping.moved (onward_of_tasks (after_frame i x).2.2) (by cases i <;> rfl) (by cases i <;> rfl)

theorem call_pumping (pumping : Pumping x) (full : Bool) : Pumping (callTeardown x full) :=
  settle_pumping (Procedure.perform_invariant Pumping before_pumping after_pumping _ _
    (pumping.moved (onward_of_tasks rfl) rfl rfl))

theorem pumping_step (sane : Sane x) (pumping : Pumping x) (moved : ownerStep x a = some y) : Pumping y := by
  have flags {z : Owner ε} (tasks : z.tasks = x.tasks) (pump : z.pump = x.pump) (stray : z.stray = x.stray) : Pumping z :=
    pumping.moved (onward_of_tasks tasks) pump stray
  cases a with
  | connect =>
    obtain ⟨-,rfl⟩ := by simpa [ownerStep] using moved
    exact flags rfl rfl rfl
  | startEvents =>
    obtain ⟨-,rfl⟩ := by simpa [ownerStep] using moved
    exact start_events_pumping pumping
  | install =>
    obtain ⟨-,rfl⟩ := by simpa [ownerStep] using moved
    exact flags rfl rfl rfl
  | startReconcile =>
    simp only [ownerStep] at moved
    split at moved <;> cases moved
    exact pumping.moved ((start_onward x .hubReconcile).trans (onward_of_tasks rfl)) rfl rfl
  | latch =>
    obtain ⟨-,rfl⟩ := by simpa [ownerStep] using moved
    exact start_unless_pumping pumping _
  | featuresChanged =>
    obtain ⟨-,rfl⟩ := by simpa [ownerStep] using moved
    exact start_unless_pumping pumping _
  | connection connected =>
    obtain ⟨-,rfl⟩ := by simpa [ownerStep] using moved
    exact connection_pumping pumping connected
  | deviceCreated =>
    obtain ⟨-,rfl⟩ := by simpa [ownerStep] using moved
    split
    · exact pumping
    · exact pumping.moved ((spawn_onward x .background).trans (onward_of_tasks rfl)) rfl rfl
  | contractRecheck =>
    obtain rfl := by simpa [ownerStep] using moved
    split
    · exact pumping
    · exact pumping.moved ((spawn_onward x .background).trans (onward_of_tasks rfl)) rfl rfl
  | replayLost =>
    obtain rfl := by simpa [ownerStep] using moved
    split
    · exact pumping
    · exact start_unless_pumping pumping _
  | decline =>
    obtain rfl := by simpa [ownerStep] using moved
    exact start_unless_pumping pumping _
  | resyncDue =>
    obtain ⟨-,rfl⟩ := by simpa [ownerStep] using moved
    exact flags rfl rfl rfl
  | resyncDropped =>
    obtain rfl := by simpa [ownerStep] using moved
    exact pumping.moved ((cancel_all_onward _ x).trans (onward_of_tasks rfl)) rfl rfl
  | schedule =>
    obtain rfl := by simpa [ownerStep] using moved
    exact pumping.moved ((spawn_onward x .looper).trans (onward_of_tasks rfl)) rfl rfl
  | socket isOpen =>
    obtain ⟨-,rfl⟩ := by simpa [ownerStep] using moved
    exact flags rfl rfl rfl
  | frame =>
    obtain ⟨-,rfl⟩ := by simpa [ownerStep] using moved
    exact flags rfl rfl rfl
  | refused =>
    obtain ⟨id,kind,cancelling,found,rfl⟩ := refused_cases sane moved
    exact (end_pumping pumping found .finished).moved (onward_of_tasks rfl) rfl rfl
  | pump id =>
    obtain ⟨cancelling,found,turned⟩ := pump_cases moved
    exact turn_pumping pumping found turned
  | finalize id =>
    simp only [ownerStep] at moved
    split at moved <;> cases moved
    exact pumping.moved (cancel_all_onward _ x) rfl rfl
  | complete id c =>
    rcases complete_cases moved with ⟨found,rfl⟩ | ⟨found,rfl⟩ | ⟨kind,cancelling,how,found,-,rfl⟩
    · exact end_pumping pumping found _
    · have taken : Pumping {x with queued := x.queued - 1} := flags rfl rfl rfl
      exact end_pumping taken found _
    · exact end_pumping pumping found _
  | deliver id =>
    rcases deliver_cases moved with ⟨kind,found,⟨-,taken⟩ | rfl⟩
    · exact cancel_pump_pumping pumping found taken
    · exact end_pumping pumping found _
  | stop =>
    obtain ⟨-,rfl⟩ := by simpa [ownerStep] using moved
    exact call_pumping pumping true
  | close =>
    obtain ⟨-,rfl⟩ := by simpa [ownerStep] using moved
    exact call_pumping pumping false
  | wake =>
    obtain ⟨-,rfl⟩ := by simpa [ownerStep] using moved
    exact settle_pumping (Procedure.resume_invariant Pumping before_pumping after_pumping _ _ pumping)

end Steps

section Others

theorem pump_keeps_others (x : Owner ε) :
    PumpKeeps fun y : Owner ε => Later x y ∧ (MotionFine x → MotionFine y) where
  spawn y kind _ kept := by
    have onward := spawn_onward y kind
    exact ⟨kept.1.trans onward.later,fun fine id e held => by rw [onward.ended]; exact kept.2 fine id e held⟩
  cancel y ids kept := by
    have onward := cancel_all_onward ids y
    exact ⟨kept.1.trans onward.later,fun fine id e held => by rw [onward.ended]; exact kept.2 fine id e held⟩
  flags _ _ _ _ kept := kept
  ends y id kind cancelling how found well kept := by
    refine ⟨kept.1.trans (end_task_later found how),fun fine other e held failed => ?_⟩
    rw [end_task_ended found] at failed
    split at failed
    · exact well e (Option.some.inj failed)
    · exact kept.2 fine other e held failed

theorem others_start (x : Owner ε) : Later x x ∧ (MotionFine x → MotionFine x) := ⟨later_of_tasks rfl,id⟩

theorem pump_others (moved : ownerStep x (.pump id) = some y) : Later x y ∧ (MotionFine x → MotionFine y) := by
  obtain ⟨cancelling,found,turned⟩ := pump_cases moved
  exact (pump_keeps_others x).turn found (others_start x) turned

theorem deliver_others (moved : ownerStep x (.deliver id) = some y) : Later x y ∧ (MotionFine x → MotionFine y) := by
  rcases deliver_cases moved with ⟨kind,found,⟨-,taken⟩ | rfl⟩
  · exact (pump_keeps_others x).cancelled found (others_start x) taken
  · exact (pump_keeps_others x).ends x id kind true .cancelled found nofun (others_start x)

end Others
end LoomClient.Compat.Teardown
