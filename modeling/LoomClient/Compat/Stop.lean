import LoomClient.Compat.EventPump

namespace LoomClient.Compat.Teardown
open Lib
variable {ε : Type} {x y z : Owner ε} {a : OwnerAction ε} {full : Bool} {id : Nat} {ids : List Nat} {i : Item} {rest : List Item}

-- Nothing is left of the reconcile loop, which `stop()` drains before.
def Arrives (x : Owner ε) : OwnerAction ε → Prop
  | .stop => x.liveAt .hubReconcile = false
  | .wake => match x.call with
    | .waiting ids (.drain .hubReconcile) _ => ∀ id ∈ ids, (x.ended? id).isSome
    | _ => False
  | _ => False

def Spent (x : Owner ε) (rest : List Item) : Prop :=
  ∀ i ∈ rest, handshakes x i = false ∧ ∀ id ∈ drains x i, (x.ended? id).isSome

def Subsided (x : Owner ε) (full : Bool) (owned : List Nat) : Prop :=
  ∀ id ∈ owned ++ x.stray ++ (if full then x.looper else []), Left x id → (x.ended? id).isSome

-- The last turn of a call comes after the tasks it leaves to themselves.
def Outlasts (x : Owner ε) : OwnerAction ε → Prop
  | .stop => Spent x stopItems → Subsided x true (held x true)
  | .close => Spent x closeItems → Subsided x false (held x false)
  | .wake => match x.call with
    | .waiting ids _ rest => (∀ id ∈ ids, (x.ended? id).isSome) → Spent x rest → Subsided x x.full x.owned
    | _ => True
  | _ => True

-- What a call leaves in any case: `close()` answers for the client alone.
structure LetGo (x : Owner ε) : Prop where
  tasks : ∀ id ∈ x.owned, (x.ended? id).isSome ∨ Left x id
  bus : x.full = true → x.refreshGroup = false
  wire : x.wireGroup = false
  socket : x.socketOpen = false
  stream : (x.streamSession && x.ownsStream) = false ∧ x.streamStopped = true
  http : x.httpSession = false
  state : x.full = true → x.state = .stopped

def Settled (x : Owner ε) : Prop :=
  match x.call with
  | .waiting ids i rest => Within x ids i rest
  | .returned => Between x []
  | _ => False

def Sheltered (x : Owner ε) (a : OwnerAction ε) : Prop := Calm x a ∧ (Arrives x a → MotionFine x) ∧ Outlasts x a

section Decidable

theorem motion_fine_iff : MotionFine x ↔
    ((x.place .triggeredMotion).bind x.ended?).all (fun how => how matches .cancelled | .finished) = true := by
  constructor
  · intro fine
    refine Option.all_eq_true _ _ |>.mpr fun how found => ?_
    obtain ⟨id,there,ended⟩ := Option.bind_eq_some_iff.mp found
    cases how with
    | failed e => exact absurd ended (fine id e there)
    | _ => rfl
  · intro well id e there failed
    have found : (x.place .triggeredMotion).bind x.ended? = some (.failed e) := Option.bind_eq_some_iff.mpr ⟨id,there,failed⟩
    simp [found] at well

instance (x : Owner ε) : Decidable (MotionFine x) := decidable_of_iff _ motion_fine_iff.symm

instance (x : Owner ε) (k : Place) : Decidable (Room x k) := inferInstanceAs (Decidable (_ → _ → _ ∨ _))

theorem left_iff : Left x id ↔ (x.kind? id).any Kind.isLeft = true := by
  rw [Option.any_eq_true]
  rfl

instance (x : Owner ε) (id : Nat) : Decidable (Left x id) := decidable_of_iff _ left_iff.symm

instance (x : Owner ε) (full : Bool) (owned : List Nat) : Decidable (Subsided x full owned) :=
  inferInstanceAs (Decidable (∀ id ∈ owned ++ x.stray ++ (if full then x.looper else []), Left x id → (x.ended? id).isSome))

instance (x : Owner ε) (rest : List Item) : Decidable (Spent x rest) :=
  inferInstanceAs (Decidable (∀ i ∈ rest, handshakes x i = false ∧ ∀ id ∈ drains x i, (x.ended? id).isSome))

instance (x : Owner ε) (a : OwnerAction ε) : Decidable (Calm x a) := by
  unfold Calm
  split <;> infer_instance

instance (x : Owner ε) (a : OwnerAction ε) : Decidable (Arrives x a) := by
  unfold Arrives
  split
  · infer_instance
  · split <;> infer_instance
  · infer_instance

instance (x : Owner ε) (a : OwnerAction ε) : Decidable (Outlasts x a) := by
  unfold Outlasts
  split
  · infer_instance
  · infer_instance
  · split <;> infer_instance
  · infer_instance

instance (x : Owner ε) (a : OwnerAction ε) : Decidable (Sheltered x a) := inferInstanceAs (Decidable (_ ∧ _ ∧ _))

end Decidable

theorem settled_standing (settled : Settled x) : Standing x := by
  unfold Settled at settled
  unfold Standing
  split at settled
  · rename_i call
    rw [call]
    exact settled
  · rename_i call
    rw [call]
    trivial
  · cases settled

theorem between_call (start : Between x rest) (call : Call Item ε) : Between {x with call} rest where
  sane := ⟨start.sane.placed,start.sane.tracked,start.sane.looped,start.sane.failed⟩
  fine := start.fine
  code := start.code
  accounted := start.accounted
  done i member passed := by
    have done := start.done i member passed
    cases i <;> exact done

theorem within_call (ran : Within x ids i rest) (call : Call Item ε) : Within {x with call} ids i rest :=
  flags_within ran rfl rfl rfl rfl rfl rfl fun j held => by cases j <;> exact held

theorem stands_settled {result : Owner ε × Call Item ε} {between : Owner ε → List Item → Prop}
    {within : Owner ε → List Nat → Item → List Item → Prop} (stands : Procedure.Stands between within result)
    (first : ∀ x rest, between x rest → Between x rest) (second : ∀ x ids i rest, within x ids i rest → Within x ids i rest) :
    Settled (settleCall result) := by
  obtain ⟨x,call⟩ := result
  cases call with
  | waiting ids i rest => exact within_call (second _ _ _ _ stands) _
  | returned => exact between_call (first _ _ stands) _
  | raised e => cases stands
  | idle => cases stands

theorem held_answered (sane : Sane x) (pumping : Pumping x) (member : id ∈ held x full) :
    AnsweredFor {x with full,owned := held x full} [] (items full) id := by
  simp only [held,List.mem_append,List.mem_filterMap,List.mem_flatMap] at member
  rcases member with (((⟨k,listed,found⟩ | tracked) | ⟨loop,-,pumped⟩) | strayed) | looped
  · by_cases lost : k = .degraded
    · rw [lost] at found
      exact .inr (.inl ⟨_,sane.placed .degraded id found,rfl⟩)
    · refine .inr (.inr (.inr ⟨drainer k,?_,?_⟩))
      · cases full <;> cases k <;> first | decide | exact absurd rfl lost | simp [places] at listed
      · cases k <;> first | exact absurd rfl lost | simp [drainer,drains,found]
  · exact .inr (.inr (.inr ⟨.drainBackground,by cases full <;> decide,List.mem_append_left _ tracked⟩))
  · exact .inr (.inl (pumped_left (pumping.sound loop) pumped :))
  · exact .inr (.inl (stray_left pumping strayed :))
  · cases full
    · cases looped
    · exact .inr (.inl ⟨_,(sane.looped id looped).1,rfl⟩)

theorem call_between (sane : Sane x) (pumping : Pumping x) (full : Bool) : Between {x with full,owned := held x full} (items full) where
  sane := ⟨sane.placed,sane.tracked,sane.looped,sane.failed⟩
  fine later next := by cases full <;> cases next
  code := List.suffix_refl _
  accounted _ member := held_answered (x := x) sane pumping member
  done _ member passed := absurd member passed

theorem resume_settled (ran : Within x ids i rest)
    (fine : (∀ id ∈ ids, (x.ended? id).isSome) → .drain .triggeredMotion ∈ rest → MotionFine x) :
    Settled (settleCall (teardown.resume x (.waiting ids i rest))) := by
  obtain ⟨left,awaited,still⟩ := Procedure.await_within within_endures ran
  cases left with
  | nil =>
    have steady := fine (Procedure.ended_of_await awaited)
    exact stands_settled (Procedure.resume_stands teardown_keeps (.waiting ids i rest) x ⟨ran,steady⟩)
      (fun _ _ => And.left) (fun _ _ _ _ => And.left)
  | cons id left =>
    simp only [Procedure.resume,awaited]
    exact within_call still _

theorem perform_settled (start : Between x (i :: rest))
    (fine : (∀ id ∈ awaits i x, (x.ended? id).isSome) → .drain .triggeredMotion ∈ rest → MotionFine x) :
    Settled (settleCall (teardown.perform (i :: rest) x)) := by
  rw [Procedure.perform_cons]
  refine resume_settled (before_within start) fun ended ahead => before_fine (fine ?_ ahead) i
  intro id member
  have gone := ended id member
  rwa [show teardown.before i x = beforeAwait i x from rfl,(before_onward i x).ended] at gone

theorem call_settled (sane : Sane x) (pumping : Pumping x) (fine : full = true → x.liveAt .hubReconcile = false → MotionFine x) :
    Settled (callTeardown x full) := by
  have start := call_between sane pumping full
  cases full with
  | false => exact perform_settled start fun _ ahead => absurd ahead (by decide)
  | true =>
    refine perform_settled start fun ended _ => fine rfl ?_
    cases found : x.place .hubReconcile with
    | none => simp [Owner.liveAt,found]
    | some id =>
      have gone := ended id (by simp [awaits,handshakes,drains,found])
      simpa [Owner.liveAt,found,Owner.ended?] using gone

theorem motion_ahead (code : (i :: rest) <:+ items full) (ahead : .drain .triggeredMotion ∈ rest) :
    i = .drain .hubReconcile := by
  have every : ∀ c ∈ (items full).tails, .drain .triggeredMotion ∈ c.tail → c.head? = some (.drain .hubReconcile) := by
    cases full <;> decide
  exact Option.some.inj (every (i :: rest) ((List.mem_tails _ _).mpr code) ahead)

theorem wake_settled (waits : x.call = .waiting ids i rest) (ran : Within x ids i rest)
    (fine : Arrives x .wake → MotionFine x) : Settled (settleCall (teardown.resume x x.call)) := by
  rw [waits]
  refine resume_settled ran fun ended ahead => fine ?_
  have first := motion_ahead ran.code ahead
  simp only [Arrives,waits,first]
  exact ended

theorem start_unless_sane (sane : Sane x) (k : Place) : Sane (startUnlessLive x k) := by
  unfold startUnlessLive
  split
  · exact sane
  · exact start_sane sane k

theorem settle_sane {result : Owner ε × Call Item ε} (sane : Sane result.1) : Sane (settleCall result) :=
  flags_sane sane rfl rfl rfl rfl

theorem call_sane (sane : Sane x) (full : Bool) : Sane (callTeardown x full) :=
  settle_sane (Procedure.perform_invariant Sane (fun i _ => before_sane i) (fun i _ => after_sane i) _ _
    (flags_sane sane rfl rfl rfl rfl))

theorem connection_sane (sane : Sane x) (connected : Bool) : Sane (onConnectionState x connected) := by
  unfold onConnectionState
  have moved : ∀ y : Owner ε, Sane y → Sane (if connected then {y with state := .running} else y.startAt .degraded) := by
    intro y held
    split
    · exact flags_sane held rfl rfl rfl rfl
    · exact start_sane held .degraded
  split
  · exact sane
  · split
    · exact moved _ (clear_sane (cancel_sane sane _) .degraded)
    · exact moved x sane

theorem start_events_sane (sane : Sane x) : Sane (startEvents x) := by
  unfold startEvents
  split
  · exact sane
  · refine flags_sane (start_sane ?_ .dispatch) rfl rfl rfl rfl
    split
    · exact sane
    · exact flags_sane (start_sane sane .reader) rfl rfl rfl rfl

theorem pump_keeps_sane : PumpKeeps (ε := ε) Sane where
  spawn _ kind _ sane := spawn_sane sane kind
  cancel _ ids sane := cancel_sane sane ids
  flags _ _ _ _ sane := flags_sane sane rfl rfl rfl rfl
  ends _ _ _ _ _ found well sane := end_sane sane found fun e failed => absurd failed (well e)

theorem complete_sane (sane : Sane x) (moved : completeTask x id c = some y) : Sane y := by
  rcases complete_cases moved with ⟨found,rfl⟩ | ⟨found,rfl⟩ | ⟨kind,cancelling,how,found,ended,rfl⟩
  · exact end_sane sane found nofun
  · exact end_sane (flags_sane sane rfl rfl rfl rfl) found nofun
  · exact end_sane sane found fun e failed => (body_fails (failed ▸ ended)).1

theorem sane_step (sane : Sane x) (moved : ownerStep x a = some y) : Sane y := by
  cases a with
  | connect =>
    obtain ⟨-,rfl⟩ := by simpa [ownerStep] using moved
    exact flags_sane sane rfl rfl rfl rfl
  | startEvents =>
    obtain ⟨-,rfl⟩ := by simpa [ownerStep] using moved
    exact start_events_sane sane
  | install =>
    obtain ⟨-,rfl⟩ := by simpa [ownerStep] using moved
    exact flags_sane sane rfl rfl rfl rfl
  | startReconcile =>
    simp only [ownerStep] at moved
    split at moved
    · cases moved
    · cases moved
      exact flags_sane (start_sane sane .hubReconcile) rfl rfl rfl rfl
  | latch =>
    obtain ⟨-,rfl⟩ := by simpa [ownerStep] using moved
    exact start_unless_sane sane _
  | featuresChanged =>
    obtain ⟨-,rfl⟩ := by simpa [ownerStep] using moved
    exact start_unless_sane sane _
  | connection connected =>
    obtain ⟨-,rfl⟩ := by simpa [ownerStep] using moved
    exact connection_sane sane connected
  | deviceCreated =>
    obtain ⟨-,rfl⟩ := by simpa [ownerStep] using moved
    split
    · exact sane
    · exact background_sane sane
  | contractRecheck =>
    obtain rfl := by simpa [ownerStep] using moved
    split
    · exact sane
    · exact background_sane sane
  | replayLost =>
    obtain rfl := by simpa [ownerStep] using moved
    split
    · exact sane
    · exact start_unless_sane sane _
  | decline =>
    obtain rfl := by simpa [ownerStep] using moved
    exact start_unless_sane sane _
  | resyncDue =>
    obtain ⟨-,rfl⟩ := by simpa [ownerStep] using moved
    exact clear_sane sane _
  | resyncDropped =>
    obtain rfl := by simpa [ownerStep] using moved
    exact clear_sane (cancel_sane sane _) _
  | schedule =>
    obtain rfl := by simpa [ownerStep] using moved
    exact schedule_sane sane
  | socket isOpen =>
    obtain ⟨-,rfl⟩ := by simpa [ownerStep] using moved
    exact flags_sane sane rfl rfl rfl rfl
  | frame =>
    obtain ⟨-,rfl⟩ := by simpa [ownerStep] using moved
    exact flags_sane sane rfl rfl rfl rfl
  | refused =>
    obtain ⟨id,kind,cancelling,found,rfl⟩ := refused_cases sane moved
    have ended : Sane (endTask x id .finished) := end_sane sane found (by simp)
    exact flags_sane ended rfl rfl rfl rfl
  | pump id =>
    obtain ⟨cancelling,found,turned⟩ := pump_cases moved
    exact pump_keeps_sane.turn found sane turned
  | finalize id =>
    simp only [ownerStep] at moved
    split at moved <;> cases moved
    exact cancel_sane sane _
  | complete id c => exact complete_sane sane moved
  | deliver id =>
    rcases deliver_cases moved with ⟨kind,found,⟨rfl,thrown⟩ | rfl⟩
    · exact pump_keeps_sane.cancelled found sane thrown
    · exact end_sane sane found (by simp)
  | stop =>
    obtain ⟨-,rfl⟩ := by simpa [ownerStep] using moved
    exact call_sane sane true
  | close =>
    obtain ⟨-,rfl⟩ := by simpa [ownerStep] using moved
    exact call_sane sane false
  | wake =>
    obtain ⟨-,rfl⟩ := by simpa [ownerStep] using moved
    exact settle_sane (Procedure.resume_invariant Sane (fun i _ => before_sane i) (fun i _ => after_sane i)
      _ _ sane)

theorem pump_keeps_call (x : Owner ε) : PumpKeeps fun y : Owner ε => y.call = x.call ∧ y.full = x.full where
  spawn _ _ _ same := same
  cancel _ _ same := same
  flags _ _ _ _ same := same
  ends _ _ _ _ _ _ _ same := same

theorem incident_call (incident : a.isTeardown = false) (moved : ownerStep x a = some y) :
    y.call = x.call ∧ y.full = x.full := by
  cases a
  case refused =>
    simp only [ownerStep] at moved
    split at moved
    · split at moved <;> cases moved
      exact ⟨rfl,rfl⟩
    · cases moved
  case pump id =>
    obtain ⟨cancelling,found,turned⟩ := pump_cases moved
    exact (pump_keeps_call x).turn found ⟨rfl,rfl⟩ turned
  case complete id c =>
    rcases complete_cases moved with ⟨-,rfl⟩ | ⟨-,rfl⟩ | ⟨kind,cancelling,how,-,-,rfl⟩ <;> exact ⟨rfl,rfl⟩
  case deliver id =>
    rcases deliver_cases moved with ⟨kind,found,⟨-,thrown⟩ | rfl⟩
    · exact (pump_keeps_call x).cancelled found ⟨rfl,rfl⟩ thrown
    · exact ⟨rfl,rfl⟩
  case stop => cases incident
  case close => cases incident
  case wake => cases incident
  all_goals
    simp only [ownerStep,startEvents,startReader,startUnlessLive,onConnectionState] at moved
    repeat' split at moved
    all_goals cases moved
    all_goals exact ⟨rfl,rfl⟩

theorem call_full (x : Owner ε) (full : Bool) : (callTeardown x full).full = full :=
  Procedure.perform_invariant (p := teardown) (fun z : Owner ε => z.full = full) (fun i z held => (before_frame i z).2.1.trans held)
    (fun i z held => (after_frame i z).2.1.trans held) (items full) {x with full,owned := held x full} rfl

theorem resume_full (x : Owner ε) : (settleCall (teardown.resume x x.call)).full = x.full :=
  Procedure.resume_invariant (p := teardown) (fun z : Owner ε => z.full = x.full) (fun i z held => (before_frame i z).2.1.trans held)
    (fun i z held => (after_frame i z).2.1.trans held) x.call x rfl

theorem teardown_settled (sane : Sane x) (pumping : Pumping x) (standing : Standing x) (acts : a.isTeardown = true)
    (fine : Arrives x a → MotionFine x) (moved : ownerStep x a = some y) : Settled y := by
  cases a
  case stop =>
    obtain ⟨-,rfl⟩ := by simpa [ownerStep] using moved
    exact call_settled sane pumping fun _ gone => fine gone
  case close =>
    obtain ⟨-,rfl⟩ := by simpa [ownerStep] using moved
    exact call_settled sane pumping fun whole => by cases whole
  case wake =>
    obtain ⟨busy,rfl⟩ := by simpa [ownerStep] using moved
    cases call : x.call with
    | waiting ids i rest =>
      simp only [Standing,call] at standing
      rw [← call]
      exact wake_settled call standing fine
    | _ => simp [Owner.isWaiting,call] at busy
  all_goals cases acts

theorem incident_standing (standing : Standing x) (calm : x.full = true → Calm x a) (incident : a.isTeardown = false)
    (moved : ownerStep x a = some y) : Standing y := by
  have same := (incident_call incident moved).1
  unfold Standing at standing ⊢
  rw [same]
  split at standing
  · rename_i ids i rest waits
    exact incident_within waits standing calm incident moved
  · exact standing
  · trivial

theorem before_handshakes (i j : Item) (x : Owner ε) : handshakes (beforeAwait i x) j = handshakes x j := by
  have flags : (beforeAwait i x).connected = x.connected ∧ (beforeAwait i x).ownsStream = x.ownsStream ∧
      (beforeAwait i x).streamSession = x.streamSession ∧ (beforeAwait i x).httpSession = x.httpSession := by
    cases i <;> simp only [beforeAwait] <;> split <;> exact ⟨rfl,rfl,rfl,rfl⟩
  obtain ⟨connected,owns,stream,http⟩ := flags
  have reader : (beforeAwait i x).liveAt .reader = x.liveAt .reader := by
    simp [Owner.liveAt,(before_frame i x).2.2.2.2,(before_onward i x).ended]
  cases j <;> simp only [handshakes,Owner.socketOpen,connected,owns,stream,http,reader]

theorem after_handshakes (other : j ≠ i) (reader : j = .closeSocket → i ≠ .drain .reader) :
    handshakes (afterAwait i x) j = handshakes x j := by
  cases j
  case closeSocket =>
    cases i
    case drain k =>
      have apart : .reader ≠ k := fun same => reader rfl (by rw [same])
      simp [handshakes,afterAwait,Owner.socketOpen,Owner.liveAt,Owner.setPlace,Owner.ended?,apart]
    all_goals simp [handshakes,afterAwait,Owner.socketOpen,Owner.liveAt,Owner.setPlace,Owner.ended?]
  case closeStream => cases i <;> first | rfl | exact absurd rfl other
  case closeHttp => cases i <;> first | rfl | exact absurd rfl other
  all_goals rfl

theorem socket_first (code : (i :: rest) <:+ items full) (ahead : .closeSocket ∈ rest) : i ≠ .drain .reader := by
  have every : ∀ c ∈ (items full).tails, .closeSocket ∈ c.tail → c.head? ≠ some (.drain .reader) := by
    cases full <;> decide
  exact fun same => every (i :: rest) ((List.mem_tails _ _).mpr code) ahead (congrArg some same)

theorem before_spent (code : (i :: rest) <:+ items full) (spent : Spent (beforeAwait i x) rest) : Spent x rest := by
  intro j ahead
  obtain ⟨quiet,gone⟩ := spent j ahead
  refine ⟨(before_handshakes i j x).symm.trans quiet,fun id drained => ?_⟩
  have apart : j ≠ i := fun same => code_nodup code (same ▸ ahead)
  rw [← (before_onward i x).ended]
  exact gone id (before_drains ((code_tail code).subset ahead) apart drained)

theorem after_spent (code : (i :: rest) <:+ items full) (spent : Spent (afterAwait i x) rest) : Spent x rest := by
  intro j ahead
  obtain ⟨quiet,gone⟩ := spent j ahead
  have apart : j ≠ i := fun same => code_nodup code (same ▸ ahead)
  have later : Onward x (afterAwait i x) := onward_of_tasks (after_frame i x).2.2
  refine ⟨(after_handshakes apart fun same => socket_first code (same ▸ ahead)).symm.trans quiet,fun id drained => ?_⟩
  rw [← later.ended]
  exact gone id (after_drains ((code_tail code).subset ahead) (code_mem code) apart drained)

theorem perform_spent (code : rest <:+ items full) (returned : (teardown.perform rest x).2 = .returned) : Spent x rest := by
  induction rest generalizing x with
  | nil => simp [Spent]
  | cons i rest ih =>
    rw [Procedure.perform_cons] at returned
    obtain ⟨gone,later⟩ := Procedure.resume_returned returned
    have awaited : ∀ id ∈ awaits i x, (x.ended? id).isSome := by
      intro id member
      rw [← (before_onward i x).ended]
      exact gone id member
    have quiet : handshakes x i = false := by
      cases shakes : handshakes x i with
      | false => rfl
      | true => simpa [Owner.ended?] using awaited x.tasks.length (by simp [awaits,shakes])
    refine List.forall_mem_cons.mpr ⟨⟨quiet,fun id drained => awaited id (handshake_awaits drained)⟩,?_⟩
    exact before_spent code (after_spent code (ih (code_tail code) later))

-- No task ends by a call, and none starts but a handshake.
structure Spares (x y : Owner ε) : Prop where
  ended : ∀ id, y.ended? id = x.ended? id
  left : ∀ id, Left y id → Left x id
  owned : y.owned = x.owned
  looper : y.looper = x.looper
  stray : y.stray = x.stray

theorem spares_refl (x : Owner ε) : Spares x x := ⟨fun _ => rfl,fun _ left => left,rfl,rfl,rfl⟩

theorem Spares.trans (first : Spares x y) (second : Spares y z) : Spares x z where
  ended id := (second.ended id).trans (first.ended id)
  left id left := first.left id (second.left id left)
  owned := second.owned.trans first.owned
  looper := second.looper.trans first.looper
  stray := second.stray.trans first.stray

theorem spawn_left (left : Left (x.spawn .io) id) : Left x id := by
  obtain ⟨kind,found,loose⟩ := left
  obtain ⟨task,there,rfl⟩ := Option.map_eq_some_iff.mp found
  rw [Owner.spawn,List.getElem?_append] at there
  split at there
  · exact ⟨_,Option.map_eq_some_iff.mpr ⟨task,there,rfl⟩,loose⟩
  · rw [List.getElem?_singleton,Option.ite_none_right_eq_some] at there
    obtain ⟨-,rfl⟩ := by simpa using there
    cases loose

theorem cancel_left (left : Left (x.cancelAll ids) id) : Left x id := by
  obtain ⟨kind,found,loose⟩ := left
  obtain ⟨task,there,rfl⟩ := Option.map_eq_some_iff.mp found
  rw [cancel_all_get] at there
  obtain ⟨before,old,rfl⟩ := Option.map_eq_some_iff.mp there
  refine ⟨_,Option.map_eq_some_iff.mpr ⟨before,old,rfl⟩,?_⟩
  split at loose
  · unfold OwnedTask.cancel at loose
    split at loose <;> exact loose
  · exact loose

theorem before_spares (i : Item) (x : Owner ε) : Spares x (beforeAwait i x) := by
  obtain ⟨owned,-,-,looper,-⟩ := before_frame i x
  refine ⟨(before_onward i x).ended,fun id left => ?_,owned,looper,(before_pump i x).2⟩
  have first : Left (if handshakes x i then x.spawn .io else x.cancelAll (drains x i)) id → Left x id := by
    split
    · exact spawn_left
    · exact cancel_left
  cases i
  case cancelLooper => exact first (cancel_left left)
  case releaseDegraded =>
    have cancelled : Left (x.cancelAll (x.place .degraded).toList) id := left
    exact cancel_left cancelled
  all_goals exact first left

theorem after_spares (i : Item) (x : Owner ε) : Spares x (afterAwait i x) := by
  obtain ⟨owned,-,tasks⟩ := after_frame i x
  have later : Onward x (afterAwait i x) := onward_of_tasks tasks
  refine ⟨later.ended,fun id left => ?_,owned,after_looper i x,by cases i <;> rfl⟩
  simpa only [Left,Owner.kind?,tasks] using left

theorem perform_spares (code : List Item) (x : Owner ε) : Spares x (teardown.perform code x).1 :=
  Procedure.perform_invariant (p := teardown) (Spares x) (fun i z held => held.trans (before_spares i z))
    (fun i z held => held.trans (after_spares i z)) code x (spares_refl x)

theorem resume_spares (call : Call Item ε) (x : Owner ε) : Spares x (teardown.resume x call).1 :=
  Procedure.resume_invariant (p := teardown) (Spares x) (fun i z held => held.trans (before_spares i z))
    (fun i z held => held.trans (after_spares i z)) call x (spares_refl x)

theorem Spares.subsided (spares : Spares x y) (subsided : Subsided x full x.owned) : Subsided y full y.owned := by
  intro id member left
  rw [spares.owned,spares.looper,spares.stray] at member
  rw [spares.ended]
  exact subsided id member (spares.left id left)

theorem call_outlasted (full : Bool) (outlasts : Spent x (items full) → Subsided x full (held x full))
    (returned : (callTeardown x full).call = .returned) : Subsided (callTeardown x full) full (callTeardown x full).owned := by
  have spent : Spent {x with full,owned := held x full} (items full) := perform_spent (List.suffix_refl _) returned
  have idle : Spent x (items full) := fun i member => by
    have quiet := spent i member
    cases i <;> exact quiet
  exact (perform_spares (items full) {x with full,owned := held x full}).subsided (outlasts idle)

theorem outlasted (standing : a = .wake → Standing x) (acts : a.isTeardown = true) (outlasts : Outlasts x a)
    (moved : ownerStep x a = some y) (returned : y.call = .returned) : Subsided y y.full y.owned := by
  cases a
  case stop =>
    obtain ⟨-,rfl⟩ := by simpa [ownerStep] using moved
    rw [call_full]
    exact call_outlasted true outlasts returned
  case close =>
    obtain ⟨-,rfl⟩ := by simpa [ownerStep] using moved
    rw [call_full]
    exact call_outlasted false outlasts returned
  case wake =>
    obtain ⟨busy,rfl⟩ := by simpa [ownerStep] using moved
    rw [resume_full]
    have standing := standing rfl
    cases call : x.call with
    | waiting ids i rest =>
      simp only [Standing,call] at standing
      simp only [Outlasts,call] at outlasts
      simp only [settleCall,call] at returned
      obtain ⟨gone,later⟩ := Procedure.resume_returned returned
      have spent : Spent x rest := after_spent standing.code (perform_spent (code_tail standing.code) later)
      exact (resume_spares _ x).subsided (outlasts gone spent)
    | _ => simp [Owner.isWaiting,call] at busy
  all_goals cases acts

theorem standing_unraised (standing : Standing x) (e : ε) : x.call ≠ .raised e := by
  intro raised
  simp [Standing,raised] at standing

theorem returned_left (done : Between x []) : LetGo x := by
  have all : ∀ i ∈ items x.full, Done x i := fun i member => done.done i member (by simp)
  have client : ∀ i ∈ closeItems, Done x i := by
    intro i member
    refine all i ?_
    cases x.full
    · exact member
    · exact List.mem_append_left _ (List.mem_append_right _ member)
  constructor
  case tasks =>
    intro id member
    rcases done.accounted id member with ended | left | awaited | ⟨i,ahead,-⟩
    · exact .inl ended
    · exact .inr left
    · cases awaited
    · cases ahead
  case bus => exact fun whole => all .leaveBus (by rw [whole]; decide)
  case wire => exact client .leaveWire (by decide)
  case socket =>
    have gone : x.place .reader = none := client (.drain .reader) (by decide)
    simp [Owner.socketOpen,Owner.liveAt,gone]
  case stream => exact ⟨client .closeStream (by decide),client .signalStopped (by decide)⟩
  case http => exact client .closeHttp (by decide)
  case state => exact fun whole => all .setStopped (by rw [whole]; decide)

theorem returned_ended (done : Between x []) (subsided : Subsided x x.full x.owned) : ∀ id ∈ x.owned, (x.ended? id).isSome := by
  intro id member
  rcases (returned_left done).tasks id member with ended | left
  · exact ended
  · exact subsided id (List.mem_append_left _ (List.mem_append_left _ member)) left

theorem set_none (x : Owner ε) (k : Place) (empty : x.place k = none) : x.setPlace k none = x := by
  simp [Owner.setPlace,← empty]

theorem cancel_ended (gone : ∀ id ∈ ids, (x.ended? id).isSome) : x.cancelAll ids = x := by
  have same : (x.cancelAll ids).tasks = x.tasks := by
    refine List.ext_getElem? fun id => ?_
    rw [cancel_all_get]
    cases found : x.tasks[id]? with
    | none => rfl
    | some task =>
      by_cases member : id ∈ ids
      · obtain ⟨how,ended⟩ := Option.isSome_iff_exists.mp (gone id member)
        obtain ⟨kind,there⟩ := ended_iff.mp ended
        rw [found] at there
        cases there
        simp [OwnedTask.cancel]
      · simp [member]
  exact congrArg (fun tasks => {x with tasks}) same

theorem item_still (done : Done x i) (looper : i = .cancelLooper → ∀ id ∈ x.looper, (x.ended? id).isSome)
    (socket : x.socketOpen = false) : beforeAwait i x = x ∧ awaits i x = [] ∧ afterAwait i x = x := by
  cases i
  case drain k =>
    have empty : x.place k = none := done
    exact ⟨by simp [beforeAwait,handshakes,drains,empty,Owner.cancelAll],by simp [awaits,handshakes,drains,empty],
      set_none x k empty⟩
  case cancelLooper => exact ⟨cancel_ended (looper rfl),rfl,rfl⟩
  case releaseDegraded =>
    have empty : x.place .degraded = none := done
    refine ⟨?_,rfl,rfl⟩
    simpa [beforeAwait,handshakes,drains,empty,Owner.cancelAll] using set_none x .degraded empty
  case drainResync =>
    have empty : x.place .resync = none := done
    refine ⟨?_,by simp [awaits,handshakes,drains,empty],rfl⟩
    simpa [beforeAwait,handshakes,drains,empty,Owner.cancelAll] using set_none x .resync empty
  case drainBackground =>
    obtain ⟨none,empty⟩ := done
    have quiet : drains x .drainBackground = [] := by simp [drains,none,empty]
    refine ⟨by simp [beforeAwait,handshakes,quiet,Owner.cancelAll],by simp [awaits,handshakes,quiet],?_⟩
    simp only [afterAwait,set_none x .rebootstrap empty]
    exact congrArg (fun background => {x with background}) none.symm
  case closeSocket =>
    exact ⟨by simp [beforeAwait,handshakes,drains,socket,Owner.cancelAll],by simp [awaits,handshakes,drains,socket],rfl⟩
  case closeStream =>
    have closed : (x.streamSession && x.ownsStream) = false := done
    refine ⟨by simp [beforeAwait,handshakes,drains,closed,Owner.cancelAll],by simp [awaits,handshakes,drains,closed],?_⟩
    have same : (x.streamSession && !x.ownsStream) = x.streamSession := by
      revert closed
      cases x.streamSession <;> cases x.ownsStream <;> decide
    exact congrArg (fun streamSession => {x with streamSession}) same
  case closeHttp =>
    have closed : handshakes x .closeHttp = false := done
    refine ⟨by simp [beforeAwait,closed,drains,Owner.cancelAll],by simp [awaits,drains,closed],?_⟩
    exact congrArg (fun httpSession => {x with httpSession}) (Eq.symm done)
  case leaveBus => exact ⟨congrArg (fun refreshGroup => {x with refreshGroup}) (Eq.symm done),rfl,rfl⟩
  case unhook => exact ⟨congrArg (fun hook => {x with hook}) (Eq.symm done),rfl,rfl⟩
  case setClosing => exact ⟨congrArg (fun closing => {x with closing}) (Eq.symm done),rfl,rfl⟩
  case signalStopped => exact ⟨congrArg (fun streamStopped => {x with streamStopped}) (Eq.symm done),rfl,rfl⟩
  case leaveWire => exact ⟨congrArg (fun wireGroup => {x with wireGroup}) (Eq.symm done),rfl,rfl⟩
  case setStopped => exact ⟨congrArg (fun state => {x with state}) (Eq.symm done),rfl,rfl⟩

theorem looper_empty (sane : Sane x) (subsided : Subsided x true owned) : x.looper = [] := by
  refine List.eq_nil_iff_forall_not_mem.mpr fun id member => ?_
  obtain ⟨kind,live⟩ := sane.looped id member
  have ended := subsided id (List.mem_append_right _ member) ⟨_,kind,rfl⟩
  rw [live] at ended
  cases ended

theorem stray_empty (pumping : Pumping x) (subsided : Subsided x full owned) : x.stray = [] := by
  refine List.eq_nil_iff_forall_not_mem.mpr fun id member => ?_
  have ended := subsided id (List.mem_append_left _ (List.mem_append_right _ member)) (stray_left pumping member)
  rw [(pumping.stray id member).2] at ended
  cases ended

theorem returned_held (done : Between x []) (pumping : Pumping x) (subsided : Subsided x x.full x.owned) :
    held x x.full = [] := by
  have all : ∀ i ∈ items x.full, Done x i := fun i member => done.done i member (by simp)
  have empty : ∀ k ∈ places x.full, x.place k = none := by
    intro k member
    have listed : drainer k ∈ items x.full := by
      revert member
      cases x.full <;> cases k <;> decide
    have drained := all _ listed
    cases k <;> first | exact drained.2 | exact drained
  have tracked : x.background = [] := (all .drainBackground (by cases x.full <;> decide)).1
  have pumped : x.place .dispatch = none := empty .dispatch (by cases x.full <;> decide)
  simp only [held,tracked,pumped,stray_empty pumping subsided,Option.toList_none,List.flatMap_nil,List.append_nil,
    List.append_eq_nil_iff,List.filterMap_eq_nil_iff]
  refine ⟨empty,?_⟩
  split
  · rename_i whole
    exact looper_empty done.sane (whole ▸ subsided)
  · rfl

def again (x : Owner ε) : OwnerAction ε := if x.full then .stop else .close

theorem returned_again (returned : x.call = .returned) (done : Between x []) (pumping : Pumping x)
    (subsided : Subsided x x.full x.owned) :
    ownerStep x (again x) = some {x with owned := []} := by
  have still : teardown.perform (items x.full) {x with owned := []} = ({x with owned := []},.returned) := by
    refine Procedure.perform_still (items x.full) fun i member => ?_
    have found : Done {x with owned := []} i := by
      have held := done.done i member (by simp)
      cases i <;> exact held
    refine item_still found ?_ (returned_left done).socket
    rintro rfl
    have whole : x.full = true := by
      revert member
      cases x.full <;> decide
    have empty := looper_empty done.sane (whole ▸ subsided)
    simp [empty]
  have called : callTeardown x x.full = {x with owned := []} := by
    unfold callTeardown
    rw [returned_held done pumping subsided]
    have settled : settleCall (teardown.perform (items x.full) {x with owned := []}) = {x with owned := []} := by
      rw [still]
      exact congrArg (fun call => {x with owned := [],call}) returned.symm
    exact settled
  have idle : x.isWaiting = false := by simp [Owner.isWaiting,returned]
  have taken : ownerStep x (again x) = some (callTeardown x x.full) := by
    cases whole : x.full <;> simp [again,ownerStep,whole,idle]
  rw [taken,called]

def OwnerAction.isTurn : OwnerAction ε → Bool
  | .pump _ | .deliver _ | .complete _ .returned | .wake => true
  | _ => false

-- Turns of the loop alone bring a waiting call to its return.
def Completes (x : Owner ε) : Prop :=
  ∃ actions y, (∀ a ∈ actions, a.isTurn) ∧ run ownerStep x actions = some y ∧ y.call = .returned

structure Turned (ids : List Nat) (i : Item) (rest : List Item) (x y : Owner ε) : Prop where
  call : y.call = x.call
  within : Within y ids i rest
  pumping : Pumping y
  later : Later x y
  fine : MotionFine x → MotionFine y

theorem Turned.trans (first : Turned ids i rest x y) (second : Turned ids i rest y z) : Turned ids i rest x z :=
  ⟨second.call.trans first.call,second.within,second.pumping,first.later.trans second.later,second.fine ∘ first.fine⟩

def Turns (ids : List Nat) (i : Item) (rest : List Item) (x y : Owner ε) : Prop :=
  (∃ actions, (∀ a ∈ actions, a.isTurn) ∧ run ownerStep x actions = some y) ∧ Turned ids i rest x y

theorem Turns.trans (first : Turns ids i rest x y) (second : Turns ids i rest y z) : Turns ids i rest x z := by
  obtain ⟨⟨before,turns,path⟩,turned⟩ := first
  obtain ⟨⟨after,more,onward⟩,again⟩ := second
  refine ⟨⟨before ++ after,List.forall_mem_append.mpr ⟨turns,more⟩,?_⟩,turned.trans again⟩
  rw [run_append,path]
  exact onward

section Turning
variable (waits : x.call = .waiting ids i rest) (ran : Within x ids i rest) (pumping : Pumping x)

include ran pumping in
theorem turns_refl : Turns ids i rest x x := ⟨⟨[],by simp,rfl⟩,rfl,ran,pumping,later_of_tasks rfl,id⟩

include waits ran pumping

theorem turns_step (a : OwnerAction ε) (turn : a.isTurn) (incident : a.isTeardown = false) (calm : Calm x a)
    (moved : ownerStep x a = some y) (others : Later x y ∧ (MotionFine x → MotionFine y)) : Turns ids i rest x y := by
  refine ⟨⟨[a],by simpa using turn,by simp [run,moved]⟩,(incident_call incident moved).1,?_,?_,others.1,others.2⟩
  · exact incident_within waits ran (fun _ => calm) incident moved
  · exact pumping_step ran.sane pumping moved

theorem cancelled_turns (found : x.tasks[id]? = some ⟨kind,.running true⟩) (plain : kind ≠ .place .dispatch) :
    Turns ids i rest x (endTask x id .cancelled) := by
  have moved : ownerStep x (.deliver id) = some (endTask x id .cancelled) := by
    simp only [ownerStep,deliverTask,found]
  exact turns_step waits ran pumping (.deliver id) rfl rfl trivial moved (deliver_others moved)

theorem inner_turns (found : x.tasks[id]? = some ⟨.place .dispatch,.running cancelling⟩)
    (known : x.kind? task = some kind) (plain : kind ≠ .place .dispatch) (cancelled : Cancelled x task) :
    ∃ y, Turns ids i rest x y ∧ y.tasks[id]? = some ⟨.place .dispatch,.running cancelling⟩ ∧ y.pump id = x.pump id ∧
      (y.ended? task).isSome := by
  obtain ⟨⟨kind',status⟩,there,going⟩ := cancelled
  have same : kind' = kind := by simpa [Owner.kind?,there] using known
  subst same
  have apart : task ≠ id := by
    rintro rfl
    rw [found] at there
    cases there
    exact plain rfl
  cases status with
  | running requested =>
    cases requested with
    | false => exact absurd rfl going
    | true =>
      refine ⟨_,cancelled_turns waits ran pumping there plain,?_,?_,by simp [end_task_ended there]⟩
      · simp only [endTask,List.getElem?_modify,if_neg apart,found]
        rfl
      · exact Function.update_of_ne (Ne.symm apart) _ _
  | ended how => exact ⟨x,turns_refl ran pumping,found,rfl,by rw [ended_iff.mpr ⟨_,there⟩]; rfl⟩

theorem last_turn (found : x.tasks[id]? = some ⟨.place .dispatch,.running cancelling⟩)
    (turned : pumpTurn x id = some (x.left id thrown)) : ∃ y, Turns ids i rest x y ∧ (y.ended? id).isSome := by
  have moved : ownerStep x (.pump id) = some (x.left id thrown) := by
    simpa [ownerStep,Owner.kind?,Owner.ended?,found] using turned
  refine ⟨_,turns_step waits ran pumping (.pump id) rfl rfl trivial moved (pump_others moved),?_⟩
  simp [Owner.left,end_task_ended found]

theorem leaving_ends (found : x.tasks[id]? = some ⟨.place .dispatch,.running cancelling⟩)
    (stands : x.pump id = .leaving waiter thrown) : ∃ y, Turns ids i rest x y ∧ (y.ended? id).isSome := by
  have sound := pumping.sound id
  rw [stands] at sound
  obtain ⟨y,turns,still,same,ended⟩ := inner_turns waits ran pumping found sound.1 (by simp) sound.2
  have left : pumpTurn y id = some (y.left id thrown) := by simp [pumpTurn,same,stands,ended]
  obtain ⟨z,last,done⟩ := last_turn (turns.2.call.trans waits) turns.2.within turns.2.pumping still left
  exact ⟨z,turns.trans last,done⟩

theorem letting_ends (found : x.tasks[id]? = some ⟨.place .dispatch,.running cancelling⟩)
    (stands : x.pump id = .letting waiter getter) : ∃ y, Turns ids i rest x y ∧ (y.ended? id).isSome := by
  have sound := pumping.sound id
  rw [stands] at sound
  obtain ⟨y,turns,still,same,ended⟩ := inner_turns waits ran pumping found sound.1.2 (by simp) sound.2
  have left : pumpTurn y id = some (y.left id false) := by simp [pumpTurn,same,stands,ended]
  obtain ⟨z,last,done⟩ := last_turn (turns.2.call.trans waits) turns.2.within turns.2.pumping still left
  exact ⟨z,turns.trans last,done⟩

theorem thrown_turns (found : x.tasks[id]? = some ⟨.place .dispatch,.running true⟩) (taken : cancelPump x id = some y) :
    Turns ids i rest x y := by
  have moved : ownerStep x (.deliver id) = some y := by simpa [ownerStep,deliverTask,found] using taken
  exact turns_step waits ran pumping (.deliver id) rfl rfl trivial moved (deliver_others moved)

theorem loop_ends (found : x.tasks[id]? = some ⟨.place .dispatch,.running true⟩) :
    ∃ y, Turns ids i rest x y ∧ (y.ended? id).isSome := by
  cases stands : x.pump id with
  | idle =>
    refine ⟨x.left id true,thrown_turns waits ran pumping found (by simp [cancelPump,stands]),?_⟩
    simp [Owner.left,end_task_ended found]
  | yielded waiter =>
    refine ⟨(x.leaveBehind waiter).left id true,thrown_turns waits ran pumping found (by simp [cancelPump,stands]),?_⟩
    simp [Owner.left,end_task_ended (left_behind_found found waiter)]
  | waiting waiter getter =>
    have sound := pumping.sound id
    rw [stands] at sound
    have turns := thrown_turns waits ran pumping found (y := (x.leaveBehind getter).leave id waiter true)
      (by simp [cancelPump,stands])
    have behind := left_behind_found found getter
    by_cases gone : ((x.leaveBehind getter).ended? waiter).isSome
    · refine ⟨_,turns,?_⟩
      simp [Owner.leave,gone,Owner.left,end_task_ended behind]
    · have apart : waiter ≠ id := by
        rintro rfl
        have known := sound.1
        simp [Owner.kind?,found] at known
      have left : (x.leaveBehind getter).leave id waiter true =
          ((x.leaveBehind getter).cancelAll [waiter]).setPump id (.leaving waiter true) := by simp [Owner.leave,gone]
      have still : ((x.leaveBehind getter).leave id waiter true).tasks[id]? = some ⟨.place .dispatch,.running true⟩ := by
        rw [left]
        simp [Owner.setPump,cancel_all_get,behind,Ne.symm apart]
      have stage : ((x.leaveBehind getter).leave id waiter true).pump id = .leaving waiter true := by
        rw [left]
        exact Function.update_self _ _ _
      obtain ⟨z,last,done⟩ := leaving_ends (turns.2.call.trans waits) turns.2.within turns.2.pumping still stage
      exact ⟨z,turns.trans last,done⟩
  | letting waiter getter => exact letting_ends waits ran pumping found stands
  | leaving waiter thrown => exact leaving_ends waits ran pumping found stands

-- Its cancellation is delivered, or its handshake is over.
theorem awaited_ends (member : id ∈ ids) : ∃ y, Turns ids i rest x y ∧ (y.ended? id).isSome := by
  obtain ⟨⟨kind,state⟩,found,-,status⟩ := ran.awaited id member
  cases state with
  | running cancelling =>
    cases cancelling with
    | true =>
      by_cases loop : kind = .place .dispatch
      · exact loop_ends waits ran pumping (loop ▸ found)
      · exact ⟨_,cancelled_turns waits ran pumping found loop,by simp [end_task_ended found]⟩
    | false =>
      obtain rfl : kind = .io := status.resolve_right fun other => other rfl
      have moved : ownerStep x (.complete id .returned) = some (endTask x id .finished) := by
        simp [ownerStep,completeTask,found,body]
      refine ⟨_,turns_step waits ran pumping (.complete id .returned) rfl rfl trivial moved ?_,by simp [end_task_ended found]⟩
      exact (pump_keeps_others x).ends x id .io false .finished found (by simp) (others_start x)
  | ended how => exact ⟨x,turns_refl ran pumping,by rw [ended_iff.mpr ⟨kind,found⟩]; rfl⟩

theorem all_awaited_end (some_of : todo ⊆ ids) : ∃ y, Turns ids i rest x y ∧ ∀ id ∈ todo, (y.ended? id).isSome := by
  induction todo with
  | nil => exact ⟨x,turns_refl ran pumping,by simp⟩
  | cons id todo ih =>
    obtain ⟨y,first,ended⟩ := ih fun _ member => some_of (.tail _ member)
    obtain ⟨z,second,now⟩ := awaited_ends (first.2.call.trans waits) first.2.within first.2.pumping (some_of (.head _))
    refine ⟨z,first.trans second,List.forall_mem_cons.mpr ⟨now,fun other member => ?_⟩⟩
    obtain ⟨how,gone⟩ := Option.isSome_iff_exists.mp (ended other member)
    rw [second.2.later.ended gone]
    rfl

end Turning

-- Each wake-up has fewer items left, so that the call comes to its end.
theorem waiting_completes (n : Nat) (short : rest.length < n) (waits : x.call = .waiting ids i rest)
    (ran : Within x ids i rest) (pumping : Pumping x) (fine : .drain .triggeredMotion ∈ rest → MotionFine x) :
    Completes x := by
  induction n generalizing x ids i rest with
  | zero => exact absurd short (Nat.not_lt_zero _)
  | succ n ih =>
    obtain ⟨y,⟨⟨actions,turns,path⟩,turned⟩,ended⟩ := all_awaited_end waits ran pumping (List.Subset.refl ids)
    have waiting := turned.call.trans waits
    have steady : .drain .triggeredMotion ∈ rest → MotionFine y := fun ahead => turned.fine (fine ahead)
    have stands := Procedure.resume_stands teardown_keeps (.waiting ids i rest) y ⟨turned.within,steady⟩
    have woken : ownerStep y .wake = some (settleCall (teardown.resume y (.waiting ids i rest))) := by
      simp [ownerStep,waiting_of waiting,waiting]
    have onward : ∀ z, ownerStep y .wake = some z → Completes z → Completes x := by
      rintro z moved ⟨more,last,others,later,returned⟩
      refine ⟨actions ++ .wake :: more,last,?_,?_,returned⟩
      · exact List.forall_mem_append.mpr ⟨turns,List.forall_mem_cons.mpr ⟨rfl,others⟩⟩
      rw [run_append,path]
      simp only [Option.bind_some,run,moved]
      exact later
    cases result : teardown.resume y (.waiting ids i rest) with
    | mk z call =>
      rw [result] at woken stands
      refine onward _ woken ?_
      cases call with
      | waiting ids' j later =>
        have waited : (teardown.resume y (.waiting ids i rest)).2 = .waiting ids' j later := by rw [result]
        have shorter := Procedure.resume_shorter ended waited
        have pumps := pumping_step turned.within.sane turned.pumping woken
        exact ih (Nat.lt_of_lt_of_le shorter (Nat.le_of_lt_succ short)) rfl (within_call stands.1 _) pumps stands.2
      | returned => exact ⟨[],_,by simp,rfl,rfl⟩
      | raised e => cases stands
      | idle => cases stands

-- A call never raises, leaves nothing but the tasks it does not await, and comes to its return.
structure Ends (a : OwnerAction ε) (x : Owner ε) : Prop where
  raised : ∀ e, x.call ≠ .raised e
  letGo : a.isTeardown = true → x.call = .returned → LetGo x
  waiting : x.isWaiting = true → (.drain .triggeredMotion ∈ aheadOf x → MotionFine x) → Completes x

structure Total (a : OwnerAction ε) (x : Owner ε) : Prop extends Ends a x where
  ended : a.isTeardown = true → x.call = .returned → ∀ id ∈ x.owned, (x.ended? id).isSome
  again : a.isTeardown = true → x.call = .returned → ownerStep x (again x) = some {x with owned := []}

theorem standing_completes (standing : Standing x) (pumping : Pumping x) (busy : x.isWaiting = true)
    (fine : .drain .triggeredMotion ∈ aheadOf x → MotionFine x) : Completes x := by
  cases call : x.call with
  | waiting ids i rest =>
    simp only [Standing,call] at standing
    simp only [aheadOf,call] at fine
    exact waiting_completes (rest.length + 1) (Nat.lt_succ_self _) call standing pumping fine
  | _ => simp [Owner.isWaiting,call] at busy

theorem settled_returned (settled : Settled x) (returned : x.call = .returned) : Between x [] := by
  simpa only [Settled,returned] using settled

theorem settled_ends (settled : Settled x) (pumping : Pumping x) : Ends a x where
  raised := standing_unraised (settled_standing settled)
  letGo _ returned := returned_left (settled_returned settled returned)
  waiting := standing_completes (settled_standing settled) pumping

theorem settled_total (settled : Settled x) (pumping : Pumping x)
    (subsided : x.call = .returned → Subsided x x.full x.owned) : Total a x where
  toEnds := settled_ends settled pumping
  ended _ returned := returned_ended (settled_returned settled returned) (subsided returned)
  again _ returned := returned_again returned (settled_returned settled returned) pumping (subsided returned)

theorem standing_total (standing : Standing x) (pumping : Pumping x) (incident : a.isTeardown = false) : Total a x := by
  have none_of (acts : a.isTeardown = true) : False := by
    rw [incident] at acts
    cases acts
  exact ⟨⟨standing_unraised standing,fun acts => (none_of acts).elim,standing_completes standing pumping⟩,
    fun acts => (none_of acts).elim,fun acts => (none_of acts).elim⟩

theorem initial_sane (ownsStream : Bool) : Sane (Owner.initial ownsStream : Owner ε) := by
  constructor
  · intro k id found
    cases found
  · intro id member
    cases member
  · intro id member
    cases member
  · intro id e failed
    simp [Owner.initial,Owner.ended?] at failed

theorem initial_pumping (ownsStream : Bool) : Pumping (Owner.initial ownsStream : Owner ε) :=
  ⟨fun _ => trivial,fun _ member => by cases member⟩

theorem sheltered_total (sane : Sane x) (pumping : Pumping x) (standing : Standing x) (moved : ownerStep x a = some y)
    (sheltered : Sheltered x a) : Standing y ∧ Total a y := by
  obtain ⟨calm,fine,outlasts⟩ := sheltered
  have pumps := pumping_step sane pumping moved
  cases acts : a.isTeardown with
  | true =>
    have settled := teardown_settled sane pumping standing acts fine moved
    exact ⟨settled_standing settled,settled_total settled pumps (outlasted (fun _ => standing) acts outlasts moved)⟩
  | false =>
    have stands := incident_standing standing (fun _ => calm) acts moved
    exact ⟨stands,standing_total stands pumps acts⟩

-- `close()` alone asks nothing of the incidents.
theorem close_settled (sane : Sane x) (pumping : Pumping x) (standing : x.full = false → Standing x)
    (moved : ownerStep x a = some y) (client : y.full = false) (acts : a.isTeardown = true) : Settled y := by
  cases a
  case stop =>
    obtain ⟨-,rfl⟩ := by simpa [ownerStep] using moved
    rw [call_full] at client
    cases client
  case close =>
    obtain ⟨-,rfl⟩ := by simpa [ownerStep] using moved
    exact call_settled sane pumping fun whole => by cases whole
  case wake =>
    have same : y.full = x.full := by
      obtain ⟨-,rfl⟩ := by simpa [ownerStep] using moved
      exact resume_full x
    have stands := standing (same.symm.trans client)
    refine teardown_settled sane pumping stands rfl ?_ moved
    intro arrives
    cases call : x.call with
    | waiting ids i rest =>
      simp only [Standing,call] at stands
      have member := code_mem stands.code
      rw [← same,client] at member
      simp only [Arrives,call] at arrives
      cases i
      case drain k => cases k <;> first | cases arrives | exact absurd member (by decide)
      all_goals cases arrives
    | _ => simp [Arrives,call] at arrives
  all_goals cases acts

theorem wake_full (moved : ownerStep x .wake = some y) : y.full = x.full := by
  obtain ⟨-,rfl⟩ := by simpa [ownerStep] using moved
  exact resume_full x

theorem close_standing (standing : x.full = false → Standing x) (moved : ownerStep x a = some y) (client : y.full = false)
    (incident : a.isTeardown = false) : Standing y := by
  have same := (incident_call incident moved).2
  refine incident_standing (standing (same.symm.trans client)) ?_ incident moved
  intro whole
  rw [← same,client] at whole
  cases whole

theorem close_ends (sane : Sane x) (pumping : Pumping x) (standing : x.full = false → Standing x)
    (moved : ownerStep x a = some y) (client : y.full = false) :
    Standing y ∧ Ends a y ∧ (Outlasts x a → Total a y) := by
  have pumps := pumping_step sane pumping moved
  cases acts : a.isTeardown with
  | true =>
    have settled := close_settled sane pumping standing moved client acts
    refine ⟨settled_standing settled,settled_ends settled pumps,fun outlasts => settled_total settled pumps ?_⟩
    refine outlasted ?_ acts outlasts moved
    rintro rfl
    exact standing ((wake_full moved).symm.trans client)
  | false =>
    have stands := close_standing standing moved client acts
    have total := standing_total stands pumps acts
    exact ⟨stands,total.toEnds,fun _ => total⟩

-- The waiter that the stop leaves is finalized, and the tasks end turn by turn.
def stoppedRun : List (OwnerAction String) :=
  [.connect,.startEvents,.pump 1,.install,.startReconcile,.socket true,.latch,.complete 5 .returned,.frame,
    .complete 3 .returned,.pump 1,.stop,.deliver 4,.wake,.deliver 1,.finalize 2,.deliver 2,.wake,.complete 6 .returned,
    .wake,.deliver 0,.wake,.complete 7 .returned,.wake,.complete 8 .returned,.wake]

-- Every `stop()` raises the exception of the re-read again, before it comes to the transports.
def failedRun : List (OwnerAction String) :=
  [.connect,.startEvents,.install,.startReconcile,.socket true,.latch,.complete 3 (.raised false "ValidationError"),.stop,
    .deliver 2,.wake]

-- The loop is cancelled while it waits for an envelope, and nobody cancels its getter.
def closedRun : List (OwnerAction String) :=
  [.connect,.startEvents,.pump 1,.close,.deliver 1,.deliver 2,.pump 1,.wake,.deliver 0,.wake,.complete 4 .returned,.wake,
    .complete 5 .returned,.wake]

def Owner.remains (x : Owner ε) : Call Item ε × Bool × Bool × Bool × Bool × CentralState :=
  (x.call,x.refreshGroup,x.wireGroup,x.httpSession,x.socketOpen,x.state)

end LoomClient.Compat.Teardown
