import LoomClient.Transport.Reconnect

namespace LoomClient.Transport
open Lib

structure PassLedger where
  attempt : Nat
  started : ℚ
  connects : Nat
  createdAt : Option ℚ
  cycles : List Cycle
  rejected : Bool

def ReaderLoop.ledger (x : ReaderLoop) : PassLedger := ⟨x.attempt,x.started,x.connects,x.createdAt,x.cycles,x.rejected⟩

def LoopPhase.running : LoopPhase → Bool
  | .connecting | .subscribing | .announcing | .reading | .disowned | .withdrawing _ | .leaving _ => true
  | _ => false

def Onward (before after : LoopPhase) : Prop :=
  after = before ∨ after = .absent ∨ (before.running = true ∧ after.running = true)

structure Idle (x y : ReaderLoop) : Prop where
  ledger : y.ledger = x.ledger
  clock : x.now ≤ y.now
  onward : Onward x.phase y.phase

structure Quiet (x y : ReaderLoop) : Prop extends Idle x y where
  failures : y.authFailures = x.authFailures

inductive Booked (c : LoopConfig) (x : ReaderLoop) : LoopAction → ReaderLoop → Prop where
  | idle (same : Quiet x y) (unrefused : ∀ e draw, a ≠ .upgradeRefused e draw) (frame : a ≠ .reauthFailed) : Booked c x a y
  | disowned (reading : x.phase = .reading) : Booked c x .reauthFailed (reauthFailed c x)
  | created (gone : x.phase = .absent) (zero : y.ledger = ⟨0,x.started,0,some x.now,[],false⟩)
      (phase : y.phase = .created) (clock : y.now = x.now) (failures : y.authFailures = x.authFailures) : Booked c x .start y
  | pass (unrefused : ∀ e draw, a ≠ .upgradeRefused e draw) (frame : a ≠ .reauthFailed)
      (due : x.phase = .created ∨ ∃ wake, x.phase = .sleeping wake ∧ wake ≤ x.now) : Booked c x a (nextPass x)
  | finished (running : x.phase.running = true) (drawn : inUnit draw = true)
      (cleared : ∀ e draw, a = .upgradeRefused e draw → (upgradeRefused c.boxIngress e).rejects = false)
      (frame : a ≠ .reauthFailed) : Booked c x a (endPass clean draw x)
  | rejected (connecting : x.phase = .connecting) (final : (upgradeRefused c.boxIngress e).rejects = true) :
      Booked c x (.upgradeRefused e draw) (tellAuthFailed c {x with rejected := true})

section Steps
variable {c : LoopConfig} {x : ReaderLoop}

theorem report_idle {connected : Bool} {waiting next : ReaderLoop → ReaderLoop}
    (later : ∀ y, y.phase = x.phase → Quiet y (waiting y)) (after : ∀ y, y.phase = x.phase → Quiet y (next y)) :
    Quiet x (reportConnectionState c connected waiting next x) := by
  unfold reportConnectionState
  repeat' split
  · exact after x rfl
  · have held := later {x with reportedConnected := connected,told := x.told ++ [connected]} rfl
    exact ⟨⟨held.ledger,held.clock,held.onward⟩,held.failures⟩
  · have held := after {x with reportedConnected := connected} rfl
    exact ⟨⟨held.ledger,held.clock,held.onward⟩,held.failures⟩

theorem idle_goto (x : ReaderLoop) (onward : Onward x.phase phase) : Quiet x (x.goto phase) := ⟨⟨rfl,le_refl _,onward⟩,rfl⟩

theorem end_reading_idle (running : x.phase.running = true) (ending : Ending) : Quiet x (endReading c ending x) := by
  apply report_idle
  · intro y same
    exact idle_goto y (.inr (.inr ⟨same ▸ running,rfl⟩))
  · intro y same
    exact idle_goto y (.inr (.inr ⟨same ▸ running,rfl⟩))

theorem start_reading_idle (running : x.phase.running = true) : Quiet x (startReading c x) := by
  unfold startReading
  split
  · exact end_reading_idle running .returned
  · exact idle_goto x (.inr (.inr ⟨running,rfl⟩))

theorem announce_idle (running : x.phase.running = true) : Quiet x (announce c x) := by
  apply report_idle
  · intro y same
    exact idle_goto y (.inr (.inr ⟨same ▸ running,rfl⟩))
  · intro y same
    exact start_reading_idle (same ▸ running)

theorem finish_stop_idle (x : ReaderLoop) : Quiet x (finishStop c x) := by
  have held : Quiet {x with session := false} (finishStop c x) := by
    apply report_idle
    · intro y _
      exact ⟨⟨rfl,le_refl _,.inl rfl⟩,rfl⟩
    · intro y _
      exact ⟨⟨rfl,le_refl _,.inl rfl⟩,rfl⟩
  exact ⟨⟨held.ledger,held.clock,held.onward⟩,held.failures⟩

theorem close_session_idle (x : ReaderLoop) : Quiet x (closeSession c x) := by
  unfold closeSession
  split
  · exact ⟨⟨rfl,le_refl _,.inl rfl⟩,rfl⟩
  · exact finish_stop_idle x

theorem cancel_task_idle (x : ReaderLoop) : Quiet x (cancelTask c x) := by
  unfold cancelTask
  split
  · exact close_session_idle x
  · exact ⟨⟨rfl,le_refl _,.inl rfl⟩,rfl⟩

theorem cancelled_idle (x : ReaderLoop) : Quiet x (cancelledAt c x) := by
  unfold cancelledAt
  split
  · rename_i here
    exact idle_goto x (.inr (.inr ⟨by rw [here]; rfl,rfl⟩))
  · rename_i here
    exact idle_goto x (.inr (.inr ⟨by rw [here]; rfl,rfl⟩))
  · rename_i here
    exact end_reading_idle (by rw [here]; rfl) .cancelled
  · rename_i here
    exact end_reading_idle (by rw [here]; rfl) .cancelled
  · rename_i here
    exact idle_goto x (.inr (.inr ⟨by rw [here]; rfl,rfl⟩))
  · exact idle_goto x (.inr (.inl rfl))

theorem fail_upgrade_booked (coherent : Coherent x) (connecting : x.phase = .connecting) (drawn : inUnit draw = true) :
    Booked c x (.upgradeRefused e draw) (failUpgrade c (upgradeRefused c.boxIngress e) draw x) := by
  unfold failUpgrade
  split
  · rename_i final
    rw [reject_untold (connecting_down coherent connecting)]
    exact .rejected connecting final
  · rename_i passing
    refine .finished (by rw [connecting]; rfl) drawn ?_ (by simp)
    intro e' draw' same
    cases same
    simpa using passing

theorem handled_booked (coherent : Coherent x) (back : handledAt c x = some y) : Quiet x y := by
  unfold handledAt at back
  split at back
  · rename_i here
    cases back
    exact start_reading_idle (by rw [here]; rfl)
  · rename_i here
    cases back
    exact start_reading_idle (by rw [here]; rfl)
  · rename_i here
    cases back
    exact idle_goto x (.inr (.inr ⟨by rw [here]; rfl,rfl⟩))
  · rename_i here
    exact (coherent.untold here).elim
  · cases back
    exact ⟨⟨rfl,le_refl _,.inr (.inl rfl)⟩,rfl⟩
  · cases back

theorem start_booked (stepped : loopStep c x .start = some y) : Booked c x .start y := by
  simp only [loopStep] at stepped
  repeat' split at stepped
  · cases stepped
  · cases stepped
    exact .idle ⟨⟨rfl,le_refl _,.inl rfl⟩,rfl⟩ (by simp) (by simp)
  · rename_i gone
    cases stepped
    exact .created (by simpa using gone) rfl rfl rfl rfl

theorem subscribed_booked {sent : Bool} (stepped : loopStep c x (.subscribed sent) = some y) : Booked c x (.subscribed sent) y := by
  obtain ⟨enabled,rfl⟩ := when_some stepped
  simp at enabled
  have running : x.phase.running = true := by rw [enabled.2]; rfl
  split
  · exact .idle (announce_idle running) (by simp) (by simp)
  · exact .idle (idle_goto x (.inr (.inr ⟨running,rfl⟩))) (by simp) (by simp)

theorem left_booked {closed : Bool} {draw : ℚ} (stepped : loopStep c x (.left closed draw) = some y) : Booked c x (.left closed draw) y := by
  simp only [loopStep,leftAt] at stepped
  split at stepped
  · cases stepped
  · rename_i drawn
    simp at drawn
    split at stepped
    · rename_i ending here
      have running : x.phase.running = true := by rw [here]; rfl
      cases stepped
      split
      · exact .idle (idle_goto x (.inr (.inl rfl))) (by simp) (by simp)
      · exact .finished running drawn.2 (by simp) (by simp)
      · exact .finished running drawn.2 (by simp) (by simp)
    · cases stepped

theorem woke_booked (stepped : loopStep c x .woke = some y) : Booked c x .woke y := by
  simp only [loopStep] at stepped
  split at stepped
  · rename_i wake sleeping
    obtain ⟨enabled,rfl⟩ := when_some stepped
    simp at enabled
    exact .pass (by simp) (by simp) (.inr ⟨wake,sleeping,enabled.2⟩)
  · cases stepped

theorem stop_booked {socketClosed : Bool} (stepped : loopStep c x (.stop socketClosed) = some y) : Booked c x (.stop socketClosed) y := by
  simp only [loopStep] at stepped
  repeat' split at stepped
  · cases stepped
  · cases stepped
    exact .idle ⟨⟨rfl,le_refl _,.inl rfl⟩,rfl⟩ (by simp) (by simp)
  · cases stepped
    have held := cancel_task_idle (c := c) {x with closing := true}
    exact .idle ⟨⟨held.ledger,held.clock,held.onward⟩,held.failures⟩ (by simp) (by simp)

theorem step_booked (coherent : Coherent x) (stepped : loopStep c x a = some y) : Booked c x a y := by
  cases a with
  | elapse seconds =>
    obtain ⟨forward,rfl⟩ := when_some stepped
    simp at forward
    exact .idle ⟨⟨rfl,by simpa using forward,.inl rfl⟩,rfl⟩ (by simp) (by simp)
  | start => exact start_booked stepped
  | begun =>
    obtain ⟨enabled,rfl⟩ := when_some stepped
    simp at enabled
    exact .pass (by simp) (by simp) (.inl enabled.2)
  | upgradeFailed draw =>
    obtain ⟨enabled,rfl⟩ := when_some stepped
    simp at enabled
    exact .finished (by rw [enabled.1.2]; rfl) enabled.2 (by simp) (by simp)
  | upgradeRefused e draw =>
    obtain ⟨enabled,rfl⟩ := when_some stepped
    simp at enabled
    exact fail_upgrade_booked coherent enabled.1.2 enabled.2
  | opened =>
    obtain ⟨enabled,rfl⟩ := when_some stepped
    simp at enabled
    exact .idle (idle_goto x (.inr (.inr ⟨by rw [enabled.2]; rfl,rfl⟩))) (by simp) (by simp)
  | subscribed => exact subscribed_booked stepped
  | handled =>
    simp only [loopStep] at stepped
    split at stepped
    · cases stepped
    · exact .idle (handled_booked coherent stepped) (by simp) (by simp)
  | reauthFailed =>
    obtain ⟨enabled,rfl⟩ := when_some stepped
    simp at enabled
    exact .disowned enabled.2
  | readEnded clean =>
    obtain ⟨enabled,rfl⟩ := when_some stepped
    simp at enabled
    exact .idle (end_reading_idle (by rw [enabled.2]; rfl) _) (by simp) (by simp)
  | left => exact left_booked stepped
  | woke => exact woke_booked stepped
  | cancelled =>
    obtain ⟨_,rfl⟩ := when_some stepped
    have held := cancelled_idle (c := c) {x with cancelling := false}
    exact .idle ⟨⟨held.ledger,held.clock,held.onward⟩,held.failures⟩ (by simp) (by simp)
  | caught =>
    obtain ⟨_,rfl⟩ := when_some stepped
    exact .idle ⟨⟨rfl,le_refl _,.inl rfl⟩,rfl⟩ (by simp) (by simp)
  | stop => exact stop_booked stepped
  | socketClosed => obtain ⟨_,rfl⟩ := when_some stepped; exact .idle (cancel_task_idle x) (by simp) (by simp)
  | taskEnded => obtain ⟨_,rfl⟩ := when_some stepped; exact .idle (close_session_idle x) (by simp) (by simp)
  | sessionClosed => obtain ⟨_,rfl⟩ := when_some stepped; exact .idle (finish_stop_idle x) (by simp) (by simp)
  | withdrawn => obtain ⟨_,rfl⟩ := when_some stepped; exact .idle ⟨⟨rfl,le_refl _,.inl rfl⟩,rfl⟩ (by simp) (by simp)

end Steps

def Cycle.healthy (y : Cycle) : Bool := y.clean && decide (healthyConnectionSeconds ≤ y.ended - y.started)

-- The passes since the last healthy connection, that one included.
def streak : List Cycle → Nat
  | [] => 0
  | y :: earlier => (if y.healthy then 0 else streak earlier) + 1

-- When the next pass may start, and the latest moment the history speaks of.
def ready (createdAt : ℚ) : List Cycle → ℚ
  | [] => createdAt
  | y :: _ => y.ended + y.delay

def reached (createdAt : ℚ) : List Cycle → ℚ
  | [] => createdAt
  | y :: _ => y.ended

-- Every wait stays within the jitter of its step on the ladder, and is over before the next pass.
def Spaced (createdAt : ℚ) : List Cycle → Prop
  | [] => True
  | y :: earlier =>
    let step := ladderStep (if y.healthy then 0 else streak earlier)
    ready createdAt earlier ≤ y.started ∧ y.started ≤ y.ended ∧
      (1 - reconnectJitterShare) * step ≤ y.delay ∧ y.delay ≤ (1 + reconnectJitterShare) * step ∧ Spaced createdAt earlier

theorem ladder_step_values (k : Nat) :
    (k = 0 ∧ ladderStep k = 1 / 2) ∨ (k = 1 ∧ ladderStep k = 2) ∨ (k = 2 ∧ ladderStep k = 5) ∨ (k = 3 ∧ ladderStep k = 15) ∨
      (4 ≤ k ∧ ladderStep k = 30) := by
  rcases k with _ | _ | _ | _ | k
  · exact .inl ⟨rfl,rfl⟩
  · exact .inr (.inl ⟨rfl,rfl⟩)
  · exact .inr (.inr (.inl ⟨rfl,rfl⟩))
  · exact .inr (.inr (.inr (.inl ⟨rfl,rfl⟩)))
  · refine .inr (.inr (.inr (.inr ⟨by omega,?_⟩)))
    have clamped : min (k + 1 + 1 + 1 + 1) 4 = 4 := by omega
    simp only [ladderStep,reconnectBackoff,List.length_cons,List.length_nil]
    exact congrArg (fun n => [(1 : ℚ) / 2,2,5,15,30].getD n 0) clamped

theorem ladder_step_nonneg (k : Nat) : 0 ≤ ladderStep k := by
  rcases ladder_step_values k with h | h | h | h | h <;> rw [h.2] <;> norm_num

theorem backoff_delay_within (attempt : Nat) (drawn : inUnit draw = true) :
    (1 - reconnectJitterShare) * ladderStep attempt ≤ backoffDelay attempt draw ∧
      backoffDelay attempt draw ≤ (1 + reconnectJitterShare) * ladderStep attempt := by
  simp only [inUnit,Bool.and_eq_true,decide_eq_true_eq] at drawn
  have step := ladder_step_nonneg attempt
  have share : (0 : ℚ) ≤ reconnectJitterShare := by norm_num [reconnectJitterShare]
  have spread := mul_nonneg step share
  have low := mul_nonneg spread drawn.1
  have high := mul_nonneg spread (sub_nonneg.mpr drawn.2)
  simp only [backoffDelay,uniform]
  constructor <;> linarith

-- What a pass costs against what the clock pays for it, by the step it waits on.
def allowance : Nat → ℚ
  | 0 => 16
  | 1 => 154 / 5
  | 2 => 42
  | _ => 46

theorem allowance_le (k : Nat) : allowance k ≤ 46 := by
  rcases k with _ | _ | _ | k
  · norm_num [allowance]
  · norm_num [allowance]
  · norm_num [allowance]
  · exact le_refl _

theorem allowance_step (k : Nat) : allowance k + 16 ≤ 3 * ((1 - reconnectJitterShare) * ladderStep k) + allowance (k + 1) := by
  rcases ladder_step_values k with ⟨rfl,h⟩ | ⟨rfl,h⟩ | ⟨rfl,h⟩ | ⟨rfl,h⟩ | ⟨above,h⟩
  · rw [h]; norm_num [allowance,reconnectJitterShare]
  · rw [h]; norm_num [allowance,reconnectJitterShare]
  · rw [h]; norm_num [allowance,reconnectJitterShare]
  · rw [h]; norm_num [allowance,reconnectJitterShare]
  · have before := allowance_le k
    obtain ⟨j,rfl⟩ : ∃ j, k = j + 3 := ⟨k - 3,by omega⟩
    have after : allowance (j + 3 + 1) = 46 := rfl
    rw [h,after]
    norm_num [reconnectJitterShare]
    linarith

theorem allowance_reset (k : Nat) : allowance k + 16 ≤ 3 * (healthyConnectionSeconds + (1 - reconnectJitterShare) * ladderStep 0) + allowance 1 := by
  have before := allowance_le k
  have first : ladderStep 0 = 1 / 2 := rfl
  have one : allowance 1 = 154 / 5 := rfl
  rw [first,one]
  norm_num [reconnectJitterShare,healthyConnectionSeconds]
  linarith

theorem spaced_rate (spaced : Spaced createdAt cycles) :
    16 * ((cycles.length : ℚ) + 1) ≤ 3 * (ready createdAt cycles - createdAt) + allowance (streak cycles) := by
  induction cycles with
  | nil => norm_num [ready,streak,allowance]
  | cons y earlier ih =>
    obtain ⟨after,forward,low,_,before⟩ := spaced
    have paid := ih before
    simp only [List.length_cons,Nat.cast_add,Nat.cast_one,ready,streak]
    by_cases healthy : y.healthy = true
    · rw [if_pos healthy] at low ⊢
      have charge := allowance_reset (streak earlier)
      simp only [Cycle.healthy,Bool.and_eq_true,decide_eq_true_eq] at healthy
      have up := healthy.2
      have one : allowance (0 + 1) = allowance 1 := rfl
      rw [one]
      linarith
    · rw [if_neg healthy] at low ⊢
      have charge := allowance_step (streak earlier)
      linarith

structure Underway (createdAt : ℚ) (x : ReaderLoop) : Prop where
  counted : x.connects = x.cycles.length + 1
  waited : ready createdAt x.cycles ≤ x.started
  begun : x.started ≤ x.now

structure Paced (createdAt : ℚ) (x : ReaderLoop) : Prop where
  spaced : Spaced createdAt x.cycles
  clock : reached createdAt x.cycles ≤ x.now
  counted : x.connects ≤ x.cycles.length ∨ Underway createdAt x
  created : x.phase = .created → x.cycles = [] ∧ x.connects = 0 ∧ x.attempt = 0
  running : x.phase.running = true → Underway createdAt x ∧ x.attempt = streak x.cycles
  sleeping : ∀ wake, x.phase = .sleeping wake →
    wake = ready createdAt x.cycles ∧ x.connects = x.cycles.length ∧ x.attempt = streak x.cycles

section Paces
variable {x : ReaderLoop} {createdAt : ℚ}

theorem underway_idle (underway : Underway createdAt x) (same : Idle x y) : Underway createdAt y := by
  obtain ⟨ledger,clock,_⟩ := same
  simp only [ReaderLoop.ledger,PassLedger.mk.injEq] at ledger
  obtain ⟨_,started,connects,_,cycles,_⟩ := ledger
  refine ⟨?_,?_,?_⟩
  · rw [connects,cycles]; exact underway.counted
  · rw [cycles,started]; exact underway.waited
  · rw [started]; exact le_trans underway.begun clock

theorem idle_paced (paced : Paced createdAt x) (same : Idle x y) : Paced createdAt y := by
  have carried := fun underway : Underway createdAt x => underway_idle underway same
  obtain ⟨ledger,clock,onward⟩ := same
  simp only [ReaderLoop.ledger,PassLedger.mk.injEq] at ledger
  obtain ⟨attempt,started,connects,_,cycles,_⟩ := ledger
  refine ⟨cycles ▸ paced.spaced,?_,?_,?_,?_,?_⟩
  · rw [cycles]
    exact le_trans paced.clock clock
  · rw [connects,cycles]
    exact paced.counted.imp id carried
  · intro here
    rw [cycles,connects,attempt]
    rcases onward with phase | phase | phase
    · exact paced.created (phase ▸ here)
    · rw [phase] at here; cases here
    · rw [here] at phase; cases phase.2
  · intro here
    have before : x.phase.running = true := by
      rcases onward with phase | phase | phase
      · exact phase ▸ here
      · rw [phase] at here; cases here
      · exact phase.1
    rw [attempt,cycles]
    exact (paced.running before).imp carried id
  · intro wake here
    rw [cycles,connects,attempt]
    rcases onward with phase | phase | phase
    · exact paced.sleeping wake (phase ▸ here)
    · rw [phase] at here; cases here
    · rw [here] at phase; cases phase.2

theorem pass_paced (paced : Paced createdAt x) (due : x.phase = .created ∨ ∃ wake, x.phase = .sleeping wake ∧ wake ≤ x.now) :
    Paced createdAt (nextPass x) := by
  unfold nextPass
  split
  · exact idle_paced paced (idle_goto x (.inr (.inl rfl))).toIdle
  · have facts : ready createdAt x.cycles ≤ x.now ∧ x.connects = x.cycles.length ∧ x.attempt = streak x.cycles := by
      rcases due with here | ⟨wake,here,elapsed⟩
      · obtain ⟨none,zero,first⟩ := paced.created here
        have clock := paced.clock
        rw [none] at clock ⊢
        exact ⟨clock,zero,first⟩
      · obtain ⟨same,counted,attempt⟩ := paced.sleeping wake here
        exact ⟨same ▸ elapsed,counted,attempt⟩
    obtain ⟨waited,counted,attempt⟩ := facts
    have underway : Underway createdAt {x with phase := .connecting,started := x.now,connects := x.connects + 1} :=
      ⟨congrArg (· + 1) counted,waited,le_refl _⟩
    exact ⟨paced.spaced,paced.clock,.inr underway,by simp,fun _ => ⟨underway,attempt⟩,by simp⟩

theorem over_paced (paced : Paced createdAt x) (running : x.phase.running = true) (drawn : inUnit draw = true) (clean : Bool) :
    Paced createdAt (endPass clean draw x) := by
  obtain ⟨underway,attempt⟩ := paced.running running
  simp only [endPass]
  cases closing : x.closing with
  | true =>
    simp only [if_true]
    exact ⟨paced.spaced,paced.clock,paced.counted.imp id fun held => ⟨held.counted,held.waited,held.begun⟩,by simp,by simp [LoopPhase.running],by simp⟩
  | false =>
    simp only [Bool.false_eq_true,if_false,attempt]
    -- The step the code chose is the one the history tells.
    have within := backoff_delay_within (if clean && decide (healthyConnectionSeconds ≤ x.now - x.started) then 0 else streak x.cycles) drawn
    refine ⟨⟨underway.waited,underway.begun,within.1,within.2,paced.spaced⟩,le_refl _,.inl ?_,by simp,by simp [LoopPhase.running],?_⟩
    · exact le_of_eq underway.counted
    · intro wake here
      cases here
      exact ⟨rfl,underway.counted,rfl⟩

theorem rejected_paced (paced : Paced createdAt x) : Paced createdAt (tellAuthFailed c {x with rejected := true}) := by
  have counted : x.connects ≤ x.cycles.length ∨ Underway createdAt {x with rejected := true} :=
    paced.counted.imp id fun held => ⟨held.counted,held.waited,held.begun⟩
  unfold tellAuthFailed
  split
  · exact ⟨paced.spaced,paced.clock,counted.imp id fun held => ⟨held.counted,held.waited,held.begun⟩,by simp,by simp [LoopPhase.running],by simp⟩
  · exact ⟨paced.spaced,paced.clock,counted.imp id fun held => ⟨held.counted,held.waited,held.begun⟩,by simp,by simp [LoopPhase.running],by simp⟩

theorem created_paced (zero : y.ledger = ⟨0,started,0,some createdAt,[],false⟩) (phase : y.phase = .created)
    (clock : y.now = createdAt) : Paced createdAt y := by
  simp only [ReaderLoop.ledger,PassLedger.mk.injEq] at zero
  obtain ⟨attempt,_,connects,_,cycles,_⟩ := zero
  refine ⟨?_,?_,.inl ?_,?_,?_,?_⟩
  · rw [cycles]; trivial
  · rw [cycles,clock]; exact le_refl _
  · rw [connects]; exact Nat.zero_le _
  · intro _; exact ⟨cycles,connects,attempt⟩
  · intro running; rw [phase] at running; cases running
  · intro wake sleeping; rw [phase] at sleeping; cases sleeping

theorem end_pass_created_at (x : ReaderLoop) (clean : Bool) (draw : ℚ) : (endPass clean draw x).createdAt = x.createdAt := by
  simp only [endPass]
  cases x.closing <;> rfl

end Paces

-- The pace since the task was created; before the first `start()` nothing connects.
def AtPace (x : ReaderLoop) : Prop := match x.createdAt with
  | none => x.connects = 0
  | some createdAt => Paced createdAt x

theorem at_pace_iff (since : x.createdAt = some createdAt) : AtPace x ↔ Paced createdAt x := by
  unfold AtPace
  rw [since]

theorem idle_at_pace (paced : AtPace x) (same : Idle x y) : AtPace y := by
  have ledger := same.ledger
  simp only [ReaderLoop.ledger,PassLedger.mk.injEq] at ledger
  obtain ⟨_,_,connects,createdAt,_⟩ := ledger
  cases held : x.createdAt with
  | none =>
    unfold AtPace at paced ⊢
    rw [held] at paced
    rw [createdAt,held]
    exact connects.trans paced
  | some since => exact (at_pace_iff (createdAt.trans held)).mpr (idle_paced ((at_pace_iff held).mp paced) same)

theorem reauth_failed_idle (running : x.phase.running = true) : Idle x (reauthFailed c x) := by
  unfold reauthFailed
  split
  · exact ⟨rfl,le_refl _,.inr (.inr ⟨running,rfl⟩)⟩
  · exact ⟨rfl,le_refl _,.inl rfl⟩

theorem booked_at_pace (coherent : Coherent x) (paced : AtPace x) (booked : Booked c x a y) : AtPace y := by
  cases booked with
  | idle same _ _ => exact idle_at_pace paced same.toIdle
  | disowned reading => exact idle_at_pace paced (reauth_failed_idle (by rw [reading]; rfl))
  | created gone zero phase clock _ =>
    exact (at_pace_iff (congrArg PassLedger.createdAt zero)).mpr (created_paced zero phase clock)
  | pass _ _ due =>
    have living : x.createdAt.isSome := coherent.living fun gone => by
      rcases due with here | ⟨_,here,_⟩ <;> rw [gone] at here <;> cases here
    obtain ⟨since,held⟩ := Option.isSome_iff_exists.mp living
    have same : (nextPass x).createdAt = x.createdAt := by
      unfold nextPass
      split <;> rfl
    exact (at_pace_iff (same.trans held)).mpr (pass_paced ((at_pace_iff held).mp paced) due)
  | finished running drawn _ _ =>
    have living : x.createdAt.isSome := coherent.living fun gone => by rw [gone] at running; cases running
    obtain ⟨since,held⟩ := Option.isSome_iff_exists.mp living
    have same := end_pass_created_at x
    exact (at_pace_iff ((same _ _).trans held)).mpr (over_paced ((at_pace_iff held).mp paced) running drawn _)
  | rejected connecting _ =>
    have living : x.createdAt.isSome := coherent.living fun gone => by rw [gone] at connecting; cases connecting
    obtain ⟨since,held⟩ := Option.isSome_iff_exists.mp living
    have same : (tellAuthFailed c {x with rejected := true}).createdAt = x.createdAt := by
      unfold tellAuthFailed
      split <;> rfl
    exact (at_pace_iff (same.trans held)).mpr (rejected_paced ((at_pace_iff held).mp paced))

theorem always_at_pace (c : LoopConfig) (now : ℚ) (actions : List LoopAction) :
    Always (loopStep c) (fun x => Coherent x ∧ AtPace x) (.fresh now) actions :=
  always_of_invariant ⟨fresh_coherent now,rfl⟩ fun _ _ _ held stepped =>
    ⟨step_coherent held.1 stepped,booked_at_pace held.1 held.2 (step_booked held.1 stepped)⟩

def OnLadder (x : ReaderLoop) : Prop := ∀ createdAt ∈ x.createdAt,
  Spaced createdAt x.cycles ∧ ∀ wake, x.phase = .sleeping wake → wake = ready createdAt x.cycles

theorem waits_on_ladder (c : LoopConfig) (now : ℚ) (actions : List LoopAction) :
    Always (loopStep c) OnLadder (.fresh now) actions := by
  refine always_mono ?_ (always_at_pace c now actions)
  intro x held createdAt since
  have paced := (at_pace_iff since).mp held.2
  exact ⟨paced.spaced,fun wake sleeping => (paced.sleeping wake sleeping).1⟩

theorem paced_rate (paced : Paced createdAt x) : 16 * (x.connects : ℚ) ≤ 3 * (x.now - createdAt) + 46 := by
  rcases paced.counted with settled | underway
  · have some_time := paced.clock
    have bound : (x.connects : ℚ) ≤ x.cycles.length := Nat.cast_le.mpr settled
    have spaced := paced.spaced
    cases history : x.cycles with
    | nil =>
      rw [history] at bound some_time
      simp only [List.length_nil,Nat.cast_zero,reached] at bound some_time
      linarith
    | cons y earlier =>
      rw [history] at spaced bound some_time
      obtain ⟨after,forward,_,_,before⟩ := spaced
      have rate := spaced_rate before
      have most := allowance_le (streak earlier)
      simp only [List.length_cons,Nat.cast_add,Nat.cast_one,reached] at bound some_time
      linarith
  · have rate := spaced_rate paced.spaced
    have most := allowance_le (streak x.cycles)
    have counted : (x.connects : ℚ) = x.cycles.length + 1 := by rw [underway.counted]; norm_num
    have waited := underway.waited
    have begun := underway.begun
    rw [counted]
    linarith

-- No more than three connections in sixteen seconds, and a first burst that the constant covers.
theorem reconnects_bounded (c : LoopConfig) (now : ℚ) (actions : List LoopAction) :
    Always (loopStep c) (fun x => ∀ createdAt ∈ x.createdAt, 16 * (x.connects : ℚ) ≤ 3 * (x.now - createdAt) + 46)
      (.fresh now) actions := by
  refine always_mono ?_ (always_at_pace c now actions)
  intro x held createdAt since
  exact paced_rate ((at_pace_iff since).mp held.2)

structure GivesUp (c : LoopConfig) (x : ReaderLoop) (a : LoopAction) (y : ReaderLoop) : Prop where
  told : ∀ e draw, a = .upgradeRefused e draw → (upgradeRefused c.boxIngress e).rejects = true →
    y.rejected = true ∧ y.authFailures = x.authFailures + if c.onAuthFailed then 1 else 0
  frame : a = .reauthFailed → x.phase = .reading ∧
    y.authFailures = x.authFailures + (if c.onAuthFailed then 1 else 0) ∧ y.rejected = x.rejected
  otherwise : a ≠ .reauthFailed →
    (∀ e draw, a = .upgradeRefused e draw → (upgradeRefused c.boxIngress e).rejects = false) →
    y.authFailures = x.authFailures ∧ (y.rejected = true → x.rejected = true)
  final : x.rejected = true → a ≠ .start → y.rejected = true ∧ y.connects = x.connects

theorem next_pass_ledger (x : ReaderLoop) :
    (nextPass x).rejected = x.rejected ∧ (nextPass x).authFailures = x.authFailures := by
  unfold nextPass
  split <;> exact ⟨rfl,rfl⟩

theorem end_pass_ledger (x : ReaderLoop) (clean : Bool) (draw : ℚ) :
    (endPass clean draw x).rejected = x.rejected ∧ (endPass clean draw x).authFailures = x.authFailures := by
  simp only [endPass]
  cases x.closing <;> exact ⟨rfl,rfl⟩

theorem booked_gives_up (coherent : Coherent x) (booked : Booked c x a y) : GivesUp c x a y := by
  cases booked with
  | idle same unrefused frame =>
    have ledger := same.ledger
    simp only [ReaderLoop.ledger,PassLedger.mk.injEq] at ledger
    obtain ⟨_,_,connects,_,_,rejected⟩ := ledger
    exact ⟨fun e draw refused => (unrefused e draw refused).elim,fun told => (frame told).elim,
      fun _ _ => ⟨same.failures,fun after => rejected ▸ after⟩,fun before _ => ⟨rejected.trans before,connects⟩⟩
  | disowned reading =>
    refine ⟨fun e draw refused => (by cases refused),fun _ => ?_,fun other _ => (other rfl).elim,fun before _ => ?_⟩
    · unfold reauthFailed
      split <;> exact ⟨reading,rfl,rfl⟩
    · rcases coherent.refusal before with here | here
      all_goals rw [here] at reading; cases reading
  | created gone zero phase clock failures =>
    simp only [ReaderLoop.ledger,PassLedger.mk.injEq] at zero
    obtain ⟨_,_,_,_,_,rejected⟩ := zero
    refine ⟨fun e draw refused => (by cases refused),fun told => (by cases told),fun _ _ => ⟨failures,fun after => ?_⟩,
      fun _ other => (other rfl).elim⟩
    rw [rejected] at after
    cases after
  | pass unrefused frame due =>
    have same := next_pass_ledger x
    refine ⟨fun e draw refused => (unrefused e draw refused).elim,fun told => (frame told).elim,
      fun _ _ => ⟨same.2,fun after => same.1 ▸ after⟩,fun before _ => ?_⟩
    -- A task whose credential was rejected has no pass before it.
    rcases coherent.refusal before with here | here <;> rcases due with waiting | ⟨_,waiting,_⟩
    all_goals rw [here] at waiting; cases waiting
  | finished running drawn cleared frame =>
    have same := end_pass_ledger x
    refine ⟨fun e draw refused final => ?_,fun told => (frame told).elim,
      fun _ _ => ⟨(same _ _).2,fun after => (same _ _).1 ▸ after⟩,fun before _ => ?_⟩
    · rw [cleared e draw refused] at final
      cases final
    · rcases coherent.refusal before with here | here
      all_goals rw [here] at running; cases running
  | rejected connecting final =>
    refine ⟨fun e draw refused _ => ?_,fun told => (by cases told),fun _ passing => ?_,fun before _ => ?_⟩
    · unfold tellAuthFailed
      split
      · exact ⟨rfl,rfl⟩
      · exact ⟨rfl,rfl⟩
    · rw [passing _ _ rfl] at final
      cases final
    · rcases coherent.refusal before with here | here
      all_goals rw [here] at connecting; cases connecting

structure Ends (x : ReaderLoop) : Prop where
  gone : x.stopped = true → x.phase = .absent
  marked : x.createdAt.isSome → x.phase = .absent → x.shutdown = .none → x.stopped = true ∧ (x.closing = true ∨ x.rejected = true)

theorem rejection_final (c : LoopConfig) (now : ℚ) (actions : List LoopAction) :
    Always (loopStep c) Ends (.fresh now) actions ∧ Every (loopStep c) (GivesUp c) (.fresh now) actions := by
  have kept := fun s a t (held : Coherent s) (stepped : loopStep c s a = some t) => step_coherent held stepped
  refine ⟨?_,?_⟩
  · exact always_mono (fun x held => ⟨fun ended => (held.ended ended).1,held.final⟩) (always_of_invariant (fresh_coherent now) kept)
  · exact every_of_invariant Coherent (fresh_coherent now) kept fun s a t held stepped => booked_gives_up held (step_booked held stepped)

end LoomClient.Transport
