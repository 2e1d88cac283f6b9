import LoomClient.Transport.Failures
import Mathlib.Algebra.Order.Field.Rat
import Mathlib.Tactic.Linarith

namespace LoomClient.Transport
variable {φ α : Type}

-- How much longer than planned the back-off sleeps, how the attempt ends and how long it takes.
structure Beat (φ α : Type) where
  overslept : ℚ
  outcome : Except φ α
  spent : ℚ

-- `ClientTimeout(total=...)`, the time on the clock, and how the attempt ends.
structure Attempt (φ α : Type) where
  timeout : ℚ
  sentAt : ℚ
  outcome : Except φ α

inductive RequestError (φ : Type) where
  | failed (failure : φ)
  | notConnected
  | noTimeBudget

structure Request (φ α : Type) where
  sent : List (Attempt φ α)
  result : Except (RequestError φ) α

def retrySafeMethods : List String := ["GET","HEAD","PUT","DELETE"]

def defaultBackoffSequence : List ℚ := [1 / 2,2]

-- No letter outside of ASCII becomes one of these methods in upper case.
def retries (method : String) (allowRetry : Option Bool) : Bool :=
  allowRetry.getD (retrySafeMethods.contains method.toUpper)

def attemptDelays (backoff : List ℚ) (retry : Bool) : List ℚ := if retry then 0 :: backoff else [0]

-- `remaining <= 0 or (delay and delay >= remaining)`
def outOfBudget (deadline now delay : ℚ) : Bool :=
  decide (deadline - now ≤ 0) || (decide (delay ≠ 0) && decide (deadline - now ≤ delay))

-- The clock once the back-off is over. A negative delay does not wait.
def wakes (now delay : ℚ) (b : Beat φ α) : ℚ := if delay = 0 then now else now + max delay 0 + b.overslept

def lastFailure (last : Option φ) : RequestError φ := match last with
  | some failure => .failed failure
  | none => .noTimeBudget

section Loop
variable (kind : φ → ExceptionClass) (deadline : ℚ)

def triedAgain (failure : φ) : Bool := !(kind failure).gateRefusal && (kind failure).retryable

def attempts (beats : Nat → Beat φ α) : List ℚ → Nat → ℚ → Option φ → Request φ α
  | [],_,_,last => ⟨[],.error (lastFailure last)⟩
  | delay :: rest,k,now,last =>
    if outOfBudget deadline now delay then ⟨[],.error (lastFailure last)⟩
    else
      let b := beats k
      let sentAt := wakes now delay b
      let attempt : Attempt φ α := ⟨deadline - sentAt,sentAt,b.outcome⟩
      match b.outcome with
      | .ok value => ⟨[attempt],.ok value⟩
      | .error failure =>
        if triedAgain kind failure then
          let later := attempts beats rest (k + 1) (sentAt + b.spent) (some failure)
          ⟨attempt :: later.sent,later.result⟩
        else ⟨[attempt],.error (.failed failure)⟩

end Loop

structure RequestCall where
  connected : Bool
  method : String
  allowRetry : Option Bool
  backoff : List ℚ
  requestTimeoutSeconds : ℚ
  start : ℚ

def RequestCall.retry (c : RequestCall) : Bool := retries c.method c.allowRetry

def RequestCall.deadline (c : RequestCall) : ℚ := c.start + c.requestTimeoutSeconds

def request (kind : φ → ExceptionClass) (c : RequestCall) (beats : Nat → Beat φ α) : Request φ α :=
  if c.connected then attempts kind c.deadline beats (attemptDelays c.backoff c.retry) 0 c.start none
  else ⟨[],.error .notConnected⟩

def endsTried (kind : φ → ExceptionClass) (a : Attempt φ α) : Prop :=
  ∃ failure, a.outcome = .error failure ∧ triedAgain kind failure = true

-- How often the request goes out, after what it goes out again, how long each attempt may take, and
-- what is raised in the end.
structure WithinBudget (kind : φ → ExceptionClass) (c : RequestCall) (r : Request φ α) : Prop where
  once : c.retry = false → r.sent.length ≤ 1
  most : r.sent.length ≤ c.backoff.length + 1
  again : ∀ a ∈ r.sent.dropLast, endsTried kind a
  timeouts : ∀ a ∈ r.sent, 0 < a.timeout ∧ a.timeout ≤ c.deadline - a.sentAt
  raised : ∀ e a, r.result = .error e → r.sent.getLast? = some a → ∃ failure, a.outcome = .error failure ∧ e = .failed failure

def EachPass (kind : φ → ExceptionClass) (deadline : ℚ) (beats : Nat → Beat φ α) (good : Nat → ℚ → ℚ → Prop) :
    List ℚ → Nat → ℚ → Prop
  | [],_,_ => True
  | delay :: rest,k,now =>
    outOfBudget deadline now delay = false →
      good k now delay ∧
        ∀ failure, (beats k).outcome = .error failure → triedAgain kind failure = true →
          EachPass kind deadline beats good rest (k + 1) (wakes now delay (beats k) + (beats k).spent)

-- Every back-off that is slept ends before the deadline.
def Punctual (kind : φ → ExceptionClass) (deadline : ℚ) (beats : Nat → Beat φ α) : List ℚ → Nat → ℚ → Prop :=
  EachPass kind deadline beats fun k now delay => wakes now delay (beats k) < deadline

section Attempts
variable (kind : φ → ExceptionClass) (deadline : ℚ) (beats : Nat → Beat φ α)

inductive Pass (delay : ℚ) (rest : List ℚ) (k : Nat) (now : ℚ) (last : Option φ) : Request φ α → Prop where
  | out (out : outOfBudget deadline now delay = true) : Pass delay rest k now last ⟨[],.error (lastFailure last)⟩
  | final (room : outOfBudget deadline now delay = false)
      (final : ∀ failure, (beats k).outcome = .error failure → triedAgain kind failure = false) :
      Pass delay rest k now last
        ⟨[⟨deadline - wakes now delay (beats k),wakes now delay (beats k),(beats k).outcome⟩],
          (beats k).outcome.mapError .failed⟩
  | again (room : outOfBudget deadline now delay = false) (failure : φ) (failed : (beats k).outcome = .error failure)
      (tried : triedAgain kind failure = true) (later : Request φ α)
      (sent : attempts kind deadline beats rest (k + 1) (wakes now delay (beats k) + (beats k).spent) (some failure) = later) :
      Pass delay rest k now last
        ⟨⟨deadline - wakes now delay (beats k),wakes now delay (beats k),.error failure⟩ :: later.sent,later.result⟩

theorem attempts_pass (delay : ℚ) (rest : List ℚ) (k : Nat) (now : ℚ) (last : Option φ) :
    Pass kind deadline beats delay rest k now last (attempts kind deadline beats (delay :: rest) k now last) := by
  cases out : outOfBudget deadline now delay with
  | true =>
    simp only [attempts,out,if_true]
    exact .out out
  | false =>
    cases outcome : (beats k).outcome with
    | ok value =>
      have final : Pass kind deadline beats delay rest k now last _ :=
        .final out (fun failure failed => by rw [outcome] at failed; cases failed)
      simpa only [attempts,out,outcome,Bool.false_eq_true,if_false,Except.mapError] using final
    | error failure =>
      cases tried : triedAgain kind failure with
      | true =>
        simp only [attempts,out,outcome,tried,Bool.false_eq_true,if_false,if_true]
        exact .again out failure outcome tried _ rfl
      | false =>
        have final : Pass kind deadline beats delay rest k now last _ :=
          .final out (fun other failed => by rw [outcome] at failed; cases failed; exact tried)
        simpa only [attempts,out,outcome,tried,Bool.false_eq_true,if_false,Except.mapError] using final

variable {kind deadline beats}

@[simp] theorem attempts_nil (k : Nat) (now : ℚ) (last : Option φ) :
    attempts kind deadline beats [] k now last = ⟨[],.error (lastFailure last)⟩ := rfl

@[simp] theorem each_pass_nil (good : Nat → ℚ → ℚ → Prop) (k : Nat) (now : ℚ) :
    EachPass kind deadline beats good [] k now ↔ True := Iff.rfl

theorem each_pass_cons (good : Nat → ℚ → ℚ → Prop) (delay : ℚ) (rest : List ℚ) (k : Nat) (now : ℚ) :
    EachPass kind deadline beats good (delay :: rest) k now ↔ (outOfBudget deadline now delay = false →
      good k now delay ∧
        ∀ failure, (beats k).outcome = .error failure → triedAgain kind failure = true →
          EachPass kind deadline beats good rest (k + 1) (wakes now delay (beats k) + (beats k).spent)) := Iff.rfl

theorem attempts_length (delays : List ℚ) (k : Nat) (now : ℚ) (last : Option φ) :
    (attempts kind deadline beats delays k now last).sent.length ≤ delays.length := by
  induction delays generalizing k now last with
  | nil => exact Nat.le_refl 0
  | cons delay rest ih =>
    have pass := attempts_pass kind deadline beats delay rest k now last
    generalize attempts kind deadline beats (delay :: rest) k now last = r at pass ⊢
    cases pass with
    | out out => exact Nat.zero_le _
    | final room final => exact Nat.succ_le_succ (Nat.zero_le _)
    | again room failure failed tried later sent =>
      have fewer := ih (k + 1) (wakes now delay (beats k) + (beats k).spent) (some failure)
      rw [sent] at fewer
      exact Nat.succ_le_succ fewer

theorem attempts_tried (delays : List ℚ) (k : Nat) (now : ℚ) (last : Option φ) :
    ∀ a ∈ (attempts kind deadline beats delays k now last).sent.dropLast, endsTried kind a := by
  induction delays generalizing k now last with
  | nil => simp
  | cons delay rest ih =>
    have pass := attempts_pass kind deadline beats delay rest k now last
    generalize attempts kind deadline beats (delay :: rest) k now last = r at pass ⊢
    cases pass with
    | out out => simp
    | final room final => simp
    | again room failure failed tried later sent =>
      have others := ih (k + 1) (wakes now delay (beats k) + (beats k).spent) (some failure)
      rw [sent] at others
      intro a member
      cases more : later.sent with
      | nil => simp [more] at member
      | cons first further =>
        rw [more] at others
        simp only [more,List.dropLast_cons_cons] at member
        rcases List.mem_cons.mp member with rfl | among
        · exact ⟨failure,rfl,tried⟩
        · exact others a among

theorem attempts_raised (delays : List ℚ) (k : Nat) (now : ℚ) (last : Option φ)
    (raised : (attempts kind deadline beats delays k now last).result = .error e) :
    match (attempts kind deadline beats delays k now last).sent.getLast? with
    | none => e = lastFailure last
    | some a => ∃ failure, a.outcome = .error failure ∧ e = .failed failure := by
  induction delays generalizing k now last with
  | nil =>
    cases raised
    rfl
  | cons delay rest ih =>
    have pass := attempts_pass kind deadline beats delay rest k now last
    generalize attempts kind deadline beats (delay :: rest) k now last = r at pass raised ⊢
    cases pass with
    | out out =>
      cases raised
      rfl
    | final room final =>
      cases outcome : (beats k).outcome with
      | ok value => simp [outcome,Except.mapError] at raised
      | error failure =>
        simp only [outcome,Except.mapError,Except.error.injEq] at raised
        exact ⟨failure,rfl,raised.symm⟩
    | again room failure failed tried later sent =>
      have before := ih (k + 1) (wakes now delay (beats k) + (beats k).spent) (some failure)
      rw [sent] at before
      have ended := before raised
      simp only [List.getLast?_cons]
      cases final : later.sent.getLast? with
      | none =>
        rw [final] at ended
        exact ⟨failure,rfl,ended⟩
      | some a =>
        rw [final] at ended
        exact ended

theorem attempts_timely (delays : List ℚ) (k : Nat) (now : ℚ) (last : Option φ) :
    (∀ a ∈ (attempts kind deadline beats delays k now last).sent, 0 < a.timeout ∧ a.timeout ≤ deadline - a.sentAt) ↔
      Punctual kind deadline beats delays k now := by
  unfold Punctual
  induction delays generalizing k now last with
  | nil => simp
  | cons delay rest ih =>
    have pass := attempts_pass kind deadline beats delay rest k now last
    generalize attempts kind deadline beats (delay :: rest) k now last = r at pass ⊢
    cases pass with
    | out out => simp [each_pass_cons,out]
    | final room final =>
      simp only [each_pass_cons,room,true_implies,List.forall_mem_singleton,le_refl,and_true,sub_pos]
      refine ⟨fun early => ⟨early,?_⟩,fun early => early.1⟩
      intro failure failed again
      rw [final failure failed] at again
      cases again
    | again room failure failed tried later sent =>
      have others := ih (k + 1) (wakes now delay (beats k) + (beats k).spent) (some failure)
      rw [sent] at others
      simp only [each_pass_cons,room,true_implies,List.forall_mem_cons,le_refl,and_true,sub_pos]
      rw [others,failed]
      refine and_congr_right fun _ => ⟨?_,fun further => further failure rfl tried⟩
      intro further other same _
      cases same
      exact further

theorem attempts_each (good : Nat → Prop) (delays : List ℚ) (k : Nat) (now : ℚ) (last : Option φ) :
    EachPass kind deadline beats (fun j _ _ => good j) delays k now ↔
      ∀ j < (attempts kind deadline beats delays k now last).sent.length, good (k + j) := by
  induction delays generalizing k now last with
  | nil => simp
  | cons delay rest ih =>
    have pass := attempts_pass kind deadline beats delay rest k now last
    generalize attempts kind deadline beats (delay :: rest) k now last = r at pass ⊢
    cases pass with
    | out out => simp [each_pass_cons,out]
    | final room final =>
      simp only [each_pass_cons,room,true_implies,List.length_singleton,Nat.lt_one_iff,forall_eq,Nat.add_zero]
      refine ⟨fun first => first.1,fun first => ⟨first,?_⟩⟩
      intro failure failed again
      rw [final failure failed] at again
      cases again
    | again room failure failed tried later sent =>
      have others := ih (k + 1) (wakes now delay (beats k) + (beats k).spent) (some failure)
      rw [sent] at others
      simp only [each_pass_cons,room,true_implies,List.length_cons]
      constructor
      · intro ⟨first,further⟩ j before
        cases j with
        | zero => exact first
        | succ j =>
          have next := others.mp (further failure failed tried) j (Nat.lt_of_succ_lt_succ before)
          rwa [Nat.add_right_comm] at next
      · intro all
        refine ⟨all 0 (Nat.zero_lt_succ _),?_⟩
        intro other same _
        rw [failed] at same
        cases same
        refine others.mpr fun j before => ?_
        have next := all (j + 1) (Nat.succ_lt_succ before)
        rwa [← Nat.add_assoc,Nat.add_right_comm] at next

theorem attempts_retried (delays : List ℚ) (k : Nat) (now : ℚ) (last : Option φ) :
    ∀ j, j + 1 < (attempts kind deadline beats delays k now last).sent.length →
      ∃ failure, (beats (k + j)).outcome = .error failure ∧ triedAgain kind failure = true := by
  induction delays generalizing k now last with
  | nil => simp
  | cons delay rest ih =>
    have pass := attempts_pass kind deadline beats delay rest k now last
    generalize attempts kind deadline beats (delay :: rest) k now last = r at pass ⊢
    cases pass with
    | out out => simp
    | final room final => simp
    | again room failure failed tried later sent =>
      have others := ih (k + 1) (wakes now delay (beats k) + (beats k).spent) (some failure)
      rw [sent] at others
      intro j before
      cases j with
      | zero => exact ⟨failure,failed,tried⟩
      | succ j =>
        have next := others j (Nat.lt_of_succ_lt_succ before)
        rwa [Nat.add_right_comm] at next

theorem attempts_none (delays : List ℚ) (k : Nat) (now : ℚ) (last : Option φ)
    (none_sent : (attempts kind deadline beats delays k now last).sent = []) :
    (attempts kind deadline beats delays k now last).result = .error (lastFailure last) := by
  cases delays with
  | nil => rfl
  | cons delay rest =>
    have pass := attempts_pass kind deadline beats delay rest k now last
    generalize attempts kind deadline beats (delay :: rest) k now last = r at pass none_sent ⊢
    cases pass with
    | out out => rfl
    | final room final => cases none_sent
    | again room failure failed tried later sent => cases none_sent

theorem attempts_result (delays : List ℚ) (k : Nat) (now : ℚ) (last : Option φ)
    (count : (attempts kind deadline beats delays k now last).sent.length = n + 1) :
    (attempts kind deadline beats delays k now last).result = (beats (k + n)).outcome.mapError .failed := by
  induction delays generalizing k now last n with
  | nil => cases count
  | cons delay rest ih =>
    have pass := attempts_pass kind deadline beats delay rest k now last
    generalize attempts kind deadline beats (delay :: rest) k now last = r at pass count ⊢
    cases pass with
    | out out => cases count
    | final room final =>
      have first : n = 0 := by simpa using count.symm
      rw [first]
      rfl
    | again room failure failed tried later sent =>
      have length : later.sent.length = n := by simpa using count
      cases n with
      | zero =>
        have ended := attempts_none rest (k + 1) (wakes now delay (beats k) + (beats k).spent) (some failure)
          (by rw [sent]; exact List.eq_nil_of_length_eq_zero length)
        rw [sent] at ended
        simp only [ended,lastFailure,Nat.add_zero,failed,Except.mapError]
      | succ n =>
        have ended := ih (k + 1) (wakes now delay (beats k) + (beats k).spent) (some failure) (by rw [sent]; exact length)
        rw [sent,Nat.add_right_comm] at ended
        exact ended

end Attempts

theorem request_within_budget_iff (kind : φ → ExceptionClass) (c : RequestCall) (beats : Nat → Beat φ α) :
    WithinBudget kind c (request kind c beats) ↔
      (c.connected = true → Punctual kind c.deadline beats (attemptDelays c.backoff c.retry) 0 c.start) := by
  unfold request
  cases connected : c.connected with
  | false =>
    refine iff_of_true ⟨?_,?_,?_,?_,?_⟩ (fun never => nomatch never)
    all_goals simp
  | true =>
    have counted : (attemptDelays c.backoff c.retry).length ≤ c.backoff.length + 1 := by
      unfold attemptDelays
      split <;> simp
    simp only [if_true,true_implies]
    rw [← attempts_timely _ _ _ none]
    constructor
    · exact fun within => within.timeouts
    · intro timely
      refine ⟨?_,?_,attempts_tried _ _ _ _,timely,?_⟩
      · intro unsafe_method
        rw [unsafe_method]
        exact attempts_length [0] 0 c.start none
      · exact Nat.le_trans (attempts_length _ _ _ _) counted
      · intro e a raised final
        have last := attempts_raised _ _ _ _ raised
        rw [final] at last
        exact last

-- The first attempt leaves a second of the thirty, and the back-off takes 1.2: the next attempt goes out
-- with a negative total, which is none at all.
def lateCall : RequestCall := ⟨true,"GET",none,defaultBackoffSequence,30,0⟩

def lateBeats : Nat → Beat ExceptionClass Unit := fun _ => ⟨7 / 10,.error .loomTransportError,29⟩

theorem overslept_attempt_has_no_timeout : ¬WithinBudget id lateCall (request id lateCall lateBeats) := by
  intro within
  have late : ((request id lateCall lateBeats).sent.any fun a => decide (a.timeout ≤ 0)) = true := by decide +kernel
  obtain ⟨a,member,unbounded⟩ := List.any_eq_true.mp late
  have bounded := (within.timeouts a member).1
  simp only [decide_eq_true_eq] at unbounded
  linarith

end LoomClient.Transport
