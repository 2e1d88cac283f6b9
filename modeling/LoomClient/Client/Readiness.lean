import LoomClient.Lib.Loop
import LoomClient.Transport.Failures
import Mathlib.Algebra.Order.Floor.Semiring
import Mathlib.Algebra.Order.Field.Rat
import Mathlib.Data.Rat.Floor
import Mathlib.Tactic.Linarith
import Mathlib.Tactic.NormNum

namespace LoomClient.Client
open Lib.Loop Transport
variable {φ : Type}

-- The phases that the client knows, and a token that it does not.
inductive Phase where
  | unknown
  | waitingForCcu
  | loadingHub
  | loadingDevices
  | ready
  | other (token : String)
  deriving DecidableEq

structure Readiness where
  phase : Phase
  ready : Bool
  interfacesLoaded : Int
  interfacesTotal : Int
  deriving DecidableEq

structure SystemCCUEntry where
  name : String
  readiness : Option Readiness

-- `readiness` of the entry of the client's central, or of the only one.
def centralReadiness (central : String) (entries : List SystemCCUEntry) : Option Readiness :=
  let entry := if central ≠ "" then entries.find? (·.name == central) else none
  let entry := entry.or (match entries with
    | [only] => some only
    | _ => none)
  entry.bind (·.readiness)

-- One pass of the loop as the environment decides it: how `GET /system/ccu` ends and
-- how long it takes, the store's central at that moment, and how long the sleep of
-- `_READINESS_POLL_SECONDS` takes, if nothing ends it.
structure Poll (φ : Type) where
  answer : Except φ (List SystemCCUEntry)
  spent : ℚ
  central : String
  slept : Except φ ℚ

inductive Line where
  | notFinished (readiness : Readiness)
  | stillNotReady (timeoutSeconds : ℚ) (phase : Phase)
  deriving DecidableEq

structure Wait (φ : Type) where
  lines : List Line
  result : Except φ Bool

structure Polling where
  now : ℚ
  lines : List Line
  logged : Bool

-- The lines once a poll has found the central not ready.
def Polling.told (s : Polling) (r : Readiness) : List Line := if s.logged then s.lines else s.lines ++ [.notFinished r]

def readinessPollSeconds : ℚ := 3

section Loop
variable (kind : φ → ExceptionClass) (polls : Nat → Poll φ) (start timeout : ℚ)

def getReadiness (poll : Poll φ) : Except φ (Option Readiness) := match poll.answer with
  | .ok entries => .ok (centralReadiness poll.central entries)
  | .error failure => if (kind failure).isLoom then .ok none else .error failure

def pass (k : Nat) (s : Polling) : Turn Polling (Wait φ) :=
  let poll := polls k
  match getReadiness kind poll with
  | .error failure => .done ⟨s.lines,.error failure⟩
  | .ok none => .done ⟨s.lines,.ok true⟩
  | .ok (some readiness) =>
    if readiness.ready then .done ⟨s.lines,.ok true⟩
    else
      let now := s.now + poll.spent
      if start + timeout ≤ now then .done ⟨s.told readiness ++ [.stillNotReady timeout readiness.phase],.ok false⟩
      else match poll.slept with
        | .error failure => .done ⟨s.told readiness,.error failure⟩
        | .ok slept => .again ⟨now + slept,s.told readiness,true⟩

-- `wait_until_ready` of a client whose configuration has this `readiness_wait_seconds`,
-- with at most so many passes.
def waitUntilReady (readinessWaitSeconds : ℚ) (timeoutSeconds : Option ℚ) (passes : Nat) : Option (Wait φ) :=
  loop (pass kind polls start (timeoutSeconds.getD readinessWaitSeconds)) passes 0 ⟨start,[],false⟩

def clock : Nat → ℚ
  | 0 => start + (polls 0).spent
  | k + 1 => clock k + (polls k).slept.toOption.getD 0 + (polls (k + 1)).spent

def NotReady (k : Nat) (readiness : Readiness) : Prop :=
  getReadiness kind (polls k) = .ok (some readiness) ∧ readiness.ready = false

def notReady? (k : Nat) : Option Readiness :=
  match getReadiness kind (polls k) with
  | .ok (some readiness) => if readiness.ready then none else some readiness
  | _ => none

structure Waited (n : Nat) (w : Wait φ) : Prop where
  before : ∀ k < n, (∃ r, NotReady kind polls k r) ∧ clock polls start k < start + timeout
  latched : w.result = .ok true ↔
    getReadiness kind (polls n) = .ok none ∨ ∃ r, getReadiness kind (polls n) = .ok (some r) ∧ r.ready = true
  gaveUp : w.result = .ok false ↔ (∃ r, NotReady kind polls n r) ∧ start + timeout ≤ clock polls start n
  raised : ∀ e, w.result = .error e ↔ getReadiness kind (polls n) = .error e ∨
    (∃ r, NotReady kind polls n r) ∧ clock polls start n < start + timeout ∧ (polls n).slept = .error e
  said : w.lines = ((notReady? kind polls 0).map Line.notFinished).toList ++
    if w.result matches .ok false then ((notReady? kind polls n).map fun r => .stillNotReady timeout r.phase).toList else []

end Loop

-- Where the reading of a poll comes from.
def Scoped (central : String) (entries : List SystemCCUEntry) (r : Readiness) : Prop :=
  ∃ e ∈ entries, e.readiness = some r ∧ (e.name = central ∨ entries = [e])

theorem central_readiness_scoped (found : centralReadiness central entries = some r) : Scoped central entries r := by
  obtain ⟨entry,chosen,held⟩ := Option.bind_eq_some_iff.mp found
  rcases Option.or_eq_some_iff.mp chosen with named | ⟨_,sole⟩
  · split at named
    · exact ⟨entry,List.mem_of_find?_eq_some named,held,.inl (by simpa using List.find?_some named)⟩
    · cases named
  · split at sole
    · cases sole
      exact ⟨entry,List.mem_singleton_self _,held,.inr rfl⟩
    · cases sole

section Wait
variable {kind : φ → ExceptionClass} {polls : Nat → Poll φ} {start timeout : ℚ}

theorem not_ready_iff : notReady? kind polls k = some r ↔ NotReady kind polls k r := by
  unfold notReady? NotReady
  cases getReadiness kind (polls k) with
  | error e => simp
  | ok reading =>
    cases reading with
    | none => simp
    | some readiness =>
      by_cases latched : readiness.ready
      · simp only [latched,if_pos]
        constructor
        · intro none
          cases none
        · rintro ⟨same,waiting⟩
          cases same
          rw [latched] at waiting
          cases waiting
      · simp only [latched]
        constructor
        · intro same
          cases same
          exact ⟨rfl,by simpa using latched⟩
        · rintro ⟨same,_⟩
          cases same
          rfl

inductive Ends (kind : φ → ExceptionClass) (polls : Nat → Poll φ) (start timeout : ℚ) (k : Nat) (s : Polling) :
    Wait φ → Prop where
  | latched (found : getReadiness kind (polls k) = .ok none ∨ ∃ r, getReadiness kind (polls k) = .ok (some r) ∧ r.ready = true) :
      Ends kind polls start timeout k s ⟨s.lines,.ok true⟩
  | unread (failed : getReadiness kind (polls k) = .error e) : Ends kind polls start timeout k s ⟨s.lines,.error e⟩
  | gaveUp (waiting : NotReady kind polls k r) (late : start + timeout ≤ s.now + (polls k).spent) :
      Ends kind polls start timeout k s ⟨s.told r ++ [.stillNotReady timeout r.phase],.ok false⟩
  | disturbed (waiting : NotReady kind polls k r) (early : s.now + (polls k).spent < start + timeout)
      (failed : (polls k).slept = .error e) : Ends kind polls start timeout k s ⟨s.told r,.error e⟩

theorem pass_done (ended : pass kind polls start timeout k s = .done w) : Ends kind polls start timeout k s w := by
  simp only [pass] at ended
  split at ended
  · rename_i e failed
    cases ended
    exact .unread failed
  · rename_i found
    cases ended
    exact .latched (.inl found)
  · rename_i r found
    split at ended
    · rename_i latched
      cases ended
      exact .latched (.inr ⟨r,found,latched⟩)
    · rename_i waiting
      have waiting : NotReady kind polls k r := ⟨found,by simpa using waiting⟩
      split at ended
      · rename_i late
        cases ended
        exact .gaveUp waiting late
      · rename_i early
        split at ended
        · rename_i e failed
          cases ended
          exact .disturbed waiting (not_le.mp early) failed
        · cases ended

theorem pass_again (again : pass kind polls start timeout k s = .again next) :
    ∃ r slept, NotReady kind polls k r ∧ s.now + (polls k).spent < start + timeout ∧ (polls k).slept = .ok slept ∧
      next = ⟨s.now + (polls k).spent + slept,s.told r,true⟩ := by
  simp only [pass] at again
  split at again
  · cases again
  · cases again
  · rename_i r found
    split at again
    · cases again
    · rename_i waiting
      split at again
      · cases again
      · rename_i early
        split at again
        · cases again
        · rename_i slept woke
          cases again
          exact ⟨r,slept,⟨found,by simpa using waiting⟩,not_le.mp early,woke,rfl⟩

structure Going (kind : φ → ExceptionClass) (polls : Nat → Poll φ) (start timeout : ℚ) (k : Nat) (s : Polling) : Prop where
  now : s.now + (polls k).spent = clock polls start k
  before : ∀ j < k, (∃ r, NotReady kind polls j r) ∧ clock polls start j < start + timeout
  told : s.logged = decide (0 < k)
  lines : s.lines = if k = 0 then [] else ((notReady? kind polls 0).map Line.notFinished).toList

theorem going_told (going : Going kind polls start timeout k s) (waiting : NotReady kind polls k r) :
    s.told r = ((notReady? kind polls 0).map Line.notFinished).toList := by
  rw [Polling.told,going.told,going.lines]
  cases k with
  | zero =>
    rw [not_ready_iff.mpr waiting]
    rfl
  | succ k => simp

theorem going_step (going : Going kind polls start timeout k s) (again : pass kind polls start timeout k s = .again next) :
    Going kind polls start timeout (k + 1) next := by
  obtain ⟨r,slept,waiting,early,woke,rfl⟩ := pass_again again
  refine ⟨?_,fun j before => ?_,by simp,?_⟩
  · simp only [clock,woke,Except.toOption,Option.getD_some,← going.now]
  · rcases Nat.lt_succ_iff_lt_or_eq.mp before with earlier | rfl
    · exact going.before j earlier
    · exact ⟨⟨r,waiting⟩,going.now ▸ early⟩
  · simpa using going_told going waiting

theorem going_start : Going kind polls start timeout 0 ⟨start,[],false⟩ :=
  ⟨rfl,fun _ before => absurd before (Nat.not_lt_zero _),rfl,rfl⟩

theorem passes_going (passes : Passes (pass kind polls start timeout) 0 ⟨start,[],false⟩ n t) :
    Going kind polls start timeout n t :=
  passes_keep (Going kind polls start timeout) going_start passes fun _ _ _ => going_step

theorem not_ready_excludes (waiting : NotReady kind polls k r) :
    ¬(getReadiness kind (polls k) = .ok none ∨ ∃ r, getReadiness kind (polls k) = .ok (some r) ∧ r.ready = true) := by
  rintro (none | ⟨other,found,latched⟩)
  · cases none.symm.trans waiting.1
  · cases found.symm.trans waiting.1
    cases latched.symm.trans waiting.2

theorem not_ready_read (waiting : NotReady kind polls k r) : getReadiness kind (polls k) ≠ .error e := by
  intro failed
  cases failed.symm.trans waiting.1

theorem read_excludes (failed : getReadiness kind (polls k) = .error e) : ¬∃ r, NotReady kind polls k r := by
  rintro ⟨r,waiting⟩
  exact not_ready_read waiting failed

theorem said_first (going : Going kind polls start timeout n t)
    (quiet : (∃ r, NotReady kind polls n r) → 0 < n) :
    t.lines = ((notReady? kind polls 0).map Line.notFinished).toList := by
  rw [going.lines]
  split
  · rename_i first
    subst first
    cases found : notReady? kind polls 0 with
    | none => rfl
    | some r => exact absurd (quiet ⟨r,not_ready_iff.mp found⟩) (Nat.lt_irrefl 0)
  · rfl

theorem ends_waited (going : Going kind polls start timeout n t) (ended : Ends kind polls start timeout n t w) :
    Waited kind polls start timeout n w := by
  refine ⟨going.before,?_,?_,?_,?_⟩
  · cases ended with
    | latched found => exact ⟨fun _ => found,fun _ => rfl⟩
    | unread failed =>
      refine ⟨fun same => (by cases same),fun found => ?_⟩
      rcases found with none | ⟨r,found,_⟩
      · cases none.symm.trans failed
      · cases found.symm.trans failed
    | gaveUp waiting late => exact ⟨fun same => (by cases same),fun found => absurd found (not_ready_excludes waiting)⟩
    | disturbed waiting early failed =>
      exact ⟨fun same => (by cases same),fun found => absurd found (not_ready_excludes waiting)⟩
  · cases ended with
    | latched found => exact ⟨fun same => (by cases same),fun late => absurd found (not_ready_excludes late.1.choose_spec)⟩
    | unread failed => exact ⟨fun same => (by cases same),fun late => absurd late.1 (read_excludes failed)⟩
    | gaveUp waiting late => exact ⟨fun _ => ⟨⟨_,waiting⟩,going.now ▸ late⟩,fun _ => rfl⟩
    | disturbed waiting early failed =>
      exact ⟨fun same => (by cases same),fun late => absurd late.2 (not_le.mpr (going.now ▸ early))⟩
  · intro e
    cases ended with
    | latched found =>
      refine ⟨fun same => (by cases same),fun raised => ?_⟩
      rcases raised with failed | ⟨⟨r,waiting⟩,_,_⟩
      · rcases found with none | ⟨r,found,_⟩
        · cases none.symm.trans failed
        · cases found.symm.trans failed
      · exact absurd found (not_ready_excludes waiting)
    | unread failed =>
      refine ⟨fun same => .inl (by cases same; exact failed),fun raised => ?_⟩
      rcases raised with again | ⟨waiting,_,_⟩
      · cases failed.symm.trans again
        rfl
      · exact absurd waiting (read_excludes failed)
    | gaveUp waiting late =>
      refine ⟨fun same => (by cases same),fun raised => ?_⟩
      rcases raised with failed | ⟨_,early,_⟩
      · exact absurd failed (not_ready_read waiting)
      · exact absurd (going.now ▸ late) (not_le.mpr early)
    | disturbed waiting early failed =>
      refine ⟨fun same => .inr ⟨⟨_,waiting⟩,going.now ▸ early,by cases same; exact failed⟩,fun raised => ?_⟩
      rcases raised with unread | ⟨_,_,again⟩
      · exact absurd unread (not_ready_read waiting)
      · cases failed.symm.trans again
        rfl
  · cases ended with
    | latched found =>
      simpa using said_first going fun waiting => absurd found (not_ready_excludes waiting.choose_spec)
    | unread failed => simpa using said_first going fun waiting => absurd waiting (read_excludes failed)
    | gaveUp waiting late => simp [going_told going waiting,not_ready_iff.mpr waiting]
    | disturbed waiting early failed => simpa using going_told going waiting

structure Timed (polls : Nat → Poll φ) : Prop where
  spent : ∀ k, 0 ≤ (polls k).spent
  slept : ∀ k d, (polls k).slept = .ok d → readinessPollSeconds ≤ d

theorem passes_early (timed : Timed polls) (passes : Passes (pass kind polls start timeout) 0 ⟨start,[],false⟩ n t) :
    start + readinessPollSeconds * n ≤ t.now ∧ (0 < n → readinessPollSeconds * (n - 1 : ℚ) < timeout) := by
  refine passes_keep (fun n t => start + readinessPollSeconds * n ≤ t.now ∧
    (0 < n → readinessPollSeconds * (n - 1 : ℚ) < timeout)) ?_ passes ?_
  · exact ⟨by simp,fun some => absurd some (Nat.lt_irrefl 0)⟩
  · rintro k s next ⟨later,_⟩ again
    obtain ⟨r,slept,_,early,woke,rfl⟩ := pass_again again
    have spent := timed.spent k
    have long := timed.slept k slept woke
    push_cast
    refine ⟨by linarith,fun _ => ?_⟩
    have shift : readinessPollSeconds * ((k : ℚ) + 1 - 1) = readinessPollSeconds * k := by ring
    rw [shift]
    linarith

theorem poll_bound {n : Nat} (early : 0 < n → readinessPollSeconds * (n - 1 : ℚ) < timeout) :
    n < ⌈timeout / readinessPollSeconds⌉₊ + 1 := by
  cases n with
  | zero => omega
  | succ k =>
    have before := early (Nat.succ_pos k)
    have room : (k : ℚ) < timeout / readinessPollSeconds := by
      rw [lt_div_iff₀ (by norm_num [readinessPollSeconds])]
      push_cast at before
      linarith
    have below : k < ⌈timeout / readinessPollSeconds⌉₊ := Nat.lt_ceil.mpr room
    omega

end Wait

-- Which centrals' readiness a wait goes by: the readings of the polls up to the n-th.
def GoesBy (kind : φ → ExceptionClass) (polls : Nat → Poll φ) (n : Nat) : Prop :=
  ∀ k ≤ n, ∀ r, getReadiness kind (polls k) = .ok (some r) →
    ∃ entries, (polls k).answer = .ok entries ∧ Scoped (polls k).central entries r

theorem goes_by_scoped (kind : φ → ExceptionClass) (polls : Nat → Poll φ) (n : Nat) : GoesBy kind polls n := by
  intro k _ r found
  unfold getReadiness at found
  split at found
  · rename_i entries answered
    exact ⟨entries,answered,central_readiness_scoped (Except.ok.inj found)⟩
  · split at found <;> cases found

-- The wait ends with the first poll that settles it, after no more polls than fit into its time.
theorem readiness_waited (kind : φ → ExceptionClass) (polls : Nat → Poll φ) (start configured : ℚ)
    (timeoutSeconds : Option ℚ) (timed : Timed polls) :
    ∃ (n : Nat) (w : Wait _), (0 < n → readinessPollSeconds * (n - 1 : ℚ) < timeoutSeconds.getD configured) ∧
      (∀ passes ≥ ⌈timeoutSeconds.getD configured / readinessPollSeconds⌉₊ + 1,
        waitUntilReady kind polls start configured timeoutSeconds passes = some w) ∧
      Waited kind polls start (timeoutSeconds.getD configured) n w ∧ GoesBy kind polls n := by
  have ends : ∃ w, waitUntilReady kind polls start configured timeoutSeconds
      (⌈timeoutSeconds.getD configured / readinessPollSeconds⌉₊ + 1) = some w := by
    apply loop_ends
    intro n t passes
    have bound := poll_bound (passes_early timed passes).2
    omega
  obtain ⟨w,ended⟩ := ends
  obtain ⟨n,t,passes,last,_⟩ := loop_exact.mp ended
  refine ⟨n,w,(passes_early timed passes).2,fun _ more => loop_more ended more,?_,goes_by_scoped kind polls n⟩
  exact ends_waited (passes_going passes) (pass_done last)

-- Two polls of a daemon of two centrals, the second of which finds the client's ready.
def bringUp : Nat → Poll ExceptionClass := fun k =>
  ⟨.ok [⟨"ccu-b",some ⟨.ready,true,2,2⟩⟩,⟨"ccu-a",some ⟨.loadingDevices,decide (0 < k),1,2⟩⟩],1 / 2,"ccu-a",.ok 3⟩

theorem bring_up_waited :
    ∃ (n : Nat) (w : Wait _), (0 < n → readinessPollSeconds * (n - 1 : ℚ) < 10) ∧
      (∀ passes ≥ ⌈(10 : ℚ) / readinessPollSeconds⌉₊ + 1, waitUntilReady id bringUp 0 180 (some 10) passes = some w) ∧
      Waited id bringUp 0 10 n w ∧ GoesBy id bringUp n :=
  readiness_waited id bringUp 0 180 (some 10) ⟨fun _ => by norm_num [bringUp],fun _ _ woke => by
    cases woke
    exact le_refl _⟩

end LoomClient.Client
