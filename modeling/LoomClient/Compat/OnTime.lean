import LoomClient.Lib.Transition
import Mathlib.Data.List.Nodup
import Mathlib.Order.Defs.LinearOrder

namespace LoomClient.Compat
open Lib

-- On-times are floats of which the code only asks whether they are positive.
variable {D : Type} [Zero D] [LT D] [DecidableLT D]

inductive CdpKind where
  | switch
  | valve
  | light
  deriving DecidableEq, Repr

inductive ParamValue (D : Type) where
  | float (value : D)
  | int (value : Int)
  | text (value : String)
  deriving DecidableEq, Repr

structure CdpOperation (D : Type) where
  operation : String
  params : List (String × ParamValue D)
  deriving DecidableEq, Repr

def CdpOperation.seconds (op : CdpOperation D) : Option D :=
  match op.params.lookup "seconds" with
  | some (.float seconds) => some seconds
  | _ => none

structure LightArguments (D : Type) where
  brightness : Option Int
  hsColor : Option (D × D)
  colorTempKelvin : Option Int
  effect : Option String
  deriving DecidableEq, Repr

-- What a call sends, one awaited operation after the other.
namespace CdpOperation

def setColor (color : D × D) : CdpOperation D := ⟨"set_color",[("hue",.float color.1),("saturation",.float color.2)]⟩
def setKelvin (kelvin : Int) : CdpOperation D := ⟨"set_kelvin",[("kelvin",.int kelvin)]⟩
def setEffect (effect : String) : CdpOperation D := ⟨"set_effect",[("effect",.text effect)]⟩
def setLevel (brightness : Int) : CdpOperation D := ⟨"set_level",[("brightness",.int brightness)]⟩
def plain (operation : String) : CdpOperation D := ⟨operation,[]⟩
def timed (operation : String) (seconds : D) : CdpOperation D := ⟨operation,[("seconds",.float seconds)]⟩

end CdpOperation

open CdpOperation

def switchTurnOn : Option D → List (CdpOperation D)
  | some seconds => [timed "turn_on_for" seconds]
  | none => [plain "turn_on"]

def valveOpen : Option D → List (CdpOperation D)
  | some seconds => [timed "open" seconds]
  | none => [plain "open"]

def dressing (args : LightArguments D) : List (CdpOperation D) :=
  args.hsColor.toList.map setColor ++ args.colorTempKelvin.toList.map setKelvin ++ args.effect.toList.map setEffect

def turnOnBounded (seconds : D) (args : LightArguments D) : List (CdpOperation D) :=
  dressing args ++ match args.brightness with
    | some brightness => [⟨"set_level",[("brightness",.int brightness),("seconds",.float seconds)]⟩]
    | none => [timed "turn_on" seconds]

def LightArguments.isPlain (args : LightArguments D) : Bool :=
  args.hsColor.isNone && args.colorTempKelvin.isNone && args.effect.isNone && args.brightness.isNone

-- Without `cdp.bounded_on.v1` an on-time reaches a plain switch-on only.
def dimmerTurnOn (boundedOn : Bool) (args : LightArguments D) (onTime : Option D) : List (CdpOperation D) :=
  match onTime,boundedOn,args.isPlain with
  | some seconds,true,_ => turnOnBounded seconds args
  | some seconds,false,true => [timed "set_timer_on_time" seconds,plain "turn_on"]
  | _,_,_ => dressing args ++ match args.brightness with
    | some brightness => [setLevel brightness]
    | none => if args.hsColor.isNone && args.colorTempKelvin.isNone && args.effect.isNone then [plain "turn_on"] else []

namespace CdpKind

def switchOn (boundedOn : Bool) (args : LightArguments D) (onTime : Option D) : CdpKind → List (CdpOperation D)
  | .switch => switchTurnOn onTime
  | .valve => valveOpen onTime
  | .light => dimmerTurnOn boundedOn args onTime

def switchOff : CdpKind → List (CdpOperation D)
  | .valve => [plain "close"]
  | _ => [plain "turn_off"]

-- Whether the daemon bounds the switch-on itself.
def bounds (boundedOn : Bool) : CdpKind → Bool
  | .light => boundedOn
  | _ => true

end CdpKind

-- A call under way. Which staging its on-time came from is read by no step.
structure CdpCall (D : Type) where
  onTime : Option D
  staged : Option Nat
  bounded : Bool
  plan : List (CdpOperation D)
  sent : List (CdpOperation D)
  due : List (CdpOperation D)
  deriving DecidableEq, Repr

-- One entity. Stagings are numbered.
structure OnTime (D : Type) where
  pendingOnTime : Option (Nat × D)
  stagings : Nat
  calls : List (CdpCall D)
  deriving DecidableEq, Repr

inductive OnTimeAction (D : Type) where
  | setTimerOnTime (onTime : D)
  | resetTimerOnTime
  | switchOn (onTime : Option D) (args : LightArguments D) (boundedOn : Bool)
  | switchOff
  | send (call : Nat)
  | fail (call : Nat)
  deriving DecidableEq, Repr

namespace OnTime

def initial : OnTime D := ⟨none,0,[]⟩

-- An explicit on-time wins, and one that is not positive means no timer.
def consumed (s : OnTime D) (onTime : Option D) : Option D :=
  (onTime.or (s.pendingOnTime.map Prod.snd)).filter fun seconds => decide (0 < seconds)

def origin (s : OnTime D) (onTime : Option D) : Option Nat :=
  if onTime.isSome || (s.consumed onTime).isNone then none else s.pendingOnTime.map Prod.fst

def begin (s : OnTime D) (call : CdpCall D) : OnTime D := {s with pendingOnTime := none, calls := s.calls ++ [call]}

def onCall (kind : CdpKind) (s : OnTime D) (onTime : Option D) (args : LightArguments D) (boundedOn : Bool) : CdpCall D :=
  let plan := kind.switchOn boundedOn args (s.consumed onTime)
  ⟨s.consumed onTime,s.origin onTime,kind.bounds boundedOn,plan,[],plan⟩

def offCall (kind : CdpKind) : CdpCall D := ⟨none,none,true,kind.switchOff,[],kind.switchOff⟩

-- The slot is read and cleared before a call awaits anything.
def step (kind : CdpKind) (s : OnTime D) : OnTimeAction D → Option (OnTime D)
  | .setTimerOnTime onTime => some {s with pendingOnTime := some (s.stagings,onTime), stagings := s.stagings + 1}
  | .resetTimerOnTime => some {s with pendingOnTime := none}
  | .switchOn onTime args boundedOn => some (s.begin (onCall kind s onTime args boundedOn))
  | .switchOff => some (s.begin (offCall kind))
  | .send i => match s.calls[i]? with
    | none => none
    | some call => match call.due with
      | [] => none
      | op :: rest => some {s with calls := s.calls.set i {call with sent := call.sent ++ [op], due := rest}}
  | .fail i => match s.calls[i]? with
    | none => none
    | some call => some {s with calls := s.calls.set i {call with due := []}}

def accompanied (s : OnTime D) : List Nat := s.calls.filterMap CdpCall.staged

end OnTime

-- Only positive on-times, in the order of the plan, and where the daemon bounds the switch-on, with
-- its last operation and no other.
structure CallLaw (call : CdpCall D) : Prop where
  positive : ∀ op ∈ call.plan, ∀ seconds ∈ op.seconds, 0 < seconds
  order : call.sent <+: call.plan
  untimed : call.onTime = none → ∀ op ∈ call.plan, op.seconds = none
  last : call.bounded = true → ∀ seconds, call.onTime = some seconds → ∃ first op, call.plan = first ++ [op] ∧
    op.seconds = some seconds ∧ ∀ other ∈ first, other.seconds = none

structure OnTimeLaw (s : OnTime D) (a : OnTimeAction D) (t : OnTime D) : Prop where
  cleared : ∀ onTime args boundedOn, a = .switchOn onTime args boundedOn ∨ a = .switchOff → t.pendingOnTime = none
  explicit : ∀ seconds args boundedOn, a = .switchOn (some seconds) args boundedOn → ∃ call, t.calls = s.calls ++ [call] ∧
    call.onTime = (if 0 < seconds then some seconds else none) ∧ call.staged = none
  staged : ∀ args boundedOn, a = .switchOn none args boundedOn → ∃ call, t.calls = s.calls ++ [call] ∧
    call.onTime = (s.pendingOnTime.map Prod.snd).filter (fun seconds => decide (0 < seconds)) ∧
      ∀ n, call.staged = some n → ∃ seconds, s.pendingOnTime = some (n,seconds) ∧ call.onTime = some seconds
  once : t.accompanied.Nodup
  calls : ∀ call ∈ t.calls, CallLaw call

section Plans
omit [Zero D] [LT D] [DecidableLT D]

theorem dressing_untimed (args : LightArguments D) : ∀ op ∈ dressing args, op.seconds = none := by
  intro op member
  simp only [dressing,List.mem_append,List.mem_map,Option.mem_toList] at member
  rcases member with (⟨color,_,rfl⟩ | ⟨kelvin,_,rfl⟩) | ⟨effect,_,rfl⟩
  · rfl
  · rfl
  · rfl

theorem dimmer_untimed (boundedOn : Bool) (args : LightArguments D) :
    ∀ op ∈ dimmerTurnOn boundedOn args none, op.seconds = none := by
  intro op member
  simp only [dimmerTurnOn,List.mem_append] at member
  rcases member with dressed | switched
  · exact dressing_untimed args op dressed
  · split at switched
    · rw [List.mem_singleton.mp switched]
      rfl
    · split at switched
      · rw [List.mem_singleton.mp switched]
        rfl
      · cases switched

theorem switch_on_untimed (kind : CdpKind) (boundedOn : Bool) (args : LightArguments D) :
    ∀ op ∈ kind.switchOn boundedOn args none, op.seconds = none := by
  intro op member
  cases kind with
  | switch =>
    rw [List.mem_singleton.mp member]
    rfl
  | valve =>
    rw [List.mem_singleton.mp member]
    rfl
  | light => exact dimmer_untimed boundedOn args op member

theorem bounded_last (seconds : D) (args : LightArguments D) : ∃ first op, turnOnBounded seconds args = first ++ [op] ∧
    op.seconds = some seconds ∧ ∀ other ∈ first, other.seconds = none := by
  unfold turnOnBounded
  cases args.brightness with
  | none => exact ⟨dressing args,_,rfl,rfl,dressing_untimed args⟩
  | some brightness => exact ⟨dressing args,_,rfl,rfl,dressing_untimed args⟩

theorem switch_on_last (kind : CdpKind) (boundedOn : Bool) (args : LightArguments D) (seconds : D)
    (bounds : kind.bounds boundedOn = true) : ∃ first op, kind.switchOn boundedOn args (some seconds) = first ++ [op] ∧
      op.seconds = some seconds ∧ ∀ other ∈ first, other.seconds = none := by
  cases kind with
  | switch => exact ⟨[],timed "turn_on_for" seconds,rfl,rfl,by simp⟩
  | valve => exact ⟨[],timed "open" seconds,rfl,rfl,by simp⟩
  | light =>
    change boundedOn = true at bounds
    subst bounds
    exact bounded_last seconds args

theorem switch_on_seconds (kind : CdpKind) (boundedOn : Bool) (args : LightArguments D) (seconds : D) :
    ∀ op ∈ kind.switchOn boundedOn args (some seconds), ∀ sent ∈ op.seconds, sent = seconds := by
  intro op member sent carried
  by_cases bounds : kind.bounds boundedOn = true
  · obtain ⟨first,last,plan,timed,plain⟩ := switch_on_last kind boundedOn args seconds bounds
    rw [plan] at member
    rcases List.mem_append.mp member with early | final
    · rw [plain op early] at carried
      cases carried
    · rw [List.mem_singleton.mp final,timed] at carried
      exact (Option.some.inj carried).symm
  · cases kind with
    | switch => exact absurd rfl bounds
    | valve => exact absurd rfl bounds
    | light =>
      have unbounded : boundedOn = false := by simpa [CdpKind.bounds] using bounds
      subst unbounded
      cases plain : args.isPlain with
      | true =>
        simp only [CdpKind.switchOn,dimmerTurnOn,plain,List.mem_cons,List.not_mem_nil,or_false] at member
        rcases member with rfl | rfl
        · exact (Option.some.inj carried).symm
        · cases carried
      | false =>
        have same : dimmerTurnOn false args (some seconds) = dimmerTurnOn false args none := by simp [dimmerTurnOn,plain]
        rw [show CdpKind.light.switchOn false args (some seconds) = dimmerTurnOn false args (some seconds) from rfl,same] at member
        rw [dimmer_untimed false args op member] at carried
        cases carried

end Plans

namespace OnTime
variable {kind : CdpKind} {s t : OnTime D}

theorem consumed_positive (s : OnTime D) (onTime : Option D) : ∀ seconds ∈ s.consumed onTime, 0 < seconds := by
  intro seconds taken
  have passed := (Option.filter_eq_some_iff.mp taken).2
  simpa using passed

theorem on_call_law (kind : CdpKind) (s : OnTime D) (onTime : Option D) (args : LightArguments D) (boundedOn : Bool) :
    CallLaw (onCall kind s onTime args boundedOn) where
  positive := by
    intro op member seconds carried
    simp only [onCall] at member
    cases taken : s.consumed onTime with
    | none =>
      rw [taken] at member
      rw [switch_on_untimed kind boundedOn args op member] at carried
      cases carried
    | some asked =>
      rw [taken] at member
      rw [switch_on_seconds kind boundedOn args asked op member seconds carried]
      exact consumed_positive s onTime asked taken
  order := List.nil_prefix
  untimed := by
    intro nothing op member
    simp only [onCall] at nothing member
    rw [nothing] at member
    exact switch_on_untimed kind boundedOn args op member
  last := by
    intro bounds seconds taken
    simp only [onCall] at bounds taken ⊢
    rw [taken]
    exact switch_on_last kind boundedOn args seconds bounds

omit [DecidableLT D] in
theorem off_call_law (kind : CdpKind) : CallLaw (offCall kind : CdpCall D) where
  positive := by
    intro op member seconds carried
    cases kind with
    | _ =>
      rw [List.mem_singleton.mp member] at carried
      cases carried
  order := List.nil_prefix
  untimed := by
    intro _ op member
    cases kind with
    | _ =>
      rw [List.mem_singleton.mp member]
      rfl
  last := by
    intro _ seconds nothing
    cases nothing

structure Standing (s : OnTime D) : Prop where
  calls : ∀ call ∈ s.calls, CallLaw call ∧ call.sent ++ call.due <+: call.plan
  once : s.accompanied.Nodup
  below : ∀ n ∈ s.accompanied, n < s.stagings
  pending : ∀ n seconds, s.pendingOnTime = some (n,seconds) → n < s.stagings ∧ n ∉ s.accompanied

omit [DecidableLT D] in
theorem initial_standing : (initial : OnTime D).Standing where
  calls := fun _ member => absurd member List.not_mem_nil
  once := List.nodup_nil
  below := fun _ member => absurd member List.not_mem_nil
  pending := fun _ _ found => by cases found

omit [Zero D] [LT D] [DecidableLT D] in
theorem accompanied_set (call later : CdpCall D) (found : s.calls[i]? = some call) (same : later.staged = call.staged) :
    ({s with calls := s.calls.set i later} : OnTime D).accompanied = s.accompanied := by
  obtain ⟨below,here⟩ := List.getElem?_eq_some_iff.mp found
  have split : s.calls = s.calls.take i ++ call :: s.calls.drop (i + 1) := by
    rw [← here,List.getElem_cons_drop,List.take_append_drop]
  have moved : s.calls.set i later = s.calls.take i ++ later :: s.calls.drop (i + 1) := by
    rw [List.set_eq_take_append_cons_drop,if_pos below]
  have after : ({s with calls := s.calls.set i later} : OnTime D).accompanied =
      (s.calls.take i ++ later :: s.calls.drop (i + 1)).filterMap CdpCall.staged := congrArg _ moved
  have before : s.accompanied = (s.calls.take i ++ call :: s.calls.drop (i + 1)).filterMap CdpCall.staged := congrArg _ split
  rw [after,before,List.filterMap_append,List.filterMap_append,List.filterMap_cons,List.filterMap_cons,same]

omit [DecidableLT D] in
theorem set_standing (standing : s.Standing) (call later : CdpCall D) (found : s.calls[i]? = some call)
    (same : later.staged = call.staged) (law : CallLaw later) (due : later.sent ++ later.due <+: later.plan) :
    ({s with calls := s.calls.set i later} : OnTime D).Standing := by
  have kept := accompanied_set call later found same
  refine ⟨fun other member => ?_,?_,?_,?_⟩
  · rcases List.mem_or_eq_of_mem_set member with older | new
    · exact standing.calls other older
    · rw [new]
      exact ⟨law,due⟩
  · rw [kept]
    exact standing.once
  · rw [kept]
    exact standing.below
  · rw [kept]
    exact standing.pending

omit [DecidableLT D] in
theorem begin_standing (standing : s.Standing) (call : CdpCall D) (law : CallLaw call) (due : call.sent ++ call.due <+: call.plan)
    (staged : ∀ n, call.staged = some n → ∃ seconds, s.pendingOnTime = some (n,seconds)) : (s.begin call).Standing := by
  have added : (s.begin call).accompanied = s.accompanied ++ call.staged.toList := by
    have last : List.filterMap CdpCall.staged [call] = call.staged.toList := by
      cases found : call.staged <;> simp [found]
    rw [accompanied,begin,List.filterMap_append,last]
    rfl
  have fresh : ∀ n ∈ call.staged.toList, n < s.stagings ∧ n ∉ s.accompanied := by
    intro n member
    obtain ⟨seconds,waits⟩ := staged n (Option.mem_toList.mp member)
    exact standing.pending n seconds waits
  refine ⟨fun other member => ?_,?_,?_,fun _ _ nothing => by cases nothing⟩
  · rcases List.mem_append.mp member with older | new
    · exact standing.calls other older
    · rw [List.mem_singleton.mp new]
      exact ⟨law,due⟩
  · rw [added,List.nodup_append]
    refine ⟨standing.once,?_,fun n older m new same => (fresh m new).2 (same ▸ older)⟩
    cases call.staged <;> simp
  · intro n member
    rw [added] at member
    rcases List.mem_append.mp member with older | new
    · exact standing.below n older
    · exact (fresh n new).1

theorem origin_staged (onTime : Option D) (found : s.origin onTime = some n) :
    onTime = none ∧ ∃ seconds, s.pendingOnTime = some (n,seconds) ∧ s.consumed onTime = some seconds := by
  unfold origin at found
  split at found
  · cases found
  · rename_i used
    obtain ⟨explicit,taken⟩ : onTime = none ∧ ∃ seconds, s.consumed onTime = some seconds := by
      simpa [Option.isNone_iff_eq_none,← Option.ne_none_iff_exists'] using used
    obtain ⟨⟨m,seconds⟩,waits,rfl⟩ := Option.map_eq_some_iff.mp found
    obtain ⟨asked,result⟩ := taken
    have same := (Option.filter_eq_some_iff.mp result).1
    rw [explicit,waits] at same
    exact ⟨explicit,seconds,waits,by rw [result,← same]; rfl⟩

theorem step_law (standing : s.Standing) (next : step kind s a = some t) : t.Standing ∧ OnTimeLaw s a t := by
  have lawful : ∀ u : OnTime D, u.Standing → u.accompanied.Nodup ∧ ∀ call ∈ u.calls, CallLaw call :=
    fun u held => ⟨held.once,fun call member => (held.calls call member).1⟩
  cases a with
  | setTimerOnTime onTime =>
    cases next
    have after : ({s with pendingOnTime := some (s.stagings,onTime), stagings := s.stagings + 1} : OnTime D).Standing := by
      refine ⟨standing.calls,standing.once,fun n member => Nat.lt_succ_of_lt (standing.below n member),?_⟩
      intro n seconds found
      cases found
      exact ⟨Nat.lt_succ_self _,fun member => Nat.lt_irrefl _ (standing.below _ member)⟩
    exact ⟨after,by simp,by simp,by simp,(lawful _ after).1,(lawful _ after).2⟩
  | resetTimerOnTime =>
    cases next
    have after : ({s with pendingOnTime := none} : OnTime D).Standing :=
      ⟨standing.calls,standing.once,standing.below,fun _ _ found => by cases found⟩
    exact ⟨after,by simp,by simp,by simp,(lawful _ after).1,(lawful _ after).2⟩
  | switchOn onTime args boundedOn =>
    cases next
    have after := begin_standing standing (onCall kind s onTime args boundedOn) (on_call_law kind s onTime args boundedOn)
      List.prefix_rfl fun n found => by
        obtain ⟨_,seconds,waits,_⟩ := origin_staged onTime found
        exact ⟨seconds,waits⟩
    refine ⟨after,fun _ _ _ _ => rfl,?_,?_,(lawful _ after).1,(lawful _ after).2⟩
    · intro seconds args' boundedOn' equal
      cases equal
      refine ⟨_,rfl,?_,rfl⟩
      simp only [onCall,consumed,Option.some_or,Option.filter_some,decide_eq_true_eq]
    · intro args' boundedOn' equal
      cases equal
      refine ⟨_,rfl,rfl,fun n found => ?_⟩
      exact (origin_staged none found).2
  | switchOff =>
    cases next
    have after := begin_standing standing (offCall kind) (off_call_law kind) List.prefix_rfl fun n found => by cases found
    exact ⟨after,fun _ _ _ _ => rfl,by simp,by simp,(lawful _ after).1,(lawful _ after).2⟩
  | send i =>
    simp only [step] at next
    split at next
    · cases next
    · rename_i call found
      split at next
      · cases next
      · rename_i op rest waits
        cases next
        obtain ⟨law,due⟩ := standing.calls call (List.mem_of_getElem? found)
        rw [waits] at due
        have sent : call.sent ++ [op] ++ rest <+: call.plan := by simpa using due
        have after := set_standing standing call {call with sent := call.sent ++ [op], due := rest} found rfl
          ⟨law.positive,(List.prefix_append _ rest).trans sent,law.untimed,law.last⟩ sent
        exact ⟨after,by simp,by simp,by simp,(lawful _ after).1,(lawful _ after).2⟩
  | fail i =>
    simp only [step] at next
    split at next
    · cases next
    · rename_i call found
      cases next
      obtain ⟨law,_⟩ := standing.calls call (List.mem_of_getElem? found)
      have after := set_standing standing call {call with due := []} found rfl
        ⟨law.positive,law.order,law.untimed,law.last⟩ (by simpa using law.order)
      exact ⟨after,by simp,by simp,by simp,(lawful _ after).1,(lawful _ after).2⟩

theorem staged_on_time_consumed_once (kind : CdpKind) (actions : List (OnTimeAction D)) :
    Every (step kind) OnTimeLaw initial actions :=
  every_of_invariant Standing initial_standing (fun _ _ _ standing next => (step_law standing next).1)
    fun _ _ _ standing next => (step_law standing next).2

end OnTime
end LoomClient.Compat
