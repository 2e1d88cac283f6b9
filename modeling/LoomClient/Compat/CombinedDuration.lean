import LoomClient.Compat.ValueOverride
import LoomClient.Lib.Float64
import LoomClient.Lib.Transition

namespace LoomClient.Compat.CombinedDuration
open Lib Lib.Float64 Wire Store

inductive Scalar where
  | bool (b : Bool)
  | int (n : Int)
  | float (x : Float)
  | text (s : String)
  deriving DecidableEq

def Scalar.int? : Scalar → Option Int
  | .bool b => some (if b then 1 else 0)
  | .int n => some n
  | _ => none

def Scalar.truth : Scalar → Bool
  | .bool b => b
  | .int n => n != 0
  | .float x => !equalsInt x 0
  | .text s => s != ""

def scalars : Values Scalar where
  bool? := fun
    | .bool b => some b
    | _ => none
  int? := Scalar.int?
  str? := fun
    | .text s => some s
    | _ => none
  truth := Scalar.truth
  ofBool := .bool
  ofString := .text

def parameterDurationValue : String := "DURATION_VALUE"
def parameterDurationUnit : String := "DURATION_UNIT"

-- `_FACTOR_BY_UNIT`: the raw index, and the options of a daemon that resolves it.
def factorByIndex : List (Int × Int) := [(0,1),(1,60),(2,3600)]
def factorByOption : List (String × Int) :=
  [("S",1),("M",60),("H",3600),("SECONDS",1),("MINUTES",60),("HOURS",3600)]

-- `_FACTOR_BY_UNIT.get(unit, 1)`. A bool is found as the int it is and a float as the
-- index it equals.
def unitFactor : Option Scalar → Int
  | none => 1
  | some (.bool b) => (factorByIndex.lookup (if b then 1 else 0)).getD 1
  | some (.int n) => (factorByIndex.lookup n).getD 1
  | some (.float x) => ((factorByIndex.find? fun entry => equalsInt x entry.1).map (·.2)).getD 1
  | some (.text s) => (factorByOption.lookup s).getD 1

def float (parse : String → Except FloatError Float) : Scalar → Except FloatError Float
  | .bool b => ofInt (if b then 1 else 0)
  | .int n => ofInt n
  | .float x => .ok x
  | .text s => parse s

structure CombinedDurationDp where
  deviceAddress : Address
  channelNumber : Int

section Point
variable (parse : String → Except FloatError Float) (dp : CombinedDurationDp) (s : LoomStore Scalar)

def CombinedDurationDp.key (parameter : String) : DataPointKey := (dp.deviceAddress,dp.channelNumber,parameter)

def sourceDp (parameter : String) : Option (Model.DataPoint Scalar) := s.dataPoints.get? (dp.key parameter)

def rawOf : Option Scalar := (sourceDp dp s parameterDurationValue).bind (valueOf scalars)

def factorOf : Int := match sourceDp dp s parameterDurationUnit with
  | none => 1
  | some unitDp => unitFactor unitDp.summary.value

def value : Except FloatError (Option Float) := match rawOf dp s with
  | none => .ok none
  | some raw => (float parse raw).map fun duration => some (duration * Float.ofInt (factorOf dp s))

def channelHasDurationPair : Bool :=
  [parameterDurationValue,parameterDurationUnit].all fun parameter => (sourceDp dp s parameter).isSome

end Point

-- A number of seconds as a caller writes it, and `int(value)`.
inductive Number where
  | int (n : Int)
  | float (x : Float)

def Number.truncated : Number → Except FloatError Int
  | .int n => .ok n
  | .float x => toInt x

-- `send_value` awaits the answer to one write after the other.
inductive Phase where
  | pinning
  | writing
  | returned
  | raised
  deriving DecidableEq

structure SendValue where
  store : LoomStore Scalar
  phase : Phase
  written : List (String × Int)
  confirmed : List String

def begin (s : LoomStore Scalar) : SendValue := ⟨s,.pinning,[(parameterDurationUnit,0)],[]⟩

-- The daemon confirms a number as it was written, as the double nearest to it, or
-- for the unit as its option.
def confirms (parameter : String) (n : Int) : Scalar → Bool
  | .int pushed => pushed = n
  | .float x => match ofInt n with
    | .ok nearest => x = nearest
    | .error _ => false
  | .text option => parameter = parameterDurationUnit && factorByOption.lookup option = some 1
  | .bool _ => false

inductive SendAction where
  | accepted
  | failed
  | valueChanged (payload : DataPointValueChangedPayload Scalar)

-- A write that failed may have reached the daemon all the same, so its push is
-- awaited like that of an accepted one. A push may be repeated.
def step (dp : CombinedDurationDp) (v : Number) (t : SendValue) : SendAction → Option SendValue
  | .accepted => match t.phase with
    | .pinning => match v.truncated with
      | .ok n => some {t with phase := .writing, written := t.written ++ [(parameterDurationValue,n)]}
      | .error _ => some {t with phase := .raised}
    | .writing => some {t with phase := .returned}
    | _ => none
  | .failed => if t.phase = .pinning ∨ t.phase = .writing then some {t with phase := .raised} else none
  | .valueChanged payload =>
    if (payload.deviceAddress,payload.channel) = (dp.deviceAddress,dp.channelNumber) then
      match t.written.lookup payload.parameter with
      | some n =>
        if payload.value.any (confirms payload.parameter n) then
          some {t with store := applyValueChanged t.store payload, confirmed := payload.parameter :: t.confirmed}
        else none
      | none => none
    else none

structure DurationPair (dp : CombinedDurationDp) (s : LoomStore Scalar) : Prop where
  paired : channelHasDurationPair dp s = true
  number : ∀ valueDp, sourceDp dp s parameterDurationValue = some valueDp →
    valueDp.category ≠ .binarySensor ∧ valueDp.summary.type ≠ some "ENUM"

section Pushes
variable {dp : CombinedDurationDp} {s : LoomStore Scalar} {payload : DataPointValueChangedPayload Scalar}

def afterPush (payload : DataPointValueChangedPayload Scalar) (point : Model.DataPoint Scalar) : Model.DataPoint Scalar :=
  (point.replaceSummary (pushedSummary payload point.summary)).clearValueOverride

theorem source_pushed (channel : (payload.deviceAddress,payload.channel) = (dp.deviceAddress,dp.channelNumber)) (parameter : String) :
    sourceDp dp (applyValueChanged s payload) parameter =
      if payload.parameter = parameter then (sourceDp dp s parameter).map (afterPush payload) else sourceDp dp s parameter := by
  obtain ⟨address,number⟩ := Prod.mk.inj channel
  have same : (payload.deviceAddress,payload.channel,payload.parameter) = dp.key payload.parameter := by
    rw [address,number]
    rfl
  unfold sourceDp applyValueChanged
  rw [same,Dict.get?_modify]
  by_cases equal : payload.parameter = parameter
  · rw [if_pos (by rw [equal]),if_pos equal]
    rfl
  · have other : dp.key parameter ≠ dp.key payload.parameter := by
      intro keys
      exact equal (Prod.mk.inj (Prod.mk.inj keys).2).2.symm
    rw [if_neg other,if_neg equal]

theorem pair_kept (pair : DurationPair dp s)
    (channel : (payload.deviceAddress,payload.channel) = (dp.deviceAddress,dp.channelNumber)) :
    DurationPair dp (applyValueChanged s payload) := by
  have present : ∀ parameter, (sourceDp dp (applyValueChanged s payload) parameter).isSome = (sourceDp dp s parameter).isSome := by
    intro parameter
    rw [source_pushed channel]
    split
    · rw [Option.isSome_map]
    · rfl
  refine ⟨?_,?_⟩
  · have paired := pair.paired
    unfold channelHasDurationPair at paired ⊢
    simpa only [present] using paired
  · intro valueDp found
    rw [source_pushed channel] at found
    split at found
    · obtain ⟨old,held,rfl⟩ := Option.map_eq_some_iff.mp found
      exact pair.number old held
    · exact pair.number valueDp found

theorem pair_source (pair : DurationPair dp s) (parameter : String)
    (listed : parameter ∈ [parameterDurationValue,parameterDurationUnit]) : ∃ point, sourceDp dp s parameter = some point :=
  Option.isSome_iff_exists.mp (List.all_eq_true.mp pair.paired parameter listed)

theorem number_pushed (point : Model.DataPoint Scalar) (category : point.category ≠ .binarySensor)
    (number : point.summary.type ≠ some "ENUM") : valueOf scalars (afterPush payload point) = payload.value := by
  have plain : resolveEnum scalars (pushedSummary payload point.summary) = id := by
    funext raw
    show (if point.summary.type = some "ENUM" then _ else raw) = raw
    rw [if_neg number]
  show payload.value.map (if point.category = .binarySensor then _
    else resolveEnum scalars (pushedSummary payload point.summary)) = payload.value
  rw [if_neg category,plain,Option.map_id]
  rfl

theorem raw_pushed (pair : DurationPair dp s)
    (channel : (payload.deviceAddress,payload.channel) = (dp.deviceAddress,dp.channelNumber)) :
    rawOf dp (applyValueChanged s payload) = if payload.parameter = parameterDurationValue then payload.value else rawOf dp s := by
  obtain ⟨point,found⟩ := pair_source pair parameterDurationValue (by simp)
  obtain ⟨category,number⟩ := pair.number point found
  unfold rawOf
  rw [source_pushed channel]
  split
  · rw [found]
    exact number_pushed point category number
  · rfl

theorem factor_pushed (pair : DurationPair dp s)
    (channel : (payload.deviceAddress,payload.channel) = (dp.deviceAddress,dp.channelNumber)) :
    factorOf dp (applyValueChanged s payload) =
      if payload.parameter = parameterDurationUnit then unitFactor payload.value else factorOf dp s := by
  obtain ⟨point,found⟩ := pair_source pair parameterDurationUnit (by simp)
  unfold factorOf
  rw [source_pushed channel]
  by_cases unit : payload.parameter = parameterDurationUnit
  · rw [if_pos unit,if_pos unit,found]
    rfl
  · rw [if_neg unit,if_neg unit]

end Pushes

theorem float_confirms (confirmed : confirms parameter n (.float x) = true) : ofInt n = .ok x := by
  simp only [confirms] at confirmed
  generalize ofInt n = rounded at confirmed ⊢
  cases rounded with
  | error e => cases confirmed
  | ok nearest =>
    have same : x = nearest := of_decide_eq_true confirmed
    rw [same]

theorem text_confirms (confirmed : confirms parameter n (.text option) = true) :
    parameter = parameterDurationUnit ∧ factorByOption.lookup option = some 1 := by
  simpa only [confirms,Bool.and_eq_true,decide_eq_true_eq] using confirmed

theorem unit_confirmed (confirmed : confirms parameterDurationUnit 0 raw = true) : unitFactor (some raw) = 1 := by
  cases raw with
  | bool b => cases confirmed
  | int n =>
    have zero : n = 0 := of_decide_eq_true confirmed
    rw [zero]
    rfl
  | float x =>
    have zero := float_confirms confirmed
    rw [of_int_small (by decide)] at zero
    rw [← Except.ok.inj zero]
    rfl
  | text option => simp only [unitFactor,(text_confirms confirmed).2,Option.getD_some]

theorem value_confirmed (parse : String → Except FloatError Float) (confirmed : confirms parameterDurationValue n raw = true) :
    float parse raw = ofInt n := by
  cases raw with
  | bool b => cases confirmed
  | int m =>
    have same : m = n := of_decide_eq_true confirmed
    rw [same,float]
  | float x => rw [float_confirms confirmed,float]
  | text option => exact absurd (text_confirms confirmed).1 (by decide)

-- Of each of the two parameters the confirmed number, or still the old one.
structure Standing (dp : CombinedDurationDp) (v : Number) (before : LoomStore Scalar) (t : SendValue) : Prop where
  pair : DurationPair dp t.store
  sent : t.written = [(parameterDurationUnit,0)] ∨
    ∃ n, v.truncated = .ok n ∧ t.written = [(parameterDurationUnit,0),(parameterDurationValue,n)]
  pinning : t.phase = .pinning → t.written = [(parameterDurationUnit,0)]
  oldUnit : parameterDurationUnit ∉ t.confirmed → factorOf dp t.store = factorOf dp before
  newUnit : parameterDurationUnit ∈ t.confirmed → factorOf dp t.store = 1
  oldRaw : parameterDurationValue ∉ t.confirmed → rawOf dp t.store = rawOf dp before
  newRaw : parameterDurationValue ∈ t.confirmed → ∃ n raw, v.truncated = .ok n ∧ rawOf dp t.store = some raw ∧
    confirms parameterDurationValue n raw = true

theorem begin_standing (v : Number) (pair : DurationPair dp s) : Standing dp v s (begin s) where
  pair := pair
  sent := .inl rfl
  pinning := fun _ => rfl
  oldUnit := fun _ => rfl
  newUnit := fun confirmed => nomatch confirmed
  oldRaw := fun _ => rfl
  newRaw := fun confirmed => nomatch confirmed

theorem sent_lookup (standing : Standing dp v before t) (found : t.written.lookup parameter = some n) :
    parameter = parameterDurationUnit ∧ n = 0 ∨ parameter = parameterDurationValue ∧ v.truncated = .ok n := by
  have member : (parameter,n) ∈ t.written := by
    obtain ⟨earlier,later,split,_⟩ := List.lookup_eq_some_iff.mp found
    rw [split]
    exact List.mem_append_cons_self
  rcases standing.sent with unit | ⟨m,truncated,both⟩
  · rw [unit,List.mem_singleton] at member
    exact .inl (Prod.mk.inj member)
  · rw [both,List.mem_pair] at member
    rcases member with unit | duration
    · exact .inl (Prod.mk.inj unit)
    · obtain ⟨same,equal⟩ := Prod.mk.inj duration
      exact .inr ⟨same,equal ▸ truncated⟩

theorem answer_standing (standing : Standing dp v before t) (phase : Phase) (answered : phase ≠ .pinning)
    (sent : writes = [(parameterDurationUnit,0)] ∨
      ∃ n, v.truncated = .ok n ∧ writes = [(parameterDurationUnit,0),(parameterDurationValue,n)]) :
    Standing dp v before {t with phase := phase, written := writes} :=
  ⟨standing.pair,sent,fun pinning => absurd pinning answered,
    standing.oldUnit,standing.newUnit,standing.oldRaw,standing.newRaw⟩

theorem unit_push_standing (standing : Standing dp v before t)
    (channel : (payload.deviceAddress,payload.channel) = (dp.deviceAddress,dp.channelNumber))
    (unit : payload.parameter = parameterDurationUnit) (held : payload.value = some raw)
    (confirmed : confirms parameterDurationUnit 0 raw = true) :
    Standing dp v before
      {t with store := applyValueChanged t.store payload, confirmed := payload.parameter :: t.confirmed} := by
  have apart : parameterDurationValue ≠ payload.parameter := by
    rw [unit]
    decide
  have duration : rawOf dp (applyValueChanged t.store payload) = rawOf dp t.store := by
    rw [raw_pushed standing.pair channel,if_neg apart.symm]
  have seconds : factorOf dp (applyValueChanged t.store payload) = 1 := by
    rw [factor_pushed standing.pair channel,if_pos unit,held]
    exact unit_confirmed confirmed
  refine ⟨pair_kept standing.pair channel,standing.sent,standing.pinning,?_,?_,?_,?_⟩
  · intro unconfirmed
    exact absurd (List.mem_cons.mpr (.inl unit.symm)) unconfirmed
  · exact fun _ => seconds
  · intro unconfirmed
    exact duration.trans (standing.oldRaw fun earlier => unconfirmed (List.mem_cons_of_mem _ earlier))
  · intro now
    rw [duration]
    exact standing.newRaw ((List.mem_cons.mp now).resolve_left apart)

theorem value_push_standing (standing : Standing dp v before t)
    (channel : (payload.deviceAddress,payload.channel) = (dp.deviceAddress,dp.channelNumber))
    (duration : payload.parameter = parameterDurationValue) (held : payload.value = some raw)
    (truncated : v.truncated = .ok n) (confirmed : confirms parameterDurationValue n raw = true) :
    Standing dp v before
      {t with store := applyValueChanged t.store payload, confirmed := payload.parameter :: t.confirmed} := by
  have apart : parameterDurationUnit ≠ payload.parameter := by
    rw [duration]
    decide
  have unit : factorOf dp (applyValueChanged t.store payload) = factorOf dp t.store := by
    rw [factor_pushed standing.pair channel,if_neg apart.symm]
  have written : rawOf dp (applyValueChanged t.store payload) = some raw := by
    rw [raw_pushed standing.pair channel,if_pos duration,held]
  refine ⟨pair_kept standing.pair channel,standing.sent,standing.pinning,?_,?_,?_,?_⟩
  · intro unconfirmed
    exact unit.trans (standing.oldUnit fun earlier => unconfirmed (List.mem_cons_of_mem _ earlier))
  · intro now
    rw [unit]
    exact standing.newUnit ((List.mem_cons.mp now).resolve_left apart)
  · intro unconfirmed
    exact absurd (List.mem_cons.mpr (.inl duration.symm)) unconfirmed
  · exact fun _ => ⟨n,raw,truncated,written,confirmed⟩

theorem step_standing (standing : Standing dp v before t) (next : step dp v t action = some t') : Standing dp v before t' := by
  cases action with
  | accepted =>
    simp only [step] at next
    split at next
    · rename_i pinning
      split at next
      · rename_i n truncated
        cases next
        have both : t.written ++ [(parameterDurationValue,n)] = [(parameterDurationUnit,0),(parameterDurationValue,n)] := by
          rw [standing.pinning pinning]
          rfl
        exact answer_standing standing .writing (by decide) (.inr ⟨n,truncated,both⟩)
      · cases next
        exact answer_standing standing .raised (by decide) standing.sent
    · cases next
      exact answer_standing standing .returned (by decide) standing.sent
    · cases next
  | failed =>
    simp only [step] at next
    split at next
    · cases next
      exact answer_standing standing .raised (by decide) standing.sent
    · cases next
  | valueChanged payload =>
    simp only [step] at next
    split at next
    · rename_i channel
      split at next
      · rename_i n found
        split at next
        · rename_i pushed
          cases next
          obtain ⟨raw,held,confirmed⟩ := (Option.any_eq_true _ _).mp pushed
          rcases sent_lookup standing found with ⟨unit,rfl⟩ | ⟨duration,truncated⟩
          · rw [unit] at confirmed
            exact unit_push_standing standing channel unit held confirmed
          · rw [duration] at confirmed
            exact value_push_standing standing channel duration held truncated confirmed
        · cases next
      · cases next
    · cases next

section Readings
variable (parse : String → Except FloatError Float) (dp : CombinedDurationDp)

def readsSeconds (reading : Except FloatError (Option Float)) (n : Int) : Bool := match reading with
  | .ok (some x) => equalsInt x n
  | _ => false

-- `int(v)` as a double, which is the number itself as far as doubles hold every integer.
def ReadsWritten (v : Number) (s : LoomStore Scalar) : Prop :=
  ∃ n, v.truncated = .ok n ∧ value parse dp s = (ofInt n).map some ∧
    (n.natAbs ≤ 2 ^ 53 → readsSeconds (value parse dp s) n = true)

-- Each parameter is read as soon as it is pushed, so that between the pushes, and for good after a
-- failure between the writes, the old number stands under the new unit or the other way round.
structure WriteReads (v : Number) (before : LoomStore Scalar) (t : SendValue) : Prop where
  untouched : parameterDurationUnit ∉ t.confirmed → parameterDurationValue ∉ t.confirmed →
    value parse dp t.store = value parse dp before
  oldAsSeconds : parameterDurationUnit ∈ t.confirmed → parameterDurationValue ∉ t.confirmed →
    value parse dp t.store = match rawOf dp before with
      | none => .ok none
      | some raw => (float parse raw).map some
  newInOldUnit : parameterDurationUnit ∉ t.confirmed → parameterDurationValue ∈ t.confirmed →
    ∃ n, v.truncated = .ok n ∧
      value parse dp t.store = (ofInt n).map fun duration => some (duration * Float.ofInt (factorOf dp before))
  settled : parameterDurationUnit ∈ t.confirmed → parameterDurationValue ∈ t.confirmed → ReadsWritten parse dp v t.store
  steady : factorOf dp before = 1 → value parse dp t.store = value parse dp before ∨ ReadsWritten parse dp v t.store

structure SteadyWrite (v : Number) (before : LoomStore Scalar) (t : SendValue) : Prop where
  settled : parameterDurationUnit ∈ t.confirmed → parameterDurationValue ∈ t.confirmed →
    ∃ n, v.truncated = .ok n ∧ readsSeconds (value parse dp t.store) n = true
  between : value parse dp t.store = value parse dp before ∨
    ∃ n, v.truncated = .ok n ∧ readsSeconds (value parse dp t.store) n = true

variable {parse dp}

theorem value_congr (raw : rawOf dp s = rawOf dp before) (factor : factorOf dp s = factorOf dp before) :
    value parse dp s = value parse dp before := by
  unfold value
  rw [raw,factor]

theorem factor_one : (fun duration => some (duration * Float.ofInt 1)) = some :=
  funext fun duration => congrArg some (times_one duration)

theorem seconds_read (factor : factorOf dp s = 1) : value parse dp s = match rawOf dp s with
    | none => .ok none
    | some raw => (float parse raw).map some := by
  unfold value
  rw [factor,factor_one]

theorem confirmed_reads (standing : Standing dp v before t) (confirmed : parameterDurationValue ∈ t.confirmed) :
    ∃ n, v.truncated = .ok n ∧
      value parse dp t.store = (ofInt n).map fun duration => some (duration * Float.ofInt (factorOf dp t.store)) := by
  obtain ⟨n,raw,truncated,held,pushed⟩ := standing.newRaw confirmed
  refine ⟨n,truncated,?_⟩
  unfold value
  rw [held]
  dsimp only
  rw [value_confirmed parse pushed]

theorem whole_seconds_read (n : Int) (small : n.natAbs ≤ 2 ^ 53) : readsSeconds ((ofInt n).map some) n = true := by
  rw [of_int_small small]
  exact of_int_exact small

theorem confirmed_seconds (standing : Standing dp v before t) (confirmed : parameterDurationValue ∈ t.confirmed)
    (seconds : factorOf dp t.store = 1) : ReadsWritten parse dp v t.store := by
  obtain ⟨n,truncated,read⟩ : ∃ n, v.truncated = .ok n ∧ value parse dp t.store = _ := confirmed_reads standing confirmed
  rw [seconds,factor_one] at read
  refine ⟨n,truncated,read,fun small => ?_⟩
  rw [read]
  exact whole_seconds_read n small

theorem standing_reads (standing : Standing dp v before t) : WriteReads parse dp v before t where
  untouched := fun unit duration => value_congr (standing.oldRaw duration) (standing.oldUnit unit)
  oldAsSeconds := by
    intro unit duration
    rw [seconds_read (standing.newUnit unit),standing.oldRaw duration]
  newInOldUnit := by
    intro unit duration
    rw [← standing.oldUnit unit]
    exact confirmed_reads standing duration
  settled := fun unit duration => confirmed_seconds standing duration (standing.newUnit unit)
  steady := by
    intro already
    have seconds : factorOf dp t.store = 1 := by
      by_cases unit : parameterDurationUnit ∈ t.confirmed
      · exact standing.newUnit unit
      · rw [standing.oldUnit unit,already]
    by_cases duration : parameterDurationValue ∈ t.confirmed
    · exact .inr (confirmed_seconds standing duration seconds)
    · exact .inl (value_congr (standing.oldRaw duration) (seconds.trans already.symm))

end Readings

def sirenPoint : CombinedDurationDp := ⟨"S1",3⟩

def sourceSummary (parameter type : String) (held : Scalar) : DataPointSummary Scalar where
  parameter := parameter
  uniqueId := "loom_s1_3"
  value := some held
  displayValue := none
  observed := true
  modifiedAt := none
  lastChangedAt := none
  lastSeenAt := none
  category := none
  usage := none
  type := some type
  valueList := none
  operations := ⟨true,true,true⟩
  translatedName := none

def fiveMinutes : LoomStore Scalar :=
  {LoomStore.empty 2 with
    dataPoints := (Dict.empty.set (sirenPoint.key parameterDurationValue)
      (.build 0 (sourceSummary parameterDurationValue "FLOAT" (.float (Float.ofInt 5))) "S1" 3)).set
        (sirenPoint.key parameterDurationUnit) (.build 1 (sourceSummary parameterDurationUnit "ENUM" (.int 1)) "S1" 3)}

def noText (_ : String) : Except FloatError Float := .error .valueError

theorem five_minutes_pair : DurationPair sirenPoint fiveMinutes := by
  refine ⟨by decide +kernel,?_⟩
  intro valueDp found
  have held : valueDp = .build 0 (sourceSummary parameterDurationValue "FLOAT" (.float (Float.ofInt 5))) "S1" 3 :=
    Option.some.inj (found.symm.trans (by rfl))
  rw [held]
  decide

def confirmation (parameter : String) (n : Int) : DataPointValueChangedPayload Scalar :=
  ⟨"S1",3,parameter,"loom_s1_3",some (.int n),none,1⟩

def fiveSeconds : LoomStore Scalar := applyValueChanged fiveMinutes (confirmation parameterDurationUnit 0)

theorem combined_duration_write (parse : String → Except FloatError Float) (pair : DurationPair dp s) (v : Number)
    (actions : List SendAction) : Always (step dp v) (WriteReads parse dp v s) (begin s) actions := by
  have standing : Always (step dp v) (Standing dp v s) (begin s) actions :=
    always_of_invariant (begin_standing v pair) fun _ _ _ => step_standing
  exact always_mono (fun _ => standing_reads) standing

-- The number is confirmed before the unit, and the answer to its write is lost.
theorem five_minutes_write :
    (run (step sirenPoint (.int 30)) (begin fiveMinutes)
      [.accepted,.valueChanged (confirmation parameterDurationValue 30),.failed,
        .valueChanged (confirmation parameterDurationUnit 0)]).isSome = true ∧
      Always (step sirenPoint (.int 30)) (WriteReads noText sirenPoint (.int 30) fiveMinutes) (begin fiveMinutes)
        [.accepted,.valueChanged (confirmation parameterDurationValue 30),.failed,
          .valueChanged (confirmation parameterDurationUnit 0)] :=
  ⟨by rfl,combined_duration_write noText five_minutes_pair (.int 30) _⟩

-- The unit is pinned first, which makes five seconds of the five minutes; and no double is 2 ^ 53 + 1.
theorem five_minutes_torn :
    ¬Always (step sirenPoint (.int 30)) (SteadyWrite noText sirenPoint (.int 30) fiveMinutes) (begin fiveMinutes)
        [.valueChanged (confirmation parameterDurationUnit 0)] ∧
      ¬Always (step sirenPoint (.int (2 ^ 53 + 1))) (SteadyWrite noText sirenPoint (.int (2 ^ 53 + 1)) fiveMinutes) (begin fiveMinutes)
        [.accepted,.valueChanged (confirmation parameterDurationUnit 0),
          .valueChanged (confirmation parameterDurationValue (2 ^ 53 + 1))] := by
  constructor
  · intro always
    have path : run (step sirenPoint (.int 30)) (begin fiveMinutes) [.valueChanged (confirmation parameterDurationUnit 0)] =
        some ⟨fiveSeconds,.pinning,[(parameterDurationUnit,0)],[parameterDurationUnit]⟩ := by rfl
    have before : readsSeconds (value noText sirenPoint fiveMinutes) 300 = true := by decide +kernel
    have after : readsSeconds (value noText sirenPoint fiveSeconds) 300 = false := by decide +kernel
    have unwritten : readsSeconds (value noText sirenPoint fiveSeconds) 30 = false := by decide +kernel
    rcases (run_always always path).between with old | ⟨n,truncated,new⟩
    · have same : value noText sirenPoint fiveSeconds = value noText sirenPoint fiveMinutes := old
      rw [same,before] at after
      cases after
    · cases truncated
      exact absurd (new.symm.trans unwritten) (by decide)
  · intro always
    have path : run (step sirenPoint (.int (2 ^ 53 + 1))) (begin fiveMinutes)
        [.accepted,.valueChanged (confirmation parameterDurationUnit 0),
          .valueChanged (confirmation parameterDurationValue (2 ^ 53 + 1))] =
        some ⟨applyValueChanged fiveSeconds (confirmation parameterDurationValue (2 ^ 53 + 1)),.writing,
          [(parameterDurationUnit,0),(parameterDurationValue,2 ^ 53 + 1)],[parameterDurationValue,parameterDurationUnit]⟩ := by
      rfl
    have rounded : readsSeconds (value noText sirenPoint
      (applyValueChanged fiveSeconds (confirmation parameterDurationValue (2 ^ 53 + 1)))) (2 ^ 53 + 1) = false := by decide +kernel
    obtain ⟨n,truncated,read⟩ := (run_always always path).settled (by simp) (by simp)
    cases truncated
    exact absurd (read.symm.trans rounded) (by decide)

end LoomClient.Compat.CombinedDuration
