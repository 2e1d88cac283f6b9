import LoomClient.Store.Operation
import LoomClient.Store.Records

namespace LoomClient.Compat
open Lib Wire Store
variable {V : Type}

-- `isinstance`, `bool`, and a value made of a bool or a string. A bool is an int too.
structure Values (V : Type) where
  bool? : V → Option Bool
  int? : V → Option Int
  str? : V → Option String
  truth : V → Bool
  ofBool : Bool → V
  ofString : String → V

-- `_BINARY_SENSOR_TRUE_VALUE_BY_VALUE_LIST`
def binarySensorTrueValue : List (List String × String) :=
  [(["CLOSED","OPEN"],"OPEN"),(["DRY","RAIN"],"RAIN"),(["STABLE","NOT_STABLE"],"NOT_STABLE")]

section Reading
variable (o : Values V)

def optionOf (options : List String) (raw : V) : Option String :=
  (o.int? raw).bind fun n => if 0 ≤ n then options[n.toNat]? else none

def resolveEnum (summary : DataPointSummary V) (raw : V) : V :=
  if summary.type = some "ENUM" then ((optionOf o (summary.valueList.getD []) raw).map o.ofString).getD raw else raw

def asBool (summary : DataPointSummary V) (raw : V) : V :=
  if (o.bool? raw).isSome then raw
  else match binarySensorTrueValue.lookup (summary.valueList.getD []) with
  | none => o.ofBool (o.truth raw)
  | some trueValue => match (optionOf o (summary.valueList.getD []) raw).or (o.str? raw) with
    | some written => o.ofBool (decide (written = trueValue))
    | none => o.ofBool (o.truth raw)

-- `DataPoint.value`, the value of the daemon.
def wireValue (summary : DataPointSummary V) : Option V := if summary.observed then summary.value else none

def daemonReads (category : DataPointCategory) (summary : DataPointSummary V) : Option V :=
  (wireValue summary).map (if category = .binarySensor then asBool o summary else resolveEnum o summary)

def overrideReads (category : DataPointCategory) (summary : DataPointSummary V) (written : Option V) : Option V :=
  if category = .binarySensor then written.map (asBool o summary) else written

-- The `value` of a data point, and its setter.
def valueOf (dp : Model.DataPoint V) : Option V := match dp.valueOverride with
  | some written => overrideReads o dp.category dp.summary written
  | none => daemonReads o dp.category dp.summary

end Reading

def setValue (dp : Model.DataPoint V) (newValue : Option V) : Model.DataPoint V := {dp with valueOverride := some newValue}

def overrideAt (s : LoomStore V) (k : DataPointKey) : Option (Option V) := (s.dataPoints.get? k).bind (·.valueOverride)

-- A refresh that is stale is dropped.
def replacement (s : LoomStore V) (k : DataPointKey) : Operation V → Option (DataPointSummary V)
  | .push (.valueChanged payload) =>
    if (payload.deviceAddress,payload.channel,payload.parameter) = k then
      (dataPointRecord s k).map (pushedSummary payload)
    else none
  | .settleDataPoint key summary =>
    if key = k then (dataPointRecord s k).bind fun old =>
      if refreshIsStale old.modifiedAt summary.modifiedAt then none else some summary
    else none
  | .settleCalculatedDataPoint key calculated =>
    if key = k then (dataPointRecord s k).bind fun old =>
      if refreshIsStale old.modifiedAt calculated.modifiedAt then none
      else some {old with value := calculated.value,observed := calculated.observed,modifiedAt := calculated.modifiedAt}
    else none
  | .attachChannelDataPoints address channel dataPoints =>
    lastWritten (fun dp => (address,channel,dp.parameter)) k dataPoints
  | .attachChannelCalculatedDataPoints address channel calculated =>
    if s.calculatedFactory then
      lastWritten (fun dp => (address,channel,dp.parameter)) k (calculated.map Model.synthesizeSummary)
    else none
  | _ => none

def Superseded (o : Values V) (t : LoomStore V) (k : DataPointKey) (record : DataPointSummary V) : Prop :=
  ∃ dp, t.dataPoints.get? k = some dp ∧ dp.summary = record ∧ dp.valueOverride = none ∧
    valueOf o dp = daemonReads o dp.category record

def attachesOver (s : LoomStore V) (k : DataPointKey) : Operation V → Bool
  | .attachChannelDataPoints address channel dataPoints =>
    (lastWritten (fun dp => (address,channel,dp.parameter)) k dataPoints).isSome && (overrideAt s k).isSome
  | _ => false

section Replacement
variable (s : LoomStore V) (k : DataPointKey)

theorem replacement_push (payload : DataPointValueChangedPayload V) :
    replacement s k (.push (.valueChanged payload)) =
      if (payload.deviceAddress,payload.channel,payload.parameter) = k then
        (dataPointRecord s k).map (pushedSummary payload)
      else none := rfl

theorem replacement_settle (key : DataPointKey) (summary : DataPointSummary V) :
    replacement s k (.settleDataPoint key summary) =
      if key = k then (dataPointRecord s k).bind fun old =>
        if refreshIsStale old.modifiedAt summary.modifiedAt then none else some summary
      else none := rfl

theorem replacement_settle_calculated (key : DataPointKey) (calculated : CalculatedDPSummary V) :
    replacement s k (.settleCalculatedDataPoint key calculated) =
      if key = k then (dataPointRecord s k).bind fun old =>
        if refreshIsStale old.modifiedAt calculated.modifiedAt then none
        else some {old with value := calculated.value,observed := calculated.observed,modifiedAt := calculated.modifiedAt}
      else none := rfl

theorem replacement_catalogue (address : Address) (channel : Int) (dataPoints : List (DataPointSummary V)) :
    replacement s k (.attachChannelDataPoints address channel dataPoints) =
      lastWritten (fun dp => (address,channel,dp.parameter)) k dataPoints := rfl

theorem replacement_calculated (address : Address) (channel : Int) (calculated : List (CalculatedDPSummary V)) :
    replacement s k (.attachChannelCalculatedDataPoints address channel calculated) =
      if s.calculatedFactory then
        lastWritten (fun dp => (address,channel,dp.parameter)) k (calculated.map Model.synthesizeSummary)
      else none := rfl

end Replacement

theorem superseded_iff (o : Values V) (t : LoomStore V) (k : DataPointKey) (record : DataPointSummary V) :
    Superseded o t k record ↔ dataPointRecord t k = some record ∧ overrideAt t k = none := by
  unfold Superseded dataPointRecord overrideAt
  cases t.dataPoints.get? k with
  | none => simp
  | some dp =>
    simp only [Option.some.injEq,exists_eq_left',Option.map_some,Option.bind_some]
    constructor
    · intro parts
      exact ⟨parts.1,parts.2.1⟩
    · intro parts
      refine ⟨parts.1,parts.2,?_⟩
      simp only [valueOf,parts.2,parts.1]

theorem attach_keeps_override (address : Address) (channel : Int) (s : LoomStore V) (summary : DataPointSummary V) (k : DataPointKey) :
    overrideAt (attachDataPoint address channel s summary) k = overrideAt s k := by
  unfold attachDataPoint overrideAt
  dsimp only
  split
  · rw [Dict.get?_modify]
    split
    · rw [Option.bind_map]
      rfl
    · rfl
  · rename_i fresh
    rw [Dict.get?_set]
    split
    · rename_i same
      rw [same,Dict.get?_eq_none.mpr fresh]
      rfl
    · rfl

theorem catalogue_keeps_override (s : LoomStore V) (address : Address) (channel : Int)
    (dataPoints : List (DataPointSummary V)) (fresh : staleDataPoint s address channel dataPoints k = false) :
    overrideAt (attachChannelDataPoints s address channel dataPoints) k = overrideAt s k := by
  rw [attachChannelDataPoints,foldl_frame _ (overrideAt · k) fun t dp => attach_keeps_override address channel t dp k]
  simp only [overrideAt,Dict.get?_eraseWhere,fresh,Bool.false_eq_true,if_false]

theorem calculated_drops_override (address : Address) (channel : Int) (calculated : List (CalculatedDPSummary V)) (s : LoomStore V)
    (listed : (∃ c ∈ calculated, (address,channel,c.name) = k) ∨ overrideAt s k = none) :
    overrideAt (calculated.foldl (attachCalculatedDataPoint address channel) s) k = none := by
  refine foldl_settled (fun _ => True) (fun t => overrideAt t k = none) (fun c => (address,channel,c.name) = k) ?_ ?_
    (listed.imp_left fun listed => ⟨trivial,listed⟩)
  · intro t c _ same _
    simp only [overrideAt,attachCalculatedDataPoint,Dict.get?_set,same,if_true]
    rfl
  · intro t c _ other
    refine ⟨fun _ => trivial,fun gone => ?_⟩
    simpa only [overrideAt,attachCalculatedDataPoint,Dict.get?_set,if_neg (Ne.symm other)] using gone

theorem cleared_supersedes (o : Values V) {s t : LoomStore V} {update : Model.DataPoint V → Model.DataPoint V}
    (stored : t.dataPoints = s.dataPoints.modify k update) (found : s.dataPoints.get? k = some dp)
    (cleared : (update dp).valueOverride = none) : Superseded o t k (update dp).summary := by
  rw [superseded_iff]
  unfold dataPointRecord overrideAt
  rw [stored,Dict.get?_modify,if_pos rfl,found]
  exact ⟨rfl,cleared⟩

theorem record_found {s : LoomStore V} (found : dataPointRecord s k = some record) :
    ∃ dp, s.dataPoints.get? k = some dp ∧ dp.summary = record := Option.map_eq_some_iff.mp found

theorem push_supersedes (o : Values V) (s : LoomStore V) (payload : DataPointValueChangedPayload V)
    (replaced : replacement s k (.push (.valueChanged payload)) = some record) :
    Superseded o (applyValueChanged s payload) k record := by
  rw [replacement_push] at replaced
  split at replaced
  · rename_i same
    obtain ⟨old,held,rfl⟩ := Option.map_eq_some_iff.mp replaced
    obtain ⟨dp,found,rfl⟩ := record_found held
    have stored : (applyValueChanged s payload).dataPoints = s.dataPoints.modify k fun dp =>
        (dp.replaceSummary (pushedSummary payload dp.summary)).clearValueOverride := by
      rw [← same]
      rfl
    exact cleared_supersedes o stored found rfl
  · cases replaced

theorem refresh_supersedes (o : Values V) (s : LoomStore V) (key : DataPointKey) (summary : DataPointSummary V)
    (replaced : replacement s k (.settleDataPoint key summary) = some record) :
    Superseded o (settleDataPoint s key summary) k record := by
  rw [replacement_settle] at replaced
  split at replaced
  · rename_i same
    subst same
    obtain ⟨old,held,applied⟩ := Option.bind_eq_some_iff.mp replaced
    obtain ⟨dp,found,rfl⟩ := record_found held
    split at applied
    · cases applied
    · rename_i current
      rw [← Option.some.inj applied]
      have stored : (settleDataPoint s key summary).dataPoints = s.dataPoints.modify key fun dp =>
          (dp.replaceSummary summary).clearValueOverride := by
        simp only [settleDataPoint,found,current]
        rfl
      exact cleared_supersedes o stored found rfl
  · cases replaced

theorem calculated_refresh_supersedes (o : Values V) (s : LoomStore V) (key : DataPointKey) (calculated : CalculatedDPSummary V)
    (replaced : replacement s k (.settleCalculatedDataPoint key calculated) = some record) :
    Superseded o (settleCalculatedDataPoint s key calculated) k record := by
  rw [replacement_settle_calculated] at replaced
  split at replaced
  · rename_i same
    subst same
    obtain ⟨old,held,applied⟩ := Option.bind_eq_some_iff.mp replaced
    obtain ⟨dp,found,rfl⟩ := record_found held
    split at applied
    · cases applied
    · rename_i current
      cases applied
      have stored : (settleCalculatedDataPoint s key calculated).dataPoints = s.dataPoints.modify key fun dp =>
          ((dp.replaceSummary {dp.summary with
            value := calculated.value
            observed := calculated.observed
            modifiedAt := calculated.modifiedAt}).applyCalculatedAvailability calculated.available).clearValueOverride := by
        simp only [settleCalculatedDataPoint,found,current]
        rfl
      have written := cleared_supersedes o stored found rfl
      have same : ∀ dp : Model.DataPoint V,
          (dp.applyCalculatedAvailability calculated.available).clearValueOverride.summary = dp.summary := by
        intro dp
        unfold Model.DataPoint.applyCalculatedAvailability
        split <;> rfl
      rw [same] at written
      exact written
  · cases replaced

theorem catalogue_supersedes_iff (o : Values V) (s : LoomStore V) (address : Address) (channel : Int)
    (dataPoints : List (DataPointSummary V))
    (replaced : replacement s k (.attachChannelDataPoints address channel dataPoints) = some record) :
    Superseded o (attachChannelDataPoints s address channel dataPoints) k record ↔ overrideAt s k = none := by
  rw [replacement_catalogue] at replaced
  obtain ⟨summary,member,same⟩ := last_written_listed.mp (Option.isSome_iff_exists.mpr ⟨record,replaced⟩)
  have fresh : staleDataPoint s address channel dataPoints k = false := by
    have listed : k.2.2 ∈ dataPoints.map (·.parameter) := List.mem_map.mpr ⟨summary,member,by rw [← same]⟩
    simp [staleDataPoint,listed]
  rw [superseded_iff,data_points_written s address channel dataPoints k fresh,replaced,
    catalogue_keeps_override s address channel dataPoints fresh]
  simp

theorem calculated_supersedes (o : Values V) (s : LoomStore V) (address : Address) (channel : Int)
    (calculated : List (CalculatedDPSummary V))
    (replaced : replacement s k (.attachChannelCalculatedDataPoints address channel calculated) = some record) :
    Superseded o (attachChannelCalculatedDataPoints s address channel calculated) k record := by
  rw [replacement_calculated] at replaced
  split at replaced
  · rename_i installed
    obtain ⟨summary,member,same⟩ := last_written_listed.mp (Option.isSome_iff_exists.mpr ⟨record,replaced⟩)
    obtain ⟨c,listed,rfl⟩ := List.mem_map.mp member
    rw [superseded_iff,calculated_points_written s address channel calculated k installed,replaced,
      attachChannelCalculatedDataPoints,if_pos installed]
    exact ⟨rfl,calculated_drops_override address channel calculated s (.inl ⟨c,listed,same⟩)⟩
  · cases replaced

theorem override_superseded_iff (o : Values V) (s : LoomStore V) (op : Operation V) (k : DataPointKey) :
    (∀ record, replacement s k op = some record → Superseded o (apply s op) k record) ↔ attachesOver s k op = false := by
  cases op with
  | attachChannelDataPoints address channel dataPoints =>
    simp only [attachesOver,Bool.and_eq_false_iff]
    constructor
    · intro superseded
      cases written : lastWritten (fun dp => (address,channel,dp.parameter)) k dataPoints with
      | none => exact .inl rfl
      | some record =>
        have gone := (catalogue_supersedes_iff o s address channel dataPoints written).mp (superseded record written)
        exact .inr (by rw [gone]; rfl)
    · intro free record replaced
      refine (catalogue_supersedes_iff o s address channel dataPoints replaced).mpr ?_
      rcases free with unlisted | unwritten
      · rw [replacement_catalogue] at replaced
        rw [replaced] at unlisted
        cases unlisted
      · exact Option.isSome_eq_false_iff.mp unwritten |> Option.isNone_iff_eq_none.mp
  | attachChannelCalculatedDataPoints address channel calculated =>
    exact iff_of_true (fun record => calculated_supersedes o s address channel calculated) rfl
  | settleDataPoint key summary => exact iff_of_true (fun record => refresh_supersedes o s key summary) rfl
  | settleCalculatedDataPoint key calculated =>
    exact iff_of_true (fun record => calculated_refresh_supersedes o s key calculated) rfl
  | push push =>
    cases push with
    | valueChanged payload => exact iff_of_true (fun record => push_supersedes o s payload) rfl
    | _ => exact iff_of_true (fun record replaced => nomatch replaced) rfl
  | _ => exact iff_of_true (fun record replaced => nomatch replaced) rfl

def levelSummary (level : Int) : DataPointSummary Int where
  parameter := "LEVEL"
  uniqueId := "loom_level"
  value := some level
  displayValue := none
  observed := true
  modifiedAt := none
  lastChangedAt := none
  lastSeenAt := none
  category := none
  usage := none
  type := some "FLOAT"
  valueList := none
  operations := ⟨true,true,true⟩
  translatedName := none

def levelKey : DataPointKey := ("D1",1,"LEVEL")

def writtenLocally : LoomStore Int :=
  {LoomStore.empty 1 with
    dataPoints := Dict.empty.set levelKey (setValue (.build 0 (levelSummary 0) "D1" 1) (some 100))}

def plainValues : Values Int := ⟨fun _ => none,some,fun _ => none,(· ≠ 0),fun b => if b then 1 else 0,fun _ => 0⟩

theorem catalogue_keeps_local_value :
    ¬∀ record, replacement writtenLocally levelKey (.attachChannelDataPoints "D1" 1 [levelSummary 50]) = some record →
      Superseded plainValues (apply writtenLocally (.attachChannelDataPoints "D1" 1 [levelSummary 50])) levelKey record := by
  intro superseded
  have replaced : replacement writtenLocally levelKey (.attachChannelDataPoints "D1" 1 [levelSummary 50]) =
      some (levelSummary 50) := by decide +kernel
  have kept := (catalogue_supersedes_iff plainValues writtenLocally "D1" 1 [levelSummary 50] replaced).mp
    (superseded _ replaced)
  exact absurd kept (by decide +kernel)

end LoomClient.Compat
