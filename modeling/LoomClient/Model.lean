import LoomClient.Wire

namespace LoomClient.Model
open Lib Wire

-- Two objects built for one key differ in `oid` only.
abbrev Oid := Nat

structure Device where
  oid : Oid
  summary : DeviceSummary
  firmware : Option DeviceFirmware
  availability : Option DeviceAvailability
  forcedAvailability : Option Bool
  deriving DecidableEq, Repr

structure Channel where
  oid : Oid
  summary : ChannelSummary
  deriving DecidableEq, Repr

-- The category and `calculated` are fixed by the class and survive every later change of the record.
structure DataPoint (V : Type) where
  oid : Oid
  category : DataPointCategory
  summary : DataPointSummary V
  deviceAddress : Address
  channelNumber : Int
  valueOverride : Option (Option V)
  calculated : Bool
  calculatedAvailable : Bool
  deriving DecidableEq, Repr

inductive CustomClass where
  | dimmer | fixedColorLight | soundPlayerLed | cover | ipBlind | garage | climate | ipThermostat | lock | siren
  | soundPlayer | switch | irrigationValve | textDisplay
  deriving DecidableEq, Repr

structure CustomDataPoint (V : Type) where
  oid : Oid
  cls : CustomClass
  summary : CustomDPSummary V
  deviceAddress : Address
  state : Dict String V
  applyGeneration : Nat
  deriving DecidableEq

-- The catalogue record has no category; its two twins do.
structure Program where
  oid : Oid
  category : Option DataPointCategory
  summary : ProgramSummary
  deriving DecidableEq, Repr

structure Sysvar (V : Type) where
  oid : Oid
  category : DataPointCategory
  summary : SysvarSummary V
  deriving DecidableEq, Repr

structure WeekProfileDp where
  oid : Oid
  uniqueId : String
  deviceAddress : Address
  channelNo : Int
  climate : Bool
  entries : Option Nat
  deriving DecidableEq, Repr

structure AlarmPanel where
  oid : Oid
  summary : AlarmPanelEntity
  deriving DecidableEq, Repr

-- The daemon's own category wins over the resolution from type and operations.
def upperToken (token : Option String) : String := String.ofList ((token.getD "").toList.map Char.toUpper)

def resolveGenericClass (typeToken : Option String) (read write hasValueList : Bool) : DataPointCategory :=
  let token := upperToken typeToken
  if write then
    if token = "ACTION" then if read then .switch else .button
    else if !read then
      if hasValueList then .actionSelect
      else if token = "FLOAT" ∨ token = "INTEGER" then .actionNumber
      else .action
    else if token = "BOOL" then .switch
    else if token = "ENUM" then .select
    else if token = "FLOAT" ∨ token = "INTEGER" then .number
    else .text
  else if token = "BOOL" then .binarySensor
  else .sensor

def classByCategory : List (String × DataPointCategory) :=
  [("switch",.switch),("binary_sensor",.binarySensor),("sensor",.sensor),("select",.select),("text",.text),
    ("number",.number),("action",.action),("button",.button),("action_select",.actionSelect),
    ("action_number",.actionNumber)]

def genericCategory (summary : DataPointSummary V) : DataPointCategory :=
  match (truthy summary.category).bind (classByCategory.lookup ·) with
  | some category => category
  | none => resolveGenericClass summary.type summary.operations.read summary.operations.write
      (summary.valueList.getD [] ≠ [])

def kindToClass : List (String × CustomClass) :=
  [("light",.dimmer),("light_color",.dimmer),("light_color_temp",.dimmer),("light_rgbw",.dimmer),
    ("light_dali",.dimmer),("light_effect",.dimmer),("light_fixed_color",.fixedColorLight),
    ("light_sound_led",.soundPlayerLed),("cover",.cover),("cover_blind",.ipBlind),("cover_garage",.garage),
    ("climate_simple",.climate),("climate_rf",.climate),("climate_hmip",.ipThermostat),("lock",.lock),
    ("siren",.siren),("siren_smoke",.siren),("siren_sound",.soundPlayer),("switch",.switch),
    ("valve_irrigation",.irrigationValve),("valve_modulating",.irrigationValve),("text_display",.textDisplay)]

def categoryFallback : List (String × CustomClass) :=
  [("light",.dimmer),("cover",.cover),("climate",.climate),("lock",.lock),("siren",.siren),("switch",.switch),
    ("valve",.irrigationValve),("text_display",.textDisplay)]

def resolveCustomClass (kind : Option String) (category : String) : CustomClass :=
  match (truthy kind).bind (kindToClass.lookup ·) with
  | some cls => cls
  | none => (categoryFallback.lookup category).getD .switch

def CustomClass.category : CustomClass → DataPointCategory
  | .dimmer | .fixedColorLight | .soundPlayerLed => .light
  | .cover | .ipBlind | .garage => .cover
  | .climate | .ipThermostat => .climate
  | .lock => .lock
  | .siren | .soundPlayer => .siren
  | .switch => .switch
  | .irrigationValve => .valve
  | .textDisplay => .textDisplay

def categoryByString : List (String × DataPointCategory) :=
  [("light",.light),("cover",.cover),("climate",.climate),("lock",.lock),("siren",.siren),("switch",.switch),
    ("valve",.valve),("text_display",.textDisplay)]

def resolveSysvarClass (valueType : String) (extended : Bool) : DataPointCategory :=
  let token := upperToken (some valueType)
  if token = "ALARM" ∨ token = "LOGIC" then if extended then .hubSwitch else .hubBinarySensor
  else if extended then
    if token = "LIST" then .hubSelect
    else if token = "FLOAT" ∨ token = "INTEGER" then .hubNumber
    else if token = "STRING" then .hubText
    else .hubSensor
  else .hubSensor

namespace Device
def build (oid : Oid) (summary : DeviceSummary) : Device := ⟨oid,summary,none,none,none⟩
def address (d : Device) : Address := d.summary.address
def available (d : Device) : Bool := d.forcedAvailability.getD d.summary.available
def updateSummary (d : Device) (summary : DeviceSummary) : Device := {d with summary}
def replaceAvailability (d : Device) (availability : DeviceAvailability) : Device :=
  {d with availability := some availability, summary := {d.summary with availability}}
def attachDetail (d : Device) (firmware : DeviceFirmware) (availability : DeviceAvailability) : Device :=
  {d with firmware := some firmware, availability := some availability}
end Device

namespace Channel
def number (c : Channel) : Int := c.summary.number
def replaceSummary (c : Channel) (summary : ChannelSummary) : Channel := {c with summary}
end Channel

namespace DataPoint
def build (oid : Oid) (summary : DataPointSummary V) (deviceAddress : Address) (channelNumber : Int) : DataPoint V :=
  ⟨oid,genericCategory summary,summary,deviceAddress,channelNumber,none,false,true⟩
def replaceSummary (dp : DataPoint V) (summary : DataPointSummary V) : DataPoint V := {dp with summary}
def clearValueOverride (dp : DataPoint V) : DataPoint V := {dp with valueOverride := none}
def applyCalculatedAvailability (dp : DataPoint V) (available : Bool) : DataPoint V :=
  if dp.calculated then {dp with calculatedAvailable := available} else dp

-- An optimistic write first, and nothing while the daemon has never observed the parameter.
def value (dp : DataPoint V) : Option V :=
  match dp.valueOverride with
  | some written => written
  | none => if dp.summary.observed then dp.summary.value else none
end DataPoint

def synthesizeSummary (calculated : CalculatedDPSummary V) : DataPointSummary V where
  parameter := calculated.name
  uniqueId := calculated.uniqueId
  value := calculated.value
  displayValue := none
  observed := calculated.observed
  modifiedAt := calculated.modifiedAt
  lastChangedAt := none
  lastSeenAt := none
  category := some ((truthy calculated.category).getD "sensor")
  usage := none
  type := if calculated.category = some "binary_sensor" then some "BOOL" else none
  valueList := none
  operations := ⟨true,false,true⟩
  translatedName := calculated.translatedName

def makeCalculatedDataPoint (oid : Oid) (calculated : CalculatedDPSummary V) (deviceAddress : Address)
    (channelNumber : Int) : DataPoint V :=
  ⟨oid,if calculated.category = some "binary_sensor" then .binarySensor else .sensor,
    synthesizeSummary calculated,deviceAddress,channelNumber,none,true,calculated.available⟩

namespace CustomDataPoint
def build (oid : Oid) (summary : CustomDPSummary V) (deviceAddress : Address)
    (initialState : Option (Dict String V)) : CustomDataPoint V :=
  ⟨oid,resolveCustomClass summary.kind summary.category,summary,deviceAddress,initialState.getD .empty,0⟩
def replaceState (cdp : CustomDataPoint V) (state : Dict String V) : CustomDataPoint V :=
  {cdp with state, applyGeneration := cdp.applyGeneration + 1}
-- The daemon's category string, else that of the class.
def category (cdp : CustomDataPoint V) : DataPointCategory :=
  (categoryByString.lookup cdp.summary.category).getD cdp.cls.category
def replaceSummary (cdp : CustomDataPoint V) (summary : CustomDPSummary V) : CustomDataPoint V := {cdp with summary}
end CustomDataPoint

namespace Program
def replaceSummary (p : Program) (summary : ProgramSummary) : Program := {p with summary}
def executeAvailable (p : Program) : Bool := p.summary.executeAvailable ≠ some false
end Program

namespace Sysvar
def build (oid : Oid) (summary : SysvarSummary V) : Sysvar V :=
  ⟨oid,resolveSysvarClass summary.valueType (summary.isExtended.getD false),summary⟩
def replaceSummary (v : Sysvar V) (summary : SysvarSummary V) : Sysvar V := {v with summary}
def value (v : Sysvar V) : Option V := v.summary.value
end Sysvar

def AlarmPanel.replaceSummary (p : AlarmPanel) (summary : AlarmPanelEntity) : AlarmPanel := {p with summary}

end LoomClient.Model
