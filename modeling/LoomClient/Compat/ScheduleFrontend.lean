import LoomClient.Compat.ScheduleDocument
import Std.Data.String.ToNat

namespace LoomClient.Compat
open Lib

inductive Scalar where
  | null
  | text (value : String)
  | number (value : ℚ)
  | int (value : Int)
  | texts (values : List String)
  deriving DecidableEq

-- A float holds these whole numbers exactly.
def exactWhole (i : Int) : Prop := i.natAbs ≤ 2 ^ 53

-- Each reads what is of the type already as it is.
structure Reading where
  text : Scalar → Option String
  number : Scalar → Option ℚ
  int : Scalar → Option Int
  texts : Scalar → Option (List String)
  slot : String → Option Int
  text_text : ∀ s, text (.text s) = some s
  number_number : ∀ q, number (.number q) = some q
  number_int : ∀ i : Int, exactWhole i → number (.int i) = some i
  int_int : ∀ i, int (.int i) = some i
  texts_texts : ∀ l, texts (.texts l) = some l
  slot_digits : ∀ n : Nat, n ≤ 75 → slot (Nat.repr n) = some (n : Int)

abbrev PeriodData := Dict String Scalar

inductive WeekdayItem where
  | scalar (value : Scalar)
  | periods (values : List PeriodData)
  deriving DecidableEq

abbrev WeekdayData := Dict String WeekdayItem
abbrev ProfileData := Dict String WeekdayData
abbrev EntryData := Dict String Scalar

-- A simple schedule is sent in its wrapper or bare.
inductive SimpleScheduleData where
  | wrapped (entries : Dict String EntryData)
  | bare (entries : Dict String EntryData)
  deriving DecidableEq

def SimpleScheduleData.entries : SimpleScheduleData → Dict String EntryData
  | .wrapped entries => entries
  | .bare entries => entries

def periodToFrontend (p : ClimatePeriod) : PeriodData :=
  ⟨[("starttime",.text p.startTime),("endtime",.text p.endTime),("temperature",.number p.temperature)],by simp⟩

def periodsToFrontend (periods : List ClimatePeriod) : List PeriodData := periods.map periodToFrontend

def weekdayToFrontend (w : ClimateWeekday) : WeekdayData :=
  ⟨[("base_temperature",.scalar (.number w.baseTemperature)),("periods",.periods (periodsToFrontend w.periods))],by simp⟩

def profileToFrontend (p : ClimateProfile) : ProfileData := p.weekdays.mapWithKey fun _ w => weekdayToFrontend w

-- An empty value that is no list of periods yields none, the others fail at their first item.
def WeekdayItem.items : WeekdayItem → Option (List PeriodData)
  | .periods values => some values
  | .scalar (.texts []) => some []
  | .scalar (.text "") => some []
  | .scalar _ => none

def WeekdayItem.scalar? : WeekdayItem → Option Scalar
  | .scalar value => some value
  | .periods _ => none

section Parsing
variable (r : Reading)

def periodFromFrontend (data : PeriodData) : Option ClimatePeriod := do
  let startTime ← (data.get? "starttime").bind r.text
  let endTime ← (data.get? "endtime").bind r.text
  let temperature ← (data.get? "temperature").bind r.number
  some ⟨startTime,endTime,temperature⟩

def weekdayFromFrontend (data : WeekdayData) : Option ClimateWeekday := do
  let baseTemperature ← ((data.get? "base_temperature").bind WeekdayItem.scalar?).bind r.number
  let items ← ((data.get? "periods").getD (.periods [])).items
  let periods ← items.mapM (periodFromFrontend r)
  some ⟨baseTemperature,periods⟩

def profileFromFrontend (data : ProfileData) : Option ClimateProfile :=
  (data.traverse (weekdayFromFrontend r)).map ClimateProfile.mk

-- A simple entry without its slot, an absent field as `None`.
def dumpBody (b : SimpleScheduleBody) : EntryData :=
  ⟨[("weekdays",.texts b.weekdays),("time",.text b.time),("condition",(b.condition.map .text).getD .null),
    ("astro_type",(b.astroType.map .text).getD .null),
    ("astro_offset_minutes",(b.astroOffsetMinutes.map .int).getD .null),
    ("target_channels",(b.targetChannels.map .texts).getD .null),("level",.number b.level),
    ("level_2",(b.level2.map .number).getD .null),("duration",(b.duration.map .text).getD .null),
    ("ramp_time",(b.rampTime.map .text).getD .null),("lock_mode",(b.lockMode.map .text).getD .null),
    ("lock_action",(b.lockAction.map .text).getD .null),("permission",(b.permission.map .text).getD .null),
    ("color_type",(b.colorType.map .int).getD .null),("color_value",(b.colorValue.map .int).getD .null),
    ("output_behaviour",(b.outputBehaviour.map .int).getD .null)],by simp⟩

def required {τ : Type} (read : Scalar → Option τ) (data : EntryData) (name : String) : Option τ :=
  (data.get? name).bind read

def optional {τ : Type} (read : Scalar → Option τ) (data : EntryData) (name : String) : Option (Option τ) :=
  match (data.get? name).getD .null with
  | .null => some none
  | value => (read value).map some

def validateBody (data : EntryData) : Option SimpleScheduleBody := do
  let weekdays ← required r.texts data "weekdays"
  let time ← required r.text data "time"
  let condition ← optional r.text data "condition"
  let astroType ← optional r.text data "astro_type"
  let astroOffsetMinutes ← optional r.int data "astro_offset_minutes"
  let targetChannels ← optional r.texts data "target_channels"
  let level ← required r.number data "level"
  let level2 ← optional r.number data "level_2"
  let duration ← optional r.text data "duration"
  let rampTime ← optional r.text data "ramp_time"
  let lockMode ← optional r.text data "lock_mode"
  let lockAction ← optional r.text data "lock_action"
  let permission ← optional r.text data "permission"
  let colorType ← optional r.int data "color_type"
  let colorValue ← optional r.int data "color_value"
  let outputBehaviour ← optional r.int data "output_behaviour"
  some ⟨weekdays,time,condition,astroType,astroOffsetMinutes,targetChannels,level,level2,duration,rampTime,lockMode,
    lockAction,permission,colorType,colorValue,outputBehaviour⟩

def validateEntry (data : EntryData) : Option SimpleScheduleEntry := do
  let slotNo ← required r.int data "slot_no"
  let body ← validateBody r data
  if placed : 1 ≤ slotNo ∧ slotNo ≤ 75 then some ⟨body,slotNo.toNat,by omega⟩ else none

def entryFromFrontend (slot : String) (entry : EntryData) : Option SimpleScheduleEntry :=
  (r.slot slot).bind fun slotNo => validateEntry r (entry.set "slot_no" (.int slotNo))

end Parsing

namespace ScheduleDoc

-- What the data points show of the schedule they hold.
def getSimpleSchedule (d : ScheduleDoc ClimateProfile) : SimpleScheduleData :=
  .wrapped (.ofList ((d.simpleEntries.getD []).map fun e => (Nat.repr e.slotNo,dumpBody e.toSimpleScheduleBody)))

def getClimateSchedule (d : ScheduleDoc ClimateProfile) : Dict String ProfileData :=
  (d.profiles.getD .empty).mapWithKey fun _ p => profileToFrontend p

def getScheduleProfile (d : ScheduleDoc ClimateProfile) (profile : String) : ProfileData :=
  match d.profileOf profile with
  | none => .empty
  | some p => profileToFrontend p

def getScheduleWeekday (d : ScheduleDoc ClimateProfile) (profile weekday : String) : WeekdayData :=
  match d.weekdayOf profile weekday with
  | none => .empty
  | some w => weekdayToFrontend w

variable (r : Reading)

def putSimpleSchedule (d : ScheduleDoc ClimateProfile) (data : SimpleScheduleData) : Option (ScheduleDoc ClimateProfile) :=
  (data.entries.entries.mapM fun e => entryFromFrontend r e.1 e.2).map fun entries => {d with simpleEntries := some entries}

def putClimateSchedule (d : ScheduleDoc ClimateProfile) (data : Dict String ProfileData) : Option (ScheduleDoc ClimateProfile) :=
  (data.traverse (profileFromFrontend r)).map d.setSchedule

def putScheduleProfile (d : ScheduleDoc ClimateProfile) (profile : String) (data : ProfileData) :
    Option (ScheduleDoc ClimateProfile) :=
  (profileFromFrontend r data).map fun p => d.setProfile profile p.weekdays

def putScheduleWeekday (d : ScheduleDoc ClimateProfile) (profile weekday : String) (data : WeekdayData) :
    Option (ScheduleDoc ClimateProfile) :=
  (weekdayFromFrontend r data).map (d.setWeekday profile weekday)

end ScheduleDoc

-- Whatever the order of its keys, the keys nobody reads and the spelling of a whole number.
def Scalar.SpellsNumber (v : Scalar) (q : ℚ) : Prop := v = .number q ∨ ∃ i : Int, v = .int i ∧ exactWhole i ∧ q = i

def SpellsPeriod (data : PeriodData) (p : ClimatePeriod) : Prop :=
  data.get? "starttime" = some (.text p.startTime) ∧ data.get? "endtime" = some (.text p.endTime) ∧
    ∃ v, data.get? "temperature" = some v ∧ v.SpellsNumber p.temperature

def SpellsWeekday (data : WeekdayData) (w : ClimateWeekday) : Prop :=
  (∃ v, data.get? "base_temperature" = some (.scalar v) ∧ v.SpellsNumber w.baseTemperature) ∧
    ∃ items, ((data.get? "periods").getD (.periods [])).items = some items ∧ List.Forall₂ SpellsPeriod items w.periods

def SpellsProfile (data : ProfileData) (weekdays : Dict String ClimateWeekday) : Prop :=
  ∀ k, match data.get? k,weekdays.get? k with
    | some v,some w => SpellsWeekday v w
    | none,none => True
    | _,_ => False

section Codec
variable {r : Reading}

theorem number_spelled {v : Scalar} (spells : v.SpellsNumber q) : r.number v = some q := by
  rcases spells with rfl | ⟨i,rfl,whole,rfl⟩
  · exact r.number_number q
  · exact r.number_int i whole

theorem period_spelled (spells : SpellsPeriod data p) : periodFromFrontend r data = some p := by
  obtain ⟨start,stop,v,stored,number⟩ := spells
  simp [periodFromFrontend,start,stop,stored,r.text_text,number_spelled number]

theorem periods_spelled (spells : List.Forall₂ SpellsPeriod items periods) :
    items.mapM (periodFromFrontend r) = some periods := by
  induction spells with
  | nil => rfl
  | cons head _ ih => simp [List.mapM_cons,period_spelled head,ih]

theorem weekday_spelled (spells : SpellsWeekday data w) : weekdayFromFrontend r data = some w := by
  obtain ⟨⟨v,stored,number⟩,items,listed,periods⟩ := spells
  simp [weekdayFromFrontend,stored,WeekdayItem.scalar?,number_spelled number,listed,periods_spelled periods]

theorem spells_period (p : ClimatePeriod) : SpellsPeriod (periodToFrontend p) p :=
  ⟨by simp [Dict.get?,periodToFrontend],by simp [Dict.get?,periodToFrontend,List.lookup_cons],
    .number p.temperature,by simp [Dict.get?,periodToFrontend,List.lookup_cons],.inl rfl⟩

theorem spells_weekday (w : ClimateWeekday) : SpellsWeekday (weekdayToFrontend w) w := by
  refine ⟨⟨.number w.baseTemperature,by simp [Dict.get?,weekdayToFrontend],.inl rfl⟩,periodsToFrontend w.periods,?_,?_⟩
  · simp [Dict.get?,weekdayToFrontend,List.lookup_cons,WeekdayItem.items]
  · unfold periodsToFrontend
    rw [List.forall₂_map_left_iff]
    exact List.forall₂_same.mpr fun p _ => spells_period p

theorem weekday_from_to (w : ClimateWeekday) : weekdayFromFrontend r (weekdayToFrontend w) = some w :=
  weekday_spelled (spells_weekday w)

theorem profile_from_to (p : ClimateProfile) : profileFromFrontend r (profileToFrontend p) = some p := by
  unfold profileFromFrontend profileToFrontend
  rw [Dict.traverse_mapWithKey weekday_from_to]
  rfl

theorem required_read {τ : Type} {read : Scalar → Option τ} {data : EntryData} {name : String} {v : Scalar} {x : τ}
    (stored : data.get? name = some v) (reads : read v = some x) : required read data name = some x := by
  simp [required,stored,reads]

theorem optional_read {τ : Type} {read : Scalar → Option τ} {wrap : τ → Scalar} {data : EntryData} {name : String} {x : Option τ}
    (stored : data.get? name = some ((x.map wrap).getD .null)) (reads : ∀ y, read (wrap y) = some y)
    (present : ∀ y, wrap y ≠ .null) : optional read data name = some x := by
  unfold optional
  rw [stored]
  cases x with
  | none => rfl
  | some y =>
    simp only [Option.map_some,Option.getD_some]
    split
    · rename_i absent
      exact absurd absent (present y)
    · rw [reads]
      rfl

theorem body_from_dump (b : SimpleScheduleBody) (slot : Scalar) :
    validateBody r ((dumpBody b).set "slot_no" slot) = some b := by
  have stored : ∀ name, name ≠ "slot_no" → ((dumpBody b).set "slot_no" slot).get? name = (dumpBody b).get? name := by
    intro name other
    rw [Dict.get?_set,if_neg other]
  have need : ∀ {τ : Type} {read : Scalar → Option τ} {v : Scalar} {x : τ} (name : String), name ≠ "slot_no" →
      (dumpBody b).get? name = some v → read v = some x → required read ((dumpBody b).set "slot_no" slot) name = some x :=
    fun name other there => required_read ((stored name other).trans there)
  have text : ∀ (name : String) (x : Option String), name ≠ "slot_no" →
      (dumpBody b).get? name = some ((x.map .text).getD .null) →
      optional r.text ((dumpBody b).set "slot_no" slot) name = some x :=
    fun name x other there => optional_read ((stored name other).trans there) r.text_text fun _ => nofun
  have int : ∀ (name : String) (x : Option Int), name ≠ "slot_no" →
      (dumpBody b).get? name = some ((x.map .int).getD .null) →
      optional r.int ((dumpBody b).set "slot_no" slot) name = some x :=
    fun name x other there => optional_read ((stored name other).trans there) r.int_int fun _ => nofun
  have channels : optional r.texts ((dumpBody b).set "slot_no" slot) "target_channels" = some b.targetChannels :=
    optional_read ((stored "target_channels" (by decide)).trans rfl) r.texts_texts fun _ => nofun
  have level2 : optional r.number ((dumpBody b).set "slot_no" slot) "level_2" = some b.level2 :=
    optional_read ((stored "level_2" (by decide)).trans rfl) r.number_number fun _ => nofun
  unfold validateBody
  rw [need "weekdays" (by decide) rfl (r.texts_texts b.weekdays),need "time" (by decide) rfl (r.text_text b.time),
    text "condition" b.condition (by decide) rfl,text "astro_type" b.astroType (by decide) rfl,
    int "astro_offset_minutes" b.astroOffsetMinutes (by decide) rfl,channels,
    need "level" (by decide) rfl (r.number_number b.level),level2,text "duration" b.duration (by decide) rfl,
    text "ramp_time" b.rampTime (by decide) rfl,text "lock_mode" b.lockMode (by decide) rfl,
    text "lock_action" b.lockAction (by decide) rfl,text "permission" b.permission (by decide) rfl,
    int "color_type" b.colorType (by decide) rfl,int "color_value" b.colorValue (by decide) rfl,
    int "output_behaviour" b.outputBehaviour (by decide) rfl]
  rfl

theorem entry_from_dump (e : SimpleScheduleEntry) :
    entryFromFrontend r (Nat.repr e.slotNo) (dumpBody e.toSimpleScheduleBody) = some e := by
  have slot : required r.int ((dumpBody e.toSimpleScheduleBody).set "slot_no" (.int e.slotNo)) "slot_no" = some (e.slotNo : Int) :=
    required_read (Dict.get?_set_self _ _ _) (r.int_int e.slotNo)
  have placed : 1 ≤ (e.slotNo : Int) ∧ (e.slotNo : Int) ≤ 75 := by
    have range := e.inRange
    omega
  unfold entryFromFrontend validateEntry
  rw [r.slot_digits e.slotNo e.inRange.2,Option.bind_some,slot,body_from_dump]
  simp [placed]

theorem entries_from_dump (entries : List SimpleScheduleEntry) :
    (entries.map fun e => (Nat.repr e.slotNo,dumpBody e.toSimpleScheduleBody)).mapM
      (fun e => entryFromFrontend r e.1 e.2) = some entries := by
  induction entries with
  | nil => rfl
  | cons e rest ih =>
    simp only [List.map_cons,List.mapM_cons,entry_from_dump,ih]
    rfl

end Codec

-- An absent map or list becomes an empty one.
section Granularities
variable (r : Reading) (d : ScheduleDoc ClimateProfile)

theorem simple_put_back (slots : ((d.simpleEntries.getD []).map (·.slotNo)).Nodup) :
    d.putSimpleSchedule r d.getSimpleSchedule = some {d with simpleEntries := some (d.simpleEntries.getD [])} := by
  have keys : (((d.simpleEntries.getD []).map fun e => (Nat.repr e.slotNo,dumpBody e.toSimpleScheduleBody)).map Prod.fst).Nodup := by
    rw [List.map_map]
    have shown := slots.map (f := Nat.repr) fun m n same => by
      have both := congrArg String.toNat? same
      rw [Nat.toNat?_repr,Nat.toNat?_repr] at both
      exact Option.some.inj both
    rwa [List.map_map] at shown
  unfold ScheduleDoc.putSimpleSchedule ScheduleDoc.getSimpleSchedule SimpleScheduleData.entries
  simp only [Dict.ofList_entries _ keys,entries_from_dump,Option.map_some]

theorem climate_put_back :
    d.putClimateSchedule r d.getClimateSchedule = some (d.setSchedule (d.profiles.getD .empty)) := by
  unfold ScheduleDoc.putClimateSchedule ScheduleDoc.getClimateSchedule
  rw [Dict.traverse_mapWithKey profile_from_to]
  rfl

theorem weekday_put (profile weekday : String) {data : WeekdayData} (accepted : d.putScheduleWeekday r profile weekday data = some e) :
    d.WeekdayOnly e profile weekday ∧ ∀ w, SpellsWeekday data w → SpellsWeekday (e.getScheduleWeekday profile weekday) w := by
  obtain ⟨parsed,read,rfl⟩ := Option.map_eq_some_iff.mp accepted
  refine ⟨d.set_weekday_only profile weekday parsed,fun w spells => ?_⟩
  rw [weekday_spelled spells] at read
  obtain rfl := Option.some.inj read
  unfold ScheduleDoc.getScheduleWeekday
  rw [d.set_weekday_of,if_pos rfl]
  exact spells_weekday w

theorem profile_put (profile : String) {data : ProfileData} (accepted : d.putScheduleProfile r profile data = some e) :
    d.ProfileOnly e profile ∧ ∀ weekdays, SpellsProfile data weekdays → SpellsProfile (e.getScheduleProfile profile) weekdays := by
  obtain ⟨p,read,rfl⟩ := Option.map_eq_some_iff.mp accepted
  obtain ⟨parsed,each,rfl⟩ := Option.map_eq_some_iff.mp read
  refine ⟨d.set_profile_only profile parsed,fun weekdays spells k => ?_⟩
  unfold ScheduleDoc.getScheduleProfile profileToFrontend
  rw [d.set_profile_of,if_pos rfl]
  have here := Dict.get?_traverse each k
  have spelled := spells k
  simp only [Dict.get?_mapWithKey]
  cases sent : data.get? k with
  | none =>
    rw [sent] at here spelled
    rw [here]
    cases written : weekdays.get? k with
    | none => trivial
    | some w => rw [written] at spelled; exact spelled.elim
  | some v =>
    rw [sent] at here spelled
    cases written : weekdays.get? k with
    | none => rw [written] at spelled; exact spelled.elim
    | some w =>
      rw [written] at spelled
      rw [here,Option.bind_some,weekday_spelled spelled]
      exact spells_weekday w

theorem weekday_accepted (profile weekday : String) {data : WeekdayData} (spells : SpellsWeekday data w) :
    (d.putScheduleWeekday r profile weekday data).isSome := by
  unfold ScheduleDoc.putScheduleWeekday
  rw [weekday_spelled spells]
  rfl

theorem profile_accepted (profile : String) {data : ProfileData} (spells : SpellsProfile data weekdays) :
    (d.putScheduleProfile r profile data).isSome := by
  have each : ∀ k v, data.get? k = some v → (weekdayFromFrontend r v).isSome := by
    intro k v sent
    have spelled := spells k
    cases written : weekdays.get? k with
    | none => rw [sent,written] at spelled; exact spelled.elim
    | some w =>
      rw [sent,written] at spelled
      rw [weekday_spelled spelled]
      rfl
  obtain ⟨parsed,read⟩ := Dict.traverse_isSome each
  unfold ScheduleDoc.putScheduleProfile profileFromFrontend
  rw [read]
  rfl

end Granularities

theorem schedule_codec (r : Reading) (d : ScheduleDoc ClimateProfile) :
    (((d.simpleEntries.getD []).map (·.slotNo)).Nodup →
      d.putSimpleSchedule r d.getSimpleSchedule = some {d with simpleEntries := some (d.simpleEntries.getD [])}) ∧
    d.putClimateSchedule r d.getClimateSchedule = some {d with profiles := some (d.profiles.getD .empty)} ∧
    (∀ profile weekday data,
      (∀ w, SpellsWeekday data w → (d.putScheduleWeekday r profile weekday data).isSome) ∧
      ∀ e, d.putScheduleWeekday r profile weekday data = some e → d.WeekdayOnly e profile weekday ∧
        ∀ w, SpellsWeekday data w → SpellsWeekday (e.getScheduleWeekday profile weekday) w) ∧
    ∀ profile data,
      (∀ weekdays, SpellsProfile data weekdays → (d.putScheduleProfile r profile data).isSome) ∧
      ∀ e, d.putScheduleProfile r profile data = some e → d.ProfileOnly e profile ∧
        ∀ weekdays, SpellsProfile data weekdays → SpellsProfile (e.getScheduleProfile profile) weekdays := by
  refine ⟨simple_put_back r d,climate_put_back r d,fun profile weekday data => ?_,fun profile data => ?_⟩
  · exact ⟨fun w => weekday_accepted r d profile weekday,fun e => weekday_put r d profile weekday⟩
  · exact ⟨fun weekdays => profile_accepted r d profile,fun e => profile_put r d profile⟩

-- Reads nothing but what is of the type already.
def plainReading : Reading where
  text | .text s => some s | _ => none
  number | .number q => some q | .int i => some i | _ => none
  int | .int i => some i | _ => none
  texts | .texts l => some l | _ => none
  slot s := s.toNat?.map Int.ofNat
  text_text _ := rfl
  number_number _ := rfl
  number_int _ _ := rfl
  int_int _ := rfl
  texts_texts _ := rfl
  slot_digits n _ := by rw [Nat.toNat?_repr]; rfl

def bareBody (time : String) : SimpleScheduleBody :=
  ⟨["MONDAY"],time,none,none,none,some ["1_1"],1,none,some "10s",none,none,none,none,none,some 0,none⟩

def twoEntries : ScheduleDoc ClimateProfile :=
  ⟨⟨"B:3",3,"B"⟩,"simple",some "switch",none,none,none,
    some [⟨bareBody "06:00",2,by decide⟩,⟨bareBody "21:30",7,by decide⟩],none⟩

def bareWeek (base : ℚ) : ClimateProfile :=
  ⟨.ofList [("MONDAY",⟨base,[⟨"06:00","22:00",21⟩]⟩),("TUESDAY",⟨base,[⟨"05:00","07:30",22⟩,⟨"17:00","23:00",23⟩]⟩)]⟩

def twoProfiles : ScheduleDoc ClimateProfile :=
  ⟨⟨"C:1",1,"C"⟩,"climate",none,some "P1",some 0,some (.ofList [("P1",bareWeek 17),("P2",bareWeek 15)]),none,none⟩

def frontendMonday : WeekdayData := (weekdayToFrontend ⟨18,[⟨"07:00","21:00",20⟩]⟩).set "base_temperature" (.scalar (.int 18))

theorem two_documents_put_back :
    let monday : ClimateWeekday := ⟨18,[⟨"07:00","21:00",20⟩]⟩
    twoEntries.putSimpleSchedule plainReading twoEntries.getSimpleSchedule = some twoEntries ∧
      twoProfiles.putClimateSchedule plainReading twoProfiles.getClimateSchedule = some twoProfiles ∧
      twoProfiles.putScheduleWeekday plainReading "P1" "MONDAY" frontendMonday = some (twoProfiles.setWeekday "P1" "MONDAY" monday) ∧
      twoProfiles.WeekdayOnly (twoProfiles.setWeekday "P1" "MONDAY" monday) "P1" "MONDAY" ∧
      SpellsWeekday ((twoProfiles.setWeekday "P1" "MONDAY" monday).getScheduleWeekday "P1" "MONDAY") monday ∧
      twoProfiles.ProfileOnly (twoProfiles.setProfile "P2" (bareWeek 16).weekdays) "P2" := by
  intro monday
  have codec := schedule_codec plainReading twoProfiles
  have accepted : twoProfiles.putScheduleWeekday plainReading "P1" "MONDAY" frontendMonday =
      some (twoProfiles.setWeekday "P1" "MONDAY" monday) := by decide +kernel
  have replaced : twoProfiles.putScheduleProfile plainReading "P2" (profileToFrontend (bareWeek 16)) =
      some (twoProfiles.setProfile "P2" (bareWeek 16).weekdays) := by decide +kernel
  have spelled : SpellsWeekday frontendMonday monday := by
    have whole : exactWhole 18 := by unfold exactWhole; decide
    refine ⟨⟨.int 18,rfl,.inr ⟨18,rfl,whole,rfl⟩⟩,periodsToFrontend monday.periods,rfl,?_⟩
    exact .cons (spells_period _) .nil
  obtain ⟨only,reads⟩ := (codec.2.2.1 "P1" "MONDAY" frontendMonday).2 _ accepted
  exact ⟨(schedule_codec plainReading twoEntries).1 (by decide),codec.2.1,accepted,only,reads monday spelled,
    ((codec.2.2.2 "P2" (profileToFrontend (bareWeek 16))).2 _ replaced).1⟩

-- An absent list of entries is put as an empty one.
theorem absent_entries_put_empty :
    let absent : ScheduleDoc ClimateProfile := {twoEntries with simpleEntries := none}
    absent.putSimpleSchedule plainReading absent.getSimpleSchedule = some {twoEntries with simpleEntries := some []} ∧
      absent ≠ {twoEntries with simpleEntries := some []} := by
  decide +kernel

end LoomClient.Compat
