import LoomClient.Compat.WeekProfile

namespace LoomClient.Compat
open Lib

-- `π` is what a climate profile is: the record as parsed, or the object an assignment can reach into.
structure ScheduleChannelRef where
  address : String
  number : Int
  deviceAddress : String
  deriving DecidableEq

structure SimpleScheduleBody where
  weekdays : List String
  time : String
  condition : Option String
  astroType : Option String
  astroOffsetMinutes : Option Int
  targetChannels : Option (List String)
  level : ℚ
  level2 : Option ℚ
  duration : Option String
  rampTime : Option String
  lockMode : Option String
  lockAction : Option String
  permission : Option String
  colorType : Option Int
  colorValue : Option Int
  outputBehaviour : Option Int
  deriving DecidableEq

structure SimpleScheduleEntry extends SimpleScheduleBody where
  slotNo : Nat
  inRange : 1 ≤ slotNo ∧ slotNo ≤ 75
  deriving DecidableEq

structure ScheduleDoc (π : Type) where
  channel : ScheduleChannelRef
  kind : String
  domain : Option String
  activeProfile : Option String
  activeProfileIndex : Option Int
  profiles : Option (Dict String π)
  simpleEntries : Option (List SimpleScheduleEntry)
  colorCapable : Option Bool
  deriving DecidableEq

namespace ScheduleDoc
variable {π τ : Type}

def withProfiles (d : ScheduleDoc π) (profiles : Option (Dict String τ)) : ScheduleDoc τ :=
  ⟨d.channel,d.kind,d.domain,d.activeProfile,d.activeProfileIndex,profiles,d.simpleEntries,d.colorCapable⟩

-- The document as the edits and the entry count see it.
def counted (d : ScheduleDoc ClimateProfile) : Schedule (ScheduleChannelRef × Option String × Option Int × Option Bool) :=
  ⟨d.kind,d.activeProfile,d.profiles,d.simpleEntries.map List.length,
    (d.channel,d.domain,d.activeProfileIndex,d.colorCapable)⟩

def setSchedule (d : ScheduleDoc ClimateProfile) (profiles : Dict String ClimateProfile) : ScheduleDoc ClimateProfile :=
  d.withProfiles (some profiles)

def setProfile (d : ScheduleDoc ClimateProfile) (profile : String) (weekdays : Dict String ClimateWeekday) :
    ScheduleDoc ClimateProfile :=
  d.setSchedule ((d.profiles.getD .empty).set profile ⟨weekdays⟩)

def setWeekday (d : ScheduleDoc ClimateProfile) (profile weekday : String) (data : ClimateWeekday) :
    ScheduleDoc ClimateProfile :=
  let profiles := d.profiles.getD .empty
  let weekdays := match profiles.get? profile with
    | some stored => stored.weekdays
    | none => .empty
  d.setSchedule (profiles.set profile ⟨weekdays.set weekday data⟩)

def profileOf (d : ScheduleDoc ClimateProfile) (profile : String) : Option ClimateProfile :=
  (d.profiles.getD .empty).get? profile

def weekdayOf (d : ScheduleDoc ClimateProfile) (profile weekday : String) : Option ClimateWeekday :=
  (d.profileOf profile).bind (·.weekdays.get? weekday)

-- Two documents apart from one profile, or from one weekday of it.
structure ProfileOnly (before after : ScheduleDoc ClimateProfile) (profile : String) : Prop where
  fields : after.withProfiles (none : Option (Dict String ClimateProfile)) = before.withProfiles none
  profiles : ∀ other, other ≠ profile → after.profileOf other = before.profileOf other

structure WeekdayOnly (before after : ScheduleDoc ClimateProfile) (profile weekday : String) : Prop
    extends ProfileOnly before after profile where
  weekdays : ∀ other, other ≠ weekday → after.weekdayOf profile other = before.weekdayOf profile other

theorem set_profile_of (d : ScheduleDoc ClimateProfile) (profile : String) (weekdays : Dict String ClimateWeekday) (other : String) :
    (d.setProfile profile weekdays).profileOf other = if other = profile then some ⟨weekdays⟩ else d.profileOf other :=
  Dict.get?_set _ _ _ _

theorem set_profile_only (d : ScheduleDoc ClimateProfile) (profile : String) (weekdays : Dict String ClimateWeekday) :
    ProfileOnly d (d.setProfile profile weekdays) profile :=
  ⟨rfl,fun other apart => by rw [set_profile_of,if_neg apart]⟩

theorem set_weekday_profile (d : ScheduleDoc ClimateProfile) (profile weekday : String) (data : ClimateWeekday) :
    ∃ weekdays : Dict String ClimateWeekday, d.setWeekday profile weekday data = d.setProfile profile (weekdays.set weekday data) ∧
      ∀ other, weekdays.get? other = d.weekdayOf profile other := by
  unfold setWeekday weekdayOf profileOf
  dsimp only
  cases found : (d.profiles.getD .empty).get? profile with
  | none => exact ⟨.empty,rfl,fun _ => rfl⟩
  | some stored => exact ⟨stored.weekdays,rfl,fun _ => rfl⟩

theorem set_weekday_of (d : ScheduleDoc ClimateProfile) (profile weekday : String) (data : ClimateWeekday) (other : String) :
    (d.setWeekday profile weekday data).weekdayOf profile other =
      if other = weekday then some data else d.weekdayOf profile other := by
  obtain ⟨weekdays,same,read⟩ := set_weekday_profile d profile weekday data
  rw [same,weekdayOf,set_profile_of,if_pos rfl,Option.bind_some,Dict.get?_set,read]

theorem set_weekday_only (d : ScheduleDoc ClimateProfile) (profile weekday : String) (data : ClimateWeekday) :
    WeekdayOnly d (d.setWeekday profile weekday data) profile weekday := by
  refine ⟨?_,fun other apart => by rw [set_weekday_of,if_neg apart]⟩
  obtain ⟨weekdays,same,_⟩ := set_weekday_profile d profile weekday data
  rw [same]
  exact set_profile_only d profile _

end ScheduleDoc
end LoomClient.Compat
