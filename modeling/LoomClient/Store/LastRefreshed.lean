import LoomClient.Store.InPlace
import LoomClient.Store.Records

namespace LoomClient.Store
open Lib Wire
variable {V : Type}

-- Go's zero time, for a device of which nothing was observed. Nothing lies before it.
def zeroTime : Instant := 0

def knownTime (t : Option Instant) : Option Instant := t.filter fun i => zeroTime < i

-- In the record of the detail slot, once one is attached, and in the summary.
structure RefreshTimes where
  slot : Option (Option Instant)
  summary : Option Instant
  deriving DecidableEq, Repr

def timesOf (d : Model.Device) : RefreshTimes :=
  ⟨d.availability.map (·.lastRefreshed),d.summary.availability.lastRefreshed⟩

-- `Device.last_refreshed`
def RefreshTimes.lastRefreshed (x : RefreshTimes) : Option Instant := knownTime x.slot.join

def refreshTimes (s : LoomStore V) (a : Address) : Option RefreshTimes := (s.devices.get? a).map timesOf

-- A known time is followed by a known one that is no earlier.
def notBehind (before after : Option Instant) : Bool := match knownTime before,knownTime after with
  | some c,some n => decide (c ≤ n)
  | some _,none => false
  | none,_ => true

def agrees (x : RefreshTimes) : Bool := match x.slot with
  | none => true
  | some held => knownTime held = knownTime x.summary

-- For every device that stays, the time of either place only moves forward.
def MovesForward (s t : LoomStore V) : Prop :=
  ∀ a x y, refreshTimes s a = some x → refreshTimes t a = some y →
    notBehind x.slot.join y.slot.join = true ∧ notBehind x.summary y.summary = true

def SlotsAgree (s : LoomStore V) : Prop := ∀ a x, refreshTimes s a = some x → agrees x = true

def carried (summary : DeviceSummary) : Option Instant := summary.availability.lastRefreshed

-- A snapshot brings for a device with a detail record the time of that record.
def BringsNoRewind (s : LoomStore V) : Operation V → Prop
  | .loadSnapshot snapshot => ∀ a x summary, refreshTimes s a = some x →
    lastWritten (·.address) a snapshot.devices = some summary →
      notBehind x.summary (carried summary) = true ∧ agrees {x with summary := carried summary} = true
  | .attachDeviceDetail detail => ∀ x, refreshTimes s detail.address = some x →
    notBehind x.slot.join (carried detail.toDeviceSummary) = true ∧ notBehind x.summary (carried detail.toDeviceSummary) = true
  | _ => True

theorem not_behind_self (t : Option Instant) : notBehind t t = true := by
  unfold notBehind
  cases knownTime t <;> simp

theorem reader_sees_forward (x y : RefreshTimes) :
    notBehind x.slot.join y.slot.join = true ↔
      ∀ c, x.lastRefreshed = some c → ∃ n, y.lastRefreshed = some n ∧ c ≤ n := by
  unfold notBehind RefreshTimes.lastRefreshed
  cases knownTime x.slot.join with
  | none => simp
  | some c => cases knownTime y.slot.join <;> simp

-- The times of the devices that stay are kept, and no new device has a detail record.
def KeepsTimes (s t : LoomStore V) : Prop :=
  ∀ a y, refreshTimes t a = some y → refreshTimes s a = some y ∨ refreshTimes s a = none ∧ y.slot = none

theorem kept_right {s t : LoomStore V} (agree : SlotsAgree s) (kept : KeepsTimes s t) :
    MovesForward s t ∧ SlotsAgree t := by
  constructor
  · intro a x y before after
    rcases kept a y after with same | fresh
    · rw [before] at same
      cases same
      exact ⟨not_behind_self _,not_behind_self _⟩
    · rw [before] at fresh
      cases fresh.1
  · intro a y after
    rcases kept a y after with same | fresh
    · exact agree a y same
    · simp only [agrees,fresh.2]

theorem keeps_of_same {s t : LoomStore V} (same : t.devices = s.devices) : KeepsTimes s t := by
  intro a y after
  left
  simpa only [refreshTimes,same] using after

theorem modified_times (s : LoomStore V) (address : Address) (f : Model.Device → Model.Device) (a : Address) :
    refreshTimes {s with devices := s.devices.modify address f} a =
      if a = address then (s.devices.get? a).map fun d => timesOf (f d) else refreshTimes s a := by
  simp only [refreshTimes,Dict.get?_modify]
  split
  · rw [Option.map_map]
    rfl
  · rfl

theorem keeps_of_modify (s : LoomStore V) (address : Address) {f : Model.Device → Model.Device}
    (same : ∀ d, timesOf (f d) = timesOf d) : KeepsTimes s {s with devices := s.devices.modify address f} := by
  intro a y after
  left
  rw [modified_times] at after
  simp only [same] at after
  split at after <;> exact after

def advance (refreshedAt : Instant) (x : RefreshTimes) : RefreshTimes := match x.slot with
  | none => x
  | some none => ⟨some (some refreshedAt),some refreshedAt⟩
  | some (some current) => if refreshedAt ≤ current then x else ⟨some (some refreshedAt),some refreshedAt⟩

theorem refreshed_times (refreshedAt : Instant) (d : Model.Device) :
    timesOf (refreshedAvailability refreshedAt d) = advance refreshedAt (timesOf d) := by
  unfold refreshedAvailability
  split
  · rename_i absent
    simp only [timesOf,absent,Option.map_none,advance]
  · rename_i availability held
    split
    · rename_i never
      simp only [timesOf,held,Option.map_some,advance,never,Model.Device.replaceAvailability]
    · rename_i current earlier
      simp only [timesOf,held,Option.map_some,advance,earlier]
      split
      · simp only [held,Option.map_some,earlier]
      · rfl

theorem known_none_of_le (low : i ≤ zeroTime) : knownTime (some i) = none := by
  simp only [knownTime,Option.filter_some,decide_eq_true_eq,not_lt.mpr low,if_false]

theorem not_behind_later {current later : Instant} (after : current < later) :
    notBehind (some current) (some later) = true := by
  unfold notBehind
  by_cases early : current ≤ zeroTime
  · rw [known_none_of_le early]
  · have first : knownTime (some current) = some current := by simp [knownTime,not_le.mp early]
    have second : knownTime (some later) = some later := by simp [knownTime,lt_trans (not_le.mp early) after]
    rw [first,second]
    exact decide_eq_true (Int.le_of_lt after)

theorem not_behind_known {one other : Option Instant} (same : knownTime one = knownTime other) (t : Option Instant) :
    notBehind one t = notBehind other t := by
  unfold notBehind
  rw [same]

theorem advance_right (refreshedAt : Instant) (agree : agrees x = true) :
    (notBehind x.slot.join (advance refreshedAt x).slot.join = true ∧
      notBehind x.summary (advance refreshedAt x).summary = true) ∧ agrees (advance refreshedAt x) = true := by
  obtain ⟨slot,summary⟩ := x
  cases slot with
  | none => exact ⟨⟨not_behind_self _,not_behind_self _⟩,rfl⟩
  | some held =>
    have same : knownTime held = knownTime summary := of_decide_eq_true agree
    cases held with
    | none =>
      refine ⟨⟨rfl,?_⟩,decide_eq_true rfl⟩
      exact (not_behind_known same (some refreshedAt)).symm
    | some current =>
      simp only [advance]
      split
      · exact ⟨⟨not_behind_self _,not_behind_self _⟩,agree⟩
      · rename_i later
        have forward := not_behind_later (not_le.mp later)
        refine ⟨⟨forward,?_⟩,decide_eq_true rfl⟩
        rw [← not_behind_known same]
        exact forward

theorem admit_slot (s : LoomStore V) (summary : DeviceSummary) (a : Address) :
    (refreshTimes (admitDevice s summary) a).bind (·.slot) = (refreshTimes s a).bind (·.slot) := by
  unfold admitDevice
  cases admitted : upsertDeviceSummary s summary with
  | none => rfl
  | some t =>
    simp only [Option.getD_some]
    rcases upsert_cases admitted with ⟨-,rfl⟩ | ⟨fresh,-,rfl⟩
    · rw [modified_times]
      split
      · simp only [refreshTimes,Option.bind_map]
        rfl
      · rfl
    · simp only [refreshTimes,Dict.get?_set]
      split
      · rename_i same
        rw [same,Dict.get?_eq_none.mpr fresh]
        rfl
      · rfl

theorem admit_summary (s : LoomStore V) (summary : DeviceSummary) (a : Address) (present : a ∈ s.devices) :
    (refreshTimes (admitDevice s summary) a).map (·.summary) =
      ((written (·.address) a summary).map carried).or ((refreshTimes s a).map (·.summary)) := by
  unfold admitDevice
  by_cases same : summary.address = a
  · subst same
    obtain ⟨d,found⟩ := Dict.mem_iff_get?.mp present
    have admitted : upsertDeviceSummary s summary =
        some {s with devices := s.devices.modify summary.address (·.updateSummary summary)} := if_pos present
    rw [admitted,Option.getD_some,modified_times,if_pos rfl,written_same rfl,found]
    rfl
  · rw [written_other same,Option.map_none,Option.none_or]
    cases admitted : upsertDeviceSummary s summary with
    | none => rfl
    | some t =>
      simp only [Option.getD_some]
      rcases upsert_cases admitted with ⟨-,rfl⟩ | ⟨-,-,rfl⟩
      · rw [modified_times,if_neg (Ne.symm same)]
      · simp only [refreshTimes,Dict.get?_set,if_neg (Ne.symm same)]

theorem admits_slot (summaries : List DeviceSummary) (s : LoomStore V) (a : Address) :
    (refreshTimes (summaries.foldl admitDevice s) a).bind (·.slot) = (refreshTimes s a).bind (·.slot) :=
  foldl_frame admitDevice (fun t => (refreshTimes t a).bind (·.slot)) (fun t summary => admit_slot t summary a) s summaries

theorem admits_summary (summaries : List DeviceSummary) (s : LoomStore V) (a : Address) (present : a ∈ s.devices) :
    (refreshTimes (summaries.foldl admitDevice s) a).map (·.summary) =
      ((lastWritten (·.address) a summaries).map carried).or ((refreshTimes s a).map (·.summary)) := by
  rw [lastWritten,List.map_findSome?]
  refine foldl_last_of admitDevice (a ∈ ·.devices) (fun t => (refreshTimes t a).map (·.summary)) _ summaries ?_ ?_ s present
  · intro t summary _ there
    exact (admit_devices t summary a).mpr (.inr there)
  · intro t summary _ there
    exact admit_summary t summary a there

theorem adopted_times (s : LoomStore V) (snapshot : Snapshot V) (a : Address) :
    refreshTimes (adoptCentralId s snapshot) a = refreshTimes s a := by
  unfold adoptCentralId
  split <;> rfl

theorem snapshot_times (s : LoomStore V) (snapshot : Snapshot V) (a : Address) :
    (∀ x, refreshTimes s a = some x → refreshTimes (loadSnapshot s snapshot) a =
      some {x with summary := ((lastWritten (·.address) a snapshot.devices).map carried).getD x.summary}) ∧
    (refreshTimes s a = none → ∀ y, refreshTimes (loadSnapshot s snapshot) a = some y → y.slot = none) := by
  have stored : refreshTimes (loadSnapshot s snapshot) a =
      refreshTimes (snapshot.devices.foldl admitDevice (adoptCentralId s snapshot)) a := by
    simp only [refreshTimes,snapshot_devices]
  have slot := admits_slot snapshot.devices (adoptCentralId s snapshot) a
  rw [← stored,adopted_times] at slot
  constructor
  · intro x before
    have present : a ∈ (adoptCentralId s snapshot).devices := by
      have there := adopted_times s snapshot a
      rw [before] at there
      obtain ⟨d,found,-⟩ := Option.map_eq_some_iff.mp there
      exact Dict.mem_of_get? found
    have summary := admits_summary snapshot.devices (adoptCentralId s snapshot) a present
    rw [← stored,adopted_times,before] at summary
    rw [before] at slot
    simp only [Option.map_some,Option.bind_some,Option.or_some] at slot summary
    obtain ⟨y,after,time⟩ := Option.map_eq_some_iff.mp summary
    rw [after,Option.bind_some] at slot
    rw [after,← time,← slot]
  · intro absent y after
    rw [absent,after] at slot
    exact slot

theorem snapshot_right_iff (s : LoomStore V) (snapshot : Snapshot V) (agree : SlotsAgree s) :
    (MovesForward s (loadSnapshot s snapshot) ∧ SlotsAgree (loadSnapshot s snapshot)) ↔
      BringsNoRewind s (.loadSnapshot snapshot) := by
  constructor
  · intro right a x summary before listed
    have after := (snapshot_times s snapshot a).1 x before
    rw [listed] at after
    exact ⟨(right.1 a x _ before after).2,right.2 a _ after⟩
  · intro brings
    constructor
    · intro a x y before after
      rw [(snapshot_times s snapshot a).1 x before] at after
      cases after
      refine ⟨not_behind_self _,?_⟩
      cases listed : lastWritten (·.address) a snapshot.devices with
      | none => exact not_behind_self _
      | some summary => exact (brings a x summary before listed).1
    · intro a y after
      cases before : refreshTimes s a with
      | none => simp only [agrees,(snapshot_times s snapshot a).2 before y after]
      | some x =>
        rw [(snapshot_times s snapshot a).1 x before] at after
        cases after
        cases listed : lastWritten (·.address) a snapshot.devices with
        | none => exact agree a x before
        | some summary => exact (brings a x summary before listed).2

theorem times_of_record (s : LoomStore V) (a : Address) :
    refreshTimes s a = (deviceRecord s a).map fun r => ⟨r.2.2.map (·.lastRefreshed),r.1.availability.lastRefreshed⟩ := by
  simp only [refreshTimes,deviceRecord,Option.map_map]
  rfl

theorem detail_times (s : LoomStore V) (detail : DeviceDetail) (allowed : canAdmitDevice s detail.address = true) (a : Address) :
    refreshTimes (attachDeviceDetail s detail) a =
      if a = detail.address then some ⟨some (carried detail.toDeviceSummary),carried detail.toDeviceSummary⟩
      else refreshTimes s a := by
  rw [times_of_record,detail_device_record allowed]
  split
  · rfl
  · rw [times_of_record]

theorem detail_right_iff (s : LoomStore V) (detail : DeviceDetail) (agree : SlotsAgree s) :
    (MovesForward s (attachDeviceDetail s detail) ∧ SlotsAgree (attachDeviceDetail s detail)) ↔
      BringsNoRewind s (.attachDeviceDetail detail) := by
  cases allowed : canAdmitDevice s detail.address with
  | false =>
    rw [detail_refused allowed]
    refine iff_of_true (kept_right agree (keeps_of_same rfl)) (fun x before => ?_)
    obtain ⟨d,found,-⟩ := Option.map_eq_some_iff.mp before
    simp [canAdmitDevice,Dict.mem_of_get? found] at allowed
  | true =>
    have after := detail_times s detail allowed
    constructor
    · intro right x before
      exact right.1 detail.address x _ before (by rw [after,if_pos rfl])
    · intro brings
      constructor
      · intro a x y before later
        rw [after] at later
        split at later
        · rename_i same
          subst same
          cases later
          exact brings x before
        · rw [before] at later
          cases later
          exact ⟨not_behind_self _,not_behind_self _⟩
      · intro a y later
        rw [after] at later
        split at later
        · cases later
          exact decide_eq_true rfl
        · exact agree a y later

theorem push_right (s : LoomStore V) (push : Push V) (agree : SlotsAgree s) :
    MovesForward s (applyPush s push) ∧ SlotsAgree (applyPush s push) := by
  cases push with
  | deviceRefreshed payload =>
    have after (a : Address) : refreshTimes (applyDeviceRefreshed s payload) a =
        if a = payload.deviceAddress then (refreshTimes s a).map (advance payload.refreshedAt) else refreshTimes s a := by
      rw [applyDeviceRefreshed,modified_times]
      simp only [refreshed_times,refreshTimes,Option.map_map]
      rfl
    constructor
    · intro a x y before later
      rw [applyPush,after] at later
      split at later
      · rw [before] at later
        cases later
        exact (advance_right payload.refreshedAt (agree a x before)).1
      · rw [before] at later
        cases later
        exact ⟨not_behind_self _,not_behind_self _⟩
    · intro a y later
      rw [applyPush,after] at later
      split at later
      · obtain ⟨x,before,rfl⟩ := Option.map_eq_some_iff.mp later
        exact (advance_right payload.refreshedAt (agree a x before)).2
      · exact agree a y later
  | availabilityChanged payload =>
    refine kept_right agree (keeps_of_modify s payload.deviceAddress fun d => ?_)
    split <;> rfl
  | deviceCreated payload =>
    refine kept_right agree (fun a y after => ?_)
    simp only [applyPush,applyDeviceCreated] at after
    split at after
    · exact .inl after
    · split at after
      · simp only [refreshTimes,Dict.get?_set] at after
        split at after
        · rename_i fresh _ same
          cases after
          refine .inr ⟨?_,rfl⟩
          rw [same,refreshTimes,Dict.get?_eq_none.mpr fresh,Option.map_none]
        · exact .inl after
      · exact .inl after
  | deviceRemoved payload =>
    refine kept_right agree (fun a y after => ?_)
    simp only [refreshTimes,applyPush,removed_erases,Dict.get?_erase] at after
    split at after
    · cases after
    · exact .inl after
  | _ => exact kept_right agree (keeps_of_same (unchanged (push_frame s _) LoomStore.devices fun _ => rfl))

theorem operation_right_iff (s : LoomStore V) (op : Operation V) (agree : SlotsAgree s) :
    (MovesForward s (apply s op) ∧ SlotsAgree (apply s op)) ↔ BringsNoRewind s op := by
  have quiet (t : LoomStore V) (same : t.devices = s.devices) : MovesForward s t ∧ SlotsAgree t :=
    kept_right agree (keeps_of_same same)
  cases op with
  | loadSnapshot snapshot => exact snapshot_right_iff s snapshot agree
  | attachDeviceDetail detail => exact detail_right_iff s detail agree
  | push push => exact iff_of_true (push_right s push agree) trivial
  | _ => exact iff_of_true (quiet _ (unchanged (operation_frame s _) LoomStore.devices fun _ => rfl)) trivial

theorem last_refreshed_forward_iff (maxDevices : Nat) (centralName serialSuffix : String)
    (calculatedFactory programFactory : Bool) (ops : List (Operation V)) :
    let s : LoomStore V := constructed maxDevices centralName serialSuffix calculatedFactory programFactory
    Every perform (fun s _ t => MovesForward s t ∧ SlotsAgree t) s ops ↔
      Every perform (fun s op _ => BringsNoRewind s op) s ops := by
  intro s
  have first : SlotsAgree s := fun _ _ found => nomatch found
  have agree : ∀ (u : LoomStore V) op t, SlotsAgree u → perform u op = some t →
      (MovesForward u t ∧ SlotsAgree t ↔ BringsNoRewind u op) := by
    intro u op t held moved
    cases moved
    exact operation_right_iff u op held
  refine every_congr_while SlotsAgree first (fun u op t held moved brings => ?_) agree
  exact ((agree u op t held moved).mpr brings).2

def refreshedDevice (lastRefreshed : Option Instant) : DeviceSummary :=
  ⟨"A",some "ccu","HmIP","ccu-HmIP","HmIP-STHO","A",true,0,false,false,false,false,⟨none,none,none,none⟩,⟨none,lastRefreshed⟩⟩

-- A detail that was fetched before a push is attached behind it.
def readBehindPush : List (Operation Nat) :=
  [.attachDeviceDetail ((refreshedDevice (some 10)).withChannels []),.push (.deviceRefreshed ⟨"A",20⟩),
    .attachDeviceDetail ((refreshedDevice (some 10)).withChannels [])]

theorem late_read_rewinds :
    ¬Every perform (fun s _ t => MovesForward s t ∧ SlotsAgree t) (constructed 8 "ccu" "S" true true) readBehindPush := by
  intro right
  have last := (right.2.2.1.1 "A" ⟨some (some 20),some 20⟩ ⟨some (some 10),some 10⟩ (by decide +kernel) (by decide +kernel)).1
  cases last

end LoomClient.Store
