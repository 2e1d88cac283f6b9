import LoomClient.Lib.FanOut
import LoomClient.Store.AlarmSection

namespace LoomClient.Store
open Lib Wire

structure ArmOptions where
  code : Option String
  force : Option Bool
  skipDelay : Option Bool
  bypass : Option (List String)
  deriving DecidableEq, Repr

inductive ZoneRequest where
  | arm (zoneId mode : String) (options : ArmOptions)
  | disarm (zoneId : String) (code : Option String)
  deriving DecidableEq, Repr

-- What reaches the alarm section while a request is out.
inductive AlarmUpdate where
  | push (push : AlarmPush)
  | panels (panels : List AlarmPanelEntity)
  | zoneStatuses (statuses : List AlarmZoneStatus)
  | triggeredMotion (sensors : List AlarmTriggeredMotionSensor)
  deriving DecidableEq

namespace AlarmSection

def applyUpdate (a : AlarmSection) : AlarmUpdate → AlarmSection
  | .push push => a.applyPush push
  | .panels panels => a.attachAlarmPanels panels
  | .zoneStatuses statuses => a.attachAlarmZoneStatuses statuses
  | .triggeredMotion sensors => a.applyTriggeredMotion sensors

end AlarmSection

structure ZoneReply (ε : Type) where
  updates : List AlarmUpdate
  error : Option ε
  deriving DecidableEq

section Orders
variable {ε : Type}

def ZoneReply.reply (r : ZoneReply ε) : Reply AlarmSection ε := ⟨fun a => r.updates.foldl .applyUpdate a,r.error⟩

abbrev AlarmOrder (ε : Type) := Asking AlarmSection ZoneRequest ε

def LivePanel.supportedModes (p : LivePanel) : List String := p.summary.supportedModes.getD []

-- A panel that has been dropped meanwhile keeps the record it had.
def addressed (wanted : LivePanel → Bool) (request : String → ZoneRequest) (a : AlarmSection) (oid : Model.Oid) :
    Option ZoneRequest :=
  (a.objects.get? oid).bind fun p => if wanted p then some (request p.summary.zoneId) else none

def order (wanted : LivePanel → Bool) (request : String → ZoneRequest) (replies : Nat → ZoneReply ε)
    (a : AlarmSection) (self : LivePanel) : AlarmOrder ε :=
  if self.isMaster then Asking.fanOut (addressed wanted request) (fun n => (replies n).reply) a.panels.values (.start a)
  else Asking.ask (fun n => (replies n).reply) (.start a) (request self.summary.zoneId)

def offers (mode : String) (p : LivePanel) : Bool := !p.isMaster && decide (mode ∈ p.supportedModes)
def isZone (p : LivePanel) : Bool := !p.isMaster

def LivePanel.arm (self : LivePanel) (mode : String) (options : ArmOptions) (replies : Nat → ZoneReply ε) (a : AlarmSection) :
    AlarmOrder ε :=
  order (offers mode) (fun zoneId => .arm zoneId mode options) replies a self

def LivePanel.disarm (self : LivePanel) (code : Option String) (replies : Nat → ZoneReply ε) (a : AlarmSection) :
    AlarmOrder ε :=
  order isZone (fun zoneId => .disarm zoneId code) replies a self

def owedOrder (wanted : LivePanel → Bool) (request : String → ZoneRequest) (replies : Nat → ZoneReply ε)
    (a : AlarmSection) : List ZoneRequest :=
  Asking.owed (addressed wanted request) (fun n => (replies n).reply.meanwhile) a.panels.values 0 a

end Orders

-- Pushes change neither what a panel is nor what it offers.
namespace AlarmSection

def faceAt (a : AlarmSection) (oid : Model.Oid) : Option (Bool × List String × String) :=
  (a.objects.get? oid).map fun p => (p.isMaster,p.supportedModes,p.summary.zoneId)

theorem addressed_of_face {wanted : LivePanel → Bool} {request : String → ZoneRequest} {a b : AlarmSection}
    (facing : ∀ p q : LivePanel, (p.isMaster,p.supportedModes) = (q.isMaster,q.supportedModes) → wanted p = wanted q)
    {oid : Model.Oid} (same : b.faceAt oid = a.faceAt oid) : addressed wanted request b oid = addressed wanted request a oid := by
  unfold faceAt at same
  unfold addressed
  cases after : b.objects.get? oid with
  | none =>
    cases before : a.objects.get? oid with
    | none => rfl
    | some p => rw [after,before] at same; cases same
  | some q =>
    cases before : a.objects.get? oid with
    | none => rw [after,before] at same; cases same
    | some p =>
      rw [after,before] at same
      simp only [Option.map_some,Option.some.injEq,Prod.mk.injEq] at same
      obtain ⟨master,modes,zone⟩ := same
      simp only [Option.bind_some,facing q p (Prod.ext master modes),zone]

theorem on_panel_face (a : AlarmSection) (oid : Model.Oid) {f : LivePanel → LivePanel}
    (kept : ∀ p, ((f p).isMaster,(f p).supportedModes,(f p).summary.zoneId) = (p.isMaster,p.supportedModes,p.summary.zoneId))
    (other : Model.Oid) : (a.onPanel oid f).faceAt other = a.faceAt other :=
  Dict.read_modify (fun p _ => kept p) other

theorem on_zone_face (a : AlarmSection) (zoneId : String) (f : PanelDetail → PanelDetail) (oid : Model.Oid) :
    (a.onZone zoneId f).faceAt oid = a.faceAt oid := by
  unfold onZone
  split
  · rfl
  · rename_i holder _
    exact on_panel_face (f := .mapDetail f) a holder (fun _ => rfl) oid

theorem push_face {a : AlarmSection} (sound : Sound a) (push : AlarmPush) {oid : Model.Oid} (known : oid ∈ a.objects) :
    oid ∈ (a.applyPush push).objects ∧ (a.applyPush push).faceAt oid = a.faceAt oid := by
  have zoned : ∀ zoneId f, oid ∈ (a.onZone zoneId f).objects ∧ (a.onZone zoneId f).faceAt oid = a.faceAt oid := by
    intro zoneId f
    refine ⟨?_,on_zone_face a zoneId f oid⟩
    unfold onZone
    split
    · exact known
    · exact Dict.mem_modify.mpr known
  cases push with
  | panelChanged payload =>
    simp only [applyPush,applyPanelChanged]
    split
    · obtain ⟨objects,_,_⟩ := drop_parts a payload.uniqueId
      exact ⟨objects ▸ known,by simp only [faceAt,objects]⟩
    · split
      · have other : oid ≠ a.nextOid := Nat.ne_of_lt (sound.below oid known)
        refine ⟨Dict.mem_set.mpr (.inr known),?_⟩
        simp only [faceAt,register,Dict.get?_set,if_neg other]
      · rename_i holder _
        refine ⟨Dict.mem_modify.mpr known,?_⟩
        exact on_panel_face (f := fun p => p.replaceSummary (changedSummary payload p.summary)) a holder (fun _ => rfl) oid
  | stateChanged payload => exact zoned _ _
  | countdown payload => exact zoned _ _
  | readinessChanged payload => exact zoned _ _
  | triggered payload => exact zoned _ _
  | healthChanged payload => exact ⟨known,rfl⟩

end AlarmSection

inductive PanelOrder where
  | arm (mode : String) (options : ArmOptions)
  | disarm (code : Option String)
  deriving DecidableEq, Repr

namespace PanelOrder
variable {ε : Type}

def wanted : PanelOrder → LivePanel → Bool
  | .arm mode _ => offers mode
  | .disarm _ => isZone

def request : PanelOrder → String → ZoneRequest
  | .arm mode options,zoneId => .arm zoneId mode options
  | .disarm code,zoneId => .disarm zoneId code

def carryOut (replies : Nat → ZoneReply ε) (a : AlarmSection) (self : LivePanel) : PanelOrder → AlarmOrder ε
  | .arm mode options => self.arm mode options replies a
  | .disarm code => self.disarm code replies a

def owed (given : PanelOrder) : (Nat → ZoneReply ε) → AlarmSection → List ZoneRequest :=
  owedOrder given.wanted given.request

theorem wanted_of_face (given : PanelOrder) (p q : LivePanel)
    (same : (p.isMaster,p.supportedModes) = (q.isMaster,q.supportedModes)) : given.wanted p = given.wanted q := by
  obtain ⟨master,modes⟩ := Prod.mk.inj same
  cases given with
  | arm mode options => simp only [wanted,offers,master,modes]
  | disarm code => simp only [wanted,isZone,master]

theorem carried_out (given : PanelOrder) (replies : Nat → ZoneReply ε) (a : AlarmSection) (self : LivePanel)
    (master : self.isMaster = true) : given.carryOut replies a self =
      Asking.fanOut (addressed given.wanted given.request) (fun n => (replies n).reply) a.panels.values (.start a) := by
  cases given with
  | arm mode options => exact if_pos master
  | disarm code => exact if_pos master

theorem owed_at_call (given : PanelOrder) (replies : Nat → ZoneReply ε) (a : AlarmSection) (sound : a.Sound)
    (pushes : ∀ n, ∀ update ∈ (replies n).updates, ∃ push, update = .push push) :
    given.owed replies a = a.panels.values.filterMap (addressed given.wanted given.request a) := by
  have one : ∀ (b : AlarmSection) (update : AlarmUpdate), (∃ push, update = .push push) →
      b.Sound ∧ (∀ oid ∈ a.panels.values, oid ∈ b.objects) →
      ((b.applyUpdate update).Sound ∧ ∀ oid ∈ a.panels.values, oid ∈ (b.applyUpdate update).objects) ∧
        ∀ oid ∈ a.panels.values, (b.applyUpdate update).faceAt oid = b.faceAt oid := by
    rintro b update ⟨push,rfl⟩ ⟨sound,known⟩
    have faces := fun oid member => AlarmSection.push_face sound push (known oid member)
    exact ⟨⟨AlarmSection.push_sound sound push,fun oid member => (faces oid member).1⟩,fun oid member => (faces oid member).2⟩
  have waits : ∀ (updates : List AlarmUpdate) (b : AlarmSection), (∀ update ∈ updates, ∃ push, update = .push push) →
      b.Sound ∧ (∀ oid ∈ a.panels.values, oid ∈ b.objects) →
      ((updates.foldl .applyUpdate b).Sound ∧ ∀ oid ∈ a.panels.values, oid ∈ (updates.foldl .applyUpdate b).objects) ∧
        ∀ oid ∈ a.panels.values, (updates.foldl AlarmSection.applyUpdate b).faceAt oid = b.faceAt oid := by
    intro updates
    induction updates with
    | nil => exact fun b _ held => ⟨held,fun _ _ => rfl⟩
    | cons update rest ih =>
      intro b pushed held
      have first := one b update (pushed update (.head rest)) held
      have later := ih (b.applyUpdate update) (fun u member => pushed u (.tail update member)) first.1
      exact ⟨later.1,fun oid member => (later.2 oid member).trans (first.2 oid member)⟩
  refine Asking.owed_at_start _ (fun b : AlarmSection => b.Sound ∧ ∀ oid ∈ a.panels.values, oid ∈ b.objects) _ ?_ 0 a ?_
  · intro n b held
    have kept := waits (replies n).updates b (pushes n) held
    exact ⟨kept.1,fun oid member => AlarmSection.addressed_of_face given.wanted_of_face (kept.2 oid member)⟩
  · refine ⟨sound,fun oid member => ?_⟩
    obtain ⟨uid,found⟩ := Dict.mem_values.mp member
    exact sound.known uid oid found

end PanelOrder

theorem master_order_complete_iff {ε : Type} (given : PanelOrder) (a : AlarmSection) (self : LivePanel)
    (master : self.isMaster = true) (replies : Nat → ZoneReply ε) :
    ((given.carryOut replies a self).sent = given.owed replies a ↔
        ∀ n, n + 1 < (given.owed replies a).length → (replies n).error = none) ∧
      (a.Sound → (∀ n, ∀ update ∈ (replies n).updates, ∃ push, update = .push push) →
        given.owed replies a = a.panels.values.filterMap (addressed given.wanted given.request a)) := by
  refine ⟨?_,given.owed_at_call replies a⟩
  rw [given.carried_out replies a self master]
  have all := Asking.fan_out_complete_iff (addressed given.wanted given.request) (fun n => (replies n).reply)
    a.panels.values (.start a)
  simp only [Asking.start,List.nil_append,List.length_nil,Nat.zero_add] at all
  exact all

-- The first zone refuses: the second is never asked.
def alarmZone (zoneId : String) (master : Bool) : AlarmPanelEntity :=
  ⟨"alarm_" ++ zoneId,zoneId,zoneId,"alarm_control_panel","disarmed",some ["full"],true,some master,false,false⟩

theorem both_zones_armed :
    let a := AlarmSection.empty.attachAlarmPanels [alarmZone "master" true,alarmZone "hall" false,alarmZone "attic" false]
    let given : PanelOrder := .arm "full" ⟨none,none,none,none⟩
    let replies : Nat → ZoneReply String := fun _ => ⟨[],none⟩
    (given.carryOut replies a (.build (alarmZone "master" true))).sent = given.owed replies a :=
  (master_order_complete_iff (.arm "full" ⟨none,none,none,none⟩)
    (AlarmSection.empty.attachAlarmPanels [alarmZone "master" true,alarmZone "hall" false,alarmZone "attic" false])
    (.build (alarmZone "master" true)) rfl fun _ => ⟨[],none⟩).1.mpr fun _ _ => rfl

theorem refused_zone_stops_master :
    let a := AlarmSection.empty.attachAlarmPanels [alarmZone "master" true,alarmZone "hall" false,alarmZone "attic" false]
    let given : PanelOrder := .arm "full" ⟨none,none,none,none⟩
    let replies : Nat → ZoneReply String := fun n => ⟨[],if n = 0 then some "not ready" else none⟩
    let asked := given.carryOut replies a (.build (alarmZone "master" true))
    asked.sent = [given.request "hall"] ∧ given.owed replies a = [given.request "hall",given.request "attic"] := by
  decide +kernel

end LoomClient.Store
