import LoomClient.Compat.HubReads
import LoomClient.Lib.Exclusive

namespace LoomClient.Compat
open Lib Wire Store
variable {F : Type}

-- A list is fetched and applied under its own lock.
def HubRead.fetched : HubRead → Option MessageList
  | .messages refresh => some refresh.list
  | _ => none

def listReads : Race.Locking (HubMirror F) HubRead MessageList := ⟨HubRead.fetched,fun m list => list ∈ m.locked⟩

section Locks
variable {m m' : HubMirror F} {o : HubOutcome F}
open HubMirror

theorem same_holds (same : m'.locked = m.locked) (list : MessageList) : listReads.holds m' list ↔ listReads.holds m list := by
  change list ∈ m'.locked ↔ list ∈ m.locked
  rw [same]

theorem untouched_respects (locked : o.mirror.locked = m.locked) (reads : ∀ r ∈ o.reads, r.fetched = none) :
    listReads.Respects m o none where
  kept := fun list _ held => (same_holds locked list).mpr held
  taken := by
    intro r list member key
    have unkeyed := reads r member
    rw [show r.fetched = some list from key] at unkeyed
    cases unkeyed
  apart := by
    intro i j r r' list listed _ key _
    have unkeyed := reads r (List.mem_of_getElem? listed)
    rw [show r.fetched = some list from key] at unkeyed
    cases unkeyed

theorem taken_respects (refresh : Refresh) (free : refresh.list ∉ m.locked) (locked : o.mirror.locked = refresh.list :: m.locked)
    (reads : o.reads = [.messages refresh]) : listReads.Respects m o none where
  kept := by
    intro list _ held
    change list ∈ o.mirror.locked
    rw [locked]
    exact List.mem_cons_of_mem _ held
  taken := by
    intro r list member key
    rw [reads] at member
    rw [List.mem_singleton.mp member] at key
    cases key
    refine ⟨?_,fun held => absurd held free⟩
    change refresh.list ∈ o.mirror.locked
    rw [locked]
    exact .head _
  apart := by
    intro i j r r' list listed listed' _ _
    rw [reads] at listed listed'
    have first := (List.getElem?_eq_some_iff.mp listed).1
    have second := (List.getElem?_eq_some_iff.mp listed').1
    simp only [List.length_singleton] at first second
    omega

theorem respects_of_locked (respects : listReads.Respects m o none) (same : m'.locked = m.locked) :
    listReads.Respects m' o none where
  kept := by
    intro list other held
    exact respects.kept list other ((same_holds same list).mp held)
  taken := by
    intro r list member key
    obtain ⟨now,before⟩ := respects.taken r list member key
    exact ⟨now,fun held => before ((same_holds same list).mp held)⟩
  apart := respects.apart

theorem refresh_respects (refresh : Refresh) (done : HubOutcome F) (respects : listReads.Respects m done none) :
    listReads.Respects m (m.refreshMessageList refresh done) none := by
  unfold refreshMessageList
  split
  · exact respects
  · split
    · exact untouched_respects rfl fun r member => by cases member
    · rename_i free
      exact taken_respects refresh (fun held => free (.inl held)) rfl rfl

theorem finish_respects (m : HubMirror F) (refresh : Refresh) : listReads.Respects m (m.finishRefresh refresh) none := by
  have quiet : listReads.Respects m (⟨m,[.systemUpdate],[]⟩ : HubOutcome F) none :=
    untouched_respects rfl fun r member => by rw [List.mem_singleton.mp member]; rfl
  cases refresh with
  | reconcileAlarm count serviceCount => exact refresh_respects _ _ quiet
  | reconcileService count => exact quiet
  | push list payload => exact untouched_respects rfl fun r member => by cases member

theorem begin_respects (m : HubMirror F) (refresh : Refresh) : listReads.Respects m (m.beginRefresh refresh) none :=
  refresh_respects refresh _ (finish_respects m refresh)

theorem wake_respects (list : MessageList) (woken : m.wake list = some o) : listReads.Respects m o none := by
  unfold wake at woken
  split at woken
  · cases woken
  · rename_i free
    obtain ⟨refresh,found,rfl⟩ := Option.map_eq_some_iff.mp woken
    have same : refresh.list = list := by simpa using List.find?_some found
    dsimp only
    split
    · exact respects_of_locked (finish_respects _ refresh) rfl
    · exact taken_respects refresh (same ▸ free) (congrArg (· :: m.locked) same.symm) rfl

theorem released_respects (refresh : Refresh)
    (respects : listReads.Respects ({m with locked := m.locked.filter (· ≠ refresh.list)} : HubMirror F) o none) :
    listReads.Respects m o (some refresh.list) where
  kept := by
    intro list other held
    have apart : list ≠ refresh.list := fun same => other (congrArg some same.symm)
    exact respects.kept list (by simp) (List.mem_filter.mpr ⟨held,by simpa using apart⟩)
  taken := by
    intro r list member key
    obtain ⟨now,before⟩ := respects.taken r list member key
    refine ⟨now,fun held => ?_⟩
    by_cases same : list = refresh.list
    · exact congrArg some same.symm
    · exact absurd (before (List.mem_filter.mpr ⟨held,by simpa using same⟩)) (by simp)
  apart := respects.apart

theorem updates_unlocked (h : HubCoordinator F) : ∀ r ∈ h.updateReads, r.fetched = none := by
  intro r member
  unfold HubCoordinator.updateReads HubCoordinator.securityReads at member
  split at member
  · rw [List.mem_singleton.mp member]
    rfl
  · split at member
    · rw [List.mem_singleton.mp member]
      rfl
    · cases member

theorem security_unlocked (h : HubCoordinator F) : ∀ r ∈ h.securityReads, r.fetched = none := by
  intro r member
  unfold HubCoordinator.securityReads at member
  split at member
  · rw [List.mem_singleton.mp member]
    rfl
  · cases member

theorem proceed_respects (names : CentralNames) (m : HubMirror F) (r : HubRead) (answer : HubAnswer F) (unlocked : r.fetched = none) :
    listReads.Respects m (m.proceed names r answer) none := by
  have idle : listReads.Respects m (⟨m,[],[]⟩ : HubOutcome F) none := untouched_respects rfl fun r member => by cases member
  cases r with
  | aggregate =>
    cases answer with
    | aggregate entries =>
      simp only [HubMirror.proceed]
      cases ownEntry names entries with
      | none => exact idle
      | some data => exact begin_respects m _
    | _ => exact idle
  | messages refresh => cases unlocked
  | systemUpdate => exact untouched_respects rfl (updates_unlocked m.hub)
  | addonUpdate => exact untouched_respects rfl (security_unlocked m.hub)
  | security => exact idle
  | faults openCount =>
    cases answer with
    | _ => exact untouched_respects rfl fun r member => by cases member

theorem locks_followed (names : CentralNames) : Race.Locking.Followed listReads (hubReads (F := F) names) where
  call := by
    intro m call o called
    cases call with
    | fetchHubSingletonData =>
      cases called
      exact untouched_respects rfl fun r member => by rw [List.mem_singleton.mp member]; rfl
    | wake list => exact wake_respects list called
    | connectionState connected =>
      cases called
      exact untouched_respects rfl fun r member => by cases member
    | installModeSet interface seconds =>
      cases called
      exact untouched_respects rfl fun r member => by cases member
    | systemUpdateInstall =>
      cases called
      exact untouched_respects rfl fun r member => by cases member
    | addonUpdateInstall =>
      cases called
      exact untouched_respects rfl fun r member => by cases member
  push := by
    intro m push o pushed
    simp only [hubReads] at pushed
    split at pushed
    · cases pushed
    · cases pushed
      cases push with
      | messageCount list payload =>
        simp only [HubMirror.push]
        split
        · exact respects_of_locked (begin_respects _ _) rfl
        · exact untouched_respects rfl fun r member => by cases member
      | securityFault openCount refetched =>
        simp only [HubMirror.push]
        split
        · exact untouched_respects rfl fun r member => by rw [List.mem_singleton.mp member]; rfl
        · exact untouched_respects rfl fun r member => by cases member
      | _ => exact untouched_respects rfl fun r member => by cases member
  settle := by
    intro list m n r d answer o key _ settled
    obtain ⟨hub,_,rfl⟩ := Option.map_eq_some_iff.mp settled
    cases r with
    | messages refresh =>
      cases key
      have released := finish_respects ({m with hub, locked := m.locked.filter (· ≠ refresh.list)} : HubMirror F) refresh
      exact released_respects refresh (respects_of_locked released rfl)
    | _ => cases key
  unlocked := by
    intro m n r d answer o key settled
    obtain ⟨hub,_,rfl⟩ := Option.map_eq_some_iff.mp settled
    exact respects_of_locked (proceed_respects names ({m with hub}) r answer key) rfl

end Locks

section Writers
variable (names : CentralNames)

theorem push_lists (h : HubCoordinator F) (push : HubPush F) (list : MessageList) :
    (h.applyPush names push).messagesDp list = h.messagesDp list := by
  cases push with
  | securityNotification fault report => cases fault <;> cases list <;> rfl
  | inbox payload | metrics payload | connectivity payload | systemUpdate payload | installMode payload =>
    simp only [HubCoordinator.applyPush]
    split <;> cases list <;> rfl
  | _ => cases list <;> rfl

-- Of all answers only the one to its own fetch writes a list.
theorem absorb_lists (h : HubCoordinator F) (r : HubRead) (answer : HubAnswer F) (hub : HubCoordinator F)
    (absorbed : h.absorb names r answer = some hub) (list : MessageList) (other : r.fetched ≠ some list) :
    hub.messagesDp list = h.messagesDp list := by
  cases r with
  | messages refresh =>
    have apart : refresh.list ≠ list := fun same => other (congrArg some same)
    cases answer with
    | alarmMessages messages =>
      simp only [HubCoordinator.absorb] at absorbed
      split at absorbed
      · cases absorbed
        cases list <;> simp_all [HubCoordinator.updateMessages,HubCoordinator.messagesDp]
      · cases absorbed
    | serviceMessages messages =>
      simp only [HubCoordinator.absorb] at absorbed
      split at absorbed
      · cases absorbed
        cases list <;> simp_all [HubCoordinator.updateMessages,HubCoordinator.messagesDp]
      · cases absorbed
    | failed => cases absorbed; rfl
    | _ => cases absorbed
  | aggregate =>
    cases answer with
    | aggregate entries =>
      cases absorbed
      cases ownEntry names entries <;> cases list <;> rfl
    | failed => cases absorbed; rfl
    | _ => cases absorbed
  | systemUpdate =>
    cases answer with
    | systemUpdate entries =>
      cases absorbed
      unfold HubCoordinator.fetchSystemUpdate
      split <;> cases list <;> rfl
    | failed => cases absorbed; rfl
    | _ => cases absorbed
  | addonUpdate =>
    cases answer with
    | addonUpdate status => cases absorbed; cases list <;> rfl
    | failed => cases absorbed; rfl
    | _ => cases absorbed
  | security =>
    cases answer with
    | security snapshot => cases absorbed; cases list <;> rfl
    | failed => cases absorbed; rfl
    | _ => cases absorbed
  | faults openCount =>
    cases answer with
    | faults faults => cases absorbed; cases list <;> rfl
    | failed => cases absorbed; cases list <;> rfl
    | _ => cases absorbed

variable {x y : Race (HubMirror F) (HubPush F) HubRead}

theorem list_written (moved : Race.advance (hubReads names) x e = some y) (list : MessageList)
    (changed : y.mirror.hub.messagesDp list ≠ x.mirror.hub.messagesDp list) :
    ∃ n asOf answer, e = .answer n asOf answer ∧ Race.InFlight listReads x list n := by
  cases e with
  | call call =>
    obtain ⟨o,called,rfl⟩ := Option.map_eq_some_iff.mp moved
    refine absurd ?_ changed
    rw [Race.enter_mirror]
    cases call with
    | fetchHubSingletonData => cases called; rfl
    | wake woken =>
      have kept : o.mirror.hub = x.mirror.hub := by
        simp only [hubReads,HubMirror.call,HubMirror.wake] at called
        split at called
        · cases called
        · obtain ⟨refresh,_,rfl⟩ := Option.map_eq_some_iff.mp called
          split
          · exact finish_refresh_hub _ refresh
          · rfl
      rw [kept]
    | connectionState connected => cases called; cases list <;> rfl
    | installModeSet interface seconds => cases called; cases list <;> rfl
    | systemUpdateInstall => cases called; cases list <;> rfl
    | addonUpdateInstall => cases called; cases list <;> rfl
  | push push =>
    obtain ⟨o,pushed,rfl⟩ := Option.map_eq_some_iff.mp moved
    refine absurd ?_ changed
    rw [Race.enter_mirror]
    simp only [hubReads] at pushed
    split at pushed
    · cases pushed
    · cases pushed
      cases push with
      | messageCount other payload =>
        simp only [HubMirror.push]
        split
        · rw [begin_refresh_hub]
        · rfl
      | securityFault openCount refetched =>
        simp only [HubMirror.push]
        split <;> rfl
      | _ => exact push_lists names x.mirror.hub _ list
  | answer n asOf answer =>
    obtain ⟨r,requested,o,found,settled,same⟩ := Race.advance_answer moved
    obtain ⟨hub,absorbed,rfl⟩ := Option.map_eq_some_iff.mp settled
    refine ⟨n,asOf,answer,rfl,r,requested,found,?_⟩
    by_contra other
    refine changed ?_
    rw [same,proceed_hub]
    exact absorb_lists names x.mirror.hub r answer hub absorbed list other

end Writers

-- No two fetches of a list overlap, a list changes with the answer to a fetch of its own only, and
-- these come in the order in which the fetches were started.
theorem message_lists_in_order (names : CentralNames) (first : HubCoordinator F)
    (incidents : List (Incident HubCall (HubPush F) (HubAnswer F))) :
    Always (Race.advance (hubReads names)) (Race.Exclusive listReads) (.fresh (.quiet first)) incidents ∧
      Throughout (Race.advance (hubReads names)) (Race.InOrder listReads (hubReads names)) (.fresh (.quiet first)) incidents ∧
      Every (Race.advance (hubReads names)) (fun x e y => ∀ list,
        y.mirror.hub.messagesDp list ≠ x.mirror.hub.messagesDp list →
          ∃ n asOf answer, e = .answer n asOf answer ∧ Race.InFlight listReads x list n) (.fresh (.quiet first)) incidents := by
  obtain ⟨exclusive,ordered⟩ := Race.exclusive_run (locks_followed names) (.quiet first) incidents
  refine ⟨exclusive,ordered,?_⟩
  exact every_of_invariant (fun _ => True) trivial (fun _ _ _ _ _ => trivial) fun x e y _ moved list changed =>
    list_written names moved list changed

end LoomClient.Compat
