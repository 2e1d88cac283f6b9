import LoomClient.Lib.Transition
import Mathlib.Tactic.Common

namespace LoomClient.Transport
open Lib

-- The configured credential. Only a bearer token is swapped in band.
inductive AuthMethod (τ : Type) where
  | bearer (token : τ) (label : String)
  | other
  deriving DecidableEq, Repr

def AuthMethod.replace (token : τ) : AuthMethod τ → AuthMethod τ
  | .bearer _ label => .bearer token label
  | .other => .other

inductive Phase where
  | awaiting
  | resolved (accepted : Bool)
  | expired
  | returned
  | raised
  deriving DecidableEq, Repr

structure Call (τ : Type) where
  token : τ
  phase : Phase
  deriving DecidableEq, Repr

-- `ack` is the one acknowledgement slot, naming the call whose future it holds; `unanswered` are the
-- requests the daemon has still to answer; `acknowledged`, which no step reads, are the calls whose
-- own request it has answered with `reauth_ok`.
structure Reauth (τ : Type) where
  auth : AuthMethod τ
  ack : Option Nat
  calls : List (Call τ)
  connected : Bool
  unanswered : List Nat
  acknowledged : List Nat

def Reauth.initial (auth : AuthMethod τ) : Reauth τ := ⟨auth,none,[],false,[],[]⟩

def Reauth.phase? (x : Reauth τ) (i : Nat) : Option Phase := x.calls[i]?.map Call.phase

def setPhase (x : Reauth τ) (i : Nat) (phase : Phase) : Reauth τ :=
  {x with calls := x.calls.modify i fun call => {call with phase}}

-- `expire` is the timeout of a call, which cancels its future before the call itself runs on.
inductive ReauthAction (τ : Type) where
  | connect
  | disconnect
  | reauth (token : τ)
  | fail (call : Nat)
  | expire (call : Nat)
  | answer (accepted : Bool)
  | resume (call : Nat)

-- `_send` refuses a closed socket; the `finally` then clears the slot.
def reauth (x : Reauth τ) (token : τ) : Reauth τ :=
  if x.connected then
    {x with
      ack := some x.calls.length
      calls := x.calls ++ [⟨token,.awaiting⟩]
      unanswered := x.unanswered ++ [x.calls.length]}
  else {x with ack := none,calls := x.calls ++ [⟨token,.raised⟩]}

-- `reauth_ok` and `reauth_failed` resolve whatever future the slot holds.
def handleReauth (x : Reauth τ) (accepted : Bool) : Reauth τ :=
  match x.ack with
  | some j => if x.phase? j = some .awaiting then setPhase x j (.resolved accepted) else x
  | none => x

-- The `finally` clears the slot whosever future it holds by now.
def settleCall (x : Reauth τ) (i : Nat) (call : Call τ) : Reauth τ :=
  let y := {x with ack := none}
  match call.phase with
  | .resolved true => {setPhase y i .returned with auth := x.auth.replace call.token}
  | _ => setPhase y i .raised

def reauthStep (x : Reauth τ) : ReauthAction τ → Option (Reauth τ)
  | .connect => some {x with connected := true,unanswered := []}
  | .disconnect => some {x with connected := false,unanswered := []}
  | .reauth token => some (reauth x token)
  | .fail i => if x.phase? i = some .awaiting then some {setPhase x i .raised with ack := none} else none
  | .expire i => match x.phase? i with
    | some .awaiting => some (setPhase x i .expired)
    | some (.resolved _) => some (setPhase x i .expired)
    | _ => none
  | .answer accepted => match x.unanswered with
    | r :: unanswered =>
      some (handleReauth {x with unanswered,acknowledged := if accepted then r :: x.acknowledged else x.acknowledged} accepted)
    | [] => none
  | .resume i => match x.calls[i]? with
    | some call => match call.phase with
      | .resolved _ => some (settleCall x i call)
      | .expired => some (settleCall x i call)
      | _ => none
    | none => none

def Reported (x : Reauth τ) : Prop := ∀ i, x.phase? i = some .returned → i ∈ x.acknowledged

def Installs (x t : Reauth τ) : Prop :=
  t.auth = x.auth ∨ ∃ i call, t.calls[i]? = some call ∧ i ∈ t.acknowledged ∧ t.auth = x.auth.replace call.token

def Reauth.waiting (x : Reauth τ) : Option Nat := x.ack.filter fun j => x.phase? j = some .awaiting

-- The acknowledgement answers the request of the call that waits in the slot.
def Paired (x : Reauth τ) : ReauthAction τ → Prop
  | .answer true => x.waiting = none ∨ x.waiting = x.unanswered.head?
  | _ => True

instance (x : Reauth τ) (a : ReauthAction τ) : Decidable (Paired x a) := by unfold Paired; split <;> infer_instance

theorem waiting_some (x : Reauth τ) : x.waiting = some j ↔ x.ack = some j ∧ x.phase? j = some .awaiting := by
  simp only [Reauth.waiting,Option.filter_eq_some_iff,decide_eq_true_eq]

def Acknowledged (x : Reauth τ) : Prop :=
  ∀ i, x.phase? i = some (.resolved true) ∨ x.phase? i = some .returned → i ∈ x.acknowledged

theorem phase_set (x : Reauth τ) (i j : Nat) (phase : Phase) :
    (setPhase x i phase).phase? j = if i = j then (x.phase? j).map fun _ => phase else x.phase? j := by
  simp only [Reauth.phase?,setPhase,List.getElem?_modify]
  by_cases same : i = j
  · subst same
    cases x.calls[i]? <;> simp
  · simp [same]

theorem set_acknowledged (phase : Phase) (kept : Acknowledged x)
    (earned : phase = .resolved true ∨ phase = .returned → i ∈ x.acknowledged) : Acknowledged (setPhase x i phase) := by
  intro j reached
  rw [phase_set] at reached
  by_cases same : i = j
  · subst same
    simp only [if_true,Option.map_eq_some_iff] at reached
    refine earned ?_
    rcases reached with ⟨_,_,eq⟩ | ⟨_,_,eq⟩
    · exact .inl eq
    · exact .inr eq
  · rw [if_neg same] at reached
    exact kept j reached

theorem append_phase (x : Reauth τ) (call : Call τ) (ack : Option Nat) (unanswered : List Nat)
    (reached : Reauth.phase? {x with ack,calls := x.calls ++ [call],unanswered} i = some phase) :
    x.phase? i = some phase ∨ call.phase = phase := by
  simp only [Reauth.phase?,List.getElem?_append,Option.map_eq_some_iff] at reached
  obtain ⟨found,at_index,eq⟩ := reached
  split at at_index
  · exact .inl (by simp [Reauth.phase?,at_index,eq])
  · have last : call = found := by
      rw [List.getElem?_singleton] at at_index
      split at at_index
      · exact Option.some.inj at_index
      · cases at_index
    exact .inr (by rw [last,eq])

theorem reauth_acknowledged (token : τ) (kept : Acknowledged x) : Acknowledged (reauth x token) := by
  intro i reached
  unfold reauth at reached ⊢
  split at reached
  · rename_i connected
    simp only [connected,if_true]
    refine kept i ?_
    rcases reached with reached | reached
    · exact .inl ((append_phase x _ _ _ reached).resolve_right nofun)
    · exact .inr ((append_phase x _ _ _ reached).resolve_right nofun)
  · rename_i disconnected
    simp only [disconnected]
    refine kept i ?_
    rcases reached with reached | reached
    · exact .inl ((append_phase x _ _ _ reached).resolve_right nofun)
    · exact .inr ((append_phase x _ _ _ reached).resolve_right nofun)

theorem handle_acknowledged (kept : Acknowledged x)
    (paired : accepted = true → ∀ j, x.ack = some j → x.phase? j = some .awaiting → j ∈ x.acknowledged) :
    Acknowledged (handleReauth x accepted) := by
  unfold handleReauth
  split
  · rename_i j slot
    split
    · rename_i awaiting
      refine set_acknowledged _ kept ?_
      rintro (eq | eq)
      · cases eq
        exact paired rfl j slot awaiting
      · cases eq
    · exact kept
  · exact kept

theorem settle_acknowledged (found : x.calls[i]? = some call) (kept : Acknowledged x) :
    Acknowledged (settleCall x i call) := by
  have cleared : Acknowledged {x with ack := none} := kept
  unfold settleCall
  dsimp only
  split
  · rename_i resolved
    have own : i ∈ x.acknowledged := kept i (.inl (by simp [Reauth.phase?,found,resolved]))
    have settled := set_acknowledged (i := i) .returned cleared fun _ => own
    exact settled
  · exact set_acknowledged _ cleared (by rintro (eq | eq) <;> cases eq)

theorem step_acknowledged (x : Reauth τ) (a : ReauthAction τ) (t : Reauth τ) (kept : Acknowledged x)
    (step : reauthStep x a = some t) (paired : Paired x a) : Acknowledged t := by
  cases a with
  | connect => cases step; exact kept
  | disconnect => cases step; exact kept
  | reauth token => cases step; exact reauth_acknowledged token kept
  | fail i =>
    simp only [reauthStep] at step
    split at step <;> cases step
    have failed := set_acknowledged (i := i) .raised kept (by rintro (eq | eq) <;> cases eq)
    exact failed
  | expire i =>
    simp only [reauthStep] at step
    split at step <;> cases step
    all_goals exact set_acknowledged _ kept (by rintro (eq | eq) <;> cases eq)
  | answer accepted =>
    simp only [reauthStep] at step
    split at step <;> cases step
    rename_i r rest front
    refine handle_acknowledged ?_ ?_
    · intro i reached
      have before := kept i reached
      dsimp only
      split
      · exact List.mem_cons_of_mem _ before
      · exact before
    · intro positive j slot awaiting
      subst positive
      have holds : x.waiting = some j := (waiting_some x).mpr ⟨slot,awaiting⟩
      have own : some j = x.unanswered.head? := by
        rcases paired with none | same
        · cases holds.symm.trans none
        · exact holds.symm.trans same
      rw [front] at own
      cases own
      exact List.mem_cons_self
  | resume i =>
    simp only [reauthStep] at step
    split at step
    · rename_i call found
      split at step <;> cases step
      all_goals exact settle_acknowledged found kept
    · cases step

theorem initial_acknowledged (auth : AuthMethod τ) : Acknowledged (Reauth.initial auth) := by
  simp [Acknowledged,Reauth.initial,Reauth.phase?]

theorem acknowledged_reported (kept : Acknowledged x) : Reported x := fun i returned => kept i (.inr returned)

theorem handle_auth (x : Reauth τ) (accepted : Bool) : (handleReauth x accepted).auth = x.auth := by
  unfold handleReauth
  split
  · split <;> rfl
  · rfl

theorem handle_unanswered (x : Reauth τ) (accepted : Bool) : (handleReauth x accepted).unanswered = x.unanswered := by
  unfold handleReauth
  split
  · split <;> rfl
  · rfl

theorem reauth_auth (x : Reauth τ) (token : τ) : (reauth x token).auth = x.auth := by
  unfold reauth
  split <;> rfl

theorem step_installs (x : Reauth τ) (a : ReauthAction τ) (t : Reauth τ) (kept : Acknowledged x)
    (step : reauthStep x a = some t) : Installs x t := by
  cases a with
  | connect => cases step; exact .inl rfl
  | disconnect => cases step; exact .inl rfl
  | reauth token => cases step; exact .inl (reauth_auth x token)
  | fail i => simp only [reauthStep] at step; split at step <;> cases step; exact .inl rfl
  | expire i => simp only [reauthStep] at step; split at step <;> cases step <;> exact .inl rfl
  | answer accepted =>
    simp only [reauthStep] at step
    split at step <;> cases step
    exact .inl (handle_auth _ accepted)
  | resume i =>
    simp only [reauthStep] at step
    split at step
    · rename_i call found
      have settled : t = settleCall x i call := by split at step <;> cases step <;> rfl
      subst settled
      unfold settleCall
      dsimp only
      split
      · rename_i resolved
        have own : i ∈ x.acknowledged := kept i (.inl (by simp [Reauth.phase?,found,resolved]))
        refine .inr ⟨i,{call with phase := .returned},?_,own,rfl⟩
        simp [setPhase,found]
      · exact .inl rfl
    · cases step

theorem reauth_installs_accepted (auth : AuthMethod τ) (actions : List (ReauthAction τ))
    (paired : Every reauthStep (fun x a _ => Paired x a) (.initial auth) actions) :
    Every reauthStep (fun x _ t => Installs x t ∧ Reported t) (.initial auth) actions := by
  refine every_of_every Acknowledged (initial_acknowledged auth) ?_ ?_ paired
  · exact step_acknowledged
  · intro x a t kept step met
    exact ⟨step_installs x a t kept step,acknowledged_reported (step_acknowledged x a t kept step met)⟩

-- One call at a time, each acknowledged before the next is made.
theorem one_call_installs : Every reauthStep (fun x _ t => Installs x t ∧ Reported t) (.initial (.bearer 0 "bearer"))
    [.connect,.reauth 1,.answer true,.resume 0,.reauth 2,.answer false,.resume 1] :=
  reauth_installs_accepted _ _ (by decide)

-- A second call takes the slot over, and the answer to the first installs its token.
theorem overlapping_call_takes_acknowledgement :
    ¬ Every reauthStep (fun x _ t => Installs x t ∧ Reported t) (.initial (.bearer 0 "bearer"))
      [.connect,.reauth 1,.reauth 2,.answer true,.resume 1,.answer false] := by
  intro sound
  exact absurd (sound.2.2.2.2.1.2 1 rfl) (by decide)

structure Numbered (x : Reauth τ) : Prop where
  acknowledged : ∀ i ∈ x.acknowledged, i < x.calls.length
  unanswered : ∀ i ∈ x.unanswered, i < x.calls.length
  waiting : ∀ j, x.waiting = some j → j ∉ x.acknowledged

theorem set_waiting (waits : (setPhase x i phase).waiting = some j) (settled : phase ≠ .awaiting) :
    x.waiting = some j := by
  obtain ⟨slot,awaiting⟩ := (waiting_some _).mp waits
  rw [phase_set] at awaiting
  split at awaiting
  · cases old : x.phase? j with
    | none => simp [old] at awaiting
    | some => simp [old,settled] at awaiting
  · exact (waiting_some x).mpr ⟨slot,awaiting⟩

theorem set_numbered (i : Nat) (numbered : Numbered x) (settled : phase ≠ .awaiting) : Numbered (setPhase x i phase) := by
  refine ⟨?_,?_,fun j waits => numbered.waiting j (set_waiting waits settled)⟩
  · simpa [setPhase] using numbered.acknowledged
  · simpa [setPhase] using numbered.unanswered

theorem Numbered.cleared (numbered : Numbered x) : Numbered {x with ack := none} :=
  ⟨numbered.acknowledged,numbered.unanswered,fun _ waits => by cases ((waiting_some _).mp waits).1⟩

theorem reauth_numbered (token : τ) (numbered : Numbered x) : Numbered (reauth x token) := by
  have below : ∀ i ∈ x.acknowledged, i < x.calls.length + 1 := fun i member => Nat.lt_succ_of_lt (numbered.acknowledged i member)
  have asked : ∀ i ∈ x.unanswered, i < x.calls.length + 1 := fun i member => Nat.lt_succ_of_lt (numbered.unanswered i member)
  unfold reauth
  split
  · refine ⟨by simpa using below,?_,?_⟩
    · intro i member
      rcases List.mem_append.mp member with old | new
      · simpa using asked i old
      · simp [List.mem_singleton.mp new]
    · intro j waits member
      cases ((waiting_some _).mp waits).1
      exact Nat.lt_irrefl _ (numbered.acknowledged _ member)
  · refine ⟨by simpa using below,by simpa using asked,?_⟩
    intro j waits
    cases ((waiting_some _).mp waits).1

theorem settle_numbered (i : Nat) (call : Call τ) (numbered : Numbered x) : Numbered (settleCall x i call) := by
  unfold settleCall
  dsimp only
  split
  · have settled : Phase.returned ≠ .awaiting := nofun
    have returned := set_numbered i numbered.cleared settled
    exact ⟨returned.acknowledged,returned.unanswered,returned.waiting⟩
  · exact set_numbered i numbered.cleared nofun

theorem handle_waiting (x : Reauth τ) (accepted : Bool) : (handleReauth x accepted).waiting = none := by
  cases waits : (handleReauth x accepted).waiting with
  | none => rfl
  | some j =>
    exfalso
    unfold handleReauth at waits
    split at waits
    · rename_i held slot
      split at waits
      · obtain ⟨slot',awaiting⟩ := (waiting_some _).mp waits
        cases slot.symm.trans slot'
        rw [phase_set,if_pos rfl] at awaiting
        simp at awaiting
      · rename_i settled
        obtain ⟨slot',awaiting⟩ := (waiting_some _).mp waits
        cases slot.symm.trans slot'
        exact settled awaiting
    · rename_i slot
      cases slot.symm.trans ((waiting_some _).mp waits).1

theorem handle_numbered {x : Reauth τ} (accepted : Bool) (acknowledged : ∀ i ∈ x.acknowledged, i < x.calls.length)
    (unanswered : ∀ i ∈ x.unanswered, i < x.calls.length) : Numbered (handleReauth x accepted) := by
  have size : (handleReauth x accepted).calls.length = x.calls.length := by
    unfold handleReauth
    split
    · split <;> simp [setPhase]
    · rfl
  have same : (handleReauth x accepted).acknowledged = x.acknowledged := by
    unfold handleReauth
    split
    · split <;> rfl
    · rfl
  refine ⟨?_,?_,fun j waits => by cases (handle_waiting x accepted).symm.trans waits⟩
  · rw [size,same]; exact acknowledged
  · rw [size,handle_unanswered]; exact unanswered

theorem step_numbered (x : Reauth τ) (a : ReauthAction τ) (t : Reauth τ) (numbered : Numbered x)
    (step : reauthStep x a = some t) : Numbered t := by
  cases a with
  | connect => cases step; exact ⟨numbered.acknowledged,nofun,numbered.waiting⟩
  | disconnect => cases step; exact ⟨numbered.acknowledged,nofun,numbered.waiting⟩
  | reauth token => cases step; exact reauth_numbered token numbered
  | fail i =>
    simp only [reauthStep] at step
    split at step <;> cases step
    have settled : Phase.raised ≠ .awaiting := nofun
    have raised := set_numbered i numbered settled
    exact raised.cleared
  | expire i => simp only [reauthStep] at step; split at step <;> cases step <;> exact set_numbered i numbered nofun
  | answer accepted =>
    simp only [reauthStep] at step
    split at step <;> cases step
    rename_i r rest front
    have asked := numbered.unanswered
    rw [front] at asked
    refine handle_numbered accepted ?_ fun i member => asked i (List.mem_cons_of_mem _ member)
    intro i member
    dsimp only at member
    split at member
    · rcases List.mem_cons.mp member with new | old
      · subst new; exact asked i List.mem_cons_self
      · exact numbered.acknowledged i old
    · exact numbered.acknowledged i member
  | resume i =>
    simp only [reauthStep] at step
    split at step
    · rename_i call found
      have settled : t = settleCall x i call := by split at step <;> cases step <;> rfl
      subst settled
      exact settle_numbered i call numbered
    · cases step

theorem handle_waits {x : Reauth τ} (slot : x.ack = some j) (awaiting : x.phase? j = some .awaiting) :
    handleReauth x accepted = setPhase x j (.resolved accepted) := by
  simp only [handleReauth,slot,awaiting,if_true]

-- The condition is exact: the call that waits needs only to run on to report a success of its own.
theorem mispaired_reports (numbered : Numbered x) (step : reauthStep x a = some t) (mispaired : ¬ Paired x a) :
    ∃ j u, reauthStep t (.resume j) = some u ∧ ¬ Reported u := by
  cases a with
  | answer accepted =>
    cases accepted with
    | false => exact absurd trivial mispaired
    | true =>
      cases waits : x.waiting with
      | none => exact absurd (.inl waits) mispaired
      | some j =>
        cases front : x.unanswered with
        | nil => simp [reauthStep,front] at step
        | cons r rest =>
          obtain ⟨slot,awaiting⟩ := (waiting_some x).mp waits
          have other : j ≠ r := fun same => mispaired (.inr (by rw [waits,front,same]; rfl))
          obtain ⟨call,found,_⟩ := Option.map_eq_some_iff.mp awaiting
          have resolved : t = setPhase {x with unanswered := rest,acknowledged := r :: x.acknowledged} j (.resolved true) := by
            have answered : handleReauth {x with unanswered := rest,acknowledged := r :: x.acknowledged} true =
                setPhase {x with unanswered := rest,acknowledged := r :: x.acknowledged} j (.resolved true) :=
              handle_waits slot awaiting
            simp only [reauthStep,front,if_true] at step
            exact (Option.some.inj step).symm.trans answered
          have held : t.calls[j]? = some {call with phase := .resolved true} := by
            simp [resolved,setPhase,found]
          refine ⟨j,settleCall t j {call with phase := .resolved true},by simp [reauthStep,held],?_⟩
          intro reported
          have own := reported j (by simp [settleCall,setPhase,Reauth.phase?,held])
          rcases List.mem_cons.mp (show j ∈ r :: x.acknowledged by simpa [settleCall,setPhase,resolved] using own) with same | old
          · exact other same
          · exact numbered.waiting j waits old
  | _ => exact absurd trivial mispaired

theorem mispaired_run_reports (auth : AuthMethod τ) (path : run reauthStep (.initial auth) actions = some x)
    (step : reauthStep x a = some t) (mispaired : ¬ Paired x a) : ∃ j u, reauthStep t (.resume j) = some u ∧ ¬ Reported u := by
  have first : Numbered (.initial auth : Reauth τ) := by
    refine ⟨?_,?_,?_⟩
    · intro i member
      cases member
    · intro i member
      cases member
    · intro j waits
      cases ((waiting_some _).mp waits).1
  exact mispaired_reports (run_always (always_of_invariant first step_numbered) path) step mispaired

-- No call is made while the daemon has a request of the connection to answer.
def Alone (x : Reauth τ) : ReauthAction τ → Prop
  | .reauth _ => x.connected = true → x.unanswered = []
  | _ => True

def OneUnanswered (x : Reauth τ) : Prop :=
  x.unanswered = [] ∨ ∃ r, x.unanswered = [r] ∧ ∀ j, x.ack = some j → j = r

theorem settle_unanswered (x : Reauth τ) (i : Nat) (call : Call τ) :
    (settleCall x i call).unanswered = x.unanswered ∧ (settleCall x i call).ack = none := by
  unfold settleCall
  dsimp only
  split <;> exact ⟨rfl,rfl⟩

theorem OneUnanswered.cleared (one : OneUnanswered x) (unanswered : t.unanswered = x.unanswered) (ack : t.ack = none) :
    OneUnanswered t := by
  rcases one with none | ⟨r,single,_⟩
  · exact .inl (unanswered.trans none)
  · exact .inr ⟨r,unanswered.trans single,fun j held => by cases ack.symm.trans held⟩

theorem alone_one_unanswered (x : Reauth τ) (a : ReauthAction τ) (t : Reauth τ) (one : OneUnanswered x)
    (step : reauthStep x a = some t) (alone : Alone x a) : OneUnanswered t := by
  cases a with
  | connect => cases step; exact .inl rfl
  | disconnect => cases step; exact .inl rfl
  | reauth token =>
    cases step
    unfold reauth
    split
    · rename_i connected
      have idle : x.unanswered = [] := alone connected
      exact .inr ⟨x.calls.length,by simp [idle],fun j held => (Option.some.inj held).symm⟩
    · exact one.cleared rfl rfl
  | fail i => simp only [reauthStep] at step; split at step <;> cases step; exact one.cleared rfl rfl
  | expire i => simp only [reauthStep] at step; split at step <;> cases step <;> exact one
  | answer accepted =>
    simp only [reauthStep] at step
    split at step <;> cases step
    rename_i r rest front
    rcases one with none | ⟨single,at_front,_⟩
    · cases front.symm.trans none
    · have empty : rest = [] := by
        rw [front] at at_front
        exact (List.cons.inj at_front).2
      exact .inl (by rw [handle_unanswered]; exact empty)
  | resume i =>
    simp only [reauthStep] at step
    split at step
    · rename_i call found
      have settled : t = settleCall x i call := by split at step <;> cases step <;> rfl
      subst settled
      exact one.cleared (settle_unanswered x i call).1 (settle_unanswered x i call).2
    · cases step

-- The late acknowledgement of a call that timed out counts as overlapping.
theorem alone_paired (auth : AuthMethod τ) (actions : List (ReauthAction τ))
    (alone : Every reauthStep (fun x a _ => Alone x a) (.initial auth) actions) :
    Every reauthStep (fun x a _ => Paired x a) (.initial auth) actions := by
  refine every_of_every OneUnanswered (.inl rfl) alone_one_unanswered ?_ alone
  intro x a t one step _
  cases a with
  | answer accepted =>
    cases accepted with
    | false => trivial
    | true =>
      cases waiting : x.waiting with
      | none => exact .inl waiting
      | some j =>
        refine .inr ?_
        rcases one with none | ⟨r,single,latest⟩
        · simp [reauthStep,none] at step
        · rw [waiting,single,latest j ((waiting_some x).mp waiting).1]
          rfl
  | _ => trivial

end LoomClient.Transport
