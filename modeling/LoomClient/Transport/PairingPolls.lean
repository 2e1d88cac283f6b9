import LoomClient.Lib.Transition
import LoomClient.Transport.Pairing

namespace LoomClient.Transport
open Lib

structure BoxPairingResult where
  state : Text
  token : Text
  name : Text
  scopes : List Text

inductive PollEnd (α : Type) where
  | again
  | returned (result : α)
  | raised (e : ExceptionClass)

structure Polled (α : Type) where
  reveals : Bool
  ended : PollEnd α

def PollEnd.isAgain : PollEnd α → Bool
  | .again => true
  | _ => false

def pending : Text := text "pending"
def approved : Text := text "approved"

def terminal : List Text := [approved,text "rejected",text "expired"]

section Polls
variable {φ : Type} (g : RestConfig) (r : Reading φ)

-- A pass of `PairingSession._poll`. The body is read before the status is looked at.
def daemonPoll : Exchange → Polled PairingResult
  | .failed _ => ⟨false,.raised .loomTransportError⟩
  | .answered status contentType body => match asTransportError (readJson r contentType body) with
    | .error e => ⟨false,.raised e⟩
    | .ok payload =>
      if status ≠ 200 then
        let error := daemonRefusal g payload
        if error.isA .loomPairingSlowDownError then ⟨false,.again⟩ else ⟨false,.raised error⟩
      else match r.result payload with
      | none => ⟨true,.raised .validationError⟩
      | some result => if result.state ≠ pending then ⟨true,.returned result⟩ else ⟨true,.again⟩

-- `_error_code`
def errorCode : Json → Text
  | .obj entries => match Json.get? entries "error" with
    | some (.str code) => code.take 64
    | _ => []
  | _ => []

-- A member of a payload that may be anything.
def memberOf (payload : Json) (key : String) : Json := match payload with
  | .obj entries => (Json.get? entries key).getD .null
  | _ => .null

-- `_result`. The text of an unknown state goes into the message.
def boxResult (state payload : Json) : PollEnd BoxPairingResult := match state with
  | .str written =>
    if written ∈ terminal then
      if written ≠ approved then .returned {state := written,token := [],name := [],scopes := []}
      else match memberOf payload "token" with
      | .str [] => .raised .loomBoxPairingError
      | .str token => match strOf r (orEmpty r (some (memberOf payload "name"))) with
        | .error e => .raised e.kind
        | .ok name =>
          let scopes := match memberOf payload "scopes" with
            | .arr items => items.filterMap fun item => match item with
              | .str scope => some scope
              | _ => none
            | _ => []
          .returned {state := written,token,name,scopes}
      | _ => .raised .loomBoxPairingError
    else .raised .loomBoxPairingError
  | other => match r.str other with
    | .error e => .raised e.kind
    | .ok _ => .raised .loomBoxPairingError

-- A pass of `BoxPairingSession.wait`
def boxPoll (x : Exchange) : Polled BoxPairingResult := match boxRead g x with
  | .error e => ⟨false,.raised e⟩
  | .ok (status,payload) =>
    if status = 429 ∧ errorCode payload = text "slow_down" then ⟨false,.again⟩
    else if status ≠ 200 then ⟨false,.raised .loomBoxPairingError⟩
    else
      let state := memberOf payload "state"
      ⟨true,if state.isText "pending" then .again else boxResult r state payload⟩

end Polls

structure Polling where
  revealed : Bool
  params : Option Bool
  answered : Bool
  deriving DecidableEq

def freshSession : Polling := ⟨false,none,false⟩

-- A poll comes with its answer; a wait can be cancelled at any point of its loop.
inductive PollAction where
  | wait
  | poll (x : Exchange)
  | cancelled

def isOk200 : Exchange → Bool
  | .failed _ => false
  | .answered status .. => status = 200

def Polling.carries (x : Polling) : Bool := x.params.getD !x.revealed

section Machine
variable (poll : Exchange → Polled α) (renew : Bool → Polling → Bool)

-- `renew` is what the next pass of the same wait sends, given what this one sent.
def waitStep (x : Polling) : PollAction → Option Polling
  | .wait => match x.params with
    | some _ => none
    | none => some {x with params := some !x.revealed}
  | .cancelled => match x.params with
    | none => none
    | some _ => some {x with params := none}
  | .poll a => match x.params with
    | none => none
    | some sent =>
      let y : Polling := ⟨x.revealed || (poll a).reveals,none,x.answered || isOk200 a⟩
      some (if (poll a).ended.isAgain then {y with params := some (renew (sent && !(poll a).reveals) y)} else y)

end Machine

section Variants
variable {φ : Type} (g : RestConfig) (r : Reading φ)

-- The daemon variant takes the nonce out of the parameters of the wait, the box variant makes them anew.
def daemonStep : Polling → PollAction → Option Polling := waitStep (daemonPoll g r) fun left _ => left

def boxStep : Polling → PollAction → Option Polling := waitStep (boxPoll g r) fun _ x => !x.revealed

-- The nonce goes out exactly where no poll before was answered with 200.
def PollRight (poll : Exchange → Polled α) (state : α → Text) (x : Polling) : PollAction → Prop
  | .poll a => x.carries = !x.answered ∧ ∀ result, (poll a).ended = .returned result → state result ∈ terminal
  | _ => True

def RevealedOnce (poll : Exchange → Polled α) (state : α → Text) (x : Polling) (a : PollAction) (y : Polling) : Prop :=
  PollRight poll state x a ∧ y.carries = !y.answered

-- The first answer of status 200 has a body that can be decoded.
def DaemonSound (x : Polling) : PollAction → Prop
  | .poll (.answered status contentType body) => status = 200 →
    (x.revealed = false → (readJson r contentType body).isOk = true) ∧
      ∀ payload result, readJson r contentType body = .ok payload → r.result payload = some result →
        result.state ≠ pending → result.state ∈ terminal
  | _ => True

-- The box variant takes a body that is no JSON for an answer.
def BoxSound (x : Polling) : PollAction → Prop
  | .poll (.answered status _ body) => status = 200 → x.revealed = false →
    ∃ raw, body.read = .ok raw ∧ Readable g raw
  | _ => True

end Variants

def Settled (x : Polling) : Prop := x.revealed = x.answered ∧ ∀ sent, x.params = some sent → sent = !x.revealed

section Machine
variable {poll : Exchange → Polled α} {renew : Bool → Polling → Bool} {state : α → Text}

theorem polled_carries (follows : ∀ sent, Polling.params y = some sent → sent = !y.revealed) : y.carries = !y.revealed := by
  unfold Polling.carries
  cases params : y.params with
  | none => rfl
  | some sent => exact follows sent params

theorem settled_carries (settled : Settled x) : x.carries = !x.answered := by
  rw [← settled.1]
  exact polled_carries settled.2

theorem poll_leaves (renews : ∀ y : Polling, renew (!y.revealed) y = !y.revealed) (settled : Settled x)
    (step : waitStep poll renew x (.poll a) = some y) :
    y.revealed = (x.revealed || (poll a).reveals) ∧ y.answered = (x.answered || isOk200 a) ∧
      ∀ sent, y.params = some sent → sent = !y.revealed := by
  unfold waitStep at step
  cases params : x.params with
  | none => simp [params] at step
  | some sent =>
    obtain rfl := settled.2 sent params
    simp only [params,← Bool.not_or,Option.some.injEq] at step
    split at step
    · rw [← step]
      refine ⟨rfl,rfl,fun later given => ?_⟩
      rw [← Option.some.inj given]
      exact renews ⟨x.revealed || (poll a).reveals,none,x.answered || isOk200 a⟩
    · rw [← step]
      exact ⟨rfl,rfl,fun later given => nomatch given⟩

theorem quiet_settled (settled : Settled x) (quiet : ∀ e, a ≠ .poll e) (step : waitStep poll renew x a = some y) :
    Settled y := by
  cases a with
  | poll e => exact (quiet e rfl).elim
  | wait =>
    simp only [waitStep] at step
    split at step
    · cases step
    · cases step
      exact ⟨settled.1,fun sent given => (Option.some.inj given).symm⟩
  | cancelled =>
    simp only [waitStep] at step
    split at step
    · cases step
    · cases step
      exact ⟨settled.1,fun sent given => nomatch given⟩

theorem settled_kept (renews : ∀ y : Polling, renew (!y.revealed) y = !y.revealed) (settled : Settled x)
    (step : waitStep poll renew x a = some y) (right : y.carries = !y.answered) : Settled y := by
  cases a with
  | poll e =>
    obtain ⟨-,-,follows⟩ := poll_leaves renews settled step
    rw [polled_carries follows] at right
    exact ⟨Bool.not_inj right,follows⟩
  | wait => exact quiet_settled settled (by intro e same; cases same) step
  | cancelled => exact quiet_settled settled (by intro e same; cases same) step

theorem revealed_once_iff (renews : ∀ y : Polling, renew (!y.revealed) y = !y.revealed) (settled : Settled x)
    (step : waitStep poll renew x (.poll a) = some y) :
    RevealedOnce poll state x (.poll a) y ↔ (x.revealed = false → (poll a).reveals = isOk200 a) ∧
      ∀ result, (poll a).ended = .returned result → state result ∈ terminal := by
  obtain ⟨revealed,answered,follows⟩ := poll_leaves renews settled step
  have carries := polled_carries follows
  have next : (y.carries = !y.answered) ↔ (x.revealed = false → (poll a).reveals = isOk200 a) := by
    rw [carries,revealed,answered,← settled.1]
    cases x.revealed <;> simp
  unfold RevealedOnce PollRight
  rw [next]
  constructor
  · intro right
    exact ⟨right.2,right.1.2⟩
  · intro sound
    exact ⟨⟨settled_carries settled,sound.2⟩,sound.1⟩

theorem quiet_right (settled : Settled x) (quiet : ∀ e, a ≠ .poll e) (step : waitStep poll renew x a = some y) :
    RevealedOnce poll state x a y := by
  refine ⟨?_,settled_carries (quiet_settled settled quiet step)⟩
  cases a with
  | poll e => exact (quiet e rfl).elim
  | _ => trivial

end Machine

theorem transport_error (e : ExceptionClass) :
    ∃ raised, asTransportError (.error e : Except ExceptionClass α) = .error raised := ⟨_,rfl⟩

theorem daemon_sound_iff (g : RestConfig) (r : Reading φ) (x : Polling) (a : Exchange) :
    ((x.revealed = false → (daemonPoll g r a).reveals = isOk200 a) ∧
      ∀ result, (daemonPoll g r a).ended = .returned result → result.state ∈ terminal) ↔ DaemonSound r x (.poll a) := by
  cases a with
  | failed failure =>
    refine iff_of_true ⟨fun _ => rfl,fun result returned => ?_⟩ trivial
    cases returned
  | answered status contentType body =>
    simp only [DaemonSound,isOk200]
    by_cases ok : status = 200
    · subst ok
      simp only [true_implies,decide_true]
      cases read : readJson r contentType body with
      | error e =>
        have polled : ∃ raised, daemonPoll g r (.answered 200 contentType body) = ⟨false,.raised raised⟩ := by
          obtain ⟨raised,given⟩ := transport_error (α := Json) e
          exact ⟨raised,by simp only [daemonPoll,read,given]⟩
        obtain ⟨raised,polled⟩ := polled
        simp [polled,Except.isOk,Except.toBool]
      | ok payload =>
        have polled : daemonPoll g r (.answered 200 contentType body) = (match r.result payload with
            | none => ⟨true,.raised .validationError⟩
            | some result => if result.state ≠ pending then ⟨true,.returned result⟩ else ⟨true,.again⟩) := by
          simp only [daemonPoll,read]
          rfl
        have decodes : (x.revealed = false → (Except.ok payload : Except ExceptionClass Json).isOk = true) ↔ True :=
          iff_of_true (fun _ => rfl) trivial
        rw [polled,decodes,true_and]
        constructor
        · intro right other result same validated unknown
          cases same
          refine right.2 result ?_
          rw [validated]
          simp only [ne_eq,unknown,not_false_eq_true,if_true]
        · intro known
          cases validated : r.result payload with
          | none =>
            refine ⟨fun _ => rfl,fun result returned => ?_⟩
            cases returned
          | some result =>
            by_cases waits : result.state = pending
            · simp [waits]
            · simpa [waits] using known payload result rfl validated waits
    · refine iff_of_true ⟨fun _ => ?_,fun result returned => ?_⟩ (fun same => (ok same).elim)
      · simp only [daemonPoll,ok,not_false_eq_true,if_true,ne_eq,decide_false]
        split
        · rfl
        · split <;> rfl
      · simp only [daemonPoll,ok,not_false_eq_true,if_true,ne_eq] at returned
        split at returned
        · cases returned
        · split at returned <;> cases returned

theorem box_result_terminal {r : Reading φ} (returned : boxResult r state payload = .returned result) :
    result.state ∈ terminal := by
  unfold boxResult at returned
  split at returned
  · split at returned
    · rename_i known
      split at returned
      · cases returned
        exact known
      · split at returned
        · cases returned
        · split at returned
          · cases returned
          · cases returned
            exact known
        · cases returned
    · cases returned
  · split at returned <;> cases returned

theorem box_poll_raises {g : RestConfig} {r : Reading φ} (raised : boxRead g a = .error e) :
    boxPoll g r a = ⟨false,.raised e⟩ := by
  simp only [boxPoll,raised]

theorem box_poll_reveals {g : RestConfig} {r : Reading φ} (answered : boxRead g a = .ok (200,payload)) :
    (boxPoll g r a).reveals = true ∧ ∀ result, (boxPoll g r a).ended = .returned result → result.state ∈ terminal := by
  have other : ¬(200 = 429 ∧ errorCode payload = text "slow_down") := fun both => absurd both.1 (by decide)
  simp only [boxPoll,answered,other,if_false,ne_eq,not_true_eq_false,true_and]
  intro result returned
  split at returned
  · cases returned
  · exact box_result_terminal returned

theorem box_poll_refused {g : RestConfig} {r : Reading φ} (answered : boxRead g a = .ok (status,payload)) (refused : status ≠ 200) :
    (boxPoll g r a).reveals = false ∧ ∀ result, (boxPoll g r a).ended ≠ .returned result := by
  simp only [boxPoll,answered,refused,ne_eq,not_false_eq_true,if_true]
  split
  · exact ⟨rfl,fun result => by simp⟩
  · exact ⟨rfl,fun result => by simp⟩

theorem box_sound_iff (g : RestConfig) (r : Reading φ) (x : Polling) (a : Exchange) :
    ((x.revealed = false → (boxPoll g r a).reveals = isOk200 a) ∧
      ∀ result, (boxPoll g r a).ended = .returned result → result.state ∈ terminal) ↔ BoxSound g x (.poll a) := by
  have raising : ∀ e, boxRead g a = .error e → (((x.revealed = false → (boxPoll g r a).reveals = isOk200 a) ∧
      ∀ result, (boxPoll g r a).ended = .returned result → result.state ∈ terminal) ↔
        (x.revealed = false → isOk200 a = false)) := by
    intro e raised
    rw [box_poll_raises raised]
    constructor
    · intro right unrevealed
      exact (right.1 unrevealed).symm
    · intro quiet
      refine ⟨fun unrevealed => (quiet unrevealed).symm,fun result returned => ?_⟩
      cases returned
  cases a with
  | failed failure =>
    rw [raising .loomTransportError (by rw [boxRead,connection_is_transport])]
    exact iff_of_true (fun _ => rfl) trivial
  | answered status contentType body =>
    simp only [BoxSound]
    have unrevealed : ∀ {prop : Prop}, ¬prop →
        ((x.revealed = false → isOk200 (.answered status contentType body) = false) ↔
          (status = 200 → x.revealed = false → prop)) := by
      intro prop broken
      constructor
      · intro quiet ok fresh
        rw [show isOk200 (.answered status contentType body) = true from decide_eq_true ok] at quiet
        cases quiet fresh
      · intro sound fresh
        exact decide_eq_false fun ok => broken (sound ok fresh)
    cases read : body.read with
    | error failure =>
      rw [raising .loomTransportError (box_read_broken read)]
      refine unrevealed (fun decodes => ?_)
      obtain ⟨raw,given,-⟩ := decodes
      cases given
    | ok raw =>
      cases decoded : payloadOf g raw with
      | error refusal =>
        have unreadable : ¬Readable g raw := by simp [Readable,decoded,Except.isOk,Except.toBool]
        rw [raising _ (box_read_refused read decoded)]
        refine unrevealed (fun decodes => ?_)
        obtain ⟨other,given,readable⟩ := decodes
        rw [← Except.ok.inj given] at readable
        exact unreadable readable
      | ok payload =>
        have readable : Readable g raw := by simp [Readable,decoded,Except.isOk,Except.toBool]
        have answered : boxRead g (.answered status contentType body) = .ok (status,payload) := box_read_done read decoded
        refine iff_of_true ?_ (fun _ _ => ⟨raw,rfl,readable⟩)
        by_cases ok : status = 200
        · subst ok
          obtain ⟨reveals,returns⟩ := box_poll_reveals (r := r) answered
          exact ⟨fun _ => reveals,returns⟩
        · obtain ⟨kept,never⟩ := box_poll_refused (r := r) answered ok
          refine ⟨fun _ => ?_,fun result returned => (never result returned).elim⟩
          rw [kept]
          exact (decide_eq_false ok).symm

theorem revealed_once_of {poll : Exchange → Polled α} {renew : Bool → Polling → Bool} {state : α → Text}
    {sound : Polling → PollAction → Prop} (renews : ∀ y : Polling, renew (!y.revealed) y = !y.revealed)
    (quiet : ∀ x a, (∀ e, a ≠ .poll e) → sound x a)
    (each : ∀ x e, ((x.revealed = false → (poll e).reveals = isOk200 e) ∧
      ∀ result, (poll e).ended = .returned result → state result ∈ terminal) ↔ sound x (.poll e)) (actions : List PollAction) :
    Every (waitStep poll renew) (RevealedOnce poll state) freshSession actions ↔
      Every (waitStep poll renew) (fun x a _ => sound x a) freshSession actions := by
  have agree : ∀ x a y, Settled x → waitStep poll renew x a = some y → (RevealedOnce poll state x a y ↔ sound x a) := by
    intro x a y settled step
    cases a with
    | poll e => rw [revealed_once_iff renews settled step,each]
    | wait =>
      have other : ∀ e, PollAction.wait ≠ .poll e := by intro e same; cases same
      exact iff_of_true (quiet_right settled other step) (quiet x _ other)
    | cancelled =>
      have other : ∀ e, PollAction.cancelled ≠ .poll e := by intro e same; cases same
      exact iff_of_true (quiet_right settled other step) (quiet x _ other)
  refine every_congr_while Settled ⟨rfl,fun sent given => nomatch given⟩ (fun x a y settled step met => ?_) agree
  exact settled_kept renews settled step ((agree x a y settled step).mpr met).2

theorem nonce_revealed_once_iff (g : RestConfig) (r : Reading φ) :
    (∀ actions, Every (daemonStep g r) (RevealedOnce (daemonPoll g r) PairingResult.state) freshSession actions ↔
      Every (daemonStep g r) (fun x a _ => DaemonSound r x a) freshSession actions) ∧
    (∀ actions, Every (boxStep g r) (RevealedOnce (boxPoll g r) BoxPairingResult.state) freshSession actions ↔
      Every (boxStep g r) (fun x a _ => BoxSound g x a) freshSession actions) := by
  constructor
  · intro actions
    refine revealed_once_of (fun _ => rfl) (fun x a quiet => ?_) (fun x e => daemon_sound_iff g r x e) actions
    cases a with
    | poll e => exact (quiet e rfl).elim
    | _ => trivial
  · intro actions
    refine revealed_once_of (fun _ => rfl) (fun x a quiet => ?_) (fun x e => box_sound_iff g r x e) actions
    cases a with
    | poll e => exact (quiet e rfl).elim
    | _ => trivial

-- The body of the first answer breaks off behind its header, and the caller waits again.
def brokenOff : Exchange := .answered 200 "application/json" ⟨[],some .clientError⟩

theorem nonce_revealed_again :
    ¬Every (daemonStep plainConfig plainReading) (fun x a _ => PollRight (daemonPoll plainConfig plainReading) PairingResult.state x a)
      freshSession [.wait,.poll brokenOff,.wait,.poll brokenOff] := by
  intro every
  have again := every.2.2.2.1.1
  cases again

end LoomClient.Transport
