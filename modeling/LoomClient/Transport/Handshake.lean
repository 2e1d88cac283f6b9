import LoomClient.Lib.Json
import LoomClient.Lib.Transition
import LoomClient.Transport.Failures
import Mathlib.Data.List.Basic

namespace LoomClient.Transport
open Lib

structure Info where
  version : Text
  capabilities : List Text
  deriving DecidableEq

-- A session is a number; it is closed when it is not among the open ones.
structure RestTransport where
  external : Option Nat
  session : Option Nat
  openSessions : List Nat
  info : Option Info
  requiredCapabilities : List Text
  deriving DecidableEq

def RestTransport.isConnected (x : RestTransport) : Bool := x.session.any (x.openSessions.contains ·)

def RestTransport.newSession (x : RestTransport) : Nat := x.openSessions.foldr max (x.external.getD 0) + 1

-- How an awaited `session.close()` ends. One that is interrupted may have closed it.
inductive Closing where
  | completed
  | interrupted (e : ExceptionClass) (shut : Bool)

def RestTransport.shut (x : RestTransport) (session : Nat) : RestTransport :=
  {x with openSessions := x.openSessions.filter (· ≠ session)}

section Handshake
variable (validate : Json → Except ExceptionClass Info)

-- `_report_api_version` splits whatever `api_version` is, and only logs.
def reportApiVersion : Json → Option ExceptionClass
  | .obj payload => match (Json.get? payload "api_version").getD (.str []) with
    | .str _ => none
    | _ => some .attributeError
  | _ => none

def readInfo (outcome : Except ExceptionClass Json) : Except ExceptionClass Info := do
  let payload ← outcome
  match reportApiVersion payload with
  | some e => .error e
  | none => validate payload

def missing (required : List Text) (i : Info) : List Text := required.filter (· ∉ i.capabilities)

-- The second value is the session this call created and owns.
def connectBegin (x : RestTransport) (required : List Text) : RestTransport × Option Nat :=
  let y := {x with requiredCapabilities := required}
  if y.isConnected then (y,none)
  else match y.external with
    | some supplied => ({y with session := some supplied},none)
    | none => ({y with session := some y.newSession,openSessions := y.newSession :: y.openSessions},some y.newSession)

def connectRead (x : RestTransport) (outcome : Except ExceptionClass Json) : RestTransport × Except ExceptionClass Info :=
  match readInfo validate outcome with
  | .error e => (x,.error e)
  | .ok i =>
    let y := {x with info := some i}
    if missing y.requiredCapabilities i = [] then (y,.ok i) else (y,.error .loomIncompatibleVersionError)

def cleansUp (x : RestTransport) (created : Option Nat) : Option Nat := if created.isSome then x.session else none

def RestTransport.cleared (x : RestTransport) : RestTransport := {x with session := none,info := none}

-- The fields are reset behind the close, which therefore has to complete.
def closeEnded (x : RestTransport) (session : Nat) : Closing → RestTransport
  | .completed => (x.shut session).cleared
  | .interrupted _ shut => if shut then x.shut session else x

def raisedAfter (e : ExceptionClass) : Closing → ExceptionClass
  | .completed => e
  | .interrupted other _ => other

-- With nothing else running: the outcome of its read, and how the close of its clean-up ends.
def connect (x : RestTransport) (required : List Text) (outcome : Except ExceptionClass Json) (closing : Closing) :
    RestTransport × Except ExceptionClass Info :=
  let (y,created) := connectBegin x required
  let (z,result) := connectRead validate y (if y.isConnected then outcome else .error .loomTransportError)
  match result with
  | .ok i => (z,.ok i)
  | .error e => match cleansUp z created with
    | some session => (closeEnded z session closing,.error (raisedAfter e closing))
    | none => ({z with info := none},.error e)

end Handshake

-- Its own session closed and gone, the sessions of others as they were, and no info.
structure FailsCleanly (x : RestTransport) (required : List Text) (y : RestTransport) : Prop where
  own : ∀ n, (connectBegin x required).2 = some n → n ∉ y.openSessions ∧ y.session = none
  others : ∀ n ∈ x.openSessions, n ∈ y.openSessions
  existing : x.isConnected = true → y.session = x.session
  supplied : ∀ e, x.external = some e → x.isConnected = true ∨ y.session = some e
  info : y.info = none

def opensOwn (x : RestTransport) : Bool := x.external.isNone && !x.isConnected

def refuses (validate : Json → Except ExceptionClass Info) (required : List Text) (outcome : Except ExceptionClass Json) : Bool :=
  match readInfo validate outcome with
  | .error _ => true
  | .ok i => decide (missing required i ≠ [])

def Closing.isCompleted : Closing → Bool
  | .completed => true
  | .interrupted .. => false

section Connect
variable {validate : Json → Except ExceptionClass Info}

theorem new_session_fresh (x : RestTransport) : x.newSession ∉ x.openSessions := by
  have bound : ∀ (sessions : List Nat) (start n : Nat), n ∈ sessions → n ≤ sessions.foldr max start := by
    intro sessions start n member
    induction sessions with
    | nil => cases member
    | cons first rest ih =>
      rcases List.mem_cons.mp member with rfl | later
      · exact Nat.le_max_left _ _
      · exact Nat.le_trans (ih later) (Nat.le_max_right _ _)
  intro member
  have below := bound x.openSessions (x.external.getD 0) _ member
  unfold RestTransport.newSession at below
  omega

theorem connect_read_frame (validate : Json → Except ExceptionClass Info) (x : RestTransport) (outcome : Except ExceptionClass Json) :
    ∃ info, (connectRead validate x outcome).1 = {x with info} := by
  unfold connectRead
  split
  · exact ⟨x.info,rfl⟩
  · rename_i i read
    refine ⟨some i,?_⟩
    dsimp only
    split <;> rfl

theorem connect_read_fails (validate : Json → Except ExceptionClass Info) (x : RestTransport) (outcome : Except ExceptionClass Json) :
    (∃ e, (connectRead validate x outcome).2 = .error e) ↔ refuses validate x.requiredCapabilities outcome = true := by
  unfold connectRead refuses
  split
  · simp
  · rename_i i read
    dsimp only
    split
    · rename_i whole
      simp [whole]
    · rename_i lacking
      simp [lacking]

theorem begin_connected (connected : x.isConnected = true) (required : List Text) :
    connectBegin x required = ({x with requiredCapabilities := required},none) := by
  simp only [connectBegin]
  exact if_pos connected

theorem begin_supplied (closed : x.isConnected = false) (external : x.external = some e) (required : List Text) :
    connectBegin x required = ({x with requiredCapabilities := required,session := some e},none) := by
  simp only [connectBegin,external]
  exact if_neg (by rw [Bool.not_eq_true]; exact closed)

theorem begin_own (closed : x.isConnected = false) (external : x.external = none) (required : List Text) :
    connectBegin x required =
      ({x with
        requiredCapabilities := required
        session := some x.newSession
        openSessions := x.newSession :: x.openSessions},some x.newSession) := by
  unfold connectBegin
  dsimp only
  have still : RestTransport.isConnected {x with requiredCapabilities := required} = false := closed
  rw [still,if_neg Bool.false_ne_true]
  split
  · rename_i e given
    rw [external] at given
    cases given
  · rfl

theorem fails_without_own {y : RestTransport} (begun : connectBegin x required = (y,none))
    (others : y.openSessions = x.openSessions) (existing : x.isConnected = true → y.session = x.session)
    (supplied : ∀ e, x.external = some e → x.isConnected = true ∨ y.session = some e) :
    FailsCleanly x required {y with info := none} where
  own n made := by rw [begun] at made; cases made
  others n member := by simpa only [others] using member
  existing := existing
  supplied := supplied
  info := rfl

theorem fails_with_own {y : RestTransport} (begun : (connectBegin x required).2 = some x.newSession)
    (opened : y.openSessions = x.newSession :: x.openSessions) (closed : x.isConnected = false)
    (external : x.external = none) : FailsCleanly x required (y.shut x.newSession).cleared where
  own n made := by
    rw [begun] at made
    cases made
    exact ⟨by simp [RestTransport.cleared,RestTransport.shut],rfl⟩
  others n member := by
    have older : n ≠ x.newSession := fun same => new_session_fresh x (same ▸ member)
    simp only [RestTransport.cleared,RestTransport.shut,opened,List.mem_filter,List.mem_cons,decide_eq_true_eq]
    exact ⟨.inr member,older⟩
  existing connected := by rw [closed] at connected; cases connected
  supplied e given := by rw [external] at given; cases given
  info := rfl

theorem connect_without_own {y : RestTransport} (begun : connectBegin x required = (y,none))
    (failed : (connect validate x required outcome closing).2 = .error e) :
    (connect validate x required outcome closing).1 = {y with info := none} := by
  obtain ⟨info,stored⟩ := connect_read_frame validate y
    (if y.isConnected then outcome else .error .loomTransportError)
  unfold connect at failed ⊢
  rw [begun] at failed ⊢
  dsimp only at failed ⊢
  split at failed
  · cases failed
  · simp only [cleansUp,Option.isSome_none,Bool.false_eq_true,if_false,stored]

theorem connect_with_own (validate : Json → Except ExceptionClass Info) (outcome : Except ExceptionClass Json)
    (closing : Closing) {y : RestTransport} (begun : connectBegin x required = (y,some n)) (holds : y.session = some n)
    (opened : y.isConnected = true) (needs : y.requiredCapabilities = required) :
    ∃ info, (refuses validate required outcome = true →
        ∃ e, connect validate x required outcome closing = (closeEnded {y with info} n closing,.error e)) ∧
      (refuses validate required outcome = false → ∃ i, (connect validate x required outcome closing).2 = .ok i) := by
  obtain ⟨info,stored⟩ := connect_read_frame validate y outcome
  have fails := connect_read_fails validate y outcome
  rw [needs] at fails
  refine ⟨info,?_,?_⟩
  · intro refused
    obtain ⟨e,raised⟩ := fails.mpr refused
    refine ⟨raisedAfter e closing,?_⟩
    unfold connect
    rw [begun]
    simp only [opened,if_true,raised,cleansUp,Option.isSome_some,stored,holds]
  · intro accepted
    cases result : (connectRead validate y outcome).2 with
    | error e => rw [fails.mp ⟨e,result⟩] at accepted; cases accepted
    | ok i =>
      refine ⟨i,?_⟩
      unfold connect
      rw [begun]
      simp only [opened,if_true,result]

theorem connect_fails_cleanly_iff (x : RestTransport) (required : List Text) (outcome : Except ExceptionClass Json)
    (closing : Closing) :
    (∀ e, (connect validate x required outcome closing).2 = .error e →
      FailsCleanly x required (connect validate x required outcome closing).1) ↔
    (opensOwn x = true → refuses validate required outcome = true → closing.isCompleted = true) := by
  cases connected : x.isConnected with
  | true =>
    have begun := begin_connected connected required
    refine iff_of_true ?_ (fun own => by simp [opensOwn,connected] at own)
    intro e failed
    rw [connect_without_own begun failed]
    exact fails_without_own begun rfl (fun _ => rfl) (fun _ _ => .inl connected)
  | false =>
    cases external : x.external with
    | some supplied =>
      have begun := begin_supplied connected external required
      refine iff_of_true ?_ (fun own => by simp [opensOwn,external] at own)
      intro e failed
      rw [connect_without_own begun failed]
      refine fails_without_own begun rfl (fun open_session => ?_) (fun given same => ?_)
      · rw [connected] at open_session
        cases open_session
      · rw [external] at same
        cases same
        exact .inr rfl
    | none =>
      have begun := begin_own connected external required
      have opens : opensOwn x = true := by simp [opensOwn,external,connected]
      obtain ⟨info,refused,accepted⟩ := connect_with_own validate outcome closing
        begun rfl (by simp [RestTransport.isConnected]) rfl
      rw [opens]
      simp only [true_implies]
      cases verdict : refuses validate required outcome with
      | false =>
        obtain ⟨i,succeeded⟩ := accepted verdict
        refine iff_of_true (fun e failed => ?_) (fun never => nomatch never)
        rw [succeeded] at failed
        cases failed
      | true =>
        obtain ⟨e,ended⟩ := refused verdict
        simp only [ended,true_implies,Except.error.injEq,forall_eq']
        cases closing with
        | completed => exact iff_of_true (fails_with_own (by rw [begun]) rfl connected external) rfl
        | interrupted other shut =>
          refine iff_of_false (fun clean => ?_) (by simp [Closing.isCompleted])
          have gone := (clean.own x.newSession (by rw [begun])).2
          cases shut <;> cases gone

end Connect

-- Its read of `/info`, or the close of a session. A recheck holds the info it found.
inductive HandshakeCall where
  | connecting (created : Option Nat)
  | cleaning (session : Nat)
  | closing (session : Nat)
  | rechecking (previous : Option Info)
  deriving DecidableEq

structure Handshakes where
  transport : RestTransport
  calls : List (Nat × HandshakeCall)

def Handshakes.call? (x : Handshakes) (id : Nat) : Option HandshakeCall := x.calls.lookup id

def Handshakes.without (x : Handshakes) (id : Nat) : List (Nat × HandshakeCall) := x.calls.filter (·.1 ≠ id)

-- `answered` ends the read that a call waits for and `closed` the close.
inductive HandshakeAction where
  | connect (id : Nat) (required : List Text)
  | close (id : Nat)
  | recheck (id : Nat)
  | answered (id : Nat) (outcome : Except ExceptionClass Json)
  | closed (id : Nat) (closing : Closing)

section Calls
variable (validate : Json → Except ExceptionClass Info)

-- The handler of a failed `connect`.
def connectFailed (x : Handshakes) (id : Nat) (created : Option Nat) : Handshakes :=
  match cleansUp x.transport created with
  | some session => ⟨x.transport,(id,.cleaning session) :: x.without id⟩
  | none => ⟨{x.transport with info := none},x.without id⟩

def connectAnswered (x : Handshakes) (id : Nat) (created : Option Nat) (outcome : Except ExceptionClass Json) : Handshakes :=
  let (y,result) := connectRead validate x.transport outcome
  match result with
  | .ok _ => ⟨y,x.without id⟩
  | .error _ => connectFailed {x with transport := y} id created

-- The info is taken over before the capabilities are looked at.
def recheckRead (x : RestTransport) (previous : Option Info) (outcome : Except ExceptionClass Json) :
    RestTransport × Except ExceptionClass Bool :=
  match outcome with
  | .error e => (x,if e.isLoom then .ok false else .error e)
  | .ok payload => match readInfo validate (.ok payload) with
    | .error e => (x,.error e)
    | .ok i =>
      if missing x.requiredCapabilities i = [] then ({x with info := some i},.ok true)
      else ({x with info := previous},.error .loomIncompatibleVersionError)

-- A closed session ends `close` at once, and one of the caller is only let go.
def beginClose (x : Handshakes) (id : Nat) : Handshakes := match x.transport.session with
  | none => x
  | some session =>
    if x.transport.openSessions.contains session then
      if x.transport.external.isSome then {x with transport := x.transport.cleared}
      else {x with calls := (id,.closing session) :: x.calls}
    else x

def handshakeStep (x : Handshakes) : HandshakeAction → Option Handshakes
  | .connect id required => match x.call? id with
    | some _ => none
    | none =>
      let (y,created) := connectBegin x.transport required
      some (if y.isConnected then ⟨y,(id,.connecting created) :: x.calls⟩
        else connectFailed ⟨y,x.calls⟩ id created)
  | .close id => match x.call? id with
    | some _ => none
    | none => some (beginClose x id)
  | .recheck id => match x.call? id with
    | some _ => none
    | none => some (if x.transport.isConnected then {x with calls := (id,.rechecking x.transport.info) :: x.calls} else x)
  | .answered id outcome => match x.call? id with
    | some (.connecting created) => some (connectAnswered validate x id created outcome)
    | some (.rechecking previous) => some ⟨(recheckRead validate x.transport previous outcome).1,x.without id⟩
    | _ => none
  | .closed id closing => match x.call? id with
    | some (.cleaning session) | some (.closing session) => some ⟨closeEnded x.transport session closing,x.without id⟩
    | _ => none

def reportsSuccess : Except ExceptionClass Bool → Bool
  | .ok served => served
  | .error _ => false

-- A recheck that does not report success leaves the info as it was, whoever set it.
def RecheckKept (x : Handshakes) (a : HandshakeAction) (y : Handshakes) : Prop :=
  match a with
  | .answered id outcome => match x.call? id with
    | some (.rechecking previous) =>
      reportsSuccess (recheckRead validate x.transport previous outcome).2 = false → y.transport.info = x.transport.info
    | _ => True
  | _ => True

def lacksCapability (required : List Text) (outcome : Except ExceptionClass Json) : Bool :=
  match readInfo validate outcome with
  | .ok i => decide (missing required i ≠ [])
  | .error _ => false

def RefusedUnchanged (x : Handshakes) : HandshakeAction → Prop
  | .answered id outcome => match x.call? id with
    | some (.rechecking previous) =>
      lacksCapability validate x.transport.requiredCapabilities outcome = true → x.transport.info = previous
    | _ => True
  | _ => True

instance (x : Handshakes) (a : HandshakeAction) (y : Handshakes) : Decidable (RecheckKept validate x a y) := by
  unfold RecheckKept
  split
  · split <;> infer_instance
  · infer_instance

theorem recheck_kept_iff (x : RestTransport) (previous : Option Info) (outcome : Except ExceptionClass Json) :
    (reportsSuccess (recheckRead validate x previous outcome).2 = false →
      (recheckRead validate x previous outcome).1.info = x.info) ↔
    (lacksCapability validate x.requiredCapabilities outcome = true → x.info = previous) := by
  cases outcome with
  | error e => exact iff_of_true (fun _ => rfl) (fun lacks => nomatch lacks)
  | ok payload =>
    cases read : readInfo validate (.ok payload) with
    | error e =>
      refine iff_of_true (fun _ => by simp only [recheckRead,read]) (fun lacks => ?_)
      simp [lacksCapability,read] at lacks
    | ok i =>
      by_cases whole : missing x.requiredCapabilities i = []
      · refine iff_of_true (fun other => ?_) (fun lacks => ?_)
        · simp [recheckRead,read,whole,reportsSuccess] at other
        · simp [lacksCapability,read,whole] at lacks
      · have restored : recheckRead validate x previous (.ok payload) =
            ({x with info := previous},.error .loomIncompatibleVersionError) := by
          simp only [recheckRead,read,whole,if_false]
        have lacks : lacksCapability validate x.requiredCapabilities (.ok payload) = true := by
          simp [lacksCapability,read,whole]
        rw [restored,lacks]
        exact ⟨fun kept _ => (kept rfl).symm,fun unchanged _ => (unchanged rfl).symm⟩

theorem recheck_step_iff (step : handshakeStep validate x a = some y) :
    RecheckKept validate x a y ↔ RefusedUnchanged validate x a := by
  cases a with
  | answered id outcome =>
    simp only [RecheckKept,RefusedUnchanged]
    split
    · rename_i previous waiting
      simp only [handshakeStep,waiting,Option.some.injEq] at step
      rw [← step]
      exact recheck_kept_iff validate x.transport previous outcome
    · exact Iff.rfl
  | _ => exact Iff.rfl

end Calls

theorem handshake_atomic_iff (validate : Json → Except ExceptionClass Info) :
    (∀ x required outcome closing,
      (∀ e, (connect validate x required outcome closing).2 = .error e →
        FailsCleanly x required (connect validate x required outcome closing).1) ↔
      (opensOwn x = true → refuses validate required outcome = true → closing.isCompleted = true)) ∧
    (∀ x actions, Every (handshakeStep validate) (RecheckKept validate) x actions ↔
      Every (handshakeStep validate) (fun x a _ => RefusedUnchanged validate x a) x actions) := by
  refine ⟨connect_fails_cleanly_iff,fun x actions => ?_⟩
  refine every_congr (fun _ => True) trivial (fun _ _ _ _ _ => trivial) ?_
  exact fun x a y _ step => recheck_step_iff validate step

def bareTransport : RestTransport := ⟨none,none,[],none,[]⟩

-- A daemon that names its version and one capability.
def infoOf (version : String) (capabilities : List String) : Info := ⟨text version,capabilities.map text⟩

def twoDaemons : Json → Except ExceptionClass Info
  | .bool true => .ok (infoOf "2" ["rest.v1","history.v1"])
  | _ => .ok (infoOf "1" ["rest.v1"])

-- The old daemon's answer takes the info of the new one away.
def reconnectedDuringRecheck : List HandshakeAction :=
  [.connect 0 [text "rest.v1"],.answered 0 (.ok (.bool false)),.recheck 1,
    .connect 2 [text "history.v1"],.answered 2 (.ok (.bool true)),.answered 1 (.ok (.bool false))]

theorem recheck_revives_info :
    ¬Every (handshakeStep twoDaemons) (RecheckKept twoDaemons) ⟨bareTransport,[]⟩ reconnectedDuringRecheck := by
  decide +kernel

-- A second cancellation during the clean-up leaves the session in place.
example : ∃ e, (connect twoDaemons bareTransport [] (.error .cancelledError) (.interrupted .cancelledError true)) =
    ({bareTransport with session := some 1},.error e) := ⟨_,rfl⟩

end LoomClient.Transport
