import LoomClient.Lib.Sha256
import LoomClient.Transport.RestAnswer

namespace LoomClient.Transport
open Lib

-- `derive_pairing_code`
def derivePairingCode (nonce clientNonce fingerprint : Bytes) : List Char :=
  (Nat.toDigits 10 (fromBigEndian ((sha256 (nonce ++ clientNonce ++ fingerprint)).take 4) % 1000000)).leftpad 6 '0'

theorem code_six_digits (nonce clientNonce fingerprint : Bytes) :
    (derivePairingCode nonce clientNonce fingerprint).length = 6 ∧
      ∀ c ∈ derivePairingCode nonce clientNonce fingerprint, c.isDigit = true := by
  unfold derivePairingCode
  generalize fromBigEndian ((sha256 (nonce ++ clientNonce ++ fingerprint)).take 4) = drawn
  have small : drawn % 1000000 < 10 ^ 6 := Nat.mod_lt _ (by decide)
  have short : (Nat.toDigits 10 (drawn % 1000000)).length ≤ 6 :=
    (Nat.length_toDigits_le_iff (by decide) (by decide)).mpr small
  constructor
  · rw [List.length_leftpad,Nat.max_eq_left short]
  · intro c member
    rcases List.mem_append.mp member with padding | written
    · rw [List.eq_of_mem_replicate padding]
      rfl
    · exact Nat.isDigit_of_mem_toDigits (by decide) (by decide) written

-- A connection without TLS has none, and neither has one that was given back before.
def seenFingerprint : Option Bytes → Bytes
  | none | some [] => []
  | some der => sha256 der

inductive PythonError where
  | valueError
  | jsonDecodeError
  | unicodeDecodeError
  | typeError
  | overflowError
  | recursionError
  deriving DecidableEq, Repr

def PythonError.kind : PythonError → ExceptionClass
  | .valueError => .valueError
  | .jsonDecodeError => .jsonDecodeError
  | .unicodeDecodeError => .unicodeDecodeError
  | .typeError => .typeError
  | .overflowError => .overflowError
  | .recursionError => .recursionError

structure PairingAnswer where
  requestId : Text
  poll : Text
  nonce : Text
  expiresIn : Int
  interval : Int
  fingerprint : Text

-- The state is a tolerant enumeration, which takes any string for a member.
structure PairingResult where
  state : Text
  token : Option Text
  subject : Option Text
  role : Option Text

-- What is not of this package: the conversions of aiohttp, of pydantic and of Python.
structure Reading (φ : Type) where
  json : String → ByteArray → Except PythonError Json
  answer : Json → Option PairingAnswer
  result : Json → Option PairingResult
  truthy : Json → Bool
  str : Json → Except PythonError Text
  int : Json → Except PythonError Int
  float : Json → Except PythonError φ

structure PairingSession (φ : Type) where
  code : List Char
  expiresIn : Int
  answer : PairingAnswer
  clientNonce : Bytes
  interval : φ
  revealed : Bool

structure BoxPairingSession (φ : Type) where
  code : List Char
  expiresIn : Int
  requestId : Text
  poll : Text
  clientNonce : Bytes
  interval : φ
  revealed : Bool

structure Opening where
  peer : Option Bytes
  exchange : Exchange

-- The certificate the daemon names is another one than the connection saw.
def mismatched (reported seen : Bytes) : Bool := reported ≠ [] && seen ≠ [] && reported ≠ seen

def ConnectionFailure.kind : ConnectionFailure → ExceptionClass
  | .clientError => .clientError
  | .timeoutError => .timeoutError

-- `_as_transport_error`, and the handler of the box variant.
def asTransportError (result : Except ExceptionClass α) : Except ExceptionClass α :=
  result.mapError fun e => if e.isA .clientError || e.isA .timeoutError then .loomTransportError else e

def hexBytes (written : Text) : Except ExceptionClass Bytes := match fromHex written with
  | some b => .ok b
  | none => .error .valueError

section Pairing
variable {φ : Type} (g : RestConfig) (r : Reading φ)

def readJson (contentType : String) (body : Body) : Except ExceptionClass Json := match body.read with
  | .error failure => .error failure.kind
  | .ok raw => (r.json contentType raw).mapError PythonError.kind

def daemonRefusal (payload : Json) : ExceptionClass := httpErrorFromProblem (parseProblem g.validate payload)

def requestPairing : Exchange → Except ExceptionClass Json
  | .failed failure => asTransportError (.error failure.kind)
  | .answered status contentType body => asTransportError do
    let payload ← readJson r contentType body
    if status = 202 then .ok payload else .error (daemonRefusal g payload)

-- `PairingSession.withdraw`. The body of an expected answer is not read.
def withdraw : Exchange → Except ExceptionClass Unit
  | .failed failure => asTransportError (.error failure.kind)
  | .answered status contentType body => asTransportError (
    if status = 204 ∨ status = 404 then .ok ()
    else do
      let payload ← readJson r contentType body
      .error (daemonRefusal g payload))

-- The pairing answer of a request, and the fingerprint that it reports.
def openPairing (x : Opening) : Except ExceptionClass (PairingAnswer × Bytes) := do
  let payload ← requestPairing g r x.exchange
  match r.answer payload with
  | none => .error .validationError
  | some answer => do
    let reported ← if answer.fingerprint = [] then .ok [] else hexBytes answer.fingerprint
    .ok (answer,reported)

def intervalOf (answer : PairingAnswer) : Except ExceptionClass φ :=
  (r.float (.int answer.interval)).mapError PythonError.kind

def startPairing (clientNonce : Bytes) (x : Opening) (withdrawal : Exchange) : Except ExceptionClass (PairingSession φ) := do
  let (answer,reported) ← openPairing g r x
  if mismatched reported (seenFingerprint x.peer) then do
    let _ ← intervalOf r answer
    withdraw g r withdrawal
    .error .pairingFingerprintMismatchError
  else do
    let nonce ← hexBytes answer.nonce
    let interval ← intervalOf r answer
    .ok
      {
        code := derivePairingCode nonce clientNonce reported
        expiresIn := answer.expiresIn
        answer
        clientNonce
        interval
        revealed := false
      }

-- The read of the box variant: `_decode` makes None of what is no UTF-8 or no JSON.
def boxRead (x : Exchange) : Except ExceptionClass (Nat × Json) := match x with
  | .failed failure => asTransportError (.error failure.kind)
  | .answered status _ body => asTransportError (match body.read with
    | .error failure => .error failure.kind
    | .ok raw => ((payloadOf g raw).map (status,·)).mapError fun refusal => (RestError.decoder refusal).kind)

-- `BoxPairingSession.withdraw`
def boxWithdraw (x : Exchange) : Except ExceptionClass Unit := do
  let (status,_) ← boxRead g x
  if status = 204 ∨ status = 404 then .ok () else .error .loomBoxPairingError

structure BoxAnswer (φ : Type) where
  requestId : Text
  poll : Text
  nonce : Bytes
  reported : Bytes
  expiresIn : Int
  interval : φ

def strOf : Json → Except PythonError Text
  | .str written => .ok written
  | other => r.str other

def orEmpty (found : Option Json) : Json := match found with
  | some (.str written) => .str written
  | some other => if r.truthy other then other else .str []
  | none => .str []

-- A missing key is a KeyError, and the handler takes a ValueError and a TypeError alike.
def malformed (result : Except PythonError α) : Except ExceptionClass α :=
  result.mapError fun e => if e.kind.isA .valueError || e.kind.isA .typeError then .loomBoxPairingError else e.kind

def required (entries : List (Text × Json)) (key : String) : Except ExceptionClass Text := match Json.get? entries key with
  | none => .error .loomBoxPairingError
  | some value => malformed (strOf r value)

def boxHex (written : Text) : Except ExceptionClass Bytes := match fromHex written with
  | some b => .ok b
  | none => .error .loomBoxPairingError

def boxAnswer : Json → Except ExceptionClass (BoxAnswer φ)
  | .obj entries => do
    let requestId ← required r entries "id"
    let poll ← required r entries "poll"
    let nonce ← required r entries "nonce" >>= boxHex
    let reported ← malformed (strOf r (orEmpty r (Json.get? entries "fingerprint"))) >>= boxHex
    let expiresIn ← malformed (r.int ((Json.get? entries "expires_in").getD (.int 0)))
    let interval ← malformed (r.float ((Json.get? entries "interval").getD (.int 2)))
    .ok {requestId,poll,nonce,reported,expiresIn,interval}
  | _ => .error .loomBoxPairingError

def openBoxPairing (x : Opening) : Except ExceptionClass (BoxAnswer φ) := do
  let (status,payload) ← boxRead g x.exchange
  if status = 202 then boxAnswer r payload else .error .loomBoxPairingError

-- `contextlib.suppress(LoomTransportError, LoomBoxPairingError)`
def suppressed (result : Except ExceptionClass Unit) : Except ExceptionClass Unit := match result with
  | .ok () => .ok ()
  | .error e => if e.isA .loomTransportError || e.isA .loomBoxPairingError then .ok () else .error e

def startBoxPairing (clientNonce : Bytes) (x : Opening) (withdrawal : Exchange) :
    Except ExceptionClass (BoxPairingSession φ) := do
  let answer ← openBoxPairing g r x
  if mismatched answer.reported (seenFingerprint x.peer) then do
    suppressed (boxWithdraw g withdrawal)
    .error .pairingFingerprintMismatchError
  else do
    .ok
      {
        code := derivePairingCode answer.nonce clientNonce answer.reported
        expiresIn := answer.expiresIn
        requestId := answer.requestId
        poll := answer.poll
        clientNonce
        interval := answer.interval
        revealed := false
      }

def withdrawn : Exchange → Bool
  | .failed _ => false
  | .answered status .. => status = 204 || status = 404

-- And what the box variant forgives: all but a body beyond the limits of the decoder.
def forgiven : Exchange → Prop
  | .failed _ => True
  | .answered _ _ body => ∀ raw, body.read = .ok raw → Readable g raw

structure Verified (code : List Char) (nonce clientNonce reported seen : Bytes) : Prop where
  code : code = derivePairingCode nonce clientNonce reported
  certificate : reported ≠ [] → seen ≠ [] → reported = seen

variable {g r}

theorem not_mismatched (same : mismatched reported seen = false) (known : reported ≠ []) (witnessed : seen ≠ []) :
    reported = seen := by
  simpa [mismatched,known,witnessed] using same

theorem connection_is_transport (failure : ConnectionFailure) :
    asTransportError (.error failure.kind : Except ExceptionClass α) = .error .loomTransportError := by
  cases failure <;> rfl

theorem refusal_other (problem : Option Problem) : httpErrorFromProblem problem ≠ .pairingFingerprintMismatchError := by
  unfold httpErrorFromProblem
  split
  · rename_i code named
    cases code with
    | known c => cases c <;> exact fun same => nomatch same
    | minted value => exact fun same => nomatch same
  · exact fun same => nomatch same

theorem python_other (e : PythonError) : e.kind ≠ .pairingFingerprintMismatchError := by
  cases e <;> exact fun same => nomatch same

theorem transport_keeps_other {result : Except ExceptionClass α}
    (other : ∀ e, result = .error e → e ≠ .pairingFingerprintMismatchError) :
    ∀ e, asTransportError result = .error e → e ≠ .pairingFingerprintMismatchError := by
  intro e raised
  cases result with
  | ok value => cases raised
  | error inner =>
    simp only [asTransportError,Except.mapError,Except.error.injEq] at raised
    split at raised
    · rw [← raised]
      exact fun same => nomatch same
    · rw [← raised]
      exact other inner rfl

theorem read_json_other (contentType : String) (body : Body) :
    ∀ e, readJson r contentType body = .error e → e ≠ .pairingFingerprintMismatchError := by
  intro e raised
  unfold readJson at raised
  split at raised
  · rename_i failure read
    cases raised
    cases failure <;> exact fun same => nomatch same
  · rename_i raw read
    cases decoded : r.json contentType raw with
    | ok payload => rw [decoded] at raised; cases raised
    | error inner =>
      rw [decoded] at raised
      cases raised
      exact python_other inner

theorem withdraw_returns_iff (x : Exchange) :
    (withdraw g r x = .ok () ↔ withdrawn x = true) ∧
      ∀ e, withdraw g r x = .error e → e ≠ .pairingFingerprintMismatchError := by
  cases x with
  | failed failure =>
    simp only [withdraw,connection_is_transport,withdrawn]
    exact ⟨by simp,fun e raised => by cases raised; exact fun same => nomatch same⟩
  | answered status contentType body =>
    by_cases expected : status = 204 ∨ status = 404
    · have done : withdraw g r (.answered status contentType body) = .ok () := by
        simp only [withdraw,if_pos expected]
        rfl
      rw [done]
      exact ⟨by simpa [withdrawn] using expected,fun e raised => nomatch raised⟩
    · simp only [withdraw,if_neg expected]
      constructor
      · have unexpected : withdrawn (.answered status contentType body) = false := by
          simpa [withdrawn] using expected
        rw [unexpected]
        cases readJson r contentType body <;> simp [asTransportError,Except.mapError,bind,Except.bind]
      · refine transport_keeps_other (fun e raised => ?_)
        cases read : readJson r contentType body with
        | error inner =>
          rw [read] at raised
          obtain rfl : inner = e := by simpa [bind,Except.bind] using raised
          exact read_json_other contentType body inner read
        | ok payload =>
          rw [read] at raised
          cases raised
          exact refusal_other _

theorem interval_other (answer : PairingAnswer) :
    ∀ e, intervalOf r answer = .error e → e ≠ .pairingFingerprintMismatchError := by
  intro e raised
  unfold intervalOf at raised
  cases converted : r.float (.int answer.interval) with
  | ok interval => rw [converted] at raised; cases raised
  | error inner =>
    rw [converted] at raised
    cases raised
    exact python_other inner

theorem interval_ok_iff (answer : PairingAnswer) :
    (∃ interval, intervalOf r answer = .ok interval) ↔ (r.float (.int answer.interval)).isOk = true := by
  unfold intervalOf
  cases r.float (.int answer.interval) <;> simp [Except.mapError,Except.isOk,Except.toBool]

theorem daemon_alarm_iff (opened : openPairing g r x = .ok (answer,reported))
    (differs : mismatched reported (seenFingerprint x.peer) = true) :
    startPairing g r clientNonce x withdrawal = .error .pairingFingerprintMismatchError ↔
      withdrawn withdrawal = true ∧ (r.float (.int answer.interval)).isOk = true := by
  obtain ⟨returns,raises⟩ := withdraw_returns_iff (g := g) (r := r) withdrawal
  rw [← returns,← interval_ok_iff]
  unfold startPairing
  rw [opened]
  simp only [bind,Except.bind,differs,if_true]
  cases converted : intervalOf r answer with
  | error e =>
    refine iff_of_false (fun same => ?_) (fun ⟨_,interval,given⟩ => nomatch given)
    exact interval_other answer e converted (Except.error.inj same)
  | ok interval =>
    cases given_up : withdraw g r withdrawal with
    | error e =>
      refine iff_of_false (fun same => ?_) (fun ⟨done,_⟩ => nomatch done)
      exact raises e given_up (Except.error.inj same)
    | ok _ => exact iff_of_true rfl ⟨rfl,interval,rfl⟩

theorem box_read_broken {failure : ConnectionFailure} (read : Body.read body = .error failure) :
    boxRead g (.answered status contentType body) = .error .loomTransportError := by
  simp only [boxRead,read,connection_is_transport]

theorem box_read_refused (read : Body.read body = .ok raw) (refused : payloadOf g raw = .error refusal) :
    boxRead g (.answered status contentType body) = .error (RestError.decoder refusal).kind := by
  simp only [boxRead,read,refused,Except.map,Except.mapError]
  cases refusal <;> rfl

theorem box_read_done (read : Body.read body = .ok raw) (decoded : payloadOf g raw = .ok payload) :
    boxRead g (.answered status contentType body) = .ok (status,payload) := by
  simp only [boxRead,read,decoded]
  rfl

theorem decoder_unsuppressed (outside : (RestError.decoder refusal).kind.isLoom = false) :
    suppressed (.error (RestError.decoder refusal).kind) = .error (RestError.decoder refusal).kind := by
  cases refusal <;> rfl

-- All but the two errors that the decoder lets out.
theorem suppressed_iff (x : Exchange) :
    (suppressed (boxWithdraw g x) = .ok () ↔ forgiven g x) ∧
      ∀ e, suppressed (boxWithdraw g x) = .error e → e ≠ .pairingFingerprintMismatchError := by
  have quiet : ∀ {prop : Prop}, prop → suppressed (boxWithdraw g x) = .ok () →
      (suppressed (boxWithdraw g x) = .ok () ↔ prop) ∧
        ∀ e, suppressed (boxWithdraw g x) = .error e → e ≠ .pairingFingerprintMismatchError :=
    fun holds done => ⟨iff_of_true done holds,fun e raised => by rw [done] at raised; cases raised⟩
  cases x with
  | failed failure =>
    refine quiet trivial ?_
    simp only [boxWithdraw,boxRead,connection_is_transport]
    rfl
  | answered status contentType body =>
    cases read : body.read with
    | error failure =>
      refine quiet (fun raw given => ?_) ?_
      · rw [read] at given
        cases given
      · simp only [boxWithdraw,box_read_broken read]
        rfl
    | ok raw =>
      have only : forgiven g (.answered status contentType body) ↔ Readable g raw :=
        ⟨fun all => all raw read,fun readable other given => by rw [read] at given; cases given; exact readable⟩
      cases decoded : payloadOf g raw with
      | ok payload =>
        refine quiet (only.mpr (by simp [Readable,decoded,Except.isOk,Except.toBool])) ?_
        simp only [boxWithdraw,box_read_done read decoded,bind,Except.bind]
        split <;> rfl
      | error refusal =>
        have outside := payload_refused decoded
        have raises : suppressed (boxWithdraw g (.answered status contentType body)) =
            .error (RestError.decoder refusal).kind := by
          simp only [boxWithdraw,box_read_refused read decoded,bind,Except.bind]
          exact decoder_unsuppressed outside
        rw [raises,only]
        constructor
        · simp [Readable,decoded,Except.isOk,Except.toBool]
        · intro e raised same
          obtain rfl := Except.error.inj raised
          rw [same] at outside
          cases outside

theorem box_alarm_iff (opened : openBoxPairing g r x = .ok answer)
    (differs : mismatched answer.reported (seenFingerprint x.peer) = true) :
    startBoxPairing g r clientNonce x withdrawal = .error .pairingFingerprintMismatchError ↔ forgiven g withdrawal := by
  obtain ⟨swallowed,raises⟩ := suppressed_iff (g := g) withdrawal
  rw [← swallowed]
  unfold startBoxPairing
  rw [opened]
  simp only [bind,Except.bind,differs,if_true]
  cases given_up : suppressed (boxWithdraw g withdrawal) with
  | error e =>
    refine iff_of_false (fun same => ?_) (fun done => nomatch done)
    exact raises e given_up (Except.error.inj same)
  | ok _ => exact iff_of_true rfl rfl

theorem codes_agree (opened : openPairing g r x = .ok (answer,fingerprint)) (served : fingerprint = seenFingerprint x.peer)
    (wrote : answer.nonce = hex nonce) (converted : intervalOf r answer = .ok interval)
    (reveals : fromHex (hex clientNonce) = some revealed) :
    ∃ session, startPairing g r clientNonce x withdrawal = .ok session ∧
      session.code = derivePairingCode nonce revealed fingerprint := by
  obtain rfl : clientNonce = revealed := by
    rw [from_hex_hex] at reveals
    exact Option.some.inj reveals
  have same : mismatched fingerprint (seenFingerprint x.peer) = false := by simp [mismatched,served]
  refine ⟨⟨derivePairingCode nonce clientNonce fingerprint,answer.expiresIn,answer,clientNonce,interval,false⟩,?_,rfl⟩
  unfold startPairing
  rw [opened]
  simp only [bind,Except.bind,same,Bool.false_eq_true,if_false,hexBytes,wrote,from_hex_hex,converted]

theorem daemon_session (started : startPairing g r clientNonce x withdrawal = .ok session) :
    ∃ nonce reported, openPairing g r x = .ok (session.answer,reported) ∧ fromHex session.answer.nonce = some nonce ∧
      session.clientNonce = clientNonce ∧ Verified session.code nonce clientNonce reported (seenFingerprint x.peer) := by
  unfold startPairing at started
  cases opened : openPairing g r x with
  | error e => rw [opened] at started; cases started
  | ok pair =>
    obtain ⟨answer,reported⟩ := pair
    rw [opened] at started
    simp only [bind,Except.bind] at started
    split at started
    · split at started
      · cases started
      · split at started <;> cases started
    · rename_i same
      cases written : fromHex answer.nonce with
      | none => simp [hexBytes,written] at started
      | some nonce =>
        simp only [hexBytes,written] at started
        split at started
        · cases started
        · cases started
          refine ⟨nonce,reported,rfl,written,rfl,rfl,?_⟩
          exact not_mismatched (Bool.eq_false_iff.mpr same)

theorem box_session (started : startBoxPairing g r clientNonce x withdrawal = .ok session) :
    ∃ answer, openBoxPairing g r x = .ok answer ∧ session.clientNonce = clientNonce ∧
      Verified session.code answer.nonce clientNonce answer.reported (seenFingerprint x.peer) := by
  unfold startBoxPairing at started
  cases opened : openBoxPairing g r x with
  | error e => rw [opened] at started; cases started
  | ok answer =>
    rw [opened] at started
    simp only [bind,Except.bind] at started
    split at started
    · split at started <;> cases started
    · rename_i same
      cases started
      exact ⟨answer,rfl,rfl,rfl,not_mismatched (Bool.eq_false_iff.mpr same)⟩

end Pairing

theorem mismatch_reported_iff (g : RestConfig) (r : Reading φ) :
    (∀ clientNonce x withdrawal answer reported, openPairing g r x = .ok (answer,reported) →
      mismatched reported (seenFingerprint x.peer) = true →
      (startPairing g r clientNonce x withdrawal = .error .pairingFingerprintMismatchError ↔
        withdrawn withdrawal = true ∧ (r.float (.int answer.interval)).isOk = true)) ∧
    (∀ clientNonce x withdrawal answer, openBoxPairing g r x = .ok answer →
      mismatched answer.reported (seenFingerprint x.peer) = true →
      (startBoxPairing g r clientNonce x withdrawal = .error .pairingFingerprintMismatchError ↔ forgiven g withdrawal)) ∧
    (∀ clientNonce x withdrawal session, startPairing g r clientNonce x withdrawal = .ok session →
      ∃ nonce reported, openPairing g r x = .ok (session.answer,reported) ∧ fromHex session.answer.nonce = some nonce ∧
        session.clientNonce = clientNonce ∧ Verified session.code nonce clientNonce reported (seenFingerprint x.peer)) ∧
    (∀ clientNonce x withdrawal session, startBoxPairing g r clientNonce x withdrawal = .ok session →
      ∃ answer, openBoxPairing g r x = .ok answer ∧ session.clientNonce = clientNonce ∧
        Verified session.code answer.nonce clientNonce answer.reported (seenFingerprint x.peer)) :=
  ⟨fun _ _ _ _ _ opened differs => daemon_alarm_iff opened differs,
    fun _ _ _ _ opened differs => box_alarm_iff opened differs,fun _ _ _ _ => daemon_session,fun _ _ _ _ => box_session⟩

def pairingPayload : Json :=
  .obj
    [(text "id",.str (text "req1")),(text "poll",.str (text "secret")),(text "nonce",.str (text "aa")),
      (text "expires_in",.int 300),(text "interval",.int 2),(text "fingerprint",.str (text "dd"))]

def answerOfPayload : Json → Option PairingAnswer
  | .obj entries =>
    match Json.get? entries "id",Json.get? entries "poll",Json.get? entries "nonce",Json.get? entries "expires_in",
      Json.get? entries "interval",Json.get? entries "fingerprint" with
    | some (.str requestId),some (.str poll),some (.str nonce),some (.int expiresIn),some (.int interval),
      some (.str fingerprint) => some {requestId,poll,nonce,expiresIn,interval,fingerprint}
    | _,_,_,_,_,_ => none
  | _ => none

def resultOfPayload : Json → Option PairingResult
  | .obj entries => match Json.get? entries "state" with
    | some (.str state) => some {state,token := none,subject := none,role := none}
    | _ => none
  | _ => none

def intOfInt : Json → Except PythonError Int
  | .int n => .ok n
  | _ => .error .typeError

-- The largest integers have no float.
def floatOfInt : Json → Except PythonError Int
  | .int n => if n.natAbs < 2 ^ 1024 - 2 ^ 970 then .ok n else .error .overflowError
  | _ => .error .typeError

def plainReading : Reading Int where
  json _ _ := .ok pairingPayload
  answer := answerOfPayload
  result := resultOfPayload
  truthy _ := false
  str _ := .error .typeError
  int := intOfInt
  float := floatOfInt

def interceptedText : String :=
  "\x7b\"id\": \"req1\", \"poll\": \"secret\", \"nonce\": \"aa\", \"expires_in\": 300, \"interval\": 2, \"fingerprint\": \"dd\"\x7d"

def intercepted : Opening where
  peer := some [0x30,0x82]
  exchange := .answered 202 "application/json" ⟨[interceptedText.toUTF8],none⟩

-- An answer to the withdrawal whose body is beyond the limits.
def withdrawalWith (raw : ByteArray) : Exchange := .answered 204 "application/json" ⟨[raw],none⟩

theorem refused_not_forgiven {g : RestConfig} (refused : payloadOf g raw = .error e) : ¬forgiven g (withdrawalWith raw) := by
  intro read
  have whole : Body.read ⟨[raw],none⟩ = .ok raw := by simp [Body.read,join]
  exact (readable_iff raw).mp (read raw whole) e refused

theorem long_withdrawal_refused : ¬forgiven plainConfig (withdrawalWith (String.ofList longInteger).toByteArray) := by
  refine refused_not_forgiven (text_refused (List.cons_ne_nil _ _) (Json.long_integer_refused _ ?_ ?_))
  · intro c member
    rw [List.eq_of_mem_replicate member]
    rfl
  · rw [List.length_replicate]
    exact Nat.lt_succ_self 4300

-- The one variant raises the failure of the withdrawal in place of the mismatch, the other only the
-- error of the decoder.
theorem lost_withdrawal_hides_mismatch :
    (¬∀ clientNonce x withdrawal answer reported, openPairing plainConfig plainReading x = .ok (answer,reported) →
      mismatched reported (seenFingerprint x.peer) = true →
      startPairing plainConfig plainReading clientNonce x withdrawal = .error .pairingFingerprintMismatchError) ∧
    startBoxPairing plainConfig plainReading [] intercepted (.failed .timeoutError) = .error .pairingFingerprintMismatchError ∧
    startBoxPairing plainConfig plainReading [] intercepted (withdrawalWith (String.ofList longInteger).toByteArray) ≠
      .error .pairingFingerprintMismatchError := by
  have differs : mismatched [0xdd] (seenFingerprint intercepted.peer) = true := by decide +kernel
  have reads : (openBoxPairing plainConfig plainReading intercepted).toOption.map (·.reported) = some [0xdd] := by decide +kernel
  obtain ⟨answer,box,alarmed⟩ : ∃ answer, openBoxPairing plainConfig plainReading intercepted = .ok answer ∧
      mismatched answer.reported (seenFingerprint intercepted.peer) = true := by
    cases opened : openBoxPairing plainConfig plainReading intercepted with
    | error e =>
      rw [opened] at reads
      cases reads
    | ok answer =>
      rw [opened] at reads
      have reported : answer.reported = [0xdd] := Option.some.inj reads
      exact ⟨answer,rfl,reported ▸ differs⟩
  refine ⟨?_,(box_alarm_iff box alarmed).mpr trivial,fun same => long_withdrawal_refused ((box_alarm_iff box alarmed).mp same)⟩
  intro reported
  have opened : openPairing plainConfig plainReading intercepted =
      .ok (⟨text "req1",text "secret",text "aa",300,2,text "dd"⟩,[0xdd]) := rfl
  have alarm := reported [] intercepted (.failed .timeoutError) _ _ opened differs
  have returned := ((daemon_alarm_iff opened differs).mp alarm).1
  cases returned

end LoomClient.Transport
