import LoomClient.Lib.JsonText
import LoomClient.Transport.Problems
import LoomClient.Transport.RetryBudget

namespace LoomClient.Transport
open Lib

inductive ConnectionFailure where
  | clientError
  | timeoutError
  deriving DecidableEq, Repr

structure Body where
  chunks : List ByteArray
  failure : Option ConnectionFailure

inductive Exchange where
  | failed (failure : ConnectionFailure)
  | answered (status : Nat) (contentType : String) (body : Body)

def join (chunks : List ByteArray) : ByteArray := chunks.foldl (· ++ ·) .empty

def Body.read (b : Body) : Except ConnectionFailure ByteArray := match b.failure with
  | none => .ok (join b.chunks)
  | some failure => .error failure

-- The decoder lets two errors of Python out.
inductive RestError where
  | transport
  | gate
  | boxToken
  | http (status : Nat) (problem : Option Problem) (rawBody : Option ByteArray)
  | decoder (refusal : Json.Refusal)

def RestError.kind : RestError → ExceptionClass
  | .transport => .loomTransportError
  | .gate => .loomBoxGateError
  | .boxToken => .loomBoxTokenError
  | .http _ problem _ => httpErrorFromProblem problem
  | .decoder .digits => .valueError
  | .decoder .recursion => .recursionError
  | .decoder .decode => .jsonDecodeError

def problemJson : String := "application/problem+json"

def gateRefusal (status : Nat) (contentType : String) : Option RestError :=
  if 300 ≤ status ∧ status < 400 then some .gate
  else if problemJson.toList.isPrefixOf contentType.toList then none
  else if status = 401 then some .boxToken
  else if status = 403 then some .gate
  else none

structure RestConfig where
  limits : Json.Limits
  boxIngress : Bool
  validate : List (Text × Json) → Option Problem

section Once
variable (g : RestConfig)

def gateBounce (status : Nat) (contentType : String) : Option RestError :=
  if g.boxIngress then gateRefusal status contentType else none

-- A body that is no UTF-8 or no JSON is None, as the JSON null is.
def decodeJson (raw : ByteArray) : Except Json.Refusal Json := match raw.utf8Decode? with
  | none => .ok .null
  | some chars => match Json.loads g.limits chars.toList with
    | .ok payload => .ok payload
    | .error .decode => .ok .null
    | .error refusal => .error refusal

def payloadOf (raw : ByteArray) : Except Json.Refusal Json := if raw.isEmpty then .ok .null else decodeJson g raw

def isSuccess (status : Nat) : Bool := decide (200 ≤ status ∧ status < 300)

-- The error path of the three methods: what is raised for an answer.
def answerError (status : Nat) (raw : ByteArray) : RestError := match payloadOf g raw with
  | .error refusal => .decoder refusal
  | .ok payload =>
    let problem := parseProblem g.validate payload
    .http status problem (if problem.isNone then some raw else none)

def jsonValue (raw : ByteArray) : Except RestError Json := (payloadOf g raw).mapError .decoder

def doOnce : Exchange → Except RestError Json
  | .failed _ => .error .transport
  | .answered status contentType body => match gateBounce g status contentType with
    | some refusal => .error refusal
    | none =>
      if status = 204 then .ok .null
      else match body.read with
      | .error _ => .error .transport
      | .ok raw => if isSuccess status then jsonValue g raw else .error (answerError g status raw)

-- An upload is answered like any request.
def uploadOnce (x : Exchange) : Except RestError Json := doOnce g x

def readChunks (failure : Option ConnectionFailure) (maxBytes : Nat) : List ByteArray → ByteArray → Except RestError ByteArray
  | [],read => if failure.isSome then .error .transport else .ok read
  | chunk :: rest,read =>
    if maxBytes < read.size + chunk.size then .error .transport else readChunks failure maxBytes rest (read ++ chunk)

def readCapped (maxBytes : Option Nat) (b : Body) : Except RestError ByteArray := match maxBytes with
  | none => b.read.mapError fun _ => .transport
  | some most => readChunks b.failure most b.chunks .empty

def bytesOnce (maxBytes : Option Nat) : Exchange → Except RestError ByteArray
  | .failed _ => .error .transport
  | .answered status contentType body => match gateBounce g status contentType with
    | some refusal => .error refusal
    | none => match readCapped maxBytes body with
      | .error e => .error e
      | .ok raw => if isSuccess status then .ok raw else .error (answerError g status raw)

end Once

def defaultMaxDownloadBytes : Nat := 512 * 1024 * 1024

section Methods
variable (g : RestConfig)

def requestBytes (connected : Bool) (maxBytes : Option Nat) (x : Exchange) : Except RestError ByteArray :=
  if connected then bytesOnce g maxBytes x else .error .transport

def requestUpload (connected : Bool) (x : Exchange) : Except RestError Json :=
  if connected then uploadOnce g x else .error .transport

-- A pass of the retry loop with the exchange it makes.
structure Trip where
  overslept : ℚ
  exchange : Exchange
  spent : ℚ

def Trip.beat (t : Trip) : Beat RestError Json := ⟨t.overslept,doOnce g t.exchange,t.spent⟩

def requestJson (c : RequestCall) (trips : Nat → Trip) : Request RestError Json :=
  request RestError.kind c fun k => (trips k).beat g

end Methods

def raisedClass : RequestError RestError → ExceptionClass
  | .failed e => e.kind
  | .notConnected | .noTimeBudget => .loomTransportError

-- The problem document of an answer of the daemon that is no success.
def problemDocument (g : RestConfig) : Exchange → Option Problem
  | .failed _ => none
  | .answered status contentType body =>
    if (gateBounce g status contentType).isSome || isSuccess status then none
    else match body.read with
    | .error _ => none
    | .ok raw => match payloadOf g raw with
      | .error _ => none
      | .ok payload => parseProblem g.validate payload

structure Mapped (g : RestConfig) (x : Exchange) (r : Except RestError α) : Prop where
  inside : ∀ e, r = .error e → e.kind.isLoom = true
  category : ∀ p c, problemDocument g x = some p → namedCategory p = some c → ∃ e, r = .error e ∧ e.kind = c.toException

structure RequestMapped (g : RestConfig) (trips : Nat → Trip) (r : Request RestError Json) : Prop where
  inside : ∀ e, r.result = .error e → (raisedClass e).isLoom = true
  category : ∀ k p c, r.sent.length = k + 1 → problemDocument g (trips k).exchange = some p → namedCategory p = some c →
    ∃ e, r.result = .error (.failed e) ∧ e.kind = c.toException

def Readable (g : RestConfig) (raw : ByteArray) : Prop := (payloadOf g raw).isOk = true

def Honest (g : RestConfig) (x : Exchange) : Prop := ∀ p, problemDocument g x = some p → hidesType p = false

-- The body is not refused for the limits of the decoder, and no unknown code hides a known category.
def Orderly (g : RestConfig) : Exchange → Prop
  | .failed _ => True
  | .answered status contentType body =>
    gateBounce g status contentType = none → status ≠ 204 → ∀ raw, body.read = .ok raw →
      Readable g raw ∧ Honest g (.answered status contentType body)

def fits (maxBytes : Option Nat) (raw : ByteArray) : Prop := ∀ most, maxBytes = some most → raw.size ≤ most

-- A download reads the body of an error only, and under its cap.
def OrderlyBytes (g : RestConfig) (maxBytes : Option Nat) : Exchange → Prop
  | .failed _ => True
  | .answered status contentType body =>
    gateBounce g status contentType = none → isSuccess status = false → ∀ raw, body.read = .ok raw →
      (fits maxBytes raw → Readable g raw ∧ Honest g (.answered status contentType body)) ∧
        (¬fits maxBytes raw → ∀ p, problemDocument g (.answered status contentType body) = some p → namedCategory p = none)

section Mapping
variable {g : RestConfig}

theorem gate_loom (bounced : gateBounce g status contentType = some e) : e.kind.isLoom = true := by
  unfold gateBounce gateRefusal at bounced
  repeat' split at bounced
  all_goals cases bounced
  all_goals rfl

theorem payload_refused (refused : payloadOf g raw = .error r) : (RestError.decoder r).kind.isLoom = false := by
  unfold payloadOf decodeJson at refused
  repeat' split at refused
  all_goals cases refused
  rename_i other _
  cases r with
  | decode => exact (other rfl).elim
  | digits => rfl
  | recursion => rfl

theorem readable_iff (raw : ByteArray) : Readable g raw ↔ ∀ r, payloadOf g raw ≠ .error r := by
  unfold Readable
  cases payloadOf g raw <;> simp [Except.isOk,Except.toBool]

theorem answer_error_inside (status : Nat) (raw : ByteArray) :
    (answerError g status raw).kind.isLoom = true ↔ Readable g raw := by
  unfold answerError Readable
  cases read : payloadOf g raw with
  | error r => simp [payload_refused read,Except.isOk,Except.toBool]
  | ok payload => simp [RestError.kind,http_error_loom,Except.isOk,Except.toBool]

theorem json_value_inside (raw : ByteArray) :
    (∀ e, jsonValue g raw = .error e → e.kind.isLoom = true) ↔ Readable g raw := by
  unfold jsonValue Readable
  cases read : payloadOf g raw with
  | error r => simp [payload_refused read,Except.mapError,Except.isOk,Except.toBool]
  | ok payload => simp [Except.mapError,Except.isOk,Except.toBool]

theorem document_of_answer (passed : gateBounce g status contentType = none) (failed : isSuccess status = false)
    (read : Body.read body = .ok raw) (decoded : payloadOf g raw = .ok payload) :
    problemDocument g (.answered status contentType body) = parseProblem g.validate payload := by
  simp [problemDocument,passed,failed,read,decoded]

theorem answer_error_category (passed : gateBounce g status contentType = none) (failed : isSuccess status = false)
    (read : Body.read body = .ok raw) (readable : Readable g raw) :
    (∀ p c, problemDocument g (.answered status contentType body) = some p → namedCategory p = some c →
      (answerError g status raw).kind = c.toException) ↔ Honest g (.answered status contentType body) := by
  cases decoded : payloadOf g raw with
  | error r => simp [Readable,decoded,Except.isOk,Except.toBool] at readable
  | ok payload =>
    unfold Honest
    simp only [document_of_answer passed failed read decoded,answerError,decoded,RestError.kind]
    constructor
    · intro right p found
      cases named : namedCategory p with
      | some c =>
        have same := right p c found named
        rw [found] at same
        exact (http_error_category named).mp same
      | none =>
        unfold namedCategory at named
        cases code : p.code.bind Code.member? with
        | some c => simp [code] at named
        | none => simp [hidesType,show typeCategory p.type = none by simpa [code] using named]
    · intro honest p c found named
      rw [found]
      exact (http_error_category named).mpr (honest p found)

theorem error_mapped {α : Type} {x : Exchange} {e : RestError} : Mapped g x (.error e : Except RestError α) ↔
    e.kind.isLoom = true ∧ ∀ p c, problemDocument g x = some p → namedCategory p = some c → e.kind = c.toException := by
  constructor
  · intro mapped
    refine ⟨mapped.inside e rfl,fun p c found named => ?_⟩
    obtain ⟨raised,same,right⟩ := mapped.category p c found named
    cases same
    exact right
  · intro ⟨inside,category⟩
    refine ⟨fun raised same => ?_,fun p c found named => ⟨e,rfl,category p c found named⟩⟩
    cases same
    exact inside

theorem mapped_without_document {α : Type} {x : Exchange} {r : Except RestError α} (absent : problemDocument g x = none) :
    Mapped g x r ↔ ∀ e, r = .error e → e.kind.isLoom = true :=
  ⟨Mapped.inside,fun inside => ⟨inside,fun p c found => by rw [absent] at found; cases found⟩⟩

theorem error_without_document {α : Type} {x : Exchange} {e : RestError} (absent : problemDocument g x = none)
    (inside : e.kind.isLoom = true) : Mapped g x (.error e : Except RestError α) := by
  rw [mapped_without_document absent]
  intro raised same
  cases same
  exact inside

theorem bounced_document (bounced : gateBounce g status contentType = some refusal) :
    problemDocument g (.answered status contentType body) = none := by
  simp [problemDocument,bounced]

theorem success_document (success : isSuccess status = true) : problemDocument g (.answered status contentType body) = none := by
  simp [problemDocument,success]

theorem unread_document {failure : ConnectionFailure} (read : Body.read body = .error failure) :
    problemDocument g (.answered status contentType body) = none := by
  simp [problemDocument,read]

theorem do_once_mapped (x : Exchange) : Mapped g x (doOnce g x) ↔ Orderly g x := by
  cases x with
  | failed failure => exact iff_of_true (error_without_document rfl rfl) trivial
  | answered status contentType body =>
    simp only [doOnce,Orderly]
    cases bounced : gateBounce g status contentType with
    | some refusal =>
      exact iff_of_true (error_without_document (bounced_document bounced) (gate_loom bounced)) (fun passed => nomatch passed)
    | none =>
      simp only [true_implies]
      by_cases empty : status = 204
      · subst empty
        refine iff_of_true ?_ (fun other => absurd rfl other)
        rw [mapped_without_document (success_document rfl)]
        intro e raised
        cases raised
      · simp only [empty,if_false,ne_eq,not_false_eq_true,true_implies]
        cases read : body.read with
        | error failure => exact iff_of_true (error_without_document (unread_document read) rfl) (fun raw held => nomatch held)
        | ok raw =>
          simp only [Except.ok.injEq,forall_eq']
          cases success : isSuccess status with
          | true =>
            have absent : problemDocument g (.answered status contentType body) = none := success_document success
            rw [if_pos rfl,mapped_without_document absent,json_value_inside]
            exact ⟨fun readable => ⟨readable,fun p found => by rw [absent] at found; cases found⟩,And.left⟩
          | false =>
            rw [if_neg (by decide),error_mapped,answer_error_inside]
            exact and_congr_right fun readable => answer_error_category bounced success read readable

theorem joined_size (chunks : List ByteArray) (read : ByteArray) : read.size ≤ (chunks.foldl (· ++ ·) read).size := by
  induction chunks generalizing read with
  | nil => exact Nat.le_refl _
  | cons chunk rest ih =>
    have more := ih (read ++ chunk)
    rw [ByteArray.size_append] at more
    exact Nat.le_trans (Nat.le_add_right _ _) more

theorem read_chunks_small (chunks : List ByteArray) (read : ByteArray)
    (small : (chunks.foldl (· ++ ·) read).size ≤ most) :
    readChunks none most chunks read = .ok (chunks.foldl (· ++ ·) read) := by
  induction chunks generalizing read with
  | nil => rfl
  | cons chunk rest ih =>
    rw [List.foldl_cons] at small ⊢
    have larger := joined_size rest (read ++ chunk)
    rw [ByteArray.size_append] at larger
    rw [readChunks,if_neg (by omega)]
    exact ih (read ++ chunk) small

theorem read_chunks_large (chunks : List ByteArray) (read : ByteArray) (fitted : read.size ≤ most)
    (large : most < (chunks.foldl (· ++ ·) read).size) : readChunks none most chunks read = .error .transport := by
  induction chunks generalizing read with
  | nil => exact absurd large (Nat.not_lt.mpr fitted)
  | cons chunk rest ih =>
    rw [readChunks]
    by_cases beyond : most < read.size + chunk.size
    · rw [if_pos beyond]
    · rw [if_neg beyond]
      rw [List.foldl_cons] at large
      exact ih (read ++ chunk) (by rw [ByteArray.size_append]; omega) large

theorem read_chunks_failed (failure : ConnectionFailure) (chunks : List ByteArray) (read : ByteArray) :
    readChunks (some failure) most chunks read = .error .transport := by
  induction chunks generalizing read with
  | nil => rfl
  | cons chunk rest ih =>
    simp only [readChunks,ih]
    split <;> rfl

theorem read_capped_ok (read : Body.read body = .ok raw) (fit : fits maxBytes raw) : readCapped maxBytes body = .ok raw := by
  unfold Body.read at read
  split at read <;> cases read
  rename_i complete
  cases maxBytes with
  | none => simp [readCapped,Body.read,complete,Except.mapError]
  | some most =>
    simp only [readCapped,complete]
    exact read_chunks_small body.chunks .empty (fit most rfl)

theorem read_capped_beyond (read : Body.read body = .ok raw) (beyond : ¬fits maxBytes raw) :
    readCapped maxBytes body = .error .transport := by
  unfold Body.read at read
  split at read <;> cases read
  rename_i complete
  cases maxBytes with
  | none => exact absurd (fun most same => nomatch same) beyond
  | some most =>
    have large : ¬(join body.chunks).size ≤ most := fun small => beyond fun _ same => by cases same; exact small
    simp only [readCapped,complete]
    exact read_chunks_large body.chunks .empty (Nat.zero_le _) (Nat.lt_of_not_le large)

theorem read_capped_failed {failure : ConnectionFailure} (read : Body.read body = .error failure) : readCapped maxBytes body = .error .transport := by
  unfold Body.read at read
  split at read <;> cases read
  rename_i broken
  cases maxBytes with
  | none => simp [readCapped,Body.read,broken,Except.mapError]
  | some most => simp only [readCapped,broken,read_chunks_failed]

theorem beyond_cap_mapped {α : Type} {x : Exchange} : Mapped g x (.error .transport : Except RestError α) ↔
    ∀ p, problemDocument g x = some p → namedCategory p = none := by
  rw [error_mapped]
  constructor
  · intro ⟨_,category⟩ p found
    cases named : namedCategory p with
    | none => rfl
    | some c =>
      have plain := category p c found named
      cases c <;> cases plain
  · intro unnamed
    refine ⟨rfl,fun p c found named => ?_⟩
    rw [unnamed p found] at named
    cases named

theorem read_capped_inside (maxBytes : Option Nat) (body : Body) (failed : readCapped maxBytes body = .error e) :
    e.kind.isLoom = true := by
  cases read : body.read with
  | error failure =>
    rw [read_capped_failed read] at failed
    cases failed
    rfl
  | ok raw =>
    by_cases fit : fits maxBytes raw
    · simp [read_capped_ok read fit] at failed
    · rw [read_capped_beyond read fit] at failed
      cases failed
      rfl

theorem bytes_once_mapped (maxBytes : Option Nat) (x : Exchange) :
    Mapped g x (bytesOnce g maxBytes x) ↔ OrderlyBytes g maxBytes x := by
  cases x with
  | failed failure => exact iff_of_true (error_without_document rfl rfl) trivial
  | answered status contentType body =>
    simp only [bytesOnce,OrderlyBytes]
    cases bounced : gateBounce g status contentType with
    | some refusal =>
      exact iff_of_true (error_without_document (bounced_document bounced) (gate_loom bounced)) (fun passed => nomatch passed)
    | none =>
      simp only [true_implies]
      cases success : isSuccess status with
      | true =>
        refine iff_of_true ?_ (fun failed => nomatch failed)
        rw [mapped_without_document (success_document success)]
        intro e raised
        cases read : readCapped maxBytes body with
        | error failure =>
          simp only [read,Except.error.injEq] at raised
          rw [← raised]
          exact read_capped_inside maxBytes body read
        | ok raw => simp [read] at raised
      | false =>
        simp only [true_implies,Bool.false_eq_true,if_false]
        cases read : body.read with
        | error failure =>
          rw [read_capped_failed read]
          exact iff_of_true (error_without_document (unread_document read) rfl) (fun raw held => nomatch held)
        | ok raw =>
          simp only [Except.ok.injEq,forall_eq']
          by_cases fit : fits maxBytes raw
          · simp only [read_capped_ok read fit,fit,true_implies,not_true_eq_false,false_implies,and_true]
            rw [error_mapped,answer_error_inside]
            exact and_congr_right fun readable => answer_error_category bounced success read readable
          · simp only [read_capped_beyond read fit,fit,false_implies,not_false_eq_true,true_implies,true_and]
            exact beyond_cap_mapped

theorem document_raised {x : Exchange} (found : problemDocument g x = some p) :
    ∃ status, doOnce g x = .error (.http status (some p) none) := by
  cases x with
  | failed failure => cases found
  | answered status contentType body =>
    refine ⟨status,?_⟩
    simp only [problemDocument] at found
    split at found
    · cases found
    · rename_i passed
      simp only [Bool.or_eq_true,not_or,Bool.not_eq_true,Option.isSome_eq_false_iff,Option.isNone_iff_eq_none] at passed
      have content : status ≠ 204 := fun empty => by simp [isSuccess,empty] at passed
      split at found
      · cases found
      · rename_i raw read
        split at found
        · cases found
        · rename_i payload decoded
          simp only [doOnce,passed.1,content,if_false,read,passed.2,Bool.false_eq_true,answerError,decoded,found]
          rfl

theorem retried_orderly {x : Exchange} (failed : doOnce g x = .error e) (tried : triedAgain RestError.kind e = true) :
    Orderly g x := by
  simp only [triedAgain,Bool.and_eq_true] at tried
  rw [← do_once_mapped,failed,error_mapped]
  refine ⟨ExceptionClass.retryable_loom _ tried.2,?_⟩
  intro p c found named
  obtain ⟨status,raised⟩ := document_raised found
  rw [failed] at raised
  cases raised
  cases hidden : hidesType p with
  | false => exact (http_error_category named).mpr hidden
  | true =>
    have plain : (RestError.http status (some p) none).kind = .loomHttpError := hidden_plain hidden
    rw [plain] at tried
    exact absurd tried.2 (by decide)

theorem last_attempt_mapped {trips : Nat → Trip} {r : Request RestError Json} (count : r.sent.length = n + 1)
    (result : r.result = (doOnce g (trips n).exchange).mapError .failed) :
    RequestMapped g trips r ↔ Mapped g (trips n).exchange (doOnce g (trips n).exchange) := by
  have failed : ∀ e, doOnce g (trips n).exchange = .error e ↔ r.result = .error (.failed e) := by
    intro e
    rw [result]
    cases doOnce g (trips n).exchange <;> simp [Except.mapError]
  constructor
  · intro mapped
    refine ⟨fun e raised => mapped.inside _ ((failed e).mp raised),fun p c found named => ?_⟩
    obtain ⟨e,raised,right⟩ := mapped.category n p c count found named
    exact ⟨e,(failed e).mpr raised,right⟩
  · intro mapped
    refine ⟨?_,?_⟩
    · intro e raised
      rw [result] at raised
      cases once : doOnce g (trips n).exchange with
      | ok value => simp [once,Except.mapError] at raised
      | error failure =>
        simp only [once,Except.mapError,Except.error.injEq] at raised
        rw [← raised]
        exact mapped.inside failure once
    · intro k p c counted found named
      obtain rfl : k = n := Nat.succ.inj (counted.symm.trans count)
      obtain ⟨e,raised,right⟩ := mapped.category p c found named
      exact ⟨e,(failed e).mp raised,right⟩

theorem nothing_sent_mapped {trips : Nat → Trip} {r : Request RestError Json} (sent : r.sent = [])
    (result : r.result = .error e) (inside : (raisedClass e).isLoom = true) : RequestMapped g trips r := by
  refine ⟨fun raised same => ?_,fun k p c counted => by rw [sent] at counted; cases counted⟩
  rw [result] at same
  cases same
  exact inside

theorem request_json_mapped (c : RequestCall) (trips : Nat → Trip) :
    RequestMapped g trips (requestJson g c trips) ↔
      (c.connected = true → EachPass RestError.kind c.deadline (fun k => (trips k).beat g)
        (fun k _ _ => Orderly g (trips k).exchange) (attemptDelays c.backoff c.retry) 0 c.start) := by
  unfold requestJson request
  cases connected : c.connected with
  | false => exact iff_of_true (nothing_sent_mapped rfl rfl rfl) (fun never => nomatch never)
  | true =>
    simp only [if_true,true_implies]
    rw [attempts_each _ _ _ _ none]
    generalize attemptDelays c.backoff c.retry = delays
    generalize counted : attempts RestError.kind c.deadline (fun k => (trips k).beat g) delays 0 c.start none = r
    cases count : r.sent.length with
    | zero =>
      have sent : r.sent = [] := List.eq_nil_of_length_eq_zero count
      have result := attempts_none delays 0 c.start none (by rw [counted]; exact sent)
      rw [counted] at result
      exact iff_of_true (nothing_sent_mapped sent result rfl) (fun j before => absurd before (Nat.not_lt_zero j))
    | succ n =>
      have result := attempts_result delays 0 c.start none (by rw [counted]; exact count)
      have retried : ∀ j, j + 1 < r.sent.length → ∃ e, ((trips (0 + j)).beat g).outcome = .error e ∧
          triedAgain RestError.kind e = true := by
        rw [← counted]
        exact attempts_retried delays 0 c.start none
      rw [counted] at result
      simp only [Nat.zero_add] at result retried ⊢
      rw [last_attempt_mapped count result,do_once_mapped]
      constructor
      · intro final j before
        by_cases same : j = n
        · rw [same]
          exact final
        · obtain ⟨e,failed,tried⟩ := retried j (by omega)
          exact retried_orderly failed tried
      · exact fun all => all n (Nat.lt_succ_self n)

end Mapping

theorem rest_errors_mapped_iff (g : RestConfig) :
    (∀ c trips, RequestMapped g trips (requestJson g c trips) ↔
      (c.connected = true → EachPass RestError.kind c.deadline (fun k => (trips k).beat g)
        (fun k _ _ => Orderly g (trips k).exchange) (attemptDelays c.backoff c.retry) 0 c.start)) ∧
    (∀ maxBytes x, Mapped g x (requestBytes g true maxBytes x) ↔ OrderlyBytes g maxBytes x) ∧
    (∀ x, Mapped g x (requestUpload g true x) ↔ Orderly g x) ∧
    (∀ maxBytes x e, requestBytes g false maxBytes x = .error e → e.kind.isLoom = true) ∧
    (∀ x e, requestUpload g false x = .error e → e.kind.isLoom = true) := by
  refine ⟨request_json_mapped,?_,?_,?_,?_⟩
  · intro maxBytes x
    exact bytes_once_mapped maxBytes x
  · intro x
    exact do_once_mapped x
  · intro maxBytes x e raised
    cases raised
    rfl
  · intro x e raised
    cases raised
    rfl

theorem text_refused {g : RestConfig} {written : List Char} (nonempty : written ≠ [])
    (refused : Json.loads g.limits written = .error .digits) :
    payloadOf g (String.ofList written).toByteArray = .error .digits := by
  have bytes : (String.ofList written).toByteArray.isEmpty = false := by
    have size : (String.ofList written).toByteArray.size ≠ 0 := by
      rw [String.size_toByteArray,ne_eq,String.utf8ByteSize_eq_zero_iff,String.ofList_eq_empty_iff]
      exact nonempty
    simpa only [ByteArray.isEmpty,beq_eq_false_iff_ne] using size
  unfold payloadOf decodeJson
  rw [if_neg (by rw [bytes]; decide),String.toByteArray_ofList,List.utf8Decode?_utf8Encode]
  simp only [refused]

def answerOf (raw : ByteArray) : Exchange := .answered 200 "application/json" ⟨[raw],none⟩

theorem refused_answer_escapes {g : RestConfig} (open_access : g.boxIngress = false) (refused : payloadOf g raw = .error r) :
    ¬Mapped g (answerOf raw) (requestUpload g true (answerOf raw)) := by
  intro mapped
  have passed : gateBounce g 200 "application/json" = none := by simp [gateBounce,open_access]
  have read : Body.read ⟨[raw],none⟩ = .ok raw := by simp [Body.read,join]
  have readable := ((do_once_mapped (answerOf raw)).mp mapped passed (by decide) raw read).1
  exact (readable_iff raw).mp readable r refused

-- A body that is one integer of 4301 digits.
def longInteger : List Char := '1' :: List.replicate 4300 '0'

def plainConfig : RestConfig := ⟨⟨4300,1000⟩,false,fun _ => none⟩

theorem long_integer_escapes :
    ¬Mapped plainConfig (answerOf (String.ofList longInteger).toByteArray)
      (requestUpload plainConfig true (answerOf (String.ofList longInteger).toByteArray)) := by
  refine refused_answer_escapes rfl (text_refused (List.cons_ne_nil _ _) (Json.long_integer_refused _ ?_ ?_))
  · intro c member
    rw [List.eq_of_mem_replicate member]
    rfl
  · rw [List.length_replicate]
    exact Nat.lt_succ_self 4300

end LoomClient.Transport
