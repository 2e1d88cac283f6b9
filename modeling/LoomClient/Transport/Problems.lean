import LoomClient.Lib.Json
import LoomClient.Transport.Failures

namespace LoomClient.Transport
open Lib

inductive Code where
  | validation
  | notFound
  | conflict
  | unauthorized
  | forbidden
  | unsupported
  | rateLimited
  | internal
  | badRequest
  | serviceUnready
  | upstreamUnavailable
  | featureUnavailable
  | pairingOff
  | pairingNotLocal
  | pairingSlowDown
  deriving DecidableEq, Repr

namespace Code

def value : Code → String
  | .validation => "validation"
  | .notFound => "not_found"
  | .conflict => "conflict"
  | .unauthorized => "unauthorized"
  | .forbidden => "forbidden"
  | .unsupported => "unsupported"
  | .rateLimited => "rate_limited"
  | .internal => "internal"
  | .badRequest => "bad_request"
  | .serviceUnready => "service_unready"
  | .upstreamUnavailable => "upstream_unavailable"
  | .featureUnavailable => "feature_unavailable"
  | .pairingOff => "pairing_off"
  | .pairingNotLocal => "pairing_not_local"
  | .pairingSlowDown => "pairing_slow_down"

def all : List Code :=
  [.validation,.notFound,.conflict,.unauthorized,.forbidden,.unsupported,.rateLimited,.internal,.badRequest,
    .serviceUnready,.upstreamUnavailable,.featureUnavailable,.pairingOff,.pairingNotLocal,.pairingSlowDown]

def member? (written : Text) : Option Code := all.find? fun c => decide (text c.value = written)

-- `_CODE_TO_EXCEPTION`
def toException : Code → ExceptionClass
  | .validation => .loomValidationError
  | .badRequest => .loomBadRequestError
  | .notFound => .loomNotFoundError
  | .conflict => .loomConflictError
  | .unauthorized => .loomAuthError
  | .forbidden => .loomForbiddenError
  | .unsupported => .loomUnsupportedError
  | .featureUnavailable => .loomFeatureUnavailableError
  | .rateLimited => .loomRateLimitedError
  | .serviceUnready => .loomServiceUnreadyError
  | .upstreamUnavailable => .loomUpstreamUnavailableError
  | .internal => .loomInternalError
  | .pairingOff => .loomPairingOffError
  | .pairingNotLocal => .loomPairingNotLocalError
  | .pairingSlowDown => .loomPairingSlowDownError

theorem exception_specific (c : Code) : c.toException ≠ .loomHttpError ∧ c.toException.isLoom = true := by
  cases c <;> decide

end Code

-- What `Code(value)` makes of a string: a member, or one minted for the value.
inductive CodeMember where
  | known (c : Code)
  | minted (value : Text)

def CodeMember.of (written : Text) : CodeMember := match Code.member? written with
  | some c => .known c
  | none => .minted written

-- The members of a problem document that choose the class.
structure Problem where
  type : Text
  code : Option Text

def problemUriPrefix : Text := text "https://openccu-loom.dev/errors/"

def problemCode (p : Problem) : Option CodeMember := match p.code with
  | some written => some (.of written)
  | none => if problemUriPrefix.isPrefixOf p.type then some (.of (p.type.drop problemUriPrefix.length)) else none

-- `_CODE_TO_EXCEPTION.get(code, LoomHttpError)`
def CodeMember.toException : CodeMember → ExceptionClass
  | .known c => c.toException
  | .minted _ => .loomHttpError

def httpErrorFromProblem (problem : Option Problem) : ExceptionClass := match problem.bind problemCode with
  | some code => code.toException
  | none => .loomHttpError

-- Nothing for any exception.
def parseProblem (validate : List (Text × Json) → Option Problem) : Json → Option Problem
  | .obj payload => validate payload
  | _ => none

def typeCategory (type : Text) : Option Code :=
  if problemUriPrefix.isPrefixOf type then Code.member? (type.drop problemUriPrefix.length) else none

-- By its code where that is a known one, else by the URI of its type.
def namedCategory (p : Problem) : Option Code := match p.code.bind Code.member? with
  | some c => some c
  | none => typeCategory p.type

-- The code is one the client does not know, beside a type that names a category.
def hidesType (p : Problem) : Bool := p.code.isSome && (p.code.bind Code.member?).isNone && (typeCategory p.type).isSome

theorem http_error_loom (problem : Option Problem) : (httpErrorFromProblem problem).isLoom = true := by
  unfold httpErrorFromProblem
  split
  · rename_i code named
    cases code with
    | known c => exact c.exception_specific.2
    | minted value => rfl
  · rfl

theorem known_code {written : Text} (known : Code.member? written = some c) : CodeMember.of written = .known c := by
  simp only [CodeMember.of,known]

theorem unknown_code {written : Text} (unknown : Code.member? written = none) : CodeMember.of written = .minted written := by
  simp only [CodeMember.of,unknown]

theorem hidden_plain (hidden : hidesType p = true) : httpErrorFromProblem (some p) = .loomHttpError := by
  simp only [hidesType,Bool.and_eq_true,Option.isNone_iff_eq_none] at hidden
  cases code : p.code with
  | none => simp [code] at hidden
  | some written =>
    have unknown : Code.member? written = none := by simpa [code] using hidden.1.2
    simp only [httpErrorFromProblem,Option.bind_some,problemCode,code,unknown_code unknown,CodeMember.toException]

theorem http_error_category (named : namedCategory p = some c) :
    httpErrorFromProblem (some p) = c.toException ↔ hidesType p = false := by
  unfold namedCategory at named
  cases code : p.code with
  | none =>
    have category : typeCategory p.type = some c := by simpa [code] using named
    have read : problemCode p = some (.known c) := by
      unfold typeCategory at category
      split at category
      · rename_i under
        simp only [problemCode,code,under,if_true,known_code category]
      · cases category
    refine iff_of_true ?_ (by simp [hidesType,code])
    simp only [httpErrorFromProblem,Option.bind_some,read,CodeMember.toException]
  | some written =>
    cases known : Code.member? written with
    | some d =>
      have same : d = c := by simpa [code,known] using named
      subst same
      refine iff_of_true ?_ (by simp [hidesType,code,known])
      simp only [httpErrorFromProblem,Option.bind_some,problemCode,code,known_code known,CodeMember.toException]
    | none =>
      have category : typeCategory p.type = some c := by simpa [code,known] using named
      refine iff_of_false ?_ (by simp [hidesType,code,known,category])
      simp only [httpErrorFromProblem,Option.bind_some,problemCode,code,unknown_code known,CodeMember.toException]
      exact fun same => c.exception_specific.1 same.symm

end LoomClient.Transport
