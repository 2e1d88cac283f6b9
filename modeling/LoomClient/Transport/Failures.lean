namespace LoomClient.Transport

-- The exception classes of the package, and those that its transports meet.
inductive ExceptionClass where
  | baseLoomException
  | loomTransportError
  | loomIncompatibleVersionError
  | loomBoxGateError
  | loomBoxTokenError
  | loomBoxPairingError
  | loomHttpError
  | loomValidationError
  | loomBadRequestError
  | loomNotFoundError
  | loomConflictError
  | loomAuthError
  | loomForbiddenError
  | loomUnsupportedError
  | loomFeatureUnavailableError
  | loomRateLimitedError
  | loomServiceUnreadyError
  | loomUpstreamUnavailableError
  | loomInternalError
  | loomPairingOffError
  | loomPairingNotLocalError
  | loomPairingSlowDownError
  | pairingFingerprintMismatchError
  | clientError
  | timeoutError
  | valueError
  | jsonDecodeError
  | unicodeDecodeError
  | validationError
  | recursionError
  | typeError
  | overflowError
  | attributeError
  | assertionError
  | cancelledError
  deriving DecidableEq, Repr

namespace ExceptionClass

def parent : ExceptionClass → Option ExceptionClass
  | .loomTransportError | .loomBoxPairingError | .loomHttpError => some .baseLoomException
  | .loomIncompatibleVersionError | .loomBoxGateError | .pairingFingerprintMismatchError => some .loomTransportError
  | .loomBoxTokenError => some .loomBoxGateError
  | .loomValidationError | .loomBadRequestError | .loomNotFoundError | .loomConflictError | .loomAuthError
  | .loomForbiddenError | .loomUnsupportedError | .loomRateLimitedError | .loomServiceUnreadyError
  | .loomUpstreamUnavailableError | .loomInternalError => some .loomHttpError
  | .loomFeatureUnavailableError => some .loomUnsupportedError
  | .loomPairingOffError => some .loomServiceUnreadyError
  | .loomPairingNotLocalError => some .loomForbiddenError
  | .loomPairingSlowDownError => some .loomRateLimitedError
  | .jsonDecodeError | .unicodeDecodeError | .validationError => some .valueError
  | _ => none

def lineage : Nat → ExceptionClass → List ExceptionClass
  | 0,c => [c]
  | n + 1,c => c :: match c.parent with
    | none => []
    | some p => lineage n p

-- `isinstance`. No class has more than three of the package above it.
def isA (c d : ExceptionClass) : Bool := (lineage 3 c).contains d

def isLoom (c : ExceptionClass) : Bool := c.isA .baseLoomException

-- `_RETRYABLE_EXCEPTIONS`
def retryable (c : ExceptionClass) : Bool :=
  c.isA .loomServiceUnreadyError || c.isA .loomUpstreamUnavailableError || c.isA .loomTransportError

def gateRefusal (c : ExceptionClass) : Bool := c.isA .loomBoxGateError

theorem retryable_loom (c : ExceptionClass) (again : c.retryable = true) : c.isLoom = true := by
  cases c <;> first | rfl | cases again

end ExceptionClass
end LoomClient.Transport
