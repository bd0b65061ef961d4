/-
  Codes of failed calls.

  A code says what kind of failure a caller met, whether trying again may
  help, and which status belongs to it.

  * `FaultCode.name` is the name of a code, `FaultCode.ofName?` reads it;
  * `FaultCode.guess` takes the code from the wording of a failure that
    carries none: the first row of `clues` with a phrase that occurs in it.
-/

namespace Switchboard

/-- What kind of failure a caller met. -/
inductive FaultCode where
  | invalidRequest
  | unauthorized
  | forbidden
  | notFound
  | conflict
  | validationError
  | internalError
  | serviceUnavailable
  | timeout
  | circuitOpen
  | networkError
  | connectionRefused
  | connectionTimeout
  deriving DecidableEq, Repr

namespace FaultCode

def all : List FaultCode :=
  [.invalidRequest, .unauthorized, .forbidden, .notFound, .conflict, .validationError,
   .internalError, .serviceUnavailable, .timeout, .circuitOpen, .networkError,
   .connectionRefused, .connectionTimeout]

def name : FaultCode → String
  | .invalidRequest => "INVALID_REQUEST"
  | .unauthorized => "UNAUTHORIZED"
  | .forbidden => "FORBIDDEN"
  | .notFound => "NOT_FOUND"
  | .conflict => "CONFLICT"
  | .validationError => "VALIDATION_ERROR"
  | .internalError => "INTERNAL_ERROR"
  | .serviceUnavailable => "SERVICE_UNAVAILABLE"
  | .timeout => "TIMEOUT"
  | .circuitOpen => "CIRCUIT_BREAKER_OPEN"
  | .networkError => "NETWORK_ERROR"
  | .connectionRefused => "CONNECTION_REFUSED"
  | .connectionTimeout => "CONNECTION_TIMEOUT"

/-- The code with a name. -/
def ofName? (s : String) : Option FaultCode := all.find? (·.name = s)

/-- The wording for a name that belongs to no code. -/
def unknownName (s : String) : String := "Unknown RPC error code: " ++ s

/-- Names and codes side by side, as written in values. -/
def names : List (String × FaultCode) := all.map fun c => (c.name, c)

/-- Whether a call that failed so may succeed when made again. -/
def isRetriable : FaultCode → Bool
  | .serviceUnavailable | .timeout | .networkError | .connectionRefused | .connectionTimeout => true
  | _ => false

/-- The status shown for a code. -/
def status : FaultCode → Nat
  | .invalidRequest => 400
  | .unauthorized => 401
  | .forbidden => 403
  | .notFound => 404
  | .conflict => 409
  | .validationError => 422
  | .internalError => 500
  | .networkError => 502
  | .serviceUnavailable | .circuitOpen | .connectionRefused => 503
  | .timeout | .connectionTimeout => 504

/-! ## Guessing a code -/

/-- Whether a phrase occurs in a text. -/
def occurs (phrase : List Char) : List Char → Bool
  | [] => phrase.isEmpty
  | c :: r => phrase.isPrefixOf (c :: r) || occurs phrase r

/-- Codes with the phrases that speak for them, the strongest first. -/
def clues : List (FaultCode × List String) :=
  [(.connectionRefused, ["connection refused", "econnrefused"]),
   (.connectionTimeout, ["connection timed out", "connect timeout", "etimedout"]),
   (.timeout, ["timeout", "timed out"]),
   (.serviceUnavailable, ["unavailable", "no subscriber"]),
   (.networkError, ["network", "connection reset", "broken pipe"]),
   (.unauthorized, ["unauthorized", "unauthenticated"]),
   (.forbidden, ["forbidden", "permission denied", "not allowed"]),
   (.notFound, ["not found"]),
   (.conflict, ["conflict", "already exists"]),
   (.validationError, ["invalid", "validation", "malformed"])]

/-- The code that the wording of a failure speaks for; letters from A to Z count
    like their small ones, and nothing else is taken for a letter of a phrase. -/
def guess (message : String) : FaultCode :=
  let text := message.toList.map Char.toLower
  match clues.find? fun row => row.2.any fun p => occurs p.toList text with
  | some row => row.1
  | none => .internalError

end FaultCode

end Switchboard
