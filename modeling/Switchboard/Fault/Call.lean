import Switchboard.Fault.Bus

/-
  Failures of remote calls.

  Whatever goes wrong with a call reaches the caller as a `CallFault`: a code,
  a message, the number of attempts made, and whether trying again may help.

  * `CallFault.ofBus` classifies a failure of the bus;
  * `CallFault.userMessage` is the wording for an end user;
  * `toJson` and `ofJson` write and read one.
-/

namespace Switchboard

/-- A failed call. -/
structure CallFault where
  code : FaultCode
  message : String
  topic : Option String
  attempts : Nat
  retriable : Bool
  status : Nat
  details : Option Json
  deriving Repr

namespace CallFault

/-- A failure whose flags are those of its code. -/
def ofCode (code : FaultCode) (message : String) : CallFault :=
  ⟨code, message, none, 0, code.isRetriable, code.status, none⟩

def onTopic (topic : String) (f : CallFault) : CallFault := { f with topic := some topic }

/-- The refusal of a call whose circuit is open. -/
def circuitOpen (topic : String) : CallFault :=
  (ofCode .circuitOpen ("Circuit breaker open for topic '" ++ topic ++ "'")).onTopic topic

def timedOut (topic : String) (ms : Nat) : CallFault :=
  (ofCode .timeout (BusFault.timeoutText topic ms)).onTopic topic

def ofHandlerFault (f : HandlerFault) : CallFault := ofCode f.effectiveCode f.message

def toHandlerFault (f : CallFault) : HandlerFault := ⟨f.message, some f.code⟩

/-- The code and message under which a bus failure reaches a caller. -/
def classify : BusFault → FaultCode × String
  | .handler f | .remote f => (f.effectiveCode, f.message)
  | f =>
    let code : FaultCode := match f with
      | .invalidPattern .. | .invalidTopic .. => .invalidRequest
      | .timeout .. => .timeout
      | .channelClosed => .networkError
      | _ => .serviceUnavailable
    (code, f.message)

/-- Whether a bus failure never passes for this caller. -/
def isTerminal : BusFault → Bool
  | .shutdown | .noRuntime => true
  | _ => false

/-- A bus failure as the failure of a call on `topic`. -/
def ofBus (fault : BusFault) (topic : String) : CallFault :=
  let (code, message) := classify fault
  let f := (ofCode code message).onTopic topic
  if isTerminal fault then { f with retriable := false } else f

/-- A failure on one line. -/
def display (f : CallFault) : String := f.code.name ++ ": " ++ f.message

/-- What an end user is told about a code. -/
def summary : FaultCode → String
  | .invalidRequest | .validationError => "The request was invalid"
  | .unauthorized => "Authentication is required"
  | .forbidden => "You do not have permission to perform this action"
  | .notFound => "The requested resource was not found"
  | .conflict => "The request conflicts with the current state"
  | .internalError => "An internal error occurred"
  | .serviceUnavailable | .circuitOpen =>
    "The service is temporarily unavailable, please try again later"
  | .timeout | .connectionTimeout => "The service took too long to respond"
  | .networkError | .connectionRefused => "The service could not be reached"

/-- Whether an end user is shown the message behind a code. -/
def showsMessage : FaultCode → Bool
  | .invalidRequest | .validationError | .notFound | .conflict => true
  | _ => false

/-- The wording for an end user. -/
def userMessage (f : CallFault) : String :=
  if showsMessage f.code then summary f.code ++ ": " ++ f.message else summary f.code ++ "."

def toJson (f : CallFault) : Json :=
  .record
    [("code", some (.str f.code.name)), ("message", some (.str f.message)),
     ("topic", f.topic.map .str), ("attempts", some (.nat f.attempts)),
     ("retriable", some (.bool f.retriable)), ("statusCode", some (.nat f.status)),
     ("details", f.details)]

def ofJson (v : Json) : Except Json.Mismatch CallFault := do
  let ms ← Json.membersOf "a call fault"
    ["code", "message", "topic", "attempts", "retriable", "statusCode", "details"] v
  let attempts ← Json.withDefault ms "attempts" 0 (Json.word 32)
  let code ← Json.required ms "code" (Json.named FaultCode.names)
  let details ← Json.optional ms "details" .ok
  let message ← Json.required ms "message" Json.text
  let retriable ← Json.required ms "retriable" Json.boolean
  let status ← Json.required ms "statusCode" (Json.word 16)
  let topic ← Json.optional ms "topic" Json.text
  return ⟨code, message, topic, attempts, retriable, status, details⟩

end CallFault

end Switchboard
