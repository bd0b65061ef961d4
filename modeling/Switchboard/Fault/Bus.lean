import Switchboard.Fault.Handler

/-
  Failures of the bus.

  A request or a registration fails for one of ten causes; `BusFault.message`
  words each of them.
-/

namespace Switchboard

/-- Why the bus refused something, or could not deliver it. -/
inductive BusFault where
  /-- the pattern is malformed, or of a form not accepted here -/
  | invalidPattern (pattern reason : String)
  /-- the topic may not be published -/
  | invalidTopic (topic reason : String)
  /-- nobody listened when the request was taken from the queue -/
  | noSubscriber (topic : String)
  /-- no reply came in time -/
  | timeout (topic : String) (ms : Nat)
  /-- delivery failed on its last attempt -/
  | handler (fault : HandlerFault)
  /-- the responder answered with a failure -/
  | remote (fault : HandlerFault)
  /-- the request was pushed out of a full queue -/
  | queueOverflow (topic : String)
  | shutdown
  | channelClosed
  | noRuntime
  deriving DecidableEq, Repr

namespace BusFault

/-- The cause by name. -/
def kind : BusFault → String
  | .invalidPattern .. => "InvalidPattern"
  | .invalidTopic .. => "InvalidTopic"
  | .noSubscriber _ => "NoSubscriber"
  | .timeout .. => "Timeout"
  | .handler _ => "Handler"
  | .remote _ => "Remote"
  | .queueOverflow _ => "QueueOverflow"
  | .shutdown => "Shutdown"
  | .channelClosed => "ChannelClosed"
  | .noRuntime => "NoRuntime"

/-- The wording of a request that ran out of time. -/
def timeoutText (topic : String) (ms : Nat) : String :=
  "Request to '" ++ topic ++ "' timed out after " ++ toString ms ++ "ms"

def message : BusFault → String
  | .invalidPattern p r => "Invalid pattern '" ++ p ++ "': " ++ r
  | .invalidTopic t r => "Invalid topic '" ++ t ++ "': " ++ r
  | .noSubscriber t => "No subscriber for topic '" ++ t ++ "'"
  | .timeout t ms => timeoutText t ms
  | .handler f => "Handler failed: " ++ f.display
  | .remote f => "Remote handler error: " ++ f.display
  | .queueOverflow t => "Message evicted from a full queue (topic '" ++ t ++ "')"
  | .shutdown => "Message bus is shut down"
  | .channelClosed => "Reply channel closed"
  | .noRuntime => "No async runtime available to drain the queue"

/-- Whether the caller's own input was refused. -/
def isValidation : BusFault → Bool
  | .invalidPattern .. | .invalidTopic .. => true
  | _ => false

/-- A bus failure as the failure of the handler that met it. -/
def toHandlerFault : BusFault → HandlerFault
  | .handler f | .remote f => f
  | f => .plain f.message

end BusFault

end Switchboard
