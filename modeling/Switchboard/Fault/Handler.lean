import Switchboard.Fault.Code
import Switchboard.Json.Shape
import Switchboard.Json.Reader

/-
  Failures of handlers, and the replies that carry them.

  A handler fails with a message and, if it knows one, a code.  A responder
  sends its failure back in an envelope: an object whose only key is `error`.

  * `HandlerFault` with `display`, `toJson` and `ofJson`;
  * `envelope` wraps a failure, `openEnvelope?` tells an envelope from an
    ordinary reply.
-/

namespace Switchboard

/-- A failure of a handler. -/
structure HandlerFault where
  message : String
  code : Option FaultCode
  deriving DecidableEq, Repr

namespace HandlerFault

def plain (message : String) : HandlerFault := ⟨message, none⟩

/-- The failure of a handler that panicked with a text. -/
def panicked (text : String) : HandlerFault := plain ("Handler panicked: " ++ text)

/-- The failure to read a text as JSON. -/
def ofSyntaxError (e : Json.SyntaxError) : HandlerFault := ⟨e.message, some .invalidRequest⟩

/-- A failure on one line. -/
def display (f : HandlerFault) : String :=
  match f.code with
  | some c => "[" ++ c.name ++ "] " ++ f.message
  | none => f.message

/-- The code of a failure, guessed from its message if it carries none. -/
def effectiveCode (f : HandlerFault) : FaultCode := f.code.getD (FaultCode.guess f.message)

def toJson (f : HandlerFault) : Json :=
  .record [("message", some (.str f.message)), ("code", f.code.map fun c => .str c.name)]

def ofJson (v : Json) : Except Json.Mismatch HandlerFault := do
  let ms ← Json.membersOf "a handler fault" ["message", "code"] v
  let code ← Json.optional ms "code" (Json.named FaultCode.names)
  let message ← Json.required ms "message" Json.text
  return ⟨message, code⟩

end HandlerFault

/-! ## Envelopes -/

/-- The reply of a responder that failed. -/
def envelope (f : HandlerFault) : Json := .obj [("error", f.toJson)]

/-- The failure inside a reply that is an envelope: an object whose only key
    is `error`, holding an object with a textual `message`. -/
def openEnvelope? (reply : Json) : Option HandlerFault :=
  match reply with
  | .obj [("error", inner)] =>
    match inner.field? "message" with
    | some (.str _) => (HandlerFault.ofJson inner).toOption
    | _ => none
  | _ => none

end Switchboard
