import Switchboard.Bus.Delivery
import Switchboard.Scenario.Field

/-
  Scripted handlers — what a handler does, written down in advance.

  A script lists outcomes: the first call of the handler has the first one, and
  so on, the last one staying for all further calls.  An outcome is a list of
  acts, done in order, and an end: success, failure or panic.

  * `Outcome` and `Script`, and how outcomes are read;
  * `Outcome.ending` is the end of a call as the bus takes it in.
-/

namespace Switchboard.Scenario

/-- How a call of a scripted handler ends. -/
inductive OutcomeEnd where
  /-- with an answer, or with the payload if none is given -/
  | success (answer : Option Json)
  | failure (message : String) (code : Option FaultCode)
  /-- with a text, unless the panic carries none -/
  | panic (text : Option String)
  deriving Repr

/-- What one call of a scripted handler does. -/
structure Outcome where
  /-- acts as written; each is read when its turn comes -/
  acts : List Json := []
  close : OutcomeEnd := .success none
  /-- whether a responder panics before it has begun to run -/
  early : Bool := false
  deriving Repr

instance : Inhabited Outcome := ⟨{}⟩

namespace Outcome

/-- The text of a panic, unless it is of a kind that carries none. -/
def panicText (kind : Option String) (text : String) : Option String :=
  if kind = some "other" then none else some text

def readClose (fs : Fields) : Except Defect OutcomeEnd := do
  match ← may fs "panic" Json.text with
  | some text =>
    let kind ← may fs "panic_kind" Json.text
    return .panic (panicText kind text)
  | none =>
    match ← may fs "fail" Json.text with
    | some message =>
      let code ← may fs "code" (Json.named FaultCode.names)
      return .failure message code
    | none => return .success (fs.lookup "ret")

def ofJson (v : Json) : Except Defect Outcome := do
  let fs := fieldsOf v
  let acts ← orElse fs "acts" [] (Json.listOf .ok)
  let close ← readClose fs
  return { acts, close, early := isSet fs "sync" }

/-- The outcomes of a step that names a handler. -/
def listOfFields (fs : Fields) : Except Defect (List Outcome) := do
  let items ← orElse fs "h" [] (Json.listOf .ok)
  items.mapM ofJson

end Outcome

/-- Whether a script plays a subscriber, a responder, or a responder whose
    failures always carry a code. -/
inductive Role where
  | subscriber
  | responder
  | server
  deriving DecidableEq, Repr

/-- A scripted handler; the number tells handlers apart. -/
structure Script where
  number : Nat
  label : String
  role : Role
  outcomes : List Outcome
  deriving Repr

namespace Script

/-- What the call with an index does. -/
def outcomeAt (s : Script) (n : Nat) : Outcome :=
  (s.outcomes[n]?.or s.outcomes.getLast?).getD {}

/-- The failure of a panic. -/
def panicFault (text : Option String) : HandlerFault := .panicked (text.getD "unknown panic")

/-- How a call with an outcome ends. -/
def ending (s : Script) (o : Outcome) (payload : Json) : Ending :=
  match o.close with
  | .success answer => .returned (answer.getD payload)
  | .failure message code =>
    let code := if s.role = .server then code.or (some .internalError) else code
    .failed ⟨message, code⟩
  | .panic text => if o.early then .broke (panicFault text) else .failed (panicFault text)

end Script

end Switchboard.Scenario
