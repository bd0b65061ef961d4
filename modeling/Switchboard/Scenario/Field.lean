import Switchboard.Json.Shape
import Switchboard.Message

/-
  Fields of a written step.

  A step is an object; each of its fields is read on its own, and one that is
  missing or cannot be read is reported by its name.

  * `need`, `may` and `orElse` read a field that has to be there, may be there,
    or has a value of its own;
  * `Publication` gathers the fields that say how a message is published.
-/

namespace Switchboard.Scenario

/-- A field that is missing or cannot be read. -/
structure Defect where
  field : String
  deriving DecidableEq, Repr

abbrev Fields := List (String × Json)

/-- The fields of a written step; nothing else has fields. -/
def fieldsOf : Json → Fields
  | .obj ms => ms
  | _ => []

def readAs (key : String) (shape : Json.Shape α) (v : Json) : Except Defect α :=
  match shape v with
  | .ok a => .ok a
  | .error _ => .error ⟨key⟩

/-- A field that has to be there. -/
def need (fs : Fields) (key : String) (shape : Json.Shape α) : Except Defect α :=
  match fs.lookup key with
  | some v => readAs key shape v
  | none => .error ⟨key⟩

/-- A field that has a value of its own when it is absent. -/
def orElse (fs : Fields) (key : String) (a : α) (shape : Json.Shape α) : Except Defect α :=
  match fs.lookup key with
  | some v => readAs key shape v
  | none => .ok a

/-- A field that may be absent or `null`. -/
def may (fs : Fields) (key : String) (shape : Json.Shape α) : Except Defect (Option α) :=
  orElse fs key none (Json.nullable shape)

/-- Whether a field is there, whatever it holds. -/
def isSet (fs : Fields) (key : String) : Bool := (fs.lookup key).isSome

/-- Free content; absent content is `null`. -/
def content (fs : Fields) (key : String) : Json := (fs.lookup key).getD .null

def count32 (fs : Fields) (key : String) : Except Defect (Option UInt32) :=
  return (← may fs key (Json.word 32)).map UInt32.ofNat

def priority (fs : Fields) : Except Defect Priority :=
  orElse fs "priority" .normal (Json.named Priority.names)

/-! ## How a message is published -/

/-- How a message is published, its absolute expiry still counted from the
    present. -/
structure Publication where
  priority : Priority := .normal
  maxRetries : Option UInt32 := none
  expiry : Option Nat := none
  expiresIn : Option Int := none
  correlation : Option String := none
  replyTo : Option String := none
  deriving Repr, Inhabited

namespace Publication

def ofFields (fs : Fields) : Except Defect Publication := do
  let priority ← Scenario.priority fs
  let maxRetries ← count32 fs "max_retries"
  let expiryMs ← may fs "expiry_ms" (Json.word 64)
  let expirySecs ← may fs "expiry_secs" (Json.word 64)
  let expiresIn ← may fs "expires_at_ms" Json.int64
  let correlation ← may fs "correlation_id" Json.text
  let replyTo ← may fs "reply_to" Json.text
  return { priority, maxRetries, expiry := (expirySecs.map (· * 1000)).or expiryMs, expiresIn,
           correlation, replyTo }

def toOptions (p : Publication) (now : Nat) : PublishOptions :=
  { priority := p.priority, maxRetries := p.maxRetries, expiry := p.expiry
    expiresAt := p.expiresIn.map fun d => now + d
    correlation := p.correlation, replyTo := p.replyTo }

end Publication

end Switchboard.Scenario
