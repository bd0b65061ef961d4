import Switchboard.Scenario.Answer

/-
  Sessions on circuits — calls, outcomes and passing time, one step after the
  other.  A step that cannot be read ends the session.
-/

namespace Switchboard.Scenario

/-- Circuits and a clock. -/
structure CircuitSession where
  circuits : Circuits
  now : Nat := 0
  deriving Repr

namespace CircuitSession

def take (x : CircuitSession) (v : Json) : Except Defect (Json × CircuitSession) := do
  let fs := fieldsOf v
  let kind ← need fs "do" Json.text
  let topic := (← may fs "topic" Json.text).getD "svc"
  let shown (circuits : Circuits) : Json × CircuitSession :=
    (.str (circuits.state topic).label, { x with circuits })
  match kind with
  | "acquire" =>
    let (admitted, circuits) := x.circuits.acquire x.now topic
    return (.bool admitted, { x with circuits })
  | "success" => return shown (x.circuits.succeed topic)
  | "failure" => return shown (x.circuits.fail x.now topic)
  | "state" => return shown x.circuits
  | "reset" =>
    let (known, circuits) := x.circuits.reset topic
    return (.bool known, { x with circuits })
  | "snapshots" => return (x.circuits.snapshots x.now, x)
  | "config" => return (x.circuits.config.toJson, x)
  | "advance" => return (.null, { x with now := x.now + (← need fs "ms" (Json.word 64)) })
  | _ => .error ⟨"do"⟩

def takeAll : List Json → CircuitSession → Except Defect (List Json)
  | [], _ => .ok []
  | v :: rest, x => do
    let (r, x) ← x.take v
    let rs ← takeAll rest x
    .ok (r :: rs)

/-- Answers a session. -/
def play (v : Json) : Json :=
  let fs := fieldsOf v
  let answers : Except Defect (List Json) := do
    let config ← orElse fs "config" {} (CircuitConfig.ofJson .refused)
    takeAll (← need fs "steps" (Json.listOf .ok)) { circuits := { config } }
  match answers with
  | .ok rs => .obj [("steps", .arr rs)]
  | .error d => Answer.ofDefect d

end CircuitSession

end Switchboard.Scenario
