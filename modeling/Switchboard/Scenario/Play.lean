import Switchboard.Scenario.Clock

/-
  Playing a scenario.

  A scenario is written as an object: the settings of the bus, the hub and the
  caller, and the list of steps.  Every step is answered with its result, what
  handlers did during it, and the background calls that ended during it.

  * `World.take` does one step;
  * `play` answers a whole scenario;
  * `playUnhosted` answers one on a bus that has no host for its drainer.
-/

namespace Switchboard.Scenario

/-! ## Steps -/

namespace World

/-- Begins a call; one in the foreground is waited for. -/
def call (w : World) (c : CallStep) (background : Bool) (label : String) : Json × World :=
  match w.start c with
  | (.finished r, w) =>
    let answer := Answer.finished w.now r
    if background then (answer, w) else w.await (.finished answer)
  | (.waiting a _, w) =>
    if background then (.str "started", { w with flights := w.flights ++ [⟨label, a⟩] })
    else w.await (.waiting a)

/-- Does one step and answers it. -/
def take (w : World) : Step → Json × World
  | .plain s => w.perform s
  | .call c background label => w.call c background label
  | .callerStart =>
    let task := SweepTask.starting w.now w.caller.config.sweepPeriodMs
    (.null, ({ w with callerSweep := some task }.rest .none).2)
  | .hubStart =>
    let task := SweepTask.starting w.now w.hub.config.sweepPeriodMs
    (.null, ({ w with hubSweep := some task }.rest .none).2)
  | .run => (.nat w.now, (w.rest .none).2)
  | .advance ms =>
    let w := w.advance ms
    (.nat w.now, w)

/-- A list of notes, latest first, unless there are none. -/
def notes (entries : List Json) : Option Json :=
  if entries.isEmpty then none else some (.arr entries.reverse)

/-- Does a written step; the answer holds what was noted on the way. -/
def answerStep (w : World) (v : Json) : Json × World :=
  let (r, w) := match Step.ofJson v with
    | .ok s => w.take s
    | .error d => (Answer.ofDefect d, w)
  (.record [("r", some r), ("log", notes w.log), ("done", notes w.ended)],
    { w with log := [], ended := [] })

def answerSteps : List Json → World → List Json
  | [], _ => []
  | v :: rest, w =>
    let (r, w) := w.answerStep v
    r :: answerSteps rest w

end World

/-! ## Scenarios -/

/-- The world in which a written scenario begins. -/
def worldOf (fs : Fields) (hosted : Bool) : Except Defect World := do
  let bus ← orElse fs "bus" {} (BusConfig.ofJson .refused)
  let hub ← orElse fs "patterns" {} (HubConfig.ofJson .refused)
  let caller ← orElse fs "rpc" {} (CallerConfig.ofJson .refused)
  return {
    bus := .create bus hosted
    caller := .create caller
    hub := .create hub
    hubAttached := !isSet fs "registry_without_patterns" }

/-- Answers a scenario. -/
def play (v : Json) : Json :=
  let fs := fieldsOf v
  let answers : Except Defect (List Json) := do
    let w ← worldOf fs true
    let steps ← need fs "steps" (Json.listOf .ok)
    return w.answerSteps steps
  match answers with
  | .ok rs => .obj [("steps", .arr rs)]
  | .error d => Answer.ofDefect d

/-! ## Without a host -/

/-- Does a step where nothing is ever delivered. -/
def unhostedStep (w : World) (v : Json) : Except Defect (Json × World) := do
  let fs := fieldsOf v
  let kind ← need fs "do" Json.text
  match kind with
  | "stats" => return w.perform .busStats
  | "rpc_stats" => return w.perform .callerStats
  | "shutdown" => return (.null, (w.perform .shutdown).2)
  | _ =>
    let topic ← need fs "topic" Json.text
    let payload := content fs "payload"
    let answered (c : CallStep) : Json × World := match w.start c with
      | (.finished r, w) => (r, w)
      | (.waiting _ _, w) => (.null, w)
    match kind with
    | "publish" => return w.publish topic payload {}
    | "rpc_handler" =>
      let (r, w) := w.listen .responder topic "ok" [] {}
      return ((r.field? "ok").getD r, w)
    | "request" => return answered (.request topic payload {})
    | "rpc_request" => return answered (.call topic payload {} none)
    | "pm_publish" => return answered (.fanOut topic payload)
    | _ => .error ⟨"do"⟩

def unhostedSteps : List Json → World → Except Defect (List Json)
  | [], _ => .ok []
  | v :: rest, w => do
    let (r, w) ← unhostedStep w v
    let rs ← unhostedSteps rest w
    .ok (r :: rs)

/-- Answers a scenario on a bus without a host. -/
def playUnhosted (v : Json) : Json :=
  let fs := fieldsOf v
  let answers : Except Defect (List Json) := do
    let w ← worldOf fs false
    unhostedSteps (← need fs "steps" (Json.listOf .ok)) w
  match answers with
  | .ok rs => .obj [("steps", .arr rs)]
  | .error d => Answer.ofDefect d

end Switchboard.Scenario
