import Switchboard.Bus.Stats
import Switchboard.Hub
import Switchboard.Plugin.Registry
import Switchboard.Scenario.Answer
import Switchboard.Sweep

/-
  The world of a scenario — one bus, one caller, one hub, one registry of
  plugins, and a clock.

  Everything that happens changes a `World`.  Subscriptions go by the labels
  that steps have given them; what handlers do, and calls that end in the
  background, is noted down until the step that let it happen is answered.

  * `Flight` is a call under way, `Running` a scripted handler at work;
  * `World.idOf` and `World.labelOf` translate between labels and ids.
-/

namespace Switchboard.Scenario

/-- A scripted handler at work. -/
structure Running where
  script : Script
  message : Message
  outcome : Outcome
  /-- the acts it has not done yet -/
  acts : List Json
  /-- when its sleep is over -/
  wake : Option Nat
  deriving Repr

/-- A receiver of a fan-out: at work, or done and whether it succeeded. -/
inductive Receiver where
  | working (handler : Running)
  | done (succeeded : Bool)
  deriving Repr

/-- A call under way. -/
inductive Activity where
  | request (ticket : Ticket)
  | call (call : Call) (shape : Option ReplyShape)
  | fanOut (topic : String) (receivers : List Receiver)
  deriving Repr

/-- A call in the background. -/
structure Flight where
  label : String
  activity : Activity
  deriving Repr

/-- A plugin context, and whether the registry has given it. -/
structure HeldContext where
  context : PluginContext
  registered : Bool
  deriving Repr

structure World where
  now : Nat := 0
  bus : Bus Script
  caller : Caller
  hub : Hub Script
  registry : Registry := {}
  /-- whether the registry looks after the hub -/
  hubAttached : Bool := true
  contexts : Table String HeldContext := {}
  /-- calls denied by guards outside the registry -/
  deniedOutside : Nat := 0
  ids : Table String String := {}
  labels : Table String String := {}
  /-- how many scripts there are -/
  scripts : Nat := 0
  /-- how often each script was called -/
  calls : Table Nat Nat := {}
  /-- the last message that the handler of a label has seen -/
  seen : Table String Message := {}
  /-- the handler that the drainer waits for -/
  running : Option Running := none
  flights : List Flight := []
  callerSweep : Option SweepTask := none
  hubSweep : Option SweepTask := none
  /-- how many events of the hub were read -/
  eventsRead : Nat := 0
  /-- what handlers did, the latest first -/
  log : List Json := []
  /-- background calls that have ended, the latest first -/
  ended : List Json := []
  deriving Repr

namespace World

/-! ## Names and notes -/

/-- The id behind a label; an unknown label is an id itself. -/
def idOf (w : World) (label : String) : String := (w.ids.get? label).getD label

/-- The label of an id; an unknown id is shown itself. -/
def labelOf (w : World) (id : String) : String := (w.labels.get? id).getD id

/-- Gives an id a label. -/
def name (w : World) (label id : String) : World :=
  { w with ids := w.ids.put label id, labels := w.labels.put id label }

def note (w : World) (entry : Json) : World := { w with log := entry :: w.log }

/-- A new script. -/
def script (w : World) (label : String) (role : Role) (outcomes : List Outcome) : Script × World :=
  (⟨w.scripts, label, role, outcomes⟩, { w with scripts := w.scripts + 1 })

/-! ## Calls of handlers -/

/-- The line of the log that shows a handler being called. -/
def calledEntry (w : World) (s : Script) (o : Outcome) (m : Message) : Json :=
  if s.role = .subscriber then
    .obj
      [("h", .str s.label), ("at", .nat w.now), ("topic", .str m.topic), ("payload", m.payload),
       ("priority", .str m.priority.label), ("attempts", .nat m.attempts.toNat),
       ("max_retries", .nat m.maxRetries.toNat),
       ("correlation_id", Json.orNull .str m.correlation),
       ("reply_to", Json.orNull .str m.replyTo), ("expires", .bool m.expiresAt.isSome)]
  else
    .record
      [("rpc", some (.str s.label)), ("at", some (.nat w.now)), ("payload", some m.payload),
       ("sync", if o.early then some (.bool true) else none)]

/-- Calls a scripted handler: the call is counted and noted, and its acts lie
    ahead.  A responder is given the payload alone and sees no message. -/
def callScript (w : World) (s : Script) (m : Message) : Running × World :=
  let n := (w.calls.get? s.number).getD 0
  let o := s.outcomeAt n
  let early := o.early && s.role ≠ .subscriber
  let o := { o with early }
  let seen := if s.role = .subscriber then w.seen.put s.label m else w.seen
  let w := { w with calls := w.calls.put s.number (n + 1), seen }
  (⟨s, m, o, if early then [] else o.acts, none⟩, w.note (w.calledEntry s o m))

/-! ## Services of plugins -/

/-- What the calls of a plugin context act upon. -/
def services (w : World) (held : HeldContext) : Services Script :=
  ⟨w.bus, w.caller, if held.registered then w.registry.denied else w.deniedOutside⟩

/-- Takes back what the call of a context has changed. -/
def takeBack (w : World) (label : String) (held : HeldContext) (x : PluginContext)
    (s : Services Script) : World :=
  let w := { w with
    bus := s.bus, caller := s.caller
    contexts := w.contexts.put label { held with context := x } }
  if held.registered then { w with registry := { w.registry with denied := s.denied } }
  else { w with deniedOutside := s.denied }

/-- The stores that the registry looks after. -/
def stores (w : World) : Stores Script := ⟨w.bus, if w.hubAttached then some w.hub else none⟩

def putStores (w : World) (s : Stores Script) : World :=
  { w with bus := s.bus, hub := s.hub.getD w.hub }

end World

end Switchboard.Scenario
