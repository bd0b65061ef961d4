import Switchboard.Scenario.Handler

/-
  Calls under way — how they begin, and how they are carried on.

  * `World.start` opens a call and carries it on as far as it can go;
  * `World.attend` looks after one that waits;
  * `Activity.wakesAt?` is the time at which one goes on by itself.
-/

namespace Switchboard.Scenario

/-- What became of a call that was looked after. -/
inductive Progress where
  /-- it waits; `moved` says whether it did anything -/
  | waiting (activity : Activity) (moved : Bool)
  | finished (r : Json)
  deriving Repr

namespace Activity

/-- When a receiver wakes up. -/
def receiverWake? : Receiver → Option Nat
  | .working h => h.wake
  | .done _ => none

/-- The time at which a waiting call goes on by itself. -/
def wakesAt? : Activity → Option Nat
  | request t => some t.deadline
  | call c _ => Caller.wakesAt? c
  | fanOut _ receivers => (receivers.map receiverWake?).foldl earlier none

end Activity

namespace World

/-! ## Fanning out -/

/-- Where a receiver stands after it was carried on. -/
def receiverOf : HandlerProgress → Receiver
  | .asleep h => .working h
  | .ended (.returned _) => .done true
  | .ended _ => .done false

/-- Calls the receivers of a fan-out, each up to its first wait. -/
def callReceivers (m : Message) : List (Subscription Script) → World → List Receiver × World
  | [], w => ([], w)
  | s :: rest, w =>
    let (h, w) := w.callScript s.handler m
    let (p, w) := w.resume h
    let (receivers, w) := callReceivers m rest w
    (receiverOf p :: receivers, w)

/-- Carries on the receivers that are awake; answers whether there were any. -/
def resumeReceivers : List Receiver → World → (List Receiver × Bool) × World
  | [], w => (([], false), w)
  | .working h :: rest, w =>
    if sleepsOn w.now h then
      let ((receivers, moved), w) := resumeReceivers rest w
      ((.working h :: receivers, moved), w)
    else
      let (p, w) := w.resume h
      let ((receivers, _), w) := resumeReceivers rest w
      ((receiverOf p :: receivers, true), w)
  | .done b :: rest, w =>
    let ((receivers, moved), w) := resumeReceivers rest w
    ((.done b :: receivers, moved), w)

def succeeded : Receiver → Bool
  | .done b => b
  | .working _ => false

def isWorking : Receiver → Bool
  | .working _ => true
  | .done _ => false

/-- Ends a fan-out none of whose receivers is at work. -/
def settleFanOut (w : World) (topic : String) (receivers : List Receiver) (moved : Bool) :
    Progress × World :=
  if receivers.any isWorking then (.waiting (.fanOut topic receivers) moved, w)
  else
    let delivered := receivers.countP succeeded
    (.finished (Answer.ok (.nat delivered)),
      { w with hub := w.hub.conclude topic receivers.length delivered })

/-! ## Looking after calls -/

def callProgress (w : World) (shape : Option ReplyShape) (topic : String) (moved : Bool) :
    Caller.CallProgress → Progress × World
  | .waiting c => (.waiting (.call c shape) moved, w)
  | .finished r => (.finished (Answer.ofCall topic shape r), w)

/-- Looks after a call under way. -/
def attend (w : World) : Activity → Progress × World
  | .request t =>
    match w.bus.attend w.now t with
    | (none, bus) => (.waiting (.request t) false, { w with bus })
    | (some r, bus) => (.finished (Answer.either Answer.ofBusFault Answer.ok r), { w with bus })
  | .call c shape =>
    let (p, caller, bus) := w.caller.poll w.bus w.now CallerConfig.fullDraws c
    let moved : Bool := match p with
      | .waiting later => later.phase ≠ c.phase
      | .finished _ => true
    { w with caller, bus }.callProgress shape c.topic moved p
  | .fanOut topic receivers =>
    let ((receivers, moved), w) := resumeReceivers receivers w
    w.settleFanOut topic receivers moved

/-- Opens a call. -/
def start (w : World) : CallStep → Progress × World
  | .request topic payload o =>
    match w.bus.openRequest w.now topic payload o with
    | (.ok t, bus) => { w with bus }.attend (.request t)
    | (.error f, bus) => (.finished (Answer.ofBusFault f), { w with bus })
  | .call topic payload o shape =>
    let (p, caller, bus) :=
      w.caller.place w.bus w.now CallerConfig.fullDraws topic payload o
    { w with caller, bus }.callProgress shape topic true p
  | .pluginCall context topic payload o =>
    match w.contexts.get? context with
    | none => (.finished (.obj [("error", .str "NoContext")]), w)
    | some held =>
      let (result, x, s) :=
        held.context.request (w.services held) w.now CallerConfig.fullDraws topic payload o
      let w := w.takeBack context held x s
      match result with
      | .ok p => w.callProgress none topic true p
      | .error f => (.finished (Answer.ofPluginFault f), w)
  | .fanOut topic payload =>
    match w.hub.publish w.now topic payload with
    | (.error f, hub) => (.finished (Answer.ofBusFault f), { w with hub })
    | (.ok fan, hub) =>
      let (receivers, w) := callReceivers fan.message fan.receivers { w with hub }
      w.settleFanOut topic receivers true

end World

end Switchboard.Scenario
