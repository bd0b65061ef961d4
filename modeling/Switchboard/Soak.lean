import Switchboard.Bus.Drain
import Switchboard.Bus.Stats
import Switchboard.Hub
import Switchboard.Plugin.Folder
import Switchboard.Plugin.Registry
import Switchboard.Settings
import Switchboard.Soak.Report
import Switchboard.Sweep

/-
  Soak runs — the whole bus under load.

  Three plugins are loaded: `sensor` publishes readings, `monitor` counts them
  and calls `echo`, which answers with what it is sent.  A manifest read from a
  directory takes the place of the built-in one with its id; any other is loaded
  beside them.  All readings are published and all calls opened before the first
  message is delivered.  In the end every plugin is unloaded.

  * `Run` is the state of a run, `Waiting` what it waits for;
  * `Run.begin` loads the plugins, `Run.load` puts the readings and the calls
    on their way, `Run.settle` lets time pass until they have ended;
  * `Soak.run` answers the report.
-/

namespace Switchboard.Soak

/-- What listens during a run. -/
inductive Part where
  | counter
  | echo
  deriving DecidableEq, Repr

/-- Why a run was given up. -/
inductive Fault where
  | unreadable (directory : String)
  | plugin (fault : PluginFault)
  | stuck
  deriving Repr

def Fault.message : Fault → String
  | .unreadable directory => "Reading plugin manifests from " ++ directory
  | .plugin f => f.message
  | .stuck => "Message queue did not drain"

structure Run where
  now : Nat := 0
  bus : Bus Part
  caller : Caller
  hub : Hub Part
  registry : Registry := {}
  callerSweep : SweepTask
  hubSweep : SweepTask
  rejected : Nat := 0
  received : Nat := 0
  fannedOut : Nat := 0
  failedCalls : Nat := 0
  deriving Repr

/-- The contexts of the plugins that take part. -/
structure Crew where
  sensor : PluginContext
  monitor : PluginContext
  echo : PluginContext
  deriving Repr

/-- What a run waits for. -/
inductive Waiting where
  /-- the calls that have not ended -/
  | calls (left : List Call)
  /-- a bus at rest; it is looked at again at `wake`, and no more after
      `deadline` -/
  | rest (wake deadline : Nat)
  deriving Repr

namespace Run

/-! ## Beginning -/

def create (s : Settings) : Run where
  bus := .create s.bus true
  caller := .create s.caller
  hub := .create s.hub
  callerSweep := .starting 0 s.caller.sweepPeriodMs
  hubSweep := .starting 0 s.hub.sweepPeriodMs

def services (r : Run) : Services Part := ⟨r.bus, r.caller, r.registry.denied⟩

/-- Takes back what the call of a plugin has changed. -/
def takeBack (r : Run) (s : Services Part) : Run :=
  { r with bus := s.bus, caller := s.caller, registry := { r.registry with denied := s.denied } }

def loadPlugin (r : Run) (m : Manifest) : Except Fault (PluginContext × Run) :=
  match r.registry.load m with
  | (.ok x, registry) => .ok (x, { r with registry })
  | (.error f, _) => .error (.plugin f)

/-- Takes over the subscription of a plugin. -/
def subscribed (r : Run) :
    Except PluginFault String × PluginContext × Services Part → Except Fault (PluginContext × Run)
  | (.ok _, x, s) => .ok (x, r.takeBack s)
  | (.error f, _, _) => .error (.plugin f)

/-- Counts on the hub what the monitor is sent. -/
def watchHub (r : Run) : Except Fault Run :=
  match r.hub.subscribe "sensor.*.temp" .counter (.ofPlugin "monitor") with
  | (.ok _, hub) => .ok { r with hub }
  | (.error f, _) => .error (.plugin (.bus f))

/-- The manifests of the plugins that take part. -/
def builtIn : List Manifest :=
  [.ofId "sensor" { capabilities := [.publish], topics := ["sensor.*"] },
   .ofId "monitor" { capabilities := Capability.setOf [.subscribe, .call] },
   .ofId "echo" { capabilities := [.serve], topics := ["echo"] }]

/-- The manifest that was read for a plugin, or the built-in one. -/
def manifestOf (onDisk : List Manifest) (m : Manifest) : Manifest :=
  (onDisk.find? (·.id = m.id)).getD m

/-- The manifests that were read for plugins that take no part. -/
def extras (onDisk : List Manifest) : List Manifest :=
  onDisk.filter fun m => !(builtIn.map (·.id)).contains m.id

def loadAll : List Manifest → Run → Except Fault (List PluginContext × Run)
  | [], r => .ok ([], r)
  | m :: ms, r => do
    let (x, r) ← r.loadPlugin m
    let (xs, r) ← loadAll ms r
    return (x :: xs, r)

/-- Loads all plugins, and lets those that take part begin to listen. -/
def begin (s : Settings) (onDisk : List Manifest) : Except Fault (Crew × Run) := do
  let r := create s
  match ← loadAll (builtIn.map (manifestOf onDisk)) r with
  | ([sensor, monitor, echo], r) =>
    let (_, r) ← loadAll (extras onDisk) r
    let (monitor, r) ← r.subscribed (monitor.subscribePattern r.services "sensor.*" .counter)
    let r ← r.watchHub
    let (echo, r) ← r.subscribed (echo.serve r.services "echo" .echo)
    return (⟨sensor, monitor, echo⟩, r)
  | _ => .error .stuck

/-! ## Readings -/

/-- The priorities of readings take turns. -/
def priorityOf (i : Nat) : Priority :=
  match i % 3 with
  | 0 => .high
  | 1 => .normal
  | _ => .low

/-- Readings come from eight zones. -/
def topicOf (i : Nat) : String := "sensor.zone" ++ toString (i % 8) ++ ".temp"

/-- A reading: ten values, half a degree apart. -/
def reading (i : Nat) : Json :=
  let tenths := 680 + 5 * (i % 10)
  .obj [("seq", .nat i), ("value", .real ((Binary64.ofDecimal? false tenths (-1)).getD (.zero false)))]

/-- Fans a payload out; its receivers do nothing but count. -/
def fanOut (r : Run) (topic : String) (payload : Json) : Except Fault Run :=
  match r.hub.publish r.now topic payload with
  | (.error f, _) => .error (.plugin (.bus f))
  | (.ok fan, hub) =>
    let n := fan.receivers.length
    .ok { r with hub := hub.conclude topic n n, fannedOut := r.fannedOut + n }

/-- Publishes a reading on the bus and on the hub. -/
def publishReading (sensor : PluginContext) (r : Run) (i : Nat) : Except Fault Run :=
  let options : PublishOptions := { priority := priorityOf i }
  match sensor.publish r.services r.now (topicOf i) (reading i) options with
  | (.ok _, _, s) => (r.takeBack s).fanOut (topicOf i) (reading i)
  | (.error _, _, s) =>
    let r := r.takeBack s
    { r with rejected := r.rejected + 1 }.fanOut (topicOf i) (reading i)

/-- Tries to raise an alarm, which the sensor may not be permitted to. -/
def raiseAlarm (sensor : PluginContext) (r : Run) : Run :=
  r.takeBack (sensor.publish r.services r.now "alarm.raise" .null {}).2.2

/-! ## Calls -/

/-- How many calls go with a number of readings. -/
def callCount (messages : Nat) : Nat := max (messages / 10) 1

/-- Takes in where a call stands; answers it if it waits. -/
def takeCall (r : Run) : Caller.CallProgress → Option Call × Run
  | .waiting call => (some call, r)
  | .finished (.ok _) => (none, r)
  | .finished (.error _) => (none, { r with failedCalls := r.failedCalls + 1 })

/-- Opens a call to `echo`; answers it if it waits. -/
def openCall (monitor : PluginContext) (r : Run) (i : Nat) : Option Call × Run :=
  let payload := .obj [("n", .nat i)]
  match monitor.request r.services r.now CallerConfig.fullDraws "echo" payload {} with
  | (.ok p, _, s) => (r.takeBack s).takeCall p
  | (.error _, _, s) =>
    let r := r.takeBack s
    (none, { r with failedCalls := r.failedCalls + 1 })

/-- Opens the calls with the given numbers; answers those that wait. -/
def openCalls (monitor : PluginContext) : List Nat → Run → List Call × Run
  | [], r => ([], r)
  | i :: is, r =>
    let (call, r) := r.openCall monitor i
    let (calls, r) := openCalls monitor is r
    (call.toList ++ calls, r)

/-- Puts all readings and all calls on their way. -/
def load (crew : Crew) (messages : Nat) (r : Run) : Except Fault (List Call × Run) := do
  let r ← (List.range messages).foldlM (publishReading crew.sensor) r
  return openCalls crew.monitor (List.range (callCount messages)) (raiseAlarm crew.sensor r)

/-! ## Looking after what waits -/

/-- Carries calls on; answers those that still wait, and whether anything was
    done. -/
def pollCalls : List Call → Run → (List Call × Bool) × Run
  | [], r => (([], false), r)
  | c :: cs, r =>
    let (p, caller, bus) := r.caller.poll r.bus r.now CallerConfig.fullDraws c
    let (call, r) := { r with caller, bus }.takeCall p
    let moved : Bool := match call with
      | some later => later.phase ≠ c.phase
      | none => true
    let ((calls, more), r) := pollCalls cs r
    ((call.toList ++ calls, moved || more), r)

/-- The pause between two looks at the bus. -/
def lookPeriodMs : Nat := 5

/-- How long the bus is looked at. -/
def lookTimeMs : Nat := 30000

/-- What became of a run that was looked after. -/
inductive Look where
  | waiting (what : Waiting) (moved : Bool)
  | done
  | stuck
  deriving Repr

/-- Waits for a bus at rest, for the first time. -/
def awaitRest (r : Run) : Look :=
  if r.bus.isIdle then .done
  else .waiting (.rest (r.now + lookPeriodMs) (r.now + lookTimeMs)) true

/-- Looks after what a run waits for. -/
def attend (r : Run) : Waiting → Look × Run
  | .calls left =>
    match pollCalls left r with
    | (([], _), r) => (r.awaitRest, r)
    | ((later, moved), r) => (.waiting (.calls later) moved, r)
  | .rest wake deadline =>
    if r.now < wake then (.waiting (.rest wake deadline) false, r)
    else if r.bus.isIdle then (.done, r)
    else if deadline ≤ r.now then (.stuck, r)
    else (.waiting (.rest (r.now + lookPeriodMs) deadline) true, r)

/-! ## The drainer and the sweeps -/

/-- Carries a handler through; the messages that the counter saw are counted. -/
def carryHandler (seen : Nat) (call : Invocation Part) : Ending × Nat :=
  match call.handler with
  | .counter => (.returned .null, seen + 1)
  | .echo => (.returned call.message.payload, seen)

/-- Lets the drainer work until it rests; answers whether it did anything. -/
def drain (r : Run) : Bool × Run :=
  let (moved, received, bus) := r.bus.drain carryHandler r.now patience false r.received
  (moved, { r with bus, received })

/-- Sweeps what is due; answers whether anything was. -/
def sweep (r : Run) : Bool × Run :=
  let (callerMoved, r) :=
    if r.callerSweep.isDue r.now then
      let (_, caller, bus) := r.caller.sweep r.bus r.now
      (true, { r with caller, bus, callerSweep := r.callerSweep.after r.now })
    else (false, r)
  if r.hubSweep.isDue r.now then
    let (_, hub) := r.hub.cleanup r.now
    (true, { r with hub, hubSweep := r.hubSweep.after r.now })
  else (callerMoved, r)

/-! ## Time -/

/-- The next time at which something is due. -/
def nextDue (r : Run) (w : Waiting) : Nat :=
  let sweeps := min r.callerSweep.next r.hubSweep.next
  let wake := match w with
    | .calls left => (left.map Caller.wakesAt?).foldl earlier none
    | .rest wake _ => some wake
  match wake with
  | some t => min t sweeps
  | none => sweeps

/-- Lets everybody go, the waiting run first, and time pass when nobody has
    anything to do, at most `fuel` times. -/
def settle : Nat → Waiting → Run → Except Fault Run
  | 0, _, _ => .error .stuck
  | fuel + 1, w, r =>
    match r.attend w with
    | (.done, r) => .ok r
    | (.stuck, _) => .error .stuck
    | (.waiting w moved, r) =>
      let (drained, r) := r.drain
      let (swept, r) := r.sweep
      if moved || drained || swept then settle fuel w r
      else settle fuel w { r with now := r.nextDue w }

/-! ## The end -/

/-- Unloads plugins; answers how many subscriptions they left behind. -/
def unloadAll : List Manifest → Run → Except Fault (Nat × Run)
  | [], r => .ok (0, r)
  | m :: ms, r =>
    match r.registry.unload ⟨r.bus, some r.hub⟩ m.id with
    | (.error f, _, _) => .error (.plugin f)
    | (.ok n, registry, s) => do
      let (rest, r) ← unloadAll ms { r with registry, bus := s.bus, hub := s.hub.getD r.hub }
      return (n + rest, r)

end Run

/-- A soak run with the manifests read from a directory. -/
def runWith (s : Settings) (messages : Nat) (onDisk : List Manifest) : Except Fault Report := do
  let (crew, r) ← Run.begin s onDisk
  let (calls, r) ← r.load crew messages
  let r ← Run.settle patience (.calls calls) r
  let (unloaded, r) ← Run.unloadAll r.registry.loaded r
  return {
    messages
    manifestPlugins := onDisk.map (·.id)
    rejected := r.rejected
    received := r.received
    fannedOut := r.fannedOut
    calls := Run.callCount messages
    failedCalls := r.failedCalls
    denied := r.registry.denied
    unloaded
    elapsedMs := r.now
    bus := r.bus.statsJson
    hub := r.hub.statsJson
    caller := r.caller.statsJson r.now }

/-- A plugins directory: what it is called, and the files below it. -/
structure Directory where
  name : String
  files : Files
  path : List String := []
  deriving Repr

/-- A soak run. -/
def run (s : Settings) (messages : Nat) (plugins : Option Directory) : Except Fault Report :=
  match plugins with
  | none => runWith s messages []
  | some d =>
    match d.files.manifests d.path with
    | .ok onDisk => runWith s messages onDisk
    | .error _ => .error (.unreadable d.name)

end Switchboard.Soak
