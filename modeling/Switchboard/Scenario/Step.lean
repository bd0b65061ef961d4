import Switchboard.Caller
import Switchboard.Plugin.Manifest
import Switchboard.Scenario.Script

/-
  Steps — what a scenario does from outside.

  Each step is written as an object whose field `do` names it.  Steps act on the
  bus, the caller, the hub or the plugins, or let time pass; calls are steps
  that may have to wait.

  * `PlainStep`, `CallStep` and `Step` list the steps, `Step.ofJson` reads one.
-/

namespace Switchboard.Scenario

/-- How a handler comes to listen on the bus. -/
inductive ListenForm where
  | topic
  | pattern
  | responder
  | server
  deriving DecidableEq, Repr

/-- Where a message goes. -/
inductive Destination where
  | topic (name : String)
  /-- the reply address of the last message that a handler has seen -/
  | answerTo (label : String)
  deriving Repr

/-- A pending request that is asked about. -/
inductive Awaited where
  | correlation (id : String)
  /-- that of the last message that a handler has seen -/
  | seenBy (label : String)
  deriving Repr

/-- The shapes that a reply may be read as. -/
inductive ReplyShape where
  | integer
  | boolean
  | text
  | integers
  | point
  deriving DecidableEq, Repr

/-- Steps that may have to wait. -/
inductive CallStep where
  | request (topic : String) (payload : Json) (options : RequestOptions)
  | call (topic : String) (payload : Json) (options : CallOptions) (shape : Option ReplyShape)
  | pluginCall (context topic : String) (payload : Json) (options : CallOptions)
  | fanOut (topic : String) (payload : Json)
  deriving Repr

/-- Steps that are done at once. -/
inductive PlainStep where
  | listen (form : ListenForm) (name label : String) (outcomes : List Outcome)
      (metadata : Metadata)
  | unsubscribe (id : String)
  | unsubscribePlugin (plugin : String)
  | publish (destination : Destination) (payload : Json) (publication : Publication)
  | cancel (label : String)
  | sweep (ms : Nat)
  | shutdown
  | state
  | hasPending (who : Awaited)
  | busStats
  | busConfig
  | circuitState (topic : String)
  | resetCircuit (topic : String)
  | callerSweep
  | callerStats
  | callerConfig
  | callerShutdown
  | hubSubscribe (pattern label : String) (outcomes : List Outcome) (metadata : Metadata)
  | hubUnsubscribe (pattern id : String)
  | hubUnsubscribePlugin (plugin : String)
  | hubFind (topic : String)
  | hubCleanup
  | hubInvalidate
  | hubCacheSize
  | hubStats
  | hubConfig
  | hubShutdown
  | hubEvents
  /-- a manifest that cannot be read is missing -/
  | load (again : Bool) (manifest : Option Manifest) (label : Option String)
  | unload (id : String)
  | isLoaded (id : String)
  | loaded
  | denied
  | trust (label plugin : String)
  | restrict (label plugin : String) (permissions : Permissions)
  | pluginPublish (context topic : String) (payload : Json) (publication : Publication)
  | pluginListen (form : ListenForm) (context name label : String) (outcomes : List Outcome)
  | pluginUnsubscribe (context id : String)
  | pluginTracked (context : String)
  /-- moves the clock and lets nothing run -/
  | skip (ms : Nat)
  deriving Repr

inductive Step where
  | plain (step : PlainStep)
  | call (step : CallStep) (background : Bool) (label : String)
  | callerStart
  | hubStart
  | run
  | advance (ms : Nat)
  deriving Repr

/-! ## Reading a step -/

namespace Step

def milliseconds (fs : Fields) : Except Defect Nat := need fs "ms" (Json.word 64)

def listenOf (form : ListenForm) (key : String) (fs : Fields) : Except Defect Step := do
  let name ← need fs key Json.text
  let label ← need fs "as" Json.text
  let outcomes ← Outcome.listOfFields fs
  let metadata ← orElse fs "metadata" {} Metadata.ofJson
  return .plain <| .listen form name label outcomes metadata

def pluginListenOf (form : ListenForm) (key : String) (fs : Fields) : Except Defect Step := do
  let context ← need fs "plugin" Json.text
  let name ← need fs key Json.text
  let label ← need fs "as" Json.text
  let outcomes ← Outcome.listOfFields fs
  return .plain <| .pluginListen form context name label outcomes

def destination (fs : Fields) : Except Defect Destination := do
  match ← may fs "answer_to" Json.text with
  | some label => return .answerTo label
  | none => return .topic (← need fs "topic" Json.text)

def requestOptions (fs : Fields) : Except Defect RequestOptions := do
  let timeoutMs ← may fs "timeout_ms" (Json.word 64)
  let priority ← Scenario.priority fs
  let maxRetries ← count32 fs "max_retries"
  return { timeoutMs, priority, maxRetries }

def callOptions (fs : Fields) : Except Defect CallOptions := do
  let timeoutMs ← may fs "timeout_ms" (Json.word 64)
  let retries ← count32 fs "retries"
  let priority ← Scenario.priority fs
  return { timeoutMs, retries, priority }

def replyShapes : List (String × ReplyShape) :=
  [("i64", .integer), ("bool", .boolean), ("string", .text), ("list", .integers),
   ("point", .point)]

/-- Wraps a call in what says whether it waits in the background. -/
def callOf (fs : Fields) (step : CallStep) : Except Defect Step := do
  let label ← may fs "as" Json.text
  return .call step (isSet fs "bg") (label.getD "")

def requestOf (fs : Fields) : Except Defect Step := do
  let topic ← need fs "topic" Json.text
  callOf fs (.request topic (content fs "payload") (← requestOptions fs))

def callerCallOf (fs : Fields) : Except Defect Step := do
  let topic ← need fs "topic" Json.text
  let options ← callOptions fs
  let shape ← may fs "type" (Json.named replyShapes)
  callOf fs (.call topic (content fs "payload") options shape)

def pluginCallOf (fs : Fields) : Except Defect Step := do
  let context ← need fs "plugin" Json.text
  let topic ← need fs "topic" Json.text
  callOf fs (.pluginCall context topic (content fs "payload") (← callOptions fs))

def fanOutOf (fs : Fields) : Except Defect Step := do
  let topic ← need fs "topic" Json.text
  callOf fs (.fanOut topic (content fs "payload"))

def publishOf (fs : Fields) : Except Defect Step := do
  let destination ← destination fs
  return .plain <| .publish destination (content fs "payload") (← Publication.ofFields fs)

def pluginPublishOf (fs : Fields) : Except Defect Step := do
  let context ← need fs "plugin" Json.text
  let topic ← need fs "topic" Json.text
  return .plain <| .pluginPublish context topic (content fs "payload") (← Publication.ofFields fs)

def hubSubscribeOf (fs : Fields) : Except Defect Step := do
  let pattern ← need fs "pattern" Json.text
  let label ← need fs "as" Json.text
  let outcomes ← Outcome.listOfFields fs
  let metadata ← orElse fs "metadata" {} Metadata.ofJson
  return .plain <| .hubSubscribe pattern label outcomes metadata

def loadOf (again : Bool) (fs : Fields) : Except Defect Step := do
  let manifest ← need fs "manifest" .ok
  let label ← may fs "as" Json.text
  return .plain <| .load again (Manifest.ofJson manifest).toOption label

def hasPendingOf (fs : Fields) : Except Defect Step := do
  match ← may fs "of" Json.text with
  | some label => return .plain <| .hasPending (.seenBy label)
  | none => return .plain <| .hasPending (.correlation (← need fs "correlation_id" Json.text))

/-- The readers of the steps that act on the bus and are done at once. -/
def busReaders : List (String × (Fields → Except Defect Step)) :=
  [("sub", listenOf .topic "topic"),
   ("sub_pattern", listenOf .pattern "pattern"),
   ("rpc_handler", listenOf .responder "topic"),
   ("unsub", fun fs => return .plain <| .unsubscribe (← need fs "id" Json.text)),
   ("unsub_plugin", fun fs => return .plain <| .unsubscribePlugin (← need fs "plugin" Json.text)),
   ("publish", publishOf),
   ("sweep", fun fs => return .plain <| .sweep (← milliseconds fs)),
   ("shutdown", fun _ => .ok (.plain .shutdown)),
   ("state", fun _ => .ok (.plain .state)),
   ("has_pending", hasPendingOf),
   ("stats", fun _ => .ok (.plain .busStats)),
   ("bus_config", fun _ => .ok (.plain .busConfig))]

/-- The readers of the steps that make a call on the bus, or give calls up. -/
def requestReaders : List (String × (Fields → Except Defect Step)) :=
  [("request", requestOf),
   ("cancel", fun fs => return .plain <| .cancel (← need fs "as" Json.text))]

/-- The readers of the steps that concern the caller. -/
def callerReaders : List (String × (Fields → Except Defect Step)) :=
  [("rpc_serve", listenOf .server "topic"),
   ("rpc_request", callerCallOf),
   ("circuit_state", fun fs => return .plain <| .circuitState (← need fs "topic" Json.text)),
   ("reset_circuit", fun fs => return .plain <| .resetCircuit (← need fs "topic" Json.text)),
   ("rpc_sweep", fun _ => .ok (.plain .callerSweep)),
   ("rpc_stats", fun _ => .ok (.plain .callerStats)),
   ("rpc_config", fun _ => .ok (.plain .callerConfig)),
   ("rpc_start", fun _ => .ok .callerStart),
   ("rpc_shutdown", fun _ => .ok (.plain .callerShutdown))]

/-- The readers of the steps that concern the hub. -/
def hubReaders : List (String × (Fields → Except Defect Step)) :=
  [("pm_sub", hubSubscribeOf),
   ("pm_unsub", fun fs =>
     return .plain <| .hubUnsubscribe (← need fs "pattern" Json.text) (← need fs "id" Json.text)),
   ("pm_unsub_plugin", fun fs => return .plain <| .hubUnsubscribePlugin (← need fs "plugin" Json.text)),
   ("pm_find", fun fs => return .plain <| .hubFind (← need fs "topic" Json.text)),
   ("pm_publish", fanOutOf),
   ("pm_cleanup", fun _ => .ok (.plain .hubCleanup)),
   ("pm_invalidate", fun _ => .ok (.plain .hubInvalidate)),
   ("pm_cache_len", fun _ => .ok (.plain .hubCacheSize)),
   ("pm_stats", fun _ => .ok (.plain .hubStats)),
   ("pm_config", fun _ => .ok (.plain .hubConfig)),
   ("pm_start", fun _ => .ok .hubStart),
   ("pm_shutdown", fun _ => .ok (.plain .hubShutdown)),
   ("pm_events", fun _ => .ok (.plain .hubEvents))]

/-- The readers of the steps that concern plugins. -/
def pluginReaders : List (String × (Fields → Except Defect Step)) :=
  [("load", loadOf false),
   ("reload", loadOf true),
   ("unload", fun fs => return .plain <| .unload (← need fs "id" Json.text)),
   ("is_loaded", fun fs => return .plain <| .isLoaded (← need fs "id" Json.text)),
   ("loaded", fun _ => .ok (.plain .loaded)),
   ("denied", fun _ => .ok (.plain .denied)),
   ("plugin_bus", fun fs =>
     return .plain <| .trust (← need fs "as" Json.text) (← need fs "plugin" Json.text)),
   ("guarded", fun fs =>
     return .plain <| .restrict (← need fs "as" Json.text) (← need fs "plugin" Json.text)
       (← need fs "permissions" Permissions.ofJson)),
   ("p_publish", pluginPublishOf),
   ("p_sub", pluginListenOf .topic "topic"),
   ("p_sub_pattern", pluginListenOf .pattern "pattern"),
   ("p_serve", pluginListenOf .server "topic"),
   ("p_unsub", fun fs =>
     return .plain <| .pluginUnsubscribe (← need fs "plugin" Json.text) (← need fs "id" Json.text)),
   ("p_request", pluginCallOf),
   ("p_tracked", fun fs => return .plain <| .pluginTracked (← need fs "plugin" Json.text))]

/-- The readers of the steps that let time pass. -/
def timeReaders : List (String × (Fields → Except Defect Step)) :=
  [("run", fun _ => .ok .run),
   ("advance", fun fs => return .advance (← milliseconds fs)),
   ("skip", fun fs => return .plain <| .skip (← milliseconds fs))]

/-- Reads a step. -/
def ofJson (v : Json) : Except Defect Step := do
  let fs := fieldsOf v
  let name ← need fs "do" Json.text
  let readers := busReaders ++ requestReaders ++ callerReaders ++ hubReaders ++ pluginReaders ++
    timeReaders
  match readers.lookup name with
  | some read => read fs
  | none => .error ⟨"do"⟩

end Step

end Switchboard.Scenario
