import Switchboard.Bus.Request
import Switchboard.Caller
import Switchboard.Plugin.Permission

/-
  Guarded access — the part of the bus that a plugin is given.

  A plugin never meets the bus itself.  Each of its calls first passes a guard
  that compares it with the permissions of the plugin; what it subscribes is
  tagged with its name, and it can only remove what it has subscribed itself.

  * `Guard.check` is the decision about one call;
  * `PluginContext` with `publish`, `subscribe`, `subscribePattern`, `serve`,
    `unsubscribe` and `request` is what a plugin is given.
-/

namespace Switchboard

/-- Why a call of a plugin, or of the registry, has failed. -/
inductive PluginFault where
  | permissionDenied (plugin reason : String)
  | bus (fault : BusFault)
  | call (fault : CallFault)
  | alreadyLoaded (id : String)
  | notLoaded (id : String)
  deriving Repr

def PluginFault.message : PluginFault → String
  | .permissionDenied plugin reason =>
    "Permission denied for plugin '" ++ plugin ++ "': " ++ reason
  | .bus f => f.message
  | .call f => f.display
  | .alreadyLoaded id => "Plugin already loaded: " ++ id
  | .notLoaded id => "Plugin not loaded: " ++ id

/-! ## The guard -/

/-- The permissions of a plugin, its patterns read. -/
structure Guard where
  plugin : String
  capabilities : List Capability
  /-- none for every topic -/
  topics : List Pattern
  deriving DecidableEq, Repr

namespace Guard

/-- Reads the patterns of permissions. -/
def readTopics : List String → Except BusFault (List Pattern)
  | [] => .ok []
  | t :: r => do
    let p ← Address.pattern t
    let ps ← readTopics r
    .ok (p :: ps)

/-- The guard of a plugin with some permissions. -/
def ofPermissions (plugin : String) (p : Permissions) : Except BusFault Guard := do
  let topics ← readTopics p.topics
  return { plugin, capabilities := p.capabilities, topics }

/-- Why a call is denied, if it is.  A name that is no pattern passes here: the
    bus refuses it. -/
def refusal? (g : Guard) (c : Capability) (name : Option String) : Option String :=
  if !g.capabilities.contains c then some ("missing capability '" ++ c.label ++ "'")
  else match name with
    | none => none
    | some name =>
      if g.topics.isEmpty then none
      else match Pattern.parse name with
        | .error _ => none
        | .ok requested =>
          if g.topics.any (·.covers requested) then none
          else some ("topic '" ++ name ++ "' is not permitted")

end Guard

/-! ## What a plugin is given -/

/-- What the calls of plugins act upon. -/
structure Services (H : Type) where
  bus : Bus H
  caller : Caller
  /-- calls that were denied -/
  denied : Nat
  deriving Repr

/-- The access of one plugin. -/
structure PluginContext where
  plugin : String
  /-- missing for a plugin that is trusted -/
  guard : Option Guard
  /-- the subscriptions it has made and not removed -/
  owned : List String := []
  deriving DecidableEq, Repr

namespace PluginContext

variable {H : Type}

/-- Does something unless the guard denies it. -/
def guarded (x : PluginContext) (s : Services H) (c : Capability) (name : Option String)
    (act : Services H → Except PluginFault α × PluginContext × Services H) :
    Except PluginFault α × PluginContext × Services H :=
  match x.guard.bind (·.refusal? c name) with
  | some reason => (.error (.permissionDenied x.plugin reason), x, { s with denied := s.denied + 1 })
  | none => act s

/-- Takes over the outcome of a subscription: its id is owned now. -/
def own (x : PluginContext) (s : Services H) :
    Except BusFault String × Bus H → Except PluginFault String × PluginContext × Services H
  | (.ok id, bus) => (.ok id, { x with owned := x.owned ++ [id] }, { s with bus })
  | (.error f, bus) => (.error (.bus f), x, { s with bus })

def metadata (x : PluginContext) : Metadata := .ofPlugin x.plugin

def publish (x : PluginContext) (s : Services H) (now : Nat) (topic : String) (payload : Json)
    (o : PublishOptions) : Except PluginFault PublishOutcome × PluginContext × Services H :=
  x.guarded s .publish (some topic) fun s =>
    match s.bus.publish now topic payload o with
    | (.ok r, bus) => (.ok r, x, { s with bus })
    | (.error f, bus) => (.error (.bus f), x, { s with bus })

def subscribe (x : PluginContext) (s : Services H) (topic : String) (handler : H) :
    Except PluginFault String × PluginContext × Services H :=
  x.guarded s .subscribe (some topic) fun s =>
    x.own s (s.bus.subscribe topic (.subscriber handler) x.metadata)

def subscribePattern (x : PluginContext) (s : Services H) (pattern : String) (handler : H) :
    Except PluginFault String × PluginContext × Services H :=
  x.guarded s .subscribe (some pattern) fun s =>
    x.own s (s.bus.subscribePattern pattern (.subscriber handler) x.metadata)

/-- Answers the requests on a topic. -/
def serve (x : PluginContext) (s : Services H) (topic : String) (handler : H) :
    Except PluginFault String × PluginContext × Services H :=
  x.guarded s .serve (some topic) fun s =>
    x.own s (s.bus.subscribe topic (.responder handler) x.metadata)

/-- Removes a subscription of the plugin's own; answers whether it was live. -/
def unsubscribe (x : PluginContext) (s : Services H) (id : String) :
    Except PluginFault Bool × PluginContext × Services H :=
  x.guarded s .subscribe none fun s =>
    if x.owned.contains id then
      let (live, bus) := s.bus.unsubscribe id
      (.ok live, { x with owned := x.owned.filter (· ≠ id) }, { s with bus })
    else (.ok false, x, s)

/-- Calls a topic. -/
def request (x : PluginContext) (s : Services H) (now : Nat) (draws : Nat → Nat) (topic : String)
    (payload : Json) (o : CallOptions) :
    Except PluginFault Caller.CallProgress × PluginContext × Services H :=
  x.guarded s .call (some topic) fun s =>
    let (progress, caller, bus) := s.caller.place s.bus now draws topic payload o
    (.ok progress, x, { s with bus, caller })

end PluginContext

end Switchboard
