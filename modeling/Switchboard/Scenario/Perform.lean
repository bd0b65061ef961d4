import Switchboard.Scenario.World

/-
  Plain steps — those that are done at once.

  `World.perform` does a step that neither waits nor lets anything else run, and
  answers it.
-/

namespace Switchboard.Scenario.World

/-! ## The bus -/

def listen (w : World) (form : ListenForm) (topic label : String) (outcomes : List Outcome)
    (metadata : Metadata) : Json × World :=
  let role : Role := match form with
    | .responder => .responder
    | .server => .server
    | _ => .subscriber
  let (s, w) := w.script label role outcomes
  let (result, bus) := match form with
    | .pattern => w.bus.subscribePattern topic (.subscriber s) metadata
    | .topic => w.bus.subscribe topic (.subscriber s) metadata
    | _ => w.bus.subscribe topic (.responder s) metadata
  let w := { w with bus }
  match result with
  | .ok id => (Answer.ok (.str label), w.name label id)
  | .error f => (Answer.ofBusFault f, w)

/-- Where a message goes, and with which correlation id. -/
def address (w : World) (d : Destination) (o : PublishOptions) : String × PublishOptions :=
  match d with
  | .topic t => (t, o)
  | .answerTo label =>
    match w.seen.get? label with
    | some m => (m.replyTo.getD "", { o with correlation := o.correlation.or m.correlation })
    | none => ("", o)

def publish (w : World) (topic : String) (payload : Json) (o : PublishOptions) : Json × World :=
  let (result, bus) := w.bus.publish w.now topic payload o
  (Answer.either Answer.ofBusFault Answer.ofOutcome result, { w with bus })

def busState (w : World) : Json :=
  .obj
    [("idle", .bool w.bus.isIdle), ("closed", .bool w.bus.closed),
     ("pending", .nat w.bus.pendingCount), ("subscriptions", .nat w.bus.subscriptionCount),
     ("debug", .str w.bus.summary)]

def hasPending (w : World) : Awaited → Bool
  | .correlation id => w.bus.hasPending id
  | .seenBy label =>
    match (w.seen.get? label).bind (·.correlation) with
    | some id => w.bus.hasPending id
    | none => false

/-- Gives up the call of a flight. -/
def drop (w : World) (f : Flight) : World :=
  match f.activity with
  | .request t => { w with bus := w.bus.close t.correlation }
  | .call c _ =>
    let (caller, bus) := w.caller.abandon w.bus c
    { w with caller, bus }
  | .fanOut .. => w

def cancel (w : World) (label : String) : Json × World :=
  let (gone, kept) := w.flights.partition (·.label = label)
  (.nat gone.length, gone.foldl drop { w with flights := kept })

/-! ## The hub -/

def hubListen (w : World) (pattern label : String) (outcomes : List Outcome)
    (metadata : Metadata) : Json × World :=
  let (s, w) := w.script label .subscriber outcomes
  let (result, hub) := w.hub.subscribe pattern s metadata
  let w := { w with hub }
  match result with
  | .ok id => (Answer.ok (.str label), w.name label id)
  | .error f => (Answer.ofBusFault f, w)

def showSubscription (w : World) (s : Subscription H) : Json :=
  .arr [.str (w.labelOf s.id), .str s.pattern.text]

/-- An event with the label of the subscription in the place of its id. -/
def labelEvent (w : World) : HubEvent → HubEvent
  | .subscribed id p => .subscribed (w.labelOf id) p
  | .unsubscribed id p => .unsubscribed (w.labelOf id) p
  | e => e

/-- Whether an event comes before another one among removals: by pattern, then
    by label. -/
def removalBefore : HubEvent → HubEvent → Bool
  | .unsubscribed i p, .unsubscribed j q => p < q || (p == q && i ≤ j)
  | _, _ => true

def isRemoval : HubEvent → Bool
  | .unsubscribed .. => true
  | _ => false

/-- Sorts every run of removals in a list of events; `held` is the run before
    it. -/
def sortRemovals (held : List HubEvent) : List HubEvent → List HubEvent
  | [] => held.mergeSort removalBefore
  | e :: r =>
    if isRemoval e then sortRemovals (held ++ [e]) r
    else held.mergeSort removalBefore ++ e :: sortRemovals [] r

def hubEvents (w : World) : Json × World :=
  let batch := w.hub.events.readFrom w.eventsRead
  let events := sortRemovals [] (batch.events.map w.labelEvent)
  let lagged : List Json :=
    if batch.missed = 0 then []
    else [.obj [("type", .str "lagged"), ("missed", .nat batch.missed)]]
  (.arr (lagged ++ events.map (·.toJson)), { w with eventsRead := w.hub.events.length })

/-! ## Plugins -/

def load (w : World) (again : Bool) (manifest : Option Manifest) (label : Option String) :
    Json × World :=
  match manifest with
  | none => (.obj [("error", .str "BadManifest")], w)
  | some m =>
    let (result, w) :=
      if again then
        let (result, registry, stores) := w.registry.reload w.stores m
        (result, { w with registry }.putStores stores)
      else
        let (result, registry) := w.registry.load m
        (result, { w with registry })
    match result with
    | .ok context =>
      (.obj [("id", .str m.id), ("manifest", m.toJson)],
        { w with contexts := w.contexts.put (label.getD m.id) ⟨context, true⟩ })
    | .error f => (Answer.ofPluginFault f, w)

def unload (w : World) (id : String) : Json × World :=
  let (result, registry, stores) := w.registry.unload w.stores id
  (Answer.either Answer.ofPluginFault (fun n => Answer.ok (.nat n)) result,
    { w with registry }.putStores stores)

def restrict (w : World) (label plugin : String) (p : Permissions) : Json × World :=
  match Guard.ofPermissions plugin p with
  | .ok guard =>
    (.null, { w with contexts := w.contexts.put label ⟨{ plugin, guard := some guard }, false⟩ })
  | .error f => (Answer.ofBusFault f, w)

/-- Does something with the context of a label, if there is one. -/
def withContext (w : World) (label : String) (act : HeldContext → Json × World) : Json × World :=
  match w.contexts.get? label with
  | some held => act held
  | none => (.obj [("error", .str "NoContext")], w)

def pluginPublish (w : World) (context topic : String) (payload : Json) (o : PublishOptions) :
    Json × World :=
  w.withContext context fun held =>
    let (result, x, s) := held.context.publish (w.services held) w.now topic payload o
    (Answer.either Answer.ofPluginFault Answer.ofOutcome result, w.takeBack context held x s)

def pluginListen (w : World) (form : ListenForm) (context topic label : String)
    (outcomes : List Outcome) : Json × World :=
  w.withContext context fun held =>
    let role : Role := if form = .server then .server else .subscriber
    let (script, w) := w.script label role outcomes
    let services := w.services held
    let (result, x, s) := match form with
      | .server => held.context.serve services topic script
      | .pattern => held.context.subscribePattern services topic script
      | _ => held.context.subscribe services topic script
    let w := w.takeBack context held x s
    match result with
    | .ok id => (Answer.ok (.str label), w.name label id)
    | .error f => (Answer.ofPluginFault f, w)

def pluginUnsubscribe (w : World) (context id : String) : Json × World :=
  w.withContext context fun held =>
    let (result, x, s) := held.context.unsubscribe (w.services held) (w.idOf id)
    (Answer.either Answer.ofPluginFault .bool result, w.takeBack context held x s)

def tracked (held : HeldContext) : Json :=
  if held.registered then .null
  else .arr [.str held.context.plugin, .nat held.context.owned.length]

/-! ## All plain steps -/

/-- Does a plain step and answers it. -/
def perform (w : World) : PlainStep → Json × World
  | .listen form topic label outcomes metadata => w.listen form topic label outcomes metadata
  | .unsubscribe id =>
    let (live, bus) := w.bus.unsubscribe (w.idOf id)
    (.bool live, { w with bus })
  | .unsubscribePlugin plugin =>
    let (n, bus) := w.bus.unsubscribePlugin plugin
    (.nat n, { w with bus })
  | .publish destination payload publication =>
    let (topic, o) := w.address destination (publication.toOptions w.now)
    w.publish topic payload o
  | .cancel label => w.cancel label
  | .sweep ms =>
    let (n, bus) := w.bus.sweepStale w.now ms
    (.nat n, { w with bus })
  | .shutdown =>
    let w := { w with bus := w.bus.shutdown }
    (.bool w.bus.closed, w)
  | .state => (w.busState, w)
  | .hasPending who => (.bool (w.hasPending who), w)
  | .busStats => (w.bus.statsJson, w)
  | .busConfig => (w.bus.config.toJson, w)
  | .circuitState topic => (.str (w.caller.circuits.state topic).label, w)
  | .resetCircuit topic =>
    let (known, circuits) := w.caller.circuits.reset topic
    (.bool known, { w with caller := { w.caller with circuits } })
  | .callerSweep =>
    let (n, caller, bus) := w.caller.sweep w.bus w.now
    (.nat n, { w with caller, bus })
  | .callerStats => (w.caller.statsJson w.now, w)
  | .callerConfig => (w.caller.config.toJson, w)
  | .callerShutdown => (.null, { w with callerSweep := none })
  | .hubSubscribe pattern label outcomes metadata => w.hubListen pattern label outcomes metadata
  | .hubUnsubscribe pattern id =>
    let (found, hub) := w.hub.unsubscribe pattern (w.idOf id)
    (.bool found, { w with hub })
  | .hubUnsubscribePlugin plugin =>
    let (n, hub) := w.hub.unsubscribePlugin plugin
    (.nat n, { w with hub })
  | .hubFind topic =>
    let ((found, hit), hub) := w.hub.find w.now topic
    (.obj [("subs", .arr (found.map w.showSubscription)), ("hit", .bool hit)], { w with hub })
  | .hubCleanup =>
    let (n, hub) := w.hub.cleanup w.now
    (.nat n, { w with hub })
  | .hubInvalidate => (.null, { w with hub := w.hub.invalidate })
  | .hubCacheSize => (.nat w.hub.cache.size, w)
  | .hubStats => (w.hub.statsJson, w)
  | .hubConfig => (w.hub.config.toJson, w)
  | .hubShutdown => (.null, { w with hub := w.hub.shutdown, hubSweep := none })
  | .hubEvents => w.hubEvents
  | .load again manifest label => w.load again manifest label
  | .unload id => w.unload id
  | .isLoaded id => (.bool (w.registry.isLoaded id), w)
  | .loaded =>
    (.arr (w.registry.loaded.map fun m => .arr [.str m.id, .str m.name, .str m.version]), w)
  | .denied => (.arr [.nat w.registry.denied, .nat w.deniedOutside], w)
  | .trust label plugin =>
    (.null, { w with contexts := w.contexts.put label ⟨{ plugin, guard := none }, false⟩ })
  | .restrict label plugin permissions => w.restrict label plugin permissions
  | .pluginPublish context topic payload publication =>
    w.pluginPublish context topic payload (publication.toOptions w.now)
  | .pluginListen form context topic label outcomes =>
    w.pluginListen form context topic label outcomes
  | .pluginUnsubscribe context id => w.pluginUnsubscribe context id
  | .pluginTracked context => w.withContext context fun held => (tracked held, w)
  | .skip ms =>
    let w := { w with now := w.now + ms }
    (.nat w.now, w)

end Switchboard.Scenario.World
