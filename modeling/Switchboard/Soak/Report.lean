import Switchboard.Json

/-
  The report of a soak run.
-/

namespace Switchboard.Soak

/-- What a run has counted. -/
structure Report where
  messages : Nat
  /-- the plugins whose manifests were read -/
  manifestPlugins : List String
  /-- readings that the bus or the guard refused -/
  rejected : Nat
  /-- messages that the monitor saw -/
  received : Nat
  /-- payloads that the hub handed over -/
  fannedOut : Nat
  calls : Nat
  failedCalls : Nat
  denied : Nat
  /-- subscriptions that the plugins left behind -/
  unloaded : Nat
  elapsedMs : Nat
  bus : Json
  hub : Json
  caller : Json
  deriving Repr

def Report.toJson (r : Report) : Json :=
  .obj
    [("messages", .nat r.messages), ("manifest_plugins", .arr (r.manifestPlugins.map .str)),
     ("publish_rejected", .nat r.rejected), ("received", .nat r.received),
     ("pattern_deliveries", .nat r.fannedOut), ("rpc_calls", .nat r.calls),
     ("rpc_failures", .nat r.failedCalls), ("permission_denied", .nat r.denied),
     ("unloaded_subscriptions", .nat r.unloaded), ("elapsed_ms", .nat r.elapsedMs),
     ("bus", r.bus), ("patterns", r.hub), ("rpc", r.caller)]

end Switchboard.Soak
